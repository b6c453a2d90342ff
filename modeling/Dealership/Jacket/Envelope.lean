import Dealership.Jacket.Refinement

/-!
# The checklist and the envelope

The checklist belongs to the jacket, the documents to one version of its package.
Assembling a version points every item met by a template at a document of that
version, or writes no document at all; so in front of a package that stands, a
ticked item names a document in that package.  A package passes the gate of
`markReviewReady` with nothing required missing, and items only move forward.
-/

namespace Dealership.Jacket

open Library List

variable {configuration : ResolvedConfiguration} {rs : List (RenderedDocument × PackageDocument)}
  {reason : Option String} {db : Cabinet}

/-- The states behind the gate of `markReviewReady`, of a package that stands. -/
def PackageState.cleared : PackageState → Bool
  | .review_ready | .sent | .partially_signed | .signed_complete => true
  | .draft | .voided | .expired | .superseded => false

/-- The row an item was opened as: nobody has met it or waived it. -/
def ChecklistItem.asked (i : ChecklistItem) : ChecklistItem :=
  { i with
    state := .missing
    satisfied_document_id := none
    evidence_uri := none
    evidence_sha256 := none
    waived_by_user_link_id := none
    waiver_reason := none
    waiver_policy_version := none
    waiver_evidence_uri := none
    waived_at := none
    authorization_version := 1 }

/-- An item at a later time: asked the same, never missing again, and waived for good. -/
structure ChecklistItem.Advances (i i' : ChecklistItem) : Prop where
  asked : i'.asked = i.asked
  missing : i'.state = .missing → i.state = .missing
  waived : i.state = .waived → i'.state = .waived

/-- Every item is still there, and none went back. -/
def Advance (before after : List ChecklistItem) : Prop :=
  ∀ i ∈ before, ∃ i' ∈ after, i.Advances i'

/-- What holds of the checklists and the packages of a dealership. -/
structure Enveloped (db : Cabinet) : Prop where
  met : ∀ p ∈ db.jacket_packages, p.state.cleared = true →
    ∀ i ∈ db.jacket_checklist_items, i.jacket_id = p.jacket_id → i.required = true →
      i.state = .satisfied ∨ i.state = .waived
  inside : ∀ p ∈ db.jacket_packages, p.state.standing = true →
    ∀ i ∈ db.jacket_checklist_items, i.jacket_id = p.jacket_id → i.satisfied_by = .template →
      i.state = .satisfied →
      ∃ d ∈ db.package_documents, i.satisfied_document_id = some d.document_id ∧
        d.package_id = p.package_id
  waivable : ∀ i ∈ db.jacket_checklist_items, i.state = .waived → i.waivable = true
  /-- An item met by a template names the template. -/
  coded : ∀ i ∈ db.jacket_checklist_items, i.satisfied_by = .template → i.state = .satisfied →
    i.template_code.isSome = true
  documents : (db.package_documents.map (·.document_id)).Nodup

theorem Enveloped.empty : Enveloped Cabinet.empty where
  met := fun _ hp => absurd hp not_mem_nil
  inside := fun _ hp => absurd hp not_mem_nil
  waivable := fun _ hi => absurd hi not_mem_nil
  coded := fun _ hi => absurd hi not_mem_nil
  documents := nodup_nil

/-! ## Items move forward -/

theorem ChecklistItem.Advances.refl (i : ChecklistItem) : i.Advances i := ⟨rfl, id, id⟩

theorem ChecklistItem.Advances.trans {i j k : ChecklistItem} (hij : i.Advances j)
    (hjk : j.Advances k) : i.Advances k where
  asked := hjk.asked.trans hij.asked
  missing := fun h => hij.missing (hjk.missing h)
  waived := fun h => hjk.waived (hij.waived h)

namespace Advance

theorem refl (items : List ChecklistItem) : Advance items items :=
  fun i hi => ⟨i, hi, .refl i⟩

theorem trans {as bs cs : List ChecklistItem} (hab : Advance as bs) (hbc : Advance bs cs) :
    Advance as cs := by
  intro i hi
  obtain ⟨j, hj, hij⟩ := hab i hi
  obtain ⟨k, hk, hjk⟩ := hbc j hj
  exact ⟨k, hk, hij.trans hjk⟩

theorem append (items new : List ChecklistItem) : Advance items (items ++ new) :=
  fun i hi => ⟨i, mem_append_left new hi, .refl i⟩

theorem updateWhere {items : List ChecklistItem} {hit : ChecklistItem → Prop} [DecidablePred hit]
    {f : ChecklistItem → ChecklistItem} (h : ∀ i ∈ items, hit i → i.Advances (f i)) :
    Advance items (updateWhere hit f items) := by
  intro i hi
  by_cases hh : hit i
  · exact ⟨f i, mem_updateWhere_of_pos hi hh, h i hi hh⟩
  · exact ⟨i, mem_updateWhere_of_neg hi hh, .refl i⟩

end Advance

/-! ## What a call carries over -/

/-- The law survives, and no item goes back. -/
structure Carries (db db' : Cabinet) : Prop where
  holds : Enveloped db → Enveloped db'
  advance : Advance db.jacket_checklist_items db'.jacket_checklist_items

theorem Carries.refl (db : Cabinet) : Carries db db := ⟨id, .refl _⟩

theorem standing_of_cleared {s : PackageState} (h : s.cleared = true) : s.standing = true := by
  cases s <;> first | rfl | exact absurd h Bool.false_ne_true

/-- A package that stands afterwards stood before, and passed the gate before if it
has passed it now. -/
def Remain (before after : List Package) : Prop :=
  ∀ p' ∈ after, p'.state.standing = true → ∃ p ∈ before, p.key = p'.key ∧
    p.state.standing = true ∧ (p'.state.cleared = true → p.state.cleared = true)

theorem Remain.refl (ps : List Package) : Remain ps ps :=
  fun p hp hst => ⟨p, hp, rfl, hst, id⟩

theorem Remain.trans {as bs cs : List Package} (hab : Remain as bs) (hbc : Remain bs cs) :
    Remain as cs := by
  intro p hp hst
  obtain ⟨q, hq, hkey, hst', hclear⟩ := hbc p hp hst
  obtain ⟨r, hr, hkey', hst'', hclear'⟩ := hab q hq hst'
  exact ⟨r, hr, hkey'.trans hkey, hst'', fun h => hclear' (hclear h)⟩

theorem Remain.updateWhere {ps : List Package} {hit : Package → Prop} [DecidablePred hit]
    {f : Package → Package} (hkey : ∀ p, (f p).key = p.key)
    (h : ∀ p ∈ ps, hit p → (f p).state.standing = true →
      p.state.standing = true ∧ ((f p).state.cleared = true → p.state.cleared = true)) :
    Remain ps (updateWhere hit f ps) := by
  intro p' hp' hst
  rcases updateWhere_cases hp' with ⟨hp, -⟩ | ⟨p, hp, hh, rfl⟩
  · exact ⟨p', hp, rfl, hst, id⟩
  · exact ⟨p, hp, (hkey p).symm, h p hp hh hst⟩

theorem Remain.setAside {ps : List Package} {hit : Package → Prop} [DecidablePred hit]
    {target : PackageState} (htarget : target.standing = false) (reason : Option String) :
    Remain ps (Library.updateWhere hit (Package.moved target reason) ps) := by
  refine .updateWhere (fun _ => rfl) fun p _ _ hst => ?_
  exact absurd (htarget.symm.trans hst) Bool.false_ne_true

/-- The checklists and the documents as they were, and no package let through the gate. -/
structure Quiet (db db' : Cabinet) : Prop where
  items : db'.jacket_checklist_items = db.jacket_checklist_items
  documents : db'.package_documents = db.package_documents
  packages : Remain db.jacket_packages db'.jacket_packages

namespace Quiet

variable {db db' db'' : Cabinet}

theorem refl (db : Cabinet) : Quiet db db := ⟨rfl, rfl, .refl _⟩

theorem trans (h : Quiet db db') (h' : Quiet db' db'') : Quiet db db'' where
  items := h'.items.trans h.items
  documents := h'.documents.trans h.documents
  packages := h.packages.trans h'.packages

theorem carries (h : Quiet db db') : Carries db db' where
  holds := by
    intro hdb
    constructor
    case met =>
      intro p' hp' hclear i hi hj hreq
      rw [h.items] at hi
      obtain ⟨p, hp, hkey, -, hcleared⟩ := h.packages p' hp' (standing_of_cleared hclear)
      exact hdb.met p hp (hcleared hclear) i hi (hj.trans (congrArg Prod.snd hkey).symm) hreq
    case inside =>
      intro p' hp' hst i hi hj hby hsat
      rw [h.items] at hi
      obtain ⟨p, hp, hkey, hst', -⟩ := h.packages p' hp' hst
      obtain ⟨d, hd, hid, hpkg⟩ :=
        hdb.inside p hp hst' i hi (hj.trans (congrArg Prod.snd hkey).symm) hby hsat
      rw [h.documents]
      exact ⟨d, hd, hid, hpkg.trans (congrArg Prod.fst hkey)⟩
    case waivable =>
      rw [h.items]
      exact hdb.waivable
    case coded =>
      rw [h.items]
      exact hdb.coded
    case documents =>
      rw [h.documents]
      exact hdb.documents
  advance := by
    rw [h.items]
    exact .refl _

end Quiet

theorem Enveloped.items {db' : Cabinet} (h : Enveloped db)
    (hpackages : db'.jacket_packages = db.jacket_packages)
    (hdocuments : db'.package_documents = db.package_documents)
    (hitems : ∀ i ∈ db'.jacket_checklist_items, i ∈ db.jacket_checklist_items ∨
      i.state = .satisfied ∧ i.satisfied_by = .evidence ∨
      i.state = .waived ∧ i.waivable = true ∨
      i.state = .missing ∧ ∀ p ∈ db.jacket_packages, p.jacket_id ≠ i.jacket_id) :
    Enveloped db' where
  met := by
    intro p hp hclear i hi hj hreq
    rw [hpackages] at hp
    rcases hitems i hi with hi | ⟨hsat, -⟩ | ⟨hw, -⟩ | ⟨-, hother⟩
    · exact h.met p hp hclear i hi hj hreq
    · exact .inl hsat
    · exact .inr hw
    · exact absurd hj.symm (hother p hp)
  inside := by
    intro p hp hst i hi hj hby hsat
    rw [hpackages] at hp
    rw [hdocuments]
    rcases hitems i hi with hi | ⟨-, hev⟩ | ⟨hw, -⟩ | ⟨hm, -⟩
    · exact h.inside p hp hst i hi hj hby hsat
    · cases hby.symm.trans hev
    · cases hsat.symm.trans hw
    · cases hsat.symm.trans hm
  waivable := by
    intro i hi hwaived
    rcases hitems i hi with hi | ⟨hsat, -⟩ | ⟨-, hw⟩ | ⟨hm, -⟩
    · exact h.waivable i hi hwaived
    · cases hwaived.symm.trans hsat
    · exact hw
    · cases hwaived.symm.trans hm
  coded := by
    intro i hi hby hsat
    rcases hitems i hi with hi | ⟨-, hev⟩ | ⟨hw, -⟩ | ⟨hm, -⟩
    · exact h.coded i hi hby hsat
    · cases hby.symm.trans hev
    · cases hsat.symm.trans hw
    · cases hsat.symm.trans hm
  documents := by
    rw [hdocuments]
    exact h.documents

/-! ## Opening, evidence and waivers -/

theorem resolveChecklist_items {w : JacketWorld} {jacket : DealJacket} {instant : Int}
    {db' : Cabinet} (h : resolveChecklist w jacket instant db = .ok db') :
    ∃ new, db' = { db with jacket_checklist_items := db.jacket_checklist_items ++ new } ∧
      ∀ i ∈ new, i.state = .missing ∧ i.jacket_id = jacket.jacket_id := by
  refine foldlM_invariant (I := fun d => ∃ new,
    d = { db with jacket_checklist_items := db.jacket_checklist_items ++ new } ∧
      ∀ i ∈ new, i.state = .missing ∧ i.jacket_id = jacket.jacket_id) ?_
    ⟨[], by rw [append_nil], fun _ hi => absurd hi not_mem_nil⟩ h
  rintro _ r - d' ⟨new, rfl, hnew⟩ hstep
  rw [insertItem] at hstep
  split at hstep
  · cases hstep
    exact ⟨new, rfl, hnew⟩
  obtain ⟨_, _, hstep⟩ := bind_eq_ok.mp hstep
  cases hstep
  refine ⟨new ++ [r.1.item jacket.jacket_id (w.newItemId r.2)], by rw [append_assoc], ?_⟩
  intro i hi
  rcases mem_inserted hi with hi | rfl
  · exact hnew i hi
  · exact ⟨rfl, rfl⟩

theorem of_satisfyRefusal_eq_none {input : SatisfyInput} {item : ChecklistItem}
    (h : input.refusal item = none) : item.satisfied_by = .evidence ∧ item.state ≠ .waived := by
  rw [SatisfyInput.refusal] at h
  split at h
  · cases h
  rename_i hby
  split at h
  · cases h
  split at h
  · cases h
  · rename_i hwaived
    exact ⟨not_not.mp hby, hwaived⟩

theorem waivable_of_refusal_eq_none {input : WaiveInput} {item : ChecklistItem}
    (h : input.refusal item = none) : item.waivable = true := by
  rw [WaiveInput.refusal] at h
  split at h
  · cases h
  split at h
  · cases h
  · rename_i hwaivable
    exact not_not.mp hwaivable

section Commands

variable {db db' : Cabinet} {w : JacketWorld}

theorem openJacketWithin_carries (hdb : Coherent db) {actor caseId : String}
    {out : OpenJacketOutcome} (h : openJacketWithin w db actor caseId = .ok (out, db')) :
    Carries db db' := by
  rcases openJacketWithin_eq_ok h with ⟨rfl, -⟩ | ⟨_, _, _, -, -, -, hfresh, hresolve⟩
  · exact .refl _
  · obtain ⟨new, rfl, hnew⟩ := resolveChecklist_items hresolve
    refine ⟨fun hlaw => hlaw.items rfl rfl fun i hi => ?_, .append _ _⟩
    rcases mem_append.mp hi with hi | hi
    · exact .inl hi
    · refine .inr (.inr (.inr ⟨(hnew i hi).1, fun p hp hj => ?_⟩))
      -- the jacket of a package is older than this one
      obtain ⟨j, hjm, hid⟩ := hdb.keyed.exists_jacket hp
      exact hfresh j hjm (hid.trans (hj.trans (hnew i hi).2))

theorem satisfyWithEvidence_carries (hdb : Coherent db) {input : SatisfyInput}
    {out : ChecklistOutcome} (h : satisfyWithEvidence w db input = .ok (out, db')) :
    Carries db db' := by
  rcases satisfyWithEvidence_eq_ok h with rfl | ⟨item, hmem, hrefusal, rfl⟩
  · exact .refl _
  · have hby := of_satisfyRefusal_eq_none hrefusal
    have hone : ∀ i ∈ db.jacket_checklist_items, decide (i.item_id = item.item_id) = true →
        i = item := fun i hi hh => eq_of_key hdb.items hi hmem (of_decide_eq_true hh)
    refine ⟨fun hlaw => hlaw.items rfl rfl fun i hi => ?_, .updateWhere fun i hi hh => ?_⟩
    · rcases updateWhere_cases hi with ⟨hi, -⟩ | ⟨r, hr, hh, rfl⟩
      · exact .inl hi
      · refine .inr (.inl ⟨rfl, ?_⟩)
        rw [hone r hr hh]
        exact hby.1
    · rw [hone i hi hh]
      exact ⟨rfl, ChecklistState.noConfusion, fun hw => absurd hw hby.2⟩

theorem waiveRequirement_carries (hdb : Coherent db) {input : WaiveInput} {out : ChecklistOutcome}
    (h : waiveRequirement w db input = .ok (out, db')) : Carries db db' := by
  rcases waiveRequirement_eq_ok h with rfl | ⟨_, item, hmem, ⟨_, _, -, -, -, -, hrefusal⟩, rfl⟩
  · exact .refl _
  · refine ⟨fun hlaw => hlaw.items rfl rfl fun i hi => ?_, .updateWhere fun i _ _ => ?_⟩
    · rcases updateWhere_cases hi with ⟨hi, -⟩ | ⟨r, hr, hh, rfl⟩
      · exact .inl hi
      · refine .inr (.inr (.inl ⟨rfl, ?_⟩))
        rw [eq_of_key hdb.items hr hmem (of_decide_eq_true hh)]
        exact (waivable_of_refusal_eq_none hrefusal :)
    · exact ⟨rfl, ChecklistState.noConfusion, fun _ => rfl⟩

end Commands

/-! ## Assembly -/

/-- The item a rendered document is for, when it is not waived. -/
def RenderedDocument.Targets (r : RenderedDocument) (i : ChecklistItem) : Prop :=
  i.jacket_id = r.plan.item.jacket_id ∧ i.item_id = r.plan.item.item_id ∧ i.state ≠ .waived

def PointedBy (rs : List (RenderedDocument × PackageDocument)) (i i' : ChecklistItem) : Prop :=
  i'.asked = i.asked ∧ i'.state = .satisfied ∧
    ∃ r ∈ rs, r.1.Targets i ∧ i'.satisfied_document_id = some r.2.document_id

theorem of_mem_planned {items : List ChecklistItem} {p : PlannedDocument}
    (h : p ∈ (planDocuments items configuration).planned) :
    p.item ∈ items ∧ p.item.template_code.isSome = true := by
  rw [planDocuments, mem_filterMap] at h
  obtain ⟨r, hr, hp⟩ := h
  obtain ⟨i, hi, hplan⟩ := mem_filterMap.mp hr
  rw [planItem] at hplan
  split at hplan
  · rename_i code _ hcode
    split at hplan
    · cases hplan
    split at hplan
    · cases hplan
      cases hp
    split at hplan
    · cases hplan
      cases hp
    cases hplan
    cases hp
    exact ⟨hi, hcode ▸ rfl⟩
  · cases hplan

theorem exists_planned {items : List ChecklistItem}
    (hfailures : (planDocuments items configuration).failures = []) {i : ChecklistItem}
    (hi : i ∈ items) (hby : i.satisfied_by = .template) (hcode : i.template_code.isSome = true)
    (hwaived : i.state ≠ .waived) :
    ∃ p ∈ (planDocuments items configuration).planned, p.item = i := by
  obtain ⟨code, hcode⟩ := Option.isSome_iff_exists.mp hcode
  have hfails : ∀ f, planItem configuration i ≠ some (.error f) := by
    intro f hf
    have hmem : f ∈ (planDocuments items configuration).failures := by
      rw [planDocuments]
      exact mem_filterMap.mpr ⟨.error f, mem_filterMap.mpr ⟨i, hi, hf⟩, rfl⟩
    rw [hfailures] at hmem
    exact not_mem_nil hmem
  have hplanned : ∃ template, planItem configuration i = some (.ok ⟨i, template⟩) := by
    rw [planItem, hby, hcode] at hfails ⊢
    dsimp only at hfails ⊢
    rw [if_neg hwaived] at hfails ⊢
    split at hfails
    · exact absurd rfl (hfails _)
    rename_i template _
    split at hfails
    · exact absurd rfl (hfails _)
    · rename_i hlive
      exact ⟨template, if_neg hlive⟩
  obtain ⟨template, htemplate⟩ := hplanned
  refine ⟨⟨i, template⟩, ?_, rfl⟩
  rw [planDocuments]
  exact mem_filterMap.mpr ⟨.ok ⟨i, template⟩, mem_filterMap.mpr ⟨i, hi, htemplate⟩, rfl⟩

namespace Assembly

variable {a : Assembly}

theorem renderFailures_eq_nil (h : ¬ a.failed = true) : a.renderFailures = [] := by
  rw [failed, Bool.not_eq_true, Bool.not_eq_false'] at h
  exact List.isEmpty_iff.mp h

theorem failures_eq_nil (h : ¬ a.failed = true) : a.plan.failures = [] :=
  (append_eq_nil_iff.mp (renderFailures_eq_nil h)).1

theorem exists_rendered (h : ¬ a.failed = true) {p : PlannedDocument} (hp : p ∈ a.plan.planned) :
    ∃ r ∈ a.rendered, r.plan = p := by
  have hnone := (append_eq_nil_iff.mp (renderFailures_eq_nil h)).2
  cases hr : p.render a.fields a.versionNo with
  | error f =>
    have hfailure := filterMap_eq_nil_iff.mp hnone p hp
    rw [hr] at hfailure
    cases hfailure
  | ok r =>
    refine ⟨r, mem_filterMap.mpr ⟨p, hp, by rw [hr]; rfl⟩, ?_⟩
    rw [PlannedDocument.render] at hr
    split at hr <;> cases hr
    rfl

theorem plan_mem_of_mem_rendered {r : RenderedDocument} (h : r ∈ a.rendered) :
    r.plan ∈ a.plan.planned := by
  obtain ⟨p, hp, hr⟩ := mem_filterMap.mp h
  rw [PlannedDocument.render] at hr
  split at hr <;> cases hr
  exact hp

end Assembly

section Store

variable {db db' : Cabinet} {predecessor : Option Package} {p : Package}

theorem storeDocuments_items (h : rs.foldlM storeDocument db = .ok db') :
    ∀ i' ∈ db'.jacket_checklist_items, ∃ i ∈ db.jacket_checklist_items,
      (i' = i ∧ ∀ r ∈ rs, ¬ r.1.Targets i) ∨ PointedBy rs i i' := by
  induction rs generalizing db with
  | nil =>
    cases h
    exact fun i hi => ⟨i, hi, .inl ⟨rfl, fun _ hr => absurd hr not_mem_nil⟩⟩
  | cons r rs ih =>
    rw [foldlM_cons] at h
    obtain ⟨d, hd, h⟩ := bind_eq_ok.mp h
    obtain ⟨_, _, hd⟩ := bind_eq_ok.mp hd
    cases hd
    intro i' hi'
    obtain ⟨j, hj, hcase⟩ := ih h i' hi'
    have hhit : ∀ i : ChecklistItem, (decide (i.jacket_id = r.1.plan.item.jacket_id) &&
        decide (i.item_id = r.1.plan.item.item_id) && decide (i.state ≠ .waived)) = true ↔
        r.1.Targets i := by
      intro i
      simp [RenderedDocument.Targets, and_assoc]
    rcases updateWhere_cases hj with ⟨hj, hmiss⟩ | ⟨i, hi, hh, rfl⟩
    · -- the document is not for this item
      refine ⟨j, hj, ?_⟩
      rcases hcase with ⟨rfl, hnone⟩ | ⟨hasked, hsat, q, hq, htargets, hid⟩
      · refine .inl ⟨rfl, fun q hq => ?_⟩
        rcases mem_cons.mp hq with rfl | hq
        · exact fun ht => hmiss ((hhit i').mpr ht)
        · exact hnone q hq
      · exact .inr ⟨hasked, hsat, q, mem_cons_of_mem _ hq, htargets, hid⟩
    · -- it is, and a later document may be for it as well
      have htargets := (hhit i).mp hh
      refine ⟨i, hi, .inr ?_⟩
      rcases hcase with ⟨rfl, -⟩ | ⟨hasked, hsat, q, hq, hlater, hid⟩
      · exact ⟨rfl, rfl, r, mem_cons_self, htargets, rfl⟩
      · exact ⟨hasked, hsat, q, mem_cons_of_mem _ hq, ⟨hlater.1, hlater.2.1, htargets.2.2⟩, hid⟩

theorem storeDocuments_advance (h : rs.foldlM storeDocument db = .ok db') :
    Advance db.jacket_checklist_items db'.jacket_checklist_items := by
  refine foldlM_invariant
    (I := fun d => Advance db.jacket_checklist_items d.jacket_checklist_items) ?_ (.refl _) h
  intro d r _ d' hd hstep
  obtain ⟨_, _, hstep⟩ := bind_eq_ok.mp hstep
  cases hstep
  refine hd.trans (.updateWhere fun i _ hh => ⟨rfl, ChecklistState.noConfusion, fun hw => ?_⟩)
  simp [hw] at hh

theorem storeDocuments_documents (h : rs.foldlM storeDocument db = .ok db')
    (hids : (db.package_documents.map (·.document_id)).Nodup) :
    (db'.package_documents.map (·.document_id)).Nodup := by
  refine foldlM_invariant
    (I := fun d : Cabinet => (d.package_documents.map (·.document_id)).Nodup) ?_ hids h
  intro d r _ d' hd hstep
  obtain ⟨_, hfresh, hstep⟩ := bind_eq_ok.mp hstep
  cases hstep
  refine nodup_key_insert hd fun doc hdoc => ?_
  exact of_decide_eq_true (all_eq_true.mp (ensure_eq_ok.mp hfresh) doc hdoc)

theorem IsPredecessor.standing_retired (hdb : Coherent db) {jacketId : String}
    (hpred : IsPredecessor db jacketId predecessor)
    (hp : p ∈ retired predecessor reason db.jacket_packages) (hst : p.state.standing = true) :
    p ∈ db.jacket_packages ∧ p.jacket_id ≠ jacketId := by
  rcases updateWhere_cases hp with ⟨hmem, hmiss⟩ | ⟨k, -, -, rfl⟩
  · refine ⟨hmem, fun hj => ?_⟩
    cases predecessor with
    | none => exact Bool.false_ne_true ((hpred p hmem hj).symm.trans hst)
    | some q =>
      obtain ⟨hq, hqj, hqst⟩ := hpred
      obtain rfl := hdb.oneStanding p hmem q hq (hj.trans hqj.symm) hst hqst
      exact hmiss rfl
  · exact absurd hst Bool.false_ne_true

/-- A version that failed to render does not stand, and the one before it has stepped
aside. -/
theorem remain_failed (hst : p.state.standing = false)
    : Remain db.jacket_packages (retired predecessor reason db.jacket_packages ++ [p]) := by
  intro p' hp' hst'
  rcases mem_inserted hp' with hp' | rfl
  · exact Remain.setAside rfl reason p' hp' hst'
  · rw [hst] at hst'
    cases hst'

theorem Enveloped.assembled (hdb : Coherent db) (h : Enveloped db) {items : List ChecklistItem}
    {documents : List PackageDocument} {js pf bl cs ss ev}
    (hpred : IsPredecessor db p.jacket_id predecessor) (hdraft : p.state = .draft)
    (hitems : ∀ i' ∈ items, ∃ i ∈ db.jacket_checklist_items,
      (i' = i ∧ (i.jacket_id = p.jacket_id → i.satisfied_by = .template →
        i.template_code.isSome = true → i.state = .waived)) ∨
      (i'.asked = i.asked ∧ i'.state = .satisfied ∧ i.jacket_id = p.jacket_id ∧
        i.template_code.isSome = true ∧
        ∃ d ∈ documents, i'.satisfied_document_id = some d.document_id))
    (hof : ∀ d ∈ documents, d.package_id = p.package_id)
    (hids : ((db.package_documents ++ documents).map (·.document_id)).Nodup) :
    Enveloped ⟨js, items, retired predecessor reason db.jacket_packages ++ [p], pf, bl,
      db.package_documents ++ documents, cs, ss, ev⟩ where
  met := by
    intro p' hp' hclear i' hi' hj hreq
    rcases mem_inserted hp' with hp' | rfl
    · obtain ⟨hp', -⟩ := hpred.standing_retired hdb hp' (standing_of_cleared hclear)
      obtain ⟨i, hi, ⟨rfl, -⟩ | ⟨-, hsat, -⟩⟩ := hitems i' hi'
      · exact h.met p' hp' hclear i' hi hj hreq
      · exact .inl hsat
    · rw [hdraft] at hclear
      cases hclear
  inside := by
    intro p' hp' hst i' hi' hj hby hsat
    obtain ⟨i, hi, ⟨rfl, hnone⟩ | ⟨hasked, -, hij, -, d, hd, hid⟩⟩ := hitems i' hi'
    · rcases mem_append.mp hp' with hp' | hp'
      · obtain ⟨hp', -⟩ := hpred.standing_retired hdb hp' hst
        obtain ⟨d, hd, hid, hpkg⟩ := h.inside p' hp' hst i' hi hj hby hsat
        exact ⟨d, mem_append_left _ hd, hid, hpkg⟩
      · -- an item that was not pointed anew is waived
        rw [mem_singleton.mp hp'] at hj
        cases hsat.symm.trans (hnone hj hby (h.coded i' hi hby hsat))
    · have hj' : i.jacket_id = p'.jacket_id :=
        (congrArg ChecklistItem.jacket_id hasked).symm.trans hj
      rcases mem_inserted hp' with hp' | rfl
      · exact absurd (hj'.symm.trans hij) (hpred.standing_retired hdb hp' hst).2
      · exact ⟨d, mem_append_right _ hd, hid, hof d hd⟩
  waivable := by
    intro i' hi' hwaived
    obtain ⟨i, hi, ⟨rfl, -⟩ | ⟨-, hsat, -⟩⟩ := hitems i' hi'
    · exact h.waivable i' hi hwaived
    · cases hwaived.symm.trans hsat
  coded := by
    intro i' hi' hby hsat
    obtain ⟨i, hi, ⟨rfl, -⟩ | ⟨hasked, -, -, hcode, -⟩⟩ := hitems i' hi'
    · exact h.coded i' hi hby hsat
    · have hcode' : i'.template_code = i.template_code :=
        (congrArg ChecklistItem.template_code hasked :)
      rw [hcode']
      exact hcode
  documents := hids

theorem Assembly.stored_items (hdb : Coherent db) {a : Assembly} {jacketId : String}
    (hplan : a.plan = planDocuments (checklistWithin db jacketId) configuration)
    (hfail : ¬ a.failed = true) {documents : List PackageDocument}
    (hlength : a.rendered.length = documents.length) {i i' : ChecklistItem}
    (hi : i ∈ db.jacket_checklist_items)
    (h : (i' = i ∧ ∀ r ∈ a.rendered.zip documents, ¬ r.1.Targets i) ∨
      PointedBy (a.rendered.zip documents) i i') :
    (i' = i ∧ (i.jacket_id = jacketId → i.satisfied_by = .template →
        i.template_code.isSome = true → i.state = .waived)) ∨
      (i'.asked = i.asked ∧ i'.state = .satisfied ∧ i.jacket_id = jacketId ∧
        i.template_code.isSome = true ∧
        ∃ d ∈ documents, i'.satisfied_document_id = some d.document_id) := by
  rcases h with ⟨rfl, hnone⟩ | ⟨hasked, hsat, r, hr, htargets, hid⟩
  · refine .inl ⟨rfl, fun hj hby hcode => ?_⟩
    by_contra hwaived
    have hfailures : (planDocuments (checklistWithin db jacketId) configuration).failures = [] :=
      hplan ▸ Assembly.failures_eq_nil hfail
    obtain ⟨p, hp, hpi⟩ := exists_planned hfailures (mem_checklistWithin.mpr ⟨hi, hj⟩) hby hcode
      hwaived
    obtain ⟨r, hr, rfl⟩ := Assembly.exists_rendered hfail (hplan ▸ hp)
    obtain ⟨n, hn, hrn⟩ := getElem_of_mem hr
    have hzip : (r, documents.get ⟨n, hlength ▸ hn⟩) ∈ a.rendered.zip documents := by
      rw [← hrn]
      exact mem_iff_getElem.mpr ⟨n, by simp [hn, hlength ▸ hn], by simp⟩
    refine hnone _ hzip ⟨?_, ?_, hwaived⟩
    · exact congrArg ChecklistItem.jacket_id hpi.symm
    · exact congrArg ChecklistItem.item_id hpi.symm
  · obtain ⟨hmem, hcode⟩ := of_mem_planned
      (hplan ▸ Assembly.plan_mem_of_mem_rendered (of_mem_zip hr).1)
    obtain ⟨hmem, hj⟩ := mem_checklistWithin.mp hmem
    obtain rfl := eq_of_key hdb.items hi hmem htargets.2.1
    exact .inr ⟨hasked, hsat, hj, hcode, r.2, (of_mem_zip hr).2, hid⟩

theorem writePackage_carries (hdb : Coherent db) {w : JacketWorld} {actor : String}
    {jacket : DealJacket} {a : Assembly}
    (hplan : a.plan = planDocuments (checklistWithin db jacket.jacket_id) configuration)
    (hpred : IsPredecessor db jacket.jacket_id a.predecessor) {out : AssembleOutcome}
    (h : writePackage w actor jacket a db = .ok (out, db')) : Carries db db' := by
  obtain ⟨_, hfresh, ⟨hfail, -, rfl⟩ | ⟨hfail, _, _, rfl, hstored, -, rfl⟩⟩ := writePackage_eq_ok h
  · have hvoided : (a.package w actor jacket).state = .voided := if_pos hfail
    refine Quiet.carries ⟨rfl, rfl, remain_failed ?_⟩
    rw [hvoided]
    rfl
  · have hitems := storeDocuments_items hstored
    have hadvance := storeDocuments_advance hstored
    have hids := storeDocuments_documents hstored
    obtain ⟨items, bl, rfl, -⟩ := storeDocuments_eq_ok hstored
    rw [map_snd_zip (by simp)] at hids ⊢
    refine ⟨fun hlaw => ?_, hadvance⟩
    refine hlaw.assembled hdb (p := Package.sealed _ _ (a.package w actor jacket)) hpred
      (if_neg hfail) (fun i' hi' => ?_) (fun doc hdoc => ?_) (hids hlaw.documents)
    · obtain ⟨i, hi, hcase⟩ := hitems i' hi'
      exact ⟨i, hi, Assembly.stored_items hdb hplan hfail (by simp) hi hcase⟩
    · obtain ⟨r, -, rfl⟩ := mem_map.mp hdoc
      rfl

theorem assemblePackage_carries (hdb : Coherent db) {w : JacketWorld} {input : AssembleInput}
    {out : AssembleOutcome} (h : assemblePackage w db input = .ok (out, db')) :
    Carries db db' := by
  rcases assemblePackage_eq_ok h with rfl | ⟨_, jacket, _, -, hwrites, h⟩
  · exact .refl _
  · obtain ⟨_, _, _, _, _, -, -, -, -, -, -, rfl, -⟩ := hwrites
    exact writePackage_carries hdb rfl (isPredecessor_predecessorPackageWithin db _) h

end Store

/-! ## The gate -/

section Commands

variable {db db' : Cabinet} {w : JacketWorld} {out : MoveOutcome}

theorem Enveloped.readied (hdb : Coherent db) (h : Enveloped db) {pkg : Package}
    (hpkg : pkg ∈ db.jacket_packages) {hit : Package → Bool}
    (hhit : ∀ k, hit k = true → k.package_id = pkg.package_id ∧ k.state = .draft)
    (hblocking : blockingItems (checklistWithin db pkg.jacket_id) = []) :
    Enveloped (db.setPackages hit (Package.moved .review_ready none)) where
  met := by
    intro p hp hclear i hi hj hreq
    rcases updateWhere_cases hp with ⟨hp, -⟩ | ⟨k, hk, hh, rfl⟩
    · exact h.met p hp hclear i hi hj hreq
    · obtain rfl := hdb.keyed.package_unique hk hpkg (hhit k hh).1
      have hnone : i ∉ blockingItems (checklistWithin db k.jacket_id) := by
        rw [hblocking]
        exact not_mem_nil
      rw [blockingItems, mem_filter, mem_checklistWithin] at hnone
      cases hst : i.state with
      | missing => exact absurd ⟨⟨hi, hj⟩, by simp [hreq, hst]⟩ hnone
      | satisfied => exact .inl rfl
      | waived => exact .inr rfl
  inside := by
    intro p hp hst i hi hj hby hsat
    rcases updateWhere_cases hp with ⟨hp, -⟩ | ⟨k, hk, hh, rfl⟩
    · exact h.inside p hp hst i hi hj hby hsat
    · have hdraft : k.state.standing = true := by
        rw [(hhit k hh).2]
        rfl
      exact h.inside k hk hdraft i hi hj hby hsat
  waivable := h.waivable
  coded := h.coded
  documents := h.documents

theorem markReviewReady_carries (hdb : Coherent db) {input : PackageInput}
    (h : markReviewReady w db input = .ok (out, db')) : Carries db db' := by
  rcases markReviewReady_eq_ok h with rfl | ⟨pkg, hpkg, hit, hrefusal, hhit, rfl⟩
  · exact .refl _
  · have hblocking : blockingItems (checklistWithin db pkg.jacket_id) = [] := by
      rw [PackageInput.readyRefusal] at hrefusal
      split at hrefusal
      · cases hrefusal
      split at hrefusal
      · cases hrefusal
      split at hrefusal
      · cases hrefusal
      split at hrefusal
      · cases hrefusal
      · rename_i hblocking
        exact not_not.mp hblocking
    exact ⟨fun hlaw => hlaw.readied hdb hpkg hhit hblocking, .refl _⟩

/-! ## The commands that leave the checklists alone -/

theorem reviewPackage_quiet {input : PackageInput}
    (h : reviewPackage w db input = .ok (out, db')) : Quiet db db' := by
  rcases reviewPackage_eq_ok h with rfl | ⟨_, _, rfl⟩
  · exact .refl _
  · exact ⟨rfl, rfl, .updateWhere (fun _ => rfl) fun _ _ _ hst => ⟨hst, id⟩⟩

theorem sendPackage_quiet {input : SendInput} {out : SendOutcome}
    (h : sendPackage w db input = .ok (out, db')) : Quiet db db' := by
  rcases sendPackage_eq_ok h with ⟨rfl, -⟩ | ⟨_, -, -, _, _, _, _, -, hsends⟩
  · exact .refl _
  · rw [hsends.after]
    refine ⟨rfl, rfl, .updateWhere (fun _ => rfl) fun p _ hh _ => ?_⟩
    rw [(hsends.ready p hh).2]
    exact ⟨rfl, fun _ => rfl⟩

theorem openSignerSession_quiet {token now : String} :
    Quiet db (openSignerSession w db token now).2 := by
  rw [openSignerSession]
  split
  · exact .refl _
  · exact .refl _
  dsimp only
  rw [viewWithin]
  split
  · exact ⟨rfl, rfl, .refl _⟩
  · exact .refl _

/-- The labels of the moves a signer makes. -/
def Label.BySigner : Label → Prop
  | .consented _ _ | .signed _ _ => True
  | _ => False

/-- A consent touches no package; a signature moves a package that was sent. -/
theorem Move.quiet (hdb : Coherent db) {l : Label} (hm : Move db l db') (hl : l.BySigner) :
    Quiet db db' := by
  cases hm with
  | consented => exact ⟨rfl, rfl, .refl _⟩
  | progressed s c p instant pf bl ev signable more =>
    refine ⟨rfl, rfl, .updateWhere (fun _ => rfl) fun k _ hh _ => ?_⟩
    rw [Bool.and_eq_true, decide_eq_true_iff, decide_eq_true_iff] at hh
    rw [hh.2]
    exact ⟨rfl, fun _ => rfl⟩
  | completed s c p instant sha256 pf bl ev signable last certified =>
    refine ⟨rfl, rfl, .updateWhere (fun _ => rfl) fun k hk hh _ => ?_⟩
    obtain rfl := hdb.keyed.package_unique hk signable.package (of_decide_eq_true hh)
    have hsignable := signable.signable
    cases hst : k.state <;> rw [hst] at hsignable <;>
      first | exact absurd hsignable Bool.false_ne_true | exact ⟨rfl, fun _ => rfl⟩
  | _ => exact hl.elim

theorem Moves.quiet (hdb : Coherent db) (h : Moves (fun _ l => l.BySigner) db db') :
    Quiet db db' := by
  refine (h.invariant (I := fun d => Coherent d ∧ Quiet db d) ?_ ⟨hdb, .refl _⟩).2
  intro a l b ha hl hm
  exact ⟨hm.coherent ha.1, ha.2.trans (hm.quiet ha.1 hl)⟩

theorem declineAsCustomer_quiet {token reason now : String} {out : DeclineOutcome}
    (h : declineAsCustomer w db token reason now = .ok (out, db')) : Quiet db db' := by
  rcases declineAsCustomer_eq_ok h with rfl | ⟨_, _, _, -, -, rfl⟩
  · exact .refl _
  · exact ⟨rfl, rfl, .setAside rfl _⟩

theorem voidedPackage_quiet {packageId : String} {fromStates : PackageState → Bool}
    {expectedVersion : Nat} {after : Option Cabinet}
    (h : movePackageWithin packageId fromStates .voided reason expectedVersion db = .ok after)
    (d : Cabinet) (hd : after = some d ∨ after = none ∧ d = db) :
    Quiet db (voidCeremonyOfPackageWithin packageId d) := by
  have hmoved : Quiet db d := by
    obtain ⟨hit, -, ⟨rfl, -⟩ | ⟨rfl, -⟩⟩ := movePackageWithin_eq_ok h
    · obtain hnone | ⟨-, rfl⟩ := hd
      · cases hnone
      · exact .refl _
    · obtain hsome | ⟨hnone, -⟩ := hd
      · cases hsome
        exact ⟨rfl, rfl, .setAside rfl _⟩
      · cases hnone
  obtain ⟨ev, hvoided⟩ := voidCeremonyOfPackageWithin_eq packageId d
  rw [hvoided]
  exact hmoved.trans ⟨rfl, rfl, .refl _⟩

theorem voidPackage_quiet {input : VoidPackageInput}
    (h : voidPackage w db input = .ok (out, db')) : Quiet db db' := by
  rcases voidPackage_eq_ok h with rfl | ⟨p, -, hit, reason, -, -, -, rfl⟩
  · exact .refl _
  · obtain ⟨ev, hvoided⟩ := voidCeremonyOfPackageWithin_eq p.package_id
      (db.setPackages hit (Package.moved .voided reason))
    rw [hvoided]
    exact ⟨rfl, rfl, .setAside rfl _⟩

theorem voidJacket_quiet {input : VoidJacketInput} {out : JacketMoveOutcome}
    (h : voidJacket w db input = .ok (out, db')) : Quiet db db' := by
  rcases voidJacket_eq_ok h with ⟨rfl, -⟩ | ⟨jacket, -, d, -, -, -, hd, rfl⟩
  · exact .refl _
  · refine Quiet.trans (foldlM_invariant (I := fun d => Quiet db d) ?_ (.refl _) hd)
      ⟨rfl, rfl, .refl _⟩
    intro d row _ d' hq hstep
    obtain ⟨after, hafter, hstep⟩ := bind_eq_ok.mp hstep
    cases hstep
    refine hq.trans (voidedPackage_quiet hafter _ ?_)
    cases after with
    | none => exact .inr ⟨rfl, rfl⟩
    | some d' => exact .inl rfl

theorem expireDueCeremoniesForTenant_quiet {now : String} {limit n : Nat}
    (h : expireDueCeremoniesForTenant w db now limit = .ok (n, db')) : Quiet db db' := by
  obtain ⟨instant, _, h⟩ := bind_eq_ok.mp h
  obtain ⟨d, hd, h⟩ := bind_eq_ok.mp h
  cases h
  refine foldlM_invariant (I := fun d => Quiet db d) ?_ (.refl _) hd
  intro d row _ d' hq hstep
  obtain ⟨moved, hmoved, hstep⟩ := bind_eq_ok.mp hstep
  cases hstep
  obtain rfl := updatePackages_eq_ok hmoved
  exact hq.trans ⟨rfl, rfl, .setAside rfl _⟩

end Commands

/-! ## Every run -/

theorem committed_carries {α : Type} {r : Except Raise (α × Cabinet)}
    (h : ∀ out db', r = .ok (out, db') → Carries db db') : Carries db (committed db r) :=
  committed_induction (P := Carries db) (.refl db) h

theorem step_carries (hdb : Coherent db) (call : Call) :
    Carries db (step db call) := by
  cases call with
  | openJacket w actor caseId =>
    exact committed_carries fun _ _ h => openJacketWithin_carries hdb h
  | satisfyWithEvidence w input =>
    exact committed_carries fun _ _ h => satisfyWithEvidence_carries hdb h
  | waiveRequirement w input =>
    exact committed_carries fun _ _ h => waiveRequirement_carries hdb h
  | assemblePackage w input =>
    exact committed_carries fun _ _ h => assemblePackage_carries hdb h
  | markReviewReady w input =>
    exact committed_carries fun _ _ h => markReviewReady_carries hdb h
  | reviewPackage w input =>
    exact committed_carries fun _ _ h => (reviewPackage_quiet h).carries
  | sendPackage w input => exact committed_carries fun _ _ h => (sendPackage_quiet h).carries
  | openSignerSession w token now => exact openSignerSession_quiet.carries
  | consentToElectronicRecords w token version now =>
    refine (Moves.quiet hdb ?_).carries
    exact consentToElectronicRecords_moves fun _ _ _ => trivial
  | signAsCustomer w token input now =>
    refine committed_carries fun _ _ h => (Moves.quiet hdb ?_).carries
    exact signAsCustomer_moves (fun _ _ _ _ _ => trivial) h
  | signAsDealerRepresentative w input =>
    refine committed_carries fun _ _ h => (Moves.quiet hdb ?_).carries
    exact signAsDealerRepresentative_moves hdb (fun _ _ _ => trivial)
      (fun _ _ _ _ _ _ _ _ _ _ => trivial) h
  | declineAsCustomer w token reason now =>
    exact committed_carries fun _ _ h => (declineAsCustomer_quiet h).carries
  | voidPackage w input => exact committed_carries fun _ _ h => (voidPackage_quiet h).carries
  | voidJacket w input => exact committed_carries fun _ _ h => (voidJacket_quiet h).carries
  | expireDueCeremoniesForTenant w now limit =>
    exact committed_carries fun _ _ h => (expireDueCeremoniesForTenant_quiet h).carries

/-- After every history nothing required is missing behind the gate, every ticked item met
by a template names a document of the version that stands, and items are waived only
where they may be; items have ids of their own, and however the history goes on, none
goes back. -/
theorem history_enveloped (calls more : List Call) :
    Enveloped (history calls) ∧
      ((history calls).jacket_checklist_items.map (·.item_id)).Nodup ∧
      Advance (history calls).jacket_checklist_items
        (history (calls ++ more)).jacket_checklist_items := by
  refine ⟨(run_invariant (I := fun db => Coherent db ∧ Enveloped db) (fun _ call h =>
    ⟨step_coherent h.1 call, (step_carries h.1 call).holds h.2⟩)
    ⟨Coherent.empty, Enveloped.empty⟩ calls).2, (history_coherent calls).items, ?_⟩
  rw [history, history, run_append]
  exact run_related (I := Coherent)
    (R := fun a b => Advance a.jacket_checklist_items b.jacket_checklist_items)
    (fun _ => .refl _) (fun _ _ _ hab hbc => hab.trans hbc) (fun _ call h => step_coherent h call)
    (fun _ call h => (step_carries h call).advance) (history_coherent calls) more

end Dealership.Jacket
