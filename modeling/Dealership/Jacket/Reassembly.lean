import Dealership.Jacket.Holds

/-!
# Assembling an unchanged deal again

The version that stands is compared with what an assembly would write: the digest of its fields
with that of the fields read now, and the templates of its stored documents, in sequence, with the
templates planned now, in the order of the checklist.  What the first assembly moved (the items it
ticked, the versions of the package and the jacket) is in neither digest.
-/

namespace Dealership.Jacket

open Library List

variable {db db' before : Cabinet} {p : Package} {w : JacketWorld} {input : AssembleInput}
  {jacket : DealJacket} {fact : ApprovedDeskingVersion} {out : AssembleOutcome}
  {docs : List PackageDocument} {s : Sources} {a : Assembly}

/-! ## The plan -/

/-- What an assembly asks of an item: all of it but how it was met. -/
def ChecklistItem.demand (i : ChecklistItem) : ChecklistItem × Bool :=
  (i.asked, decide (i.state = .waived))

def templateFor (configuration : ResolvedConfiguration) (demand : ChecklistItem × Bool) :
    Option (Except RenderFailure Template) :=
  if demand.2 then none
  else (planItem configuration demand.1).map fun r => r.map (·.template)

variable (configuration : ResolvedConfiguration)

theorem templateFor_demand (i : ChecklistItem) :
    templateFor configuration i.demand =
      (planItem configuration i).map fun r => r.map (·.template) := by
  rw [templateFor, ChecklistItem.demand]
  by_cases hwaived : i.state = .waived
  · rw [if_pos (decide_eq_true hwaived), planItem]
    split
    · rw [if_pos hwaived]
      rfl
    · rfl
  · rw [if_neg (by simpa using hwaived), planItem, planItem]
    dsimp only [ChecklistItem.asked]
    split
    · simp only [hwaived, reduceCtorEq, if_false]
      split
      · rfl
      · split <;> rfl
    · rfl

theorem map_template_planned (items : List ChecklistItem) :
    (planDocuments items configuration).planned.map (·.template) =
      (items.map ChecklistItem.demand).filterMap fun d =>
        (templateFor configuration d).bind Except.toOption := by
  rw [planDocuments, filterMap_filterMap, map_filterMap, filterMap_map]
  refine filterMap_congr fun i _ => ?_
  rw [Function.comp_apply, templateFor_demand]
  rcases planItem configuration i with _ | (_ | _) <;> rfl

theorem failures_planned (items : List ChecklistItem) :
    (planDocuments items configuration).failures =
      (items.map ChecklistItem.demand).filterMap fun d =>
        (templateFor configuration d).bind fun r =>
          match r with
          | .error f => some f
          | .ok _ => none := by
  rw [planDocuments]
  dsimp only
  rw [filterMap_filterMap, filterMap_map]
  refine filterMap_congr fun i _ => ?_
  rw [Function.comp_apply, templateFor_demand]
  rcases planItem configuration i with _ | (_ | _) <;> rfl

theorem map_demand_checklistWithin (jacketId : String)
    (h : db'.jacket_checklist_items.map ChecklistItem.demand =
      db.jacket_checklist_items.map ChecklistItem.demand) :
    (checklistWithin db' jacketId).map ChecklistItem.demand =
      (checklistWithin db jacketId).map ChecklistItem.demand := by
  have hsorted : ∀ items : List ChecklistItem,
      ((items.filter fun i => i.jacket_id = jacketId).insertionSort
        fun a b => jsLe a.requirement_code b.requirement_code).map ChecklistItem.demand =
      ((items.map ChecklistItem.demand).filter fun d => d.1.jacket_id = jacketId).insertionSort
        fun a b => jsLe a.1.requirement_code b.1.requirement_code := by
    intro items
    rw [filter_map]
    exact map_insertionSort _ _ _ _ fun _ _ _ _ => Iff.rfl
  rw [checklistWithin, checklistWithin, hsorted, hsorted, h]

theorem storeDocuments_demand {rs : List (RenderedDocument × PackageDocument)}
    (h : rs.foldlM storeDocument db = .ok db') :
    db'.jacket_checklist_items.map ChecklistItem.demand =
      db.jacket_checklist_items.map ChecklistItem.demand := by
  refine foldlM_invariant (I := fun d : Cabinet =>
    d.jacket_checklist_items.map ChecklistItem.demand =
      db.jacket_checklist_items.map ChecklistItem.demand) ?_ rfl h
  intro d r _ d' hd hstep
  obtain ⟨_, _, hstep⟩ := bind_eq_ok.mp hstep
  cases hstep
  refine (map_updateWhere fun i hi => ?_).trans hd
  have hlive : i.state ≠ .waived := by
    intro hwaived
    simp [hwaived] at hi
  exact Prod.ext rfl (decide_eq_false hlive).symm

theorem Assembly.map_plan_rendered (h : ¬ a.failed = true) :
    a.rendered.map (·.plan) = a.plan.planned := by
  have hnone := (append_eq_nil_iff.mp (Assembly.renderFailures_eq_nil h)).2
  rw [Assembly.rendered]
  generalize a.plan.planned = planned at hnone
  induction planned with
  | nil => rfl
  | cons p planned ih =>
    rw [filterMap_cons] at hnone
    cases hr : p.render a.fields a.versionNo with
    | error f =>
      rw [hr] at hnone
      cases hnone
    | ok r =>
      rw [hr] at hnone
      have hp : r.plan = p := by
        rw [PlannedDocument.render] at hr
        split at hr <;> cases hr
        rfl
      rw [filterMap_cons_some (by rw [hr]; rfl), map_cons, ih hnone, hp]

/-! ## The documents -/

/-- A document without the flag a hold sets. -/
def PackageDocument.content (d : PackageDocument) : PackageDocument :=
  { d with legal_hold := false }

/-- The line of a digest a stored document gives. -/
def PackageDocument.line (d : PackageDocument) : Option Desking.Value :=
  d.template.map fun t => templateLine t.template_code t.template_version t.template_sha256

theorem content_documentsOfPackageWithin (db : Cabinet) (packageId : String) :
    (documentsOfPackageWithin db packageId).map PackageDocument.content =
      ((db.package_documents.map PackageDocument.content).filter fun d =>
        d.package_id = packageId).insertionSort fun a b => a.sequence_no ≤ b.sequence_no := by
  rw [filter_map]
  exact map_insertionSort _ _ _ _ fun _ _ _ _ => Iff.rfl

theorem templatesDigestOfPackage_eq {packageId packageId' : String}
    (h : (documentsOfPackageWithin db' packageId').map PackageDocument.content =
      (documentsOfPackageWithin db packageId).map PackageDocument.content) :
    templatesDigestOfPackage db' packageId' = templatesDigestOfPackage db packageId := by
  have hlines : ∀ ds : List PackageDocument, ds.filterMap PackageDocument.line =
      (ds.map PackageDocument.content).filterMap PackageDocument.line := by
    intro ds
    rw [filterMap_map]
    rfl
  have hcongr := congrArg (List.filterMap PackageDocument.line) h
  rw [← hlines, ← hlines] at hcongr
  exact congrArg (fun lines => digestOf (.array lines)) hcongr

/-! ## What every step keeps -/

/-- The columns of a package that are set when it is assembled and never again. -/
def Package.settled (p : Package) : String × String × Digest × Nat :=
  (p.package_id, p.jacket_id, p.fields_sha256, p.document_count)

/-- Every package is still there as it was settled, and documents were added to new ones only. -/
structure Grows (before after : Cabinet) : Prop where
  packages : ∀ p ∈ before.jacket_packages, ∃ q ∈ after.jacket_packages, q.settled = p.settled
  documents : ∃ new : List PackageDocument,
    after.package_documents.map PackageDocument.content =
      before.package_documents.map PackageDocument.content ++ new ∧
    ∀ d ∈ new, (∀ p ∈ before.jacket_packages, p.package_id ≠ d.package_id) ∧
      ∃ q ∈ after.jacket_packages, q.package_id = d.package_id

namespace Grows

variable {after : Cabinet}

theorem refl (db : Cabinet) : Grows db db where
  packages := fun p hp => ⟨p, hp, rfl⟩
  documents := ⟨[], (append_nil _).symm, fun _ hd => absurd hd not_mem_nil⟩

theorem trans {a b c : Cabinet} (hab : Grows a b) (hbc : Grows b c) : Grows a c where
  packages := by
    intro p hp
    obtain ⟨q, hq, hqp⟩ := hab.packages p hp
    obtain ⟨r, hr, hrq⟩ := hbc.packages q hq
    exact ⟨r, hr, hrq.trans hqp⟩
  documents := by
    obtain ⟨new, hnew, hfresh⟩ := hab.documents
    obtain ⟨new', hnew', hfresh'⟩ := hbc.documents
    refine ⟨new ++ new', by rw [hnew', hnew, append_assoc], fun d hd => ?_⟩
    rcases mem_append.mp hd with hd | hd
    · obtain ⟨hne, q, hq, hid⟩ := hfresh d hd
      obtain ⟨r, hr, hrq⟩ := hbc.packages q hq
      exact ⟨hne, r, hr, (congrArg Prod.fst hrq).trans hid⟩
    · obtain ⟨hne, hof⟩ := hfresh' d hd
      refine ⟨fun p hp he => ?_, hof⟩
      obtain ⟨q, hq, hqp⟩ := hab.packages p hp
      exact hne q hq ((congrArg Prod.fst hqp).trans he)

/-- A statement on the packages that sets other columns, while the documents stand. -/
theorem updated {hit : Package → Prop} [DecidablePred hit] {f : Package → Package}
    (hpackages : after.jacket_packages = updateWhere hit f before.jacket_packages)
    (hdocuments : after.package_documents = before.package_documents)
    (hf : ∀ p, (f p).settled = p.settled) : Grows before after where
  packages := by
    intro p hp
    rw [hpackages]
    by_cases hh : hit p
    · exact ⟨f p, mem_updateWhere_of_pos hp hh, hf p⟩
    · exact ⟨p, mem_updateWhere_of_neg hp hh, rfl⟩
  documents := ⟨[], by rw [hdocuments, append_nil], fun _ hd => absurd hd not_mem_nil⟩

theorem elsewhere (hpackages : after.jacket_packages = before.jacket_packages)
    (hdocuments : after.package_documents.map PackageDocument.content =
      before.package_documents.map PackageDocument.content) : Grows before after where
  packages := by
    rw [hpackages]
    exact (refl before).packages
  documents := ⟨[], by rw [hdocuments, append_nil], fun _ hd => absurd hd not_mem_nil⟩

theorem version {predecessor : Option Package} {reason : Option String}
    {documents : List PackageDocument} (hpackages : after.jacket_packages =
      retired predecessor reason before.jacket_packages ++ [p])
    (hdocuments : after.package_documents = before.package_documents ++ documents)
    (hfresh : ∀ k ∈ before.jacket_packages, k.package_id ≠ p.package_id)
    (hof : ∀ d ∈ documents, d.package_id = p.package_id) : Grows before after where
  packages := by
    intro k hk
    rw [hpackages]
    by_cases hh : some k.package_id = predecessor.map (·.package_id)
    · exact ⟨_, mem_append_left _ (mem_updateWhere_of_pos hk hh), rfl⟩
    · exact ⟨k, mem_append_left _ (mem_updateWhere_of_neg hk hh), rfl⟩
  documents := by
    refine ⟨documents.map PackageDocument.content, by rw [hdocuments, map_append], ?_⟩
    intro d hd
    obtain ⟨r, hr, rfl⟩ := mem_map.mp hd
    have hid : r.content.package_id = p.package_id := hof r hr
    rw [hid, hpackages]
    exact ⟨hfresh, p, mem_append_right _ mem_cons_self, rfl⟩

theorem documentsOfPackage (h : Grows before after) (hp : p ∈ before.jacket_packages) :
    (documentsOfPackageWithin after p.package_id).map PackageDocument.content =
      (documentsOfPackageWithin before p.package_id).map PackageDocument.content := by
  obtain ⟨new, hnew, hfresh⟩ := h.documents
  have hnone : (new.filter fun d => d.package_id = p.package_id) = [] :=
    filter_eq_nil_iff.mpr fun d hd he => (hfresh d hd).1 p hp (of_decide_eq_true he).symm
  rw [content_documentsOfPackageWithin, content_documentsOfPackageWithin, hnew,
    filter_append, hnone, append_nil]

end Grows

theorem Move.grows {l : Label} (m : Move db l db') : Grows db db' := by
  cases m with
  | opened | evidenced | waived | viewed | consented | voidedJacket => exact .elsewhere rfl rfl
  | failed j predecessor reason p bump pf bl ev jacket ofJacket stands fresh =>
    exact .version rfl (append_nil _).symm fresh fun _ hd => absurd hd not_mem_nil
  | assembled j predecessor reason p documents items pf bl ev jacket ofJacket stands fresh isDraft
      ofPackage => exact .version rfl rfl fresh ofPackage
  | readied | reviewed | sent | progressed | completed | declined | voidedPackage | expired =>
    exact .updated rfl rfl fun _ => rfl

def AllFiled (db : Cabinet) : Prop :=
  ∀ d ∈ db.package_documents, ∃ p ∈ db.jacket_packages, p.package_id = d.package_id

theorem Grows.allFiled {after : Cabinet} (h : Grows before after) (hfiled : AllFiled before) :
    AllFiled after := by
  intro d hd
  obtain ⟨new, hnew, hfresh⟩ := h.documents
  have hmem : d.content ∈ after.package_documents.map PackageDocument.content := mem_map_of_mem hd
  rw [hnew] at hmem
  rcases mem_append.mp hmem with hmem | hmem
  · obtain ⟨r, hr, hrd⟩ := mem_map.mp hmem
    obtain ⟨p, hp, hid⟩ := hfiled r hr
    obtain ⟨q, hq, hqp⟩ := h.packages p hp
    have hrid : r.package_id = d.package_id := (congrArg PackageDocument.package_id hrd :)
    exact ⟨q, hq, (congrArg Prod.fst hqp).trans (hid.trans hrid)⟩
  · exact (hfresh _ hmem).2

namespace HoldFile

/-- A step leaves the rows coherent, and keeps packages, documents and what jackets bound. -/
structure Follows (db db' : HoldFile) : Prop where
  coherent : Coherent db'.cabinet
  grows : Grows db.cabinet db'.cabinet
  bound : db.cabinet.bindings.jackets ⊆ db'.cabinet.bindings.jackets

theorem moveHold_follows {db : HoldFile} (hdb : Coherent db.cabinet) {newHoldEventId : String}
    {input : HoldInput} {action : HoldAction} :
    db.Follows (committed db (moveHold w newHoldEventId db input action)) := by
  have hrefl : db.Follows db := ⟨hdb, .refl _, List.Subset.refl _⟩
  refine committed_induction (P := db.Follows) hrefl fun out db' hmove => ?_
  rcases moveHold_cases hmove with rfl | ⟨actor, jackets, hbound, -, rfl⟩
  · exact hrefl
  · refine ⟨coherent_flagged hdb hbound _ _, .elsewhere rfl (map_updateWhere fun _ _ => rfl), ?_⟩
    show db.cabinet.bindings.jackets ⊆ jackets.map DealJacket.binding
    rw [hbound]
    exact List.Subset.refl _

theorem step_follows {db : HoldFile} (hdb : Coherent db.cabinet) (call : HoldCall) :
    db.Follows (db.step call) := by
  cases call with
  | placeLegalHold w id input => exact moveHold_follows hdb
  | liftLegalHold w id input => exact moveHold_follows hdb
  | jacket call =>
    refine ⟨step_coherent hdb _, ?_, (step_bindings_subset _).1⟩
    exact step_invariant (I := fun d => Grows db.cabinet d) hdb
      (fun _ _ _ _ hi _ hm => hi.trans hm.grows) (.refl _)

def after (calls : List HoldCall) : HoldFile := run HoldFile.step HoldFile.empty calls

/-- After every run the rows are coherent and every document belongs to a package. -/
theorem after_filed (calls : List HoldCall) :
    Coherent (after calls).cabinet ∧ AllFiled (after calls).cabinet := by
  refine run_invariant (I := fun db : HoldFile => Coherent db.cabinet ∧ AllFiled db.cabinet) ?_
    ⟨Coherent.empty, fun _ hd => absurd hd not_mem_nil⟩ calls
  intro db call hdb
  have hstep := step_follows hdb.1 call
  exact ⟨hstep.coherent, hstep.grows.allFiled hdb.2⟩

end HoldFile

/-! ## The version that stands is the one an assembly would write -/

/-- A package is what an assembly with these fields, under this configuration, finds in place. -/
structure CurrentFor (db : Cabinet) (jacketId : String) (fields : List AssembledField)
    (configuration : ResolvedConfiguration) (p : Package) : Prop where
  package : p ∈ db.jacket_packages
  ofJacket : p.jacket_id = jacketId
  stands : p.state.standing = true
  fields : p.fields_sha256 = fieldsDigest fields
  counted : 0 < p.document_count
  failures : (planDocuments (checklistWithin db jacketId) configuration).failures = []
  planned : (planDocuments (checklistWithin db jacketId) configuration).planned ≠ []
  templates : templatesDigestOfPackage db p.package_id =
    templatesDigest (planDocuments (checklistWithin db jacketId) configuration).planned

theorem predecessorPackageWithin_eq (hdb : Coherent db) (hp : p ∈ db.jacket_packages)
    (hst : p.state.standing = true) : predecessorPackageWithin db p.jacket_id = some p := by
  have hpred := isPredecessor_predecessorPackageWithin db p.jacket_id
  cases hq : predecessorPackageWithin db p.jacket_id with
  | none =>
    rw [hq] at hpred
    exact absurd ((hpred p hp rfl).symm.trans hst) Bool.false_ne_true
  | some q =>
    rw [hq] at hpred
    exact congrArg some (hdb.oneStanding q hpred.1 p hp hpred.2.1 hpred.2.2 hst)

namespace CurrentFor

variable {jacketId : String} {fields : List AssembledField} {configuration : ResolvedConfiguration}

theorem assembleFrom_eq {actor : String} {instant : Int} (hdb : Coherent db)
    (h : CurrentFor db jacket.jacket_id fields configuration p)
    (hfields : assembleFieldsWithin w.sources jacket fact = .ok fields)
    (hinstant : w.cast w.clock = .ok instant)
    (hconfiguration : resolveConfigurationWithin w.configuration (jacket.scope instant) =
      configuration)
    {retention : RetentionPolicy} (hretention : configuration.retention = some retention) :
    assembleFrom w db actor jacket fact =
      .ok (.already_current p (documentsOfPackageWithin db p.package_id), db) := by
  have hpred : predecessorPackageWithin db jacket.jacket_id = some p :=
    h.ofJacket ▸ predecessorPackageWithin_eq hdb h.package h.stands
  have hcurrent : (assemblyOf db jacket configuration fields retention).current db = some p := by
    rw [Assembly.current, assemblyOf]
    dsimp only
    rw [hpred, Option.filter_some, if_pos]
    simp [h.fields, h.counted, h.failures, h.templates]
  rw [assembleFrom, hfields]
  dsimp only [Bind.bind, Except.bind]
  rw [hinstant]
  dsimp only
  rw [hconfiguration, if_neg (by simp [h.planned]), hretention]
  dsimp only
  rw [hcurrent]
  rfl

/-- While it stands and the same is asked of the items, it is what an assembly would write. -/
theorem persist (hdb : Coherent db') (h : CurrentFor db jacketId fields configuration p)
    (hgrows : Grows db db') {q : Package} (hq : q ∈ db'.jacket_packages)
    (hid : q.package_id = p.package_id) (hst : q.state.standing = true)
    (hchecklist : checklistWithin db' jacketId = checklistWithin db jacketId) :
    CurrentFor db' jacketId fields configuration q := by
  obtain ⟨r, hr, hrp⟩ := hgrows.packages p h.package
  obtain rfl := hdb.keyed.package_unique hq hr (hid.trans (congrArg Prod.fst hrp).symm)
  obtain ⟨-, hjacket, hfields, hcount⟩ : q.package_id = p.package_id ∧ q.jacket_id = p.jacket_id ∧
      q.fields_sha256 = p.fields_sha256 ∧ q.document_count = p.document_count := by
    simpa [Package.settled] using hrp
  constructor
  case package => exact hq
  case ofJacket => exact hjacket.trans h.ofJacket
  case stands => exact hst
  case fields => exact hfields.trans h.fields
  case counted => exact hcount ▸ h.counted
  case failures => exact hchecklist ▸ h.failures
  case planned => exact hchecklist ▸ h.planned
  case templates =>
    rw [hid, hchecklist, ← h.templates]
    exact templatesDigestOfPackage_eq (hgrows.documentsOfPackage h.package)

end CurrentFor

/-! ## What an assembly leaves -/

/-- The package and the documents of an assembly that has a version to show. -/
def AssembleOutcome.shown : AssembleOutcome → Option (Package × List PackageDocument)
  | .assembled p docs _ | .already_current p docs => some (p, docs)
  | _ => none

/-- The line of a digest a template gives. -/
def Template.line (t : Template) : Desking.Value :=
  templateLine t.template_code t.version t.body_sha256

theorem templatesDigest_eq (planned : List PlannedDocument) :
    templatesDigest planned = digestOf (.array ((planned.map (·.template)).map Template.line)) := by
  rw [map_map]
  rfl

theorem filterMap_line_rows (w : JacketWorld) (packageId : String) (retention : RetentionPolicy)
    (held : Bool) (rendered : List RenderedDocument) (n : Nat) :
    ((rendered.zipIdx n).map fun r => r.1.row w packageId retention held r.2).filterMap
        PackageDocument.line =
      (rendered.map (·.plan.template)).map Template.line := by
  induction rendered generalizing n with
  | nil => rfl
  | cons r rendered ih =>
    rw [zipIdx_cons, map_cons, map_cons, map_cons, ← ih (n + 1)]
    rfl

theorem documentsOfPackageWithin_new {old : List PackageDocument} {packageId : String}
    {retention : RetentionPolicy} {held : Bool} {rendered : List RenderedDocument}
    (hdocuments : db.package_documents = old ++ rendered.zipIdx.map fun r =>
      r.1.row w packageId retention held r.2)
    (hfresh : ∀ d ∈ old, d.package_id ≠ packageId) : documentsOfPackageWithin db packageId =
      rendered.zipIdx.map fun r => r.1.row w packageId retention held r.2 := by
  have hold : (old.filter fun d => d.package_id = packageId) = [] :=
    filter_eq_nil_iff.mpr fun d hd he => hfresh d hd (of_decide_eq_true he)
  rw [documentsOfPackageWithin, hdocuments, filter_append, hold, nil_append,
    filter_eq_self.mpr]
  · refine List.Pairwise.insertionSort_eq (pairwise_iff_getElem.mpr fun i j hi hj hij => ?_)
    simp only [getElem_map, getElem_zipIdx, RenderedDocument.row]
    omega
  · intro d hd
    obtain ⟨r, -, rfl⟩ := mem_map.mp hd
    exact decide_eq_true rfl

/-- What a version that was written leaves. -/
structure Written (w : JacketWorld) (jacket : DealJacket) (a : Assembly) (db db' : Cabinet)
    (p : Package) (docs : List PackageDocument) : Prop where
  rendered : ¬ a.failed = true
  package : p ∈ db'.jacket_packages
  settled : p.settled = (w.newPackageId, jacket.jacket_id, fieldsDigest a.fields, docs.length)
  draft : p.state = .draft
  fresh : ∀ k ∈ db.jacket_packages, k.package_id ≠ w.newPackageId
  rows : docs = a.rendered.zipIdx.map fun r =>
    r.1.row w w.newPackageId a.retention (jacketHeldWithin w.sources jacket.jacket_id) r.2
  documents : db'.package_documents = db.package_documents ++ docs
  demand : db'.jacket_checklist_items.map ChecklistItem.demand =
    db.jacket_checklist_items.map ChecklistItem.demand
  reopened : ∀ j ∈ db'.deal_jackets, j.jacket_id = jacket.jacket_id → j.state = .open

theorem writePackage_written {actor : String}
    (h : writePackage w actor jacket a db = .ok (out, db'))
    (hout : out.shown = some (p, docs)) : Written w jacket a db db' p docs := by
  obtain ⟨_, hfresh, ⟨-, rfl, -⟩ | ⟨hfail, _, _, rfl, hstored, rfl, rfl⟩⟩ := writePackage_eq_ok h
  · cases hout
  · have hdemand := storeDocuments_demand hstored
    obtain ⟨items, bl, rfl, -⟩ := storeDocuments_eq_ok hstored
    cases hout
    rw [map_snd_zip (by simp)]
    have hopen : ∀ j ∈ updateWhere (fun j => j.jacket_id = jacket.jacket_id)
        (DealJacket.moved .open) db.deal_jackets,
        j.jacket_id = jacket.jacket_id → j.state = .open := by
      intro j hj hid
      rcases updateWhere_cases hj with ⟨-, hmiss⟩ | ⟨k, -, -, rfl⟩
      · exact absurd hid hmiss
      · rfl
    exact {
      rendered := hfail
      package := mem_append_right _ mem_cons_self
      settled := rfl
      draft := if_neg hfail
      fresh := ne_of_retired hfresh
      rows := rfl
      documents := rfl
      demand := hdemand
      reopened := hopen }

theorem Written.currentFor (hfiled : AllFiled db) {configuration : ResolvedConfiguration}
    (hplan : a.plan = planDocuments (checklistWithin db jacket.jacket_id) configuration)
    (hasks : ¬ (a.plan.planned.isEmpty = true ∧ a.plan.failures.isEmpty = true))
    (h : Written w jacket a db db' p docs) :
    CurrentFor db' jacket.jacket_id a.fields configuration p ∧
      documentsOfPackageWithin db' p.package_id = docs := by
  obtain ⟨hid, hjacket, hfields, hcount⟩ : p.package_id = w.newPackageId ∧
      p.jacket_id = jacket.jacket_id ∧ p.fields_sha256 = fieldsDigest a.fields ∧
      p.document_count = docs.length := by
    simpa [Package.settled] using h.settled
  have hnew : ∀ d ∈ db.package_documents, d.package_id ≠ w.newPackageId := by
    intro d hd
    obtain ⟨k, hk, hkd⟩ := hfiled d hd
    exact hkd ▸ h.fresh k hk
  have hdocs : documentsOfPackageWithin db' p.package_id = docs := by
    have hdocuments := h.documents
    rw [h.rows] at hdocuments
    rw [hid, documentsOfPackageWithin_new hdocuments hnew, ← h.rows]
  -- the plan is the same once the items are ticked
  have hchecklist := map_demand_checklistWithin jacket.jacket_id h.demand
  have htemplates : (planDocuments (checklistWithin db' jacket.jacket_id) configuration).planned.map
      (·.template) = a.plan.planned.map (·.template) := by
    rw [hplan, map_template_planned, map_template_planned, hchecklist]
  have hfailures : a.plan.failures = [] := Assembly.failures_eq_nil h.rendered
  have hplanned : a.plan.planned ≠ [] := fun hnone =>
    hasks ⟨List.isEmpty_iff.mpr hnone, List.isEmpty_iff.mpr hfailures⟩
  have hrendered := Assembly.map_plan_rendered h.rendered
  refine ⟨⟨h.package, hjacket, by rw [h.draft]; rfl, hfields, ?_, ?_, ?_, ?_⟩, hdocs⟩
  case refine_1 =>
    have hlength : docs.length = a.plan.planned.length := by
      rw [h.rows, length_map, length_zipIdx, ← hrendered, length_map]
    rw [hcount, hlength]
    exact length_pos_iff.mpr hplanned
  case refine_2 =>
    rw [failures_planned, hchecklist, ← failures_planned, ← hplan]
    exact hfailures
  case refine_3 =>
    intro hnone
    rw [hnone] at htemplates
    exact hplanned (map_eq_nil_iff.mp htemplates.symm)
  case refine_4 =>
    have hlines : docs.filterMap PackageDocument.line =
        (a.plan.planned.map (·.template)).map Template.line := by
      rw [h.rows, filterMap_line_rows, ← hrendered]
      simp only [map_map]
      rfl
    rw [templatesDigest_eq, htemplates, ← hlines, ← hdocs]
    rfl

theorem currentFor_of_current {configuration : ResolvedConfiguration} {fields : List AssembledField}
    {retention : RetentionPolicy}
    (hasks : ¬ ((planDocuments (checklistWithin db jacket.jacket_id)
        configuration).planned.isEmpty = true ∧
      (planDocuments (checklistWithin db jacket.jacket_id) configuration).failures.isEmpty = true))
    (h : (assemblyOf db jacket configuration fields retention).current db = some p) :
    CurrentFor db jacket.jacket_id fields configuration p := by
  rw [Assembly.current, assemblyOf] at h
  dsimp only at h
  obtain ⟨hpred, hsame⟩ := Option.filter_eq_some_iff.mp h
  have hstands := isPredecessor_predecessorPackageWithin db jacket.jacket_id
  rw [hpred] at hstands
  simp only [Bool.and_eq_true, decide_eq_true_eq] at hsame
  obtain ⟨⟨⟨hfields, hcount⟩, hfailures⟩, htemplates⟩ := hsame
  constructor
  case package => exact hstands.1
  case ofJacket => exact hstands.2.1
  case stands => exact hstands.2.2
  case fields => exact hfields
  case counted => exact hcount
  case failures => exact List.isEmpty_iff.mp hfailures
  case planned => exact fun hnone => hasks ⟨List.isEmpty_iff.mpr hnone, hfailures⟩
  case templates => exact htemplates

/-- A request that is refused before anything is assembled has no version to show. -/
theorem shown_of_fact_eq_error (h : input.fact s jacket = .error out) : out.shown = none := by
  rw [AssembleInput.fact] at h
  split at h
  · cases h
    rfl
  split at h
  · cases h
    rfl
  split at h
  · cases h
    rfl
  split at h
  · cases h
    rfl
  · split at h <;> cases h
    rfl

theorem fact_eq_ok_iff : input.fact s jacket = .ok fact ↔
      jacket.state ≠ .voided ∧
      (∃ versionNo, currentApprovedFingerprintWithin s jacket.desking_case_id =
        some (jacket.approved_scenario_id, versionNo, jacket.approved_output_fingerprint)) ∧
      getApprovedDeskingVersionWithin s jacket.desking_case_id = some fact ∧
      jacket.authorization_version = input.expectedVersion := by
  rw [AssembleInput.fact]
  constructor
  · intro h
    split at h
    · cases h
    rename_i hlive
    split at h
    · cases h
    rename_i scenarioId versionNo fingerprint hcurrent
    split at h
    · cases h
    rename_i hbound
    obtain ⟨hscenario, hfingerprint⟩ := not_or.mp hbound
    split at h
    · cases h
    rename_i found hfound
    split at h
    · cases h
    rename_i hversion
    cases h
    rw [← not_not.mp hscenario, ← not_not.mp hfingerprint]
    exact ⟨hlive, ⟨versionNo, hcurrent⟩, hfound, not_not.mp hversion⟩
  · rintro ⟨hlive, ⟨versionNo, hcurrent⟩, hfound, hversion⟩
    rw [if_neg hlive, hcurrent, hfound]
    simp [hversion]

/-- The bound version is still the one the desk stands behind, whatever happened to the jacket
short of its being voided. -/
theorem fact_of_binding {input' : AssembleInput} {jacket' : DealJacket}
    (events : List LegalHoldEvent) (h : input.fact s jacket = .ok fact)
    (hbinding : jacket'.binding = jacket.binding) (hlive : jacket'.state ≠ .voided)
    (hversion : jacket'.authorization_version = input'.expectedVersion) :
    input'.fact { s with legal_hold_events := events } jacket' = .ok fact := by
  obtain ⟨-, ⟨versionNo, hcurrent⟩, hfound, -⟩ := fact_eq_ok_iff.mp h
  have hcase : jacket'.desking_case_id = jacket.desking_case_id :=
    (congrArg DealJacket.desking_case_id hbinding :)
  have hscenario : jacket'.approved_scenario_id = jacket.approved_scenario_id :=
    (congrArg DealJacket.approved_scenario_id hbinding :)
  have hfingerprint : jacket'.approved_output_fingerprint = jacket.approved_output_fingerprint :=
    (congrArg DealJacket.approved_output_fingerprint hbinding :)
  refine fact_eq_ok_iff.mpr ⟨hlive, ⟨versionNo, ?_⟩, ?_, hversion⟩
  · rw [hcase, hscenario, hfingerprint]
    exact hcurrent
  · rw [hcase]
    exact hfound

theorem assembleFieldsWithin_of_binding {jacket' : DealJacket} (events : List LegalHoldEvent)
    (hbinding : jacket'.binding = jacket.binding) :
    assembleFieldsWithin { s with legal_hold_events := events } jacket' fact =
      assembleFieldsWithin s jacket fact := by
  calc assembleFieldsWithin { s with legal_hold_events := events } jacket' fact
    _ = assembleFieldsWithin s jacket'.binding fact := rfl
    _ = assembleFieldsWithin s jacket.binding fact := by rw [hbinding]
    _ = assembleFieldsWithin s jacket fact := rfl

theorem assemblePackage_shown (hdb : Coherent db) (hfiled : AllFiled db) {instant : Int}
    (hinstant : w.cast w.clock = .ok instant) (h : assemblePackage w db input = .ok (out, db'))
    (hout : out.shown = some (p, docs)) : ∃ jacket fact fields retention, jacket ∈ db.deal_jackets ∧
      jacket.jacket_id = input.jacketId ∧ input.fact w.sources jacket = .ok fact ∧
      assembleFieldsWithin w.sources jacket fact = .ok fields ∧
      (resolveConfigurationWithin w.configuration (jacket.scope instant)).retention =
        some retention ∧
      (∀ j ∈ db'.deal_jackets, j.jacket_id = jacket.jacket_id → j.state ≠ .voided) ∧
      CurrentFor db' jacket.jacket_id fields
        (resolveConfigurationWithin w.configuration (jacket.scope instant)) p ∧
      documentsOfPackageWithin db' p.package_id = docs := by
  obtain ⟨actor, -, h⟩ := bind_eq_ok.mp h
  split at h
  · cases h
    cases hout
  rename_i jacket hjacket
  obtain ⟨hmem, hid⟩ := of_requireJacketWithin hjacket
  split at h
  · rename_i refusal hrefusal
    cases h
    cases (shown_of_fact_eq_error hrefusal).symm.trans hout
  · rename_i fact hfact
    obtain ⟨fields, hfields, h⟩ := bind_eq_ok.mp h
    obtain ⟨instant', hinstant', h⟩ := bind_eq_ok.mp h
    cases hinstant.symm.trans hinstant'
    dsimp only at h
    split at h
    · cases h
      cases hout
    rename_i hasks
    split at h
    · cases h
      cases hout
    rename_i retention hretention
    refine ⟨jacket, fact, fields, retention, hmem, hid, hfact, hfields, hretention, ?_⟩
    split at h
    · rename_i q hcurrent
      cases h
      cases hout
      refine ⟨fun j hj he => ?_, currentFor_of_current hasks hcurrent, rfl⟩
      rw [hdb.keyed.jacket_unique hj hmem he]
      exact (fact_eq_ok_iff.mp hfact).1
    · have hwritten := writePackage_written h hout
      refine ⟨fun j hj he => ?_, hwritten.currentFor hfiled rfl hasks⟩
      rw [hwritten.reopened j hj he]
      exact JacketState.noConfusion

/-- `assemblePackage` past its refusals. -/
theorem assemblePackage_of_fact {actor : String}
    (hactor : requireActor w.access input.actingUserLinkId = .ok actor)
    (hjacket : requireJacketWithin w db actor input.jacketId = some jacket)
    (hfact : input.fact w.sources jacket = .ok fact) :
    assemblePackage w db input = assembleFrom w db actor jacket fact := by
  rw [assemblePackage, hactor]
  dsimp only [Bind.bind, Except.bind]
  rw [hjacket]
  dsimp only
  rw [hfact]

/-! ## The second call -/

namespace HoldFile

/-- `assemblePackage`, on the rows as they stand. -/
def assemble (db : HoldFile) (w : JacketWorld) (input : AssembleInput) :
    Except Raise (AssembleOutcome × Cabinet) :=
  assemblePackage (db.world w) db.cabinet input

/-- A call that leaves the checklist of a jacket alone, the jacket live and a package of it
standing. -/
structure Undisturbed (jacketId packageId : String) (db : HoldFile) (call : HoldCall) : Prop where
  checklist : checklistWithin (db.step call).cabinet jacketId = checklistWithin db.cabinet jacketId
  stands : ∃ p ∈ (db.step call).cabinet.jacket_packages,
    p.package_id = packageId ∧ p.state.standing = true
  live : ∀ j ∈ (db.step call).cabinet.deal_jackets, j.jacket_id = jacketId → j.state ≠ .voided

/-- The deal as an assembly left it, as far as the next one is concerned. -/
structure Unchanged (jacketId packageId : String) (db later : HoldFile) : Prop
    extends Follows db later where
  checklist : checklistWithin later.cabinet jacketId = checklistWithin db.cabinet jacketId
  stands : ∃ p ∈ later.cabinet.jacket_packages, p.package_id = packageId ∧ p.state.standing = true
  live : ∀ j ∈ later.cabinet.deal_jackets, j.jacket_id = jacketId → j.state ≠ .voided

theorem Unchanged.step {jacketId packageId : String} {db later : HoldFile} {call : HoldCall}
    (h : Unchanged jacketId packageId db later) (hcall : Undisturbed jacketId packageId later call) :
    Unchanged jacketId packageId db (later.step call) := by
  have hstep := step_follows h.coherent call
  constructor
  case toFollows =>
    exact ⟨hstep.coherent, h.grows.trans hstep.grows, fun j hj => hstep.bound (h.bound hj)⟩
  case checklist => exact hcall.checklist.trans h.checklist
  case stands => exact hcall.stands
  case live => exact hcall.live

end HoldFile

/-- Where an assembly has a version to show, the next one finds the same package in place and
writes nothing: at whatever instant, for whoever may ask, as long as the sources and what is asked
of the items are what they were and the same configuration is in force. -/
theorem reassembly_writes_nothing (calls more : List HoldCall) {w w' : JacketWorld}
    {input input' : AssembleInput} {out : AssembleOutcome} {after : Cabinet}
    (h : (HoldFile.after calls).assemble w input = .ok (out, after)) {p : Package}
    {docs : List PackageDocument} (hout : out.shown = some (p, docs)) {db later : HoldFile}
    (hdb : db = { HoldFile.after calls with cabinet := after })
    (hmore : Along HoldFile.step (HoldFile.Undisturbed input.jacketId p.package_id) db more)
    (hlater : later = run HoldFile.step db more) {jacket : DealJacket} {actor : String}
    (hactor : requireActor w'.access input'.actingUserLinkId = .ok actor)
    (hjacket : requireJacketWithin w' later.cabinet actor input'.jacketId = some jacket)
    (hsame : input'.jacketId = input.jacketId)
    (hversion : input'.expectedVersion = jacket.authorization_version)
    (hsources : w'.sources = w.sources) {instant instant' : Int}
    (hinstant : w.cast w.clock = .ok instant) (hinstant' : w'.cast w'.clock = .ok instant')
    (hconfiguration : resolveConfigurationWithin w'.configuration (jacket.scope instant') =
      resolveConfigurationWithin w.configuration (jacket.scope instant)) :
    ∃ q ∈ later.cabinet.jacket_packages, ∃ docs', q.package_id = p.package_id ∧
      docs'.map PackageDocument.content = docs.map PackageDocument.content ∧
      later.assemble w' input' = .ok (.already_current q docs', later.cabinet) := by
  obtain ⟨hcoherent, hfiled⟩ := HoldFile.after_filed calls
  generalize HoldFile.after calls = start at *
  obtain ⟨bound, fact, fields, retention, hbound, hid, hfact, hfields, hretention, hlive, hcurrent,
    hdocs⟩ := assemblePackage_shown (w := start.world w) hcoherent hfiled hinstant h hout
  have hcall : db = start.step (.jacket (.assemblePackage w input)) := by
    have hstep : start.step (.jacket (.assemblePackage w input)) =
      { start with cabinet := committed start.cabinet (start.assemble w input) } := rfl
    rw [hdb, hstep, h]
    rfl
  have hfirst := HoldFile.step_follows hcoherent (.jacket (.assemblePackage w input))
  rw [← hcall] at hfirst
  have hcabinet : db.cabinet = after := by rw [hdb]
  -- the run in between
  have hbetween : HoldFile.Unchanged input.jacketId p.package_id db later := by
    rw [hlater]
    refine Along.invariant (fun _ _ hd hcall => hd.step hcall) hmore ?_
    refine ⟨⟨hfirst.coherent, .refl _, List.Subset.refl _⟩, rfl, ?_, ?_⟩
    · exact ⟨p, hcabinet ▸ hcurrent.package, rfl, hcurrent.stands⟩
    · exact hcabinet ▸ hid ▸ hlive
  -- the jacket is the one the first assembly read
  obtain ⟨hmem, hjacketId⟩ := of_requireJacketWithin hjacket
  have hbinding : jacket.binding = bound.binding := by
    obtain ⟨k, hk, hkb⟩ := mem_map.mp (hbetween.bound (hfirst.bound (mem_map_of_mem hbound)))
    have hkid : k.jacket_id = bound.jacket_id := (congrArg DealJacket.jacket_id hkb :)
    rw [← hkb, hbetween.coherent.keyed.jacket_unique hk hmem]
    exact hkid.trans (hid.trans (hsame.symm.trans hjacketId.symm))
  have hjid : jacket.jacket_id = bound.jacket_id := (congrArg DealJacket.jacket_id hbinding :)
  have hscope : jacket.scope instant = bound.scope instant :=
    (congrArg (fun b : DealJacket => b.scope instant) hbinding :)
  -- the package is the one it showed
  obtain ⟨q, hq, hqid, hqst⟩ := hbetween.stands
  have hgrows : Grows after later.cabinet := hcabinet ▸ hbetween.grows
  have hfound := hcurrent.persist hbetween.coherent hgrows hq hqid hqst
    (hcabinet ▸ hid ▸ hbetween.checklist)
  have hdocuments := hgrows.documentsOfPackage hcurrent.package
  rw [hdocs] at hdocuments
  refine ⟨q, hq, documentsOfPackageWithin later.cabinet q.package_id, hqid, ?_, ?_⟩
  · rw [hqid]
    exact hdocuments
  · have hevents : (later.world w').sources = { (start.world w).sources with
        legal_hold_events := later.legal_hold_events.map HoldEvent.toLegalHoldEvent } := by
      rw [HoldFile.world, hsources]
      rfl
    have hfact' : input'.fact (later.world w').sources jacket = .ok fact := by
      rw [hevents]
      exact fact_of_binding _ hfact hbinding
        (hbetween.live jacket hmem (hjacketId.trans hsame)) hversion.symm
    have hfields' : assembleFieldsWithin (later.world w').sources jacket fact = .ok fields := by
      rw [hevents, assembleFieldsWithin_of_binding _ hbinding]
      exact hfields
    rw [HoldFile.assemble, assemblePackage_of_fact (w := later.world w') hactor hjacket hfact']
    refine (CurrentFor.assembleFrom_eq (w := later.world w') hbetween.coherent (hjid ▸ hfound)
      hfields' hinstant' ?_ hretention :)
    rw [← hscope]
    exact hconfiguration

namespace CashDeal

def opened : List HoldCall :=
  [.jacket (.openJacket (world midnight) manager scenario.desking_case_id)]

def assembled : HoldFile :=
  (HoldFile.after opened).step (.jacket (.assemblePackage (world midnight) ⟨manager, jacketId, 1⟩))

def readiedAndHeld : List HoldCall :=
  [ .jacket (.markReviewReady (world midnight) ⟨manager, packageId, 2⟩),
    .placeLegalHold (world (midnight + 1)) "6a000000-0000-4000-8020-000000000001"
      ⟨manager, jacketId, "a claim was made", some "2026-117", 2⟩ ]

theorem readiedAndHeld_undisturbed :
    Along HoldFile.step (HoldFile.Undisturbed jacketId packageId) assembled readiedAndHeld := by
  refine ⟨⟨rfl, ⟨_, mem_cons_self, rfl, rfl⟩, ?_⟩, ⟨rfl, ⟨_, mem_cons_self, rfl, rfl⟩, ?_⟩,
    trivial⟩
  · decide +kernel
  · decide +kernel

end CashDeal

theorem reassembly_writes_nothing_readied :
    ∃ q ∈ (run HoldFile.step CashDeal.assembled CashDeal.readiedAndHeld).cabinet.jacket_packages,
      ∃ docs, q.package_id = CashDeal.packageId ∧
        (run HoldFile.step CashDeal.assembled CashDeal.readiedAndHeld).assemble
          (CashDeal.redrawn (CashDeal.midnight + 2)) ⟨CashDeal.manager, CashDeal.jacketId, 3⟩ =
        .ok (.already_current q docs,
          (run HoldFile.step CashDeal.assembled CashDeal.readiedAndHeld).cabinet) := by
  obtain ⟨out, p, docs, hfirst, hout, hp⟩ : ∃ out p docs,
      (HoldFile.after CashDeal.opened).assemble (CashDeal.world CashDeal.midnight)
        ⟨CashDeal.manager, CashDeal.jacketId, 1⟩ = .ok (out, CashDeal.assembled.cabinet) ∧
      out.shown = some (p, docs) ∧ p.package_id = CashDeal.packageId :=
    ⟨_, _, _, rfl, rfl, rfl⟩
  have hdb : CashDeal.assembled =
      { HoldFile.after CashDeal.opened with cabinet := CashDeal.assembled.cabinet } := rfl
  have hjacket : requireJacketWithin (CashDeal.redrawn (CashDeal.midnight + 2))
      (run HoldFile.step CashDeal.assembled CashDeal.readiedAndHeld).cabinet CashDeal.manager
      CashDeal.jacketId = some (CashDeal.jacket .open 3) := rfl
  have hagain : ∃ q ∈ (run HoldFile.step CashDeal.assembled
      CashDeal.readiedAndHeld).cabinet.jacket_packages, ∃ docs', q.package_id = p.package_id ∧
      docs'.map PackageDocument.content = docs.map PackageDocument.content ∧
      (run HoldFile.step CashDeal.assembled CashDeal.readiedAndHeld).assemble
          (CashDeal.redrawn (CashDeal.midnight + 2)) ⟨CashDeal.manager, CashDeal.jacketId, 3⟩ =
        .ok (.already_current q docs',
          (run HoldFile.step CashDeal.assembled CashDeal.readiedAndHeld).cabinet) :=
    reassembly_writes_nothing CashDeal.opened CashDeal.readiedAndHeld hfirst hout hdb
      (hp ▸ CashDeal.readiedAndHeld_undisturbed) rfl CashDeal.requireActor_manager hjacket rfl rfl rfl
      (CashDeal.cast_clock CashDeal.midnight) (CashDeal.cast_clock CashDeal.midnight) rfl
  obtain ⟨q, hq, docs', hid, -, hagain⟩ := hagain
  exact ⟨q, hq, docs', hid.trans hp, hagain⟩

end Dealership.Jacket
