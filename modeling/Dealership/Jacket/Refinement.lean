import Dealership.Jacket.Coherence

/-!
# Every command is a sequence of moves

A command of the source reads, refuses or writes; what it writes is a sequence of
the moves of `Dealership.Jacket.Moves`, most often one.  The moves whose labels
matter to a property of runs are issued by the commands that `Call.Issues` says,
in the state it says.
-/

namespace Dealership.Jacket

open Library List

variable {db : Cabinet} {now actor token packageId : String} {jacket : DealJacket}
  {out : MoveOutcome} {input : SendInput} {p : Package} {c : Ceremony} {signer : Signer}
  {db' : Cabinet}

/-- The version an assembly call goes on to write. -/
def AssembleInput.Writes (input : AssembleInput) (w : JacketWorld) (db : Cabinet)
    (jacket : DealJacket) (a : Assembly) : Prop :=
  ∃ actor fact fields instant retention,
    requireActor w.access input.actingUserLinkId = .ok actor ∧
    requireJacketWithin w db actor input.jacketId = some jacket ∧
    input.fact w.sources jacket = .ok fact ∧
    assembleFieldsWithin w.sources jacket fact = .ok fields ∧
    w.cast w.clock = .ok instant ∧
    (resolveConfigurationWithin w.configuration (jacket.scope instant)).retention = some retention ∧
    a = assemblyOf db jacket (resolveConfigurationWithin w.configuration (jacket.scope instant))
      fields retention ∧
    a.current db = none

/-- The item a waiver call goes on to waive. -/
def WaiveInput.Waives (input : WaiveInput) (w : JacketWorld) (db : Cabinet) (item : ChecklistItem) :
    Prop :=
  ∃ actor jacket,
    requireActor w.access input.actingUserLinkId = .ok actor ∧
    requireJacketWithin w db actor input.jacketId = some jacket ∧
    w.isEligibleManager actor jacket.rooftop_id = true ∧
    loadItemForUpdate db input.jacketId input.itemId = some item ∧ input.refusal item = none

/-- The unsigned signer a call signs for, and the instant it records. -/
def Call.Signs (db : Cabinet) (s : Signer) (instant : Int) : Call → Prop
  | .signAsCustomer w token _ now =>
    laneSigner w db token now = .ok s ∧ s.state ≠ .signed ∧
    ∃ callerNow, w.cast now = .ok callerNow ∧ instant = signingInstant w.now s.consented_at callerNow
  | .signAsDealerRepresentative w input =>
    dealerSigner db input.ceremonyId input.actingUserLinkId = some s ∧ s.state ≠ .signed ∧
    ∃ callerNow, w.cast (input.now.getD w.clock) = .ok callerNow ∧
      instant = signingInstant w.now s.consented_at callerNow
  | _ => False

/-- The signer without a consent a call consents for, and the instant it records. -/
def Call.Consents (db : Cabinet) (s : Signer) (instant : Int) : Call → Prop
  | .consentToElectronicRecords w token _ now =>
    laneSigner w db token now = .ok s ∧ s.consented_at = none ∧ instant = w.now
  | .signAsDealerRepresentative w input =>
    dealerSigner db input.ceremonyId input.actingUserLinkId = some s ∧ s.consented_at = none ∧
    instant = w.now
  | _ => False

/-- The moves a call makes when it finds the rows `db`.  A dealer's representative
consents and signs in one call, so the signature is made in a state whose signers
differ from those of `db` by a consent. -/
def Call.Issues (db : Cabinet) (call : Call) (d : Cabinet) : Label → Prop
  | .routine => True
  | .waived jacketId =>
    d = db ∧ ∃ w input item,
      call = .waiveRequirement w input ∧ input.Waives w db item ∧ item.jacket_id = jacketId
  | .failed j => d = db ∧ ∃ w input a,
      call = .assemblePackage w input ∧ input.Writes w db j a ∧ a.failed = true
  | .consented s now => d = db ∧ call.Consents db s now
  | .signed s instant =>
    d.signing_ceremonies = db.signing_ceremonies ∧
    d.ceremony_signers.map (fun r => (r.ceremony_id, r.signed_at)) =
      db.ceremony_signers.map (fun r => (r.ceremony_id, r.signed_at)) ∧
    ∃ r, call.Signs db r instant ∧ r.ceremony_id = s.ceremony_id

/-! ## Statements -/

theorem updatePackages_eq_ok {hit : Package → Bool} {f : Package → Package}
    (h : updatePackages hit f db = .ok db') : db' = db.setPackages hit f := by
  obtain ⟨_, _, h⟩ := bind_eq_ok.mp h
  obtain ⟨_, _, h⟩ := bind_eq_ok.mp h
  cases h
  rfl

theorem movePackageWithin_eq_ok {fromStates : PackageState → Bool} {target : PackageState}
    {reason : Option String} {expectedVersion : Nat} {after : Option Cabinet}
    (h : movePackageWithin packageId fromStates target reason expectedVersion db = .ok after) :
    ∃ hit : Package → Bool,
      (∀ k, hit k = true ↔ k.package_id = packageId ∧ fromStates k.state = true ∧
        k.authorization_version = expectedVersion) ∧
      ((after = none ∧ ∀ k ∈ db.jacket_packages, hit k = false) ∨
        after = some (db.setPackages hit (Package.moved target reason)) ∧
          ∃ p ∈ db.jacket_packages, hit p = true) := by
  refine ⟨fun k => k.package_id = packageId && fromStates k.state &&
    k.authorization_version = expectedVersion, fun k => by simp [and_assoc], ?_⟩
  rw [movePackageWithin] at h
  split at h
  · rename_i hany
    cases hu : updatePackages (fun k : Package => k.package_id = packageId && fromStates k.state &&
        k.authorization_version = expectedVersion) (Package.moved target reason) db with
    | error e =>
      rw [hu] at h
      cases h
    | ok d =>
      rw [hu] at h
      cases h
      exact .inr ⟨congrArg some (updatePackages_eq_ok hu), any_eq_true.mp hany⟩
  · rename_i hany
    cases h
    refine .inl ⟨rfl, fun k hk => ?_⟩
    rw [← Bool.not_eq_true]
    exact fun hh => hany (any_eq_true.mpr ⟨k, hk, hh⟩)

/-! ## Opening and the checklist -/

theorem ItemsKept.refl (items : List ChecklistItem) : ItemsKept items items where
  keys := id
  waivers := fun i hi hw => ⟨i, hi, rfl, hw⟩

theorem ItemsKept.trans {as bs cs : List ChecklistItem} (hab : ItemsKept as bs)
    (hbc : ItemsKept bs cs) : ItemsKept as cs where
  keys := fun h => hbc.keys (hab.keys h)
  waivers := by
    intro i hi hw
    obtain ⟨r, hr, hj, hw'⟩ := hbc.waivers i hi hw
    obtain ⟨q, hq, hj', hw''⟩ := hab.waivers r hr hw'
    exact ⟨q, hq, hj'.trans hj, hw''⟩

theorem ItemsKept.updateWhere {items : List ChecklistItem} {hit : ChecklistItem → Prop}
    [DecidablePred hit] {f : ChecklistItem → ChecklistItem} (hid : ∀ i, (f i).item_id = i.item_id)
    (hst : ∀ i, (f i).state = .satisfied) : ItemsKept items (updateWhere hit f items) where
  keys := by
    intro h
    exact nodup_map_updateWhere h fun i _ => hid i
  waivers := by
    intro i hi hw
    rcases updateWhere_cases hi with ⟨hi, -⟩ | ⟨r, -, -, rfl⟩
    · exact ⟨i, hi, rfl, hw⟩
    · rw [hst] at hw
      cases hw

theorem insertItem_eq_ok {i : ChecklistItem} (hi : i.state = .missing)
    (h : insertItem db i = .ok db') : ∃ items, db' = { db with jacket_checklist_items := items } ∧
      ItemsKept db.jacket_checklist_items items := by
  rw [insertItem] at h
  split at h
  · cases h
    exact ⟨_, rfl, .refl _⟩
  obtain ⟨_, hfresh, h⟩ := bind_eq_ok.mp h
  cases h
  refine ⟨_, rfl, fun hkeys => nodup_key_insert hkeys ?_, ?_⟩
  · simpa using ensure_eq_ok.mp hfresh
  · intro r hr hw
    rcases mem_inserted hr with hr | rfl
    · exact ⟨r, hr, rfl, hw⟩
    · rw [hi] at hw
      cases hw

theorem resolveChecklist_eq_ok {w : JacketWorld} {instant : Int}
    (h : resolveChecklist w jacket instant db = .ok db') :
    ∃ items, db' = { db with jacket_checklist_items := items } ∧
      ItemsKept db.jacket_checklist_items items := by
  refine foldlM_invariant (I := fun d => ∃ items, d = { db with jacket_checklist_items := items } ∧
    ItemsKept db.jacket_checklist_items items) ?_ ⟨_, rfl, .refl _⟩ h
  rintro _ r - d' ⟨items, rfl, hkept⟩ hstep
  obtain ⟨items', rfl, hkept'⟩ := insertItem_eq_ok rfl hstep
  exact ⟨items', rfl, hkept.trans hkept'⟩

section Commands

variable {db' : Cabinet} {w : JacketWorld} {admits : Cabinet → Label → Prop} {pkg : Package}
  {jacketId reason version : String} {roles : List SignerRole} {a : Assembly} {s : Signer}
  {lane : EventLane}

/-- `openJacketWithin` leaves the rows as they are, or adds a jacket and its checklist. -/
theorem openJacketWithin_eq_ok {caseId : String} {out : OpenJacketOutcome}
    (h : openJacketWithin w db actor caseId = .ok (out, db')) : (db' = db ∧ ∀ j, out ≠ .opened j) ∨
    ∃ fact rooftop instant, getApprovedDeskingVersionWithin w.sources caseId = some fact ∧
      out = .opened (jacketOf w actor rooftop fact) ∧
      (db.deal_jackets.find? fun j => j.desking_case_id = caseId ∧ j.state ≠ .voided) = none ∧
      (∀ r ∈ db.deal_jackets, r.jacket_id ≠ w.newJacketId) ∧
      resolveChecklist w (jacketOf w actor rooftop fact) instant
        { db with deal_jackets := db.deal_jackets ++ [jacketOf w actor rooftop fact] } =
          .ok db' := by
  obtain ⟨user, hactor, hrun⟩ := bind_eq_ok.mp h
  obtain rfl := requireActor_eq_ok hactor
  split at hrun
  · split at hrun <;> cases hrun <;> exact .inl ⟨rfl, fun _ => OpenJacketOutcome.noConfusion⟩
  rename_i hinactive
  split at hrun
  · cases hrun
    refine .inl ⟨rfl, fun j => ?_⟩
    rw [notApproved]
    split
    · exact OpenJacketOutcome.noConfusion
    · split <;> exact OpenJacketOutcome.noConfusion
  · rename_i fact hfact
    split at hrun
    · obtain ⟨rooftop, _, hrun⟩ := bind_eq_ok.mp hrun
      split at hrun
      · cases hrun
        exact .inl ⟨rfl, fun _ => OpenJacketOutcome.noConfusion⟩
      obtain ⟨inserted, hinsert, hrun⟩ := bind_eq_ok.mp hrun
      obtain ⟨instant, _, hrun⟩ := bind_eq_ok.mp hrun
      obtain ⟨resolved, hresolve, hrun⟩ := bind_eq_ok.mp hrun
      cases hrun
      obtain ⟨_, hfresh, hinsert⟩ := bind_eq_ok.mp hinsert
      obtain ⟨_, _, hinsert⟩ := bind_eq_ok.mp hinsert
      cases hinsert
      exact .inr ⟨fact, rooftop.legal_entity_id, instant, hfact, rfl, hinactive, fun r hr =>
        of_decide_eq_true (all_eq_true.mp (ensure_eq_ok.mp hfresh) r hr), hresolve⟩
    · cases hrun
      exact .inl ⟨rfl, fun _ => OpenJacketOutcome.noConfusion⟩

theorem openJacketWithin_moves (hr : ∀ d, admits d .routine) {caseId : String}
    {out : OpenJacketOutcome} (h : openJacketWithin w db actor caseId = .ok (out, db')) :
    Moves admits db db' := by
  rcases openJacketWithin_eq_ok h with ⟨rfl, -⟩ | ⟨_, _, _, -, -, -, hfresh, hresolve⟩
  · exact .refl
  · obtain ⟨items, rfl, hkept⟩ := resolveChecklist_eq_ok hresolve
    exact Moves.single (hr _) (Move.opened _ items _ _ _ hfresh rfl hkept)

theorem satisfyWithEvidence_eq_ok {input : SatisfyInput} {out : ChecklistOutcome}
    (h : satisfyWithEvidence w db input = .ok (out, db')) :
    db' = db ∨ ∃ item ∈ db.jacket_checklist_items, input.refusal item = none ∧
      db' = db.updateItems (fun i => i.item_id = item.item_id)
        (.evidenced input.evidenceUri input.evidenceSha256) := by
  obtain ⟨_, _, h⟩ := bind_eq_ok.mp h
  split at h
  · cases h
    exact .inl rfl
  split at h
  · cases h
    exact .inl rfl
  rename_i item hitem
  split at h
  · cases h
    exact .inl rfl
  rename_i hrefusal
  obtain ⟨_, _, h⟩ := bind_eq_ok.mp h
  cases h
  exact .inr ⟨item, (of_find?_eq_some hitem).1, hrefusal, rfl⟩

theorem satisfyWithEvidence_moves (hr : ∀ d, admits d .routine) {input : SatisfyInput}
    {out : ChecklistOutcome} (h : satisfyWithEvidence w db input = .ok (out, db')) :
    Moves admits db db' := by
  rcases satisfyWithEvidence_eq_ok h with rfl | ⟨item, -, -, rfl⟩
  · exact .refl
  · refine Moves.single (hr _) (Move.evidenced _ _ _ _ ?_)
    exact ItemsKept.updateWhere (fun _ => rfl) fun _ => rfl

theorem waiveRequirement_eq_ok {input : WaiveInput} {out : ChecklistOutcome}
    (h : waiveRequirement w db input = .ok (out, db')) :
    db' = db ∨ ∃ actor, ∃ item ∈ db.jacket_checklist_items, input.Waives w db item ∧
      db' = db.updateItems (fun i => i.item_id = item.item_id) (.waive actor input w.now) := by
  obtain ⟨actor, hactor, h⟩ := bind_eq_ok.mp h
  split at h
  · cases h
    exact .inl rfl
  rename_i jacket hjacket
  split at h
  · cases h
    exact .inl rfl
  rename_i hmanager
  split at h
  · cases h
    exact .inl rfl
  rename_i item hitem
  split at h
  · cases h
    exact .inl rfl
  rename_i hrefusal
  obtain ⟨_, _, h⟩ := bind_eq_ok.mp h
  cases h
  exact .inr ⟨actor, item, (of_find?_eq_some hitem).1,
    ⟨actor, jacket, hactor, hjacket, not_not.mp hmanager, hitem, hrefusal⟩, rfl⟩

theorem waiveRequirement_moves {input : WaiveInput}
    (hw : ∀ item, input.Waives w db item → admits db (.waived item.jacket_id))
    {out : ChecklistOutcome} (h : waiveRequirement w db input = .ok (out, db')) :
    Moves admits db db' := by
  rcases waiveRequirement_eq_ok h with rfl | ⟨actor, item, hitem, hwaives, rfl⟩
  · exact .refl
  · exact Moves.single (hw item hwaives) (Move.waived item
      (ChecklistItem.waive actor input w.now) _ _ _ hitem fun _ => ⟨rfl, rfl⟩)

/-! ## Assembly -/

theorem isPredecessor_predecessorPackageWithin (db : Cabinet) (jacketId : String) :
    IsPredecessor db jacketId (predecessorPackageWithin db jacketId) := by
  have hmem : ∀ p, p ∈ (db.jacket_packages.filter fun p =>
      p.jacket_id = jacketId ∧ p.state.standing).insertionSort
        (fun a b => b.version_no ≤ a.version_no) ↔
      p ∈ db.jacket_packages ∧ p.jacket_id = jacketId ∧ p.state.standing = true := by
    intro p
    rw [mem_insertionSort, mem_filter, decide_eq_true_iff]
  cases hp : predecessorPackageWithin db jacketId with
  | none =>
    intro p hp' hj
    rw [← Bool.not_eq_true]
    intro hst
    have hin := (hmem p).mpr ⟨hp', hj, hst⟩
    rw [predecessorPackageWithin, head?_eq_none_iff] at hp
    rw [hp] at hin
    exact not_mem_nil hin
  | some p =>
    rw [predecessorPackageWithin] at hp
    exact (hmem p).mp (mem_of_head? hp)

theorem supersede_eq_ok (h : supersede a db = .ok db') :
    ∃ reason, db' = { db with
      jacket_packages := retired a.predecessor reason db.jacket_packages
      signing_ceremonies := retiredCeremonies a.predecessor db.signing_ceremonies } := by
  rw [supersede] at h
  split at h
  · rename_i hnone
    cases h
    refine ⟨none, ?_⟩
    rw [hnone, retired, retiredCeremonies, updateWhere_of_forall_not (by simp),
      updateWhere_of_forall_not (by simp)]
  · rename_i p hsome
    obtain ⟨moved, hmoved, h⟩ := bind_eq_ok.mp h
    cases h
    obtain rfl := updatePackages_eq_ok hmoved
    refine ⟨some ("superseded by version " ++ decimal a.versionNo), ?_⟩
    rw [hsome, retired, retiredCeremonies]
    simp [Cabinet.setPackages, Cabinet.updateCeremonies, updateWhere]

theorem insertPackage_eq_ok (h : insertPackage p db = .ok db') :
    (∀ k ∈ db.jacket_packages, k.package_id ≠ p.package_id) ∧
      db' = { db with jacket_packages := db.jacket_packages ++ [p] } := by
  obtain ⟨_, hfresh, h⟩ := bind_eq_ok.mp h
  obtain ⟨_, _, h⟩ := bind_eq_ok.mp h
  obtain ⟨_, _, h⟩ := bind_eq_ok.mp h
  cases h
  exact ⟨by simpa using ensure_eq_ok.mp hfresh, rfl⟩

theorem storeDocuments_eq_ok {rs : List (RenderedDocument × PackageDocument)}
    (h : rs.foldlM storeDocument db = .ok db') :
    ∃ items bl, db' = { db with
      jacket_checklist_items := items
      document_blobs := bl
      package_documents := db.package_documents ++ rs.map (·.2) } ∧
      ItemsKept db.jacket_checklist_items items := by
  induction rs generalizing db with
  | nil =>
    cases h
    exact ⟨db'.jacket_checklist_items, db'.document_blobs, by simp, .refl _⟩
  | cons r rs ih =>
    rw [foldlM_cons] at h
    obtain ⟨d, hd, h⟩ := bind_eq_ok.mp h
    obtain ⟨_, _, hd⟩ := bind_eq_ok.mp hd
    cases hd
    obtain ⟨items, bl, rfl, hkept⟩ := ih h
    refine ⟨items, bl, by simp [Cabinet.updateItems, Cabinet.insertBlob], .trans ?_ hkept⟩
    exact ItemsKept.updateWhere (fun _ => rfl) fun _ => rfl

theorem mem_checklistWithin {i : ChecklistItem} :
    i ∈ checklistWithin db jacketId ↔ i ∈ db.jacket_checklist_items ∧ i.jacket_id = jacketId := by
  rw [checklistWithin, mem_insertionSort, mem_filter, decide_eq_true_iff]

theorem unreviewed_of_not_required (hitems : a.items = checklistWithin db jacketId)
    (h : (a.carriesUnapproved || a.hasWaivers) = false) :
    (∀ r ∈ a.rendered, r.plan.template.approval_status = .approved) ∧
    ∀ i ∈ db.jacket_checklist_items, i.jacket_id = jacketId → i.state ≠ .waived := by
  obtain ⟨happroved, hwaivers⟩ := Bool.or_eq_false_iff.mp h
  constructor
  · intro r hr
    have hr' := any_eq_false.mp happroved r hr
    simpa using hr'
  · intro i hi hj
    have hi' := any_eq_false.mp hwaivers i (hitems ▸ mem_checklistWithin.mpr ⟨hi, hj⟩)
    simpa using hi'

theorem updateWhere_last {ps : List Package} {f : Package → Package}
    (h : ∀ k ∈ ps, k.package_id ≠ p.package_id) :
    updateWhere (fun k => decide (k.package_id = p.package_id) = true) f (ps ++ [p]) =
      ps ++ [f p] := by
  have hps : updateWhere (fun k => decide (k.package_id = p.package_id) = true) f ps = ps :=
    updateWhere_of_forall_not fun k hk => by simpa using h k hk
  rw [updateWhere, map_append, map_singleton, if_pos (decide_eq_true rfl)]
  exact congrArg (· ++ [f p]) hps

/-- An id that no package has after one of them stepped aside, none had before. -/
theorem ne_of_retired {predecessor : Option Package} {reason : Option String} {ps : List Package}
    (h : ∀ k ∈ retired predecessor reason ps, k.package_id ≠ packageId) :
    ∀ k ∈ ps, k.package_id ≠ packageId := by
  intro k hk
  by_cases hhit : some k.package_id = predecessor.map (·.package_id)
  · exact h (Package.moved .superseded reason k) (mem_updateWhere_of_pos hk hhit)
  · exact h k (mem_updateWhere_of_neg hk hhit)

/-- The rows a version is put into: its predecessor has stepped aside for it. -/
def Cabinet.versioned (db : Cabinet) (w : JacketWorld) (actor : String) (jacket : DealJacket)
    (a : Assembly) (reason : Option String) : Cabinet :=
  { db with
    jacket_packages := retired a.predecessor reason db.jacket_packages ++ [a.package w actor jacket]
    package_fields := db.package_fields ++ a.fields.map (w.newPackageId, ·)
    signing_ceremonies := retiredCeremonies a.predecessor db.signing_ceremonies }

theorem writePackage_eq_ok {out : AssembleOutcome}
    (h : writePackage w actor jacket a db = .ok (out, db')) :
    ∃ reason, (∀ k ∈ retired a.predecessor reason db.jacket_packages,
        k.package_id ≠ w.newPackageId) ∧
      (a.failed = true ∧ out = .render_failed (a.package w actor jacket) a.renderFailures ∧
          db' = (db.versioned w actor jacket a reason).updateJacket jacket.jacket_id
            (fun j => { j with authorization_version := j.authorization_version + 1 }) ∨
        ¬ a.failed = true ∧ ∃ documents stored,
          documents = a.rendered.zipIdx.map (fun r => r.1.row w w.newPackageId a.retention
            (jacketHeldWithin w.sources jacket.jacket_id) r.2) ∧
          (a.rendered.zip documents).foldlM storeDocument (db.versioned w actor jacket a reason) =
            .ok stored ∧
          out = .assembled ((a.package w actor jacket).sealed
            (packageHashOf (documents.map (·.content_sha256))) documents.length) documents
            (a.predecessor.map (·.package_id)) ∧
          db' = ({ stored with jacket_packages := retired a.predecessor reason db.jacket_packages ++
            [(a.package w actor jacket).sealed (packageHashOf (documents.map (·.content_sha256)))
              documents.length] } : Cabinet).updateJacket jacket.jacket_id
                (DealJacket.moved .open)) := by
  obtain ⟨d, hd, h⟩ := bind_eq_ok.mp h
  obtain ⟨reason, rfl⟩ := supersede_eq_ok hd
  obtain ⟨d, hd, h⟩ := bind_eq_ok.mp h
  obtain ⟨hfresh, rfl⟩ := insertPackage_eq_ok hd
  obtain ⟨d, hd, h⟩ := bind_eq_ok.mp h
  obtain ⟨_, _, hd⟩ := bind_eq_ok.mp hd
  obtain ⟨_, _, hd⟩ := bind_eq_ok.mp hd
  cases hd
  refine ⟨reason, hfresh, ?_⟩
  split at h
  · rename_i hfail
    cases h
    exact .inl ⟨hfail, rfl, rfl⟩
  · rename_i hfail
    obtain ⟨stored, hstored, h⟩ := bind_eq_ok.mp h
    obtain ⟨d, hd, h⟩ := bind_eq_ok.mp h
    cases h
    obtain rfl := updatePackages_eq_ok hd
    refine .inr ⟨hfail, _, stored, rfl, hstored, rfl, ?_⟩
    obtain ⟨items, bl, rfl, -⟩ := storeDocuments_eq_ok hstored
    rw [Cabinet.setPackages, updateWhere_last hfresh]
    rfl

theorem writePackage_moves (hr : ∀ d, admits d .routine) (hjacket : jacket ∈ db.deal_jackets)
    (hitems : a.items = checklistWithin db jacket.jacket_id)
    (hpred : IsPredecessor db jacket.jacket_id a.predecessor)
    (hfailed : a.failed = true → admits db (.failed jacket)) {out : AssembleOutcome}
    (h : writePackage w actor jacket a db = .ok (out, db')) : Moves admits db db' := by
  obtain ⟨reason, hfresh, ⟨hfail, -, rfl⟩ | ⟨hfail, _, stored, rfl, hstored, -, rfl⟩⟩ :=
    writePackage_eq_ok h
  · refine Moves.single (hfailed hfail) (Move.failed jacket a.predecessor reason
      (a.package w actor jacket) _ _ _ _ hjacket rfl hpred (ne_of_retired hfresh) ?_
        fun _ => ⟨rfl, rfl⟩)
    exact if_pos hfail
  · obtain ⟨items, bl, rfl, hkept⟩ := storeDocuments_eq_ok hstored
    rw [map_snd_zip (by simp)]
    refine Moves.single (hr _) (Move.assembled jacket a.predecessor reason _ _ items _ _ _ hjacket
      rfl hpred (ne_of_retired hfresh) (if_neg hfail) ?_ ?_ hkept)
    · intro doc hdoc
      obtain ⟨r, -, rfl⟩ := mem_map.mp hdoc
      rfl
    · intro hreview
      obtain ⟨happroved, hwaivers⟩ := unreviewed_of_not_required hitems hreview
      refine ⟨fun doc hdoc t ht => ?_, hwaivers⟩
      obtain ⟨r, hrm, rfl⟩ := mem_map.mp hdoc
      cases ht
      exact happroved r.1 (fst_mem_of_mem_zipIdx hrm)

theorem of_requireJacketWithin (h : requireJacketWithin w db actor jacketId = some jacket) :
    jacket ∈ db.deal_jackets ∧ jacket.jacket_id = jacketId := by
  rw [requireJacketWithin] at h
  split at h
  · cases h
  rename_i hfind
  split at h
  · cases h
    exact of_find?_eq_some hfind
  · cases h

theorem assemblePackage_eq_ok {input : AssembleInput} {out : AssembleOutcome}
    (h : assemblePackage w db input = .ok (out, db')) :
    db' = db ∨ ∃ actor jacket a, jacket ∈ db.deal_jackets ∧ input.Writes w db jacket a ∧
      writePackage w actor jacket a db = .ok (out, db') := by
  obtain ⟨actor, hactor, h⟩ := bind_eq_ok.mp h
  split at h
  · cases h
    exact .inl rfl
  rename_i jacket hjacket
  split at h
  · cases h
    exact .inl rfl
  rename_i fact hfact
  obtain ⟨fields, hfields, h⟩ := bind_eq_ok.mp h
  obtain ⟨instant, hinstant, h⟩ := bind_eq_ok.mp h
  dsimp only at h
  split at h
  · cases h
    exact .inl rfl
  split at h
  · cases h
    exact .inl rfl
  rename_i retention hretention
  split at h
  · cases h
    exact .inl rfl
  rename_i hcurrent
  exact .inr ⟨actor, jacket, _, (of_requireJacketWithin hjacket).1,
    ⟨actor, fact, fields, instant, retention, hactor, hjacket, hfact, hfields, hinstant,
      hretention, rfl, hcurrent⟩, h⟩

theorem assemblePackage_moves (hr : ∀ d, admits d .routine) {input : AssembleInput}
    (hfailed : ∀ j a, input.Writes w db j a → a.failed = true → admits db (.failed j))
    {out : AssembleOutcome} (h : assemblePackage w db input = .ok (out, db')) :
    Moves admits db db' := by
  rcases assemblePackage_eq_ok h with rfl | ⟨actor, jacket, a, hmem, hwrites, h⟩
  · exact .refl
  · have hlooks := hfailed jacket a hwrites
    obtain ⟨_, _, _, _, _, -, -, -, -, -, -, rfl, -⟩ := hwrites
    exact writePackage_moves hr hmem rfl (isPredecessor_predecessorPackageWithin db _) hlooks h

/-! ## Review and sending -/

theorem id_of_requirePackageWithin
    (h : requirePackageWithin w db actor packageId = some (pkg, jacket)) :
    pkg.package_id = packageId := by
  rw [requirePackageWithin] at h
  split at h
  · cases h
  rename_i hfind
  split at h
  · cases h
  · cases h
    exact (of_find?_eq_some hfind).2

theorem of_requirePackageWithin
    (h : requirePackageWithin w db actor packageId = some (pkg, jacket)) :
    pkg ∈ db.jacket_packages ∧ jacket ∈ db.deal_jackets ∧ jacket.jacket_id = pkg.jacket_id := by
  rw [requirePackageWithin] at h
  split at h
  · cases h
  rename_i hfind
  split at h
  · cases h
  rename_i hjacket
  cases h
  exact ⟨(of_find?_eq_some hfind).1, of_requireJacketWithin hjacket⟩

theorem markReviewReady_eq_ok {input : PackageInput}
    (h : markReviewReady w db input = .ok (out, db')) :
    db' = db ∨ ∃ pkg ∈ db.jacket_packages, ∃ hit, input.readyRefusal db pkg = none ∧
      (∀ k, hit k = true → k.package_id = pkg.package_id ∧ k.state = .draft) ∧
      db' = db.setPackages hit (Package.moved .review_ready none) := by
  obtain ⟨_, _, h⟩ := bind_eq_ok.mp h
  split at h
  · cases h
    exact .inl rfl
  rename_i pkg jacket hpkg
  split at h
  · cases h
    exact .inl rfl
  rename_i hrefusal
  obtain ⟨after, hafter, h⟩ := bind_eq_ok.mp h
  obtain ⟨hit, hhit, ⟨rfl, -⟩ | ⟨rfl, -⟩⟩ := movePackageWithin_eq_ok hafter
  · cases h
    exact .inl rfl
  · cases h
    exact .inr ⟨pkg, (of_requirePackageWithin hpkg).1, hit, hrefusal, fun k hh =>
      ⟨((hhit k).mp hh).1, of_decide_eq_true ((hhit k).mp hh).2.1⟩, rfl⟩

theorem markReviewReady_moves (hr : ∀ d, admits d .routine) {input : PackageInput}
    (h : markReviewReady w db input = .ok (out, db')) : Moves admits db db' := by
  rcases markReviewReady_eq_ok h with rfl | ⟨pkg, -, hit, -, hhit, rfl⟩
  · exact .refl
  · exact Moves.single (hr _) (Move.readied hit _ _ _ fun k _ hh => (hhit k hh).2)

theorem reviewPackage_eq_ok {input : PackageInput} (h : reviewPackage w db input = .ok (out, db')) :
    db' = db ∨ ∃ actor packageId,
      db' = db.setPackages (fun k => k.package_id = packageId) (.stamped actor w.now) := by
  obtain ⟨actor, _, h⟩ := bind_eq_ok.mp h
  split at h
  · cases h
    exact .inl rfl
  rename_i pkg jacket _
  split at h
  · cases h
    exact .inl rfl
  split at h
  · cases h
    exact .inl rfl
  obtain ⟨after, hafter, h⟩ := bind_eq_ok.mp h
  cases h
  exact .inr ⟨actor, pkg.package_id, updatePackages_eq_ok hafter⟩

theorem reviewPackage_moves (hr : ∀ d, admits d .routine) {input : PackageInput}
    (h : reviewPackage w db input = .ok (out, db')) : Moves admits db db' := by
  rcases reviewPackage_eq_ok h with rfl | ⟨actor, packageId, rfl⟩
  · exact .refl
  · exact Moves.single (hr _) (Move.reviewed _ actor w.now _ _ _)

theorem insertCeremony_eq_ok (h : insertCeremony c db = .ok db') :
    (∀ r ∈ db.signing_ceremonies, r.ceremony_id ≠ c.ceremony_id) ∧
    (∀ r ∈ db.signing_ceremonies, r.package_id ≠ c.package_id) ∧
      db' = { db with signing_ceremonies := db.signing_ceremonies ++ [c] } := by
  obtain ⟨_, hfresh, h⟩ := bind_eq_ok.mp h
  obtain ⟨_, hfirst, h⟩ := bind_eq_ok.mp h
  cases h
  exact ⟨by simpa using ensure_eq_ok.mp hfresh, by simpa using ensure_eq_ok.mp hfirst, rfl⟩

theorem invite_eq_ok (h : invite db s = .ok db') :
    (∀ r ∈ db.ceremony_signers, r.signer_id ≠ s.signer_id) ∧ db' = { db with
      ceremony_signers := db.ceremony_signers ++ [s]
      ceremony_events := db.ceremony_events ++ [invitationEvent s] } := by
  obtain ⟨d, hd, h⟩ := bind_eq_ok.mp h
  cases h
  obtain ⟨_, _, hd⟩ := bind_eq_ok.mp hd
  obtain ⟨_, hfresh, hd⟩ := bind_eq_ok.mp hd
  obtain ⟨_, _, hd⟩ := bind_eq_ok.mp hd
  obtain ⟨_, _, hd⟩ := bind_eq_ok.mp hd
  cases hd
  exact ⟨by simpa using ensure_eq_ok.mp hfresh, rfl⟩

theorem inviteAll_eq_ok {signers : List Signer} (h : signers.foldlM invite db = .ok db') :
    ((db.ceremony_signers.map (·.signer_id)).Nodup →
      ((db.ceremony_signers ++ signers).map (·.signer_id)).Nodup) ∧ db' = { db with
      ceremony_signers := db.ceremony_signers ++ signers
      ceremony_events := db.ceremony_events ++ signers.map invitationEvent } := by
  induction signers generalizing db with
  | nil =>
    cases h
    simp only [append_nil, map_nil]
    exact ⟨id, trivial⟩
  | cons s signers ih =>
    rw [foldlM_cons] at h
    obtain ⟨d, hd, h⟩ := bind_eq_ok.mp h
    obtain ⟨hfresh, rfl⟩ := invite_eq_ok hd
    obtain ⟨hnodup, rfl⟩ := ih h
    rw [append_assoc, singleton_append] at hnodup
    exact ⟨fun hkeys => hnodup (nodup_key_insert hkeys hfresh), by simp⟩

/-- A package `sendPackage` admits is the one its statement on the package finds. -/
theorem of_admits_eq_ok {sha256 : Digest} (h : input.admits pkg = .ok sha256) :
    pkg.state = .review_ready ∧ (pkg.review_required = true → pkg.reviewed_at ≠ none) ∧
      pkg.package_sha256 = some sha256 ∧ pkg.authorization_version = input.expectedVersion := by
  rw [SendInput.admits] at h
  split at h
  · cases h
  rename_i hstate
  split at h
  · cases h
  rename_i hreview
  split at h
  · cases h
  rename_i hsha
  split at h
  · cases h
  rename_i hversion
  cases h
  exact ⟨not_not.mp hstate, fun hr hn => hreview ⟨hr, hn⟩, hsha, not_not.mp hversion⟩

theorem admits_ne_sent {ss : List Signer} : input.admits pkg ≠ .error (.sent p c ss) := by
  intro h
  rw [SendInput.admits] at h
  split at h
  · cases h
  split at h
  · cases h
  split at h
  · cases h
  · split at h <;> cases h

theorem rolesRefusal_ne_sent {ss : List Signer} : rolesRefusal roles ≠ some (.sent p c ss) := by
  intro h
  rw [rolesRefusal] at h
  split at h
  · cases h
  · split at h <;> cases h

theorem signerOf_invited (w : JacketWorld) (actor : String) (party : Party) (jacket : DealJacket)
    (expires : Int) (role : SignerRole) :
    let s := signerOf w actor party jacket expires role
    s.ceremony_id = w.newCeremonyId ∧ s.state = .invited ∧ s.viewed_at = none ∧
      s.consented_at = none := by
  cases role <;> exact ⟨rfl, rfl, rfl, rfl⟩

theorem roles_ne_nil (h : rolesRefusal roles = none) : roles ≠ [] := by
  rintro rfl
  cases h

/-- What the send of a package writes: its ceremony, the signers with the events of both,
and the package itself. -/
structure Sends (db : Cabinet) (pkg : Package) (c : Ceremony) (signers : List Signer)
    (hit : Package → Bool) (actor : String) (db' : Cabinet) : Prop where
  ofPackage : c.package_id = pkg.package_id
  ofJacket : c.jacket_id = pkg.jacket_id
  isSent : c.state = .sent
  fresh : ∀ r ∈ db.signing_ceremonies, r.ceremony_id ≠ c.ceremony_id
  first : ∀ r ∈ db.signing_ceremonies, r.package_id ≠ c.package_id
  someone : signers ≠ []
  keys : (db.ceremony_signers.map (·.signer_id)).Nodup →
    ((db.ceremony_signers ++ signers).map (·.signer_id)).Nodup
  invited : ∀ s ∈ signers, s.ceremony_id = c.ceremony_id ∧ s.state = .invited ∧
    s.viewed_at = none ∧ s.consented_at = none
  hits : hit pkg = true
  ready : ∀ k, hit k = true → k.package_id = pkg.package_id ∧ k.state = .review_ready
  after : db' = { db with
    jacket_packages := updateWhere (fun k => hit k = true) (Package.moved .sent none)
      db.jacket_packages
    signing_ceremonies := db.signing_ceremonies ++ [c]
    ceremony_signers := db.ceremony_signers ++ signers
    ceremony_events := db.ceremony_events ++
      (⟨c.ceremony_id, none, "ceremony.created", .staff, some actor⟩ ::
        signers.map invitationEvent) }

theorem writeCeremony_eq_ok {sha256 : Digest} {out : SendOutcome} (hmem : pkg ∈ db.jacket_packages)
    (hjacket : jacket.jacket_id = pkg.jacket_id) (hadmits : input.admits pkg = .ok sha256)
    (hroles : rolesRefusal roles = none)
    (h : writeCeremony w actor pkg jacket sha256 roles input db = .ok (out, db')) :
    ∃ c signers hit, out = .sent (pkg.moved .sent none) c signers ∧
      Sends db pkg c signers hit actor db' := by
  obtain ⟨party, _, h⟩ := bind_eq_ok.mp h
  obtain ⟨expires, _, h⟩ := bind_eq_ok.mp h
  obtain ⟨d, hd, h⟩ := bind_eq_ok.mp h
  obtain ⟨hfresh, hfirst, rfl⟩ := insertCeremony_eq_ok hd
  obtain ⟨tokenExpires, _, h⟩ := bind_eq_ok.mp h
  obtain ⟨d, hd, h⟩ := bind_eq_ok.mp h
  obtain ⟨hkeys, rfl⟩ := inviteAll_eq_ok hd
  obtain ⟨after, hafter, h⟩ := bind_eq_ok.mp h
  obtain ⟨hstate, -, -, hversion⟩ := of_admits_eq_ok hadmits
  obtain ⟨hit, hhit, ⟨rfl, hmiss⟩ | ⟨rfl, -⟩⟩ := movePackageWithin_eq_ok hafter
  all_goals have hits : hit pkg = true := (hhit pkg).mpr ⟨rfl, decide_eq_true hstate, hversion⟩
  · rw [hmiss pkg hmem] at hits
    cases hits
  · cases h
    refine ⟨_, _, hit, rfl, rfl, hjacket, rfl, hfresh, hfirst, ?_, hkeys, fun s hs => ?_, hits,
      fun k hh => ?_, ?_⟩
    · exact fun hnil => roles_ne_nil hroles (map_eq_nil_iff.mp hnil)
    · obtain ⟨role, -, rfl⟩ := mem_map.mp hs
      exact signerOf_invited w actor party jacket tokenExpires role
    · exact ⟨((hhit k).mp hh).1, of_decide_eq_true ((hhit k).mp hh).2.1⟩
    · simp [Cabinet.setPackages, Cabinet.recordCeremonyEventWithin]

theorem Sends.move (hdb : Coherent db) (hmem : pkg ∈ db.jacket_packages) {signers : List Signer}
    {hit : Package → Bool} (h : Sends db pkg c signers hit actor db') :
    Move db .routine db' := by
  have hsigners : (db.ceremony_signers.map (·.signer_id)).Nodup := by
    have hnodup := hdb.keyed.signers
    rw [map_map] at hnodup
    exact hnodup
  rw [h.after]
  exact .sent pkg hit c signers _ _ _ hmem h.hits (fun k _ => h.ready k)
    (h.ofPackage ▸ h.first) h.fresh h.ofPackage h.ofJacket h.isSent h.someone (h.keys hsigners)
    h.invited

/-- `sendPackage` leaves the rows as they are, or sends a package it admits. -/
theorem sendPackage_eq_ok {out : SendOutcome} (h : sendPackage w db input = .ok (out, db')) :
    (db' = db ∧ ∀ p c signers, out ≠ .sent p c signers) ∨
    ∃ pkg ∈ db.jacket_packages, (∃ sha256, input.admits pkg = .ok sha256) ∧
      ∃ c signers hit actor, out = .sent (pkg.moved .sent none) c signers ∧
        Sends db pkg c signers hit actor db' := by
  obtain ⟨actor, _, h⟩ := bind_eq_ok.mp h
  split at h
  · cases h
    exact .inl ⟨rfl, fun _ _ _ => SendOutcome.noConfusion⟩
  rename_i pkg jacket hpkg
  obtain ⟨hmem, -, hjacket⟩ := of_requirePackageWithin hpkg
  split at h
  · cases h
    exact .inl ⟨rfl, fun _ _ _ => SendOutcome.noConfusion⟩
  split at h
  · cases h
    exact .inl ⟨rfl, fun _ _ _ => SendOutcome.noConfusion⟩
  split at h
  · rename_i refusal hrefusal
    cases h
    exact .inl ⟨rfl, fun p c ss heq => admits_ne_sent (heq ▸ hrefusal)⟩
  · rename_i sha256 hadmits
    dsimp only at h
    split at h
    · rename_i refusal hrefusal
      cases h
      exact .inl ⟨rfl, fun p c ss heq => rolesRefusal_ne_sent (heq ▸ hrefusal)⟩
    · rename_i hroles
      obtain ⟨c, signers, hit, hout, hsends⟩ := writeCeremony_eq_ok hmem hjacket hadmits hroles h
      exact .inr ⟨pkg, hmem, ⟨sha256, hadmits⟩, c, signers, hit, actor, hout, hsends⟩

theorem sendPackage_moves (hdb : Coherent db) (hr : ∀ d, admits d .routine) {out : SendOutcome}
    (h : sendPackage w db input = .ok (out, db')) : Moves admits db db' := by
  rcases sendPackage_eq_ok h with ⟨rfl, -⟩ | ⟨pkg, hmem, -, _, _, _, _, -, hsends⟩
  · exact .refl
  · exact Moves.single (hr _) (hsends.move hdb hmem)

/-! ## Signers -/

theorem of_laneSigner (h : laneSigner w db token now = .ok s) :
    s ∈ db.ceremony_signers ∧ s.lane = .signer_token := by
  rw [laneSigner] at h
  split at h
  · cases h
  split at h
  · cases h
  split at h
  · cases h
  rename_i hfind
  split at h
  · cases h
  cases h
  obtain ⟨hmem, -, hlane⟩ := of_find?_eq_some hfind
  exact ⟨hmem, hlane⟩

theorem mem_of_laneSigner (h : laneSigner w db token now = .ok s) : s ∈ db.ceremony_signers :=
  (of_laneSigner h).1

theorem openSignerSession_moves (hr : ∀ d, admits d .routine) :
    Moves admits db (openSignerSession w db token now).2 := by
  rw [openSignerSession]
  split
  · exact .refl
  · exact .refl
  rename_i signer hsigner
  dsimp only
  rw [viewWithin]
  split
  · rename_i hfirst
    exact Moves.single (hr _) (Move.viewed signer w.now _ _ _ (mem_of_laneSigner hsigner)
      hfirst.1 hfirst.2)
  · exact .refl

theorem of_consentRefusal_eq_none (h : consentRefusal db signer version = none) :
    signer.consented_at = none ∧
    ∃ c ∈ db.signing_ceremonies, c.ceremony_id = signer.ceremony_id ∧ c.state.isOpen = true := by
  rw [consentRefusal] at h
  split at h
  · cases h
  split at h
  · cases h
  rename_i hconsented
  split at h
  · cases h
  split at h
  · cases h
  rename_i c hfind
  split at h
  · cases h
  rename_i hopen
  obtain ⟨hc, hid⟩ := of_find?_eq_some hfind
  exact ⟨by simpa using hconsented, c, hc, hid, not_not.mp hopen⟩

theorem of_consentRefusal_eq_ok {view : Signer}
    (h : consentRefusal db signer version = some (.ok view)) : view = signer := by
  rw [consentRefusal] at h
  split at h
  · cases h
  split at h
  · cases h
    rfl
  split at h
  · cases h
  split at h
  · cases h
  · split at h <;> cases h

theorem consentWithin_cases (hs : signer ∈ db.ceremony_signers) (version : String)
    (lane : EventLane) (actor : Option String) :
    (consentWithin w db signer version lane actor).2 = db ∧
      (∀ view, (consentWithin w db signer version lane actor).1 = .ok view → view = signer) ∨
    (consentWithin w db signer version lane actor).1 = .ok (signer.agreed version w.now) ∧
      signer.consented_at = none ∧
      Move db (.consented signer w.now) (consentWithin w db signer version lane actor).2 ∧
      (consentWithin w db signer version lane actor).2.ceremony_signers =
        updateWhere (fun r => decide (r.signer_id = signer.signer_id) = true)
          (Signer.agreed version w.now) db.ceremony_signers ∧
      (consentWithin w db signer version lane actor).2.signing_ceremonies =
        db.signing_ceremonies := by
  rw [consentWithin]
  split
  · rename_i out hout
    refine .inl ⟨rfl, fun view hview => ?_⟩
    subst hview
    exact of_consentRefusal_eq_ok hout
  · rename_i hnone
    obtain ⟨hconsented, c, hc, hid, hopen⟩ := of_consentRefusal_eq_none hnone
    exact .inr ⟨rfl, hconsented,
      Move.consented signer w.now version c _ _ _ hs hc hid hopen hconsented, rfl, rfl⟩

theorem consentToElectronicRecords_moves
    (hc : ∀ s, laneSigner w db token now = .ok s → s.consented_at = none →
      admits db (.consented s w.now)) :
    Moves admits db (consentToElectronicRecords w db token version now).2 := by
  rw [consentToElectronicRecords]
  split
  · exact .refl
  · exact .refl
  rename_i signer hsigner
  have hmoves : Moves admits db (consentWithin w db signer version .signer none).2 := by
    rcases consentWithin_cases (w := w) (mem_of_laneSigner hsigner) version .signer none with
      ⟨hsame, -⟩ | ⟨-, hunconsented, hmove, -⟩
    · rw [hsame]
      exact .refl
    · exact Moves.single (hc signer hsigner hunconsented) hmove
  generalize consentWithin w db signer version .signer none = out at hmoves ⊢
  obtain ⟨_ | _ | _ | _ | _, _⟩ := out <;> exact hmoves

theorem of_loadCeremonyContext {j : DealJacket} (h : loadCeremonyContext db signer = some (c, p, j))
    : (c ∈ db.signing_ceremonies ∧ c.ceremony_id = signer.ceremony_id) ∧
      p ∈ db.jacket_packages ∧ p.package_id = c.package_id := by
  rw [loadCeremonyContext] at h
  split at h
  · cases h
  rename_i hc
  split at h
  · rename_i hp hj
    cases h
    exact ⟨of_find?_eq_some hc, of_find?_eq_some hp⟩
  · cases h

theorem of_signContext_eq_ok (h : signContext db signer = .ok (c, p)) :
    signer.state ≠ .signed ∧ (c ∈ db.signing_ceremonies ∧ c.ceremony_id = signer.ceremony_id) ∧
      (p ∈ db.jacket_packages ∧ p.package_id = c.package_id) ∧ c.state.isOpen = true ∧
      p.state.signable = true ∧ signer.consented_at ≠ none := by
  rw [signContext] at h
  split at h
  · cases h
  rename_i hunsigned
  split at h
  · cases h
  split at h
  · cases h
  rename_i hctx
  obtain ⟨hc, hp⟩ := of_loadCeremonyContext hctx
  split at h
  · cases h
  rename_i hopen
  split at h
  · cases h
  rename_i hsignable
  split at h
  · cases h
  rename_i hconsented
  cases h
  exact ⟨hunsigned, hc, hp, not_not.mp hopen, not_not.mp hsignable, hconsented⟩

theorem waitingOn_of_refusal_eq_none {input : SignInput} {instant : Int}
    (h : input.refusal db signer c p instant = none) : waitingOn db signer c = [] := by
  rw [SignInput.refusal] at h
  split at h
  · cases h
  split at h
  · cases h
  split at h
  · cases h
  split at h
  · cases h
  · rename_i hwait
    exact not_not.mp hwait

theorem mem_signersOfCeremonyWithin {ceremonyId : String} :
    s ∈ signersOfCeremonyWithin db ceremonyId ↔
      s ∈ db.ceremony_signers ∧ s.ceremony_id = ceremonyId := by
  rw [signersOfCeremonyWithin, mem_insertionSort, mem_filter, decide_eq_true_iff]

theorem turn_of_waitingOn_eq_nil (hc : c.ceremony_id = signer.ceremony_id)
    (h : waitingOn db signer c = []) :
    ∀ r ∈ db.ceremony_signers, r.ceremony_id = signer.ceremony_id →
      r.signing_order < signer.signing_order → r.state = .signed := by
  intro r hr hid hlt
  by_contra hunsigned
  have hmem : r ∈ waitingOn db signer c := by
    rw [waitingOn, mem_filter]
    exact ⟨mem_signersOfCeremonyWithin.mpr ⟨hr, hid.trans hc.symm⟩, by simp [hlt, hunsigned]⟩
  rw [h] at hmem
  exact not_mem_nil hmem

theorem le_signingInstant {now t callerNow : Int} : t ≤ signingInstant now (some t) callerNow :=
  Int.le_trans (Int.le_max_right now t) (Int.le_max_left _ _)

theorem writeSignature_move {instant : Int} (hsignable : Signable db signer c p instant)
    {actor : Option String} {out : SignOutcome}
    (h : writeSignature db signer c p instant lane actor = .ok (out, db')) :
    Move db (.signed signer instant) db' := by
  obtain ⟨d, hd, h⟩ := bind_eq_ok.mp h
  cases h
  have hall : ∀ ev, ((signersOfCeremonyWithin
        { db with
          ceremony_signers := signersAfter db signer c instant
          ceremony_events := ev } c.ceremony_id).all fun s => s.state = .signed) = true ↔
      AllSigned (signersAfter db signer c instant) c.ceremony_id := by
    intro ev
    rw [all_eq_true]
    constructor
    · intro hs s hmem hid
      exact of_decide_eq_true (hs s (mem_signersOfCeremonyWithin.mpr ⟨hmem, hid⟩))
    · intro hs s hmem
      obtain ⟨hmem, hid⟩ := mem_signersOfCeremonyWithin.mp hmem
      exact decide_eq_true (hs s hmem hid)
  rw [recordSignature] at hd
  split at hd
  · rename_i hlast
    obtain ⟨d, hd', hd⟩ := bind_eq_ok.mp hd
    cases hd
    obtain rfl := updatePackages_eq_ok hd'
    exact Move.completed signer c p instant _ _ _ _ hsignable ((hall _).mp hlast) rfl
  · rename_i hmore
    obtain rfl := updatePackages_eq_ok hd
    exact Move.progressed signer c p instant _ _ _ hsignable (mt (hall _).mpr hmore)

theorem signWithin_eq_ok {input : SignInput} {actor : Option String} {out : SignOutcome}
    (h : signWithin w db signer input lane actor now = .ok (out, db')) :
    db' = db ∨ ∃ c p callerNow, signContext db signer = .ok (c, p) ∧ w.cast now = .ok callerNow ∧
      input.refusal db signer c p (signingInstant w.now signer.consented_at callerNow) = none ∧
      writeSignature db signer c p (signingInstant w.now signer.consented_at callerNow) lane actor =
        .ok (out, db') := by
  rw [signWithin] at h
  split at h
  · cases h
    exact .inl rfl
  rename_i c p hctx
  obtain ⟨callerNow, hcast, h⟩ := bind_eq_ok.mp h
  dsimp only at h
  split at h
  · cases h
    exact .inl rfl
  · rename_i hrefusal
    exact .inr ⟨c, p, callerNow, hctx, hcast, hrefusal, h⟩

theorem signWithin_moves (hs : signer ∈ db.ceremony_signers) {input : SignInput}
    {actor : Option String}
    (hsigned : ∀ callerNow, signer.state ≠ .signed → w.cast now = .ok callerNow →
      admits db (.signed signer (signingInstant w.now signer.consented_at callerNow)))
    {out : SignOutcome} (h : signWithin w db signer input lane actor now = .ok (out, db')) :
    Moves admits db db' := by
  rcases signWithin_eq_ok h with rfl | ⟨c, p, callerNow, hctx, hcast, hrefusal, h⟩
  · exact .refl
  · obtain ⟨hunsigned, hc, hp, hopen, hsignable, hconsented⟩ := of_signContext_eq_ok hctx
    obtain ⟨t, ht⟩ := Option.ne_none_iff_exists'.mp hconsented
    refine Moves.single (hsigned callerNow hunsigned hcast) (writeSignature_move ?_ h)
    exact
      { signer := hs
        ceremony := hc.1
        package := hp.1
        ofCeremony := hc.2
        ofPackage := hp.2
        unsigned := hunsigned
        isOpen := hopen
        signable := hsignable
        consented := ⟨t, ht, by rw [ht]; exact le_signingInstant⟩
        turn := turn_of_waitingOn_eq_nil hc.2 (waitingOn_of_refusal_eq_none hrefusal) }

theorem signAsCustomer_eq_ok {input : SignInput} {out : SignOutcome}
    (h : signAsCustomer w db token input now = .ok (out, db')) :
    db' = db ∨ ∃ signer, laneSigner w db token now = .ok signer ∧
      signWithin w db signer input .signer none now = .ok (out, db') := by
  rw [signAsCustomer] at h
  split at h
  · cases h
    exact .inl rfl
  · cases h
    exact .inl rfl
  · rename_i signer hsigner
    exact .inr ⟨signer, hsigner, h⟩

theorem signAsCustomer_moves {input : SignInput}
    (hsigned : ∀ s callerNow, laneSigner w db token now = .ok s → s.state ≠ .signed →
      w.cast now = .ok callerNow → admits db (.signed s (signingInstant w.now s.consented_at callerNow)))
    {out : SignOutcome} (h : signAsCustomer w db token input now = .ok (out, db')) :
    Moves admits db db' := by
  rcases signAsCustomer_eq_ok h with rfl | ⟨signer, hsigner, h⟩
  · exact .refl
  · exact signWithin_moves (mem_of_laneSigner hsigner) (hsigned signer · hsigner · ·) h

theorem signAsDealerRepresentative_moves (hdb : Coherent db) {input : DealerInput}
    (hconsented : ∀ s, dealerSigner db input.ceremonyId input.actingUserLinkId = some s →
      s.consented_at = none → admits db (.consented s w.now))
    (hsigned : ∀ s s' d callerNow,
      dealerSigner db input.ceremonyId input.actingUserLinkId = some s → s.state ≠ .signed →
      w.cast (input.now.getD w.clock) = .ok callerNow → s'.ceremony_id = s.ceremony_id →
      d.signing_ceremonies = db.signing_ceremonies →
      d.ceremony_signers.map (fun r => (r.ceremony_id, r.signed_at)) =
        db.ceremony_signers.map (fun r => (r.ceremony_id, r.signed_at)) →
      admits d (.signed s' (signingInstant w.now s.consented_at callerNow)))
    {out : SignOutcome} (h : signAsDealerRepresentative w db input = .ok (out, db')) :
    Moves admits db db' := by
  obtain ⟨actor, hactor, hrun⟩ := bind_eq_ok.mp h
  obtain rfl := requireActor_eq_ok hactor
  split at hrun
  · cases hrun
    exact .refl
  rename_i signer hsigner
  have hmem : signer ∈ db.ceremony_signers := (of_find?_eq_some hsigner).1
  rcases consentWithin_cases (w := w) hmem input.consentTextVersion .staff
    (some input.actingUserLinkId) with
    ⟨hsame, hview⟩ | ⟨hok, hunconsented, hmove, hrows, hceremonies⟩
  · -- nothing was written for the consent
    split at hrun
    · rename_i view d hconsent
      rw [hconsent] at hsame hview
      obtain rfl := hview view rfl
      obtain rfl : d = db := hsame
      refine signWithin_moves hmem (fun callerNow hunsigned hcast => ?_) hrun
      exact hsigned view view d callerNow hsigner hunsigned hcast rfl rfl rfl
    all_goals
      rename_i hconsent
      rw [hconsent] at hsame
      cases hrun
      rw [← hsame]
      exact .refl
  · -- the consent is recorded first
    generalize hconsent : consentWithin w db signer input.consentTextVersion .staff
      (some input.actingUserLinkId) = consented at hrun hok hmove hrows hceremonies
    obtain ⟨_, d⟩ := consented
    obtain rfl := hok
    have hview : signer.agreed input.consentTextVersion w.now ∈ d.ceremony_signers := by
      rw [hrows]
      exact mem_updateWhere_of_pos hmem (decide_eq_true rfl)
    have hunsigned : signer.state ≠ .signed := by
      intro hsigned
      have hsome := hdb.consented signer hmem hsigned
      rw [hunconsented] at hsome
      exact Bool.false_ne_true hsome
    refine (Moves.single (hconsented signer hsigner hunconsented) hmove).trans ?_
    refine signWithin_moves hview (fun callerNow _ hcast => ?_) hrun
    -- consenting at the instant of signing does not move that instant
    have hlabel := hsigned signer (signer.agreed input.consentTextVersion w.now) d callerNow
      hsigner hunsigned hcast rfl hceremonies (by rw [hrows, map_updateWhere fun _ _ => by rfl])
    rw [hunconsented] at hlabel
    exact hlabel

theorem of_declineContext_eq_ok (h : declineContext db signer reason = .ok (c, p))
    : signer.state ≠ .signed ∧ (c ∈ db.signing_ceremonies ∧ c.ceremony_id = signer.ceremony_id) ∧
      p.package_id = c.package_id ∧ c.state.isOpen = true := by
  rw [declineContext] at h
  split at h
  · cases h
  split at h
  · cases h
  rename_i hunsigned
  split at h
  · cases h
  split at h
  · cases h
  rename_i hctx
  obtain ⟨hc, -, hid⟩ := of_loadCeremonyContext hctx
  split at h
  · cases h
  rename_i hopen
  cases h
  exact ⟨hunsigned, hc, hid, not_not.mp hopen⟩

theorem declineAsCustomer_eq_ok {out : DeclineOutcome}
    (h : declineAsCustomer w db token reason now = .ok (out, db')) :
    db' = db ∨ ∃ signer c p, laneSigner w db token now = .ok signer ∧
      declineContext db signer reason = .ok (c, p) ∧
      db' = (((db.updateSigner signer.signer_id (Signer.refuse reason w.now)).updateCeremonies
          (fun r => r.ceremony_id = c.ceremony_id) (Ceremony.moved .declined)).setPackages
        (fun k => k.package_id = p.package_id && k.state.signable)
        (Package.moved .voided (some "declined by signer"))).recordCeremonyEventWithin
          (signerEvent signer "signer.declined" .signer none) := by
  rw [declineAsCustomer] at h
  split at h
  · cases h
    exact .inl rfl
  · cases h
    exact .inl rfl
  rename_i signer hsigner
  split at h
  · cases h
    exact .inl rfl
  rename_i c p hctx
  obtain ⟨d, hd, h⟩ := bind_eq_ok.mp h
  cases h
  obtain rfl := updatePackages_eq_ok hd
  exact .inr ⟨signer, c, p, hsigner, hctx, rfl⟩

theorem declineAsCustomer_moves (hr : ∀ d, admits d .routine) {out : DeclineOutcome}
    (h : declineAsCustomer w db token reason now = .ok (out, db')) :
    Moves admits db db' := by
  rcases declineAsCustomer_eq_ok h with rfl | ⟨signer, c, p, hsigner, hctx, rfl⟩
  · exact .refl
  · obtain ⟨hunsigned, hc, hp, hopen⟩ := of_declineContext_eq_ok hctx
    exact Moves.single (hr _) (Move.declined signer c p reason w.now _ _ _
      (mem_of_laneSigner hsigner) hc.1 hc.2 hp hopen hunsigned)

/-! ## Voiding and the clock -/

theorem voidCeremonyOfPackageWithin_eq (packageId : String) (db : Cabinet) :
    ∃ ev, voidCeremonyOfPackageWithin packageId db = { db with
      signing_ceremonies :=
        updateWhere (fun c => (c.package_id = packageId && c.state.unfinished) = true)
          (Ceremony.moved .voided) db.signing_ceremonies
      ceremony_events := ev } := by
  rw [voidCeremonyOfPackageWithin]
  split
  · rename_i hnone
    refine ⟨db.ceremony_events, ?_⟩
    rw [updateWhere_of_forall_not fun c hc => find?_eq_none.mp hnone c hc]
  · exact ⟨_, rfl⟩

theorem voidedPackage_move {hit : Package → Bool} {reason : Option String}
    (hp : p ∈ db.jacket_packages) (hits : hit p = true)
    (hlive : ∀ k, hit k = true → k.package_id = p.package_id ∧ k.state.live = true) :
    Move db .routine (voidCeremonyOfPackageWithin p.package_id
      (db.setPackages hit (Package.moved .voided reason))) := by
  obtain ⟨ev, heq⟩ := voidCeremonyOfPackageWithin_eq p.package_id
    (db.setPackages hit (Package.moved .voided reason))
  rw [heq]
  exact Move.voidedPackage p hit reason _ _ _ hp hits fun k _ hh => hlive k hh

theorem voidPackage_eq_ok {input : VoidPackageInput} (h : voidPackage w db input = .ok (out, db')) :
    db' = db ∨ ∃ p ∈ db.jacket_packages, ∃ hit reason, p.package_id = input.packageId ∧
      hit p = true ∧ (∀ k, hit k = true → k.package_id = p.package_id ∧ k.state.live = true) ∧
      db' = voidCeremonyOfPackageWithin p.package_id
        (db.setPackages hit (Package.moved .voided reason)) := by
  obtain ⟨_, _, h⟩ := bind_eq_ok.mp h
  split at h
  · cases h
    exact .inl rfl
  rename_i pkg jacket hpkg
  split at h
  · cases h
    exact .inl rfl
  split at h
  · cases h
    exact .inl rfl
  obtain ⟨after, hafter, h⟩ := bind_eq_ok.mp h
  obtain ⟨hit, hhit, ⟨rfl, -⟩ | ⟨rfl, p, hp, hits⟩⟩ := movePackageWithin_eq_ok hafter
  · cases h
    exact .inl rfl
  · cases h
    have hid : p.package_id = pkg.package_id := ((hhit p).mp hits).1
    rw [← hid]
    exact .inr ⟨p, hp, hit, _, hid.trans (id_of_requirePackageWithin hpkg), hits, fun k hh =>
      ⟨((hhit k).mp hh).1.trans hid.symm, ((hhit k).mp hh).2.1⟩, rfl⟩

theorem voidPackage_moves (hr : ∀ d, admits d .routine) {input : VoidPackageInput}
    (h : voidPackage w db input = .ok (out, db')) : Moves admits db db' := by
  rcases voidPackage_eq_ok h with rfl | ⟨p, hp, hit, reason, -, hits, hlive, rfl⟩
  · exact .refl
  · exact Moves.single (hr _) (voidedPackage_move hp hits hlive)

theorem live_cases (hdb : Coherent db) (jacketId : String) :
    (db.jacket_packages.filter fun p => p.jacket_id = jacketId && p.state.live) = [] ∨
    ∃ p ∈ db.jacket_packages, p.state.live = true ∧
      (db.jacket_packages.filter fun p => p.jacket_id = jacketId && p.state.live) = [p] := by
  have hmem : ∀ p ∈ db.jacket_packages.filter (fun p => p.jacket_id = jacketId && p.state.live),
      p ∈ db.jacket_packages ∧ p.jacket_id = jacketId ∧ p.state.live = true := by
    intro p hp
    rw [mem_filter, Bool.and_eq_true, decide_eq_true_iff] at hp
    exact hp
  have hlength := length_le_one_of_forall_eq (hdb.packages_nodup.filter _) fun p hp q hq =>
    hdb.oneStanding p (hmem p hp).1 q (hmem q hq).1 ((hmem p hp).2.1.trans (hmem q hq).2.1.symm)
      (standing_of_live (hmem p hp).2.2) (standing_of_live (hmem q hq).2.2)
  cases hl : db.jacket_packages.filter (fun p => p.jacket_id = jacketId && p.state.live) with
  | nil => exact .inl rfl
  | cons p l =>
    rw [hl, length_cons] at hlength
    obtain rfl := length_eq_zero_iff.mp (Nat.le_zero.mp (Nat.le_of_succ_le_succ hlength))
    have hp := hmem p (hl ▸ mem_cons_self)
    exact .inr ⟨p, hp.1, hp.2.2, rfl⟩

/-- One turn of `voidJacket`'s loop, on a live package as it stands. -/
theorem voidWithJacket_move (hp : p ∈ db.jacket_packages) (hlive : p.state.live = true)
    (h : voidWithJacket reason db p = .ok db') :
    Move db .routine db' := by
  obtain ⟨after, hafter, h⟩ := bind_eq_ok.mp h
  obtain ⟨hit, hhit, ⟨rfl, hmiss⟩ | ⟨rfl, -⟩⟩ := movePackageWithin_eq_ok hafter
  · have hits := (hhit p).mpr ⟨rfl, hlive, rfl⟩
    rw [hmiss p hp] at hits
    cases hits
  · cases h
    refine voidedPackage_move hp ((hhit p).mpr ⟨rfl, hlive, rfl⟩) fun k hh => ?_
    exact ⟨((hhit k).mp hh).1, ((hhit k).mp hh).2.1⟩

theorem VoidJacketInput.refusal_unmoved {input : VoidJacketInput} {jacket : DealJacket}
    {out : JacketMoveOutcome} (h : input.refusal jacket = some out) : ∀ j, out ≠ .moved j := by
  rw [refusal] at h
  split at h
  · cases h
    exact fun _ => JacketMoveOutcome.noConfusion
  split at h
  · cases h
    exact fun _ => JacketMoveOutcome.noConfusion
  split at h
  · cases h
    exact fun _ => JacketMoveOutcome.noConfusion
  · cases h

theorem VoidJacketInput.refusal_none {input : VoidJacketInput} {jacket : DealJacket}
    (h : input.refusal jacket = none) :
    jacket.state ≠ .voided ∧ jacket.authorization_version = input.expectedVersion := by
  rw [refusal] at h
  split at h
  · cases h
  rename_i hstate
  split at h
  · cases h
  split at h
  · cases h
  · rename_i hversion
    exact ⟨hstate, not_not.mp hversion⟩

theorem voidJacket_eq_ok {input : VoidJacketInput} {out : JacketMoveOutcome}
    (h : voidJacket w db input = .ok (out, db')) :
    (db' = db ∧ ∀ j, out ≠ .moved j) ∨ ∃ jacket ∈ db.deal_jackets, ∃ d,
      jacket.jacket_id = input.jacketId ∧ jacket.state ≠ .voided ∧
      out = .moved (jacket.moved .voided) ∧
      (db.jacket_packages.filter fun p => p.jacket_id = jacket.jacket_id && p.state.live).foldlM
        (voidWithJacket input.reason) db = .ok d ∧
      db' = d.updateJacket jacket.jacket_id (DealJacket.moved .voided) := by
  obtain ⟨_, _, h⟩ := bind_eq_ok.mp h
  split at h
  · cases h
    exact .inl ⟨rfl, fun _ => JacketMoveOutcome.noConfusion⟩
  rename_i jacket hjacket
  obtain ⟨hmem, hid⟩ := of_requireJacketWithin hjacket
  split at h
  · cases h
    exact .inl ⟨rfl, fun _ => JacketMoveOutcome.noConfusion⟩
  split at h
  · rename_i refusal hrefusal
    cases h
    exact .inl ⟨rfl, VoidJacketInput.refusal_unmoved hrefusal⟩
  · rename_i hrefusal
    obtain ⟨d, hd, h⟩ := bind_eq_ok.mp h
    cases h
    exact .inr ⟨jacket, hmem, d, hid, (VoidJacketInput.refusal_none hrefusal).1, rfl, hd, rfl⟩

theorem voidJacket_moves (hdb : Coherent db) (hr : ∀ d, admits d .routine)
    {input : VoidJacketInput} {out : JacketMoveOutcome}
    (h : voidJacket w db input = .ok (out, db')) : Moves admits db db' := by
  rcases voidJacket_eq_ok h with ⟨rfl, -⟩ | ⟨jacket, -, d, -, -, -, hd, rfl⟩
  · exact .refl
  · have hvoided : Move d .routine (d.updateJacket jacket.jacket_id (DealJacket.moved .voided)) :=
      Move.voidedJacket jacket.jacket_id _ _ _
    refine Relation.ReflTransGen.tail ?_ ⟨.routine, hr d, hvoided⟩
    rcases live_cases hdb jacket.jacket_id with hnil | ⟨p, hp, hlive, hone⟩
    · rw [hnil] at hd
      cases hd
      exact .refl
    · rw [hone, foldlM_cons] at hd
      obtain ⟨d', hd', hd⟩ := bind_eq_ok.mp hd
      cases hd
      exact Moves.single (hr _) (voidWithJacket_move hp hlive hd')

theorem expireCeremony_eq_ok {row : Ceremony} (h : expireCeremony db row = .ok db') :
    db' = (((db.updateCeremonies (fun c => c.ceremony_id = row.ceremony_id)
      (Ceremony.moved .expired)).updateSigners
        (fun s => s.ceremony_id = row.ceremony_id && s.state.outstanding)
        (Signer.moved .expired)).setPackages
          (fun p => p.package_id = row.package_id && p.state.signable)
          (Package.moved .expired (some "the signing ceremony expired"))).recordCeremonyEventWithin
            ⟨row.ceremony_id, none, "ceremony.expired", .system, none⟩ := by
  obtain ⟨d, hd, h⟩ := bind_eq_ok.mp h
  cases h
  obtain rfl := updatePackages_eq_ok hd
  rfl

/-- What every turn of the loop over the due ceremonies keeps, the sweep keeps: a turn
finds its ceremony open, and as it was before the sweep. -/
theorem expireDueCeremoniesForTenant_induction {R : Cabinet → Cabinet → Prop} (hdb : Coherent db)
    (hrefl : ∀ d, R d d) (htrans : ∀ {a b c}, R a b → R b c → R a c)
    (hturn : ∀ {d d' row}, row ∈ db.signing_ceremonies → row ∈ d.signing_ceremonies →
      row.state.isOpen = true → expireCeremony d row = .ok d' → R d d')
    {limit n : Nat} (h : expireDueCeremoniesForTenant w db now limit = .ok (n, db')) :
    R db db' := by
  obtain ⟨instant, _, h⟩ := bind_eq_ok.mp h
  obtain ⟨d, hd, h⟩ := bind_eq_ok.mp h
  cases h
  have hopen : ∀ c ∈ dueCeremonies w db instant limit,
      c ∈ db.signing_ceremonies ∧ c.state.isOpen = true := by
    intro c hc
    have hmem := mem_of_mem_take hc
    rw [mem_insertionSort, mem_filter, Bool.and_eq_true, Ceremony.due, Bool.and_eq_true] at hmem
    exact ⟨hmem.1, hmem.2.1.1⟩
  have hkeys : ((dueCeremonies w db instant limit).map (·.ceremony_id)).Nodup := by
    have hkeys := hdb.keyed.ceremonies
    rw [map_map] at hkeys
    refine List.Nodup.sublist ((take_sublist _ _).map _) ?_
    refine ((perm_insertionSort _ _).map _).nodup_iff.mpr ?_
    exact hkeys.sublist (filter_sublist.map _)
  -- the ones still to come are as they were found
  suffices hloop : ∀ (due : List Ceremony) (d : Cabinet), (due.map (·.ceremony_id)).Nodup →
      (∀ c ∈ due, c ∈ db.signing_ceremonies ∧ c ∈ d.signing_ceremonies ∧ c.state.isOpen = true) →
      due.foldlM expireCeremony d = .ok db' → R d db' from
    hloop _ db hkeys (fun c hc => ⟨(hopen c hc).1, hopen c hc⟩) hd
  intro due
  induction due with
  | nil =>
    rintro d - - h
    cases h
    exact hrefl _
  | cons row due ih =>
    intro d hkeys hdue h
    rw [foldlM_cons] at h
    obtain ⟨d', hd', h⟩ := bind_eq_ok.mp h
    obtain ⟨hrow, hrow', hopen⟩ := hdue row mem_cons_self
    rw [map_cons, nodup_cons] at hkeys
    refine htrans (hturn hrow hrow' hopen hd') (ih d' hkeys.2 (fun c hc => ?_) h)
    obtain ⟨hbefore, hnow, hstate⟩ := hdue c (mem_cons_of_mem _ hc)
    have hne : ¬ decide (c.ceremony_id = row.ceremony_id) = true := fun he =>
      hkeys.1 (mem_map.mpr ⟨c, hc, of_decide_eq_true he⟩)
    rw [expireCeremony_eq_ok hd']
    exact ⟨hbefore, mem_updateWhere_of_neg hnow hne, hstate⟩

theorem expireDueCeremoniesForTenant_moves (hdb : Coherent db) (hr : ∀ d, admits d .routine)
    {limit n : Nat} (h : expireDueCeremoniesForTenant w db now limit = .ok (n, db')) :
    Moves admits db db' := by
  refine expireDueCeremoniesForTenant_induction hdb (fun _ => .refl) (fun h h' => h.trans h') ?_ h
  intro d d' row _ hrow hopen hturn
  rw [expireCeremony_eq_ok hturn]
  exact Moves.single (hr _) (Move.expired row _ _ _ _ hrow hopen)

end Commands

/-! ## Every call -/

theorem committed_moves {α : Type} {admits : Cabinet → Label → Prop}
    {r : Except Raise (α × Cabinet)} (h : ∀ out db', r = .ok (out, db') → Moves admits db db') :
    Moves admits db (committed db r) :=
  committed_induction (P := Moves admits db) .refl h

theorem step_moves (hdb : Coherent db) (call : Call) :
    Moves (call.Issues db) db (step db call) := by
  have hr : ∀ c : Call, ∀ d, c.Issues db d .routine := fun _ _ => trivial
  cases call with
  | openJacket w actor caseId =>
    exact committed_moves fun _ _ h => openJacketWithin_moves (hr _) h
  | satisfyWithEvidence w input =>
    exact committed_moves fun _ _ h => satisfyWithEvidence_moves (hr _) h
  | waiveRequirement w input =>
    refine committed_moves fun _ _ h => waiveRequirement_moves (fun item hitem => ?_) h
    exact ⟨rfl, w, input, item, rfl, hitem, rfl⟩
  | assemblePackage w input =>
    refine committed_moves fun _ _ h => assemblePackage_moves (hr _) (fun j a hw hf => ?_) h
    exact ⟨rfl, w, input, a, rfl, hw, hf⟩
  | markReviewReady w input => exact committed_moves fun _ _ h => markReviewReady_moves (hr _) h
  | reviewPackage w input => exact committed_moves fun _ _ h => reviewPackage_moves (hr _) h
  | sendPackage w input => exact committed_moves fun _ _ h => sendPackage_moves hdb (hr _) h
  | openSignerSession w token now => exact openSignerSession_moves (hr _)
  | consentToElectronicRecords w token version now =>
    exact consentToElectronicRecords_moves fun s hs hn => ⟨rfl, hs, hn, rfl⟩
  | signAsCustomer w token input now =>
    refine committed_moves fun _ _ h => signAsCustomer_moves (fun s callerNow hs hu hcast => ?_) h
    exact ⟨rfl, rfl, s, ⟨hs, hu, callerNow, hcast, rfl⟩, rfl⟩
  | signAsDealerRepresentative w input =>
    refine committed_moves fun _ _ h => signAsDealerRepresentative_moves hdb
      (fun s hs hn => ⟨rfl, hs, hn, rfl⟩) (fun s s' d callerNow hs hu hcast hid hcs hrows => ?_) h
    exact ⟨hcs, hrows, s, ⟨hs, hu, callerNow, hcast, rfl⟩, hid.symm⟩
  | declineAsCustomer w token reason now =>
    exact committed_moves fun _ _ h => declineAsCustomer_moves (hr _) h
  | voidPackage w input => exact committed_moves fun _ _ h => voidPackage_moves (hr _) h
  | voidJacket w input => exact committed_moves fun _ _ h => voidJacket_moves hdb (hr _) h
  | expireDueCeremoniesForTenant w now limit =>
    exact committed_moves fun _ _ h => expireDueCeremoniesForTenant_moves hdb (hr _) h

theorem step_coherent (h : Coherent db) (call : Call) : Coherent (step db call) :=
  (step_moves h call).invariant (fun _ _ _ hd _ hm => hm.coherent hd) h

theorem history_coherent (calls : List Call) : Coherent (history calls) :=
  run_invariant (I := Coherent) (fun _ call h => step_coherent h call) Coherent.empty calls

theorem step_invariant {I : Cabinet → Prop} {call : Call} (hdb : Coherent db)
    (hmove : ∀ a l b, Coherent a → I a → call.Issues db a l → Move a l b → I b) (h : I db) :
    I (step db call) := by
  refine ((step_moves hdb call).invariant (I := fun d => Coherent d ∧ I d) ?_ ⟨hdb, h⟩).2
  intro a l b ha hl hm
  exact ⟨hm.coherent ha.1, hmove a l b ha.1 ha.2 hl hm⟩

theorem history_invariant {C : Cabinet → Call → Prop} {I : Cabinet → Prop} (hempty : I Cabinet.empty)
    (hmove : ∀ db call a l b, C db call → Coherent a → I a → call.Issues db a l → Move a l b → I b)
    {calls : List Call} (h : Along step C Cabinet.empty calls) : I (history calls) := by
  refine (Along.invariant (I := fun d => Coherent d ∧ I d) ?_ h ⟨Coherent.empty, hempty⟩).2
  intro db call hdb hc
  exact ⟨step_coherent hdb.1 call,
    step_invariant hdb.1 (fun a l b ha hi hl hm => hmove db call a l b hc ha hi hl hm) hdb.2⟩

end Dealership.Jacket
