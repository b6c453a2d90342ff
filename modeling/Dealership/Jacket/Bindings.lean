import Dealership.Jacket.Lockstep

/-!
# What a jacket bound, and the fields of a package

What a jacket bound when it was opened, which jacket a package belongs to and the
fields a package was assembled from are columns no statement sets twice.  Opening a
jacket adds a binding, an assembly adds a package with its fields, and every other
call leaves all three as they are.
-/

namespace Dealership.Jacket

open Library List

/-- A jacket without the two columns a command may move. -/
def DealJacket.binding (j : DealJacket) : DealJacket :=
  { j with state := .open, authorization_version := 0 }

def Package.ids (p : Package) : String × String := (p.package_id, p.jacket_id)

/-- The columns no statement sets twice. -/
structure Bindings where
  jackets : List DealJacket
  packages : List (String × String)
  fields : List (String × AssembledField)

def Cabinet.bindings (db : Cabinet) : Bindings where
  jackets := db.deal_jackets.map DealJacket.binding
  packages := db.jacket_packages.map Package.ids
  fields := db.package_fields

/-! ## Statements -/

section Statements

variable {db db' : Cabinet}

theorem updateJacket_bindings (jacketId : String) (f : DealJacket → DealJacket)
    (h : ∀ j, (f j).binding = j.binding) : (db.updateJacket jacketId f).bindings = db.bindings := by
  have hjackets : (db.updateJacket jacketId f).deal_jackets.map DealJacket.binding =
      db.deal_jackets.map DealJacket.binding := map_updateWhere fun j _ => h j
  exact congrArg (fun js => { db.bindings with jackets := js }) hjackets

theorem setPackages_bindings (hit : Package → Bool) {f : Package → Package}
    (h : ∀ p, (f p).ids = p.ids) : (db.setPackages hit f).bindings = db.bindings := by
  have hpackages : (db.setPackages hit f).jacket_packages.map Package.ids =
      db.jacket_packages.map Package.ids := map_updateWhere fun p _ => h p
  exact congrArg (fun ps => { db.bindings with packages := ps }) hpackages

theorem updatePackages_bindings {hit : Package → Bool} {f : Package → Package}
    (h : updatePackages hit f db = .ok db') (hf : ∀ p, (f p).ids = p.ids) :
    db'.bindings = db.bindings := by
  obtain rfl := updatePackages_eq_ok h
  exact setPackages_bindings hit hf

theorem movePackageWithin_bindings {packageId : String} {fromStates : PackageState → Bool}
    {target : PackageState} {reason : Option String} {version : Nat} {after : Option Cabinet}
    (h : movePackageWithin packageId fromStates target reason version db = .ok after) :
    ∀ d ∈ after, d.bindings = db.bindings := by
  obtain ⟨hit, -, ⟨rfl, -⟩ | ⟨rfl, -⟩⟩ := movePackageWithin_eq_ok h
  · exact fun d hd => absurd hd (Option.not_mem_none d)
  · intro d hd
    cases hd
    exact setPackages_bindings hit fun _ => rfl

theorem voidCeremonyOfPackageWithin_bindings (packageId : String) (db : Cabinet) :
    (voidCeremonyOfPackageWithin packageId db).bindings = db.bindings := by
  rw [voidCeremonyOfPackageWithin]
  split <;> rfl

end Statements

/-! ## Commands -/

section Commands

variable {w : JacketWorld} {db db' : Cabinet} {out : MoveOutcome} {now : String}

theorem satisfyWithEvidence_bindings {input : SatisfyInput} {out : ChecklistOutcome}
    (h : satisfyWithEvidence w db input = .ok (out, db')) : db'.bindings = db.bindings := by
  rcases satisfyWithEvidence_eq_ok h with rfl | ⟨_, -, -, rfl⟩ <;> rfl

theorem waiveRequirement_bindings {input : WaiveInput} {out : ChecklistOutcome}
    (h : waiveRequirement w db input = .ok (out, db')) : db'.bindings = db.bindings := by
  rcases waiveRequirement_eq_ok h with rfl | ⟨_, _, -, -, rfl⟩ <;> rfl

theorem markReviewReady_bindings {input : PackageInput}
    (h : markReviewReady w db input = .ok (out, db')) : db'.bindings = db.bindings := by
  rcases markReviewReady_eq_ok h with rfl | ⟨_, -, hit, -, -, rfl⟩
  · rfl
  · exact setPackages_bindings hit fun _ => rfl

theorem reviewPackage_bindings {input : PackageInput}
    (h : reviewPackage w db input = .ok (out, db')) : db'.bindings = db.bindings := by
  rcases reviewPackage_eq_ok h with rfl | ⟨_, _, rfl⟩
  · rfl
  · exact setPackages_bindings _ fun _ => rfl

theorem voidPackage_bindings {input : VoidPackageInput}
    (h : voidPackage w db input = .ok (out, db')) : db'.bindings = db.bindings := by
  rcases voidPackage_eq_ok h with rfl | ⟨_, -, hit, _, -, -, -, rfl⟩
  · rfl
  · exact (voidCeremonyOfPackageWithin_bindings _ _).trans (setPackages_bindings hit fun _ => rfl)

theorem voidWithJacket_bindings {reason : String} {row : Package}
    (h : voidWithJacket reason db row = .ok db') : db'.bindings = db.bindings := by
  obtain ⟨after, hafter, h⟩ := bind_eq_ok.mp h
  cases h
  rw [voidCeremonyOfPackageWithin_bindings]
  cases after with
  | none => rfl
  | some d => exact movePackageWithin_bindings hafter d rfl

theorem voidJacket_bindings {input : VoidJacketInput} {out : JacketMoveOutcome}
    (h : voidJacket w db input = .ok (out, db')) : db'.bindings = db.bindings := by
  rcases voidJacket_eq_ok h with ⟨rfl, -⟩ | ⟨jacket, -, d, -, -, -, hd, rfl⟩
  · rfl
  · have hlive : d.bindings = db.bindings :=
      foldlM_invariant (I := fun d => d.bindings = db.bindings)
        (fun b _ _ b' hb hstep => (voidWithJacket_bindings hstep).trans hb) rfl hd
    exact (updateJacket_bindings jacket.jacket_id (DealJacket.moved .voided) fun _ => rfl).trans
      hlive

theorem sendPackage_bindings {input : SendInput} {out : SendOutcome}
    (h : sendPackage w db input = .ok (out, db')) : db'.bindings = db.bindings := by
  rcases sendPackage_eq_ok h with ⟨rfl, -⟩ | ⟨_, -, -, _, _, hit, _, -, hsends⟩
  · rfl
  · have hkept : (db.setPackages hit (Package.moved .sent none)).bindings = db.bindings :=
      setPackages_bindings hit fun _ => rfl
    rw [hsends.after]
    exact hkept

theorem openSignerSession_bindings {token : String} :
    (openSignerSession w db token now).2.bindings = db.bindings := by
  rw [openSignerSession]
  split
  · rfl
  · rfl
  dsimp only
  rw [viewWithin]
  split <;> rfl

theorem consentWithin_bindings (signer : Signer) (version : String) (lane : EventLane)
    (actor : Option String) :
    (consentWithin w db signer version lane actor).2.bindings = db.bindings := by
  rw [consentWithin]
  split <;> rfl

theorem consentToElectronicRecords_bindings {token version : String} :
    (consentToElectronicRecords w db token version now).2.bindings = db.bindings := by
  rw [consentToElectronicRecords]
  split
  · rfl
  · rfl
  rename_i signer _
  have hkept : (consentWithin w db signer version .signer none).2.bindings = db.bindings :=
    consentWithin_bindings signer version .signer none
  generalize consentWithin w db signer version .signer none = out at hkept ⊢
  obtain ⟨_ | _ | _ | _ | _, _⟩ := out <;> exact hkept

theorem recordSignature_bindings {c : Ceremony} {p : Package} {instant : Int}
    (h : recordSignature c p instant db = .ok db') : db'.bindings = db.bindings := by
  rw [recordSignature] at h
  split at h
  · obtain ⟨d, hd, h⟩ := bind_eq_ok.mp h
    cases h
    have hpackages := updatePackages_bindings hd fun _ => rfl
    exact (updateJacket_bindings c.jacket_id (DealJacket.moved .signed_complete) fun _ => rfl).trans
      hpackages
  · rw [recordProgress] at h
    have hpackages := updatePackages_bindings h fun _ => rfl
    exact hpackages

theorem signWithin_bindings {signer : Signer} {input : SignInput} {lane : EventLane}
    {actor : Option String} {out : SignOutcome}
    (h : signWithin w db signer input lane actor now = .ok (out, db')) :
    db'.bindings = db.bindings := by
  rcases signWithin_eq_ok h with rfl | ⟨_, _, _, -, -, -, h⟩
  · rfl
  · obtain ⟨d, hd, h⟩ := bind_eq_ok.mp h
    cases h
    have hkept := recordSignature_bindings hd
    exact hkept

theorem signAsCustomer_bindings {token : String} {input : SignInput} {out : SignOutcome}
    (h : signAsCustomer w db token input now = .ok (out, db')) : db'.bindings = db.bindings := by
  rcases signAsCustomer_eq_ok h with rfl | ⟨_, -, h⟩
  · rfl
  · exact signWithin_bindings h

theorem signAsDealerRepresentative_bindings {input : DealerInput} {out : SignOutcome}
    (h : signAsDealerRepresentative w db input = .ok (out, db')) : db'.bindings = db.bindings := by
  obtain ⟨actor, -, h⟩ := bind_eq_ok.mp h
  split at h
  · cases h
    rfl
  rename_i signer _
  have hkept : (consentWithin w db signer input.consentTextVersion .staff
      (some actor)).2.bindings = db.bindings :=
    consentWithin_bindings signer input.consentTextVersion .staff (some actor)
  generalize consentWithin w db signer input.consentTextVersion .staff (some actor) = consented
    at h hkept
  obtain ⟨answer, d⟩ := consented
  cases answer with
  | ok view => exact (signWithin_bindings h).trans hkept
  | not_found | expired | closed _ | invalid _ =>
    cases h
    exact hkept

theorem declineAsCustomer_bindings {token reason : String} {out : DeclineOutcome}
    (h : declineAsCustomer w db token reason now = .ok (out, db')) : db'.bindings = db.bindings := by
  rcases declineAsCustomer_eq_ok h with rfl | ⟨_, _, p, -, -, rfl⟩
  · rfl
  · have hkept : (db.setPackages (fun k => k.package_id = p.package_id && k.state.signable)
        (Package.moved .voided (some "declined by signer"))).bindings = db.bindings :=
      setPackages_bindings _ fun _ => rfl
    exact hkept

theorem expireDueCeremoniesForTenant_bindings {limit n : Nat}
    (h : expireDueCeremoniesForTenant w db now limit = .ok (n, db')) :
    db'.bindings = db.bindings := by
  obtain ⟨_, -, h⟩ := bind_eq_ok.mp h
  obtain ⟨d, hd, h⟩ := bind_eq_ok.mp h
  cases h
  refine foldlM_invariant (I := fun d => d.bindings = db.bindings) (fun b _ _ b' hb hstep => ?_)
    rfl hd
  obtain ⟨d', hd', hstep⟩ := bind_eq_ok.mp hstep
  cases hstep
  have hkept := updatePackages_bindings hd' fun _ => rfl
  exact hkept.trans hb

theorem openJacketWithin_bindings {actor caseId : String} {out : OpenJacketOutcome}
    (h : openJacketWithin w db actor caseId = .ok (out, db')) :
    db'.bindings = db.bindings ∨ ∃ fact legalEntityId,
      getApprovedDeskingVersionWithin w.sources caseId = some fact ∧
      db'.bindings = { db.bindings with
        jackets := db.bindings.jackets ++ [(jacketOf w actor legalEntityId fact).binding] } := by
  rcases openJacketWithin_eq_ok h with
    ⟨rfl, -⟩ | ⟨fact, legalEntityId, instant, hfact, -, -, -, hresolve⟩
  · exact .inl rfl
  · obtain ⟨items, rfl, -⟩ := resolveChecklist_eq_ok hresolve
    exact .inr ⟨fact, legalEntityId, hfact,
      congrArg (fun js => { db.bindings with jackets := js }) map_append⟩

theorem writePackage_bindings {actor : String} {jacket : DealJacket} {a : Assembly}
    {out : AssembleOutcome} (h : writePackage w actor jacket a db = .ok (out, db')) :
    db'.bindings = { db.bindings with
      packages := db.bindings.packages ++ [(w.newPackageId, jacket.jacket_id)]
      fields := db.bindings.fields ++ a.fields.map (w.newPackageId, ·) } := by
  obtain ⟨reason, -, ⟨-, -, rfl⟩ | ⟨-, _, _, -, hstored, -, rfl⟩⟩ := writePackage_eq_ok h
  all_goals
    have hretired : (retired a.predecessor reason db.jacket_packages).map Package.ids =
        db.jacket_packages.map Package.ids := map_updateWhere fun _ _ => rfl
  · refine (updateJacket_bindings jacket.jacket_id
      (fun j => { j with authorization_version := j.authorization_version + 1 }) fun _ =>
        rfl).trans ?_
    rw [Cabinet.bindings, Cabinet.versioned, map_append, hretired]
    rfl
  · obtain ⟨items, bl, rfl, -⟩ := storeDocuments_eq_ok hstored
    refine (updateJacket_bindings jacket.jacket_id (DealJacket.moved .open) fun _ => rfl).trans ?_
    rw [Cabinet.bindings, map_append, hretired]
    rfl

theorem assemblePackage_bindings {input : AssembleInput} {out : AssembleOutcome}
    (h : assemblePackage w db input = .ok (out, db')) :
    db'.bindings = db.bindings ∨ ∃ actor jacket fact fields,
      requireJacketWithin w db actor input.jacketId = some jacket ∧
      input.fact w.sources jacket = .ok fact ∧
      assembleFieldsWithin w.sources jacket fact = .ok fields ∧
      db'.bindings = { db.bindings with
        packages := db.bindings.packages ++ [(w.newPackageId, jacket.jacket_id)]
        fields := db.bindings.fields ++ fields.map (w.newPackageId, ·) } := by
  rcases assemblePackage_eq_ok h with rfl | ⟨_, jacket, a, -, hwrites, h⟩
  · exact .inl rfl
  · obtain ⟨actor, fact, fields, _, _, -, hjacket, hfact, hfields, -, -, rfl, -⟩ := hwrites
    exact .inr ⟨actor, jacket, fact, fields, hjacket, hfact, hfields, writePackage_bindings h⟩

end Commands

def Call.binds : Call → Bool
  | .openJacket .. | .assemblePackage .. => true
  | _ => false

/-- A call that neither opens nor assembles leaves the bindings as they are. -/
theorem step_bindings {db : Cabinet} {call : Call} (hcall : call.binds = false) :
    (step db call).bindings = db.bindings := by
  have hcommitted : ∀ {α : Type} {r : Except Raise (α × Cabinet)},
      (∀ out db', r = .ok (out, db') → db'.bindings = db.bindings) →
        (committed db r).bindings = db.bindings :=
    fun h => committed_induction (P := fun d : Cabinet => d.bindings = db.bindings) rfl h
  cases call with
  | openJacket | assemblePackage => cases hcall
  | satisfyWithEvidence w input => exact hcommitted fun _ _ h => satisfyWithEvidence_bindings h
  | waiveRequirement w input => exact hcommitted fun _ _ h => waiveRequirement_bindings h
  | markReviewReady w input => exact hcommitted fun _ _ h => markReviewReady_bindings h
  | reviewPackage w input => exact hcommitted fun _ _ h => reviewPackage_bindings h
  | sendPackage w input => exact hcommitted fun _ _ h => sendPackage_bindings h
  | openSignerSession w token now => exact openSignerSession_bindings
  | consentToElectronicRecords w token version now => exact consentToElectronicRecords_bindings
  | signAsCustomer w token input now => exact hcommitted fun _ _ h => signAsCustomer_bindings h
  | signAsDealerRepresentative w input =>
    exact hcommitted fun _ _ h => signAsDealerRepresentative_bindings h
  | declineAsCustomer w token reason now =>
    exact hcommitted fun _ _ h => declineAsCustomer_bindings h
  | voidPackage w input => exact hcommitted fun _ _ h => voidPackage_bindings h
  | voidJacket w input => exact hcommitted fun _ _ h => voidJacket_bindings h
  | expireDueCeremoniesForTenant w now limit =>
    exact hcommitted fun _ _ h => expireDueCeremoniesForTenant_bindings h

end Dealership.Jacket
