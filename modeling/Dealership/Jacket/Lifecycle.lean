import Dealership.Jacket.Assembly

/-!
# The moves a person makes on a package

Marking a package review-ready is blocked by any required checklist item still
missing.  Reviewing is a manager's stamp and moves no state.  Voiding is a
manager's decision and takes the ceremony down with it.
-/

namespace Dealership.Jacket

open Library

inductive MoveOutcome where
  | moved (package : Package)
  | already_there (package : Package)
  | blocked (items : List ChecklistItem)
  | version_conflict (currentVersion : Nat)
  | invalid (error : String)
  | not_found

/-- `movePackageWithin`: the rows it leaves, or `none` on a conflict. -/
def movePackageWithin (packageId : String) (fromStates : PackageState → Bool)
    (target : PackageState) (reason : Option String) (expectedVersion : Nat) (db : Cabinet) :
    Except Raise (Option Cabinet) :=
  let hit := fun k : Package =>
    k.package_id = packageId && fromStates k.state && k.authorization_version = expectedVersion
  if db.jacket_packages.any hit then some <$> updatePackages hit (Package.moved target reason) db
  else pure none

structure PackageInput where
  actingUserLinkId : String
  packageId : String
  expectedVersion : Nat

/-! ## markReviewReady -/

/-- What `markReviewReady` answers without writing, in order. -/
def PackageInput.readyRefusal (input : PackageInput) (db : Cabinet) (pkg : Package) :
    Option MoveOutcome :=
  if pkg.state = .review_ready then some (.already_there pkg)
  else if pkg.state ≠ .draft then some (.invalid s!"a {pkg.state.text} package is not a draft")
  else if pkg.document_count = 0 ∨ pkg.package_sha256 = none then
    some (.invalid "nothing has been rendered into this package")
  else if blockingItems (checklistWithin db pkg.jacket_id) ≠ [] then
    some (.blocked (blockingItems (checklistWithin db pkg.jacket_id)))
  else if pkg.authorization_version ≠ input.expectedVersion then
    some (.version_conflict pkg.authorization_version)
  else none

def markReviewReady (w : JacketWorld) (db : Cabinet) (input : PackageInput) :
    Except Raise (MoveOutcome × Cabinet) := do
  let actor ← requireActor w.access input.actingUserLinkId
  match requirePackageWithin w db actor input.packageId with
  | none => pure (.not_found, db)
  | some (pkg, _) =>
    match input.readyRefusal db pkg with
    | some out => pure (out, db)
    | none => do
      let after ← movePackageWithin pkg.package_id (· = .draft) .review_ready none
        input.expectedVersion db
      match after with
      | none => pure (.version_conflict (pkg.authorization_version + 1), db)
      | some db => pure (.moved (pkg.moved .review_ready none), db)

/-! ## reviewPackage -/

/-- What `reviewPackage` answers without writing, in order. -/
def PackageInput.reviewRefusal (input : PackageInput) (pkg : Package) : Option MoveOutcome :=
  if pkg.reviewed_at.isSome then some (.already_there pkg)
  else if pkg.state ≠ .draft ∧ pkg.state ≠ .review_ready then
    some (.invalid s!"a {pkg.state.text} package is past review")
  else if pkg.authorization_version ≠ input.expectedVersion then
    some (.version_conflict pkg.authorization_version)
  else none

/-- The columns a review sets. -/
def Package.stamped (actor : String) (now : Int) (p : Package) : Package :=
  { p with
    reviewed_by_user_link_id := some actor
    reviewed_at := some now
    authorization_version := p.authorization_version + 1 }

/-- A manager's stamp on a package.  It does not move the state. -/
def reviewPackage (w : JacketWorld) (db : Cabinet) (input : PackageInput) :
    Except Raise (MoveOutcome × Cabinet) := do
  let actor ← requireActor w.access input.actingUserLinkId
  match requirePackageWithin w db actor input.packageId with
  | none => pure (.not_found, db)
  | some (pkg, jacket) =>
    if ¬ w.isEligibleManager actor jacket.rooftop_id then pure (.not_found, db)
    else
      match input.reviewRefusal pkg with
      | some out => pure (out, db)
      | none => do
        let db ← updatePackages (fun k => k.package_id = pkg.package_id)
          (Package.stamped actor w.now) db
        pure (.moved (pkg.stamped actor w.now), db)

/-! ## voidPackage -/

/-- Void the ceremony a package carries, if it has one that is still open. -/
def voidCeremonyOfPackageWithin (packageId : String) (db : Cabinet) : Cabinet :=
  let hit := fun c : Ceremony => c.package_id = packageId && c.state.unfinished
  match db.signing_ceremonies.find? hit with
  | none => db
  | some c => (db.updateCeremonies hit (Ceremony.moved .voided)).recordCeremonyEventWithin
      { ceremony_id := c.ceremony_id
        signer_id := none
        event_type := "ceremony.voided"
        lane := .staff
        actor_user_link_id := none }

structure VoidPackageInput extends PackageInput where
  reason : String

/-- What `voidPackage` answers without writing, in order. -/
def VoidPackageInput.refusal (input : VoidPackageInput) (pkg : Package) : Option MoveOutcome :=
  if pkg.state = .voided then some (.already_there pkg)
  else if ¬ pkg.state.live then
    some (.invalid s!"a {pkg.state.text} package is final and is not voided")
  else if isBlank input.reason then some (.invalid "voiding says why")
  else if pkg.authorization_version ≠ input.expectedVersion then
    some (.version_conflict pkg.authorization_version)
  else none

/-- A manager sets a package aside. -/
def voidPackage (w : JacketWorld) (db : Cabinet) (input : VoidPackageInput) :
    Except Raise (MoveOutcome × Cabinet) := do
  let actor ← requireActor w.access input.actingUserLinkId
  match requirePackageWithin w db actor input.packageId with
  | none => pure (.not_found, db)
  | some (pkg, jacket) =>
    if ¬ w.isEligibleManager actor jacket.rooftop_id then pure (.not_found, db)
    else
      match input.refusal pkg with
      | some out => pure (out, db)
      | none => do
        let reason := some (slice 400 ("voided: " ++ input.reason))
        let after ← movePackageWithin pkg.package_id PackageState.live .voided reason
          input.expectedVersion db
        match after with
        | none => pure (.version_conflict (pkg.authorization_version + 1), db)
        | some db =>
          pure (.moved (pkg.moved .voided reason), voidCeremonyOfPackageWithin pkg.package_id db)

/-! ## voidJacket -/

inductive JacketMoveOutcome where
  | moved (jacket : DealJacket)
  | already_there (jacket : DealJacket)
  | version_conflict (currentVersion : Nat)
  | invalid (error : String)
  | not_found

structure VoidJacketInput where
  actingUserLinkId : String
  jacketId : String
  reason : String
  expectedVersion : Nat

/-- What `voidJacket` answers without writing, in order. -/
def VoidJacketInput.refusal (input : VoidJacketInput) (jacket : DealJacket) :
    Option JacketMoveOutcome :=
  if jacket.state = .voided then some (.already_there jacket)
  else if isBlank input.reason then some (.invalid "voiding says why")
  else if jacket.authorization_version ≠ input.expectedVersion then
    some (.version_conflict jacket.authorization_version)
  else none

/-- One turn of the loop over the live packages; a conflict is passed over. -/
def voidWithJacket (reason : String) (db : Cabinet) (row : Package) : Except Raise Cabinet := do
  let after ← movePackageWithin row.package_id PackageState.live .voided
    (some (slice 400 ("voided with the jacket: " ++ reason))) row.authorization_version db
  pure (voidCeremonyOfPackageWithin row.package_id (after.getD db))

/-- A manager voids the whole jacket.  The live package and its ceremony are
voided with it. -/
def voidJacket (w : JacketWorld) (db : Cabinet) (input : VoidJacketInput) :
    Except Raise (JacketMoveOutcome × Cabinet) := do
  let actor ← requireActor w.access input.actingUserLinkId
  match requireJacketWithin w db actor input.jacketId with
  | none => pure (.not_found, db)
  | some jacket =>
    if ¬ w.isEligibleManager actor jacket.rooftop_id then pure (.not_found, db)
    else
      match input.refusal jacket with
      | some out => pure (out, db)
      | none => do
        let live := db.jacket_packages.filter fun p =>
          p.jacket_id = jacket.jacket_id && p.state.live
        let db ← live.foldlM (voidWithJacket input.reason) db
        pure (.moved (jacket.moved .voided),
          db.updateJacket jacket.jacket_id (DealJacket.moved .voided))

end Dealership.Jacket
