import Dealership.Jacket.Signing

/-!
# The clock, and histories

A ceremony that nobody finished before `expires_at` is expired; the package it
was signing is expired with it, and so are its signers who had not signed.

A history is the list of the jacket's commands in the order they commit.  Every
command carries the world its transaction found: its own clocks, its own
configuration, its own start instant.  Nothing relates the worlds of two
commands, so a command that started first and waited for a lock is a command
with an earlier `now` at a later place in the list.
-/

namespace Dealership.Jacket

open Library

/-- `state IN ('sent', 'in_progress') AND expires_at <= t`. -/
def Ceremony.due (c : Ceremony) (t : Int) : Bool := c.state.isOpen && c.expires_at ≤ t

/-- `state NOT IN ('signed', 'declined', 'expired')`. -/
def SignerState.outstanding : SignerState → Bool
  | .signed | .declined | .expired => false
  | .pending | .invited | .viewed | .consented => true

/-- One turn of the loop over the ceremonies that are due. -/
def expireCeremony (db : Cabinet) (row : Ceremony) : Except Raise Cabinet := do
  let db := db.updateCeremonies (fun c => c.ceremony_id = row.ceremony_id) (Ceremony.moved .expired)
  let db := db.updateSigners
    (fun s => s.ceremony_id = row.ceremony_id && s.state.outstanding) (Signer.moved .expired)
  let db ← updatePackages (fun p => p.package_id = row.package_id && p.state.signable)
    (Package.moved .expired (some "the signing ceremony expired")) db
  pure (db.recordCeremonyEventWithin
    { ceremony_id := row.ceremony_id
      signer_id := none
      event_type := "ceremony.expired"
      lane := .system
      actor_user_link_id := none })

/-- The ceremonies a pass takes: due, not held by another transaction, the
earliest first. -/
def dueCeremonies (w : JacketWorld) (db : Cabinet) (instant : Int) (limit : Nat) : List Ceremony :=
  ((db.signing_ceremonies.filter fun c =>
    c.due instant && !w.lockedElsewhere c.ceremony_id).insertionSort
    fun a b => a.expires_at ≤ b.expires_at).take limit

def expireDueCeremoniesForTenant (w : JacketWorld) (db : Cabinet) (now : String) (limit : Nat) :
    Except Raise (Nat × Cabinet) := do
  let instant ← w.cast now
  let due := dueCeremonies w db instant limit
  let db ← due.foldlM expireCeremony db
  pure (due.length, db)

/-! ## Histories -/

/-- A committed call of a jacket command, with what it found around it. -/
inductive Call where
  | openJacket (w : JacketWorld) (actingUserLinkId deskingCaseId : String)
  | satisfyWithEvidence (w : JacketWorld) (input : SatisfyInput)
  | waiveRequirement (w : JacketWorld) (input : WaiveInput)
  | assemblePackage (w : JacketWorld) (input : AssembleInput)
  | markReviewReady (w : JacketWorld) (input : PackageInput)
  | reviewPackage (w : JacketWorld) (input : PackageInput)
  | sendPackage (w : JacketWorld) (input : SendInput)
  | openSignerSession (w : JacketWorld) (laneToken now : String)
  | consentToElectronicRecords (w : JacketWorld) (laneToken consentTextVersion now : String)
  | signAsCustomer (w : JacketWorld) (laneToken : String) (input : SignInput) (now : String)
  | signAsDealerRepresentative (w : JacketWorld) (input : DealerInput)
  | declineAsCustomer (w : JacketWorld) (laneToken reason now : String)
  | voidPackage (w : JacketWorld) (input : VoidPackageInput)
  | voidJacket (w : JacketWorld) (input : VoidJacketInput)
  | expireDueCeremoniesForTenant (w : JacketWorld) (now : String) (limit : Nat)

/-- The rows a call leaves. -/
def step (db : Cabinet) : Call → Cabinet
  | .openJacket w actor caseId => committed db (openJacketWithin w db actor caseId)
  | .satisfyWithEvidence w input => committed db (satisfyWithEvidence w db input)
  | .waiveRequirement w input => committed db (waiveRequirement w db input)
  | .assemblePackage w input => committed db (assemblePackage w db input)
  | .markReviewReady w input => committed db (markReviewReady w db input)
  | .reviewPackage w input => committed db (reviewPackage w db input)
  | .sendPackage w input => committed db (sendPackage w db input)
  | .openSignerSession w token now => (openSignerSession w db token now).2
  | .consentToElectronicRecords w token version now =>
    (consentToElectronicRecords w db token version now).2
  | .signAsCustomer w token input now => committed db (signAsCustomer w db token input now)
  | .signAsDealerRepresentative w input => committed db (signAsDealerRepresentative w db input)
  | .declineAsCustomer w token reason now => committed db (declineAsCustomer w db token reason now)
  | .voidPackage w input => committed db (voidPackage w db input)
  | .voidJacket w input => committed db (voidJacket w db input)
  | .expireDueCeremoniesForTenant w now limit =>
    committed db (expireDueCeremoniesForTenant w db now limit)

/-- The rows after a history that starts with no jacket. -/
def history (calls : List Call) : Cabinet := run step Cabinet.empty calls

end Dealership.Jacket
