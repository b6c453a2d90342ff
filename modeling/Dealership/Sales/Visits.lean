import Dealership.Sales.Floor

/-!
# Visits

A customer is in the building: they arrive, somebody greets them, somebody takes them on,
and they leave.
-/

namespace Dealership.Sales

open Library
open Inventory (LotLock)

/-! ## The booking -/

def appointmentText : Crm.AppointmentState → String
  | .scheduled => "scheduled"
  | .confirmed => "confirmed"
  | .completed => "completed"
  | .cancelled => "cancelled"
  | .no_show => "no_show"

/-- `APPOINTMENT_TRANSITIONS`. -/
def appointmentTransitions : Crm.AppointmentState → List Crm.AppointmentState
  | .scheduled => [.confirmed, .completed, .cancelled, .no_show]
  | .confirmed => [.completed, .cancelled, .no_show]
  | .completed | .cancelled | .no_show => []

def findAppointment (appointmentId : String) (d : Showroom) : Option Crm.Appointment :=
  d.appointments.find? fun a => a.appointment_id = appointmentId

/-- `SELECT … FROM appointments … FOR UPDATE`. -/
def lockAppointment (appointmentId : String) : SalesWork (Option Crm.Appointment) :=
  Script.selectLocking (fun _ => [.row "appointments" appointmentId .forUpdate])
    (findAppointment appointmentId)

structure AppointmentStateInput where
  actingUserLinkId : String
  appointmentId : String
  expectedVersion : Nat
  state : Crm.AppointmentState
  reason : Option String

inductive AppointmentMoveOutcome where
  | moved (appointment : Crm.Appointment)
  | version_conflict (currentVersion : Nat)
  | not_found
  | invalid (error : String)

/-- `UPDATE appointments … WHERE appointment_id = $2 AND authorization_version = $6`. -/
def moveAppointment (input : AppointmentStateInput) : SalesWork (Option Crm.Appointment) :=
  let meets := fun d : Showroom => (findAppointment input.appointmentId d).filter fun a =>
    a.authorization_version = input.expectedVersion
  let move := fun a : Crm.Appointment =>
    { a with state := input.state, authorization_version := a.authorization_version + 1 }
  Script.execute (fun _ => [.row "appointments" input.appointmentId .noKeyUpdate]) (fun _ => true)
    (.database "")
    (fun seen d =>
      if (meets seen).isSome then
        { d with
          appointments :=
            updateWhere (fun a => a.appointment_id = input.appointmentId) move d.appointments }
      else d)
    fun seen => (meets seen).map move

/-- The move of an appointment that the CRM offers inside the caller's transaction. -/
def setAppointmentStateWithin (w : SalesWorld) (input : AppointmentStateInput) :
    SalesWork AppointmentMoveOutcome := do
  let _ ← actorOnFloor w input.actingUserLinkId
  match ← lockAppointment input.appointmentId with
  | none => pure .not_found
  | some current =>
    let allowed := appointmentTransitions current.state
    if input.state ∉ allowed then
      pure (.invalid (if allowed = [] then
        "a " ++ appointmentText current.state ++ " appointment is finished"
      else "a " ++ appointmentText current.state ++ " appointment may become " ++
        " or ".intercalate (allowed.map appointmentText)))
    else if input.state = .cancelled ∧ isBlank (input.reason.getD "") then
      pure (.invalid "a cancellation states why")
    else if current.authorization_version ≠ input.expectedVersion then
      pure (.version_conflict current.authorization_version)
    else
      match ← moveAppointment input with
      | none => pure (.version_conflict current.authorization_version)
      | some a => pure (.moved a)

/-! ## Arriving -/

def ShowroomVisit.valid (v : ShowroomVisit) : Bool :=
  (v.greeted_at.isNone || v.greeted_by_user_link_id.isSome) &&
  (v.accepted_at.isNone == v.accepted_by_user_link_id.isNone) &&
  (v.accepted_at.isNone || v.greeted_at.isSome) &&
  (v.state ≠ .with_salesperson || v.accepted_at.isSome) &&
  (v.state ≠ .departed || v.departed_at.isSome) &&
  (v.state = .arrived || v.greeted_at.isSome) &&
  (v.departed_at.all fun t => v.arrived_at ≤ t) &&
  (v.accepted_at.all fun t => v.arrived_at ≤ t)

def findVisit (visitId : String) (d : Showroom) : Option ShowroomVisit :=
  d.showroom_visits.find? fun v => v.visit_id = visitId

/-- `SELECT … FROM showroom_visits … FOR UPDATE`. -/
def lockVisit (visitId : String) : SalesWork (Option ShowroomVisit) :=
  Script.selectLocking (fun _ => [.row "showroom_visits" visitId .forUpdate]) (findVisit visitId)

def activeVisit (partyId : String) (d : Showroom) : Option ShowroomVisit :=
  d.showroom_visits.find? fun v => v.party_id = partyId && v.state ≠ .departed

/-- The entry of `uq_showroom_visits_one_active`. -/
def activeEntry (partyId : String) : LotLock := .index "uq_showroom_visits_one_active" partyId

/-- Neither the id of the visit nor its customer is taken, and its columns agree. -/
def ShowroomVisit.fits (v : ShowroomVisit) (d : Showroom) : Bool :=
  v.valid && d.showroom_visits.all fun u =>
    u.visit_id ≠ v.visit_id && ! (u.party_id = v.party_id && u.state ≠ .departed)

/-- The entries of a visit that is being inserted. -/
def ShowroomVisit.entries (v : ShowroomVisit) : List LotLock :=
  [.index "showroom_visits_pkey" v.visit_id, activeEntry v.party_id]

/-- `INSERT INTO showroom_visits`. -/
def insertVisit (v : ShowroomVisit) : SalesWork Unit :=
  Script.execute (fun _ => v.entries) v.fits (.database "uq_showroom_visits_one_active")
    (fun _ d => { d with showroom_visits := d.showroom_visits ++ [v] }) fun _ => ()

/-- `INSERT INTO visit_events`: a note is at most five hundred characters. -/
def visitEvent (e : VisitEvent) : SalesWork Unit :=
  Script.execute (fun _ => []) (fun _ => e.note.all fun n => n.length ≤ 500)
    (.database "visit_events_note_check")
    (fun _ d => { d with visit_events := d.visit_events ++ [e] }) fun _ => ()

structure CheckInInput where
  actingUserLinkId : String
  rooftopId : String
  partyId : String
  opportunityId : Option String
  appointmentId : Option String

inductive CheckInOutcome where
  | checked_in (visit : ShowroomVisit) (appointmentKept : Bool)
  | already_here (visit : ShowroomVisit) (appointmentKept : Bool)
  | not_found
  | invalid (error : String)

def checkInKey (partyId : String) : LotLock := .advisory ("sales.showroom.checkin:" ++ partyId)

def refuseVisitor (partyId : String) (d : Showroom) : Option CheckInOutcome :=
  match d.parties.find? fun p => p.party_id = partyId with
  | none => some .not_found
  | some _ => none

/-- An attached opportunity belongs to this rooftop and this customer. -/
def refuseFile (rooftopId partyId : String) (opportunityId : Option String) (d : Showroom) :
    Option CheckInOutcome :=
  match opportunityId with
  | none => none
  | some id =>
    match findOpportunity id d with
    | none => some .not_found
    | some o =>
      if o.rooftop_id ≠ rooftopId then
        some (.invalid "that opportunity belongs to a different rooftop")
      else if o.party_id ≠ partyId then
        some (.invalid "that opportunity belongs to a different customer")
      else none

def keepAppointment (w : SalesWorld) (actor : String) (input : CheckInInput) :
    SalesWork (Option CheckInOutcome) :=
  match input.appointmentId with
  | none => pure none
  | some id => do
    match ← lockAppointment id with
    | none => pure (some .not_found)
    | some a =>
      if a.rooftop_id ≠ input.rooftopId then
        pure (some (.invalid "that appointment is at a different rooftop"))
      else if a.party_id ≠ input.partyId then
        pure (some (.invalid "that appointment was booked for somebody else"))
      else if a.state ≠ .scheduled ∧ a.state ≠ .confirmed then
        pure (some (.invalid ("that appointment is already " ++ appointmentText a.state ++
          ", so nobody can be checked in against it")))
      else
        match ← setAppointmentStateWithin w
            ⟨actor, id, a.authorization_version, .completed, none⟩ with
        | .moved _ => pure none
        | _ => pure (some (.invalid
            "that appointment could not be marked kept, so the arrival was not recorded"))

/-- The row of somebody who has just come in. -/
def arrival (w : SalesWorld) (input : CheckInInput) : ShowroomVisit where
  visit_id := w.newId
  rooftop_id := input.rooftopId
  party_id := input.partyId
  opportunity_id := input.opportunityId
  appointment_id := input.appointmentId
  greeted_by_user_link_id := none
  accepted_by_user_link_id := none
  state := .arrived
  arrived_at := w.now
  greeted_at := none
  accepted_at := none
  departed_at := none
  authorization_version := 1

/-- The arrival and the event of it, and of the booking that is kept. -/
def recordArrival (actor : String) (v : ShowroomVisit) (appointmentKept : Bool) :
    SalesWork CheckInOutcome := do
  insertVisit v
  visitEvent ⟨v.visit_id, .arrived, none, actor⟩
  if appointmentKept then
    visitEvent ⟨v.visit_id, .appointment_kept, some "they turned up for their booking", actor⟩
    pure (.checked_in v true)
  else
    pure (.checked_in v false)

/-- `checkInWithin`. -/
def checkIn (w : SalesWorld) (input : CheckInInput) : SalesWork CheckInOutcome := do
  let actor ← actorOnFloor w input.actingUserLinkId
  if ¬ w.access.reaches actor input.rooftopId then
    pure (.invalid "you do not work at that rooftop")
  else
    Script.selectLocking (fun _ => [checkInKey input.partyId]) fun _ => ()
    match ← Script.select (activeVisit input.partyId) with
    | some v => pure (.already_here v v.appointment_id.isSome)
    | none =>
      match ← Script.select (refuseVisitor input.partyId) with
      | some refusal => pure refusal
      | none =>
        match ← Script.select (refuseFile input.rooftopId input.partyId input.opportunityId) with
        | some refusal => pure refusal
        | none =>
          match ← keepAppointment w actor input with
          | some refusal => pure refusal
          | none => recordArrival actor (arrival w input) input.appointmentId.isSome

/-! ## Greeting, taking on, leaving -/

def Showroom.setVisit (visitId : String) (f : ShowroomVisit → ShowroomVisit) (d : Showroom) :
    Showroom :=
  { d with showroom_visits := updateWhere (fun v => v.visit_id = visitId) f d.showroom_visits }

/-- `visit_id = $2 AND authorization_version = $5`. -/
def visitAt (visitId : String) (version : Nat) (d : Showroom) : Option ShowroomVisit :=
  (findVisit visitId d).filter fun v => v.authorization_version = version

/-- `UPDATE showroom_visits … WHERE visit_id = $2 AND authorization_version = $5`. -/
def updateVisit (visitId : String) (expectedVersion : Nat) (f : ShowroomVisit → ShowroomVisit) :
    SalesWork (Option ShowroomVisit) :=
  Script.execute (fun _ => [.row "showroom_visits" visitId .noKeyUpdate])
    (fun d => (visitAt visitId expectedVersion d).all fun v => (f v).valid)
    (.database "showroom_visits_check")
    (fun seen d =>
      match visitAt visitId expectedVersion seen with
      | some v => d.setVisit v.visit_id f
      | none => d)
    fun seen => (visitAt visitId expectedVersion seen).map f

structure GreetInput where
  actingUserLinkId : String
  visitId : String
  expectedVersion : Nat
  greetedByUserLinkId : Option String

inductive GreetOutcome where
  | greeted (visit : ShowroomVisit) (greetedBy : String) (fromRotation : Bool)
  | nobody_available
  | version_conflict (currentVersion : Nat)
  | not_found
  | invalid (error : String)

def ShowroomVisit.greeted (now : Int) (greeter : String) (v : ShowroomVisit) : ShowroomVisit :=
  { v with
    state := .greeted
    greeted_at := some now
    greeted_by_user_link_id := some greeter
    authorization_version := v.authorization_version + 1 }

def recordGreeting (w : SalesWorld) (actor : String) (input : GreetInput) (current : ShowroomVisit)
    (greeter : String) (fromRotation : Bool) : SalesWork GreetOutcome := do
  match ← updateVisit input.visitId input.expectedVersion (.greeted w.now greeter) with
  | none => pure (.version_conflict current.authorization_version)
  | some visit =>
    visitEvent ⟨input.visitId, .greeted,
      some (if fromRotation then "took the next turn on the floor" else "assigned by name"), actor⟩
    pure (.greeted visit greeter fromRotation)

/-- `greetVisit`, where the entries of the rotation in `locked` are skipped. -/
def greetVisit (w : SalesWorld) (locked : List String) (input : GreetInput) :
    SalesWork GreetOutcome := do
  let actor ← actorOnFloor w input.actingUserLinkId
  match ← lockVisit input.visitId with
  | none => pure .not_found
  | some current =>
    if current.state ≠ .arrived then
      pure (.invalid ("this visit is already " ++ current.state.text))
    else if current.authorization_version ≠ input.expectedVersion then
      pure (.version_conflict current.authorization_version)
    else
      match input.greetedByUserLinkId with
      | none =>
        match ← takeNextTurn w locked current.rooftop_id with
        | none => pure .nobody_available
        | some greeter => recordGreeting w actor input current greeter true
      | some greeter =>
        if ¬ w.access.reaches greeter current.rooftop_id then
          pure (.invalid "that employee does not work this rooftop")
        else
          match ← claimNamedTurn w current.rooftop_id greeter with
          | .absent => pure (.invalid "that salesperson is not on the floor right now")
          | .busy => pure (.invalid "that salesperson is already with a customer")
          | .claimed => recordGreeting w actor input current greeter false

structure VisitInput where
  actingUserLinkId : String
  visitId : String
  expectedVersion : Nat

inductive VisitAcceptOutcome where
  | accepted (visit : ShowroomVisit)
  | already_accepted (visit : ShowroomVisit)
  | version_conflict (currentVersion : Nat)
  | not_found
  | invalid (error : String)

def ShowroomVisit.accepted (now : Int) (actor : String) (v : ShowroomVisit) : ShowroomVisit :=
  { v with
    state := .with_salesperson
    accepted_at := some now
    accepted_by_user_link_id := some actor
    authorization_version := v.authorization_version + 1 }

/-- `acceptVisit`. -/
def acceptVisit (w : SalesWorld) (input : VisitInput) : SalesWork VisitAcceptOutcome := do
  let actor ← actorOnFloor w input.actingUserLinkId
  match ← lockVisit input.visitId with
  | none => pure .not_found
  | some current =>
    if current.accepted_by_user_link_id = some actor then pure (.already_accepted current)
    else if current.state = .departed then pure (.invalid "that customer has already left")
    else if current.state = .arrived then
      pure (.invalid "greet the customer before taking them on")
    else if current.accepted_by_user_link_id ≠ none then
      pure (.invalid "another salesperson has already taken this customer on")
    else if current.authorization_version ≠ input.expectedVersion then
      pure (.version_conflict current.authorization_version)
    else if ¬ w.access.reaches actor current.rooftop_id then pure .not_found
    else
      match ← updateVisit input.visitId input.expectedVersion (.accepted w.now actor) with
      | none => pure (.version_conflict current.authorization_version)
      | some visit =>
        visitEvent ⟨input.visitId, .accepted, some "took the customer on", actor⟩
        pure (.accepted visit)

inductive VisitCloseOutcome where
  | departed (visit : ShowroomVisit)
  | already_departed (visit : ShowroomVisit)
  | version_conflict (currentVersion : Nat)
  | not_found
  | invalid (error : String)

def ShowroomVisit.left (now : Int) (v : ShowroomVisit) : ShowroomVisit :=
  { v with
    state := .departed
    departed_at := some now
    authorization_version := v.authorization_version + 1 }

/-- Whose hands a visit is in: whoever took it on, else whoever greeted it. -/
def ShowroomVisit.hands (v : ShowroomVisit) : Option String :=
  v.accepted_by_user_link_id.or v.greeted_by_user_link_id

def carOut (visitId : String) (d : Showroom) : Bool :=
  d.demonstrations.any fun x => x.visit_id = some visitId && x.state.active

/-- `departVisit`. -/
def departVisit (w : SalesWorld) (input : VisitInput) (note : Option String) :
    SalesWork VisitCloseOutcome := do
  let actor ← actorOnFloor w input.actingUserLinkId
  match ← lockVisit input.visitId with
  | none => pure .not_found
  | some current =>
    if current.state = .departed then pure (.already_departed current)
    else if current.authorization_version ≠ input.expectedVersion then
      pure (.version_conflict current.authorization_version)
    else if ← Script.select (carOut input.visitId) then
      pure (.invalid "a car is still out on this visit — close the demonstration first")
    else
      match ← updateVisit input.visitId input.expectedVersion (.left w.now) with
      | none => pure (.version_conflict current.authorization_version)
      | some visit =>
        visitEvent ⟨input.visitId, .departed, note, actor⟩
        release visit.rooftop_id visit.hands
        pure (.departed visit)

end Dealership.Sales
