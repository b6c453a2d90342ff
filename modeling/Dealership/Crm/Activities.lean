import Dealership.Crm.Leads

/-!
# The timeline and the appointment

An activity is logged under a plain look at the lead; an appointment locks the lead
before it looks.  The first outbound communication stops the response clock.
-/

namespace Dealership.Crm

open Library

/-! ## Activities -/

structure ActivityInput where
  actingUserLinkId : String
  leadId : String
  kind : ActivityKind
  direction : Option ActivityDirection
  subject : String
  body : Option String
  dueAt : Option Int
  assignedToUserLinkId : Option String

inductive ActivityOutcome where
  | logged (activity : LeadActivity) (lead : Option Lead)
  | not_found
  | invalid (error : String)

/-- `COMMUNICATIONS`. -/
def ActivityKind.isCommunication : ActivityKind → Bool
  | .call | .email | .sms => true
  | _ => false

/-- `SCHEDULABLE`. -/
def ActivityKind.isSchedulable : ActivityKind → Bool
  | .task | .reminder => true
  | _ => false

/-- What is wrong with an activity before anything is read. -/
def activityProblem (input : ActivityInput) : Option String :=
  let subject := trimText input.subject
  if subject = "" ∨ 200 < (utf16 subject).length then some "an activity needs a subject"
  else if input.kind.isCommunication ∧ input.direction = none then
    some "a communication is inbound or outbound"
  else if ¬ input.kind.isCommunication ∧ input.direction ≠ none then
    some ("a " ++ input.kind.text ++ " has no direction")
  else if input.dueAt ≠ none ∧ ¬ input.kind.isSchedulable then
    some ("a " ++ input.kind.text ++ " cannot be due")
  else none

def readLifecycleState (leadId : String) : Work (Option LeadState) :=
  Script.selectLocking
    (fun db => if (readLead leadId db).any fun l => ¬ l.lifecycle_state.finished
      then [.lead leadId .read] else [])
    fun db => (readLead leadId db).map (·.lifecycle_state)

/-- `INSERT INTO lead_activities`. -/
def insertActivity (w : CrmWorld) (a : LeadActivity) : Work Unit :=
  Script.execute
    (fun _ => [.index "lead_activities_pkey" a.activity_id, .lead a.lead_id .keyShare])
    (fun db => (db.lead_activities.all fun b => b.activity_id ≠ a.activity_id) &&
      (db.leads.any fun l => l.lead_id = a.lead_id) &&
      a.body.all (fun b => b.length ≤ 4000) &&
      a.assigned_to_user_link_id.all w.access.userLinkExists)
    (.database "lead_activities")
    (fun _ db => { db with lead_activities := db.lead_activities ++ [a] }) fun _ => ()

def newActivity (w : CrmWorld) (input : ActivityInput) : LeadActivity where
  activity_id := w.newActivityId
  lead_id := input.leadId
  kind := input.kind
  direction := input.direction
  subject := trimText input.subject
  body := input.body
  state := .open
  due_at := input.dueAt
  completed_at := none
  assigned_to_user_link_id := input.assignedToUserLinkId
  authorization_version := 1

/-- The clock stops on the first outbound contact, and on nothing else. -/
def ActivityInput.stopsClock (input : ActivityInput) : Bool :=
  input.kind.isCommunication && input.direction = some .outbound

def logActivityWithin (w : CrmWorld) (input : ActivityInput) : Work ActivityOutcome :=
  match activityProblem input with
  | some error => pure (.invalid error)
  | none => do
    let _ ← actorWithin w input.actingUserLinkId
    match ← readLifecycleState input.leadId with
    | none => pure .not_found
    | some state =>
      if state.finished then
        pure (.invalid ("a " ++ state.text ++ " lead takes no further activity"))
      else
        insertActivity w (newActivity w input)
        if input.stopsClock then
          stampFirstResponseWithin w input.leadId
          let after ← Script.select (readLead input.leadId)
          pure (.logged (newActivity w input) after)
        else
          let after ← Script.select (readLead input.leadId)
          pure (.logged (newActivity w input) after)

inductive ActivityCloseOutcome where
  | closed (activity : LeadActivity)
  | version_conflict (currentVersion : Nat)
  | not_found
  | invalid (error : String)

/-- The two states an open item is closed to. -/
inductive ActivityEnd where
  | completed | cancelled
deriving DecidableEq

def ActivityEnd.state : ActivityEnd → ActivityState
  | .completed => .completed
  | .cancelled => .cancelled

/-- The columns `closeActivity` writes. -/
def LeadActivity.close (w : CrmWorld) (ending : ActivityEnd) (a : LeadActivity) : LeadActivity :=
  { a with
    state := ending.state
    completed_at := if ending = .completed then some w.now else none
    authorization_version := a.authorization_version + 1 }

/-- `UPDATE lead_activities … WHERE activity_id = $2 AND authorization_version = $5`. -/
def updateActivity (activityId : String) (version : Nat) (f : LeadActivity → LeadActivity) :
    Work (Option LeadActivity) :=
  Script.execute (fun _ => [.activity activityId .noKeyUpdate]) (fun _ => true)
    (.database "lead_activities")
    (fun _ db =>
      { db with
        lead_activities := updateWhere
          (fun a : LeadActivity => a.activity_id = activityId ∧ a.authorization_version = version)
          f db.lead_activities })
    fun db => (db.lead_activities.find? fun a =>
      a.activity_id = activityId && a.authorization_version = version).map f

/-- Completes or cancels an open item.  A finished item does not reopen. -/
def closeActivity (w : CrmWorld) (actingUserLinkId leadId activityId : String)
    (expectedVersion : Nat) (ending : ActivityEnd) : Work ActivityCloseOutcome := do
  let _ ← actorWithin w actingUserLinkId
  let existing ← Script.selectLocking (fun _ => [.activity activityId .forUpdate])
    fun db : Pipeline => db.lead_activities.find? fun a => a.activity_id = activityId
  match existing with
  | none => pure .not_found
  | some current =>
    if current.lead_id ≠ leadId then pure .not_found
    else
      match ← readLifecycleState current.lead_id with
      | none => .raise (.typeError "Cannot read properties of undefined")
      | some state =>
        if state.finished then
          pure (.invalid ("a " ++ state.text ++ " lead takes no further work"))
        else if current.state ≠ .open then
          pure (.invalid ("that activity is already " ++ current.state.text))
        else if current.authorization_version ≠ expectedVersion then
          pure (.version_conflict current.authorization_version)
        else
          match ← updateActivity activityId expectedVersion (LeadActivity.close w ending) with
          | none => pure (.version_conflict current.authorization_version)
          | some activity => pure (.closed activity)

/-! ## Appointments -/

structure AppointmentInput where
  actingUserLinkId : String
  leadId : String
  purpose : AppointmentPurpose
  /-- `none` for a text that is no instant. -/
  startsAt : Option Int
  endsAt : Option Int
  stockItemId : Option String
  assignedToUserLinkId : Option String

inductive AppointmentOutcome where
  | scheduled (appointment : Appointment) (lead : Lead)
  | not_found
  | invalid (error : String)

def LeadState.advances : LeadState → Bool
  | .new | .working | .qualified => true
  | _ => false

/-- `INSERT INTO appointments`. -/
def insertAppointment (w : CrmWorld) (a : Appointment) : Work Unit :=
  Script.execute
    (fun _ => [.index "appointments_pkey" a.appointment_id, .lead a.lead_id .keyShare])
    (fun db => (db.appointments.all fun b => b.appointment_id ≠ a.appointment_id) &&
      a.stock_item_id.all w.stockItemExists && a.assigned_to_user_link_id.all w.access.userLinkExists)
    (.database "appointments")
    (fun _ db => { db with appointments := db.appointments ++ [a] }) fun _ => ()

def newAppointment (w : CrmWorld) (input : AppointmentInput) (lead : Lead) (starts ends : Int) :
    Appointment where
  appointment_id := w.newAppointmentId
  rooftop_id := lead.rooftop_id
  lead_id := input.leadId
  party_id := lead.party_id
  stock_item_id := input.stockItemId
  purpose := input.purpose
  starts_at := starts
  ends_at := ends
  state := .scheduled
  assigned_to_user_link_id := input.assignedToUserLinkId
  authorization_version := 1

/-- `UPDATE leads SET lifecycle_state = 'appointment_set' …
WHERE lifecycle_state IN ('new', 'working', 'qualified') RETURNING`. -/
def advanceToAppointment (leadId : String) : Work (Option Lead) :=
  Script.execute (fun _ => [.lead leadId .noKeyUpdate]) (fun _ => true) (.database "leads")
    (fun _ db =>
      { db with
        leads := updateWhere
          (fun l : Lead => l.lead_id = leadId ∧ l.lifecycle_state.advances = true)
          (fun l =>
            { l with
              lifecycle_state := .appointment_set
              authorization_version := l.authorization_version + 1 }) db.leads })
    fun db => (db.leads.find? fun l => l.lead_id = leadId && l.lifecycle_state.advances).map fun l =>
      { l with
        lifecycle_state := .appointment_set
        authorization_version := l.authorization_version + 1 }

/-- Books an appointment and advances the lead in the same transaction. -/
def scheduleAppointmentWithin (w : CrmWorld) (input : AppointmentInput) :
    Work AppointmentOutcome :=
  match input.startsAt, input.endsAt with
  | some starts, some ends =>
    if ends ≤ starts then pure (.invalid "an appointment ends after it starts")
    else do
      let actor ← actorWithin w input.actingUserLinkId
      match ← Script.selectLocking (fun _ => [.lead input.leadId .forUpdate])
          (readLead input.leadId) with
      | none => pure .not_found
      | some current =>
        if current.lifecycle_state.finished then
          pure (.invalid ("a " ++ current.lifecycle_state.text ++ " lead takes no appointments"))
        else
          insertAppointment w (newAppointment w input current starts ends)
          Script.execute (fun _ => []) (fun _ => true) (.database "appointment_events")
            (fun _ db : Pipeline =>
              { db with
                appointment_events := db.appointment_events ++ [⟨w.newAppointmentId, actor⟩] })
            fun _ => ()
          match ← advanceToAppointment input.leadId with
          | none =>
            pure (.scheduled (newAppointment w input current starts ends) current)
          | some lead =>
            insertStatusEvent
              { lead_id := input.leadId
                from_state := current.lifecycle_state
                to_state := .appointment_set
                disposition := none
                note := none
                changed_by_user_link_id := actor }
            pure (.scheduled (newAppointment w input current starts ends) lead)
  | _, _ => pure (.invalid "an appointment needs a start and an end")

end Dealership.Crm
