import Dealership.Service.Lines

/-!
# Work tickets and the clock

A technician works a line under a ticket: dispatch hands it out, its status says how far the
work is, and the clock entries on it say when.  What is finished is finished: a ticket that is
completed, canceled or handed to somebody else takes no further status.  Clock entries follow
one another under the lock of their ticket; the entry they are held against is the one of the
latest `created_at`, the instant at which its transaction began.
-/

namespace Dealership.Service

open Library
open Inventory (LotLock)

/-! ## Tickets -/

def TicketStatus.text : TicketStatus → String
  | assigned => "assigned"
  | started => "started"
  | paused => "paused"
  | completed => "completed"
  | reassigned => "reassigned"
  | canceled => "canceled"

def WorkTicket.isLive (t : WorkTicket) : Bool :=
  t.status = .assigned || t.status = .started || t.status = .paused

/-- `assertOwnTicket` with `FOR UPDATE`: the caller's own ticket, or any if they supervise. -/
def assertOwnTicket (w : ServiceWorld) (ticketId : String) : ServiceWork WorkTicket := do
  requireUuid ticketId "ticket_id"
  let found ← Script.selectLocking (fun _ => [.row "tech_work_tickets" ticketId .forUpdate])
    fun d => d.tech_work_tickets.find? fun t => t.ticket_id = ticketId
  match found with
  | none => .raise ⟨.notFound, "not_found", "Work ticket not found"⟩
  | some ticket => do
    insist (w.supervises || ticket.assigned_tech_user_id = w.userId) ⟨.forbidden,
      "not_ticket_assignee", "This work ticket is assigned to another technician"⟩
    pure ticket

structure TicketInput where
  /-- `none` where it is not one of the six. -/
  status : Option TicketStatus
  pause_reason : Option String

/-- The reason is rewritten where one is given, and cleared when the ticket is not paused. -/
def withTicketStatus (status : TicketStatus) (reason : Option String) (t : WorkTicket) :
    WorkTicket :=
  { t with
    status := status
    pause_reason :=
      match reason with
      | some text => some text
      | none => if status = .paused then t.pause_reason else none }

def Shop.setTickets (d : Shop) (ids : List String) (f : WorkTicket → WorkTicket) : Shop :=
  { d with tech_work_tickets := updateWhere (fun t => t.ticket_id ∈ ids) f d.tech_work_tickets }

def updateTicketStatus (w : ServiceWorld) (ticketId : String) (input : TicketInput) :
    ServiceWork WorkTicket := do
  match input.status with
  | none => .raise ⟨.validation, "validation_error",
      "status must be one of: assigned, started, paused, completed, reassigned, canceled"⟩
  | some status => do
    let ticket ← assertOwnTicket w ticketId
    insist ticket.isLive ⟨.conflict, "ticket_closed",
      "This work ticket is '" ++ ticket.status.text ++ "' and cannot be reopened"⟩
    store (fun _ => rowLocks "tech_work_tickets" [ticketId]) fun _ d =>
      d.setTickets [ticketId] (withTicketStatus status input.pause_reason)
    pure (withTicketStatus status input.pause_reason ticket)

/-! ## The clock -/

def Shop.entriesOf (d : Shop) (ticketId : String) : List TimeEntry :=
  d.tech_time_entries.filter fun e => e.ticket_id = ticketId

/-- `ORDER BY created_at, time_entry_id`. -/
def TimeEntry.before (a b : TimeEntry) : Bool :=
  a.created_at < b.created_at || (a.created_at = b.created_at && a.time_entry_id < b.time_entry_id)

/-- `ORDER BY created_at DESC, time_entry_id DESC LIMIT 1`. -/
def newest : List TimeEntry → Option TimeEntry
  | [] => none
  | e :: es =>
    match newest es with
    | none => some e
    | some m => if e.before m then some m else some e

def lastEntry (ticketId : String) (d : Shop) : Option TimeEntry := newest (d.entriesOf ticketId)

/-- `allowedNext`. -/
def allowedNext : TimeEventType → List TimeEventType
  | .start => [.pause, .stop]
  | .resume => [.pause, .stop]
  | .pause => [.resume, .stop]
  | .stop => [.start]

/-- What may be clocked after the previous entry; the first is a start. -/
def permitted (previous : Option TimeEventType) : List TimeEventType :=
  previous.elim [.start] allowedNext

/-- The clock moves forward, along the permitted events. -/
def clockAccepts (last : Option TimeEntry) (event : TimeEventType) (occurredAt : Int) : Bool :=
  last.all (fun e => e.occurred_at ≤ occurredAt) &&
    event ∈ permitted (last.map TimeEntry.event_type)

def TimeEventType.text : TimeEventType → String
  | start => "start"
  | pause => "pause"
  | resume => "resume"
  | stop => "stop"

def sequenceMessage (previous : Option TimeEventType) (event : TimeEventType) : String :=
  match previous with
  | none => "The first time entry on a ticket must be a start"
  | some p => "A '" ++ p.text ++ "' entry cannot be followed by '" ++ event.text ++ "'"

structure TimeEntryInput where
  /-- `none` where it is not one of the four. -/
  event_type : Option TimeEventType
  /-- Not given, or given and not a timestamp, or an instant. -/
  occurred_at : Option (Option Int)
  /-- The application's clock at the call. -/
  clock : Int

/-- When it happened: now, where the request does not say. -/
def TimeEntryInput.occurredAt (input : TimeEntryInput) : Int :=
  (input.occurred_at.bind id).getD input.clock

/-- An entry may be dated back; nobody clocks time in the future. -/
def requireOccurredAt (input : TimeEntryInput) : ServiceWork Unit := do
  insist (input.occurred_at ≠ some none)
    ⟨.validation, "validation_error", "occurred_at must be a timestamp"⟩
  insist ((input.occurred_at.bind id).all fun parsed => parsed ≤ input.clock + 60000)
    ⟨.validation, "validation_error", "occurred_at cannot be in the future"⟩

def insertTimeEntry (e : TimeEntry) : ServiceWork Unit :=
  Script.execute (fun _ => [.row "tech_work_tickets" e.ticket_id .keyShare,
      .index "tech_time_entries_pkey" e.time_entry_id])
    (fun d => d.tech_time_entries.all fun f => f.time_entry_id ≠ e.time_entry_id)
    (refusal "tech_time_entries_pkey")
    (fun _ d => { d with tech_time_entries := d.tech_time_entries ++ [e] }) fun _ => ()

def recordTimeEntry (w : ServiceWorld) (ticketId : String) (input : TimeEntryInput) :
    ServiceWork TimeEntry := do
  match input.event_type with
  | none => .raise ⟨.validation, "validation_error",
      "event_type must be one of: start, pause, resume, stop"⟩
  | some event => do
    requireOccurredAt input
    let ticket ← assertOwnTicket w ticketId
    let last ← Script.select (lastEntry ticketId)
    insist (last.all fun e => e.occurred_at ≤ input.occurredAt) ⟨.conflict, "invalid_time_sequence",
      "occurred_at is before the previous entry on this ticket"⟩
    insist (event ∈ permitted (last.map TimeEntry.event_type))
      ⟨.conflict, "invalid_time_sequence", sequenceMessage (last.map TimeEntry.event_type) event⟩
    let entry : TimeEntry := {
      time_entry_id := w.newId
      ticket_id := ticketId
      tech_user_id := ticket.assigned_tech_user_id
      event_type := event
      occurred_at := input.occurredAt
      created_at := w.now }
    insertTimeEntry entry
    pure entry

/-! ## Calls -/

inductive TicketCall where
  | dispatchTech (w : ServiceWorld) (input : DispatchInput)
  | updateTicketStatus (w : ServiceWorld) (ticketId : String) (input : TicketInput)
  | recordTimeEntry (w : ServiceWorld) (ticketId : String) (input : TimeEntryInput)
  | updateLineItem (w : ServiceWorld) (roId lineItemId : String) (updates : LineUpdates)

/-- A call as a transaction; what it answers is not looked at. -/
def TicketCall.program : TicketCall → ServiceWork Unit
  | .dispatchTech w input => Service.dispatchTech w input >>= fun _ => pure ()
  | .updateTicketStatus w ticketId input =>
    Service.updateTicketStatus w ticketId input >>= fun _ => pure ()
  | .recordTimeEntry w ticketId input =>
    Service.recordTimeEntry w ticketId input >>= fun _ => pure ()
  | .updateLineItem w roId lineItemId updates =>
    Service.updateLineItem w roId lineItemId updates >>= fun _ => pure ()

abbrev TicketServer := Server TicketCall Shop LotLock ServiceError Unit

abbrev TicketEnding := Ending TicketCall Shop ServiceError Unit

end Dealership.Service
