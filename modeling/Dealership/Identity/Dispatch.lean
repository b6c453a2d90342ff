import Dealership.Identity.Outbox

/-!
# Dispatching the administration outbox

Any number of passes over one outbox, turn by turn: one turn is one statement of one pass, an
answer of its port, or the failure of whatever it was waiting for.  Between the turns other
transactions write events and the clock moves on.

A pass that fails after the port was handed an event leaves the port to finish on its own.
-/

namespace Dealership.Identity

open Library

/-! ## The outbox with its workers -/

/-- The tables as committed, the passes under way, what the port has accepted, and the calls of
the port nobody waits for any more. -/
structure Outbox where
  clock : Int
  tables : OutboxTables
  passes : List Pass
  accepted : List AdminOutboxDelivery
  orphans : List AdminOutboxDelivery

def Outbox.start (clock : Int) : Outbox := ⟨clock, ⟨[], [], [], []⟩, [], [], []⟩

def Outbox.pass (m : Outbox) (passId : Nat) : Option Pass :=
  m.passes.find? fun p => p.passId = passId

def Outbox.setPass (m : Outbox) (passId : Nat) (p : Pass) : Outbox :=
  { m with
    passes := updateWhere (fun p : Pass => p.passId = passId) (fun _ => p) m.passes }

/-- A transaction under way holds the row. -/
def Outbox.locked (m : Outbox) (eventId : String) : Bool :=
  m.passes.any fun p => p.stage.held.any fun row => decide (row.eventId = eventId)

/-- `delivered_at IS NULL AND available_at <= NOW() AND event_type LIKE 'admin.%'`. -/
def OutboxRow.due (now : Int) (row : OutboxRow) : Bool :=
  row.deliveredAt.isNone && decide (row.availableAt ≤ now) && isAdminEvent row.eventType

/-- What is left of the due rows when the locked ones are skipped. -/
def Outbox.claimable (m : Outbox) (now : Int) : List OutboxRow :=
  m.tables.adminOutbox.filter fun row => row.due now && !m.locked row.eventId

/-! ## Turns of a pass -/

inductive Turn where
  | begins
  | claims (eventId : String)
  | drains
  | records
  | hands
  | accepts
  | refuses (message : String)
  | marks
  /-- The commit goes through, and the worker hears of it or loses its connection. -/
  | commits (lost : Option String)
  | fails (message : String)
  | beginsBooking
  | books
  | bookingFails
deriving DecidableEq

def OutboxTables.delivered (t : OutboxTables) (now : Int) (eventId : String) : OutboxTables :=
  { t with
    adminOutbox := updateWhere (fun row : OutboxRow => row.eventId = eventId)
      (OutboxRow.deliver now) t.adminOutbox }

def OutboxTables.ledgered (t : OutboxTables) (now : Int) (eventId sink : String) : OutboxTables :=
  { t with deliveries := t.deliveries ++ [⟨eventId, sink, now⟩] }

/-- What the transaction of an attempt leaves when it commits. -/
def OutboxTables.commitDelivery (t : OutboxTables) (now : Int) (eventId sink : String)
    (firstDelivery : Bool) : OutboxTables :=
  if firstDelivery then (t.ledgered now eventId sink).delivered now eventId
  else t.delivered now eventId

/-- The statement that books a failed attempt. -/
def OutboxTables.book (t : OutboxTables) (now : Int) (eventId message : String) : OutboxTables :=
  { t with
    adminOutbox := updateWhere
      (fun row : OutboxRow => row.eventId = eventId ∧ row.deliveredAt = none)
      (OutboxRow.book now message) t.adminOutbox }

def Pass.failWith (row : OutboxRow) (message : String) (p : Pass) : Pass :=
  { p.countFailed with stage := .failed row message }

/-- One turn: the outbox and the pass after it, when the pass is where the turn belongs. -/
def Outbox.turn (m : Outbox) (p : Pass) (turn : Turn) : Option (Outbox × Pass) :=
  match turn, p.stage with
  | .begins, .looking =>
    if 0 < p.remaining then some (m, { p with stage := .begun m.clock }) else none
  | .claims eventId, .begun now =>
    match (m.claimable now).find? fun row => row.eventId = eventId with
    | none => none
    | some row =>
      -- `ORDER BY occurred_at … LIMIT 1`
      if (m.claimable now).all fun other => decide (row.occurredAt ≤ other.occurredAt) then
        some (m,
          { p with
            attempted := p.attempted ++ [row.eventId]
            stage := .claimed now row })
      else none
  | .drains, .begun now =>
    if m.claimable now = [] then some (m, { p with stage := .drained }) else none
  | .records, .claimed now row =>
    if m.tables.deliveries.any fun l => decide (l.eventId = row.eventId) then
      some (m, { p with stage := .unmarked now row false })
    else some (m, { p with stage := .recorded now row })
  | .hands, .recorded now row =>
    some (m, { p with stage := .delivering now row (m.tables.hydrate row) })
  | .accepts, .delivering now row delivery =>
    some ({ m with accepted := m.accepted ++ [delivery] },
      { p with stage := .unmarked now row true })
  | .refuses message, .delivering _ row _ => some (m, p.failWith row message)
  | .marks, .unmarked now row firstDelivery =>
    some (m, { p with stage := .marked now row firstDelivery })
  | .commits lost, .marked now row firstDelivery =>
    some ({ m with tables := m.tables.commitDelivery now row.eventId p.sink firstDelivery },
      match lost with
      | none => (p.countCommitted firstDelivery).goOn
      | some message => p.failWith row message)
  | .fails _, .looking | .fails _, .begun _ =>
    if 0 < p.remaining then some (m, p.countFailed.goOn) else none
  | .fails message, .claimed _ row | .fails message, .recorded _ row
  | .fails message, .unmarked _ row _ | .fails message, .marked _ row _ =>
    some (m, p.failWith row message)
  -- the call of the port goes on without the worker
  | .fails message, .delivering _ row delivery =>
    some ({ m with orphans := m.orphans ++ [delivery] }, p.failWith row message)
  | .beginsBooking, .failed row message =>
    some (m, { p with stage := .booking m.clock row message })
  | .books, .booking now row message =>
    -- the update waits for a worker that holds the row
    if m.locked row.eventId = false ∧ storable message = true then
      some ({ m with tables := m.tables.book now row.eventId message }, p.goOn)
    else none
  | .bookingFails, .failed _ _ | .bookingFails, .booking _ _ _ => some (m, p.goOn)
  | _, _ => none

/-! ## Events -/

inductive OutboxEvent where
  | tick (elapsed : Nat)
  | invite (w : InvitationWorld) (input : CreateStaffInvitationInput)
  | revokeInvitation (access : Access) (actingUserLinkId tenantId invitationId : String)
  /-- Another package writes an event of its own. -/
  | enqueue (newEventId tenantId eventType : String) (payload : List (String × String))
  /-- The dispatcher of another domain settles a row of its own. -/
  | elsewhere (row : OutboxRow) (delivery : Option String)
  | dispatch (passId : Nat) (limit : Option Int) (sink : String)
  | turn (passId : Nat) (turn : Turn)
  /-- The port finishes a call nobody waits for. -/
  | orphanAccepted (delivery : AdminOutboxDelivery)

/-- The event id is free; identifiers are drawn at random and never repeat. -/
def OutboxTables.free (t : OutboxTables) (eventId : String) : Bool :=
  t.adminOutbox.all fun row => decide (row.eventId ≠ eventId)

/-- A dispatcher of another domain writes over its row, and may record a delivery of it. -/
def Outbox.elsewhere (m : Outbox) (row : OutboxRow) (delivery : Option String) : Outbox :=
  if isAdminEvent row.eventType then m
  else
    { m with
      tables :=
        { m.tables with
          adminOutbox := updateWhere
            (fun old : OutboxRow => old.eventId = row.eventId ∧ old.eventType = row.eventType)
            (fun _ => row) m.tables.adminOutbox
          deliveries := m.tables.deliveries ++
            match delivery with
            | some sink =>
              if (m.tables.adminOutbox.any fun old => decide (old.eventId = row.eventId) &&
                    decide (old.eventType = row.eventType)) &&
                  m.tables.deliveries.all fun l => decide (l.eventId ≠ row.eventId) then
                [⟨row.eventId, sink, m.clock⟩]
              else []
            | none => [] } }

def Outbox.step (m : Outbox) : OutboxEvent → Outbox
  | .tick elapsed => { m with clock := m.clock + elapsed }
  | .invite w input =>
    if m.tables.free w.newEventId then
      { m with tables := committed m.tables (createStaffInvitation w m.clock input m.tables) }
    else m
  | .revokeInvitation access actor tenantId invitationId =>
    { m with
      tables :=
        committed m.tables (revokeStaffInvitation access actor tenantId invitationId m.tables) }
  | .enqueue newEventId tenantId eventType payload =>
    if m.tables.free newEventId then
      { m with
        tables := enqueueAdminOutboxEvent m.clock newEventId tenantId eventType payload m.tables }
    else m
  | .elsewhere row delivery => m.elsewhere row delivery
  | .dispatch passId limit sink =>
    if (m.pass passId).isSome ∨ limit.getD defaultDispatchLimit < 1 ∨
        500 < limit.getD defaultDispatchLimit then m
    else
      { m with
        passes := m.passes ++ [⟨passId, sink, m.clock,
          (limit.getD defaultDispatchLimit).toNat, [], ⟨0, 0, 0⟩, .looking⟩] }
  | .turn passId turn =>
    match m.pass passId with
    | none => m
    | some p =>
      match m.turn p turn with
      | none => m
      | some (m', p') => m'.setPass passId p'
  | .orphanAccepted delivery =>
    if delivery ∈ m.orphans then
      { m with
        accepted := m.accepted ++ [delivery]
        orphans := m.orphans.erase delivery }
    else m

end Dealership.Identity
