import Dealership.Identity.Administration

/-!
# The administration outbox

An event that must leave the service is written in the transaction of the state it describes.
A worker then looks due events up one at a time: it locks the row, records the delivery in the
ledger, hands the event to its port, marks the row delivered and commits; when anything of that
fails, a second transaction counts the attempt and puts the event off.

The port belongs to the outside, and what it has accepted cannot be taken back by a transaction
that fails afterwards.
-/

namespace Dealership.Identity

open Library

/-! ## Tables -/

/-- `event_type LIKE 'admin.%'`. -/
def isAdminEvent (eventType : String) : Bool :=
  "admin.".toList.isPrefixOf eventType.toList

def staffInvitationCreated : String := "admin.staff_invitation.created"

/-- A row of `admin_outbox`.  The payload carries ids only. -/
structure OutboxRow where
  eventId : String
  tenantId : String
  eventType : String
  payload : List (String × String)
  occurredAt : Int
  availableAt : Int
  attempts : Nat
  deliveredAt : Option Int
  lastError : Option String
deriving DecidableEq

/-- A row of `admin_outbox_deliveries`. -/
structure DeliveryRow where
  eventId : String
  sink : String
  deliveredAt : Int

inductive InvitationStatus where
  | pending | accepted | revoked | expired
deriving DecidableEq

structure StaffInvitation where
  invitationId : String
  tenantId : String
  email : String
  displayName : Option String
  invitedRole : String
  scopeLevel : String
  scopeId : Option String
  status : InvitationStatus
  invitedByUserLinkId : String
  expiresAt : Int
  authorizationVersion : Nat

structure OutboxTables where
  adminOutbox : List OutboxRow
  deliveries : List DeliveryRow
  invitations : List StaffInvitation
  mutations : List MutationRecord

/-! ## Writing events -/

/-- `enqueueAdminOutboxEvent`, in the transaction of its caller. -/
def enqueueAdminOutboxEvent (now : Int) (newEventId tenantId eventType : String)
    (payload : List (String × String)) (t : OutboxTables) : OutboxTables :=
  { t with
    adminOutbox := t.adminOutbox ++
      [⟨newEventId, tenantId, eventType, payload, now, now, 0, none, none⟩] }

def invitableRoles : List String :=
  ["tenant_admin", "service_manager", "service_advisor", "service_technician", "parts_clerk",
    "warranty_admin", "service_viewer"]

structure CreateStaffInvitationInput where
  actingUserLinkId : String
  tenantId : String
  email : String
  displayName : Option String
  invitedRole : String
  scopeLevel : Option String
  scopeId : Option String
  expiresInDays : Option Int

/-- What an invitation finds around it: the user links, the organization, the lower-casing of
the database and the identifiers it will draw. -/
structure InvitationWorld where
  access : Access
  nodeExists : String → String → String → Bool
  lower : String → String
  newInvitationId : String
  newEventId : String

/-- The checks of `staff_invitations` on what a caller chooses. -/
def StaffInvitation.checked (inv : StaffInvitation) : Bool :=
  decide (3 ≤ inv.email.length) && decide (inv.email.length ≤ 320) &&
    inv.email.toList.contains '@' &&
    inv.displayName.all fun name => decide (1 ≤ name.length) && decide (name.length ≤ 200)

/-- The invitation with the event that carries it out of the service; nothing is written when
the request is refused. -/
def createStaffInvitation (w : InvitationWorld) (now : Int) (input : CreateStaffInvitationInput)
    (t : OutboxTables) : Except Raise (Except String StaffInvitation × OutboxTables) :=
  let scopeLevel := input.scopeLevel.getD "tenant"
  let scopeId := if scopeLevel = "tenant" then none else input.scopeId
  let days := input.expiresInDays.getD 7
  if input.invitedRole ∉ invitableRoles then
    pure (.error ("role " ++ input.invitedRole ++ " is not invitable"), t)
  else if scopeLevel ≠ "tenant" ∧ scopeId = none then
    pure (.error (scopeLevel ++ " scope needs a scope_id"), t)
  else if days < 1 ∨ 30 < days then
    pure (.error "expires_in_days must be an integer between 1 and 30", t)
  else do
    let actor ← requireActor w.access input.actingUserLinkId
    if scopeLevel ≠ "tenant" ∧
        scopeLevel ∉ ["dealer_group", "legal_entity", "rooftop", "department"] then
      pure (.error ("unknown scope level " ++ scopeLevel), t)
    else if scopeLevel ≠ "tenant" ∧
        (scopeId.any fun id => w.nodeExists scopeLevel input.tenantId id) = false then
      pure (.error "scope node not found in this dealership", t)
    else if t.invitations.any fun inv => decide (inv.tenantId = input.tenantId) &&
        decide (w.lower inv.email = w.lower input.email) && decide (inv.status = .pending) then
      pure (.error "a pending invitation for this address already exists", t)
    else
      let inv : StaffInvitation :=
        { invitationId := w.newInvitationId
          tenantId := input.tenantId
          email := input.email
          displayName := input.displayName
          invitedRole := input.invitedRole
          scopeLevel := scopeLevel
          scopeId := scopeId
          status := .pending
          invitedByUserLinkId := actor
          expiresAt := now + 86400000 * days
          authorizationVersion := 1 }
      if inv.checked = false then throw (.database "staff_invitations_check")
      else
        let t := { t with invitations := t.invitations ++ [inv] }
        let t := enqueueAdminOutboxEvent now w.newEventId input.tenantId staffInvitationCreated
          [("invitation_id", inv.invitationId)] t
        pure (.ok inv,
          { t with
            mutations := t.mutations ++ [⟨"staff_invitation", inv.invitationId, input.tenantId,
              "admin.invitation.created", actor, inv.authorizationVersion⟩] })

/-- `revokeStaffInvitation`. -/
def revokeStaffInvitation (access : Access) (actingUserLinkId tenantId invitationId : String)
    (t : OutboxTables) : Except Raise (Option Nat × OutboxTables) := do
  let actor ← requireActor access actingUserLinkId
  match t.invitations.find? fun inv => inv.tenantId = tenantId ∧
      inv.invitationId = invitationId ∧ inv.status = .pending with
  | none => pure (none, t)
  | some inv =>
    pure (some (inv.authorizationVersion + 1),
      { t with
        invitations := updateWhere
          (fun inv : StaffInvitation => inv.tenantId = tenantId ∧
            inv.invitationId = invitationId ∧ inv.status = .pending)
          (fun inv =>
            { inv with
              status := .revoked
              authorizationVersion := inv.authorizationVersion + 1 })
          t.invitations
        mutations := t.mutations ++ [⟨"staff_invitation", invitationId, tenantId,
          "admin.invitation.revoked", actor, inv.authorizationVersion + 1⟩] })

/-! ## What is handed to the port -/

structure InvitationFacts where
  invitationId : String
  email : String
  displayName : Option String
  invitedRole : String
  status : InvitationStatus
deriving DecidableEq

structure AdminOutboxDelivery where
  eventId : String
  tenantId : String
  eventType : String
  payload : List (String × String)
  invitation : Option InvitationFacts
deriving DecidableEq

/-- The invitation an event is about, as it stands, read under the event's own tenant. -/
def OutboxTables.invitationOf (t : OutboxTables) (row : OutboxRow) : Option InvitationFacts :=
  if row.eventType = staffInvitationCreated then
    (row.payload.lookup "invitation_id").bind fun id =>
      (t.invitations.find? fun inv => inv.tenantId = row.tenantId ∧ inv.invitationId = id).map
        fun inv => ⟨inv.invitationId, inv.email, inv.displayName, inv.invitedRole, inv.status⟩
  else none

def OutboxTables.hydrate (t : OutboxTables) (row : OutboxRow) : AdminOutboxDelivery :=
  ⟨row.eventId, row.tenantId, row.eventType, row.payload, t.invitationOf row⟩

/-! ## A pass -/

/-- Where a pass stands: at the head of its loop, in the transaction of an attempt, or booking
an attempt that failed.  A transaction keeps the instant it began at and the row it locked. -/
inductive PassStage where
  | looking
  | begun (now : Int)
  | claimed (now : Int) (row : OutboxRow)
  | recorded (now : Int) (row : OutboxRow)
  | delivering (now : Int) (row : OutboxRow) (delivery : AdminOutboxDelivery)
  | unmarked (now : Int) (row : OutboxRow) (firstDelivery : Bool)
  | marked (now : Int) (row : OutboxRow) (firstDelivery : Bool)
  | failed (row : OutboxRow) (message : String)
  | booking (now : Int) (row : OutboxRow) (message : String)
  | drained
deriving DecidableEq

/-- The row the transaction of an attempt holds. -/
def PassStage.held : PassStage → Option OutboxRow
  | .claimed _ row | .recorded _ row | .delivering _ row _ | .unmarked _ row _ | .marked _ row _ =>
    some row
  | .looking | .begun _ | .failed _ _ | .booking _ _ _ | .drained => none

/-- The port has been handed the event, and the transaction has not committed. -/
def PassStage.exposed : PassStage → Bool
  | .delivering _ _ _ | .unmarked _ _ true | .marked _ _ true => true
  | .looking | .begun _ | .claimed _ _ | .recorded _ _ | .unmarked _ _ false | .marked _ _ false
  | .failed _ _ | .booking _ _ _ | .drained => false

structure OutboxDispatchResult where
  delivered : Nat
  deduplicated : Nat
  failed : Nat

/-- A call of `dispatchDueAdminOutboxEvents`: how many events it may still attempt, and those it
has. -/
structure Pass where
  passId : Nat
  sink : String
  startedAt : Int
  remaining : Nat
  attempted : List String
  result : OutboxDispatchResult
  stage : PassStage

def defaultDispatchLimit : Int := 50

/-- The next iteration of the loop. -/
def Pass.goOn (p : Pass) : Pass :=
  { p with
    remaining := p.remaining - 1
    stage := .looking }

def Pass.countFailed (p : Pass) : Pass :=
  { p with
    result := { p.result with failed := p.result.failed + 1 } }

def Pass.countCommitted (firstDelivery : Bool) (p : Pass) : Pass :=
  { p with
    result :=
      if firstDelivery then { p.result with delivered := p.result.delivered + 1 }
      else { p.result with deduplicated := p.result.deduplicated + 1 } }

/-- How long an event is put off: five minutes for every attempt, at most eight times. -/
def backoff (attempts : Nat) : Int :=
  300000 * (min (attempts + 1) 8 : Nat)

/-- `UPDATE admin_outbox SET attempts = …, last_error = …, available_at = …`. -/
def OutboxRow.book (now : Int) (message : String) (row : OutboxRow) : OutboxRow :=
  { row with
    attempts := row.attempts + 1
    lastError := some (String.ofList (message.toList.take 2000))
    availableAt := now + backoff row.attempts }

/-- `UPDATE admin_outbox SET delivered_at = NOW(), …`. -/
def OutboxRow.deliver (now : Int) (row : OutboxRow) : OutboxRow :=
  { row with
    deliveredAt := some now
    attempts := row.attempts + 1
    lastError := none }

/-- No text of the database holds the null character. -/
def storable (message : String) : Bool :=
  !message.toList.contains (Char.ofNat 0)

end Dealership.Identity
