import Dealership.Library.ReadCommitted
import Dealership.Library.Text
import Dealership.Transaction

/-!
# The rows of the CRM

A lead is one customer's interest at one rooftop.  Around it stand the intake
ledger, the source history, the assignments and status events, the activities,
the appointments and the handoff; beside it the customers a dealership knows, and
who may be contacted where.

Instants are microseconds, as `TIMESTAMPTZ` keeps them.  A locking read and an
insert name the locks they take, so the same text can be read alone or against
others.
-/

namespace Dealership.Crm

open Library

/-! ## Vocabularies -/

inductive PartyType where
  | person | organization
deriving DecidableEq

inductive PartyStatus where
  | active | merged | archived
deriving DecidableEq

inductive LeadState where
  | new | working | qualified | appointment_set | handed_off | closed
deriving DecidableEq

def LeadState.text : LeadState → String
  | .new => "new"
  | .working => "working"
  | .qualified => "qualified"
  | .appointment_set => "appointment_set"
  | .handed_off => "handed_off"
  | .closed => "closed"

/-- The partial indexes are over the states that are not these two. -/
def LeadState.finished : LeadState → Bool
  | .handed_off | .closed => true
  | _ => false

inductive LeadDisposition where
  | sold_elsewhere | not_interested | unqualified | duplicate | no_contact | handed_to_sales
deriving DecidableEq

inductive IntakeChannel where
  | manual | import_ | campaign | website | provider

inductive IntakeOutcome where
  | created | merged_into_existing | rejected

inductive AssignmentReason where
  | initial_routing | manual_assignment | reassignment | escalation | queue_return

inductive EscalationLevel where
  | first_response | no_contact
deriving DecidableEq

inductive ActivityKind where
  | task | note | call | email | sms | reminder

def ActivityKind.text : ActivityKind → String
  | .task => "task"
  | .note => "note"
  | .call => "call"
  | .email => "email"
  | .sms => "sms"
  | .reminder => "reminder"

inductive ActivityDirection where
  | inbound | outbound
deriving DecidableEq

inductive ActivityState where
  | open | completed | cancelled
deriving DecidableEq

def ActivityState.text : ActivityState → String
  | .open => "open"
  | .completed => "completed"
  | .cancelled => "cancelled"

inductive AppointmentPurpose where
  | test_drive | showroom_visit | consultation | delivery_preview | callback

inductive AppointmentState where
  | scheduled | confirmed | completed | cancelled | no_show
deriving DecidableEq

/-! ## Rows -/

/-- A row of `parties`: a customer. -/
structure Party where
  party_id : String
  party_type : PartyType
  display_name : String
  given_name : Option String
  family_name : Option String
  organization_name : Option String
  email : Option String
  phone : Option String
  status : PartyStatus
  contact_sharing_override : Bool
  authorization_version : Nat
deriving DecidableEq

/-- A row of `lead_sources`. -/
structure LeadSource where
  lead_source_id : String
  source_code : String
  active : Bool

/-- A row of `leads`. -/
structure Lead where
  lead_id : String
  rooftop_id : String
  party_id : String
  interest_stock_item_id : Option String
  interest_vehicle_id : Option String
  lifecycle_state : LeadState
  disposition : Option LeadDisposition
  owner_user_link_id : Option String
  queue_id : Option String
  primary_source_id : String
  first_response_due_at : Option Int
  escalate_at : Option Int
  first_response_at : Option Int
  escalated_at : Option Int
  handed_off_at : Option Int
  closed_at : Option Int
  authorization_version : Nat
deriving DecidableEq

/-- `COALESCE(interest_stock_item_id, interest_vehicle_id, 'general')`, the
generated column and `interestKeyOf`. -/
def interestKeyOf (interestStockItemId interestVehicleId : Option String) : String :=
  (interestStockItemId.or interestVehicleId).getD "general"

/-- The generated column. -/
def Lead.interest_key (l : Lead) : String :=
  interestKeyOf l.interest_stock_item_id l.interest_vehicle_id

/-- A row of `lead_intakes`. -/
structure LeadIntake where
  intake_key : String
  channel : IntakeChannel
  lead_id : Option String
  outcome : IntakeOutcome
  reason : Option String
  payload_fingerprint : String
  received_by_user_link_id : String

/-- A row of `lead_source_touches`. -/
structure LeadSourceTouch where
  touch_id : String
  lead_id : String
  lead_source_id : String
  campaign_version_id : Option String
  touch_seq : Nat
  channel : IntakeChannel
  /-- `detail.first`. -/
  first : Bool

/-- A row of `lead_queues`. -/
structure LeadQueue where
  queue_id : String
  rooftop_id : String
  active : Bool

/-- A row of `lead_assignments`. -/
structure LeadAssignment where
  lead_id : String
  from_user_link_id : Option String
  to_user_link_id : Option String
  queue_id : Option String
  reason : AssignmentReason
  note : Option String
  assigned_by_user_link_id : String

/-- A row of `lead_status_events`. -/
structure LeadStatusEvent where
  lead_id : String
  from_state : LeadState
  to_state : LeadState
  disposition : Option LeadDisposition
  note : Option String
  changed_by_user_link_id : String

/-- A row of `lead_sla_policies`. -/
structure LeadSlaPolicy where
  rooftop_id : String
  first_response_minutes : Int
  escalate_after_minutes : Int
  active : Bool

/-- A row of `lead_escalations`. -/
structure LeadEscalation where
  lead_id : String
  level : EscalationLevel
  due_at : Int
  raised_at : Int

/-- `handed_snapshot`. -/
structure HandedSnapshot where
  lead_id : String
  rooftop_id : String
  party_id : String
  interest_stock_item_id : Option String
  interest_vehicle_id : Option String
  primary_source_id : String
  owner_user_link_id : Option String
  first_response_at : Option Int
  handed_off_at : Option Int

/-- A row of `lead_handoffs`. -/
structure LeadHandoff where
  handoff_id : String
  lead_id : String
  handed_snapshot : HandedSnapshot
  handed_to_user_link_id : String
  handed_by_user_link_id : String

/-- A row of `lead_activities`. -/
structure LeadActivity where
  activity_id : String
  lead_id : String
  kind : ActivityKind
  direction : Option ActivityDirection
  subject : String
  body : Option String
  state : ActivityState
  due_at : Option Int
  completed_at : Option Int
  assigned_to_user_link_id : Option String
  authorization_version : Nat

/-- A row of `appointments`. -/
structure Appointment where
  appointment_id : String
  rooftop_id : String
  lead_id : String
  party_id : String
  stock_item_id : Option String
  purpose : AppointmentPurpose
  starts_at : Int
  ends_at : Int
  state : AppointmentState
  assigned_to_user_link_id : Option String
  authorization_version : Nat

/-- A row of `appointment_events` of type `scheduled`. -/
structure AppointmentEvent where
  appointment_id : String
  actor_user_link_id : String

/-- The customers and the leads of one tenant. -/
structure Pipeline where
  parties : List Party
  lead_sources : List LeadSource
  leads : List Lead
  lead_intakes : List LeadIntake
  lead_source_touches : List LeadSourceTouch
  lead_queues : List LeadQueue
  lead_assignments : List LeadAssignment
  lead_status_events : List LeadStatusEvent
  lead_sla_policies : List LeadSlaPolicy
  lead_escalations : List LeadEscalation
  lead_handoffs : List LeadHandoff
  lead_activities : List LeadActivity
  appointments : List Appointment
  appointment_events : List AppointmentEvent

/-- A pipeline no lead has come into, over the customers, sources, queues and
policies of the dealership. -/
def Pipeline.quiet (parties : List Party) (sources : List LeadSource) (queues : List LeadQueue)
    (policies : List LeadSlaPolicy) : Pipeline where
  parties
  lead_sources := sources
  leads := []
  lead_intakes := []
  lead_source_touches := []
  lead_queues := queues
  lead_assignments := []
  lead_status_events := []
  lead_sla_policies := policies
  lead_escalations := []
  lead_handoffs := []
  lead_activities := []
  appointments := []
  appointment_events := []

/-! ## What surrounds a command -/

/-- `toLowerCase`, `toUpperCase` and the `lower` of the database, with the two facts
of lower-casing that normal forms rest on: it is idempotent, and white space has
no case. -/
structure Casing where
  lower : String → String
  upper : String → String
  sqlLower : String → String
  lower_lower : ∀ s, lower (lower s) = lower s
  trim_lower : ∀ s, trimText (lower (trimText s)) = lower (trimText s)

/-- What a command of the CRM finds around it: the clock of its transaction, the
identifiers it will draw and the rows of other packages its foreign keys name. -/
structure CrmWorld where
  access : Access
  now : Int
  rooftopExists : String → Bool
  stockItemExists : String → Bool
  vehicleExists : String → Bool
  campaignVersionExists : String → Bool
  newPartyId : String
  newLeadId : String
  newTouchId : String
  newHandoffId : String
  newActivityId : String
  newAppointmentId : String

/-! ## Locks -/

/-- How a row is locked.  `read` is the footprint of a plain `SELECT`: it blocks
nobody and nobody blocks it. -/
inductive RowLock where
  | read | keyShare | noKeyUpdate | forUpdate
deriving DecidableEq

def RowLock.conflicts : RowLock → RowLock → Bool
  | .read, _ => false
  | _, .read => false
  | .keyShare, .forUpdate => true
  | .keyShare, _ => false
  | .noKeyUpdate, .keyShare => false
  | .noKeyUpdate, _ => true
  | .forUpdate, _ => true

/-- What is locked: a row, an entry of a unique index about to be written, or the
key of an advisory lock. -/
inductive Lock where
  | lead (leadId : String) (mode : RowLock)
  | activity (activityId : String) (mode : RowLock)
  | intake (intakeKey : String) (mode : RowLock)
  | index (name key : String)
  | advisory (key : String)
deriving DecidableEq

/-- Two locks of different transactions that cannot both be held. -/
def Lock.conflicts : Lock → Lock → Bool
  | .lead l m, .lead k n => l = k && m.conflicts n
  | .activity a m, .activity b n => a = b && m.conflicts n
  | .intake a m, .intake b n => a = b && m.conflicts n
  | .index a k, .index b l => a = b && k = l
  | .advisory k, .advisory l => k = l
  | _, _ => false

/-- A transaction of the CRM. -/
abbrev Work := Script Pipeline Lock Raise

/-- An attributable mutation has an actor. -/
def actorWithin (w : CrmWorld) (actingUserLinkId : String) : Work String :=
  match requireActor w.access actingUserLinkId with
  | .ok actor => pure actor
  | .error e => .raise e

theorem run_actorWithin {α : Type} {w : CrmWorld} {who : String} {f : String → Work α} {a : α}
    {db db' : Pipeline}
    (h : (actorWithin w who >>= f).run db = .ok (a, db')) :
    ∃ actor, requireActor w.access who = .ok actor ∧ (f actor).run db = .ok (a, db') := by
  unfold actorWithin at h
  split at h
  · exact ⟨_, ‹_›, h⟩
  · cases h

theorem RowLock.conflicts_symm (m n : RowLock) : m.conflicts n = n.conflicts m := by
  cases m <;> cases n <;> rfl

theorem Lock.conflicts_symm (k l : Lock) : k.conflicts l = l.conflicts k := by
  cases k <;> cases l <;> simp only [Lock.conflicts, RowLock.conflicts_symm, eq_comm]

end Dealership.Crm
