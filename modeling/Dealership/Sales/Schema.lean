import Dealership.Inventory.Stock

/-!
# The sales floor

What a dealership knows of a customer from the moment sales takes them on: the
opportunity and its history, the cars on its shortlist, the fact handed to desking, the
visit, the rotation of the people on the floor, and the drives.  Around them stand the
rows of the CRM and of the lot that sales reads.

No row is ever deleted, so a foreign key whose target the transaction has read, or whose
value another row already carries, cannot fail and is left out.
-/

namespace Dealership.Sales

open Library
open Inventory (Lot LotLock StockItem)

/-! ## Vocabularies -/

inductive OpportunityOrigin where
  | crm_handoff | walk_in
deriving DecidableEq

inductive OpportunityStage where
  | received | in_showroom | demonstrated | negotiating | follow_up | ready_for_desking | lost
deriving DecidableEq

/-- `TERMINAL_STAGES`: the two absorbing stages. -/
def OpportunityStage.terminal : OpportunityStage → Bool
  | .ready_for_desking | .lost => true
  | _ => false

inductive OpportunityDisposition where
  | committed_to_purchase | lost_to_competitor | lost_no_decision | lost_credit | lost_no_vehicle
  | customer_unreachable
deriving DecidableEq

def OpportunityDisposition.text : OpportunityDisposition → String
  | .committed_to_purchase => "committed_to_purchase"
  | .lost_to_competitor => "lost_to_competitor"
  | .lost_no_decision => "lost_no_decision"
  | .lost_credit => "lost_credit"
  | .lost_no_vehicle => "lost_no_vehicle"
  | .customer_unreachable => "customer_unreachable"

inductive AssignmentReason where
  | floor_rotation | manual_assignment | reassignment | turnover | manager_override

inductive VehicleInterestStatus where
  | considering | demonstrated | rejected | selected
deriving DecidableEq

inductive RotationStatus where
  | available | with_customer | unavailable
deriving DecidableEq

inductive VisitState where
  | arrived | greeted | with_salesperson | departed
deriving DecidableEq

def VisitState.text : VisitState → String
  | .arrived => "arrived"
  | .greeted => "greeted"
  | .with_salesperson => "with_salesperson"
  | .departed => "departed"

inductive DemonstrationState where
  | issued | in_progress | returned | cancelled | exception
deriving DecidableEq

/-- `ACTIVE_DEMONSTRATION_STATES`: the keys are out. -/
def DemonstrationState.active : DemonstrationState → Bool
  | .issued | .in_progress => true
  | _ => false

inductive DemonstrationVerdict where
  | interested | not_interested | wants_alternative

inductive DemonstrationExceptionKind where
  | damage | accident | not_returned | breakdown | other

/-! ## Rows -/

/-- A row of `opportunities`. -/
structure Opportunity where
  opportunity_id : String
  rooftop_id : String
  party_id : String
  origin : OpportunityOrigin
  handoff_id : Option String
  lead_id : Option String
  appointment_id : Option String
  interest_stock_item_id : Option String
  owner_user_link_id : Option String
  stage : OpportunityStage
  disposition : Option OpportunityDisposition
  desking_ready_at : Option Int
  lost_at : Option Int
  authorization_version : Nat

/-- A row of `opportunity_stage_events`. -/
structure OpportunityStageEvent where
  opportunity_id : String
  from_stage : OpportunityStage
  to_stage : OpportunityStage
  disposition : Option OpportunityDisposition
  note : Option String
  changed_by_user_link_id : String

/-- A row of `opportunity_assignments`. -/
structure OpportunityAssignment where
  opportunity_id : String
  from_user_link_id : Option String
  to_user_link_id : String
  reason : AssignmentReason
  note : Option String
  assigned_by_user_link_id : String

/-- What sales owes a customer: the columns of `opportunity_activities` a follow-up reads. -/
structure OpportunityActivity where
  opportunity_id : String
  isOpen : Bool
  due_at : Option Int

/-- A row of `opportunity_vehicles`. -/
structure OpportunityVehicle where
  opportunity_vehicle_id : String
  opportunity_id : String
  stock_item_id : String
  rank : Int
  status : VehicleInterestStatus
  rejected_reason : Option String
  authorization_version : Nat

inductive VehicleEventType where
  | shortlisted | considering | demonstrated | rejected | selected | stood_down

/-- A row of `opportunity_vehicle_events`. -/
structure OpportunityVehicleEvent where
  opportunity_id : String
  opportunity_vehicle_id : String
  stock_item_id : String
  event_type : VehicleEventType
  from_status : Option VehicleInterestStatus
  to_status : Option VehicleInterestStatus
  reason : Option String
  actor_user_link_id : String

/-- A row of `desking_handoffs`. -/
structure DeskingHandoff where
  desking_handoff_id : String
  opportunity_id : String
  rooftop_id : String
  party_id : String
  stock_item_id : Option String
  handed_by_user_link_id : String
  outbox_event_id : String

/-- A row of the outbox of type `sales.opportunity.ready_for_appraisal_desking`. -/
structure DeskingReadyEvent where
  event_id : String
  opportunity_id : String
  rooftop_id : String
  party_id : String
  stock_item_id : Option String

/-- A row of `floor_rotations`. -/
structure FloorRotation where
  rotation_id : String
  rooftop_id : String
  user_link_id : String
  position : Nat
  status : RotationStatus
  last_taken_at : Option Int
  authorization_version : Nat

/-- A row of `showroom_visits`. -/
structure ShowroomVisit where
  visit_id : String
  rooftop_id : String
  party_id : String
  opportunity_id : Option String
  appointment_id : Option String
  greeted_by_user_link_id : Option String
  accepted_by_user_link_id : Option String
  state : VisitState
  arrived_at : Int
  greeted_at : Option Int
  accepted_at : Option Int
  departed_at : Option Int
  authorization_version : Nat
deriving DecidableEq

inductive VisitEventType where
  | arrived | greeted | accepted | appointment_kept | demonstration_issued | demonstration_started
  | demonstration_returned | demonstration_cancelled | demonstration_exception | turned_over
  | departed

/-- A row of `visit_events`. -/
structure VisitEvent where
  visit_id : String
  event_type : VisitEventType
  note : Option String
  actor_user_link_id : String

/-- A row of `demonstrations`. -/
structure Demonstration where
  demonstration_id : String
  rooftop_id : String
  opportunity_id : String
  stock_item_id : String
  visit_id : Option String
  driver_party_id : String
  accompanied_by_user_link_id : String
  licence_verified : Bool
  state : DemonstrationState
  outcome : Option DemonstrationVerdict
  exception_kind : Option DemonstrationExceptionKind
  issued_at : Int
  started_at : Option Int
  ended_at : Option Int
  notes : Option String
  authorization_version : Nat

inductive DemonstrationEventType where
  | issued | started | returned | cancelled | exception

/-- A row of `demonstration_events`. -/
structure DemonstrationEvent where
  demonstration_id : String
  event_type : DemonstrationEventType
  outcome : Option DemonstrationVerdict
  exception_kind : Option DemonstrationExceptionKind
  note : Option String
  actor_user_link_id : String

/-- The sales floor of one tenant, with the rows of the CRM and of the lot it reads. -/
structure Showroom where
  parties : List Crm.Party
  leads : List Crm.Lead
  lead_handoffs : List Crm.LeadHandoff
  appointments : List Crm.Appointment
  lot : Lot
  opportunities : List Opportunity
  opportunity_stage_events : List OpportunityStageEvent
  opportunity_assignments : List OpportunityAssignment
  opportunity_activities : List OpportunityActivity
  opportunity_vehicles : List OpportunityVehicle
  opportunity_vehicle_events : List OpportunityVehicleEvent
  desking_handoffs : List DeskingHandoff
  outbox : List DeskingReadyEvent
  floor_rotations : List FloorRotation
  showroom_visits : List ShowroomVisit
  visit_events : List VisitEvent
  demonstrations : List Demonstration
  demonstration_events : List DemonstrationEvent

/-- A floor nothing has happened on, over the customers, leads and cars of the dealership. -/
def Showroom.quiet (parties : List Crm.Party) (leads : List Crm.Lead)
    (handoffs : List Crm.LeadHandoff) (lot : Lot) : Showroom where
  parties := parties
  leads := leads
  lead_handoffs := handoffs
  appointments := []
  lot := lot
  opportunities := []
  opportunity_stage_events := []
  opportunity_assignments := []
  opportunity_activities := []
  opportunity_vehicles := []
  opportunity_vehicle_events := []
  desking_handoffs := []
  outbox := []
  floor_rotations := []
  showroom_visits := []
  visit_events := []
  demonstrations := []
  demonstration_events := []

/-! ## Transactions -/

/-- What a command of sales finds around it: who is asking, the clock of its transaction
and the ids the database draws for it. -/
structure SalesWorld where
  access : Access
  now : Int
  newId : String
  newEventId : String

abbrev SalesWork := Script Showroom LotLock Raise

/-- An attributable mutation has an actor. -/
def actorOnFloor (w : SalesWorld) (actingUserLinkId : String) : SalesWork String :=
  match requireActor w.access actingUserLinkId with
  | .ok actor => pure actor
  | .error e => .raise e

/-- What a plain `SELECT` of one row leaves behind: it blocks nobody. -/
def footprint (table id : String) : LotLock := .row table id .read

/-- A plain `SELECT` of one row. -/
def readRow {A : Type} (table id : String) (f : Showroom → A) : SalesWork A :=
  Script.selectLocking (fun _ => [footprint table id]) f

/-- A row is locked against every other write. -/
def Locked (held : List LotLock) (table id : String) : Prop :=
  .row table id .forUpdate ∈ held ∨ .row table id .noKeyUpdate ∈ held

theorem Locked.mono {held more : List LotLock} (hsub : ∀ k ∈ held, k ∈ more) {table id : String}
    (h : Locked held table id) : Locked more table id :=
  h.imp (hsub _) (hsub _)

theorem Locked.not_both {held more : List LotLock}
    (hclear : ∀ k ∈ held, ∀ l ∈ more, k.conflicts l = false) {table id : String}
    (h : Locked held table id) : ¬ Locked more table id := by
  intro h'
  rcases h with h | h
  · rcases h' with h' | h'
    · simpa [LotLock.conflicts, Crm.RowLock.conflicts] using hclear _ h _ h'
    · simpa [LotLock.conflicts, Crm.RowLock.conflicts] using hclear _ h _ h'
  · rcases h' with h' | h'
    · simpa [LotLock.conflicts, Crm.RowLock.conflicts] using hclear _ h _ h'
    · simpa [LotLock.conflicts, Crm.RowLock.conflicts] using hclear _ h _ h'

def findOpportunity (opportunityId : String) (d : Showroom) : Option Opportunity :=
  d.opportunities.find? fun o => o.opportunity_id = opportunityId

end Dealership.Sales
