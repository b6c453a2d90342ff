import Dealership.Inventory.Schema
import Dealership.Policy.Gates

/-!
# Repair orders

The rows of the service department of one tenant: appointments and the repair orders they
become, the lines of work on them, the estimates put to the customer and the decisions the
customer took, with the step-up grants that privileged steps are paid for with.

A repair order moves through `ROStatus` along `allowedTransitionsFrom`, and every move is
told in `ro_events`.
-/

namespace Dealership.Service

open Library
open Inventory (LotLock)
open Policy (ReauthenticationGrant)

/-! ## The lifecycle -/

inductive ROStatus where
  | draft
  | checked_in
  | inspection_in_progress
  | estimate_pending
  | awaiting_authorization
  | authorized
  | in_repair
  | waiting_parts
  | sublet_in_progress
  | qc
  | ready_for_pickup
  | closed
  | canceled
  | comeback
deriving DecidableEq

def ROStatus.text : ROStatus → String
  | draft => "draft"
  | checked_in => "checked_in"
  | inspection_in_progress => "inspection_in_progress"
  | estimate_pending => "estimate_pending"
  | awaiting_authorization => "awaiting_authorization"
  | authorized => "authorized"
  | in_repair => "in_repair"
  | waiting_parts => "waiting_parts"
  | sublet_in_progress => "sublet_in_progress"
  | qc => "qc"
  | ready_for_pickup => "ready_for_pickup"
  | closed => "closed"
  | canceled => "canceled"
  | comeback => "comeback"

/-- `RO_TRANSITIONS`. -/
def allowedTransitionsFrom : ROStatus → List ROStatus
  | .draft => [.checked_in, .canceled]
  | .checked_in => [.inspection_in_progress, .estimate_pending, .canceled]
  | .inspection_in_progress =>
    [.estimate_pending, .awaiting_authorization, .authorized, .canceled]
  | .estimate_pending => [.awaiting_authorization, .canceled]
  | .awaiting_authorization => [.authorized, .estimate_pending, .canceled]
  | .authorized => [.in_repair, .waiting_parts, .sublet_in_progress, .canceled]
  | .in_repair => [.waiting_parts, .sublet_in_progress, .qc, .canceled]
  | .waiting_parts => [.in_repair, .canceled]
  | .sublet_in_progress => [.in_repair, .qc, .canceled]
  | .qc => [.ready_for_pickup, .in_repair, .canceled]
  | .ready_for_pickup => [.closed]
  | .closed => [.comeback]
  | .canceled => []
  | .comeback => [.checked_in]

def isTransitionAllowed (source target : ROStatus) : Bool :=
  target ∈ allowedTransitionsFrom source

/-- `STEP_UP_TRANSITIONS`. -/
def transitionRequiresStepUp (target : ROStatus) : Bool :=
  target = .authorized || target = .canceled

/-- `AUTHORIZATION_GATED_TRANSITIONS`. -/
def transitionRequiresAuthorization (target : ROStatus) : Bool := target = .authorized

/-! ## Rows -/

inductive AppointmentStatus where
  | requested | scheduled | confirmed | checked_in | no_show | canceled | completed
  | converted_to_ro
deriving DecidableEq

inductive AppointmentSource where
  | walk_in | phone | web | sales_handoff | waitlist
deriving DecidableEq

inductive LanguagePreference where
  | en | es | auto

inductive ContactChannel where
  | sms | email | phone | portal

/-- An appointment; its concerns are the entries of a JSON array, as texts. -/
structure ServiceAppointment where
  appointment_id : String
  location_id : String
  mdm_customer_id : String
  mdm_vehicle_id : String
  scheduled_start : Int
  scheduled_end : Option Int
  status : AppointmentStatus
  concerns : List String
  preferred_contact_channel : ContactChannel
  language_preference : LanguagePreference
  source : AppointmentSource

inductive WaitlistStatus where
  | waiting | offered | scheduled | canceled | expired
deriving DecidableEq

inductive Priority where
  | p0 | p1 | p2

structure WaitlistEntry where
  waitlist_entry_id : String
  location_id : String
  mdm_customer_id : String
  mdm_vehicle_id : String
  requested_start : Int
  requested_end : Option Int
  concerns : List String
  priority : Priority
  preferred_contact_channel : ContactChannel
  language_preference : LanguagePreference
  status : WaitlistStatus
  offer_expires_at : Option Int
  appointment_id : Option String
  notes : Option String

inductive OfferStatus where
  | offered | scheduled | converted | lapsed | canceled
deriving DecidableEq

structure FirstServiceOffer where
  offer_id : String
  location_id : String
  deal_id : String
  mdm_customer_id : String
  mdm_vehicle_id : String
  appointment_id : String
  ro_id : Option String
  status : OfferStatus
  converted_at : Option Int

structure RepairOrder where
  ro_id : String
  location_id : String
  appointment_id : Option String
  mdm_customer_id : String
  mdm_vehicle_id : String
  status : ROStatus
  odometer : Option Nat
deriving DecidableEq

inductive LineType where
  | labor | parts | sublet | fee
deriving DecidableEq

inductive LineStatus where
  | proposed | approved | declined | in_progress | completed | canceled
deriving DecidableEq

inductive LineAuthorization where
  | not_required | pending | approved | declined
deriving DecidableEq

/-- `price_ref->'amount_cents'`: absent or JSON `null`, a number, or something else. -/
inductive Amount where
  | absent
  | number (n : Rat)
  | other
deriving DecidableEq

inductive Currency where
  | absent
  | text (s : String)
  | other
deriving DecidableEq

structure PriceRef where
  amount_cents : Amount
  currency : Currency
deriving DecidableEq

structure LineItem where
  line_item_id : String
  ro_id : String
  line_type : LineType
  category : Option String
  description : String
  status : LineStatus
  authorization_status : LineAuthorization
  authorization_ref : Option String
  estimate_id : Option String
  assigned_tech_user_id : Option String
  labor_op_code : Option String
  estimated_hours : Option Rat
  sold_hours : Option Rat
  price_ref : Option PriceRef

inductive EstimateStatus where
  | draft | sent | partially_approved | approved | declined | expired
deriving DecidableEq

/-- The figure an estimate puts to the customer; without a priced line it names no amount. -/
structure EstimateTotals where
  line_count : Nat
  estimated_hours : Rat
  currency : Option String
  amount_cents : Option Rat
  priced_line_count : Nat
  unpriced_line_count : Nat

structure Estimate where
  estimate_id : String
  ro_id : String
  version : Nat
  status : EstimateStatus
  totals_ref : EstimateTotals

inductive AuthorizationMethod where
  | portal | signature | staff_attestation | recorded_call_ref
deriving DecidableEq

def AuthorizationMethod.text : AuthorizationMethod → String
  | portal => "portal"
  | signature => "signature"
  | staff_attestation => "staff_attestation"
  | recorded_call_ref => "recorded_call_ref"

inductive AuthorizationStatus where
  | pending | approved | declined | revoked
deriving DecidableEq

/-- What a customer agreed to on a line, as it stood when they decided. -/
structure LineTerms where
  line_item_id : String
  description : String
  line_type : LineType
  labor_op_code : Option String
  estimated_hours : Option Rat
  sold_hours : Option Rat
  price_ref : Option PriceRef
deriving DecidableEq

structure ROAuthorization where
  authorization_id : String
  ro_id : String
  estimate_id : String
  method : AuthorizationMethod
  status : AuthorizationStatus
  approved_items : List String
  declined_items : List String
  approved_snapshot : List LineTerms
  authorized_at : Int
deriving DecidableEq

/-- What a row of `ro_events` tells. -/
inductive ROEventType where
  | created
  | created_from_appointment (appointmentId : String)
  | status_changed (source target : ROStatus) (reason : Option String)
  | mpi_started (mpiSessionId : String)
  | mpi_submitted (mpiSessionId : String) (resultsCount : Nat)
  | estimate_generated (estimateId : String) (version : Nat)
  | estimate_sent (estimateId : String)
  | authorization_received (authorizationId : String) (method : AuthorizationMethod)
      (status : AuthorizationStatus) (approved declined : Nat)
  | comeback_opened (comebackId newRoId : String)
  | comeback_linked (comebackId originalRoId : String)
deriving DecidableEq

structure ROEvent where
  ro_id : String
  event : ROEventType
  user_id : String

structure MpiTemplate where
  template_id : String
  active : Bool

inductive MpiSessionStatus where
  | started | in_progress | submitted | reviewed | closed
deriving DecidableEq

structure MpiSession where
  mpi_session_id : String
  ro_id : String
  template_id : String
  tech_user_id : String
  status : MpiSessionStatus

inductive MpiResultStatus where
  | pass | attention | fail
deriving DecidableEq

inductive MpiSeverity where
  | info | maintenance | safety
deriving DecidableEq

structure MpiResult where
  result_id : String
  mpi_session_id : String
  item_key : String
  status : MpiResultStatus
  severity : MpiSeverity
  notes : Option String
  evidence_artifact_refs : List String

/-- A text in the two languages a customer may read. -/
structure Bilingual where
  en : String
  es : String

/-- What an inspection proposes to the customer. -/
structure Recommendation where
  recommendation_id : String
  ro_id : String
  title_i18n : Bilingual
  description_i18n : Bilingual
  priority : Priority

structure TechProfile where
  tech_user_id : String
  location_id : String
  active : Bool

inductive TicketStatus where
  | assigned | started | paused | completed | reassigned | canceled
deriving DecidableEq

structure WorkTicket where
  ticket_id : String
  ro_id : String
  line_item_id : String
  assigned_tech_user_id : String
  status : TicketStatus
  pause_reason : Option String

inductive TimeEventType where
  | start | pause | resume | stop
deriving DecidableEq

/-- A clock entry; `created_at` is the instant its transaction began. -/
structure TimeEntry where
  time_entry_id : String
  ticket_id : String
  tech_user_id : String
  event_type : TimeEventType
  occurred_at : Int
  created_at : Int
deriving DecidableEq

inductive QueueType where
  | appointments_today | waiting_checkin | waiting_authorization | waiting_parts | in_repair
  | qc | ready_pickup | comeback_review | no_show_followup
deriving DecidableEq

inductive QueueStatus where
  | queued | in_progress | blocked | done | canceled
deriving DecidableEq

structure QueueItem where
  queue_item_id : String
  location_id : String
  queue_type : QueueType
  ro_id : Option String
  appointment_id : Option String
  priority : Priority
  status : QueueStatus
  assigned_to_user_id : Option String
  sla_due_at : Option Int
  block_reason_codes : Option (List String)

/-- The minutes a tenant allows an item of a queue. -/
structure SlaDefault where
  queue_type : QueueType
  target_minutes : Nat

structure ComebackCase where
  comeback_id : String
  original_ro_id : String
  new_ro_id : String
  root_cause_category : String
  reason_codes : List String
  severity : String

structure Shop where
  tenant_id : String
  service_appointments : List ServiceAppointment
  service_waitlist_entries : List WaitlistEntry
  first_service_offers : List FirstServiceOffer
  repair_orders : List RepairOrder
  ro_line_items : List LineItem
  ro_estimates : List Estimate
  ro_authorizations : List ROAuthorization
  ro_events : List ROEvent
  mpi_templates : List MpiTemplate
  mpi_sessions : List MpiSession
  mpi_results : List MpiResult
  service_recommendations : List Recommendation
  tech_profiles : List TechProfile
  tech_work_tickets : List WorkTicket
  tech_time_entries : List TimeEntry
  comeback_cases : List ComebackCase
  service_queue_items : List QueueItem
  service_sla_defaults : List SlaDefault
  grants : List ReauthenticationGrant

/-- A department that has not seen a car yet. -/
def Shop.opening (tenantId : String) (appointments : List ServiceAppointment)
    (templates : List MpiTemplate) (profiles : List TechProfile)
    (grants : List ReauthenticationGrant) : Shop where
  tenant_id := tenantId
  service_appointments := appointments
  service_waitlist_entries := []
  first_service_offers := []
  repair_orders := []
  ro_line_items := []
  ro_estimates := []
  ro_authorizations := []
  ro_events := []
  mpi_templates := templates
  mpi_sessions := []
  mpi_results := []
  service_recommendations := []
  tech_profiles := profiles
  tech_work_tickets := []
  tech_time_entries := []
  comeback_cases := []
  service_queue_items := []
  service_sla_defaults := []
  grants := grants

def uuid (last : String) : String := "a0000000-0000-4000-8000-00000000000" ++ last

/-! ## What the gates ask of a line -/

/-- Work that is not finished, refused or taken back. -/
def LineItem.isOpen (l : LineItem) : Bool :=
  l.status = .proposed || l.status = .approved || l.status = .in_progress

/-- A line the customer is charged for, or whose charge cannot be read. -/
def LineItem.chargeable (l : LineItem) : Bool :=
  match l.price_ref.elim .absent PriceRef.amount_cents with
  | .number n => 0 < n
  | .absent => false
  | .other => true

/-- A line the customer has been asked about, or is charged for without being asked. -/
def LineItem.undecided (l : LineItem) : Bool :=
  l.status ≠ .canceled && (l.authorization_status = .pending ||
    l.authorization_status = .not_required && l.chargeable)

/-! ## Transactions -/

inductive ErrorKind where
  | validation | forbidden | notFound | conflict | unprocessable | database

/-- What a request is refused with: its kind, its code and its message. -/
structure ServiceError where
  kind : ErrorKind
  code : String
  message : String

inductive Role where
  | service_advisor | service_manager | other (name : String)
deriving DecidableEq

/-- The caller, the instant of the transaction and the ids drawn for it. -/
structure ServiceWorld where
  userId : String
  roles : List Role
  now : Int
  newId : String
  /-- The next id drawn after `newId`. -/
  nextId : String
  /-- The digest a grant value is stored under. -/
  sha256hex : String → String

/-- A transaction of the service department. -/
abbrev ServiceWork := Script Shop LotLock ServiceError

def insist (holds : Bool) (e : ServiceError) : ServiceWork Unit :=
  if holds then pure () else .raise e

def refusal (constraint : String) : ServiceError := ⟨.database, constraint, constraint⟩

/-- An `INSERT` or an `UPDATE` that nothing refuses. -/
def store (locks : Shop → List LotLock) (write : Shop → Shop → Shop) : ServiceWork Unit :=
  Script.execute locks (fun _ => true) (refusal "") write fun _ => ()

/-- `UUID_RE`: the four groups of hexadecimal digits, with a version and a variant. -/
def isUuid (s : String) : Bool :=
  Dealership.isUuid s && (s.toList[14]?.any fun c => '1' ≤ c && c ≤ '5') &&
    s.toList[19]?.any fun c => c ∈ ['8', '9', 'a', 'b', 'A', 'B']

def requireUuid (value field : String) : ServiceWork Unit :=
  insist (isUuid value) ⟨.validation, "validation_error", field ++ " must be a UUID"⟩

def ServiceWorld.hasAnyRole (w : ServiceWorld) (roles : List Role) : Bool :=
  w.roles.any fun r => r ∈ roles

/-- The caller is a supervisor of the service department, as their roles go. -/
def ServiceWorld.supervises (w : ServiceWorld) : Bool :=
  w.hasAnyRole [.service_advisor, .service_manager]

/-! ### Rows by key -/

def findRO (roId : String) (d : Shop) : Option RepairOrder :=
  d.repair_orders.find? fun r => r.ro_id = roId

def findLine (roId lineItemId : String) (d : Shop) : Option LineItem :=
  d.ro_line_items.find? fun l => l.line_item_id = lineItemId && l.ro_id = roId

def findEstimate (roId estimateId : String) (d : Shop) : Option Estimate :=
  d.ro_estimates.find? fun e => e.estimate_id = estimateId && e.ro_id = roId

def Shop.linesOf (d : Shop) (roId : String) : List LineItem :=
  d.ro_line_items.filter fun l => l.ro_id = roId

def Shop.estimatesOf (d : Shop) (roId : String) : List Estimate :=
  d.ro_estimates.filter fun e => e.ro_id = roId

def Shop.authorizationsOf (d : Shop) (roId : String) : List ROAuthorization :=
  d.ro_authorizations.filter fun a => a.ro_id = roId

/-- What has happened to a repair order, in order. -/
def Shop.history (d : Shop) (roId : String) : List ROEventType :=
  (d.ro_events.filter fun e => e.ro_id = roId).map ROEvent.event

/-- `SELECT MAX(version)`. -/
def maxVersion (roId : String) (d : Shop) : Nat :=
  ((d.estimatesOf roId).map Estimate.version).foldr max 0

/-- `ORDER BY version DESC LIMIT 1`. -/
def latestEstimate (roId : String) (d : Shop) : Option Estimate :=
  (d.estimatesOf roId).find? fun e => e.version = maxVersion roId d

/-- A plain `SELECT` of rows of a repair order. -/
def readOf {A : Type} (table roId : String) (f : Shop → A) : ServiceWork A :=
  Script.selectLocking (fun _ => [.row table roId .read]) f

/-- `assertRO`, with or without `FOR UPDATE`. -/
def assertRO (roId : String) (lock : Bool) : ServiceWork RepairOrder := do
  requireUuid roId "ro_id"
  let ro ← Script.selectLocking
    (fun _ => [.row "repair_orders" roId (if lock then .forUpdate else .read)]) (findRO roId)
  match ro with
  | none => .raise ⟨.notFound, "ro_not_found", "Repair order not found"⟩
  | some ro => pure ro

/-- `assertLineItem` with `FOR UPDATE`. -/
def assertLineItem (roId lineItemId : String) : ServiceWork LineItem := do
  requireUuid lineItemId "line_item_id"
  let line ← Script.selectLocking (fun _ => [.row "ro_line_items" lineItemId .forUpdate])
    (findLine roId lineItemId)
  match line with
  | none =>
    .raise ⟨.notFound, "line_item_not_found", "Line item not found on this repair order"⟩
  | some line => pure line

def Shop.tell (d : Shop) (roId : String) (event : ROEventType) (userId : String) : Shop :=
  { d with ro_events := d.ro_events ++ [⟨roId, event, userId⟩] }

def recordROEvent (w : ServiceWorld) (roId : String) (event : ROEventType) : ServiceWork Unit :=
  store (fun _ => []) fun _ d => d.tell roId event w.userId

def Shop.setStatus (d : Shop) (roId : String) (status : ROStatus) : Shop :=
  { d with
    repair_orders := updateWhere (fun r => r.ro_id = roId)
      (fun r => { r with status := status }) d.repair_orders }

def Shop.setLines (d : Shop) (ids : List String) (f : LineItem → LineItem) : Shop :=
  { d with ro_line_items := updateWhere (fun l => l.line_item_id ∈ ids) f d.ro_line_items }

def Shop.setEstimates (d : Shop) (ids : List String) (status : EstimateStatus) : Shop :=
  { d with
    ro_estimates := updateWhere (fun e => e.estimate_id ∈ ids)
      (fun e => { e with status := status }) d.ro_estimates }

/-- The locks an `UPDATE` takes on the rows it picks. -/
def rowLocks (table : String) (ids : List String) : List LotLock :=
  ids.map fun id => .row table id .noKeyUpdate

/-- `UPDATE repair_orders SET status … WHERE ro_id AND status`: whether it moved it. -/
def moveRO (roId : String) (sources : List ROStatus) (target : ROStatus) : ServiceWork Bool :=
  Script.execute (fun d => if (findRO roId d).any (fun r => r.status ∈ sources) then
      [.row "repair_orders" roId .noKeyUpdate] else [])
    (fun _ => true) (refusal "")
    (fun v d => if (findRO roId v).any (fun r => r.status ∈ sources) then
      d.setStatus roId target else d)
    fun d => (findRO roId d).any fun r => r.status ∈ sources

end Dealership.Service
