import Dealership.Service.Queue

/-!
# Repair orders and their lifecycle

A repair order is opened at the counter or from an appointment, moved along its lifecycle,
and flagged when the car comes back.  A move locks the order before it judges it.  The two
moves that commit money are paid for with a step-up grant, spent in the same transaction.
-/

namespace Dealership.Service

open Library
open Inventory (LotLock)
open Policy (ReauthenticationGrant)

/-! ## Opening -/

structure ROInput where
  location_id : String
  mdm_customer_id : String
  mdm_vehicle_id : String
  appointment_id : Option String
  odometer : Option Rat

/-- A whole number of miles, and not a negative one. -/
def odometerReads (odometer : Option Rat) : Bool :=
  odometer.all fun n => n.den = 1 && 0 ≤ n

def requireOdometer (odometer : Option Rat) : ServiceWork Unit :=
  insist (odometerReads odometer)
    ⟨.validation, "validation_error", "odometer must be a non-negative integer"⟩

/-- An `integer` column holds no more. -/
def maxInteger : Nat := 2147483647

/-- What `repair_orders` accepts: its key, one order per appointment, an odometer that
fits. -/
def RepairOrder.fits (r : RepairOrder) (d : Shop) : Bool :=
  d.repair_orders.all (fun s => s.ro_id ≠ r.ro_id &&
    (r.appointment_id.isNone || s.appointment_id ≠ r.appointment_id)) &&
  r.odometer.all fun n => n ≤ maxInteger

def insertRO (r : RepairOrder) : ServiceWork Unit :=
  Script.execute (fun _ => .index "repair_orders_pkey" r.ro_id ::
      (r.appointment_id.map (LotLock.index "idx_ro_appointment")).toList)
    r.fits (refusal "repair_orders")
    (fun _ d => { d with repair_orders := d.repair_orders ++ [r] }) fun _ => ()

def lockAppointment (appointmentId : String) : ServiceWork ServiceAppointment := do
  let found ← Script.selectLocking
    (fun _ => [.row "service_appointments" appointmentId .forUpdate])
    fun d => d.service_appointments.find? fun a => a.appointment_id = appointmentId
  match found with
  | none => .raise ⟨.notFound, "not_found", "Appointment not found"⟩
  | some appt => pure appt

def orderOf (appointmentId : String) (d : Shop) : Option RepairOrder :=
  d.repair_orders.find? fun r => r.appointment_id = some appointmentId

def requireFreeAppointment : Option String → ServiceWork Unit
  | none => pure ()
  | some appointmentId => do
    let _ ← lockAppointment appointmentId
    let existing ← Script.select (orderOf appointmentId)
    insist existing.isNone ⟨.conflict, "appointment_already_converted",
      "This appointment already has a repair order"⟩

def createRO (w : ServiceWorld) (input : ROInput) : ServiceWork RepairOrder := do
  requireUuid input.location_id "location_id"
  requireUuid input.mdm_customer_id "mdm_customer_id"
  requireUuid input.mdm_vehicle_id "mdm_vehicle_id"
  insist (input.appointment_id.all isUuid)
    ⟨.validation, "validation_error", "appointment_id must be a UUID"⟩
  requireOdometer input.odometer
  requireFreeAppointment input.appointment_id
  let row : RepairOrder := {
    ro_id := w.newId
    location_id := input.location_id
    appointment_id := input.appointment_id
    mdm_customer_id := input.mdm_customer_id
    mdm_vehicle_id := input.mdm_vehicle_id
    status := .draft
    odometer := input.odometer.map fun n => n.num.toNat }
  insertRO row
  recordROEvent w w.newId .created
  pure row

structure CheckInResult where
  ro : RepairOrder
  idempotent_replay : Bool

def convertAppointment (appointmentId : String) : ServiceWork Unit :=
  store (fun _ => [.row "service_appointments" appointmentId .noKeyUpdate]) fun _ d =>
    { d with
      service_appointments := updateWhere (fun a => a.appointment_id = appointmentId)
        (fun a => { a with status := .converted_to_ro }) d.service_appointments }

/-- The first-service offer that brought the car in is converted. -/
def offersOf (appointmentId : String) (d : Shop) : List String :=
  (d.first_service_offers.filter fun o => o.appointment_id = appointmentId &&
    (o.status = .offered || o.status = .scheduled)).map FirstServiceOffer.offer_id

def convertOffers (w : ServiceWorld) (appointmentId roId : String) : ServiceWork Unit :=
  store (fun d => rowLocks "first_service_offers" (offersOf appointmentId d)) fun v d =>
    { d with
      first_service_offers := updateWhere (fun o => o.offer_id ∈ offersOf appointmentId v)
        (fun o => { o with
          status := .converted
          ro_id := some roId
          converted_at := some w.now }) d.first_service_offers }

def checkIn (w : ServiceWorld) (appointmentId : String) (odometer : Option Rat) :
    ServiceWork CheckInResult := do
  requireUuid appointmentId "appointment_id"
  requireOdometer odometer
  let appt ← lockAppointment appointmentId
  let existing ← Script.select (orderOf appointmentId)
  match existing with
  | some ro => pure ⟨ro, true⟩
  | none => do
    insist (appt.status ∈ [.requested, .scheduled, .confirmed])
      ⟨.conflict, "invalid_appointment_status", "Appointment cannot be checked in"⟩
    let row : RepairOrder := {
      ro_id := w.newId
      location_id := appt.location_id
      appointment_id := some appointmentId
      mdm_customer_id := appt.mdm_customer_id
      mdm_vehicle_id := appt.mdm_vehicle_id
      status := .checked_in
      odometer := odometer.map fun n => n.num.toNat }
    insertRO row
    convertAppointment appointmentId
    recordROEvent w w.newId (.created_from_appointment appointmentId)
    syncQueueForRO w row
    convertOffers w appointmentId w.newId
    pure ⟨row, false⟩

/-! ## Inspection -/

def startMPISession (w : ServiceWorld) (roId templateId techUserId : String) :
    ServiceWork MpiSession := do
  requireUuid templateId "template_id"
  requireUuid techUserId "tech_user_id"
  let ro ← assertRO roId true
  insist (ro.status ∈ [.checked_in, .inspection_in_progress]) ⟨.conflict, "ro_not_inspectable",
    "An inspection cannot be started on a '" ++ ro.status.text ++ "' repair order"⟩
  let template ← Script.select fun d =>
    d.mpi_templates.find? fun t => t.template_id = templateId && t.active
  insist template.isSome ⟨.notFound, "not_found", "MPI template not found"⟩
  let session : MpiSession := ⟨w.newId, roId, templateId, techUserId, .started⟩
  Script.execute (fun _ => [.index "mpi_sessions_pkey" w.newId])
    (fun d => d.mpi_sessions.all fun s => s.mpi_session_id ≠ w.newId) (refusal "mpi_sessions")
    (fun _ d => { d with mpi_sessions := d.mpi_sessions ++ [session] }) fun _ => ()
  let moved ← moveRO roId [.checked_in] .inspection_in_progress
  (if moved then syncQueueForRO w { ro with status := .inspection_in_progress } else pure ())
  recordROEvent w roId (.mpi_started w.newId)
  pure session

/-! ## Step-up -/

/-- The grant pays for the action on the repair order: it is the caller's, for exactly
this, unspent and in time, and of the highest assurance. -/
def grantPays (w : ServiceWorld) (tenantId action roId token : String)
    (g : ReauthenticationGrant) : Bool :=
  g.grantHash = w.sha256hex token && g.tenantId = tenantId && g.userLinkId = w.userId &&
    g.action = action && g.resourceType = some "repair_order" && g.resourceId = some roId &&
    g.consumedAt.isNone && w.now < g.expiresAt && g.assuranceLevel = .freshAndMfaPolicy &&
    g.mfaPolicyCertifiedAtIssue

/-- The grant such a request would spend. -/
def payingGrant (w : ServiceWorld) (action roId token : String) (d : Shop) :
    Option ReauthenticationGrant :=
  d.grants.find? (grantPays w d.tenant_id action roId token)

def stepUpRequired : ServiceError :=
  ⟨.forbidden, "step_up_required", "Reauthentication is required for this action"⟩

def consumeSensitiveActionGrant (w : ServiceWorld) (token : Option String)
    (action roId : String) : ServiceWork Unit := do
  insist (token.any fun value => value ≠ "") stepUpRequired
  Script.execute
    (fun d => rowLocks "reauthentication_grants"
      ((payingGrant w action roId (token.getD "") d).map (·.grantId)).toList)
    (fun d => (payingGrant w action roId (token.getD "") d).isSome) stepUpRequired
    (fun v d => { d with
      grants := updateWhere
        (fun g => (payingGrant w action roId (token.getD "") v).any fun p => p.grantId = g.grantId)
        (fun g => { g with consumedAt := some w.now }) d.grants })
    fun _ => ()

/-! ## The lifecycle -/

structure TransitionInput where
  reason : Option String
  step_up_token : Option String

def openWork (roId : String) (d : Shop) : List LineItem :=
  (d.linesOf roId).filter LineItem.isOpen

def undecidedWork (roId : String) (d : Shop) : List LineItem :=
  (d.linesOf roId).filter LineItem.undecided

/-- The statements the two gates look at the lines with. -/
def openMark (roId : String) : LotLock := .row "ro_line_items: open work" roId .read

def undecidedMark (roId : String) : LotLock := .row "ro_line_items: undecided" roId .read

/-- Nothing is handed back while work is open or undecided. -/
def requireFinishedWork (roId : String) : ServiceWork Unit := do
  let found ← Script.selectLocking (fun _ => [openMark roId]) (openWork roId)
  insist found.isEmpty ⟨.unprocessable, "work_incomplete",
    "Every line item must be completed, declined or canceled before pickup"⟩
  let undecided ← Script.selectLocking (fun _ => [undecidedMark roId]) (undecidedWork roId)
  insist undecided.isEmpty ⟨.unprocessable, "decision_outstanding",
    "Every chargeable line item must have a recorded customer decision before pickup"⟩

def requireApprovedWork (roId : String) : ServiceWork Unit := do
  let approved ← Script.select fun d => (d.linesOf roId).any fun l =>
    l.authorization_status = .approved || l.authorization_status = .not_required
  insist approved ⟨.unprocessable, "no_approved_work",
    "No line item on this repair order is approved to work on"⟩

def ROAuthorization.approves (a : ROAuthorization) (estimateId : String) : Bool :=
  a.status = .approved && !a.approved_items.isEmpty && a.estimate_id = estimateId

def evidenceOf (roId : String) (d : Shop) : List ROAuthorization :=
  (d.authorizationsOf roId).filter fun a =>
    (latestEstimate roId d).any fun e => a.approves e.estimate_id

def requireEvidence (roId : String) : ServiceWork Unit := do
  let evidence ← readOf "ro_authorizations" roId (evidenceOf roId)
  insist (!evidence.isEmpty) ⟨.unprocessable, "authorization_required",
    "Customer authorization for the current estimate is required"⟩

def openEstimates (roId : String) (d : Shop) : List String :=
  ((d.estimatesOf roId).filter fun e =>
    e.status = .sent || e.status = .partially_approved).map Estimate.estimate_id

def pendingLines (roId : String) (d : Shop) : List String :=
  ((d.linesOf roId).filter fun l => l.authorization_status = .pending).map LineItem.line_item_id

/-- The re-quote edge: what is out with the customer is withdrawn. -/
def withdrawEstimates (roId : String) : ServiceWork Unit := do
  store (fun d => rowLocks "ro_estimates" (openEstimates roId d)) fun v d =>
    d.setEstimates (openEstimates roId v) .expired
  store (fun d => rowLocks "ro_line_items" (pendingLines roId d)) fun v d =>
    d.setLines (pendingLines roId v) fun l => { l with authorization_status := .not_required }

def transitionAction (target : ROStatus) : String := "service.ro.transition:" ++ target.text

/-- What a transition asks before it moves the order. -/
def transitionGates (w : ServiceWorld) (roId : String) (target : ROStatus)
    (input : TransitionInput) : ServiceWork Unit := do
  (if transitionRequiresStepUp target then
    consumeSensitiveActionGrant w input.step_up_token (transitionAction target) roId else pure ())
  (if target = .ready_for_pickup then requireFinishedWork roId else pure ())
  (if target = .in_repair then requireApprovedWork roId else pure ())
  (if transitionRequiresAuthorization target then requireEvidence roId else pure ())

def transitionRO (w : ServiceWorld) (roId : String) (target : ROStatus)
    (input : TransitionInput) : ServiceWork RepairOrder := do
  let ro ← assertRO roId true
  insist (isTransitionAllowed ro.status target) ⟨.unprocessable, "invalid_transition",
    "Cannot move a repair order from '" ++ ro.status.text ++ "' to '" ++ target.text ++ "'"⟩
  transitionGates w roId target input
  let moved ← moveRO roId [ro.status] target
  insist moved ⟨.conflict, "concurrent_modification",
    "Repair order changed while the transition was being applied"⟩
  (if target = .estimate_pending then withdrawEstimates roId else pure ())
  syncQueueForRO w { ro with status := target }
  recordROEvent w roId (.status_changed ro.status target input.reason)
  pure { ro with status := target }

/-! ## Comebacks -/

structure ComebackInput where
  original_ro_id : String
  new_ro_id : String
  root_cause_category : String
  reason_codes : List String
  severity : Option String

def comebackRootCauses : List String :=
  ["workmanship", "parts_failure", "misdiagnosis", "incomplete_repair",
    "customer_expectation", "vendor_sublet", "unrelated"]

def comebackSeverities : List String := ["sev0", "sev1", "sev2", "sev3"]

def createComebackCase (w : ServiceWorld) (input : ComebackInput) : ServiceWork ComebackCase := do
  insist (input.original_ro_id ≠ input.new_ro_id) ⟨.validation, "validation_error",
    "A comeback must reference two different repair orders"⟩
  insist (input.root_cause_category ∈ comebackRootCauses) ⟨.validation, "validation_error",
    "root_cause_category must be one of: " ++ ", ".intercalate comebackRootCauses⟩
  let severity := input.severity.getD ""
  insist (severity = "" || severity ∈ comebackSeverities) ⟨.validation, "validation_error",
    "severity must be one of: " ++ ", ".intercalate comebackSeverities⟩
  -- Both orders are locked, in the order of their ids, before either is judged.
  let sorted := jsLe input.original_ro_id input.new_ro_id
  let _ ← assertRO (if sorted then input.original_ro_id else input.new_ro_id) true
  let _ ← assertRO (if sorted then input.new_ro_id else input.original_ro_id) true
  let original ← assertRO input.original_ro_id false
  insist (original.status = .closed) ⟨.conflict, "original_ro_not_closed",
    "The original repair order is '" ++ original.status.text ++ "'; only a closed RO can come back"⟩
  let cb : ComebackCase := {
    comeback_id := w.newId
    original_ro_id := input.original_ro_id
    new_ro_id := input.new_ro_id
    root_cause_category := input.root_cause_category
    reason_codes := input.reason_codes
    severity := if severity = "" then "sev2" else severity }
  Script.execute (fun _ => [.index "comeback_cases_pkey" w.newId])
    (fun d => d.comeback_cases.all fun c => c.comeback_id ≠ w.newId) (refusal "comeback_cases")
    (fun _ d => { d with comeback_cases := d.comeback_cases ++ [cb] }) fun _ => ()
  let flagged ← moveRO input.original_ro_id [.closed] .comeback
  (if flagged then syncQueueForRO w { original with status := .comeback } else pure ())
  recordROEvent w input.original_ro_id (.comeback_opened w.newId input.new_ro_id)
  recordROEvent w input.new_ro_id (.comeback_linked w.newId input.original_ro_id)
  pure cb

end Dealership.Service
