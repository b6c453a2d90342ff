import Dealership.Service.Orders

/-!
# Appointments

A car is booked in at the counter, for its first service after a sale, or off the waitlist.  An
appointment is confirmed, or marked a no-show; its status is never written directly, and who
it is for and where is settled when it is made.
-/

namespace Dealership.Service

open Library
open Inventory (LotLock)

/-! ## What a request brings -/

def requireTimestamp (value : Option Int) (field : String) : ServiceWork Int :=
  match value with
  | none => .raise ⟨.validation, "validation_error", field ++ " must be a timestamp"⟩
  | some instant => pure instant

def optionalTimestamp (value : Option (Option Int)) (field : String) :
    ServiceWork (Option Int) :=
  match value with
  | none => pure none
  | some none => .raise ⟨.validation, "validation_error", field ++ " must be a timestamp"⟩
  | some (some instant) => pure (some instant)

/-- A value of a closed set: not given, not of the set, or of it. -/
def requireOneOf {A : Type} (value : Option (Option A)) (default : A) (field allowed : String) :
    ServiceWork A :=
  match value with
  | none => pure default
  | some none => .raise ⟨.validation, "validation_error",
      field ++ " must be one of: " ++ allowed⟩
  | some (some a) => pure a

def requireConcerns (value : Option (Option (List String))) : ServiceWork (List String) :=
  match value with
  | none => pure []
  | some none => .raise ⟨.validation, "validation_error", "concerns must be an array"⟩
  | some (some concerns) => pure concerns

def languages : String := "en, es, auto"

def channels : String := "sms, email, phone, portal"

/-! ## Booking -/

/-- `INSERT INTO service_appointments`. -/
def insertAppointment (a : ServiceAppointment) : ServiceWork Unit :=
  Script.execute (fun _ => [.index "service_appointments_pkey" a.appointment_id])
    (fun d => d.service_appointments.all fun b => b.appointment_id ≠ a.appointment_id)
    (refusal "service_appointments_pkey")
    (fun _ d => { d with service_appointments := d.service_appointments ++ [a] }) fun _ => ()

structure AppointmentInput where
  location_id : String
  mdm_customer_id : String
  mdm_vehicle_id : String
  scheduled_start : Option Int
  scheduled_end : Option (Option Int)
  concerns : Option (Option (List String))
  preferred_contact_channel : Option (Option ContactChannel)
  language_preference : Option (Option LanguagePreference)
  source : Option (Option AppointmentSource)

def createAppointment (w : ServiceWorld) (input : AppointmentInput) :
    ServiceWork ServiceAppointment := do
  requireUuid input.location_id "location_id"
  requireUuid input.mdm_customer_id "mdm_customer_id"
  requireUuid input.mdm_vehicle_id "mdm_vehicle_id"
  let start ← requireTimestamp input.scheduled_start "scheduled_start"
  let finish ← optionalTimestamp input.scheduled_end "scheduled_end"
  let source ← requireOneOf input.source .phone "source"
    "walk_in, phone, web, sales_handoff, waitlist"
  insist (source ≠ .waitlist) ⟨.validation, "validation_error",
    "source 'waitlist' is set by waitlist conversion, not directly"⟩
  let language ← requireOneOf input.language_preference .en "language_preference" languages
  let channel ← requireOneOf input.preferred_contact_channel .sms "preferred_contact_channel"
    channels
  let concerns ← requireConcerns input.concerns
  let row : ServiceAppointment := {
    appointment_id := w.newId
    location_id := input.location_id
    mdm_customer_id := input.mdm_customer_id
    mdm_vehicle_id := input.mdm_vehicle_id
    scheduled_start := start
    scheduled_end := finish
    status := .scheduled
    concerns := concerns
    preferred_contact_channel := channel
    language_preference := language
    source := source }
  insertAppointment row
  pure row

/-- The details a request names: `none` where it does not. -/
structure AppointmentUpdates where
  namesStatus : Bool
  scheduled_start : Option (Option Int)
  /-- Not a timestamp, `null`, or an instant. -/
  scheduled_end : Option (Option (Option Int))
  concerns : Option (Option (List String))
  preferred_contact_channel : Option (Option ContactChannel)
  language_preference : Option (Option LanguagePreference)

/-- The appointment with the details a request names. -/
def AppointmentUpdates.apply (u : AppointmentUpdates) (a : ServiceAppointment) :
    ServiceAppointment :=
  { a with
    scheduled_start := (u.scheduled_start.bind id).getD a.scheduled_start
    scheduled_end := (u.scheduled_end.bind id).getD a.scheduled_end
    concerns := (u.concerns.bind id).getD a.concerns
    preferred_contact_channel :=
      (u.preferred_contact_channel.bind id).getD a.preferred_contact_channel
    language_preference := (u.language_preference.bind id).getD a.language_preference }

/-- What is given is of its kind. -/
def proper {A : Type} : Option (Option A) → Bool
  | some none => false
  | _ => true

def AppointmentUpdates.isEmpty (u : AppointmentUpdates) : Bool :=
  u.scheduled_start.isNone && u.scheduled_end.isNone && u.concerns.isNone &&
    u.preferred_contact_channel.isNone && u.language_preference.isNone

def validateAppointmentUpdates (u : AppointmentUpdates) : ServiceWork Unit := do
  insist (!u.namesStatus) ⟨.validation, "status_not_directly_updatable",
    "status cannot be set directly; use the confirm or check-in endpoints"⟩
  insist (proper u.scheduled_start)
    ⟨.validation, "validation_error", "scheduled_start must be a timestamp"⟩
  insist (proper u.scheduled_end)
    ⟨.validation, "validation_error", "scheduled_end must be a timestamp"⟩
  insist (proper u.language_preference)
    ⟨.validation, "validation_error", "language_preference must be one of: " ++ languages⟩
  insist (proper u.preferred_contact_channel)
    ⟨.validation, "validation_error", "preferred_contact_channel must be one of: " ++ channels⟩
  insist (proper u.concerns) ⟨.validation, "validation_error", "concerns must be an array"⟩
  insist (!u.isEmpty) ⟨.validation, "validation_error", "No updatable fields supplied"⟩

def Shop.setAppointment (d : Shop) (appointmentId : String)
    (f : ServiceAppointment → ServiceAppointment) : Shop :=
  { d with
    service_appointments := updateWhere (fun a => a.appointment_id = appointmentId) f
      d.service_appointments }

def findAppointment (appointmentId : String) (d : Shop) : Option ServiceAppointment :=
  d.service_appointments.find? fun a => a.appointment_id = appointmentId

def updateAppointment (appointmentId : String) (updates : AppointmentUpdates) :
    ServiceWork Unit := do
  requireUuid appointmentId "appointment_id"
  validateAppointmentUpdates updates
  let found ← Script.execute
    (fun d => if (findAppointment appointmentId d).isSome then
      rowLocks "service_appointments" [appointmentId] else [])
    (fun _ => true) (refusal "")
    (fun _ d => d.setAppointment appointmentId updates.apply)
    fun d => (findAppointment appointmentId d).isSome
  insist found ⟨.notFound, "not_found", "Appointment not found"⟩

/-- `UPDATE service_appointments SET status`. -/
def writeAppointment (appointmentId : String) (status : AppointmentStatus) : ServiceWork Unit :=
  store (fun _ => rowLocks "service_appointments" [appointmentId]) fun _ d =>
    d.setAppointment appointmentId fun a => { a with status := status }

def confirmAppointment (appointmentId : String) : ServiceWork ServiceAppointment := do
  requireUuid appointmentId "appointment_id"
  let appt ← lockAppointment appointmentId
  insist (appt.status ∈ [.requested, .scheduled])
    ⟨.conflict, "invalid_appointment_status", "Appointment cannot be confirmed"⟩
  writeAppointment appointmentId .confirmed
  pure { appt with status := .confirmed }

def expected : List AppointmentStatus := [.requested, .scheduled, .confirmed]

def markAppointmentNoShow (w : ServiceWorld) (appointmentId : String) :
    ServiceWork ServiceAppointment := do
  requireUuid appointmentId "appointment_id"
  let appt ← lockAppointment appointmentId
  insist (appt.status ∈ expected)
    ⟨.conflict, "invalid_appointment_status", "The appointment cannot be marked a no-show"⟩
  writeAppointment appointmentId .no_show
  createServiceQueueItem w w.newId ⟨appt.location_id, .no_show_followup, none, some appointmentId⟩
  pure { appt with status := .no_show }

/-! ## The first service after a sale -/

structure FirstServiceInput where
  location_id : String
  mdm_customer_id : String
  mdm_vehicle_id : String
  deal_id : String
  recommended_window_start : Option Int
  language_preference : Option (Option LanguagePreference)

/-- `INSERT … ON CONFLICT (tenant_id, deal_id) DO NOTHING`: whether it was entered. -/
def insertOffer (o : FirstServiceOffer) : ServiceWork Bool :=
  Script.execute (fun _ => [.index "uq_fso_deal" o.deal_id,
      .index "first_service_offers_pkey" o.offer_id])
    (fun d => d.first_service_offers.all fun p => p.offer_id ≠ o.offer_id)
    (refusal "first_service_offers_pkey")
    (fun v d => if v.first_service_offers.all (fun p => p.deal_id ≠ o.deal_id) then
      { d with first_service_offers := d.first_service_offers ++ [o] } else d)
    fun d => d.first_service_offers.all fun p => p.deal_id ≠ o.deal_id

def firstVisit (w : ServiceWorld) (input : FirstServiceInput) (start : Int)
    (language : LanguagePreference) : ServiceAppointment where
  appointment_id := w.newId
  location_id := input.location_id
  mdm_customer_id := input.mdm_customer_id
  mdm_vehicle_id := input.mdm_vehicle_id
  scheduled_start := start
  scheduled_end := none
  status := .scheduled
  concerns := ["first_service: New vehicle first service (p2)"]
  preferred_contact_channel := .sms
  language_preference := language
  source := .sales_handoff

def firstOffer (w : ServiceWorld) (input : FirstServiceInput) : FirstServiceOffer where
  offer_id := w.nextId
  location_id := input.location_id
  deal_id := input.deal_id
  mdm_customer_id := input.mdm_customer_id
  mdm_vehicle_id := input.mdm_vehicle_id
  appointment_id := w.newId
  ro_id := none
  status := .offered
  converted_at := none

def createFirstServiceOffer (w : ServiceWorld) (input : FirstServiceInput) :
    ServiceWork FirstServiceOffer := do
  requireUuid input.deal_id "deal_id"
  requireUuid input.location_id "location_id"
  requireUuid input.mdm_customer_id "mdm_customer_id"
  requireUuid input.mdm_vehicle_id "mdm_vehicle_id"
  let start ← requireTimestamp input.recommended_window_start "recommended_window_start"
  let language ← requireOneOf input.language_preference .en "language_preference" languages
  insertAppointment (firstVisit w input start language)
  let created ← insertOffer (firstOffer w input)
  insist created ⟨.conflict, "offer_already_exists", "This deal already has a first-service offer"⟩
  pure (firstOffer w input)

end Dealership.Service
