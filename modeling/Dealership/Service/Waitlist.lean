import Dealership.Service.Appointments

/-!
# The waitlist

A customer who waits for a slot is offered one, takes it, or is taken off the list.  An entry
that is scheduled, canceled or expired stays so.  A slot is booked in the transaction that
marks its entry; a booking that comes after the offer has lapsed closes the entry instead, and
that is committed although the request is refused.
-/

namespace Dealership.Service

open Library
open Inventory (LotLock)

def WaitlistStatus.text : WaitlistStatus → String
  | waiting => "waiting"
  | offered => "offered"
  | scheduled => "scheduled"
  | canceled => "canceled"
  | expired => "expired"

/-- `WAITLIST_OPEN`. -/
def WaitlistEntry.isOpen (e : WaitlistEntry) : Bool := e.status = .waiting || e.status = .offered

/-- The entry of `uq_swe_open_vehicle`. -/
def waitingEntry (locationId vehicleId : String) : LotLock :=
  .index "uq_swe_open_vehicle" (locationId ++ ":" ++ vehicleId)

def Shop.setEntries (d : Shop) (waitlistEntryId : String) (f : WaitlistEntry → WaitlistEntry) :
    Shop :=
  { d with
    service_waitlist_entries := updateWhere (fun e => e.waitlist_entry_id = waitlistEntryId) f
      d.service_waitlist_entries }

/-- `assertWaitlistEntry` with `FOR UPDATE`. -/
def assertWaitlistEntry (waitlistEntryId : String) : ServiceWork WaitlistEntry := do
  requireUuid waitlistEntryId "waitlist_entry_id"
  let found ← Script.selectLocking
    (fun _ => [.row "service_waitlist_entries" waitlistEntryId .forUpdate])
    fun d => d.service_waitlist_entries.find? fun e => e.waitlist_entry_id = waitlistEntryId
  match found with
  | none => .raise ⟨.notFound, "waitlist_not_found", "Waitlist entry not found"⟩
  | some entry => pure entry

def assertWaitlistOpen (entry : WaitlistEntry) : ServiceWork Unit :=
  insist entry.isOpen ⟨.conflict, "waitlist_entry_closed",
    "Waitlist entry is '" ++ entry.status.text ++ "' and can no longer change"⟩

/-- `UPDATE service_waitlist_entries`. -/
def writeEntry (waitlistEntryId : String) (f : WaitlistEntry → WaitlistEntry) :
    ServiceWork Unit :=
  store (fun _ => rowLocks "service_waitlist_entries" [waitlistEntryId]) fun _ d =>
    d.setEntries waitlistEntryId f

/-! ## Getting on the list -/

structure WaitlistInput where
  location_id : String
  mdm_customer_id : String
  mdm_vehicle_id : String
  requested_start : Option Int
  requested_end : Option (Option Int)
  concerns : Option (Option (List String))
  priority : Option (Option Priority)
  preferred_contact_channel : Option (Option ContactChannel)
  language_preference : Option (Option LanguagePreference)
  notes : Option (Option String)

def waitlistEntryExists : ServiceError :=
  ⟨.conflict, "waitlist_entry_exists", "This vehicle is already on the waitlist at this location"⟩

def openEntries (locationId vehicleId : String) (d : Shop) : List WaitlistEntry :=
  d.service_waitlist_entries.filter fun e =>
    e.location_id = locationId && e.mdm_vehicle_id = vehicleId && e.isOpen

/-- An insert that meets a unique index answers as the check before it does. -/
def insertEntry (e : WaitlistEntry) : ServiceWork Unit :=
  Script.execute (fun _ => [.index "service_waitlist_entries_pkey" e.waitlist_entry_id,
      waitingEntry e.location_id e.mdm_vehicle_id])
    (fun d => d.service_waitlist_entries.all (fun f =>
      f.waitlist_entry_id ≠ e.waitlist_entry_id) &&
      (openEntries e.location_id e.mdm_vehicle_id d).isEmpty)
    waitlistEntryExists
    (fun _ d => { d with service_waitlist_entries := d.service_waitlist_entries ++ [e] })
    fun _ => ()

def createWaitlistEntry (w : ServiceWorld) (input : WaitlistInput) :
    ServiceWork WaitlistEntry := do
  requireUuid input.location_id "location_id"
  requireUuid input.mdm_customer_id "mdm_customer_id"
  requireUuid input.mdm_vehicle_id "mdm_vehicle_id"
  let start ← requireTimestamp input.requested_start "requested_start"
  let finish ← optionalTimestamp input.requested_end "requested_end"
  insist (finish.all fun t => start < t)
    ⟨.validation, "validation_error", "requested_end must be after requested_start"⟩
  let concerns ← requireConcerns input.concerns
  let priority ← requireOneOf input.priority .p1 "priority" "p0, p1, p2"
  let channel ← requireOneOf input.preferred_contact_channel .sms "preferred_contact_channel"
    channels
  let language ← requireOneOf input.language_preference .en "language_preference" languages
  insist (proper input.notes) ⟨.validation, "validation_error", "notes must be a string"⟩
  let existing ← Script.select (openEntries input.location_id input.mdm_vehicle_id)
  insist existing.isEmpty waitlistEntryExists
  let row : WaitlistEntry := {
    waitlist_entry_id := w.newId
    location_id := input.location_id
    mdm_customer_id := input.mdm_customer_id
    mdm_vehicle_id := input.mdm_vehicle_id
    requested_start := start
    requested_end := finish
    concerns := concerns
    priority := priority
    preferred_contact_channel := channel
    language_preference := language
    status := .waiting
    offer_expires_at := none
    appointment_id := none
    notes := input.notes.bind id }
  insertEntry row
  pure row

/-! ## The slot -/

structure OfferInput where
  offer_expires_at : Option (Option Int)
  /-- The application's clock at the call. -/
  clock : Int

/-- `DEFAULT_OFFER_TTL_MS`. -/
def defaultOfferTtl : Int := 86400000

def offeredUntil (expiresAt : Int) (e : WaitlistEntry) : WaitlistEntry :=
  { e with
    status := .offered
    offer_expires_at := some expiresAt }

def offerWaitlistSlot (waitlistEntryId : String) (input : OfferInput) :
    ServiceWork WaitlistEntry := do
  let given ← optionalTimestamp input.offer_expires_at "offer_expires_at"
  insist (given.all fun t => input.clock < t)
    ⟨.validation, "validation_error", "offer_expires_at must be in the future"⟩
  let expiresAt := given.getD (input.clock + defaultOfferTtl)
  let entry ← assertWaitlistEntry waitlistEntryId
  assertWaitlistOpen entry
  writeEntry waitlistEntryId (offeredUntil expiresAt)
  pure (offeredUntil expiresAt entry)

structure ConversionInput where
  scheduled_start : Option Int
  scheduled_end : Option (Option Int)
  /-- The application's clock when the offer is looked at. -/
  clock : Int

def WaitlistEntry.lapsed (e : WaitlistEntry) (clock : Int) : Bool :=
  e.status = .offered && e.offer_expires_at.any fun t => t < clock

def expiredEntry (e : WaitlistEntry) : WaitlistEntry := { e with status := .expired }

def scheduledAs (appointmentId : String) (e : WaitlistEntry) : WaitlistEntry :=
  { e with
    status := .scheduled
    appointment_id := some appointmentId }

def bookingOf (appointmentId : String) (start : Int) (finish : Option Int) (e : WaitlistEntry) :
    ServiceAppointment where
  appointment_id := appointmentId
  location_id := e.location_id
  mdm_customer_id := e.mdm_customer_id
  mdm_vehicle_id := e.mdm_vehicle_id
  scheduled_start := start
  scheduled_end := finish
  status := .scheduled
  concerns := e.concerns
  preferred_contact_channel := e.preferred_contact_channel
  language_preference := e.language_preference
  source := .waitlist

/-- How a conversion is answered: with the appointment, or with a refusal that the offer has
expired, once the transaction has committed. -/
inductive Conversion where
  | booked (appointment : ServiceAppointment)
  | offerExpired

def convertWaitlistEntry (w : ServiceWorld) (waitlistEntryId : String)
    (input : ConversionInput) : ServiceWork Conversion := do
  let start ← requireTimestamp input.scheduled_start "scheduled_start"
  let finish ← optionalTimestamp input.scheduled_end "scheduled_end"
  let entry ← assertWaitlistEntry waitlistEntryId
  assertWaitlistOpen entry
  if entry.lapsed input.clock then do
    writeEntry waitlistEntryId expiredEntry
    pure .offerExpired
  else do
    insertAppointment (bookingOf w.newId start finish entry)
    writeEntry waitlistEntryId (scheduledAs w.newId)
    pure (.booked (bookingOf w.newId start finish entry))

def canceledEntry (e : WaitlistEntry) : WaitlistEntry :=
  { e with
    status := .canceled
    offer_expires_at := none }

def cancelWaitlistEntry (waitlistEntryId : String) : ServiceWork WaitlistEntry := do
  let entry ← assertWaitlistEntry waitlistEntryId
  assertWaitlistOpen entry
  writeEntry waitlistEntryId canceledEntry
  pure (canceledEntry entry)

/-! ## Calls -/

inductive WaitlistCall where
  | createWaitlistEntry (w : ServiceWorld) (input : WaitlistInput)
  | offerWaitlistSlot (waitlistEntryId : String) (input : OfferInput)
  | convertWaitlistEntry (w : ServiceWorld) (waitlistEntryId : String) (input : ConversionInput)
  | cancelWaitlistEntry (waitlistEntryId : String)

/-- What is looked at of an answer: whether a committed conversion was refused all the same. -/
inductive WaitlistAnswer where
  | done
  | offerExpired

def Conversion.answer : Conversion → WaitlistAnswer
  | booked _ => .done
  | offerExpired => .offerExpired

def WaitlistCall.program : WaitlistCall → ServiceWork WaitlistAnswer
  | .createWaitlistEntry w input =>
    Service.createWaitlistEntry w input >>= fun _ => pure .done
  | .offerWaitlistSlot waitlistEntryId input =>
    Service.offerWaitlistSlot waitlistEntryId input >>= fun _ => pure .done
  | .convertWaitlistEntry w waitlistEntryId input =>
    Service.convertWaitlistEntry w waitlistEntryId input >>= fun outcome => pure outcome.answer
  | .cancelWaitlistEntry waitlistEntryId =>
    Service.cancelWaitlistEntry waitlistEntryId >>= fun _ => pure .done

abbrev WaitlistServer := Server WaitlistCall Shop LotLock ServiceError WaitlistAnswer

abbrev WaitlistEnding := Ending WaitlistCall Shop ServiceError WaitlistAnswer

end Dealership.Service
