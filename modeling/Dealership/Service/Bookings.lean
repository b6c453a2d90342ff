import Dealership.Service.Statements
import Dealership.Service.Waitlist

/-!
# From an appointment to a repair order

The calls that make an appointment, amend it and turn it into a repair order, and for each what
a commit of it does to the appointments, the orders and the first-service offers.  Only a
check-in turns an appointment into an order: it converts the appointment and its offers, and
takes over who the car belongs to and where it is seen.  A repair order opened at the counter
that names an appointment is linked to it and no more.
-/

namespace Dealership.Service

open Library List
open Inventory (LotLock)
open Sales (Locked)

variable {d : Shop} {appointmentId : String}

/-! ## Calls -/

inductive BookingCall where
  | createAppointment (w : ServiceWorld) (input : AppointmentInput)
  | updateAppointment (appointmentId : String) (updates : AppointmentUpdates)
  | confirmAppointment (appointmentId : String)
  | markAppointmentNoShow (w : ServiceWorld) (appointmentId : String)
  | checkIn (w : ServiceWorld) (appointmentId : String) (odometer : Option Rat)
  | createRO (w : ServiceWorld) (input : ROInput)
  | createFirstServiceOffer (w : ServiceWorld) (input : FirstServiceInput)
  | convertWaitlistEntry (w : ServiceWorld) (waitlistEntryId : String) (input : ConversionInput)

/-- A call as a transaction; of a check-in it is looked at which order it answers. -/
def BookingCall.program : BookingCall → ServiceWork (Option String)
  | .createAppointment w input => Service.createAppointment w input >>= fun _ => pure none
  | .updateAppointment appointmentId updates =>
    Service.updateAppointment appointmentId updates >>= fun _ => pure none
  | .confirmAppointment appointmentId =>
    Service.confirmAppointment appointmentId >>= fun _ => pure none
  | .markAppointmentNoShow w appointmentId =>
    Service.markAppointmentNoShow w appointmentId >>= fun _ => pure none
  | .checkIn w appointmentId odometer =>
    Service.checkIn w appointmentId odometer >>= fun result => pure (some result.ro.ro_id)
  | .createRO w input => Service.createRO w input >>= fun _ => pure none
  | .createFirstServiceOffer w input =>
    Service.createFirstServiceOffer w input >>= fun _ => pure none
  | .convertWaitlistEntry w waitlistEntryId input =>
    Service.convertWaitlistEntry w waitlistEntryId input >>= fun _ => pure none

def BookingCall.isCheckIn : BookingCall → Bool
  | .checkIn .. => true
  | _ => false

abbrev BookingServer := Server BookingCall Shop LotLock ServiceError (Option String)

abbrev BookingEnding := Ending BookingCall Shop ServiceError (Option String)

/-! ## The bookings in order -/

/-- The order is of the appointment, where and for whom it was made. -/
structure OrderFor (a : ServiceAppointment) (r : RepairOrder) : Prop where
  named : r.appointment_id = some a.appointment_id
  location : r.location_id = a.location_id
  customer : r.mdm_customer_id = a.mdm_customer_id
  vehicle : r.mdm_vehicle_id = a.mdm_vehicle_id

/-- An offer that waits for its car, or has been taken up. -/
def FirstServiceOffer.stands (o : FirstServiceOffer) : Bool :=
  o.status = .offered || o.status = .scheduled

structure BookingSound (d : Shop) : Prop where
  appointments : (d.service_appointments.map ServiceAppointment.appointment_id).Nodup
  orders : (d.repair_orders.map RepairOrder.ro_id).Nodup
  offers : (d.first_service_offers.map FirstServiceOffer.offer_id).Nodup
  one : ∀ r ∈ d.repair_orders, ∀ s ∈ d.repair_orders, ∀ id, r.appointment_id = some id →
    s.appointment_id = some id → r = s
  linked : ∀ r ∈ d.repair_orders, ∀ id, r.appointment_id = some id →
    ∃ a ∈ d.service_appointments, a.appointment_id = id ∧ a.status = .converted_to_ro ∧ OrderFor a r
  converted : ∀ a ∈ d.service_appointments, a.status = .converted_to_ro →
    ∃ r ∈ d.repair_orders, r.appointment_id = some a.appointment_id
  offered : ∀ o ∈ d.first_service_offers, o.stands = false → o.status = .converted ∧ o.ro_id ≠ none
  paired : ∀ o ∈ d.first_service_offers, ∀ roId, o.status = .converted ∧ o.ro_id = some roId ↔
    ∃ r ∈ d.repair_orders, r.ro_id = roId ∧ r.appointment_id = some o.appointment_id

/-- An appointment and its repair order agree, and so does the offer it came from. -/
structure Agrees (d : Shop) : Prop where
  one : ∀ r ∈ d.repair_orders, ∀ s ∈ d.repair_orders, ∀ id, r.appointment_id = some id →
    s.appointment_id = some id → r = s
  converted : ∀ a ∈ d.service_appointments, a.status = .converted_to_ro ↔
    ∃ r ∈ d.repair_orders, r.appointment_id = some a.appointment_id
  same : ∀ r ∈ d.repair_orders, ∀ a ∈ d.service_appointments,
    r.appointment_id = some a.appointment_id → OrderFor a r
  offers : ∀ o ∈ d.first_service_offers, ∀ roId, o.status = .converted ∧ o.ro_id = some roId ↔
    ∃ r ∈ d.repair_orders, r.ro_id = roId ∧ r.appointment_id = some o.appointment_id

theorem BookingSound.agrees (hd : BookingSound d) : Agrees d where
  one := hd.one
  converted := by
    refine fun a ha => ⟨hd.converted a ha, ?_⟩
    rintro ⟨r, hr, hname⟩
    obtain ⟨b, hb, hid, hstatus, -⟩ := hd.linked r hr _ hname
    rwa [eq_of_key hd.appointments ha hb hid.symm]
  same := by
    intro r hr a ha hname
    obtain ⟨b, hb, hid, -, hfor⟩ := hd.linked r hr _ hname
    rwa [eq_of_key hd.appointments ha hb hid.symm]
  offers := hd.paired

theorem orderOf_eq_none : orderOf appointmentId d = none ↔
      ∀ r ∈ d.repair_orders, r.appointment_id ≠ some appointmentId := by
  simp [orderOf, find?_eq_none]

/-! ## Moves -/

/-- Two states with the same appointments, orders and offers. -/
structure SameBookings (d d' : Shop) : Prop where
  appointments : d'.service_appointments = d.service_appointments
  orders : d'.repair_orders = d.repair_orders
  offers : d'.first_service_offers = d.first_service_offers

theorem SameBookings.refl (d : Shop) : SameBookings d d := ⟨rfl, rfl, rfl⟩

theorem SameBookings.trans {a b c : Shop} (hab : SameBookings a b) (hbc : SameBookings b c) :
    SameBookings a c where
  appointments := hbc.appointments.trans hab.appointments
  orders := hbc.orders.trans hab.orders
  offers := hbc.offers.trans hab.offers

theorem BookingSound.of_same {d' : Shop} (hd : BookingSound d) (h : SameBookings d d') :
    BookingSound d' := by
  obtain ⟨ha, ho, hf⟩ := h
  refine ⟨?_, ?_, ?_, ?_, ?_, ?_, ?_, ?_⟩
  · rw [ha]
    exact hd.appointments
  · rw [ho]
    exact hd.orders
  · rw [hf]
    exact hd.offers
  · rw [ho]
    exact hd.one
  · rw [ho, ha]
    exact hd.linked
  · rw [ho, ha]
    exact hd.converted
  · rw [hf]
    exact hd.offered
  · rw [hf, ho]
    exact hd.paired

def withStatusOf (status : AppointmentStatus) (a : ServiceAppointment) : ServiceAppointment :=
  { a with status := status }

def convertedTo (w : ServiceWorld) (roId : String) (o : FirstServiceOffer) : FirstServiceOffer :=
  { o with
    status := .converted
    ro_id := some roId
    converted_at := some w.now }

def checkedInOrder (w : ServiceWorld) (a : ServiceAppointment) (odometer : Option Rat) :
    RepairOrder where
  ro_id := w.newId
  location_id := a.location_id
  appointment_id := some a.appointment_id
  mdm_customer_id := a.mdm_customer_id
  mdm_vehicle_id := a.mdm_vehicle_id
  status := .checked_in
  odometer := odometer.map fun n => n.num.toNat

/-- The appointment is turned into an order, and so are the offers it came from. -/
def Shop.checkedIn (d : Shop) (w : ServiceWorld) (r : RepairOrder) (appointmentId : String)
    (ids : List String) : Shop :=
  { d with
    repair_orders := d.repair_orders ++ [r]
    service_appointments := updateWhere (fun a => a.appointment_id = appointmentId)
      (withStatusOf .converted_to_ro) d.service_appointments
    first_service_offers := updateWhere (fun o => o.offer_id ∈ ids) (convertedTo w r.ro_id)
      d.first_service_offers }

/-- What a commit that held `held` did to the bookings. -/
inductive BookingMoves (held : List LotLock) :
    BookingCall → Option String → Shop → Shop → Prop where
  | expires {w : ServiceWorld} {waitlistEntryId : String} {input : ConversionInput} {d d' : Shop}
      (same : SameBookings d d') :
      BookingMoves held (.convertWaitlistEntry w waitlistEntryId input) none d d'
  | books {c : BookingCall} {a : ServiceAppointment} {d d' : Shop}
      (call : c.isCheckIn = false)
      (key : .index "service_appointments_pkey" a.appointment_id ∈ held)
      (fresh : ∀ b ∈ d.service_appointments, b.appointment_id ≠ a.appointment_id)
      (status : a.status = .scheduled)
      (same : SameBookings { d with service_appointments := d.service_appointments ++ [a] } d') :
      BookingMoves held c none d d'
  | offers {w : ServiceWorld} {input : FirstServiceInput} {a : ServiceAppointment}
      {o : FirstServiceOffer} {d d' : Shop}
      (key : .index "service_appointments_pkey" a.appointment_id ∈ held)
      (fresh : ∀ b ∈ d.service_appointments, b.appointment_id ≠ a.appointment_id)
      (status : a.status = .scheduled)
      (offerKey : .index "first_service_offers_pkey" o.offer_id ∈ held)
      (offerFresh : ∀ p ∈ d.first_service_offers, p.offer_id ≠ o.offer_id)
      (appointment : o.appointment_id = a.appointment_id) (offered : o.status = .offered)
      (same : SameBookings { d with
        service_appointments := d.service_appointments ++ [a]
        first_service_offers := d.first_service_offers ++ [o] } d') :
      BookingMoves held (.createFirstServiceOffer w input) none d d'
  | amends {appointmentId : String} {updates : AppointmentUpdates} {d d' : Shop}
      (lock : Locked held "service_appointments" appointmentId)
      (same : SameBookings (d.setAppointment appointmentId updates.apply) d') :
      BookingMoves held (.updateAppointment appointmentId updates) none d d'
  | moves {c : BookingCall} {a : ServiceAppointment} (status : AppointmentStatus) {d d' : Shop}
      (call : c.isCheckIn = false)
      (lock : Locked held "service_appointments" a.appointment_id)
      (found : a ∈ d.service_appointments) (awaited : a.status ≠ .converted_to_ro)
      (other : status ≠ .converted_to_ro)
      (same : SameBookings (d.setAppointment a.appointment_id (withStatusOf status)) d') :
      BookingMoves held c none d d'
  | opens {w : ServiceWorld} {input : ROInput} {r : RepairOrder} {d d' : Shop}
      (key : .index "repair_orders_pkey" r.ro_id ∈ held)
      (fresh : ∀ s ∈ d.repair_orders, s.ro_id ≠ r.ro_id) (walkIn : r.appointment_id = none)
      (same : SameBookings { d with repair_orders := d.repair_orders ++ [r] } d') :
      BookingMoves held (.createRO w input) none d d'
  | checksIn {w : ServiceWorld} {a : ServiceAppointment} {odometer : Option Rat}
      {r : RepairOrder} {d d' : Shop}
      (lock : Locked held "service_appointments" a.appointment_id)
      (found : a ∈ d.service_appointments)
      (key : .index "repair_orders_pkey" r.ro_id ∈ held)
      (fresh : ∀ s ∈ d.repair_orders, s.ro_id ≠ r.ro_id)
      (free : orderOf a.appointment_id d = none) (order : OrderFor a r)
      (locked : ∀ id ∈ offersOf a.appointment_id d, Locked held "first_service_offers" id)
      (same : SameBookings (d.checkedIn w r a.appointment_id (offersOf a.appointment_id d)) d') :
      BookingMoves held (.checkIn w a.appointment_id odometer) (some r.ro_id) d d'
  | replays {w : ServiceWorld} {appointmentId : String} {odometer : Option Rat}
      {r : RepairOrder} {d d' : Shop} (found : r ∈ d.repair_orders)
      (order : r.appointment_id = some appointmentId) (same : SameBookings d d') :
      BookingMoves held (.checkIn w appointmentId odometer) (some r.ro_id) d d'

/-! ## Every move keeps the bookings in order -/

theorem BookingSound.books (hd : BookingSound d) {a : ServiceAppointment}
    (hfresh : ∀ b ∈ d.service_appointments, b.appointment_id ≠ a.appointment_id)
    (hstatus : a.status = .scheduled) :
    BookingSound { d with service_appointments := d.service_appointments ++ [a] } where
  appointments := nodup_key_insert hd.appointments hfresh
  orders := hd.orders
  offers := hd.offers
  one := hd.one
  linked := by
    intro r hr id hname
    obtain ⟨b, hb, hrest⟩ := hd.linked r hr id hname
    exact ⟨b, mem_append_left _ hb, hrest⟩
  converted := by
    intro b hb hconverted
    rcases mem_inserted hb with hb | rfl
    · exact hd.converted b hb hconverted
    · rw [hstatus] at hconverted
      cases hconverted
  offered := hd.offered
  paired := hd.paired

theorem BookingSound.offers_one (hd : BookingSound d) {o : FirstServiceOffer}
    (hfresh : ∀ p ∈ d.first_service_offers, p.offer_id ≠ o.offer_id)
    (hoffered : o.status = .offered) (hfree : orderOf o.appointment_id d = none) :
    BookingSound { d with first_service_offers := d.first_service_offers ++ [o] } where
  appointments := hd.appointments
  orders := hd.orders
  offers := nodup_key_insert hd.offers hfresh
  one := hd.one
  linked := hd.linked
  converted := hd.converted
  offered := by
    intro p hp hstands
    rcases mem_inserted hp with hp | rfl
    · exact hd.offered p hp hstands
    · rw [FirstServiceOffer.stands, hoffered] at hstands
      cases hstands
  paired := by
    intro p hp roId
    rcases mem_inserted hp with hp | rfl
    · exact hd.paired p hp roId
    · rw [hoffered]
      constructor
      · rintro ⟨h, -⟩
        cases h
      · rintro ⟨r, hr, -, hname⟩
        exact absurd hname (orderOf_eq_none.mp hfree r hr)

theorem BookingSound.amends (hd : BookingSound d) {f : ServiceAppointment → ServiceAppointment}
    (hid : ∀ a, (f a).appointment_id = a.appointment_id)
    (hfor : ∀ a r, OrderFor a r → OrderFor (f a) r)
    (hstatus : ∀ a ∈ d.service_appointments, a.appointment_id = appointmentId →
      ((f a).status = .converted_to_ro ↔ a.status = .converted_to_ro)) :
    BookingSound (d.setAppointment appointmentId f) where
  appointments := nodup_map_updateWhere hd.appointments fun a _ => hid a
  orders := hd.orders
  offers := hd.offers
  one := hd.one
  linked := by
    intro r hr id hname
    obtain ⟨a, ha, haid, hconverted, horder⟩ := hd.linked r hr id hname
    by_cases h : a.appointment_id = appointmentId
    · exact ⟨f a, mem_updateWhere_of_pos ha h, (hid a).trans haid, (hstatus a ha h).mpr hconverted,
        hfor a r horder⟩
    · exact ⟨a, mem_updateWhere_of_neg ha h, haid, hconverted, horder⟩
  converted := by
    intro a ha hconverted
    rcases updateWhere_cases ha with ⟨ha, -⟩ | ⟨b, hb, h, rfl⟩
    · exact hd.converted a ha hconverted
    · obtain ⟨r, hr, hname⟩ := hd.converted b hb ((hstatus b hb h).mp hconverted)
      exact ⟨r, hr, hname.trans (congrArg some (hid b).symm)⟩
  offered := hd.offered
  paired := hd.paired

theorem BookingSound.opens (hd : BookingSound d) {r : RepairOrder}
    (hfresh : ∀ s ∈ d.repair_orders, s.ro_id ≠ r.ro_id) (hwalk : r.appointment_id = none) :
    BookingSound { d with repair_orders := d.repair_orders ++ [r] } := by
  -- The new order is of no appointment.
  have hold : ∀ {s}, s ∈ d.repair_orders ++ [r] → ∀ {id}, s.appointment_id = some id →
      s ∈ d.repair_orders := by
    intro s hs id hname
    rcases mem_inserted hs with hs | rfl
    · exact hs
    · rw [hwalk] at hname
      cases hname
  refine ⟨hd.appointments, nodup_key_insert hd.orders hfresh, hd.offers, ?_, ?_, ?_, hd.offered,
    ?_⟩
  · exact fun s hs t ht id hsname htname =>
      hd.one s (hold hs hsname) t (hold ht htname) id hsname htname
  · exact fun s hs id hname => hd.linked s (hold hs hname) id hname
  · intro a ha hconverted
    obtain ⟨s, hs, hname⟩ := hd.converted a ha hconverted
    exact ⟨s, mem_append_left _ hs, hname⟩
  · intro o ho roId
    rw [hd.paired o ho roId]
    constructor
    · rintro ⟨s, hs, hrest⟩
      exact ⟨s, mem_append_left _ hs, hrest⟩
    · rintro ⟨s, hs, hid, hname⟩
      exact ⟨s, hold hs hname, hid, hname⟩

theorem mem_offersOf {id : String} :
    id ∈ offersOf appointmentId d ↔ ∃ o ∈ d.first_service_offers, o.offer_id = id ∧
      o.appointment_id = appointmentId ∧ o.stands = true := by
  simp only [offersOf, mem_map, mem_filter, Bool.and_eq_true, decide_eq_true_eq,
    FirstServiceOffer.stands]
  constructor
  · rintro ⟨o, ⟨ho, ha, hs⟩, hid⟩
    exact ⟨o, ho, hid, ha, hs⟩
  · rintro ⟨o, ho, hid, ha, hs⟩
    exact ⟨o, ⟨ho, ha, hs⟩, hid⟩

theorem BookingSound.checksIn (hd : BookingSound d) (w : ServiceWorld) {a : ServiceAppointment}
    {r : RepairOrder} (ha : a ∈ d.service_appointments)
    (hfresh : ∀ s ∈ d.repair_orders, s.ro_id ≠ r.ro_id) (hfree : orderOf a.appointment_id d = none)
    (horder : OrderFor a r) :
    BookingSound (d.checkedIn w r a.appointment_id (offersOf a.appointment_id d)) := by
  have hnone := orderOf_eq_none.mp hfree
  -- Orders of other appointments were there before.
  have hold : ∀ {s}, s ∈ d.repair_orders ++ [r] → s ∈ d.repair_orders ∨ s = r := by
    intro s hs
    rcases mem_inserted hs with hs | rfl
    · exact .inl hs
    · exact .inr rfl
  -- The offers that are converted are those of the appointment.
  have hofferOf : ∀ {o}, o ∈ d.first_service_offers →
      (o.offer_id ∈ offersOf a.appointment_id d ↔ o.appointment_id = a.appointment_id) := by
    intro o ho
    rw [mem_offersOf]
    constructor
    · rintro ⟨p, hp, hid, happ, -⟩
      rwa [eq_of_key hd.offers ho hp hid.symm]
    · intro happ
      refine ⟨o, ho, rfl, happ, ?_⟩
      by_contra hstands
      obtain ⟨hconverted, hro⟩ := hd.offered o ho (Bool.eq_false_iff.mpr hstands)
      obtain ⟨roId, hroId⟩ := Option.ne_none_iff_exists'.mp hro
      obtain ⟨s, hs, -, hname⟩ := (hd.paired o ho roId).mp ⟨hconverted, hroId⟩
      rw [happ] at hname
      exact hnone s hs hname
  constructor
  · exact nodup_map_updateWhere hd.appointments fun _ _ => rfl
  · exact nodup_key_insert hd.orders hfresh
  · exact nodup_map_updateWhere hd.offers fun _ _ => rfl
  · intro s hs t ht id hsname htname
    rcases hold hs with hs' | rfl
    · rcases hold ht with ht' | rfl
      · exact hd.one s hs' t ht' id hsname htname
      · cases horder.named.symm.trans htname
        exact absurd hsname (hnone s hs')
    · rcases hold ht with ht' | rfl
      · cases horder.named.symm.trans hsname
        exact absurd htname (hnone t ht')
      · rfl
  · intro s hs id hname
    rcases hold hs with hs' | rfl
    · obtain ⟨b, hb, hbid, hconverted, hfor⟩ := hd.linked s hs' id hname
      refine ⟨b, mem_updateWhere_of_neg hb fun heq => ?_, hbid, hconverted, hfor⟩
      rw [← hbid, heq] at hname
      exact hnone s hs' hname
    · cases horder.named.symm.trans hname
      exact ⟨withStatusOf .converted_to_ro a, mem_updateWhere_of_pos ha rfl, rfl, rfl,
        ⟨horder.named, horder.location, horder.customer, horder.vehicle⟩⟩
  · intro b hb hconverted
    rcases updateWhere_cases hb with ⟨hb, -⟩ | ⟨c, -, heq, rfl⟩
    · obtain ⟨s, hs, hname⟩ := hd.converted b hb hconverted
      exact ⟨s, mem_append_left _ hs, hname⟩
    · refine ⟨r, mem_append_right _ mem_cons_self, ?_⟩
      exact horder.named.trans (congrArg some heq.symm)
  · intro o ho hstands
    rcases updateWhere_cases ho with ⟨ho, -⟩ | ⟨p, -, -, rfl⟩
    · exact hd.offered o ho hstands
    · exact ⟨rfl, Option.some_ne_none _⟩
  · intro o ho roId
    rcases updateWhere_cases ho with ⟨ho, hnot⟩ | ⟨p, hp, hin, rfl⟩
    · have happ : o.appointment_id ≠ a.appointment_id := fun h => hnot ((hofferOf ho).mpr h)
      rw [hd.paired o ho roId]
      constructor
      · rintro ⟨s, hs, hrest⟩
        exact ⟨s, mem_append_left _ hs, hrest⟩
      · rintro ⟨s, hs, hid, hname⟩
        rcases hold hs with hs' | rfl
        · exact ⟨s, hs', hid, hname⟩
        · exact absurd (Option.some.inj (hname.symm.trans horder.named)) happ
    · have happ : p.appointment_id = a.appointment_id := (hofferOf hp).mp hin
      constructor
      · rintro ⟨-, hro⟩
        refine ⟨r, mem_append_right _ mem_cons_self, Option.some.inj hro, ?_⟩
        exact horder.named.trans (congrArg some happ.symm)
      · rintro ⟨s, hs, hid, hname⟩
        rcases hold hs with hs' | rfl
        · exact absurd (hname.trans (congrArg some happ)) (hnone s hs')
        · exact ⟨rfl, congrArg some hid⟩

/-- **Every commit keeps the bookings in order.** -/
theorem BookingMoves.bookingSound {held : List LotLock} {c : BookingCall} {answer : Option String}
    {d' : Shop} (hm : BookingMoves held c answer d d') (hd : BookingSound d) : BookingSound d' := by
  cases hm with
  | expires same => exact hd.of_same same
  | books _ _ fresh status same => exact (hd.books fresh status).of_same same
  | @offers w input a o _ _ _ fresh status _ offerFresh appointment offered same =>
    refine ((hd.books fresh status).offers_one offerFresh offered ?_).of_same same
    refine orderOf_eq_none.mpr fun r hr hname => ?_
    obtain ⟨b, hb, hid, -⟩ := hd.linked r hr _ hname
    exact fresh b hb (hid.trans appointment)
  | @amends _ updates _ _ _ same =>
    refine (hd.amends (f := updates.apply) (fun _ => rfl) (fun _ _ h => ?_)
      fun _ _ _ => Iff.rfl).of_same same
    exact ⟨h.named, h.location, h.customer, h.vehicle⟩
  | @moves _ a status _ _ _ _ found awaited other same =>
    refine (hd.amends (f := withStatusOf status) (fun _ => rfl) (fun _ _ h => ?_)
      fun b hb heq => ?_).of_same same
    · exact ⟨h.named, h.location, h.customer, h.vehicle⟩
    · rw [eq_of_key hd.appointments hb found heq]
      exact iff_of_false other awaited
  | opens _ fresh walkIn same => exact (hd.opens fresh walkIn).of_same same
  | checksIn _ found _ fresh free order _ same =>
    exact (hd.checksIn _ found fresh free order).of_same same
  | replays _ _ same => exact hd.of_same same

end Dealership.Service
