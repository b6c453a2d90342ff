import Dealership.Library.Chronicle
import Dealership.Library.Refusals
import Dealership.Service.Bookings

/-!
# An appointment and its repair order

The bookings with everybody at them.  While no repair order is linked to an appointment at the
counter, an appointment has an order exactly when it has been converted, the order is of the
car the appointment was for, the offer says the same, and a check-in that finds the order
answers it.
-/

namespace Dealership.Service

open Library List
open Inventory (LotLock)
open Sales (Locked)

variable {held : List LotLock} {c : BookingCall} {answer : Option String} {more : List LotLock}

/-! ## The contract -/

/-- What others may have done since, to whoever holds `held`. -/
structure BookingKept (held : List LotLock) (d d' : Shop) : Prop where
  appointments : ∀ a ∈ d.service_appointments,
    Locked held "service_appointments" a.appointment_id → a ∈ d'.service_appointments
  orders : ∀ r ∈ d.repair_orders, r ∈ d'.repair_orders
  free : ∀ id, Locked held "service_appointments" id → orderOf id d = none → orderOf id d' = none
  offers : ∀ a ∈ d.service_appointments, Locked held "service_appointments" a.appointment_id →
    ∀ o ∈ d'.first_service_offers, o.appointment_id = a.appointment_id → o ∈ d.first_service_offers
  offerRows : ∀ o ∈ d.first_service_offers, Locked held "first_service_offers" o.offer_id →
    o ∈ d'.first_service_offers
  appointmentKeys : ∀ id, .index "service_appointments_pkey" id ∈ held →
    (∀ a ∈ d.service_appointments, a.appointment_id ≠ id) →
      ∀ a ∈ d'.service_appointments, a.appointment_id ≠ id
  orderKeys : ∀ id, .index "repair_orders_pkey" id ∈ held →
    (∀ r ∈ d.repair_orders, r.ro_id ≠ id) → ∀ r ∈ d'.repair_orders, r.ro_id ≠ id
  offerKeys : ∀ id, .index "first_service_offers_pkey" id ∈ held →
    (∀ o ∈ d.first_service_offers, o.offer_id ≠ id) → ∀ o ∈ d'.first_service_offers, o.offer_id ≠ id

theorem BookingKept.refl (held : List LotLock) (d : Shop) : BookingKept held d d where
  appointments := fun _ ha _ => ha
  orders := fun _ hr => hr
  free := fun _ _ h => h
  offers := fun _ _ _ _ ho _ => ho
  offerRows := fun _ ho _ => ho
  appointmentKeys := fun _ _ h => h
  orderKeys := fun _ _ h => h
  offerKeys := fun _ _ h => h

theorem BookingKept.trans {a b e : Shop} (hab : BookingKept held a b) (hbe : BookingKept held b e) :
    BookingKept held a e where
  appointments := fun x hx hlock => hbe.appointments x (hab.appointments x hx hlock) hlock
  orders := fun r hr => hbe.orders r (hab.orders r hr)
  free := fun id hlock h => hbe.free id hlock (hab.free id hlock h)
  offers := fun x hx hlock o ho happ => hab.offers x hx hlock o
    (hbe.offers x (hab.appointments x hx hlock) hlock o ho happ) happ
  offerRows := fun o ho hlock => hbe.offerRows o (hab.offerRows o ho hlock) hlock
  appointmentKeys := fun id hkey h => hbe.appointmentKeys id hkey (hab.appointmentKeys id hkey h)
  orderKeys := fun id hkey h => hbe.orderKeys id hkey (hab.orderKeys id hkey h)
  offerKeys := fun id hkey h => hbe.offerKeys id hkey (hab.offerKeys id hkey h)

theorem BookingKept.mono (hsub : ∀ k ∈ held, k ∈ more) {a b : Shop}
    (h : BookingKept more a b) : BookingKept held a b where
  appointments := fun x hx hlock => h.appointments x hx (hlock.mono hsub)
  orders := h.orders
  free := fun id hlock => h.free id (hlock.mono hsub)
  offers := fun x hx hlock => h.offers x hx (hlock.mono hsub)
  offerRows := fun o ho hlock => h.offerRows o ho (hlock.mono hsub)
  appointmentKeys := fun id hkey => h.appointmentKeys id (hsub _ hkey)
  orderKeys := fun id hkey => h.orderKeys id (hsub _ hkey)
  offerKeys := fun id hkey => h.offerKeys id (hsub _ hkey)

theorem BookingKept.of_same {a b c : Shop} (h : BookingKept held a b) (same : SameBookings b c) :
    BookingKept held a c := by
  obtain ⟨happ, hord, hoff⟩ := same
  refine ⟨?_, ?_, ?_, ?_, ?_, ?_, ?_, ?_⟩
  · rw [happ]
    exact h.appointments
  · rw [hord]
    exact h.orders
  · simpa only [orderOf, hord] using h.free
  · rw [hoff]
    exact h.offers
  · rw [hoff]
    exact h.offerRows
  · rw [happ]
    exact h.appointmentKeys
  · rw [hord]
    exact h.orderKeys
  · rw [hoff]
    exact h.offerKeys

theorem BookingKept.of_amends (d : Shop) (hclear : ∀ k ∈ held, ∀ l ∈ more, k.conflicts l = false)
    {appointmentId : String} (lock : Locked held "service_appointments" appointmentId)
    {f : ServiceAppointment → ServiceAppointment}
    (hid : ∀ a, (f a).appointment_id = a.appointment_id) :
    BookingKept more d (d.setAppointment appointmentId f) := by
  refine { BookingKept.refl more d with appointments := ?_, appointmentKeys := ?_ }
  · intro a ha hlock
    refine mem_updateWhere_of_neg ha fun heq => ?_
    exact lock.not_both hclear (heq ▸ hlock)
  · intro id _ hfree a ha
    rcases updateWhere_cases ha with ⟨ha, -⟩ | ⟨b, hb, -, rfl⟩
    · exact hfree a ha
    · rw [hid]
      exact hfree b hb

theorem BookingMoves.kept {d d' : Shop} (hm : BookingMoves held c answer d d') (hd : BookingSound d)
    (hclear : ∀ k ∈ held, ∀ l ∈ more, k.conflicts l = false) : BookingKept more d d' := by
  have hrefl := BookingKept.refl more d
  -- A row under a key somebody holds is not the one that is entered.
  have hentered : ∀ {name id : String}, .index name id ∈ held → ∀ {id'}, .index name id' ∈ more →
      id ≠ id' := by
    rintro name id hkey id' hkey' rfl
    exact index_not_both hclear hkey hkey'
  cases hm with
  | expires same => exact hrefl.of_same same
  | books _ key fresh status same =>
    refine BookingKept.of_same ?_ same
    refine ⟨?_, hrefl.orders, hrefl.free, hrefl.offers, hrefl.offerRows, ?_, hrefl.orderKeys,
      hrefl.offerKeys⟩
    · exact fun b hb _ => mem_append_left _ hb
    · intro id hkey hfree b hb
      rcases mem_inserted hb with hb | rfl
      · exact hfree b hb
      · exact hentered key hkey
  | @offers w input a o _ _ key fresh status offerKey offerFresh appointment offered same =>
    refine BookingKept.of_same ?_ same
    refine ⟨?_, hrefl.orders, hrefl.free, ?_, ?_, ?_, hrefl.orderKeys, ?_⟩
    · exact fun b hb _ => mem_append_left _ hb
    · intro b hb _ p hp happ
      rcases mem_inserted hp with hp | rfl
      · exact hp
      · exact absurd (happ.symm.trans appointment) (fresh b hb)
    · exact fun p hp _ => mem_append_left _ hp
    · intro id hkey hfree b hb
      rcases mem_inserted hb with hb | rfl
      · exact hfree b hb
      · exact hentered key hkey
    · intro id hkey hfree p hp
      rcases mem_inserted hp with hp | rfl
      · exact hfree p hp
      · exact hentered offerKey hkey
  | @amends _ updates _ _ lock same =>
    exact (BookingKept.of_amends (f := updates.apply) d hclear lock fun _ => rfl).of_same same
  | @moves _ a status _ _ _ lock found awaited other same =>
    exact (BookingKept.of_amends (f := withStatusOf status) d hclear lock fun _ => rfl).of_same same
  | opens key fresh walkIn same =>
    refine BookingKept.of_same ?_ same
    refine ⟨hrefl.appointments, ?_, ?_, hrefl.offers, hrefl.offerRows, hrefl.appointmentKeys, ?_,
      hrefl.offerKeys⟩
    · exact fun r hr => mem_append_left _ hr
    · intro id _ hfree
      refine orderOf_eq_none.mpr fun r hr => ?_
      rcases mem_inserted hr with hr | rfl
      · exact orderOf_eq_none.mp hfree r hr
      · rw [walkIn]
        exact nofun
    · intro id hkey hfree r hr
      rcases mem_inserted hr with hr | rfl
      · exact hfree r hr
      · exact hentered key hkey
  | @checksIn w a odometer r _ _ lock found key fresh free order locked same =>
    have hnot : ¬ Locked more "service_appointments" a.appointment_id := lock.not_both hclear
    refine BookingKept.of_same ?_ same
    refine ⟨?_, ?_, ?_, ?_, ?_, ?_, ?_, ?_⟩
    · intro b hb hlock
      exact mem_updateWhere_of_neg hb fun heq => hnot (heq ▸ hlock)
    · exact fun s hs => mem_append_left _ hs
    · intro id hlock hfree
      refine orderOf_eq_none.mpr fun s hs hname => ?_
      rcases mem_inserted hs with hs | rfl
      · exact orderOf_eq_none.mp hfree s hs hname
      · exact hnot (Option.some.inj (order.named.symm.trans hname) ▸ hlock)
    · intro b _ hlock o ho happ
      rcases updateWhere_cases ho with ⟨ho, -⟩ | ⟨p, hp, hin, rfl⟩
      · exact ho
      · obtain ⟨q, hq, hid, hqapp, -⟩ := mem_offersOf.mp hin
        obtain rfl := eq_of_key hd.offers hq hp hid
        exact absurd (hqapp.symm.trans happ ▸ hlock) hnot
    · intro o ho hlock
      exact mem_updateWhere_of_neg ho fun hin => (locked _ hin).not_both hclear hlock
    · intro id _ hfree b hb
      rcases updateWhere_cases hb with ⟨hb, -⟩ | ⟨x, hx, -, rfl⟩
      · exact hfree b hb
      · exact hfree x hx
    · intro id hkey hfree s hs
      rcases mem_inserted hs with hs | rfl
      · exact hfree s hs
      · exact hentered key hkey
    · intro id _ hfree o ho
      rcases updateWhere_cases ho with ⟨ho, -⟩ | ⟨p, hp, -, rfl⟩
      · exact hfree o ho
      · exact hfree p hp
  | replays _ _ same => exact hrefl.of_same same

/-- A repair order that names an appointment has been entered at the counter. -/
def BookingCall.Links (c : BookingCall) (held : List LotLock) : Prop :=
  match c with
  | .createRO _ input => ∃ id ∈ input.appointment_id, .index "idx_ro_appointment" id ∈ held
  | _ => False

instance (held : List LotLock) : ∀ c : BookingCall, Decidable (c.Links held)
  | .createRO _ input => inferInstanceAs (Decidable (∃ id ∈ input.appointment_id,
      LotLock.index "idx_ro_appointment" id ∈ held))
  | .createAppointment .. | .updateAppointment .. | .confirmAppointment ..
  | .markAppointmentNoShow .. | .checkIn .. | .createFirstServiceOffer ..
  | .convertWaitlistEntry .. => .isFalse id

/-- The contract of a call, or of a part of one whose answer is read off a `B`. -/
def booking {B : Type} (read : B → Option String) :
    Contract BookingCall Shop LotLock ServiceError B where
  inv := BookingSound
  rely := fun _ => BookingKept
  finds := fun c held _ => ¬ c.Links held
  ensures := fun c held b d d' => BookingMoves held c (read b) d d'
  mayRaise := fun _ _ => True

instance {B : Type} {read : B → Option String} {c : BookingCall} :
    (booking read).Tolerant c := ⟨fun _ => trivial⟩

section Sound

variable {d : Shop} {pending : Shop → Shop} {B : Type} {read : B → Option String}

theorem booking_commits {b : B} (h : ∀ d', BookingKept held d d' → BookingSound d' →
      BookingMoves held c (read b) d' (pending d')) :
    (booking read).Sound c (pure b) held pending d := by
  intro d' hr hi _
  have hmoves := h d' hr hi
  exact ⟨hmoves.bookingSound hi, hmoves⟩

theorem booking_regular (read : B → Option String) (c : BookingCall) :
    (booking read).Regular c :=
  ⟨fun _ _ => .refl _ _, fun _ _ _ _ => .trans, fun _ _ _ _ hsub => .mono hsub⟩

theorem booking_aside {A : Type} {s : ServiceWork A} (hs : s.Writes SameBookings)
    {k : A → ServiceWork B}
    (h : ∀ a pending' d' more, (∀ k ∈ held, k ∈ more) → BookingKept held d d' →
      (∀ x, SameBookings (pending x) (pending' x)) →
        (booking read).Sound c (k a) more pending' d') :
    (booking read).Sound c (s >>= k) held pending d := by
  refine Contract.Sound.past_writes (Q := fun x y => SameBookings (pending x) y)
    (fun _ _ _ => .trans) (booking_regular read c) (fun _ => trivial) hs
    (fun x => .refl (pending x)) ?_
  exact fun a held' pending' d' hsub hp hr => h a pending' d' held' hsub hr hp

variable (w : ServiceWorld)

theorem writes_recordROEvent (roId : String) (event : ROEventType) :
    (recordROEvent w roId event).Writes SameBookings :=
  writes_execute (fun _ _ => ⟨rfl, rfl, rfl⟩) _ _ _ _

theorem createAppointment_sound (input : AppointmentInput) :
    (booking fun _ : ServiceAppointment => none).Sound (.createAppointment w input)
      (createAppointment w input) [] (fun x => x) d := by
  have hv : ∀ e : ServiceError, e.kind = .validation →
      (booking fun _ : ServiceAppointment => none).mayRaise (.createAppointment w input) e :=
    fun _ _ => trivial
  unfold createAppointment
  refine requireUuid_refuses hv (requireUuid_refuses hv (requireUuid_refuses hv ?_))
  refine requireTimestamp_refuses hv fun start => optionalTimestamp_refuses hv fun finish => ?_
  refine requireOneOf_refuses hv fun source => insist_refuses (hv _ rfl) fun _ => ?_
  refine requireOneOf_refuses hv fun language => requireOneOf_refuses hv fun channel => ?_
  refine requireConcerns_refuses hv fun concerns => ?_
  refine insertAppointment_sound fun d₁ held₁ _ _ hkey hfree => ?_
  exact booking_commits fun d₂ hr₂ _ =>
    .books rfl hkey (hr₂.appointmentKeys _ hkey hfree) rfl (.refl _)

theorem updateAppointment_sound (appointmentId : String) (updates : AppointmentUpdates) :
    (booking fun _ : Unit => none).Sound (.updateAppointment appointmentId updates)
      (updateAppointment appointmentId updates) [] (fun x => x) d := by
  unfold updateAppointment validateAppointmentUpdates
  simp only [Script.bind_assoc]
  refine requireUuid_sound (insist_sound fun _ => ?_)
  refine insist_sound fun _ => insist_sound fun _ => ?_
  refine insist_sound fun _ => insist_sound fun _ => ?_
  refine insist_sound fun _ => insist_sound fun _ => ?_
  refine sound_execute_bind fun d₁ held₁ _ hlocks _ _ _ _ => ?_
  unfold insist
  cases hfound : (findAppointment appointmentId d₁).isSome with
  | false => exact trivial
  | true =>
    rw [if_pos hfound] at hlocks
    have hlock : Locked held₁ "service_appointments" appointmentId := .inr (hlocks _ mem_cons_self)
    exact booking_commits fun d₂ _ _ => .amends hlock (.refl _)

theorem confirmAppointment_sound (appointmentId : String) :
    (booking fun _ : ServiceAppointment => none).Sound (.confirmAppointment appointmentId)
      (confirmAppointment appointmentId) [] (fun x => x) d := by
  unfold confirmAppointment
  refine requireUuid_sound ?_
  refine lockAppointment_sound fun a d₁ held₁ hid _ hlock ha => ?_
  subst hid
  refine insist_sound fun hstatus => ?_
  refine store_sound fun d₂ held₂ hsub₂ _ hr₂ _ _ => ?_
  refine booking_commits fun d₃ hr₃ _ => ?_
  have hs := hr₂.trans (hr₃.mono hsub₂)
  refine .moves .confirmed rfl (hlock.mono hsub₂) (hs.appointments a ha hlock) (fun h => ?_)
    AppointmentStatus.noConfusion (.refl _)
  rw [h] at hstatus
  cases hstatus

theorem markAppointmentNoShow_sound (appointmentId : String) :
    (booking fun _ : ServiceAppointment => none).Sound (.markAppointmentNoShow w appointmentId)
      (markAppointmentNoShow w appointmentId) [] (fun x => x) d := by
  unfold markAppointmentNoShow
  refine requireUuid_sound ?_
  refine lockAppointment_sound fun a d₁ held₁ hid _ hlock ha => ?_
  subst hid
  refine insist_sound fun hstatus => ?_
  refine store_sound fun d₂ held₂ hsub₂ _ hr₂ _ _ => ?_
  refine booking_aside (createServiceQueueItem_writes SameBookings.refl
    (fun _ _ => ⟨rfl, rfl, rfl⟩) _ _ _) fun _ queued d₃ held₃ hsub₃ hr₃ hqueued => ?_
  refine booking_commits fun d₄ hr₄ _ => ?_
  have hs := hr₂.trans ((hr₃.trans (hr₄.mono hsub₃)).mono hsub₂)
  refine .moves .no_show rfl ((hlock.mono hsub₂).mono hsub₃) (hs.appointments a ha hlock)
    (fun h => ?_) AppointmentStatus.noConfusion (hqueued d₄)
  rw [h] at hstatus
  cases hstatus

theorem convertWaitlistEntry_bookingSound (waitlistEntryId : String) (input : ConversionInput) :
    (booking fun _ : Conversion => none).Sound (.convertWaitlistEntry w waitlistEntryId input)
      (convertWaitlistEntry w waitlistEntryId input) [] (fun x => x) d := by
  have hv : ∀ e : ServiceError, e.kind = .validation →
      (booking fun _ : Conversion => none).mayRaise
        (.convertWaitlistEntry w waitlistEntryId input) e := fun _ _ => trivial
  unfold convertWaitlistEntry assertWaitlistEntry
  refine requireTimestamp_refuses hv fun start => optionalTimestamp_refuses hv fun finish => ?_
  simp only [Script.bind_assoc]
  refine requireUuid_refuses hv ?_
  refine sound_selectLocking_bind fun d₁ held₁ _ _ _ _ _ => ?_
  cases d₁.service_waitlist_entries.find? fun e => e.waitlist_entry_id = waitlistEntryId with
  | none => exact trivial
  | some e =>
    refine insist_sound fun _ => ?_
    by_cases hlapsed : e.lapsed input.clock = true
    · rw [if_pos hlapsed]
      refine store_sound fun d₂ held₂ _ _ _ _ _ => ?_
      exact booking_commits fun d₃ _ _ => .expires ⟨rfl, rfl, rfl⟩
    · rw [if_neg hlapsed]
      refine insertAppointment_sound fun d₂ held₂ _ _ hkey hfree => ?_
      refine store_sound fun d₃ held₃ hsub₃ _ hr₃ _ _ => ?_
      refine booking_commits fun d₄ hr₄ _ => ?_
      have hlast := hr₃.trans (hr₄.mono hsub₃)
      exact .books rfl (hsub₃ _ hkey) (hlast.appointmentKeys _ hkey hfree) rfl ⟨rfl, rfl, rfl⟩

theorem createFirstServiceOffer_sound (input : FirstServiceInput) :
    (booking fun _ : FirstServiceOffer => none).Sound (.createFirstServiceOffer w input)
      (createFirstServiceOffer w input) [] (fun x => x) d := by
  have hv : ∀ e : ServiceError, e.kind = .validation →
      (booking fun _ : FirstServiceOffer => none).mayRaise
        (.createFirstServiceOffer w input) e := fun _ _ => trivial
  unfold createFirstServiceOffer
  refine requireUuid_refuses hv (requireUuid_refuses hv ?_)
  refine requireUuid_refuses hv (requireUuid_refuses hv ?_)
  refine requireTimestamp_refuses hv fun start => requireOneOf_refuses hv fun language => ?_
  refine insertAppointment_sound fun d₁ held₁ _ _ hkey hfree => ?_
  unfold insertOffer
  refine sound_execute_bind fun d₂ held₂ hsub₂ hlocks₂ hr₂ _ _ haccepts => ?_
  have hoffer : .index "first_service_offers_pkey" w.nextId ∈ held₂ :=
    hlocks₂ _ (mem_cons_of_mem _ mem_cons_self)
  have hofferFree : ∀ o ∈ d₂.first_service_offers, o.offer_id ≠ w.nextId :=
    fun o ho => of_decide_eq_true (all_eq_true.mp haccepts o ho)
  refine insist_sound fun hcreated => ?_
  simp only [if_pos hcreated]
  refine booking_commits fun d₃ hr₃ _ => ?_
  have hlast := hr₂.trans (hr₃.mono hsub₂)
  exact .offers (a := firstVisit w input start language) (o := firstOffer w input)
    (hsub₂ _ hkey) (hlast.appointmentKeys _ hkey hfree) rfl hoffer
    (hr₃.offerKeys _ hoffer hofferFree) rfl rfl (.refl _)

/-- A call that has entered an order of an appointment at the counter goes no further. -/
theorem linked_stops {w : ServiceWorld} {input : ROInput} {id : String}
    (hid : input.appointment_id = some id) (hkey : .index "idx_ro_appointment" id ∈ held)
    (roId : String) (event : ROEventType) {k : Unit → ServiceWork B} :
    (booking read).Sound (.createRO w input) (recordROEvent w roId event >>= k) held pending d :=
  fun _ _ _ hfinds => absurd ⟨id, hid, hkey⟩ hfinds

theorem createRO_bookingSound (input : ROInput) :
    (booking fun _ : RepairOrder => none).Sound (.createRO w input) (createRO w input) []
      (fun x => x) d := by
  unfold createRO requireOdometer
  refine requireUuid_sound (requireUuid_sound ?_)
  refine requireUuid_sound (insist_sound fun _ => ?_)
  refine insist_sound fun _ => ?_
  cases hid : input.appointment_id with
  | none =>
    refine insertRO_sound fun d₁ held₁ _ _ hkey _ hfresh => ?_
    refine booking_aside (writes_recordROEvent _ _ _) fun _ pending d₂ held₂ hsub₂ hr₂ hsame => ?_
    exact booking_commits fun d₃ hr₃ _ => .opens (hsub₂ _ hkey)
      ((hr₂.trans (hr₃.mono hsub₂)).orderKeys _ hkey hfresh) rfl (hsame d₃)
  | some id =>
    unfold requireFreeAppointment
    simp only [Script.bind_assoc]
    refine lockAppointment_sound fun a d₁ held₁ _ _ _ _ => ?_
    refine sound_select_bind fun d₂ _ _ _ => ?_
    refine insist_sound fun _ => ?_
    refine insertRO_sound fun d₃ held₃ _ _ _ hlinks _ => ?_
    exact linked_stops hid (hlinks id rfl) _ _

theorem BookingKept.offersOf_iff {a b : Shop} (h : BookingKept held a b) {appt : ServiceAppointment}
    (ha : appt ∈ a.service_appointments)
    (hlock : Locked held "service_appointments" appt.appointment_id)
    (hlocked : ∀ id ∈ offersOf appt.appointment_id a, Locked held "first_service_offers" id)
    (id : String) : id ∈ offersOf appt.appointment_id a ↔ id ∈ offersOf appt.appointment_id b := by
  constructor
  · intro hin
    obtain ⟨o, ho, rfl, happ, hstands⟩ := mem_offersOf.mp hin
    exact mem_offersOf.mpr ⟨o, h.offerRows o ho (hlocked _ hin), rfl, happ, hstands⟩
  · intro hin
    obtain ⟨o, ho, rfl, happ, hstands⟩ := mem_offersOf.mp hin
    exact mem_offersOf.mpr ⟨o, h.offers appt ha hlock o ho happ, rfl, happ, hstands⟩

theorem checkIn_bookingSound (appointmentId : String) (odometer : Option Rat) :
    (booking fun result : CheckInResult => some result.ro.ro_id).Sound
      (.checkIn w appointmentId odometer) (checkIn w appointmentId odometer) []
      (fun x => x) d := by
  unfold checkIn requireOdometer
  refine requireUuid_sound (insist_sound fun _ => ?_)
  refine lockAppointment_sound fun a d₁ held₁ hid _ hlock ha => ?_
  subst hid
  refine sound_select_bind fun d₂ hr₂ _ _ => ?_
  cases hexisting : orderOf a.appointment_id d₂ with
  | some r =>
    obtain ⟨hr, hname⟩ := of_find?_eq_some hexisting
    exact booking_commits fun d₃ hr₃ _ => .replays (hr₃.orders r hr) hname (.refl _)
  | none =>
    refine insist_sound fun _ => ?_
    refine insertRO_sound fun d₃ held₃ hsub₃ hr₃ hkey _ hfresh => ?_
    have ha₃ := hr₃.appointments a (hr₂.appointments a ha hlock) hlock
    have hlock₃ := hlock.mono hsub₃
    unfold convertAppointment
    refine store_sound fun d₄ held₄ hsub₄ _ hr₄ _ _ => ?_
    have ha₄ := hr₄.appointments a ha₃ hlock₃
    have hlock₄ := hlock₃.mono hsub₄
    refine booking_aside (writes_recordROEvent _ _ _) fun _ pending₅ d₅ held₅ hsub₅ hr₅ hsame₅ => ?_
    have ha₅ := hr₅.appointments a ha₄ hlock₄
    have hlock₅ := hlock₄.mono hsub₅
    refine booking_aside (syncQueueForRO_writes SameBookings.refl (fun _ _ => ⟨rfl, rfl, rfl⟩)
      _ _) fun _ pending₆ d₆ held₆ hsub₆ hr₆ hsame₆ => ?_
    have ha₆ := hr₆.appointments a ha₅ hlock₅
    have hlock₆ := hlock₅.mono hsub₆
    unfold convertOffers
    refine store_sound fun d₇ held₇ hsub₇ hlocks₇ hr₇ _ _ => ?_
    have ha₇ := hr₇.appointments a ha₆ hlock₆
    have hlock₇ := hlock₆.mono hsub₇
    refine booking_commits fun d₈ hr₈ _ => ?_
    -- What the locks have kept since the order was entered, and since none was found.
    have h₆ := hr₇.trans (hr₈.mono hsub₇)
    have h₅ := hr₆.trans (h₆.mono hsub₆)
    have h₄ := hr₅.trans (h₅.mono hsub₅)
    have h₃ := hr₄.trans (h₄.mono hsub₄)
    have h₂ := hr₃.trans (h₃.mono hsub₃)
    have hpending : ∀ x, SameBookings { x with
        repair_orders := x.repair_orders ++ [checkedInOrder w a odometer]
        service_appointments := updateWhere (fun b => b.appointment_id = a.appointment_id)
          (withStatusOf .converted_to_ro) x.service_appointments } (pending₆ x) :=
      fun x => (hsame₅ x).trans (hsame₆ x)
    have hoffers : ∀ x, offersOf a.appointment_id (pending₆ x) = offersOf a.appointment_id x := by
      intro x
      rw [offersOf, (hpending x).offers]
      rfl
    have hlocked : ∀ id ∈ offersOf a.appointment_id d₇, Locked held₇ "first_service_offers" id := by
      intro id hin
      rw [← hoffers] at hin
      exact .inr (hlocks₇ _ (mem_map.mpr ⟨id, hin, rfl⟩))
    have hiff := hr₈.offersOf_iff ha₇ hlock₇ hlocked
    refine .checksIn hlock₇ (hr₈.appointments a ha₇ hlock₇)
      (hsub₇ _ (hsub₆ _ (hsub₅ _ (hsub₄ _ hkey)))) (h₃.orderKeys _ hkey hfresh)
      (h₂.free _ hlock hexisting) ⟨rfl, rfl, rfl, rfl⟩
      (fun id hin => hlocked id ((hiff id).mpr hin)) ⟨?_, ?_, ?_⟩
    · exact (hpending d₈).appointments
    · exact (hpending d₈).orders
    · dsimp only
      rw [hoffers, (hpending d₈).offers]
      exact updateWhere_congr fun o _ => hiff o.offer_id

theorem BookingCall.program_sound (c : BookingCall) :
    (booking id).Sound c c.program [] (fun x => x) d := by
  cases c with
  | createAppointment w input =>
    exact Contract.Sound.of_onAnswers (createAppointment_sound w input)
  | updateAppointment appointmentId updates =>
    exact Contract.Sound.of_onAnswers (updateAppointment_sound appointmentId updates)
  | confirmAppointment appointmentId =>
    exact Contract.Sound.of_onAnswers (confirmAppointment_sound appointmentId)
  | markAppointmentNoShow w appointmentId =>
    exact Contract.Sound.of_onAnswers (markAppointmentNoShow_sound w appointmentId)
  | checkIn w appointmentId odometer =>
    exact Contract.Sound.of_onAnswers (checkIn_bookingSound w appointmentId odometer)
  | createRO w input => exact Contract.Sound.of_onAnswers (createRO_bookingSound w input)
  | createFirstServiceOffer w input =>
    exact Contract.Sound.of_onAnswers (createFirstServiceOffer_sound w input)
  | convertWaitlistEntry w waitlistEntryId input =>
    exact Contract.Sound.of_onAnswers (convertWaitlistEntry_bookingSound w waitlistEntryId input)

end Sound

/-! ## The desk -/

/-- A check-in says which appointment it is of, and what the car has run, as it should. -/
def BookingCall.wellFormed : BookingCall → Bool
  | .checkIn _ appointmentId odometer => isUuid appointmentId && odometerReads odometer
  | _ => true

/-- Check-ins are well formed, and an order of an appointment is not opened at the counter. -/
def AtTheDesk (S : BookingServer) : Event BookingCall → Prop
  | .arrive c => c.wellFormed = true
  | .turn i => ∀ s ∈ S.session i, ¬ s.call.Links s.held
  | .abort _ => True

instance (S : BookingServer) : ∀ e, Decidable (AtTheDesk S e)
  | .arrive c => inferInstanceAs (Decidable (c.wellFormed = true))
  | .turn i => inferInstanceAs (Decidable (∀ s ∈ S.session i, ¬ s.call.Links s.held))
  | .abort _ => .isTrue trivial

theorem booking_cooperates :
    (booking id).Cooperates LotLock.conflicts BookingCall.program (fun _ _ => True) AtTheDesk where
  refl := fun _ => .refl
  trans := fun _ _ _ _ _ => .trans
  symm := LotLock.conflicts_symm
  begins := fun _ c _ _ => c.program_sound
  sets_apart := fun _ _ _ _ _ _ => ⟨trivial, trivial⟩
  finds := fun _ _ s ha hs => ha s hs
  respects := fun _ _ _ _ _ _ _ _ _ _ _ hbeside hi hmoves => hmoves.kept hi hbeside.2

/-! ## Refusals -/

/-- A check-in is refused where its appointment has no order. -/
def BookingCall.refusedFor (c : BookingCall) (_ : ServiceError) (d : Shop) : Prop :=
  match c with
  | .checkIn _ appointmentId _ => orderOf appointmentId d = none
  | _ => True

theorem checkIn_explains {w : ServiceWorld} {appointmentId : String} {odometer : Option Rat}
    (huuid : isUuid appointmentId = true) (hreads : odometerReads odometer = true) (d : Shop) :
    (booking id).Explains BookingCall.refusedFor (.checkIn w appointmentId odometer)
      (BookingCall.program (.checkIn w appointmentId odometer)) [] (fun x => x) d := by
  unfold BookingCall.program Service.checkIn requireUuid requireOdometer insist lockAppointment
  simp only [huuid, hreads, if_true, Script.bind_assoc]
  refine Contract.explains_selectLocking_bind fun d₁ held₁ _ hlocks hi₁ => ?_
  have hlock : Locked held₁ "service_appointments" appointmentId := .inl (hlocks _ mem_cons_self)
  have hlasts : ∀ (held : List LotLock) (a b : Shop), (∀ k ∈ held₁, k ∈ held) →
      BookingKept held a b → orderOf appointmentId a = none → orderOf appointmentId b = none :=
    fun held a b hsub hr => hr.free _ (hlock.mono hsub)
  cases hfound : d₁.service_appointments.find? fun a => a.appointment_id = appointmentId with
  | none =>
    refine Contract.explains_of_lasting hlasts (fun _ _ h => h) (fun _ hk => hk) ?_
    refine orderOf_eq_none.mpr fun r hr hname => ?_
    obtain ⟨a, ha, hid, -⟩ := hi₁.linked r hr _ hname
    exact find?_eq_none.mp hfound a ha (decide_eq_true hid)
  | some a =>
    refine Contract.explains_select_bind fun d₂ _ _ => ?_
    cases hexisting : orderOf appointmentId d₂ with
    | some r => exact trivial
    | none => exact Contract.explains_of_lasting hlasts (fun _ _ h => h) (fun _ hk => hk) hexisting

theorem BookingCall.program_explains (hc : c.wellFormed = true) (d : Shop) :
    (booking id).Explains BookingCall.refusedFor c c.program [] (fun x => x) d := by
  cases c with
  | checkIn w appointmentId odometer =>
    obtain ⟨huuid, hreads⟩ := Bool.and_eq_true_iff.mp hc
    exact checkIn_explains huuid hreads d
  | createAppointment _ _ | updateAppointment _ _ | confirmAppointment _
  | markAppointmentNoShow _ _ | createRO _ _ | createFirstServiceOffer _ _
  | convertWaitlistEntry _ _ _ => exact Contract.explains_of_always fun _ _ => trivial

/-! ## What a run leaves -/

def AnswersOrder (d : Shop) : BookingEnding → Prop
  | .committed (.checkIn _ appointmentId _) answer _ _ =>
    ∃ r ∈ d.repair_orders, answer = some r.ro_id ∧ r.appointment_id = some appointmentId
  | _ => True

/-- Appointments, orders and offers agree, whoever checked in was answered the order of the
appointment, and nobody is refused a check-in of an appointment that has one. -/
structure OrdersAgree (S : BookingServer) : Prop where
  agrees : Agrees S.committed
  answers : ∀ e ∈ S.history, AnswersOrder S.committed e
  refusals : ∀ i, ∀ s ∈ S.session i, ∀ w appointmentId odometer e,
    s.call = .checkIn w appointmentId odometer → s.script = .raise e →
      orderOf appointmentId S.committed = none

theorem BookingMoves.orders_stay {d d' : Shop} (hm : BookingMoves held c answer d d')
    {r : RepairOrder} (hr : r ∈ d.repair_orders) :
    r ∈ d'.repair_orders := by
  cases hm with
  | expires same | books _ _ _ _ same | offers _ _ _ _ _ _ _ same | amends _ same
  | moves _ _ _ _ _ _ same | replays _ _ same =>
    rw [same.orders]
    exact hr
  | opens _ _ _ same | checksIn _ _ _ _ _ _ _ same =>
    rw [same.orders]
    exact mem_append_left _ hr

theorem BookingMoves.answersOrder {d d' : Shop}
    (hm : BookingMoves held c answer d d') : AnswersOrder d' (.committed c answer d d') := by
  cases hm with
  | expires _ | offers _ _ _ _ _ _ _ _ | amends _ _ | opens _ _ _ _ => exact trivial
  | @books c _ _ _ call | @moves c _ _ _ _ call =>
    cases c with
    | checkIn _ _ _ => cases call
    | _ => exact trivial
  | checksIn _ _ _ _ _ order _ same =>
    rw [AnswersOrder, same.orders]
    exact ⟨_, mem_append_right _ mem_cons_self, rfl, order.named⟩
  | replays found order same =>
    rw [AnswersOrder, same.orders]
    exact ⟨_, found, rfl, order⟩

theorem AnswersOrder.mono {d d' : Shop} (hd : ∀ r ∈ d.repair_orders, r ∈ d'.repair_orders)
    {e : BookingEnding} (h : AnswersOrder d e) : AnswersOrder d' e := by
  rcases e with ⟨c, answer, before, after⟩ | _ | _
  · cases c with
    | checkIn _ _ _ =>
      obtain ⟨r, hr, hrest⟩ := h
      exact ⟨r, hd r hr, hrest⟩
    | _ => exact trivial
  · exact trivial
  · exact trivial

/-- **An appointment and its repair order agree.**  In every interleaving in which no order of
an appointment is opened at the counter. -/
theorem orders_agree {d : Shop} (hd : BookingSound d) {events : List (Event BookingCall)}
    (h : Along (Server.step LotLock.conflicts BookingCall.program) AtTheDesk (.fresh d) events) :
    OrdersAgree (run (Server.step LotLock.conflicts BookingCall.program) (.fresh d) events) where
  agrees := BookingSound.agrees (booking_cooperates.guarded hd h).inv
  answers := by
    refine booking_cooperates.account (I := fun es d' => ∀ e ∈ es, AnswersOrder d' e) hd
      (forall_mem_nil _) ?_ h
    intro es e a b hI hleads hkeeps e' he'
    have hstays : ∀ r ∈ a.repair_orders, r ∈ b.repair_orders :=
      hkeeps.leads (P := fun _ a b => ∀ r ∈ a.repair_orders, r ∈ b.repair_orders) hleads
        (fun _ _ _ _ _ _ hm _ hr => hm.orders_stay hr) (fun _ _ _ _ _ hr => hr)
        fun _ _ _ hr => hr
    rcases mem_inserted he' with he' | rfl
    · exact (hI e' he').mono hstays
    · exact hkeeps.leads (P := fun e _ b => AnswersOrder b e) hleads
        (fun _ _ _ _ _ _ hm => hm.answersOrder) (fun _ _ _ _ => trivial) fun _ _ => trivial
  refusals := by
    intro i s hs w appointmentId odometer e hcall hraise
    have hwhy : s.call.refusedFor e (run (Server.step LotLock.conflicts BookingCall.program)
        (.fresh d) events).committed :=
      booking_cooperates.explained (fun _ _ hc _ => BookingCall.program_explains hc _) hd h hs
        hraise
    rwa [hcall] at hwhy

/-! ## A day at the desk -/

namespace Desk

def location : String := uuid "1"

def customer : String := uuid "2"

def sedan : String := uuid "3"

def sale : String := uuid "4"

def first : String := uuid "5"

def second : String := uuid "6"

def world (id : String) : ServiceWorld :=
  ⟨"advisor", [.service_advisor], 0, id, "next " ++ id, fun s => s⟩

def shop : Shop := Shop.opening "t" [] [] [] []

theorem shop_sound : BookingSound shop :=
  ⟨nodup_nil, nodup_nil, nodup_nil, forall_mem_nil _, forall_mem_nil _,
    forall_mem_nil _, forall_mem_nil _, forall_mem_nil _⟩

abbrev serve : List (Event BookingCall) → BookingServer :=
  served LotLock.conflicts BookingCall.program shop

def earn : BookingCall :=
  .createFirstServiceOffer (world first) ⟨location, customer, sedan, sale, some 500, none⟩

def book : BookingCall :=
  .createAppointment (world second)
    ⟨location, customer, sedan, some 600, none, none, none, none, none⟩

/-- An order is opened at the counter for an appointment. -/
def link (appointmentId : String) : BookingCall :=
  .createRO (world (uuid "9")) ⟨location, customer, sedan, some appointmentId, none⟩

/-- Two check the car in at once, and another once more; an order of it at the counter is
refused, and the second appointment is missed. -/
def day : List (Event BookingCall) :=
  oneByOne 10 [earn, book, .confirmAppointment first] 0 ++
  [.arrive (.checkIn (world (uuid "7")) first (some 12)),
    .arrive (.checkIn (world (uuid "8")) first none), .turn 3, .turn 4] ++
  List.replicate 12 (.turn 3) ++ List.replicate 4 (.turn 4) ++
  oneByOne 10 [.checkIn (world (uuid "9")) first none, link first,
    .markAppointmentNoShow (world (uuid "a")) second] 5

/-- The appointment gets an order at the counter, and then the car does not come. -/
def atTheCounter : List (Event BookingCall) :=
  oneByOne 10 [book, link second, .markAppointmentNoShow (world (uuid "a")) second] 0

def answered : BookingEnding → Option String
  | .committed (.checkIn ..) answer _ _ => answer
  | _ => none

end Desk

open Desk in
/-- All three are answered the one order. -/
theorem day_agrees :
    (serve day).committed.repair_orders.map RepairOrder.ro_id = [uuid "7"] ∧
      (serve day).history.filterMap answered = [uuid "7", uuid "7", uuid "7"] ∧
      OrdersAgree (serve day) :=
  ⟨by decide +kernel, by decide +kernel, orders_agree shop_sound (by decide +kernel)⟩

open Desk in
/-- A missed appointment has an order. -/
theorem counter_order_disagrees :
    (serve atTheCounter).committed.service_appointments.map ServiceAppointment.status =
        [.no_show] ∧
      ¬ OrdersAgree (serve atTheCounter) :=
  ⟨by decide +kernel, fun h => absurd h.agrees.converted (by decide +kernel)⟩

end Dealership.Service
