import Dealership.Service.Statements
import Dealership.Service.Waitlist

/-!
# What happens on the waitlist

The four calls that work with the waitlist, and for each what a commit of it does: an entry is
added under the key of its vehicle and location, and an open entry is moved under its lock.
Of a list in order each of them leaves a list in order, and a closed entry as it was.
-/

namespace Dealership.Service

open Library List
open Inventory (LotLock)
open Sales (Locked)

variable {d : Shop} {e : WaitlistEntry}

/-! ## The list in order -/

/-- The appointment is the one the entry names, and what the entry asked for. -/
structure BookedFor (e : WaitlistEntry) (a : ServiceAppointment) : Prop where
  named : e.appointment_id = some a.appointment_id
  source : a.source = .waitlist
  location : a.location_id = e.location_id
  customer : a.mdm_customer_id = e.mdm_customer_id
  vehicle : a.mdm_vehicle_id = e.mdm_vehicle_id
  concerns : a.concerns = e.concerns
  channel : a.preferred_contact_channel = e.preferred_contact_channel
  language : a.language_preference = e.language_preference

/-- `uq_swe_open_vehicle`. -/
def OnePerVehicle (d : Shop) : Prop :=
  ∀ e ∈ d.service_waitlist_entries, ∀ f ∈ d.service_waitlist_entries, e.isOpen = true →
    f.isOpen = true → e.location_id = f.location_id → e.mdm_vehicle_id = f.mdm_vehicle_id → e = f

structure WaitlistSound (d : Shop) : Prop where
  entries : (d.service_waitlist_entries.map WaitlistEntry.waitlist_entry_id).Nodup
  appointments : (d.service_appointments.map ServiceAppointment.appointment_id).Nodup
  alone : OnePerVehicle d
  scheduled : ∀ e ∈ d.service_waitlist_entries, e.status = .scheduled →
    ∃ a ∈ d.service_appointments, BookedFor e a
  unnamed : ∀ e ∈ d.service_waitlist_entries, e.status ≠ .scheduled → e.appointment_id = none
  apart : ∀ e ∈ d.service_waitlist_entries, ∀ f ∈ d.service_waitlist_entries, ∀ id,
    e.appointment_id = some id → f.appointment_id = some id → e = f
  made : ∀ a ∈ d.service_appointments, a.source = .waitlist →
    ∃ e ∈ d.service_waitlist_entries, BookedFor e a

theorem WaitlistSound.scheduled_of_named (hd : WaitlistSound d)
    (he : e ∈ d.service_waitlist_entries) {id : String} (h : e.appointment_id = some id) :
    e.status = .scheduled := by
  by_contra hnot
  rw [hd.unnamed e he hnot] at h
  cases h

theorem WaitlistSound.scheduled_iff (hd : WaitlistSound d) (he : e ∈ d.service_waitlist_entries) :
    e.status = .scheduled ↔ ∃ a ∈ d.service_appointments, BookedFor e a ∧
      ∀ b ∈ d.service_appointments, BookedFor e b → b = a := by
  constructor
  · intro h
    obtain ⟨a, ha, hfor⟩ := hd.scheduled e he h
    refine ⟨a, ha, hfor, fun b hb hb' => eq_of_key hd.appointments hb ha ?_⟩
    exact Option.some.inj (hb'.named.symm.trans hfor.named)
  · rintro ⟨a, -, hfor, -⟩
    exact hd.scheduled_of_named he hfor.named

theorem WaitlistSound.made_for_one (hd : WaitlistSound d) {a : ServiceAppointment}
    (ha : a ∈ d.service_appointments) (hsource : a.source = .waitlist) :
    ∃ e ∈ d.service_waitlist_entries, BookedFor e a ∧
      ∀ f ∈ d.service_waitlist_entries, BookedFor f a → f = e := by
  obtain ⟨e, he, hfor⟩ := hd.made a ha hsource
  exact ⟨e, he, hfor, fun f hf hf' => hd.apart f hf e he _ hf'.named hfor.named⟩

theorem openEntries_eq_nil {locationId vehicleId : String} :
    openEntries locationId vehicleId d = [] ↔ ∀ e ∈ d.service_waitlist_entries,
      e.location_id = locationId → e.mdm_vehicle_id = vehicleId → e.isOpen = false := by
  simp only [openEntries, filter_eq_nil_iff, Bool.and_eq_true, decide_eq_true_eq]
  constructor
  · intro h e he hloc hveh
    exact Bool.eq_false_iff.mpr fun hopen => h e he ⟨⟨hloc, hveh⟩, hopen⟩
  · rintro h e he ⟨⟨hloc, hveh⟩, hopen⟩
    rw [h e he hloc hveh] at hopen
    cases hopen

/-! ## Moves -/

def Shop.booked (d : Shop) (waitlistEntryId : String) (a : ServiceAppointment) : Shop :=
  { d with
    service_appointments := d.service_appointments ++ [a]
    service_waitlist_entries := updateWhere (fun e => e.waitlist_entry_id = waitlistEntryId)
      (scheduledAs a.appointment_id) d.service_waitlist_entries }

/-- What a commit that held `held` did to the list. -/
inductive WaitlistMoves (held : List LotLock) :
    WaitlistCall → WaitlistAnswer → Shop → Shop → Prop where
  | creates {w : ServiceWorld} {input : WaitlistInput} {e : WaitlistEntry} {d : Shop}
      (key : .index "service_waitlist_entries_pkey" e.waitlist_entry_id ∈ held)
      (fresh : ∀ f ∈ d.service_waitlist_entries, f.waitlist_entry_id ≠ e.waitlist_entry_id)
      (waits : waitingEntry e.location_id e.mdm_vehicle_id ∈ held)
      (free : openEntries e.location_id e.mdm_vehicle_id d = [])
      (location : e.location_id = input.location_id)
      (vehicle : e.mdm_vehicle_id = input.mdm_vehicle_id)
      (waiting : e.status = .waiting) (unnamed : e.appointment_id = none) :
      WaitlistMoves held (.createWaitlistEntry w input) .done d
        { d with service_waitlist_entries := d.service_waitlist_entries ++ [e] }
  | offers {e : WaitlistEntry} {input : OfferInput} {expiresAt : Int} {d : Shop}
      (lock : Locked held "service_waitlist_entries" e.waitlist_entry_id)
      (found : e ∈ d.service_waitlist_entries) (isOpen : e.isOpen = true) :
      WaitlistMoves held (.offerWaitlistSlot e.waitlist_entry_id input) .done d
        (d.setEntries e.waitlist_entry_id (offeredUntil expiresAt))
  | expires {w : ServiceWorld} {e : WaitlistEntry} {input : ConversionInput} {d : Shop}
      (lock : Locked held "service_waitlist_entries" e.waitlist_entry_id)
      (found : e ∈ d.service_waitlist_entries) (isOpen : e.isOpen = true)
      (lapsed : e.lapsed input.clock = true) :
      WaitlistMoves held (.convertWaitlistEntry w e.waitlist_entry_id input) .offerExpired d
        (d.setEntries e.waitlist_entry_id expiredEntry)
  | books {w : ServiceWorld} {e : WaitlistEntry} {input : ConversionInput} {start : Int}
      {finish : Option Int} {d : Shop}
      (lock : Locked held "service_waitlist_entries" e.waitlist_entry_id)
      (found : e ∈ d.service_waitlist_entries) (isOpen : e.isOpen = true)
      (lapsed : e.lapsed input.clock = false)
      (key : .index "service_appointments_pkey" w.newId ∈ held)
      (fresh : ∀ a ∈ d.service_appointments, a.appointment_id ≠ w.newId) :
      WaitlistMoves held (.convertWaitlistEntry w e.waitlist_entry_id input) .done d
        (d.booked e.waitlist_entry_id (bookingOf w.newId start finish e))
  | cancels {e : WaitlistEntry} {d : Shop}
      (lock : Locked held "service_waitlist_entries" e.waitlist_entry_id)
      (found : e ∈ d.service_waitlist_entries) (isOpen : e.isOpen = true) :
      WaitlistMoves held (.cancelWaitlistEntry e.waitlist_entry_id) .done d
        (d.setEntries e.waitlist_entry_id canceledEntry)

/-! ## Every move keeps the list in order -/

theorem WaitlistEntry.status_ne_scheduled (h : e.isOpen = true) : e.status ≠ .scheduled := by
  intro heq
  rw [WaitlistEntry.isOpen, heq] at h
  cases h

theorem WaitlistSound.moves (hd : WaitlistSound d) (he : e ∈ d.service_waitlist_entries)
    (hopen : e.isOpen = true) {f : WaitlistEntry → WaitlistEntry}
    (hid : ∀ x, (f x).waitlist_entry_id = x.waitlist_entry_id)
    (hloc : ∀ x, (f x).location_id = x.location_id)
    (hveh : ∀ x, (f x).mdm_vehicle_id = x.mdm_vehicle_id)
    (hname : ∀ x, (f x).appointment_id = x.appointment_id)
    (hstatus : ∀ x, (f x).status ≠ .scheduled) :
    WaitlistSound (d.setEntries e.waitlist_entry_id f) := by
  have hnone : e.appointment_id = none := hd.unnamed e he (WaitlistEntry.status_ne_scheduled hopen)
  -- A row is an old one, or the open entry moved.
  have hcases : ∀ {x}, x ∈ (d.setEntries e.waitlist_entry_id f).service_waitlist_entries →
      (x ∈ d.service_waitlist_entries ∧ x.waitlist_entry_id ≠ e.waitlist_entry_id) ∨ x = f e := by
    exact fun hx => (mem_updateWhere_key hd.entries he fun _ => Iff.rfl).mp hx
  constructor
  · exact nodup_map_updateWhere hd.entries fun x _ => hid x
  · exact hd.appointments
  · intro x hx y hy hxo hyo hl hv
    rcases hcases hx with ⟨hx, hne⟩ | rfl
    · rcases hcases hy with ⟨hy, -⟩ | rfl
      · exact hd.alone x hx y hy hxo hyo hl hv
      · rw [hloc] at hl
        rw [hveh] at hv
        exact absurd (congrArg _ (hd.alone x hx e he hxo hopen hl hv)) hne
    · rcases hcases hy with ⟨hy, hne⟩ | rfl
      · rw [hloc] at hl
        rw [hveh] at hv
        exact absurd (congrArg _ (hd.alone e he y hy hopen hyo hl hv).symm) hne
      · rfl
  · intro x hx hs
    rcases hcases hx with ⟨hx, -⟩ | rfl
    · exact hd.scheduled x hx hs
    · exact absurd hs (hstatus e)
  · intro x hx hs
    rcases hcases hx with ⟨hx, -⟩ | rfl
    · exact hd.unnamed x hx hs
    · rw [hname, hnone]
  · intro x hx y hy id hxid hyid
    rcases hcases hx with ⟨hx, -⟩ | rfl
    · rcases hcases hy with ⟨hy, -⟩ | rfl
      · exact hd.apart x hx y hy id hxid hyid
      · rw [hname, hnone] at hyid
        cases hyid
    · rw [hname, hnone] at hxid
      cases hxid
  · intro a ha hsource
    obtain ⟨x, hx, hfor⟩ := hd.made a ha hsource
    refine ⟨x, mem_updateWhere_of_neg hx fun heq => ?_, hfor⟩
    obtain rfl := eq_of_key hd.entries hx he heq
    rw [hfor.named] at hnone
    cases hnone

theorem WaitlistSound.creates (hd : WaitlistSound d)
    (hfresh : ∀ f ∈ d.service_waitlist_entries, f.waitlist_entry_id ≠ e.waitlist_entry_id)
    (hfree : openEntries e.location_id e.mdm_vehicle_id d = []) (hwaiting : e.status = .waiting)
    (hunnamed : e.appointment_id = none) :
    WaitlistSound { d with service_waitlist_entries := d.service_waitlist_entries ++ [e] } := by
  have hcases : ∀ {x}, x ∈ d.service_waitlist_entries ++ [e] →
      x ∈ d.service_waitlist_entries ∨ x = e := by
    intro x hx
    rcases mem_inserted hx with hx | rfl
    · exact .inl hx
    · exact .inr rfl
  have hclosed := openEntries_eq_nil.mp hfree
  refine ⟨nodup_key_insert hd.entries hfresh, hd.appointments, ?_, ?_, ?_, ?_, ?_⟩
  · intro x hx y hy hxo hyo hl hv
    rcases hcases hx with hx' | rfl
    · rcases hcases hy with hy' | rfl
      · exact hd.alone x hx' y hy' hxo hyo hl hv
      · rw [hclosed x hx' hl hv] at hxo
        cases hxo
    · rcases hcases hy with hy' | rfl
      · rw [hclosed y hy' hl.symm hv.symm] at hyo
        cases hyo
      · rfl
  · intro x hx hs
    rcases hcases hx with hx | rfl
    · exact hd.scheduled x hx hs
    · rw [hwaiting] at hs
      cases hs
  · intro x hx hs
    rcases hcases hx with hx | rfl
    · exact hd.unnamed x hx hs
    · exact hunnamed
  · intro x hx y hy id hxid hyid
    rcases hcases hx with hx | rfl
    · rcases hcases hy with hy | rfl
      · exact hd.apart x hx y hy id hxid hyid
      · rw [hunnamed] at hyid
        cases hyid
    · rw [hunnamed] at hxid
      cases hxid
  · intro a ha hsource
    obtain ⟨x, hx, hfor⟩ := hd.made a ha hsource
    exact ⟨x, mem_append_left _ hx, hfor⟩

theorem bookedFor_scheduledAs (appointmentId : String) (start : Int) (finish : Option Int)
    (e : WaitlistEntry) :
    BookedFor (scheduledAs appointmentId e) (bookingOf appointmentId start finish e) :=
  ⟨rfl, rfl, rfl, rfl, rfl, rfl, rfl, rfl⟩

theorem WaitlistSound.books (hd : WaitlistSound d) (he : e ∈ d.service_waitlist_entries)
    (hopen : e.isOpen = true) {appointmentId : String}
    (hfresh : ∀ a ∈ d.service_appointments, a.appointment_id ≠ appointmentId) (start : Int)
    (finish : Option Int) :
    WaitlistSound (d.booked e.waitlist_entry_id (bookingOf appointmentId start finish e)) := by
  have hnone : e.appointment_id = none := hd.unnamed e he (WaitlistEntry.status_ne_scheduled hopen)
  have hcases : ∀ {x}, x ∈ (d.booked e.waitlist_entry_id
      (bookingOf appointmentId start finish e)).service_waitlist_entries →
      (x ∈ d.service_waitlist_entries ∧ x.waitlist_entry_id ≠ e.waitlist_entry_id) ∨
        x = scheduledAs appointmentId e := by
    exact fun hx => (mem_updateWhere_key hd.entries he fun _ => Iff.rfl).mp hx
  -- No entry names the appointment before it is made.
  have hnew : ∀ x ∈ d.service_waitlist_entries, x.appointment_id ≠ some appointmentId := by
    intro x hx hname
    obtain ⟨a, ha, hfor⟩ := hd.scheduled x hx (hd.scheduled_of_named hx hname)
    exact hfresh a ha (Option.some.inj (hfor.named.symm.trans hname))
  constructor
  · exact nodup_map_updateWhere hd.entries fun _ _ => rfl
  · exact nodup_key_insert hd.appointments hfresh
  · intro x hx y hy hxo hyo hl hv
    rcases hcases hx with ⟨hx, -⟩ | rfl
    · rcases hcases hy with ⟨hy, -⟩ | rfl
      · exact hd.alone x hx y hy hxo hyo hl hv
      · cases hyo
    · cases hxo
  · intro x hx hs
    rcases hcases hx with ⟨hx, -⟩ | rfl
    · obtain ⟨a, ha, hfor⟩ := hd.scheduled x hx hs
      exact ⟨a, mem_append_left _ ha, hfor⟩
    · exact ⟨_, mem_append_right _ mem_cons_self, bookedFor_scheduledAs _ _ _ _⟩
  · intro x hx hs
    rcases hcases hx with ⟨hx, -⟩ | rfl
    · exact hd.unnamed x hx hs
    · exact absurd rfl hs
  · intro x hx y hy id hxid hyid
    rcases hcases hx with ⟨hx, -⟩ | rfl
    · rcases hcases hy with ⟨hy, -⟩ | rfl
      · exact hd.apart x hx y hy id hxid hyid
      · cases hyid
        exact absurd hxid (hnew x hx)
    · rcases hcases hy with ⟨hy, -⟩ | rfl
      · cases hxid
        exact absurd hyid (hnew y hy)
      · rfl
  · intro a ha hsource
    rcases mem_inserted ha with ha | rfl
    · obtain ⟨x, hx, hfor⟩ := hd.made a ha hsource
      refine ⟨x, mem_updateWhere_of_neg hx fun heq => ?_, hfor⟩
      obtain rfl := eq_of_key hd.entries hx he heq
      rw [hfor.named] at hnone
      cases hnone
    · exact ⟨_, mem_updateWhere_of_pos he rfl, bookedFor_scheduledAs _ _ _ _⟩

/-- **Every commit keeps the list in order.** -/
theorem WaitlistMoves.waitlistSound {held : List LotLock} {c : WaitlistCall}
    {answer : WaitlistAnswer} {d' : Shop} (hm : WaitlistMoves held c answer d d')
    (hd : WaitlistSound d) : WaitlistSound d' := by
  cases hm with
  | creates _ fresh _ free _ _ waiting unnamed => exact hd.creates fresh free waiting unnamed
  | offers _ found isOpen =>
    exact hd.moves found isOpen (fun _ => rfl) (fun _ => rfl) (fun _ => rfl) (fun _ => rfl)
      fun _ h => nomatch h
  | expires _ found isOpen _ =>
    exact hd.moves found isOpen (fun _ => rfl) (fun _ => rfl) (fun _ => rfl) (fun _ => rfl)
      fun _ h => nomatch h
  | books _ found isOpen _ _ fresh => exact hd.books found isOpen fresh _ _
  | cancels _ found isOpen =>
    exact hd.moves found isOpen (fun _ => rfl) (fun _ => rfl) (fun _ => rfl) (fun _ => rfl)
      fun _ h => nomatch h

theorem WaitlistMoves.closed_stays {held : List LotLock} {c : WaitlistCall}
    {answer : WaitlistAnswer} {d' : Shop} (hm : WaitlistMoves held c answer d d')
    (hd : WaitlistSound d) (he : e ∈ d.service_waitlist_entries) (hclosed : e.isOpen = false) :
    e ∈ d'.service_waitlist_entries := by
  have hother : ∀ {f}, f ∈ d.service_waitlist_entries → f.isOpen = true →
      e.waitlist_entry_id ≠ f.waitlist_entry_id := by
    intro f hf hopen heq
    rw [eq_of_key hd.entries he hf heq, hopen] at hclosed
    cases hclosed
  cases hm with
  | creates _ _ _ _ _ _ _ _ => exact mem_append_left _ he
  | offers _ found isOpen => exact mem_updateWhere_of_neg he (hother found isOpen)
  | expires _ found isOpen _ => exact mem_updateWhere_of_neg he (hother found isOpen)
  | books _ found isOpen _ _ _ => exact mem_updateWhere_of_neg he (hother found isOpen)
  | cancels _ found isOpen => exact mem_updateWhere_of_neg he (hother found isOpen)

end Dealership.Service
