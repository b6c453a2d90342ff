import Dealership.Service.Appointments
import Dealership.Service.Estimates
import Dealership.Sales.Schema

/-!
# Statements the calls share

What the common first statements of a call establish, under any contract that lets the call
end by raising whatever it raises.
-/

namespace Dealership.Service

open Library List
open Inventory (LotLock)
open Sales (Locked)

theorem index_not_both {held more : List LotLock}
    (hclear : ∀ k ∈ held, ∀ l ∈ more, k.conflicts l = false) {name key : String}
    (h : .index name key ∈ held) : .index name key ∉ more := by
  intro h'
  simpa [LotLock.conflicts] using hclear _ h _ h'

section Statements

variable {C B : Type} {κ : Contract C Shop LotLock ServiceError B} {c : C} {held : List LotLock}
  {pending : Shop → Shop} {d : Shop} {k : Unit → ServiceWork B}

theorem insist_refuses {holds : Bool} {e : ServiceError} (he : κ.mayRaise c e)
    (h : holds = true → κ.Sound c (k ()) held pending d) :
    κ.Sound c (insist holds e >>= k) held pending d := by
  unfold insist
  cases holds with
  | true => exact h rfl
  | false => exact he

/-! ## What a request brings -/

section Requests

variable (hv : ∀ e : ServiceError, e.kind = .validation → κ.mayRaise c e) {field : String}

include hv

theorem requireUuid_refuses {value : String} {k : Unit → ServiceWork B}
    (h : κ.Sound c (k ()) held pending d) :
    κ.Sound c (requireUuid value field >>= k) held pending d :=
  insist_refuses (hv _ rfl) fun _ => h

theorem requireTimestamp_refuses {value : Option Int} {k : Int → ServiceWork B}
    (h : ∀ t, κ.Sound c (k t) held pending d) :
    κ.Sound c (requireTimestamp value field >>= k) held pending d := by
  cases value with
  | none => exact hv _ rfl
  | some t => exact h t

theorem optionalTimestamp_refuses {value : Option (Option Int)} {k : Option Int → ServiceWork B}
    (h : ∀ t, κ.Sound c (k t) held pending d) :
    κ.Sound c (optionalTimestamp value field >>= k) held pending d := by
  rcases value with - | - | t
  · exact h none
  · exact hv _ rfl
  · exact h (some t)

theorem requireOneOf_refuses {A : Type} {value : Option (Option A)} {default : A} {allowed : String}
    {k : A → ServiceWork B} (h : ∀ a, κ.Sound c (k a) held pending d) :
    κ.Sound c (requireOneOf value default field allowed >>= k) held pending d := by
  rcases value with - | - | a
  · exact h default
  · exact hv _ rfl
  · exact h a

theorem requireConcerns_refuses {value : Option (Option (List String))}
    {k : List String → ServiceWork B} (h : ∀ concerns, κ.Sound c (k concerns) held pending d) :
    κ.Sound c (requireConcerns value >>= k) held pending d := by
  rcases value with - | - | concerns
  · exact h []
  · exact hv _ rfl
  · exact h concerns

end Requests

/-! ## Calls that may raise anything -/

variable {roId : String} [hκ : κ.Tolerant c]

theorem insist_sound {holds : Bool} {e : ServiceError}
    (h : holds = true → κ.Sound c (k ()) held pending d) :
    κ.Sound c (insist holds e >>= k) held pending d :=
  insist_refuses (hκ.raises e) h

theorem requireUuid_sound {value field : String} (h : κ.Sound c (k ()) held pending d) :
    κ.Sound c (requireUuid value field >>= k) held pending d :=
  insist_sound fun _ => h

theorem store_sound {locks : Shop → List LotLock} {write : Shop → Shop → Shop}
    (h : ∀ d' more, (∀ k ∈ held, k ∈ more) → (∀ k ∈ locks (pending d'), k ∈ more) →
      κ.rely c held d d' → κ.inv d' → κ.finds c held d' →
        κ.Sound c (k ()) more (fun x => write (pending d') (pending x)) d') :
    κ.Sound c (store locks write >>= k) held pending d :=
  sound_execute_bind fun d' more hsub hlocks hr hi hf _ => h d' more hsub hlocks hr hi hf

theorem assertRO_sound {lock : Bool} {k : RepairOrder → ServiceWork B}
    (h : ∀ r d' more, r.ro_id = roId → (∀ k ∈ held, k ∈ more) →
      .row "repair_orders" roId (if lock then .forUpdate else .read) ∈ more →
      κ.rely c held d d' → κ.inv d' → r ∈ (pending d').repair_orders →
        κ.Sound c (k r) more pending d') :
    κ.Sound c (assertRO roId lock >>= k) held pending d := by
  unfold assertRO
  rw [Script.bind_assoc]
  refine requireUuid_sound ?_
  rw [Script.bind_assoc]
  refine sound_selectLocking_bind fun d' more hsub hlocks hr hi _ => ?_
  cases hfound : findRO roId (pending d') with
  | none => exact hκ.raises _
  | some r =>
    obtain ⟨hmem, hid⟩ := of_find?_eq_some hfound
    exact h r d' more hid hsub (hlocks _ mem_cons_self) hr hi hmem

theorem assertLineItem_sound {lineItemId : String} {k : LineItem → ServiceWork B}
    (h : ∀ l d' more, l.line_item_id = lineItemId → l.ro_id = roId → (∀ k ∈ held, k ∈ more) →
      Locked more "ro_line_items" lineItemId → κ.rely c held d d' → κ.inv d' →
        l ∈ (pending d').ro_line_items → κ.Sound c (k l) more pending d') :
    κ.Sound c (assertLineItem roId lineItemId >>= k) held pending d := by
  unfold assertLineItem
  rw [Script.bind_assoc]
  refine requireUuid_sound ?_
  rw [Script.bind_assoc]
  refine sound_selectLocking_bind fun d' more hsub hlocks hr hi _ => ?_
  cases hfound : findLine roId lineItemId (pending d') with
  | none => exact hκ.raises _
  | some l =>
    have hkey := find?_some hfound
    rw [Bool.and_eq_true, decide_eq_true_eq, decide_eq_true_eq] at hkey
    exact h l d' more hkey.1 hkey.2 hsub (.inl (hlocks _ mem_cons_self)) hr hi
      (mem_of_find?_eq_some hfound)

theorem validateUpdates_sound {w : ServiceWorld} {u : LineUpdates}
    (h : κ.Sound c (k ()) held pending d) :
    κ.Sound c (validateUpdates w u >>= k) held pending d := by
  unfold validateUpdates
  simp only [Script.bind_assoc]
  refine insist_sound fun _ => insist_sound fun _ => insist_sound fun _ => ?_
  refine insist_sound fun _ => insist_sound fun _ => ?_
  cases u.price_ref with
  | none => exact h
  | some price =>
    cases price with
    | null => exact h
    | notAnObject => exact hκ.raises _
    | object ref =>
      unfold validatePriceRef
      rw [Script.bind_assoc]
      exact insist_sound fun _ => insist_sound fun _ => h

theorem insertRO_sound {r : RepairOrder}
    (h : ∀ d' more, (∀ k ∈ held, k ∈ more) → κ.rely c held d d' →
      .index "repair_orders_pkey" r.ro_id ∈ more →
      (∀ id, r.appointment_id = some id → .index "idx_ro_appointment" id ∈ more) →
      (∀ s ∈ (pending d').repair_orders, s.ro_id ≠ r.ro_id) →
        κ.Sound c (k ()) more
          (fun x => { pending x with repair_orders := (pending x).repair_orders ++ [r] }) d') :
    κ.Sound c (insertRO r >>= k) held pending d := by
  unfold insertRO
  refine sound_execute_bind fun d' more hsub hlocks hr _ _ hfits => ?_
  refine h d' more hsub hr (hlocks _ mem_cons_self) (fun id hid => ?_) fun s hs => ?_
  · refine hlocks _ (mem_cons_of_mem _ ?_)
    rw [hid]
    exact mem_cons_self
  · rw [RepairOrder.fits, Bool.and_eq_true, all_eq_true] at hfits
    have hrow := hfits.1 s hs
    rw [Bool.and_eq_true, decide_eq_true_eq] at hrow
    exact hrow.1

theorem insertLine_sound {l : LineItem}
    (h : ∀ d' more, κ.rely c held d d' → .row "repair_orders" l.ro_id .keyShare ∈ more →
      .index "ro_line_items_pkey" l.line_item_id ∈ more →
      (∀ m ∈ (pending d').ro_line_items, m.line_item_id ≠ l.line_item_id) →
        κ.Sound c (k ()) more
          (fun x => { pending x with ro_line_items := (pending x).ro_line_items ++ [l] }) d') :
    κ.Sound c (insertLine l >>= k) held pending d := by
  refine sound_execute_bind fun d' more _ hlocks hr _ _ hfree => ?_
  exact h d' more hr (hlocks _ mem_cons_self)
    (hlocks _ (mem_cons_of_mem _ mem_cons_self))
    fun m hm => of_decide_eq_true (all_eq_true.mp hfree m hm)

theorem insertAppointment_sound {a : ServiceAppointment}
    (h : ∀ d' more, (∀ k ∈ held, k ∈ more) → κ.rely c held d d' →
      .index "service_appointments_pkey" a.appointment_id ∈ more →
      (∀ b ∈ (pending d').service_appointments, b.appointment_id ≠ a.appointment_id) →
        κ.Sound c (k ()) more (fun x =>
          { pending x with service_appointments := (pending x).service_appointments ++ [a] }) d') :
    κ.Sound c (insertAppointment a >>= k) held pending d := by
  refine sound_execute_bind fun d' more hsub hlocks hr _ _ hfree => ?_
  exact h d' more hsub hr (hlocks _ mem_cons_self)
    fun b hb => of_decide_eq_true (all_eq_true.mp hfree b hb)

theorem lockAppointment_sound {appointmentId : String} {k : ServiceAppointment → ServiceWork B}
    (h : ∀ a d' more, a.appointment_id = appointmentId → (∀ k ∈ held, k ∈ more) →
      Locked more "service_appointments" appointmentId →
      a ∈ (pending d').service_appointments → κ.Sound c (k a) more pending d') :
    κ.Sound c (lockAppointment appointmentId >>= k) held pending d := by
  unfold lockAppointment
  rw [Script.bind_assoc]
  refine sound_selectLocking_bind fun d' more hsub hlocks _ _ _ => ?_
  cases hfound : (pending d').service_appointments.find? fun a =>
      a.appointment_id = appointmentId with
  | none => exact hκ.raises _
  | some a =>
    obtain ⟨hmem, hid⟩ := of_find?_eq_some hfound
    exact h a d' more hid hsub (.inl (hlocks _ mem_cons_self)) hmem

theorem insertEstimate_sound {e : Estimate}
    (h : ∀ d' more, (∀ k ∈ held, k ∈ more) → κ.rely c held d d' →
      .index "ro_estimates_pkey" e.estimate_id ∈ more →
      (∀ f ∈ (pending d').ro_estimates, f.estimate_id ≠ e.estimate_id) →
        κ.Sound c (k ()) more
          (fun x => { pending x with ro_estimates := (pending x).ro_estimates ++ [e] }) d') :
    κ.Sound c (insertEstimate e >>= k) held pending d := by
  refine sound_execute_bind fun d' more hsub hlocks hr _ _ hacc => ?_
  refine h d' more hsub hr (hlocks _ mem_cons_self) fun f hf => ?_
  have hfits := all_eq_true.mp hacc f hf
  rw [Bool.and_eq_true, decide_eq_true_eq] at hfits
  exact hfits.1

theorem lockEstimate_sound {estimateId : String} {k : Estimate → ServiceWork B}
    (h : ∀ e d' more, e.estimate_id = estimateId → e.ro_id = roId → (∀ k ∈ held, k ∈ more) →
      κ.rely c held d d' → e ∈ (pending d').ro_estimates → κ.Sound c (k e) more pending d') :
    κ.Sound c (lockEstimate roId estimateId >>= k) held pending d := by
  unfold lockEstimate
  rw [Script.bind_assoc]
  refine sound_selectLocking_bind fun d' more hsub _ hr _ _ => ?_
  cases hfound : findEstimate roId estimateId (pending d') with
  | none => exact hκ.raises _
  | some e =>
    have hkey := find?_some hfound
    rw [Bool.and_eq_true, decide_eq_true_eq, decide_eq_true_eq] at hkey
    exact h e d' more hkey.1 hkey.2 hsub hr (mem_of_find?_eq_some hfound)

end Statements

end Dealership.Service
