import Dealership.Service.Estimates

/-!
# What the parts of the calls write

The statements a call looks with write nothing, and those it moves an order, tells of it or
pays with write one table each.  Whatever relation holds of such changes, the parts write
within it.
-/

namespace Dealership.Service

open Library
open Inventory (LotLock)

variable {R : Shop → Shop → Prop}

/-! ## Checks -/

theorem insist_writes (holds : Bool) (e : ServiceError) : (insist holds e).Writes R := by
  unfold insist
  split
  · exact writes_pure ()
  · exact writes_raise e

theorem where_writes {asked : Prop} [Decidable asked] {s : ServiceWork Unit} (hs : s.Writes R) :
    (if asked then s else pure ()).Writes R := by
  split
  · exact hs
  · exact writes_pure ()

section Looking

variable (hrefl : ∀ d, R d d)

include hrefl

theorem assertRO_writes (roId : String) (lock : Bool) : (assertRO roId lock).Writes R := by
  refine (insist_writes _ _).bind fun _ => ?_
  refine (writes_selectLocking hrefl _ _).bind fun found => ?_
  cases found with
  | none => exact writes_raise _
  | some r => exact writes_pure r

theorem lockAppointment_writes (appointmentId : String) :
    (lockAppointment appointmentId).Writes R := by
  refine (writes_selectLocking hrefl _ _).bind fun found => ?_
  cases found with
  | none => exact writes_raise _
  | some a => exact writes_pure a

theorem requireFreeAppointment_writes (appointmentId : Option String) :
    (requireFreeAppointment appointmentId).Writes R := by
  cases appointmentId with
  | none => exact writes_pure ()
  | some id =>
    refine (lockAppointment_writes hrefl id).bind fun _ => ?_
    exact (writes_select hrefl _).bind fun _ => insist_writes _ _

end Looking

/-! ## Gates -/

section Gates

variable (hgrants : ∀ d grants, R d { d with grants := grants })

include hgrants

theorem consumeSensitiveActionGrant_writes (w : ServiceWorld) (token : Option String)
    (action roId : String) : (consumeSensitiveActionGrant w token action roId).Writes R :=
  (insist_writes _ _).bind fun _ => writes_execute (fun _ d => hgrants d _) _ _ _ _

theorem transitionGates_writes (hrefl : ∀ d, R d d) (w : ServiceWorld) (roId : String) (target : ROStatus)
    (input : TransitionInput) : (transitionGates w roId target input).Writes R := by
  unfold transitionGates
  refine (where_writes ?_).bind fun _ => (where_writes ?_).bind fun _ =>
    (where_writes ?_).bind fun _ => where_writes ?_
  · exact consumeSensitiveActionGrant_writes hgrants _ _ _ _
  · refine (writes_selectLocking hrefl _ _).bind fun _ =>
      (insist_writes _ _).bind fun _ => ?_
    exact (writes_selectLocking hrefl _ _).bind fun _ => insist_writes _ _
  · exact (writes_select hrefl _).bind fun _ => insist_writes _ _
  · exact (writes_selectLocking hrefl _ _).bind fun _ => insist_writes _ _

end Gates

/-! ## Orders and what is told of them -/

theorem recordROEvent_writes (hevents : ∀ d events, R d { d with ro_events := events })
    (w : ServiceWorld) (roId : String) (event : ROEventType) :
    (recordROEvent w roId event).Writes R :=
  writes_execute (fun _ d => hevents d _) _ _ _ _

section Orders

variable (horders : ∀ d orders, R d { d with repair_orders := orders })

include horders

theorem insertRO_writes (r : RepairOrder) : (insertRO r).Writes R :=
  writes_execute (fun _ d => horders d _) _ _ _ _

theorem moveRO_writes (hrefl : ∀ d, R d d) (roId : String) (sources : List ROStatus)
    (target : ROStatus) : (moveRO roId sources target).Writes R := by
  refine writes_execute (fun v d => ?_) _ _ _ _
  split
  · exact horders d _
  · exact hrefl d

end Orders

end Dealership.Service
