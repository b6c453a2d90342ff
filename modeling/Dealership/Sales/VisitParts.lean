import Dealership.Sales.Visits

/-!
# Parts of calls about visits

Several calls lock a visit and rewrite it, and all of them ask who is asking.  What such a
part does is the same under every contract that lets the call raise.
-/

namespace Dealership.Sales

open Library
open Inventory (LotLock)

def OnlyAppointments (d d' : Showroom) : Prop := d' = { d with appointments := d'.appointments }

theorem OnlyAppointments.refl (d : Showroom) : OnlyAppointments d d := rfl

theorem writes_keepAppointment (w : SalesWorld) (actor : String) (input : CheckInInput) :
    (keepAppointment w actor input).Writes OnlyAppointments := by
  have hactor : (actorOnFloor w actor).Writes OnlyAppointments := by
    unfold actorOnFloor
    split
    · exact writes_pure _
    · exact writes_raise _
  have hmove : ∀ i : AppointmentStateInput, (moveAppointment i).Writes OnlyAppointments := by
    intro i
    refine writes_execute (fun v d => ?_) _ _ _ _
    dsimp only
    split
    · exact rfl
    · exact rfl
  have hset : ∀ i : AppointmentStateInput, i.actingUserLinkId = actor →
      (setAppointmentStateWithin w i).Writes OnlyAppointments := by
    intro i hi
    unfold setAppointmentStateWithin
    rw [hi]
    refine hactor.bind fun _ => ?_
    refine (writes_selectLocking OnlyAppointments.refl _ _).bind fun found => ?_
    split
    · exact writes_pure _
    dsimp only
    refine writes_unless (writes_unless (writes_unless ?_))
    refine (hmove i).bind fun moved => ?_
    split
    · exact writes_pure _
    · exact writes_pure _
  unfold keepAppointment
  split
  · exact writes_pure _
  refine (writes_selectLocking OnlyAppointments.refl _ _).bind fun found => ?_
  split
  · exact writes_pure _
  refine writes_unless (writes_unless (writes_unless ?_))
  refine (hset _ rfl).bind fun moved => ?_
  split
  · exact writes_pure _
  · exact writes_pure _

/-- A visit that a `SELECT … FOR UPDATE` found. -/
theorem findVisit_some {x : String} {d : Showroom} {v : ShowroomVisit}
    (h : findVisit x d = some v) : v ∈ d.showroom_visits ∧ v.visit_id = x :=
  of_find?_eq_some h

section Parts

variable {C A : Type} {κ : Contract C Showroom LotLock Raise A} {c : C} {held : List LotLock}
  {d : Showroom} {pending : Showroom → Showroom} [hκ : κ.Tolerant c]

theorem sound_actorOnFloor {w : SalesWorld}
    {actingUserLinkId : String} {k : String → SalesWork A}
    (h : κ.Sound c (k actingUserLinkId) held pending d) :
    κ.Sound c (actorOnFloor w actingUserLinkId >>= k) held pending d := by
  unfold actorOnFloor requireActor
  split
  · rename_i heq
    split at heq
    · cases heq
    split at heq
    · cases heq
    · cases heq
      exact h
  · exact hκ.raises _

theorem sound_visitEvent {e : VisitEvent} {k : Unit → SalesWork A}
    (h : ∀ d' more, (∀ x ∈ held, x ∈ more) → κ.rely c held d d' → κ.Sound c (k ()) more
      (fun x => { pending x with visit_events := (pending x).visit_events ++ [e] }) d') :
    κ.Sound c (visitEvent e >>= k) held pending d :=
  sound_execute_bind fun d' more hsub _ hr _ _ _ => h d' more hsub hr

theorem sound_updateVisit {v : ShowroomVisit}
    {f : ShowroomVisit → ShowroomVisit} {k : Option ShowroomVisit → SalesWork A}
    (hkeys : ∀ d', κ.inv d' → (d'.showroom_visits.map (·.visit_id)).Nodup)
    (hstays : ∀ d', κ.rely c held d d' → v ∈ d'.showroom_visits)
    (hpending : ∀ x, (pending x).showroom_visits = x.showroom_visits)
    (h : ∀ d' more, (∀ x ∈ held, x ∈ more) → κ.rely c held d d' → κ.inv d' →
      κ.finds c held d' → v ∈ d'.showroom_visits → κ.Sound c (k (some (f v))) more
        (fun x => (pending x).setVisit v.visit_id f) d') :
    κ.Sound c (updateVisit v.visit_id v.authorization_version f >>= k) held pending d := by
  refine sound_execute_bind fun d' more hsub _ hr hi hf _ => ?_
  have hv := hstays d' hr
  have hfind : visitAt v.visit_id v.authorization_version (pending d') = some v := by
    rw [visitAt, findVisit, hpending, find?_eq_some_of_key (hkeys d' hi) hv, Option.filter_some]
    exact if_pos (decide_eq_true rfl)
  rw [hfind]
  exact h d' more hsub hr hi hf hv

end Parts

end Dealership.Sales
