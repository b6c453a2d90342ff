import Dealership.Library.Chronicle
import Mathlib.Data.List.Nodup

/-!
# How many were begun, and what happens once

Every transaction that was begun is under way or has ended, so those of a kind can be
counted: the count moves only when one of them arrives.  A client that begins no more
than so many, by this count, has no more than so many that ended.

A mark that an ending leaves only where it was not spent before, and that stays spent
whatever ends afterwards, is left at most once.
-/

namespace Dealership.Library

open List

variable {C D K E A M : Type} {p : C → Bool}

/-- How many transactions of a kind were begun: those that have ended and those under way. -/
def begun (p : C → Bool) (S : Server C D K E A) : Nat :=
  S.history.countP (fun e => p e.call) + S.sessions.countP fun o => o.any fun s => p s.call

theorem begun_end {S : Server C D K E A} {i : Nat} {s : Session C D K E A}
    (hs : S.session i = some s) {e : Ending C D E A} (he : e.call = s.call) (d : D) :
    begun p ⟨d, S.sessions.set i none, S.history ++ [e]⟩ = begun p S := by
  have hget : S.sessions[i]? = some (some s) := Option.join_eq_some_iff.mp hs
  obtain ⟨hi, heq⟩ := List.getElem?_eq_some_iff.mp hget
  have hpos : p s.call = true → 0 < S.sessions.countP fun o => o.any fun s => p s.call := by
    intro hp
    exact countP_pos_iff.mpr ⟨some s, mem_of_getElem? hget, by simpa using hp⟩
  unfold begun
  rw [countP_append, countP_singleton, he, countP_set hi, heq]
  simp only [Option.any_some, Option.any_none]
  by_cases hp : p s.call = true
  · have hle := hpos hp
    rw [if_pos hp, if_neg Bool.false_ne_true]
    omega
  · rw [if_neg hp, if_neg Bool.false_ne_true]
    omega

theorem begun_set {S : Server C D K E A} {i : Nat} {s t : Session C D K E A}
    (hs : S.session i = some s) (ht : t.call = s.call) (d : D) :
    begun p ⟨d, S.sessions.set i (some t), S.history⟩ = begun p S := by
  have hget : S.sessions[i]? = some (some s) := Option.join_eq_some_iff.mp hs
  obtain ⟨hi, heq⟩ := List.getElem?_eq_some_iff.mp hget
  unfold begun
  rw [countP_set hi, heq]
  simp only [Option.any_some, ht]
  by_cases hp : p s.call = true
  · have hle : 0 < S.sessions.countP fun o => o.any fun s => p s.call :=
      countP_pos_iff.mpr ⟨some s, mem_of_getElem? hget, by simpa using hp⟩
    rw [if_pos hp]
    omega
  · rw [if_neg hp]
    omega

theorem begun_step (conflicts : K → K → Bool) (program : C → Script D K E A) (p : C → Bool)
    (S : Server C D K E A) (e : Event C) :
    begun p (S.step conflicts program e) =
      begun p S + match e with
        | .arrive c => if p c then 1 else 0
        | _ => 0 := by
  cases e with
  | arrive c =>
    unfold begun Server.step
    rw [countP_append, countP_singleton, Nat.add_assoc]
    simp only [Option.any_some]
  | turn i =>
    rw [Server.step]
    cases hs : S.session i with
    | none => rfl
    | some s =>
      dsimp only
      unfold Server.turn
      split
      · exact begun_end hs rfl _
      · exact begun_end hs rfl _
      dsimp only
      split
      · apply begun_set hs
        rfl
      · rfl
  | abort i =>
    rw [Server.step]
    cases hs : S.session i with
    | none => rfl
    | some s => exact begun_end hs rfl _

theorem begun_le {conflicts : K → K → Bool} {program : C → Script D K E A} {n : Nat}
    {admits : Server C D K E A → Event C → Prop}
    (ha : ∀ S c, admits S (.arrive c) → p c = true → begun p S < n) {d : D} {es : List (Event C)}
    (h : Along (Server.step conflicts program) admits (.fresh d) es) :
    begun p (run (Server.step conflicts program) (.fresh d) es) ≤ n := by
  refine Along.invariant (I := fun S => begun p S ≤ n) ?_ h (Nat.zero_le n)
  intro S e hS hadm
  rw [begun_step]
  cases e with
  | arrive c =>
    dsimp only
    split
    · rename_i hp
      exact ha S c hadm hp
    · exact hS
  | turn _ => exact hS
  | abort _ => exact hS

theorem ended_le_begun (p : C → Bool) (S : Server C D K E A) :
    S.history.countP (fun e => p e.call) ≤ begun p S := Nat.le_add_right _ _

namespace Contract

variable {κ : Contract C D K E A}

theorem Cooperates.once {conflicts : K → K → Bool} {program : C → Script D K E A}
    {apart : C → C → Prop} {admits : Server C D K E A → Event C → Prop}
    (hc : Cooperates κ conflicts program apart admits) {d : D} (hd : κ.inv d)
    {mark : Ending C D E A → Option M} (Spent : M → D → Prop)
    (hstays : ∀ e d d', e.Leads d d' → κ.Keeps e → ∀ x, Spent x d → Spent x d')
    (hmarks : ∀ e d d', e.Leads d d' → κ.Keeps e → ∀ x, mark e = some x → ¬ Spent x d ∧ Spent x d')
    {events : List (Event C)}
    (h : Along (Server.step conflicts program) admits (.fresh d) events) :
    ((run (Server.step conflicts program) (.fresh d) events).history.filterMap mark).Nodup := by
  refine (hc.account (I := fun es d => (es.filterMap mark).Nodup ∧
    ∀ x ∈ es.filterMap mark, Spent x d) hd ⟨nodup_nil, forall_mem_nil _⟩ ?_ h).1
  intro es e d d' ⟨hnodup, hspent⟩ hleads hkeeps
  have hkept : ∀ x ∈ es.filterMap mark, Spent x d' := fun x hx =>
    hstays e d d' hleads hkeeps x (hspent x hx)
  rw [filterMap_append]
  cases hmark : mark e with
  | none =>
    rw [filterMap_cons_none hmark, filterMap_nil, append_nil]
    exact ⟨hnodup, hkept⟩
  | some x =>
    obtain ⟨hnew, hnow⟩ := hmarks e d d' hleads hkeeps x hmark
    rw [filterMap_cons_some hmark, filterMap_nil]
    constructor
    · refine nodup_append.mpr ⟨hnodup, nodup_singleton x, fun y hy z hz => ?_⟩
      rw [mem_singleton.mp hz]
      rintro rfl
      exact hnew (hspent y hy)
    · intro y hy
      rcases mem_append.mp hy with hy | hy
      · exact hkept y hy
      · rw [mem_singleton.mp hy]
        exact hnow

end Contract

end Dealership.Library
