import Dealership.Library.ReadCommitted

/-!
# Why a transaction was refused

A contract says what a call may raise, but not what the rows are like when it does.  A script
explains its refusals when, wherever it raises, a reason holds of the committed rows by then,
whatever the others have committed since it looked.  Scripts that explain their refusals one by
one do so in every run.
-/

namespace Dealership.Library

open List

namespace Contract

variable {C D K E A B : Type}

/-- Wherever the script raises from here on, the reason holds of the rows. -/
def Explains (κ : Contract C D K E A) (why : C → E → D → Prop) (c : C) :
    Script D K E A → List K → (D → D) → D → Prop
  | .commit _, _, _, _ => True
  | .raise e, held, _, d => ∀ d', κ.rely c held d d' → κ.inv d' → why c e d'
  | .statement locks write next, held, pending, d => ∀ d', κ.rely c held d d' → κ.inv d' →
      Explains κ why c (next (pending d')) (locks (pending d') ++ held)
        (fun x => write (pending d') (pending x)) d'

section Check

variable {κ : Contract C D K E A} {why : C → E → D → Prop} {c : C} {held : List K} {pending : D → D}
  {d : D} {s : Script D K E A}

theorem Explains.stable (htrans : ∀ c h a b e, κ.rely c h a b → κ.rely c h b e → κ.rely c h a e)
    {d' : D} (h : κ.Explains why c s held pending d)
    (hr : κ.rely c held d d') : κ.Explains why c s held pending d' := by
  cases s with
  | commit a => trivial
  | raise e => exact fun x hx => h x (htrans _ _ _ _ _ hr hx)
  | statement locks write next => exact fun x hx => h x (htrans _ _ _ _ _ hr hx)

theorem explains_of_lasting {P : D → Prop} {held₀ : List K}
    (hP : ∀ h a b, (∀ k ∈ held₀, k ∈ h) → κ.rely c h a b → P a → P b)
    (hwhy : ∀ e x, P x → why c e x) (hsub : ∀ k ∈ held₀, k ∈ held) (hd : P d) :
    κ.Explains why c s held pending d := by
  induction s generalizing held pending d with
  | commit a => trivial
  | raise e => exact fun x hx _ => hwhy e x (hP held d x hsub hx hd)
  | statement locks write next ih =>
    intro x hx _
    exact ih (pending x) (fun k hk => mem_append_right _ (hsub k hk)) (hP held d x hsub hx hd)

theorem explains_of_always (hwhy : ∀ e x, why c e x) : κ.Explains why c s held pending d :=
  explains_of_lasting (P := fun _ => True) (fun _ _ _ _ _ _ => trivial) (fun e x _ => hwhy e x)
    (fun _ hk => hk) trivial

theorem explains_selectLocking_bind {locks : D → List K} {f : D → B} {g : B → Script D K E A}
    (h : ∀ d' more, (∀ k ∈ held, k ∈ more) → (∀ k ∈ locks (pending d'), k ∈ more) →
      κ.inv d' → κ.Explains why c (g (f (pending d'))) more pending d') :
    κ.Explains why c (Script.selectLocking locks f >>= g) held pending d := fun d' _ hi =>
  h d' _ (fun _ hk => mem_append_right _ hk) (fun _ hk => mem_append_left _ hk) hi

theorem explains_select_bind {f : D → B} {g : B → Script D K E A}
    (h : ∀ d', κ.rely c held d d' → κ.inv d' →
      κ.Explains why c (g (f (pending d'))) held pending d') :
    κ.Explains why c (Script.select f >>= g) held pending d := h

end Check

section Rule

variable {κ : Contract C D K E A} {conflicts : K → K → Bool} {program : C → Script D K E A}
  {apart : C → C → Prop} {admits : Server C D K E A → Event C → Prop}
  {why : C → E → D → Prop}

/-- Every transaction under way explains its refusals. -/
def AllExplain (κ : Contract C D K E A) (why : C → E → D → Prop) (S : Server C D K E A) : Prop :=
  ∀ i s, S.session i = some s → κ.Explains why s.call s.script s.held s.pending S.committed

theorem AllExplain.set_none {S : Server C D K E A} (h : AllExplain κ why S) {i : Nat}
    {s : Session C D K E A} (hs : S.session i = some s) {d : D} {es : List (Ending C D E A)}
    (hrely : ∀ j t, i ≠ j → S.session j = some t → κ.rely t.call t.held S.committed d)
    (htrans : ∀ c h a b e, κ.rely c h a b → κ.rely c h b e → κ.rely c h a e) :
    AllExplain κ why ⟨d, S.sessions.set i none, es⟩ := by
  intro j t ht
  rw [session_set hs] at ht
  by_cases hij : i = j
  · rw [if_pos hij] at ht
    cases ht
  · rw [if_neg hij] at ht
    exact (h j t ht).stable htrans (hrely j t hij ht)

theorem AllExplain.step (hc : Cooperates κ conflicts program apart admits)
    (hbegins : ∀ S c, admits S (.arrive c) → κ.inv S.committed →
      κ.Explains why c (program c) [] (fun d => d) S.committed)
    {S : Server C D K E A} (hg : Guarded κ conflicts apart S) (h : AllExplain κ why S)
    {e : Event C} (ha : admits S e) : AllExplain κ why (S.step conflicts program e) := by
  have hstill : ∀ j t, S.session j = some t → κ.rely t.call t.held S.committed S.committed :=
    fun _ _ _ => hc.refl _ _ _
  cases e with
  | arrive c =>
    intro i s hs
    rcases session_arrive hs with hs | ⟨-, rfl⟩
    · exact h i s hs
    · exact hbegins S c ha hg.inv
  | abort i =>
    rw [Server.step]
    cases hs : S.session i with
    | none => exact h
    | some s => exact h.set_none hs (fun j t _ => hstill j t) hc.trans
  | turn i =>
    rw [Server.step]
    cases hs : S.session i with
    | none => exact h
    | some s =>
      dsimp only
      unfold Server.turn
      cases hscript : s.script with
      | commit a =>
        have hsound := hg.sound i s hs
        rw [hscript] at hsound
        obtain ⟨-, hens⟩ := hsound S.committed (hc.refl _ _ _) hg.inv (hc.finds S i s ha hs)
        refine h.set_none hs (fun j t hij ht => ?_) hc.trans
        exact hc.respects S i j s t a ha hij hs ht hscript (hg.beside i j s t hij hs ht) hg.inv hens
      | raise e => exact h.set_none hs (fun j t _ => hstill j t) hc.trans
      | statement locks write next =>
        dsimp only
        split
        · intro j t ht
          rw [session_set hs] at ht
          split at ht
          · cases ht
            have hnow := h i s hs
            rw [hscript] at hnow
            exact hnow S.committed (hc.refl _ _ _) hg.inv
          · exact h j t ht
        · exact h

/-- **The rule for refusals.**  In every admitted run, whoever is about to raise does so for
the reason, as the rows are then. -/
theorem Cooperates.explained (hc : Cooperates κ conflicts program apart admits)
    (hbegins : ∀ S c, admits S (.arrive c) → κ.inv S.committed →
      κ.Explains why c (program c) [] (fun d => d) S.committed)
    {d : D} (hd : κ.inv d) {es : List (Event C)}
    (h : Along (Server.step conflicts program) admits (.fresh d) es) {i : Nat}
    {s : Session C D K E A} {e : E} :
    let S := Library.run (Server.step conflicts program) (.fresh d) es
    S.session i = some s → s.script = .raise e → why s.call e S.committed := by
  have hstep : ∀ (S : Server C D K E A) (e : Event C),
      Guarded κ conflicts apart S ∧ AllExplain κ why S → admits S e →
        Guarded κ conflicts apart (S.step conflicts program e) ∧
          AllExplain κ why (S.step conflicts program e) :=
    fun S e hS ha => ⟨hS.1.step hc ha, AllExplain.step hc hbegins hS.1 hS.2 ha⟩
  have hfresh : Guarded κ conflicts apart (.fresh d) ∧ AllExplain κ why (.fresh d) := by
    have hnothing : Along (Server.step conflicts program) admits (.fresh d) [] := trivial
    refine ⟨hc.guarded hd hnothing, ?_⟩
    intro i s hs
    cases hs
  obtain ⟨hg, hall⟩ := h.invariant hstep hfresh
  intro S hs hraise
  have hnow := hall i s hs
  rw [hraise] at hnow
  exact hnow S.committed (hc.refl _ _ _) hg.inv

end Rule

end Contract

end Dealership.Library
