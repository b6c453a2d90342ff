import Dealership.Library.ReadCommitted

/-!
# A transaction on a part of the rows

A script written for a few tables also runs where there are more.  A `Lens` says
which part of the rows the few tables are; `Script.zoom` is the script on the whole,
its locks and its errors named as the whole names them.

What a script is known to do on its part it does on the whole: alone (`run_zoom`), in
what it may write (`Writes.zoom`), and side by side with others (`Sound.zoom`), once
what may happen to the whole is known to be allowed on the part.
-/

namespace Dealership.Library

/-- A part of `D`, read and replaced. -/
structure Lens (D P : Type) where
  get : D → P
  set : P → D → D
  get_set : ∀ p d, get (set p d) = p
  set_get : ∀ d, set (get d) d = d
  set_set : ∀ p q d, set p (set q d) = set p d

namespace Lens

variable {D P : Type}

/-- What a function does to the part, done to the whole. -/
def modify (ℓ : Lens D P) (f : P → P) (d : D) : D := ℓ.set (f (ℓ.get d)) d

@[simp] theorem get_modify (ℓ : Lens D P) (f : P → P) (d : D) :
    ℓ.get (ℓ.modify f d) = f (ℓ.get d) := ℓ.get_set _ _

@[simp] theorem modify_id (ℓ : Lens D P) : (ℓ.modify fun p => p) = fun d => d :=
  funext fun d => ℓ.set_get d

/-- One change of the part after another is one change of the part. -/
theorem modify_modify (ℓ : Lens D P) (f g : P → P) (d : D) :
    ℓ.modify f (ℓ.modify g d) = ℓ.modify (fun p => f (g p)) d := by
  rw [modify, get_modify, modify, ℓ.set_set, modify]

end Lens

namespace Script

variable {D P K J E F A B : Type}

/-- A script on a part of the rows, on the whole. -/
def zoom (ℓ : Lens D P) (lock : J → K) (error : F → E) : Script P J F A → Script D K E A
  | commit a => commit a
  | raise e => raise (error e)
  | statement locks write next =>
    statement (fun d => (locks (ℓ.get d)).map lock) (fun v => ℓ.modify (write (ℓ.get v)))
      fun v => (next (ℓ.get v)).zoom ℓ lock error

variable {ℓ : Lens D P} {lock : J → K} {error : F → E}

theorem writes_any (s : Script D K E A) : s.Writes fun _ _ => True := by
  induction s with
  | commit a => trivial
  | raise e => trivial
  | statement locks write next ih => exact ⟨fun _ _ => trivial, ih⟩

theorem Writes.zoom {R : P → P → Prop} {s : Script P J F A} (hs : s.Writes R) :
    (s.zoom ℓ lock error).Writes fun d d' => R (ℓ.get d) (ℓ.get d') ∧ d' = ℓ.set (ℓ.get d') d := by
  induction s with
  | commit a => trivial
  | raise e => trivial
  | statement locks write next ih =>
    refine ⟨fun v d => ?_, fun v => ih (ℓ.get v) (hs.2 (ℓ.get v))⟩
    dsimp only
    rw [ℓ.get_modify]
    exact ⟨hs.1 _ _, rfl⟩

end Script

namespace Contract

variable {C C' D P K J E F A B : Type} {κ : Contract C D K E A} {μ : Contract C' P J F B}
  {c : C} {m : C'} {ℓ : Lens D P} {lock : J → K} {error : F → E} {g : B → A}

/-- A script that keeps a contract on its part keeps one on the whole, when what the
whole may find there the part may find, and what the part ensures is enough. -/
theorem Sound.zoom
    (hinv : ∀ d, κ.inv d → μ.inv (ℓ.get d))
    (hrely : ∀ held d d', κ.rely c (held.map lock) d d' → μ.rely m held (ℓ.get d) (ℓ.get d'))
    (hfinds : ∀ held d, κ.finds c (held.map lock) d → μ.finds m held (ℓ.get d))
    (hraise : ∀ e, μ.mayRaise m e → κ.mayRaise c (error e))
    (hcommit : ∀ held b f d, κ.inv d → μ.inv (f (ℓ.get d)) →
      μ.ensures m held b (ℓ.get d) (f (ℓ.get d)) →
        κ.inv (ℓ.modify f d) ∧ κ.ensures c (held.map lock) (g b) d (ℓ.modify f d))
    {s : Script P J F B} {held : List J} {pending : P → P} {d : D}
    (h : μ.Sound m s held pending (ℓ.get d)) :
    κ.Sound c (s.zoom ℓ lock error >>= fun b => pure (g b)) (held.map lock) (ℓ.modify pending) d := by
  change κ.Sound c ((s.zoom ℓ lock error).bind fun b => .commit (g b)) _ _ d
  induction s generalizing held pending d with
  | commit b =>
    intro d' hr hi hf
    obtain ⟨hkeeps, hens⟩ := h (ℓ.get d') (hrely _ _ _ hr) (hinv _ hi) (hfinds _ _ hf)
    exact hcommit _ _ _ _ hi hkeeps hens
  | raise e => exact hraise e h
  | statement locks write next ih =>
    intro d' hr hi hf
    have hnext := ih _ (h (ℓ.get d') (hrely _ _ _ hr) (hinv _ hi) (hfinds _ _ hf))
    have hpending : (fun x => ℓ.modify (write (pending (ℓ.get d'))) (ℓ.modify pending x)) =
        ℓ.modify fun x => write (pending (ℓ.get d')) (pending x) :=
      funext fun x => ℓ.modify_modify _ _ x
    dsimp only
    rw [ℓ.get_modify, hpending]
    rwa [List.map_append] at hnext

end Contract

end Dealership.Library
