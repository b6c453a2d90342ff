import Mathlib.Data.List.Basic

/-!
# Runs, and what holds along them

A system is a total step function on states; a run is a finite list of inputs
applied one after another.  `Along step C s is` says that the condition `C`
holds of every step of the run from `s`, at the state the step starts from, so
a property can be proved of exactly the runs whose steps are well behaved.

`Trail` is the other recurring shape: a ledger of moves, each from the place
the previous one arrived at.
-/

namespace Dealership.Library

open List

variable {σ ι : Type*} {step : σ → ι → σ} {C : σ → ι → Prop} {I : σ → Prop} {s : σ}

/-- The state reached from `s` by the inputs `is`, in order. -/
def run (step : σ → ι → σ) (s : σ) (is : List ι) : σ := is.foldl step s

@[simp] theorem run_nil (step : σ → ι → σ) (s : σ) : run step s [] = s := rfl

@[simp] theorem run_cons (step : σ → ι → σ) (s : σ) (i : ι) (is : List ι) :
    run step s (i :: is) = run step (step s i) is := rfl

theorem run_append (step : σ → ι → σ) (s : σ) (is js : List ι) :
    run step s (is ++ js) = run step (run step s is) js := foldl_append

/-- The condition `C` holds of every step of the run. -/
def Along (step : σ → ι → σ) (C : σ → ι → Prop) : σ → List ι → Prop
  | _, [] => True
  | s, i :: is => C s i ∧ Along step C (step s i) is

instance instDecidableAlong (step : σ → ι → σ) (C : σ → ι → Prop) [∀ s i, Decidable (C s i)] :
    ∀ (is : List ι) (s : σ), Decidable (Along step C s is)
  | [], _ => .isTrue trivial
  | i :: is, s =>
    have := instDecidableAlong step C is (step s i)
    inferInstanceAs (Decidable (C s i ∧ Along step C (step s i) is))

theorem along_append {is js : List ι} :
    Along step C s (is ++ js) ↔ Along step C s is ∧ Along step C (run step s is) js := by
  induction is generalizing s with
  | nil => exact ⟨fun h => ⟨trivial, h⟩, fun h => h.2⟩
  | cons i is ih =>
    rw [cons_append, Along, Along, ih, run_cons, and_assoc]

theorem Along.always (h : ∀ s i, C s i) (s : σ) (is : List ι) : Along step C s is := by
  induction is generalizing s with
  | nil => trivial
  | cons i is ih => exact ⟨h s i, ih (step s i)⟩

theorem Along.invariant (hstep : ∀ s i, I s → C s i → I (step s i)) {is : List ι}
    (h : Along step C s is) (hs : I s) : I (run step s is) := by
  induction is generalizing s with
  | nil => exact hs
  | cons i is ih => exact ih h.2 (hstep s i hs h.1)

/-- The invariant rule: what holds initially and is kept by every step holds
of every state a run reaches. -/
theorem run_invariant (hstep : ∀ s i, I s → I (step s i)) (hs : I s) (is : List ι) :
    I (run step s is) := by
  induction is generalizing s with
  | nil => exact hs
  | cons i is ih => exact ih (hstep s i hs)

/-- A reflexive and transitive relation that every step from an invariant
state respects relates the ends of every run. -/
theorem run_related {R : σ → σ → Prop} (hrefl : ∀ s, R s s)
    (htrans : ∀ a b c, R a b → R b c → R a c) (hinv : ∀ s i, I s → I (step s i))
    (hstep : ∀ s i, I s → R s (step s i)) (hs : I s) (is : List ι) : R s (run step s is) := by
  induction is generalizing s with
  | nil => exact hrefl s
  | cons i is ih => exact htrans _ _ _ (hstep s i hs) (ih (hinv s i hs))

/-! ## Fallible steps -/

theorem bind_eq_ok {ε α β : Type} {x : Except ε α} {f : α → Except ε β} {b : β} :
    (x >>= f) = .ok b ↔ ∃ a, x = .ok a ∧ f a = .ok b := by
  cases x with
  | error e =>
    constructor
    · intro h
      cases h
    · rintro ⟨a, ha, -⟩
      cases ha
  | ok a =>
    constructor
    · intro h
      exact ⟨a, rfl, h⟩
    · rintro ⟨a', ha, h⟩
      cases ha
      exact h

/-- What every step of a fallible loop keeps, the loop keeps. -/
theorem foldlM_invariant {ε α β : Type} {f : β → α → Except ε β} {I : β → Prop} {as : List α}
    (hstep : ∀ b, ∀ a ∈ as, ∀ b', I b → f b a = .ok b' → I b') {b b' : β} (hb : I b)
    (h : as.foldlM f b = .ok b') : I b' := by
  induction as generalizing b with
  | nil =>
    cases h
    exact hb
  | cons a as ih =>
    rw [foldlM_cons] at h
    obtain ⟨c, hc, h⟩ := bind_eq_ok.mp h
    exact ih (fun b a ha => hstep b a (mem_cons_of_mem _ ha)) (hstep b a mem_cons_self c hb hc) h

/-! ## Trails -/

variable {ε α : Type*}

/-- `Trail src dst a es b`: the moves `es` lead from `a` to `b`, each starting
where the previous one ended. -/
def Trail (src dst : ε → α) : α → List ε → α → Prop
  | a, [], b => a = b
  | a, e :: es, b => src e = a ∧ Trail src dst (dst e) es b

theorem Trail.concat {src dst : ε → α} {a b : α} {es : List ε} (h : Trail src dst a es b)
    {e : ε} (he : src e = b) : Trail src dst a (es ++ [e]) (dst e) := by
  induction es generalizing a with
  | nil => exact ⟨he.trans h.symm, rfl⟩
  | cons d es ih => exact ⟨h.1, ih h.2⟩

end Dealership.Library
