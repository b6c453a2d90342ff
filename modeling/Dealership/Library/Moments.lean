import Dealership.Library.Run

/-!
# Reading several times while others commit

A reader asks `n` questions, one statement each, and every statement sees what is committed when
it runs.  What the statements saw need not ever have stood together: the reader's picture is that
of one moment when there is a statement, the moment, such that nothing committed before it changes
an answer already given and nothing committed after it changes an answer still to be given.

A question is known here only by `same i`, the pairs of states on which it is answered alike.
-/

namespace Dealership.Library

open List

variable {δ : Type*}

/-- What is committed, what has been committed so far, and what each statement saw. -/
structure Reading (δ : Type*) where
  committed : δ
  history : List δ
  seen : List δ

/-- What happens next: somebody commits, or the reader runs its next statement. -/
inductive ReadTurn (δ : Type*) where
  | commit (d : δ)
  | statement

def Reading.start (d : δ) : Reading δ := ⟨d, [d], []⟩

/-- One turn of a reader of `n` statements. -/
def Reading.step (n : Nat) (r : Reading δ) : ReadTurn δ → Reading δ
  | .commit d => { r with committed := d, history := r.history ++ [d] }
  | .statement =>
    if r.seen.length < n then { r with seen := r.seen ++ [r.committed] } else r

/-- A turn that leaves alone the answers the moment shares with the rest. -/
def Undisturbed (same : Nat → δ → δ → Prop) (n moment : Nat) (r : Reading δ) :
    ReadTurn δ → Prop
  | .commit d =>
    if r.seen.length ≤ moment then ∀ i < r.seen.length, same i r.committed d
    else ∀ i < n, r.seen.length ≤ i → same i r.committed d
  | .statement => True

instance (same : Nat → δ → δ → Prop) [∀ i d e, Decidable (same i d e)] (n moment : Nat)
    (r : Reading δ) : ∀ t, Decidable (Undisturbed same n moment r t)
  | .commit d => inferInstanceAs (Decidable (if r.seen.length ≤ moment then
      ∀ i < r.seen.length, same i r.committed d
      else ∀ i < n, r.seen.length ≤ i → same i r.committed d))
  | .statement => .isTrue trivial

/-- Up to the moment, what was seen answers as what is committed; from then on there is a committed
state that answers as everything seen, and as everything yet to be seen. -/
structure Pictured (same : Nat → δ → δ → Prop) (n moment : Nat) (r : Reading δ) : Prop where
  current : r.committed ∈ r.history
  before : r.seen.length ≤ moment → ∀ i d, r.seen[i]? = some d → same i d r.committed
  after : moment < r.seen.length → ∃ m ∈ r.history,
    (∀ i d, r.seen[i]? = some d → same i d m) ∧ ∀ i < n, r.seen.length ≤ i → same i m r.committed

variable {same : Nat → δ → δ → Prop} {n moment : Nat}

theorem Pictured.start (d : δ) : Pictured same n moment (Reading.start d) where
  current := mem_singleton_self d
  before := fun _ i e he => by simp [Reading.start] at he
  after := fun h => absurd h (Nat.not_lt_zero _)

theorem Pictured.commit (trans : ∀ i d e f, same i d e → same i e f → same i d f)
    {r : Reading δ} (h : Pictured same n moment r) {d : δ}
    (hd : Undisturbed same n moment r (.commit d)) :
    Pictured same n moment (r.step n (.commit d)) := by
  refine ⟨mem_append_right _ (mem_singleton_self d), ?_, ?_⟩
  · intro (hm : r.seen.length ≤ moment) i e he
    rw [Undisturbed, if_pos hm] at hd
    have hi : i < r.seen.length := (List.getElem?_eq_some_iff.mp he).1
    exact trans i e r.committed d (h.before hm i e he) (hd i hi)
  · intro (hm : moment < r.seen.length)
    rw [Undisturbed, if_neg (Nat.not_le.mpr hm)] at hd
    obtain ⟨m, hmem, seen, ahead⟩ := h.after hm
    refine ⟨m, mem_append_left _ hmem, seen, ?_⟩
    intro i hi hl
    exact trans i m r.committed d (ahead i hi hl) (hd i hi hl)

theorem Pictured.statement (refl : ∀ i d, same i d d)
    (symm : ∀ i d e, same i d e → same i e d) {r : Reading δ} (h : Pictured same n moment r) :
    Pictured same n moment (r.step n .statement) := by
  rw [Reading.step]
  split
  case isFalse => exact h
  case isTrue hn =>
    have seen : ∀ i e, (r.seen ++ [r.committed])[i]? = some e →
        r.seen[i]? = some e ∨ i = r.seen.length ∧ e = r.committed := by
      intro i e he
      rcases Nat.lt_or_ge i r.seen.length with hi | hi
      · rw [getElem?_append_left hi] at he
        exact Or.inl he
      · rw [getElem?_append_right hi, getElem?_singleton] at he
        split at he
        · cases he
          exact Or.inr ⟨by omega, rfl⟩
        · cases he
    refine ⟨h.current, ?_, ?_⟩
    · intro hm i e he
      simp only [length_append, length_singleton] at hm
      rcases seen i e he with he | ⟨-, rfl⟩
      · exact h.before (by omega) i e he
      · exact refl i r.committed
    · intro hm
      simp only [length_append, length_singleton] at hm
      rcases Nat.lt_or_ge moment r.seen.length with hlt | hge
      · obtain ⟨m, hmem, past, ahead⟩ := h.after hlt
        refine ⟨m, hmem, ?_, ?_⟩
        · intro i e he
          rcases seen i e he with he | ⟨rfl, rfl⟩
          · exact past i e he
          · exact symm _ _ _ (ahead r.seen.length hn (Nat.le_refl _))
        · intro i hi hl
          simp only [length_append, length_singleton] at hl
          exact ahead i hi (by omega)
      · refine ⟨r.committed, h.current, ?_, fun i _ _ => refl i r.committed⟩
        intro i e he
        rcases seen i e he with he | ⟨-, rfl⟩
        · exact h.before hge i e he
        · exact refl i r.committed

/-- A reader nobody disturbs has read one committed state, as far as its questions can tell. -/
theorem read_at_one_moment (refl : ∀ i d, same i d d)
    (symm : ∀ i d e, same i d e → same i e d)
    (trans : ∀ i d e f, same i d e → same i e f → same i d f) (hm : moment < n) {d : δ}
    {ts : List (ReadTurn δ)}
    (quiet : Along (Reading.step n) (Undisturbed same n moment) (Reading.start d) ts)
    (done : n ≤ (run (Reading.step n) (Reading.start d) ts).seen.length) :
    ∃ m ∈ (run (Reading.step n) (Reading.start d) ts).history,
      ∀ i e, (run (Reading.step n) (Reading.start d) ts).seen[i]? = some e → same i e m := by
  have h : Pictured same n moment (run (Reading.step n) (Reading.start d) ts) := by
    refine quiet.invariant ?_ (Pictured.start d)
    intro r t hr ht
    cases t with
    | commit e => exact hr.commit trans ht
    | statement => exact hr.statement refl symm
  obtain ⟨m, hmem, past, -⟩ := h.after (Nat.lt_of_lt_of_le hm done)
  exact ⟨m, hmem, past⟩

end Dealership.Library
