import Mathlib.Data.List.Induction

/-!
# What has happened since

`since p l` is what follows the last element of `l` that satisfies `p`, and all of `l` when
there is none: in a record kept in order, what has happened since the last time.
-/

namespace Dealership.Library

open List

variable {α : Type*} {p q : α → Bool} {l : List α} {x : α}

/-- The elements after the last that satisfies `p`. -/
def since (p : α → Bool) (l : List α) : List α :=
  (l.reverse.takeWhile fun x => !p x).reverse

@[simp] theorem since_nil (p : α → Bool) : since p [] = [] := rfl

theorem since_concat_of_pos (h : p x = true) (l : List α) : since p (l ++ [x]) = [] := by
  simp [since, h]

theorem since_concat_of_neg (h : p x = false) (l : List α) :
    since p (l ++ [x]) = since p l ++ [x] := by
  simp [since, h]

theorem exists_since_concat {Q : α → Prop} (h : ∃ y ∈ since p l, Q y) (hx : p x = false) :
    ∃ y ∈ since p (l ++ [x]), Q y := by
  obtain ⟨y, hy, hq⟩ := h
  rw [since_concat_of_neg hx]
  exact ⟨y, mem_append_left _ hy, hq⟩

theorem exists_since_concat_last {Q : α → Prop} (hx : p x = false) (hq : Q x) :
    ∃ y ∈ since p (l ++ [x]), Q y := by
  rw [since_concat_of_neg hx]
  exact ⟨x, mem_append_right _ (mem_singleton.mpr rfl), hq⟩

/-- If nothing since then is of a kind, what has happened since then has also happened since
the last of that kind. -/
theorem since_subset (h : ∀ y ∈ since q l, p y = false) : since q l ⊆ since p l := by
  induction l using List.reverseRecOn with
  | nil => exact List.Subset.refl _
  | append_singleton l x ih =>
    cases hq : q x with
    | true =>
      rw [since_concat_of_pos hq]
      exact nil_subset _
    | false =>
      rw [since_concat_of_neg hq] at h ⊢
      have hx : p x = false := h x (mem_append_right _ (mem_singleton.mpr rfl))
      rw [since_concat_of_neg hx]
      have hsub := ih fun y hy => h y (mem_append_left _ hy)
      intro y hy
      rcases mem_append.mp hy with hy | hy
      · exact mem_append_left _ (hsub hy)
      · exact mem_append_right _ hy

end Dealership.Library
