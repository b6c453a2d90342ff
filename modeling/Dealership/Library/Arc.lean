import Mathlib.Data.Int.ModEq

/-!
# Arcs of a circle

A point of a circle of `n` points is an integer up to a multiple of `n`.  The
arc from `a` to `b` runs upwards, holds `a` and leaves `b` out; equal ends make
the empty arc.  A point is on it exactly when the way from the point up to `b`
is no longer than the arc and not nothing.
-/

namespace Dealership.Library

/-- The steps upwards from `x` to the next point that is `b` on the circle. -/
def ahead (n b x : Int) : Int := (b - x) % n

/-- On the half-open arc from `a` up to `b`. -/
def OnArc (n a b x : Int) : Prop := (x - a) % n < (b - a) % n

instance (n a b x : Int) : Decidable (OnArc n a b x) := inferInstanceAs (Decidable (_ < _))

theorem onArc_iff_ahead {n : Int} (hn : 0 < n) (a b x : Int) :
    OnArc n a b x ↔ 0 < ahead n b x ∧ ahead n b x ≤ ahead n b a := by
  unfold OnArc ahead
  have hx := Int.emod_nonneg (x - a) hn.ne'
  have hx' := Int.emod_lt_of_pos (x - a) hn
  have hl := Int.emod_nonneg (b - a) hn.ne'
  have hl' := Int.emod_lt_of_pos (b - a) hn
  have split : (b - x) % n = ((b - a) % n - (x - a) % n) % n := by
    rw [← Int.sub_emod, sub_sub_sub_cancel_right]
  generalize (x - a) % n = p at *
  generalize (b - a) % n = l at *
  rw [split]
  rcases lt_trichotomy p l with hlt | rfl | hgt
  · rw [Int.emod_eq_of_lt (by omega) (by omega)]
    omega
  · rw [Int.sub_self, Int.zero_emod]
    omega
  · -- the point is past the end: what lies ahead is a whole turn less
    rw [← Int.add_emod_right, Int.emod_eq_of_lt (by omega) (by omega)]
    omega

theorem onArc_iff_range {n a b x : Int} (ha : 0 ≤ a) (hab : a ≤ b) (hb : b < n) (hx : 0 ≤ x)
    (hxn : x < n) : OnArc n a b x ↔ a ≤ x ∧ x < b := by
  unfold OnArc
  rw [Int.emod_eq_of_lt (a := b - a) (by omega) (by omega)]
  by_cases h : a ≤ x
  · rw [Int.emod_eq_of_lt (by omega) (by omega)]
    omega
  · rw [← Int.add_emod_right, Int.emod_eq_of_lt (by omega) (by omega)]
    omega

theorem onArc_iff_union {n a b x : Int} (hb : 0 ≤ b) (hba : b < a) (ha : a < n) (hx : 0 ≤ x)
    (hxn : x < n) : OnArc n a b x ↔ a ≤ x ∨ x < b := by
  unfold OnArc
  rw [← Int.add_emod_right (b - a), Int.emod_eq_of_lt (a := b - a + n) (by omega) (by omega)]
  by_cases h : a ≤ x
  · rw [Int.emod_eq_of_lt (by omega) (by omega)]
    omega
  · rw [← Int.add_emod_right, Int.emod_eq_of_lt (by omega) (by omega)]
    omega

end Dealership.Library
