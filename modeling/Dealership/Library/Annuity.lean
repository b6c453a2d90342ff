import Mathlib.Algebra.Field.GeomSum
import Mathlib.Algebra.Order.BigOperators.Ring.Finset
import Mathlib.Algebra.Order.Floor.Ring
import Mathlib.Tactic.FieldSimp
import Mathlib.Tactic.Linarith
import Mathlib.Tactic.Positivity

/-!
# Annuities, and what fixed-point arithmetic makes of them

The instalment that repays one unit over `n` periods at a rate `r` per period, how far it moves
when the rate does, and how far when the power in it is compounded with a loss in every period.
Last, rounding half away from zero: a number that is close to another rounds as it does unless a
tie lies between them.
-/

namespace Dealership.Library

open Finset

section Instalment

variable {K : Type*} [Field K]

/-- What one unit per period comes to after `n` periods. -/
def accumulated (r : K) (n : ℕ) : K := ∑ k ∈ range n, (1 + r) ^ k

/-- The payment per period that repays one unit over `n` periods. -/
def instalment (r : K) (n : ℕ) : K := (1 + r) ^ n / accumulated r n

theorem accumulated_succ (r : K) (n : ℕ) :
    accumulated r (n + 1) = (1 + r) * accumulated r n + 1 := by
  rw [accumulated, geom_sum_succ, accumulated]

theorem accumulated_mul (r : K) (n : ℕ) : accumulated r n * r = (1 + r) ^ n - 1 := by
  have h := geom_sum_mul (1 + r) n
  rwa [add_sub_cancel_left] at h

theorem instalment_eq {r : K} (hr : r ≠ 0) (n : ℕ) :
    instalment r n = r * (1 + r) ^ n / ((1 + r) ^ n - 1) := by
  rw [← accumulated_mul, instalment, mul_comm r, mul_div_mul_right _ _ hr]

variable [LinearOrder K] [IsStrictOrderedRing K] {r s : K} {n : ℕ}

theorem accumulated_pos (hr : 0 ≤ r) (hn : 0 < n) : 0 < accumulated r n := by
  refine sum_pos (fun k _ => pow_pos (by linarith) k) ?_
  exact nonempty_range_iff.mpr hn.ne'

theorem accumulated_mono (hr : 0 ≤ r) (hrs : r ≤ s) : accumulated r n ≤ accumulated s n :=
  sum_le_sum fun k _ => pow_le_pow_left₀ (by linarith) (by linarith) k

theorem instalment_eq_add (hr : 0 ≤ r) (hn : 0 < n) : instalment r n = r + 1 / accumulated r n := by
  have hpos := (accumulated_pos hr hn).ne'
  have hpow : (1 + r) ^ n = accumulated r n * r + 1 := by rw [accumulated_mul, sub_add_cancel]
  rw [instalment, hpow]
  field_simp

theorem accumulated_le (hr : 0 ≤ r) : accumulated r n ≤ n * (1 + r) ^ n := by
  have hterm : ∀ k ∈ range n, (1 + r) ^ k ≤ (1 + r) ^ n := fun k hk =>
    pow_le_pow_right₀ (by linarith) (mem_range.mp hk).le
  calc accumulated r n ≤ ∑ _k ∈ range n, (1 + r) ^ n := sum_le_sum hterm
    _ = n * (1 + r) ^ n := by rw [sum_const, card_range, nsmul_eq_mul]

/-- An instalment repays at least an even share of the unit. -/
theorem one_div_le_instalment (hr : 0 ≤ r) (hn : 0 < n) : 1 / (n : K) ≤ instalment r n := by
  rw [instalment, div_le_div_iff₀ (Nat.cast_pos.mpr hn) (accumulated_pos hr hn), one_mul, mul_comm]
  exact accumulated_le hr

theorem instalment_mono (hr : 0 ≤ r) (hrs : r ≤ s) (hn : 0 < n) :
    instalment r n ≤ instalment s n := by
  rw [instalment, instalment, div_le_div_iff₀ (accumulated_pos hr hn)
    (accumulated_pos (hr.trans hrs) hn), accumulated, accumulated, mul_sum, mul_sum]
  refine sum_le_sum fun k hk => ?_
  obtain ⟨m, rfl⟩ := Nat.exists_eq_add_of_le (mem_range.mp hk).le
  have hpow : (1 + r) ^ m ≤ (1 + s) ^ m := pow_le_pow_left₀ (by linarith) (by linarith) m
  have hboth : 0 ≤ (1 + r) ^ k * (1 + s) ^ k :=
    mul_nonneg (pow_nonneg (by linarith) k) (pow_nonneg (by linarith) k)
  calc (1 + r) ^ (k + m) * (1 + s) ^ k
      = (1 + r) ^ k * (1 + s) ^ k * (1 + r) ^ m := by rw [pow_add]; ring
    _ ≤ (1 + r) ^ k * (1 + s) ^ k * (1 + s) ^ m := mul_le_mul_of_nonneg_left hpow hboth
    _ = (1 + s) ^ (k + m) * (1 + r) ^ k := by rw [pow_add]; ring

/-- **An instalment moves by no more than its rate.** -/
theorem instalment_sub_le (hr : 0 ≤ r) (hrs : r ≤ s) (hn : 0 < n) :
    instalment s n - instalment r n ≤ s - r := by
  rw [instalment_eq_add hr hn, instalment_eq_add (hr.trans hrs) hn]
  have hshare : 1 / accumulated s n ≤ 1 / accumulated r n :=
    one_div_le_one_div_of_le (accumulated_pos hr hn) (accumulated_mono hr hrs)
  linarith

theorem abs_instalment_sub_le (hr : 0 ≤ r) (hs : 0 ≤ s) (hn : 0 < n) :
    |instalment r n - instalment s n| ≤ |r - s| := by
  rcases le_total r s with h | h
  · rw [abs_sub_comm, abs_sub_comm r, abs_of_nonneg (sub_nonneg.mpr (instalment_mono hr h hn)),
      abs_of_nonneg (sub_nonneg.mpr h)]
    exact instalment_sub_le hr h hn
  · rw [abs_of_nonneg (sub_nonneg.mpr (instalment_mono hs h hn)), abs_of_nonneg (sub_nonneg.mpr h)]
    exact instalment_sub_le hs h hn

end Instalment

/-! ## Compounding with a loss -/

section Compounding

variable {K : Type*} [Field K] [LinearOrder K] [IsStrictOrderedRing K] {r ε : K} {g : ℕ → K}

/-- Growth at a rate that loses less than `ε` in every period, but nothing of the interest on
the unit. -/
structure Compounds (r ε : K) (g : ℕ → K) : Prop where
  zero : g 0 = 1
  le : ∀ i, g (i + 1) ≤ g i * (1 + r)
  loss : ∀ i, g i * (1 + r) ≤ g (i + 1) + ε
  interest : ∀ i, g i + r ≤ g (i + 1)

theorem Compounds.le_pow (h : Compounds r ε g) (hr : 0 ≤ r) (n : ℕ) : g n ≤ (1 + r) ^ n := by
  induction n with
  | zero => rw [h.zero, pow_zero]
  | succ n ih =>
    calc g (n + 1) ≤ g n * (1 + r) := h.le n
      _ ≤ (1 + r) ^ n * (1 + r) := mul_le_mul_of_nonneg_right ih (by linarith)
      _ = (1 + r) ^ (n + 1) := (pow_succ _ n).symm

theorem Compounds.pow_sub_le (h : Compounds r ε g) (hr : 0 ≤ r) (n : ℕ) :
    (1 + r) ^ n - g n ≤ ε * accumulated r n := by
  induction n with
  | zero => simp [h.zero, accumulated]
  | succ n ih =>
    have hstep := h.loss n
    have hgrown := mul_le_mul_of_nonneg_right ih (show (0 : K) ≤ 1 + r by linarith)
    rw [accumulated_succ, pow_succ]
    linarith

theorem Compounds.one_add_le (h : Compounds r ε g) (n : ℕ) : 1 + n * r ≤ g n := by
  induction n with
  | zero => simp [h.zero]
  | succ n ih =>
    have hstep := h.interest n
    push_cast
    linarith

/-- **What the loss makes of an instalment.** -/
theorem Compounds.instalment (h : Compounds r ε g) (hr : 0 < r) {n : ℕ} (hn : 0 < n) :
    0 ≤ r * g n / (g n - 1) - instalment r n ∧
      r * g n / (g n - 1) - instalment r n ≤ ε / (n * r) := by
  have hnr : 0 < n * r := mul_pos (Nat.cast_pos.mpr hn) hr
  have hg : n * r ≤ g n - 1 := by linarith [h.one_add_le n]
  have hgpos : 0 < g n - 1 := hnr.trans_le hg
  have hs := accumulated_pos hr.le hn
  have hle := h.le_pow hr.le n
  have hloss := h.pow_sub_le hr.le n
  have hε : 0 ≤ ε := by linarith [h.le 0, h.loss 0]
  have hdiff : r * g n / (g n - 1) - Library.instalment r n =
      ((1 + r) ^ n - g n) / ((g n - 1) * accumulated r n) := by
    have hpow : (1 + r) ^ n = accumulated r n * r + 1 := by rw [accumulated_mul, sub_add_cancel]
    rw [Library.instalment, hpow]
    have hgne := hgpos.ne'
    have hsne := hs.ne'
    field_simp
    ring
  rw [hdiff]
  refine ⟨div_nonneg (by linarith) (mul_pos hgpos hs).le, ?_⟩
  calc ((1 + r) ^ n - g n) / ((g n - 1) * accumulated r n)
      ≤ ε * accumulated r n / ((g n - 1) * accumulated r n) :=
        div_le_div_of_nonneg_right hloss (mul_pos hgpos hs).le
    _ = ε / (g n - 1) := mul_div_mul_right _ _ hs.ne'
    _ ≤ ε / (n * r) := div_le_div_of_nonneg_left hε hnr hg

end Compounding

/-! ## Rounding half away from zero -/

section Rounding

variable {K : Type*} [Field K] [LinearOrder K] [FloorRing K] {x y δ : K}

def halfAway (x : K) : ℤ := if x < 0 then -⌊-x + 1 / 2⌋ else ⌊x + 1 / 2⌋

theorem halfAway_of_nonneg (hx : 0 ≤ x) : halfAway x = ⌊x + 1 / 2⌋ := if_neg hx.not_gt

variable [IsStrictOrderedRing K]

theorem halfAway_nonneg (hx : 0 ≤ x) : 0 ≤ halfAway x := by
  rw [halfAway_of_nonneg hx]
  exact Int.floor_nonneg.mpr (by linarith)

theorem halfAway_mono (hx : 0 ≤ x) (hxy : x ≤ y) : halfAway x ≤ halfAway y := by
  rw [halfAway_of_nonneg hx, halfAway_of_nonneg (hx.trans hxy)]
  exact Int.floor_le_floor (by linarith)

theorem abs_halfAway_sub_le (hx : 0 ≤ x) : |(halfAway x : K) - x| ≤ 1 / 2 := by
  rw [halfAway_of_nonneg hx, abs_le]
  have hle := Int.floor_le (x + 1 / 2)
  have hlt := Int.lt_floor_add_one (x + 1 / 2)
  constructor <;> linarith

/-- **What is close rounds alike**, where no tie is as close. -/
theorem halfAway_congr (hx : 0 ≤ x) (hy : 0 ≤ y) (hδ : |y - x| ≤ δ)
    (hties : ∀ k : ℤ, δ < |x - (k + 1 / 2)|) : halfAway y = halfAway x := by
  rw [halfAway_of_nonneg hx, halfAway_of_nonneg hy, Int.floor_eq_iff]
  have hle := Int.floor_le (x + 1 / 2)
  have hlt := Int.lt_floor_add_one (x + 1 / 2)
  have hbelow := hties (⌊x + 1 / 2⌋ - 1)
  have habove := hties ⌊x + 1 / 2⌋
  push_cast at hbelow
  rw [abs_of_nonneg (by linarith)] at hbelow
  rw [abs_of_neg (by linarith)] at habove
  obtain ⟨hlow, hhigh⟩ := abs_le.mp hδ
  constructor <;> linarith

end Rounding

end Dealership.Library
