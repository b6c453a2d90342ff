import Dealership.Desking.Money
import Dealership.Library.Annuity
import Mathlib.Data.Rat.Floor
import Mathlib.Tactic.NormNum

/-!
# The monthly payment and the annuity formula

The payment is worked out at a fixed scale: the monthly rate is rounded to it, and every
multiplication of the power truncated.  So it is not the annuity formula rounded once, but a
number that is as close to the formula as the scale allows, rounded once; where the formula
comes closer than that to half a cent the two may round apart.
-/

namespace Dealership.Desking

open Library

/-! ## Rounding -/

/-- Integer division rounded half away from zero is the rational quotient rounded so. -/
theorem roundHalfAway_eq {a b : Int} (ha : 0 ≤ a) (hb : 0 < b) :
    roundHalfAway a b = halfAway ((a : ℚ) / b) := by
  have hb' : (0 : ℚ) < b := Int.cast_pos.mpr hb
  have hquotient : (0 : ℚ) ≤ a / b := div_nonneg (Int.cast_nonneg ha) hb'.le
  have hsame : (a : ℚ) / b + 1 / 2 = ((a * 2 + b : Int) : ℚ) / ((b * 2).toNat : ℕ) := by
    have hcast : (((b * 2).toNat : ℕ) : ℚ) = b * 2 := by
      rw [← Int.cast_natCast, Int.toNat_of_nonneg (by omega)]
      push_cast
      rfl
    rw [hcast]
    push_cast
    field_simp
  rw [halfAway_of_nonneg hquotient, hsame, Rat.floor_intCast_div_natCast,
    Int.toNat_of_nonneg (by omega), roundHalfAway]
  simp only [if_neg (show ¬ a < 0 by omega)]
  exact Int.tdiv_eq_ediv_of_nonneg (by omega)

/-! ## The rate and the power -/

def monthlyRate (aprPpm : Int) : Int := roundHalfAway (aprPpm * PAYMENT_SCALE) (PPM * 12)

def annuity (amountFinancedCents termMonths aprPpm : Int) : ℚ :=
  let r : ℚ := aprPpm / 12000000
  let n := termMonths.toNat
  amountFinancedCents * r * (1 + r) ^ n / ((1 + r) ^ n - 1)

section Payment

variable {P n a : Int}

theorem abs_monthlyRate_sub_le (ha : 0 ≤ a) :
    |((monthlyRate a : ℚ) / 1000000000000) - a / 12000000| ≤ 1 / 2000000000000 := by
  have hround := roundHalfAway_eq (a := a * PAYMENT_SCALE) (b := PPM * 12)
    (by unfold PAYMENT_SCALE; omega) (by decide)
  have hnear := abs_halfAway_sub_le (x := ((a * PAYMENT_SCALE : Int) : ℚ) / ((PPM * 12 : Int) : ℚ))
    (by unfold PAYMENT_SCALE PPM; push_cast; positivity)
  rw [← hround] at hnear
  have hscaled : ((a * PAYMENT_SCALE : Int) : ℚ) / ((PPM * 12 : Int) : ℚ) =
      a / 12000000 * 1000000000000 := by
    unfold PAYMENT_SCALE PPM
    push_cast
    ring
  rw [hscaled] at hnear
  unfold monthlyRate
  obtain ⟨hlow, hhigh⟩ := abs_le.mp hnear
  rw [abs_le]
  constructor <;> linarith

theorem le_monthlyRate (ha : 0 < a) : 83333 * a ≤ monthlyRate a := by
  unfold monthlyRate roundHalfAway PAYMENT_SCALE PPM
  simp only [if_neg (show ¬ a * 1000000000000 < 0 by omega)]
  rw [Int.tdiv_eq_ediv_of_nonneg (by omega)]
  omega

/-- The power is at the scale from the start, and is multiplied out by floor division. -/
theorem scale_le_growth {r : Int} (hr : 0 ≤ r) (i : Nat) :
    PAYMENT_SCALE ≤ growth (PAYMENT_SCALE + r) i ∧
      growth (PAYMENT_SCALE + r) (i + 1) =
        growth (PAYMENT_SCALE + r) i * (PAYMENT_SCALE + r) / PAYMENT_SCALE := by
  have hstep : ∀ j, PAYMENT_SCALE ≤ growth (PAYMENT_SCALE + r) j →
      growth (PAYMENT_SCALE + r) (j + 1) =
        growth (PAYMENT_SCALE + r) j * (PAYMENT_SCALE + r) / PAYMENT_SCALE := by
    intro j hj
    refine Int.tdiv_eq_ediv_of_nonneg (Int.mul_nonneg ?_ ?_)
    · exact le_trans (by decide) hj
    · exact Int.add_nonneg (by decide) hr
  have hall : PAYMENT_SCALE ≤ growth (PAYMENT_SCALE + r) i := by
    induction i with
    | zero => exact le_refl _
    | succ i ih =>
      rw [hstep i ih]
      refine le_trans ih (Int.le_ediv_of_mul_le (by decide) ?_)
      refine Int.mul_le_mul_of_nonneg_left (by omega) (le_trans (by decide) ih)
  exact ⟨hall, hstep i hall⟩

/-- The power as the code multiplies it out loses less than the scale in every step. -/
theorem growth_compounds {r : Int} (hr : 0 ≤ r) :
    Compounds ((r : ℚ) / 1000000000000) (1 / 1000000000000)
      fun i => (growth (PAYMENT_SCALE + r) i : ℚ) / 1000000000000 := by
  have hscale : ((PAYMENT_SCALE : Int) : ℚ) = 1000000000000 := by norm_num [PAYMENT_SCALE]
  have hr' : (0 : ℚ) ≤ r := Int.cast_nonneg hr
  have hle : ∀ i, ((growth (PAYMENT_SCALE + r) (i + 1) : Int) : ℚ) * 1000000000000 ≤
      growth (PAYMENT_SCALE + r) i * (1000000000000 + r) := by
    intro i
    rw [(scale_le_growth hr i).2, ← hscale]
    exact_mod_cast Int.ediv_mul_le _ (by decide)
  have hlt : ∀ i, ((growth (PAYMENT_SCALE + r) i : Int) : ℚ) * (1000000000000 + r) ≤
      (growth (PAYMENT_SCALE + r) (i + 1) + 1) * 1000000000000 := by
    intro i
    rw [(scale_le_growth hr i).2, ← hscale]
    exact_mod_cast (Int.lt_ediv_add_one_mul_self _ (by decide)).le
  have hinterest : ∀ i, ((growth (PAYMENT_SCALE + r) i : Int) : ℚ) + r ≤
      growth (PAYMENT_SCALE + r) (i + 1) := by
    intro i
    obtain ⟨hG, hstep⟩ := scale_le_growth hr i
    rw [hstep]
    have hint : growth (PAYMENT_SCALE + r) i + r ≤
        growth (PAYMENT_SCALE + r) i * (PAYMENT_SCALE + r) / PAYMENT_SCALE := by
      refine Int.le_ediv_of_mul_le (by decide) ?_
      have hmul := Int.mul_le_mul_of_nonneg_right hG hr
      rw [Int.add_mul, Int.mul_add, Int.mul_comm r]
      omega
    exact_mod_cast hint
  constructor
  · show ((growth (PAYMENT_SCALE + r) 0 : Int) : ℚ) / 1000000000000 = 1
    norm_num [growth, PAYMENT_SCALE]
  · intro i
    have h := hle i
    linarith
  · intro i
    have h := hlt i
    linarith
  · intro i
    have h := hinterest i
    linarith

/-- What the code rounds, before it rounds it. -/
def fixedPoint (amountFinancedCents termMonths aprPpm : Int) : ℚ :=
  let r := monthlyRate aprPpm
  let g := growth (PAYMENT_SCALE + r) termMonths.toNat
  ((amountFinancedCents * r * g : Int) : ℚ) / ((g - PAYMENT_SCALE) * PAYMENT_SCALE : Int)

/-- How far it may be from the formula. -/
def slack (amountFinancedCents termMonths aprPpm : Int) : ℚ :=
  amountFinancedCents / (83333 * termMonths * aprPpm) + amountFinancedCents / 2000000000000

theorem scale_lt_growth (hn : 1 ≤ n) (ha : 0 < a) :
    PAYMENT_SCALE < growth (PAYMENT_SCALE + monthlyRate a) n.toNat := by
  have hrate := le_monthlyRate ha
  have hgrown := (growth_compounds (r := monthlyRate a) (by omega)).one_add_le n.toNat
  have hpos : (0 : ℚ) < n.toNat * ((monthlyRate a : ℚ) / 1000000000000) := by
    have hcount : 0 < n.toNat := by omega
    have hrate' : (0 : ℚ) < monthlyRate a := Int.cast_pos.mpr (by omega)
    positivity
  have hone : (1 : ℚ) < growth (PAYMENT_SCALE + monthlyRate a) n.toNat / 1000000000000 := by
    linarith
  rw [lt_div_iff₀ (by norm_num), one_mul] at hone
  unfold PAYMENT_SCALE at hone ⊢
  exact_mod_cast hone

theorem one_lt_growth (hn : 1 ≤ n) (ha : 0 < a) :
    (1 : ℚ) < growth (PAYMENT_SCALE + monthlyRate a) n.toNat / 1000000000000 := by
  have h := scale_lt_growth hn ha
  rw [lt_div_iff₀ (by norm_num), one_mul]
  unfold PAYMENT_SCALE at h ⊢
  exact_mod_cast h

theorem fixedPoint_eq (hn : 1 ≤ n) (ha : 0 < a) :
    fixedPoint P n a = P * ((monthlyRate a : ℚ) / 1000000000000 *
      (growth (PAYMENT_SCALE + monthlyRate a) n.toNat / 1000000000000) /
        (growth (PAYMENT_SCALE + monthlyRate a) n.toNat / 1000000000000 - 1)) := by
  have hgrown := one_lt_growth hn ha
  set ρ : ℚ := (monthlyRate a : ℚ) / 1000000000000 with hρ
  set γ : ℚ := (growth (PAYMENT_SCALE + monthlyRate a) n.toNat : ℚ) / 1000000000000 with hγ
  have hne : γ - 1 ≠ 0 := by linarith
  have hG : (growth (PAYMENT_SCALE + monthlyRate a) n.toNat : ℚ) = γ * 1000000000000 := by
    rw [hγ]
    ring
  have hR : (monthlyRate a : ℚ) = ρ * 1000000000000 := by
    rw [hρ]
    ring
  have hS : ((PAYMENT_SCALE : Int) : ℚ) = 1000000000000 := by norm_num [PAYMENT_SCALE]
  unfold fixedPoint
  push_cast
  rw [hG, hR, hS]
  have hne' : γ * 1000000000000 - 1000000000000 ≠ 0 := by linarith
  field_simp

theorem monthlyPayment_eq (hP : 0 < P) (hn : 1 ≤ n ∧ n ≤ 120) (ha : 0 < a) :
    monthlyPayment P n a = .ok (halfAway (fixedPoint P n a)) ∧ 0 ≤ fixedPoint P n a := by
  have hrate := le_monthlyRate ha
  have hgrown := scale_lt_growth hn.1 ha
  have hg : 0 ≤ growth (PAYMENT_SCALE + monthlyRate a) n.toNat := le_trans (by decide) hgrown.le
  have hnumerator : 0 ≤ P * monthlyRate a * growth (PAYMENT_SCALE + monthlyRate a) n.toNat :=
    Int.mul_nonneg (Int.mul_nonneg (by omega) (by omega)) hg
  have hdenominator : 0 < (growth (PAYMENT_SCALE + monthlyRate a) n.toNat - PAYMENT_SCALE) *
      PAYMENT_SCALE := Int.mul_pos (by omega) (by decide)
  constructor
  · have hround : roundDiv (a * PAYMENT_SCALE) (PPM * 12) = .ok (monthlyRate a) :=
      roundDiv_of_pos _ (by decide)
    rw [monthlyPayment, if_neg (by omega), if_neg (by omega), if_neg (by omega),
      if_neg (by omega), hround]
    show (if monthlyRate a = 0 then _ else _) = _
    rw [if_neg (by omega), if_neg (by omega), roundDiv_of_pos _ hdenominator,
      roundHalfAway_eq hnumerator hdenominator]
    rfl
  · exact div_nonneg (Int.cast_nonneg hnumerator) (Int.cast_nonneg hdenominator.le)

/-- **The fixed-point figure is close to the annuity formula.** -/
theorem abs_fixedPoint_sub_le (hP : 0 < P) (hn : 1 ≤ n) (ha : 0 < a) :
    |fixedPoint P n a - annuity P n a| ≤ slack P n a := by
  have hrate := le_monthlyRate ha
  have hrate' : (0 : ℚ) < (monthlyRate a : ℚ) / 1000000000000 :=
    div_pos (Int.cast_pos.mpr (by omega)) (by norm_num)
  have hcount : 0 < n.toNat := by omega
  have hP' : (0 : ℚ) < P := Int.cast_pos.mpr hP
  have ha' : (0 : ℚ) < a / 12000000 := div_pos (Int.cast_pos.mpr ha) (by norm_num)
  have hfixed := fixedPoint_eq (P := P) hn ha
  set ρ : ℚ := (monthlyRate a : ℚ) / 1000000000000 with hρ
  set γ : ℚ := (growth (PAYMENT_SCALE + monthlyRate a) n.toNat : ℚ) / 1000000000000 with hγ
  have hexact : annuity P n a = P * instalment ((a : ℚ) / 12000000) n.toNat := by
    rw [instalment_eq ha'.ne']
    unfold annuity
    ring
  obtain ⟨hlow, hhigh⟩ := (growth_compounds (r := monthlyRate a) (by omega)).instalment hrate' hcount
  have hmoved := abs_instalment_sub_le hrate'.le ha'.le hcount
  have hrounded := abs_monthlyRate_sub_le ha.le
  have hloss : 1 / 1000000000000 / ((n.toNat : ℚ) * ρ) ≤ 1 / (83333 * n * a) := by
    have hn' : ((n.toNat : ℕ) : ℚ) = n := by
      rw [← Int.cast_natCast, Int.toNat_of_nonneg (by omega)]
    have hpos : (0 : ℚ) < 83333 * n * a :=
      mul_pos (mul_pos (by norm_num) (Int.cast_pos.mpr (by omega))) (Int.cast_pos.mpr ha)
    have hle : (83333 : ℚ) * n * a ≤ n * monthlyRate a := by
      have h := Int.mul_le_mul_of_nonneg_left hrate (show 0 ≤ n by omega)
      have hcast : ((n * (83333 * a) : Int) : ℚ) ≤ (n * monthlyRate a : Int) := Int.cast_le.mpr h
      push_cast at hcast
      linarith
    calc 1 / 1000000000000 / ((n.toNat : ℚ) * ρ)
        = 1 / (n * monthlyRate a) := by rw [hn', hρ]; field_simp
      _ ≤ 1 / (83333 * n * a) := one_div_le_one_div_of_le hpos hle
  rw [hfixed, hexact, ← mul_sub, abs_mul, abs_of_pos hP', slack]
  obtain ⟨hlow', hhigh'⟩ := abs_le.mp (hmoved.trans hrounded)
  have hdistance : |ρ * γ / (γ - 1) - instalment ((a : ℚ) / 12000000) n.toNat| ≤
      1 / (83333 * n * a) + 1 / 2000000000000 := by
    rw [abs_le]
    constructor <;> linarith
  calc (P : ℚ) * |ρ * γ / (γ - 1) - instalment ((a : ℚ) / 12000000) n.toNat|
      ≤ P * (1 / (83333 * n * a) + 1 / 2000000000000) := mul_le_mul_of_nonneg_left hdistance hP'.le
    _ = P / (83333 * n * a) + P / 2000000000000 := by ring

theorem annuity_nonneg (hP : 0 < P) (ha : 0 < a) : 0 ≤ annuity P n a := by
  have hP' : (0 : ℚ) < P := Int.cast_pos.mpr hP
  have ha' : (0 : ℚ) < a / 12000000 := div_pos (Int.cast_pos.mpr ha) (by norm_num)
  have hpow : (1 : ℚ) ≤ (1 + (a : ℚ) / 12000000) ^ n.toNat := one_le_pow₀ (by linarith)
  unfold annuity
  exact div_nonneg (by positivity) (by linarith)

/-- **The monthly payment is the annuity, as far as the scale goes.**  It is within half a cent
and the slack of the formula, and it is the formula rounded half away from zero wherever that is
not within the slack of half a cent. -/
theorem payment_near_annuity (hP : 0 < P) (hn : 1 ≤ n ∧ n ≤ 120) (ha : 0 < a) :
    ∃ payment, monthlyPayment P n a = .ok payment ∧
      |(payment : ℚ) - annuity P n a| ≤ 1 / 2 + slack P n a ∧
        ((∀ k : ℤ, slack P n a < |annuity P n a - (k + 1 / 2)|) →
          payment = halfAway (annuity P n a)) := by
  obtain ⟨hpayment, hnonneg⟩ := monthlyPayment_eq hP hn ha
  have hclose := abs_fixedPoint_sub_le hP hn.1 ha
  refine ⟨_, hpayment, ?_, fun hties => ?_⟩
  · have hround := abs_halfAway_sub_le hnonneg
    calc |(halfAway (fixedPoint P n a) : ℚ) - annuity P n a|
        ≤ |(halfAway (fixedPoint P n a) : ℚ) - fixedPoint P n a| +
            |fixedPoint P n a - annuity P n a| := abs_sub_le _ _ _
      _ ≤ 1 / 2 + slack P n a := add_le_add hround hclose
  · exact halfAway_congr (annuity_nonneg hP ha) hnonneg hclose hties

/-! ## The payment never undercharges -/

def annuityAt (amountFinancedCents termMonths : Int) (r : ℚ) : ℚ :=
  let n := termMonths.toNat
  amountFinancedCents * r * (1 + r) ^ n / ((1 + r) ^ n - 1)

theorem annuityAt_eq {r : ℚ} (hr : 0 < r) : annuityAt P n r = P * instalment r n.toNat := by
  rw [instalment_eq hr.ne']
  unfold annuityAt
  ring

theorem monthlyRate_pos (ha : 0 < a) : (0 : ℚ) < (monthlyRate a : ℚ) / 1000000000000 := by
  have hrate := le_monthlyRate ha
  exact div_pos (Int.cast_pos.mpr (by omega)) (by norm_num)

theorem growth_le_pow (ha : 0 < a) (i : Nat) :
    (growth (PAYMENT_SCALE + monthlyRate a) i : ℚ) ≤
      (1 + (monthlyRate a : ℚ) / 1000000000000) ^ i * 1000000000000 := by
  have hrate := le_monthlyRate ha
  have hle := (growth_compounds (r := monthlyRate a) (by omega)).le_pow (monthlyRate_pos ha).le i
  rwa [div_le_iff₀ (by norm_num)] at hle

/-- A power that is too small makes the figure too large. -/
theorem annuityAt_le_fixedPoint (hP : 0 < P) (hn : 1 ≤ n) (ha : 0 < a) :
    annuityAt P n ((monthlyRate a : ℚ) / 1000000000000) ≤ fixedPoint P n a := by
  have hrate := le_monthlyRate ha
  have hloss := ((growth_compounds (r := monthlyRate a) (by omega)).instalment
    (monthlyRate_pos ha) (n := n.toNat) (by omega)).1
  rw [annuityAt_eq (monthlyRate_pos ha), fixedPoint_eq hn ha]
  exact mul_le_mul_of_nonneg_left (by linarith) (Int.cast_nonneg hP.le)

theorem share_le_annuityAt (hP : 0 < P) (hn : 1 ≤ n) (ha : 0 < a) :
    (P : ℚ) / n ≤ annuityAt P n ((monthlyRate a : ℚ) / 1000000000000) := by
  have hshare := one_div_le_instalment (monthlyRate_pos ha).le (n := n.toNat) (by omega)
  have hcast : ((n.toNat : ℕ) : ℚ) = n := by
    rw [← Int.cast_natCast, Int.toNat_of_nonneg (by omega)]
  rw [hcast] at hshare
  rw [annuityAt_eq (monthlyRate_pos ha)]
  calc (P : ℚ) / n = P * (1 / n) := by ring
    _ ≤ P * instalment _ n.toNat := mul_le_mul_of_nonneg_left hshare (Int.cast_nonneg hP.le)

theorem fixedPoint_mono {Q : Int} (hPQ : P ≤ Q) (hn : 1 ≤ n) (ha : 0 < a) :
    fixedPoint P n a ≤ fixedPoint Q n a := by
  have hgrown := one_lt_growth hn ha
  have hrate := monthlyRate_pos ha
  rw [fixedPoint_eq hn ha, fixedPoint_eq hn ha]
  refine mul_le_mul_of_nonneg_right (Int.cast_le.mpr hPQ) (div_nonneg ?_ (by linarith))
  exact mul_nonneg hrate.le (by linarith)

theorem monthlyPayment_mono {Q p q : Int} (hPQ : P ≤ Q) (hn : 1 ≤ n ∧ n ≤ 120) (ha : 0 < a)
    (hp : monthlyPayment P n a = .ok p) (hq : monthlyPayment Q n a = .ok q) : p ≤ q := by
  have hnone : ∀ {R : Int}, R ≤ 0 → monthlyPayment R n a = .ok 0 := fun hR => by
    rw [monthlyPayment, if_neg (by omega), if_neg (by omega), if_pos hR]
    rfl
  rcases le_or_gt P 0 with hP | hP
  · rw [hnone hP, Except.ok.injEq] at hp
    subst hp
    rcases le_or_gt Q 0 with hQ | hQ
    · rw [hnone hQ, Except.ok.injEq] at hq
      exact hq.le
    · obtain ⟨hpayment, hnonneg⟩ := monthlyPayment_eq hQ hn ha
      rw [hpayment, Except.ok.injEq] at hq
      exact hq ▸ halfAway_nonneg hnonneg
  · obtain ⟨hpaymentP, hnonneg⟩ := monthlyPayment_eq hP hn ha
    obtain ⟨hpaymentQ, -⟩ := monthlyPayment_eq (lt_of_lt_of_le hP hPQ) hn ha
    rw [hpaymentP, Except.ok.injEq] at hp
    rw [hpaymentQ, Except.ok.injEq] at hq
    exact hp ▸ hq ▸ halfAway_mono hnonneg (fixedPoint_mono hPQ hn.1 ha)

/-- **The fixed-point payment never undercharges.**  The rate at the scale and the power above it
never vanish, the truncated power is at most the exact one, and so the payment is at least the
exact annuity at that rate, rounded, and at least an even share of the balance; and it does not
fall when more is financed. -/
theorem payment_never_undercharges (hP : 0 < P) (hn : 1 ≤ n ∧ n ≤ 120) (ha : 0 < a) :
    monthlyRate a ≠ 0 ∧
    0 < growth (PAYMENT_SCALE + monthlyRate a) n.toNat - PAYMENT_SCALE ∧
    (growth (PAYMENT_SCALE + monthlyRate a) n.toNat : ℚ) ≤
      (1 + (monthlyRate a : ℚ) / 1000000000000) ^ n.toNat * 1000000000000 ∧
    ∃ payment share, monthlyPayment P n a = .ok payment ∧ roundDiv P n = .ok share ∧
      halfAway (annuityAt P n ((monthlyRate a : ℚ) / 1000000000000)) ≤ payment ∧
      share ≤ payment ∧
      ∀ Q q, P ≤ Q → monthlyPayment Q n a = .ok q → payment ≤ q := by
  have hrate := le_monthlyRate ha
  have hgrown := scale_lt_growth hn.1 ha
  obtain ⟨hpayment, -⟩ := monthlyPayment_eq hP hn ha
  have hshare := share_le_annuityAt hP hn.1 ha
  have hbelow := annuityAt_le_fixedPoint hP hn.1 ha
  have heven : (0 : ℚ) ≤ P / n := div_nonneg (Int.cast_nonneg hP.le) (Int.cast_nonneg (by omega))
  refine ⟨by omega, by omega, growth_le_pow ha _, _, _, hpayment, roundDiv_of_pos P (by omega),
    halfAway_mono (heven.trans hshare) hbelow, ?_, fun Q q hPQ hq => ?_⟩
  · rw [roundHalfAway_eq hP.le (by omega)]
    exact halfAway_mono heven (hshare.trans hbelow)
  · exact monthlyPayment_mono hPQ hn ha hpayment hq

end Payment

/-- The payment of the desk's own test: 46,170.50 over 72 months at 7.49%. -/
theorem desk_payment_near_annuity :
    (∃ payment, monthlyPayment 4617050 72 74900 = .ok payment ∧
      |(payment : ℚ) - annuity 4617050 72 74900| ≤ 1 / 2 + slack 4617050 72 74900 ∧
        ((∀ k : ℤ, slack 4617050 72 74900 < |annuity 4617050 72 74900 - (k + 1 / 2)|) →
          payment = halfAway (annuity 4617050 72 74900))) ∧
      monthlyPayment 4617050 72 74900 = .ok 79807 :=
  ⟨payment_near_annuity (by decide) (by decide) (by decide), by decide +kernel⟩

/-- The same payment, against the exact formula at the rate of the scale and an even share. -/
theorem desk_payment_never_undercharges :
    monthlyRate 74900 ≠ 0 ∧
    0 < growth (PAYMENT_SCALE + monthlyRate 74900) (72 : Int).toNat - PAYMENT_SCALE ∧
    (growth (PAYMENT_SCALE + monthlyRate 74900) (72 : Int).toNat : ℚ) ≤
      (1 + (monthlyRate 74900 : ℚ) / 1000000000000) ^ (72 : Int).toNat * 1000000000000 ∧
    ∃ payment share, monthlyPayment 4617050 72 74900 = .ok payment ∧
      roundDiv 4617050 72 = .ok share ∧
      halfAway (annuityAt 4617050 72 ((monthlyRate 74900 : ℚ) / 1000000000000)) ≤ payment ∧
      share ≤ payment ∧
      ∀ Q q, 4617050 ≤ Q → monthlyPayment Q 72 74900 = .ok q → payment ≤ q :=
  payment_never_undercharges (by decide) (by decide) (by decide)

/-- 12,189.28 over 72 months at 7.49% come to 210.695 less a hair, and are answered with
210.70. -/
theorem payment_off_by_a_cent :
    ¬ ∀ P n a : Int, 0 < P → 1 ≤ n ∧ n ≤ 120 → 0 < a →
      monthlyPayment P n a = .ok (halfAway (annuity P n a)) := by
  intro h
  have hpayment := h 1218928 72 74900 (by decide) (by decide) (by decide)
  have hcode : monthlyPayment 1218928 72 74900 = .ok 21070 := by decide +kernel
  have hexact : halfAway (annuity 1218928 72 74900) = 21069 := by decide +kernel
  rw [hcode, hexact] at hpayment
  cases hpayment

end Dealership.Desking
