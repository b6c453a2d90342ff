import Dealership.Library.Text

/-!
# The desk's arithmetic

Money is an integer of cents and a rate an integer of parts per million, so a
JavaScript `bigint` is an `Int` and its truncating division is `Int.tdiv`.
Every figure is rounded once, half away from zero.
-/

namespace Dealership.Desking

open Library

/-- Parts per million: 100% is 1_000_000. -/
def PPM : Int := 1000000

/-- A scale for the intermediate fixed-point used by the payment formula. -/
def PAYMENT_SCALE : Int := 1000000000000

/-- Division rounded half away from zero, by a divisor known to be positive. -/
def roundHalfAway (dividend divisor : Int) : Int :=
  let negative := dividend < 0
  let magnitude := if negative then -dividend else dividend
  let rounded := (magnitude * 2 + divisor).tdiv (divisor * 2)
  if negative then -rounded else rounded

/-- Divide and round half away from zero; the divisor must be positive. -/
def roundDiv (dividend divisor : Int) : Except String Int :=
  if divisor ≤ 0 then throw "roundDiv: the divisor must be positive"
  else pure (roundHalfAway dividend divisor)

/-- The guard of `roundDiv` never fires on the positive divisors its callers pass. -/
theorem roundDiv_of_pos (dividend : Int) {divisor : Int} (h : 0 < divisor) :
    roundDiv dividend divisor = .ok (roundHalfAway dividend divisor) := by
  rw [roundDiv, if_neg (by omega)]
  rfl

/-- `amount` × `ratePpm`, rounded to whole cents exactly once. -/
def applyRate (amountCents ratePpm : Int) : Int := roundHalfAway (amountCents * ratePpm) PPM

/-- `(1 + r)^n` at the payment scale, the scale divided back out at each step. -/
def growth (onePlusR : Int) : Nat → Int
  | 0 => PAYMENT_SCALE
  | i + 1 => (growth onePlusR i * onePlusR).tdiv PAYMENT_SCALE

/-- The monthly payment of an amount financed over a term at an annual rate. -/
def monthlyPayment (amountFinancedCents termMonths aprPpm : Int) : Except String Int :=
  if termMonths < 1 ∨ termMonths > 120 then
    throw "monthlyPayment: the term is a whole number of months, 1 to 120"
  else if aprPpm < 0 then throw "monthlyPayment: a negative rate is not a price"
  else if amountFinancedCents ≤ 0 then pure 0
  else if aprPpm = 0 then roundDiv amountFinancedCents termMonths
  else do
    let r ← roundDiv (aprPpm * PAYMENT_SCALE) (PPM * 12)
    if r = 0 then roundDiv amountFinancedCents termMonths
    else
      let g := growth (PAYMENT_SCALE + r) termMonths.toNat
      let denominator := g - PAYMENT_SCALE
      if denominator ≤ 0 then roundDiv amountFinancedCents termMonths
      else roundDiv (amountFinancedCents * r * g) (denominator * PAYMENT_SCALE)

theorem monthlyPayment_isOk (amountFinancedCents : Int) {termMonths aprPpm : Int}
    (hterm : 1 ≤ termMonths ∧ termMonths ≤ 120) (hapr : 0 ≤ aprPpm) :
    ∃ p, monthlyPayment amountFinancedCents termMonths aprPpm = .ok p := by
  have hround : ∀ x : Int, roundDiv x termMonths = .ok (roundHalfAway x termMonths) :=
    fun x => roundDiv_of_pos x (by omega)
  have hscale : ∀ x : Int, roundDiv x (PPM * 12) = .ok (roundHalfAway x (PPM * 12)) :=
    fun x => roundDiv_of_pos x (by decide)
  rw [monthlyPayment, if_neg (by omega), if_neg (by omega)]
  split
  · exact ⟨_, rfl⟩
  split
  · exact ⟨_, hround _⟩
  simp only [hscale, bind, Except.bind]
  split
  · exact ⟨_, hround _⟩
  split
  · exact ⟨_, hround _⟩
  · next hpos => exact ⟨_, roundDiv_of_pos _ (Int.mul_pos (by omega) (by decide))⟩

/-- Cents as a plain decimal string, for a screen or a JSON body. -/
def formatCents (cents : Int) : List Char :=
  let negative := cents < 0
  let magnitude := if negative then -cents else cents
  (if negative then ['-'] else []) ++ intText (magnitude.tdiv 100) ++
    '.' :: padStart 2 (intText (magnitude.tmod 100))

end Dealership.Desking
