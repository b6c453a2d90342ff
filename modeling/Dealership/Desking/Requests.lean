import Dealership.Desking.Applications
import Dealership.Desking.Payments
import Dealership.Desking.Revisions
import Mathlib.Data.Nat.Digits.Lemmas

/-!
# Requests for a scenario

The route reads a scenario out of the body of a request field by field, and `buildScenarioWithin`
prices what was read.  The field parsers admit figures the tables do not store, so a request they
accept may raise.  It ends in an outcome exactly when the deal it asks for can be stored.
-/

namespace Dealership.Desking

open Library List

/-! ## The field parsers -/

/-- A member of a body that is neither absent nor `null`: whether it is a string, what `String`
makes of it, and what `Number` makes of it when that is an integer. -/
structure Sent where
  isString : Bool
  text : String
  number : Option Int

abbrev Body : Type := String → Option Sent

/-- A `ValidationError`. -/
structure FieldRefusal where
  message : String
  code : String

/-- `value === undefined || value === null || value === ''`. -/
def Body.isEmpty (b : Body) (name : String) : Bool :=
  (b name).all fun value => value.isString && value.text = ""

/-- The characters behind an optional minus sign. -/
def unsigned : List Char → List Char
  | '-' :: digits => digits
  | digits => digits

/-- `INTEGER_RE`. -/
def isIntegerText (text : String) : Bool :=
  let digits := unsigned text.toList
  1 ≤ digits.length && digits.length ≤ 18 && digits.all Char.isDigit

/-- What decimal digits stand for. -/
def digitsValue (digits : List Char) : Nat :=
  Nat.ofDigits 10 (digits.reverse.map fun c => c.toNat - '0'.toNat)

/-- `BigInt(text)`. -/
def bigint (text : String) : Int :=
  if text.toList.head? = some '-' then -digitsValue (unsigned text.toList)
  else digitsValue (unsigned text.toList)

/-- Cents arrive as an integer string, and nothing else is accepted. -/
def centsField (b : Body) (name : String) (required : Bool) :
    Except FieldRefusal (Option Int) :=
  match b name with
  | none => absent
  | some value =>
    if b.isEmpty name then absent
    else if ¬ isIntegerText value.text then
      throw ⟨name ++ " is a whole number of cents, written as a string", "amount_invalid"⟩
    else pure (some (bigint value.text))
where
  absent : Except FieldRefusal (Option Int) :=
    if required then throw ⟨name ++ " is required, in whole cents", "amount_required"⟩
    else pure none

def intField (b : Body) (name : String) : Except FieldRefusal (Option Int) :=
  match b name with
  | none => pure none
  | some value =>
    if b.isEmpty name then pure none
    else if value.number.isNone then throw ⟨name ++ " is a whole number", "invalid_request"⟩
    else pure value.number

def stringField (b : Body) (name : String) (required : Bool) :
    Except FieldRefusal (Option String) :=
  match (b name).filter fun value => value.isString && !isBlank value.text with
  | some value => pure (some value.text)
  | none =>
    if required then throw ⟨name ++ " is required", "invalid_request"⟩ else pure none

/-- The record that is named: only the database looks at the id. -/
def requireUuidField (b : Body) (name : String) : Except FieldRefusal String :=
  match (b name).filter fun value => value.isString && isUuid value.text with
  | some value => pure (canonicalUuid value.text)
  | none => throw ⟨name ++ " must name a record you selected", "selection_required"⟩

def optionalUuidField (b : Body) (name : String) : Except FieldRefusal (Option String) :=
  if b.isEmpty name then pure none else some <$> requireUuidField b name

/-- What `POST /cases/:deskingCaseId/scenarios` asks `buildScenarioWithin` for. -/
def scenarioRequest (actor deskingCaseId : String) (b : Body) :
    Except FieldRefusal BuildScenarioInput := do
  let label ← stringField b "label" true
  let jurisdiction ← stringField b "jurisdiction" true
  let vehiclePriceCents ← centsField b "vehicle_price_cents" true
  let tradeAllowanceCents ← centsField b "trade_allowance_cents" false
  let tradePayoffCents ← centsField b "trade_payoff_cents" false
  let cashDownCents ← centsField b "cash_down_cents" false
  let termMonths ← intField b "term_months"
  let aprPpm ← centsField b "apr_ppm" false
  let supersedesScenarioId ← optionalUuidField b "supersedes_scenario_id"
  let expiresAt ← stringField b "expires_at" false
  return {
    actingUserLinkId := actor
    deskingCaseId
    label := label.getD "null"
    jurisdiction := jurisdiction.getD "null"
    vehiclePriceCents := vehiclePriceCents.getD 0
    tradeAllowanceCents := some (tradeAllowanceCents.getD 0)
    tradePayoffCents := some (tradePayoffCents.getD 0)
    cashDownCents := some (cashDownCents.getD 0)
    termMonths, aprPpm
    pricedAt := none
    expiresAt, supersedesScenarioId }

section Accepted

variable {b : Body} {name : String} {required : Bool}

theorem digitsValue_lt {digits : List Char} (h : ∀ c ∈ digits, c.isDigit = true) :
    digitsValue digits < 10 ^ digits.length := by
  rw [digitsValue, ← length_reverse, ← length_map (f := fun c : Char =>
    c.toNat - '0'.toNat)]
  refine Nat.ofDigits_lt_base_pow_length (by decide) fun d hd => ?_
  obtain ⟨c, hc, rfl⟩ := mem_map.mp hd
  have hdigit := h c (mem_reverse.mp hc)
  simp only [Char.isDigit, Bool.and_eq_true, decide_eq_true_eq] at hdigit
  have hnine : c.toNat ≤ 57 := hdigit.2
  show c.toNat - 48 < 10
  omega

theorem abs_bigint_lt {text : String} (h : isIntegerText text = true) :
    |bigint text| < 1000000000000000000 := by
  simp only [isIntegerText, Bool.and_eq_true, decide_eq_true_eq, all_eq_true] at h
  obtain ⟨⟨-, hlength⟩, hdigits⟩ := h
  have hlt : digitsValue (unsigned text.toList) < 10 ^ 18 :=
    (digitsValue_lt hdigits).trans_le (Nat.pow_le_pow_right (by decide) hlength)
  unfold bigint
  split <;> rw [abs_lt] <;> omega

theorem abs_centsField_lt {amount : Option Int} (h : centsField b name required = .ok amount) :
    |amount.getD 0| < 1000000000000000000 := by
  have habsent : centsField.absent name required = .ok amount → amount = none := by
    unfold centsField.absent
    split
    · nofun
    · rintro ⟨⟩
      rfl
  unfold centsField at h
  split at h
  · rw [habsent h]
    decide
  split at h
  · rw [habsent h]
    decide
  split at h
  · cases h
  next hinteger =>
    cases h
    exact abs_bigint_lt (not_not.mp hinteger)

theorem stringField_nonempty {value : Option String} (h : stringField b name true = .ok value) :
    value.getD "null" ≠ "" := by
  unfold stringField at h
  split at h
  · next sent hsent =>
      cases h
      have hblank := (Option.filter_eq_some_iff.mp hsent).2
      rw [Bool.and_eq_true] at hblank
      rintro (hempty : sent.text = "")
      rw [hempty] at hblank
      exact absurd hblank.2 (by decide)
  · cases h

/-- What the parsers promise of a request. -/
structure Accepted (input : BuildScenarioInput) : Prop where
  label : input.label ≠ ""
  price : |input.vehiclePriceCents| < 1000000000000000000
  allowance : |input.tradeAllowanceCents.getD 0| < 1000000000000000000
  payoff : |input.tradePayoffCents.getD 0| < 1000000000000000000
  cash : |input.cashDownCents.getD 0| < 1000000000000000000
  clocked : input.pricedAt = none

theorem accepted_of_scenarioRequest {actor deskingCaseId : String} {input : BuildScenarioInput}
    (h : scenarioRequest actor deskingCaseId b = .ok input) :
    input.actingUserLinkId = actor ∧ Accepted input := by
  obtain ⟨label, hlabel, h⟩ := bind_eq_ok.mp h
  obtain ⟨jurisdiction, -, h⟩ := bind_eq_ok.mp h
  obtain ⟨price, hprice, h⟩ := bind_eq_ok.mp h
  obtain ⟨allowance, hallowance, h⟩ := bind_eq_ok.mp h
  obtain ⟨payoff, hpayoff, h⟩ := bind_eq_ok.mp h
  obtain ⟨cash, hcash, h⟩ := bind_eq_ok.mp h
  obtain ⟨term, -, h⟩ := bind_eq_ok.mp h
  obtain ⟨apr, -, h⟩ := bind_eq_ok.mp h
  obtain ⟨supersedes, -, h⟩ := bind_eq_ok.mp h
  obtain ⟨expiresAt, -, h⟩ := bind_eq_ok.mp h
  have hallowance := abs_centsField_lt hallowance
  have hpayoff := abs_centsField_lt hpayoff
  have hcash := abs_centsField_lt hcash
  cases h
  exact ⟨rfl, stringField_nonempty hlabel, abs_centsField_lt hprice, hallowance, hpayoff, hcash, rfl⟩

end Accepted

/-! ## The payment -/

section Payment

variable {P n a p : Int}

theorem roundHalfAway_nonneg {x y : Int} (hx : 0 ≤ x) (hy : 0 < y) : 0 ≤ roundHalfAway x y := by
  unfold roundHalfAway
  rw [if_neg (by omega), if_neg (by omega), Int.tdiv_eq_ediv_of_nonneg (by omega)]
  exact Int.ediv_nonneg (by omega) (by omega)

theorem roundHalfAway_le {x y k : Int} (hx : 0 ≤ x) (hy : 0 < y) (h : x ≤ k * y) :
    roundHalfAway x y ≤ k := by
  unfold roundHalfAway
  rw [if_neg (by omega), if_neg (by omega), Int.tdiv_eq_ediv_of_nonneg (by omega)]
  refine Int.le_of_lt_add_one (Int.ediv_lt_of_lt_mul (by omega) ?_)
  calc x * 2 + y < 2 * (k * y) + 2 * y := by omega
    _ = (k + 1) * (y * 2) := by ring

/-- What is owed after one month: the balance with a month's interest, rounded. -/
def afterOneMonth (amountFinancedCents aprPpm : Int) : Int :=
  roundHalfAway (amountFinancedCents * (PAYMENT_SCALE + monthlyRate aprPpm)) PAYMENT_SCALE

theorem monthlyRate_le (ha : 0 < a) (hcap : a ≤ 1000000) : monthlyRate a ≤ 83333333334 := by
  refine roundHalfAway_le (Int.mul_nonneg ha.le (by decide)) (by decide) ?_
  unfold PAYMENT_SCALE PPM
  omega

theorem monthlyPayment_of_rate (hP : 0 < P) (hn : 1 ≤ n ∧ n ≤ 120) (ha : 0 < a) :
    monthlyPayment P n a = .ok (roundHalfAway
      (P * monthlyRate a * growth (PAYMENT_SCALE + monthlyRate a) n.toNat)
      ((growth (PAYMENT_SCALE + monthlyRate a) n.toNat - PAYMENT_SCALE) * PAYMENT_SCALE)) := by
  have hgrown := scale_lt_growth hn.1 ha
  have hrate := le_monthlyRate ha
  rw [(monthlyPayment_eq hP hn ha).1, roundHalfAway_eq]
  · rfl
  · exact Int.mul_nonneg (Int.mul_nonneg hP.le (by omega)) (le_trans (by decide) hgrown.le)
  · exact Int.mul_pos (by omega) (by decide)

theorem payment_le_financed (hP : 0 < P) (hn : 2 ≤ n ∧ n ≤ 120) (ha : 0 < a)
    (hcap : a ≤ 1000000) :
    P * monthlyRate a * growth (PAYMENT_SCALE + monthlyRate a) n.toNat ≤
      P * ((growth (PAYMENT_SCALE + monthlyRate a) n.toNat - PAYMENT_SCALE) * PAYMENT_SCALE) := by
  have hrate := le_monthlyRate ha
  have hlow := monthlyRate_le ha hcap
  have hgrown := (growth_compounds (r := monthlyRate a) (by omega)).one_add_le n.toNat
  generalize growth (PAYMENT_SCALE + monthlyRate a) n.toNat = g at hgrown ⊢
  generalize monthlyRate a = r at *
  have hinterest : 1000000000000 + 2 * r ≤ g := by
    have htwo : (2 : ℚ) ≤ n.toNat := by exact_mod_cast (by omega : 2 ≤ n.toNat)
    have hr : (0 : ℚ) ≤ r := Int.cast_nonneg (by omega)
    have hshare : (2 : ℚ) * (r / 1000000000000) ≤ n.toNat * (r / 1000000000000) :=
      mul_le_mul_of_nonneg_right htwo (by positivity)
    have hscaled := hshare.trans (by linarith : _ ≤ (g : ℚ) / 1000000000000 - 1)
    field_simp at hscaled
    have hcast : (1000000000000 + 2 * r : ℚ) ≤ g := by linarith
    exact_mod_cast hcast
  rw [Int.mul_assoc]
  refine Int.mul_le_mul_of_nonneg_left ?_ hP.le
  unfold PAYMENT_SCALE
  nlinarith

theorem roundHalfAway_cancel {x y k : Int} (hx : 0 ≤ x) (hy : 0 < y) (hk : 0 < k) :
    roundHalfAway (x * k) (y * k) = roundHalfAway x y := by
  rw [roundHalfAway_eq (Int.mul_nonneg hx hk.le) (Int.mul_pos hy hk), roundHalfAway_eq hx hy]
  push_cast
  rw [mul_div_mul_right _ _ (Int.cast_ne_zero.mpr hk.ne')]

theorem monthlyPayment_bounds (hn : 1 ≤ n ∧ n ≤ 120) (ha : 0 ≤ a ∧ a ≤ 1000000)
    (hp : monthlyPayment P n a = .ok p) :
    0 ≤ p ∧ if n = 1 ∧ 0 < P then p = afterOneMonth P a else p ≤ max P 0 := by
  by_cases hP : 0 < P
  swap
  · rw [monthlyPayment, if_neg (by omega), if_neg (by omega), if_pos (by omega)] at hp
    cases hp
    rw [if_neg fun h => hP h.2]
    exact ⟨Int.le_refl 0, le_max_right P 0⟩
  rcases ha.1.eq_or_lt with rfl | hpos
  · rw [monthlyPayment, if_neg (by omega), if_neg (by omega), if_neg (by omega), if_pos rfl,
      roundDiv_of_pos _ (by omega)] at hp
    cases hp
    refine ⟨roundHalfAway_nonneg hP.le (by omega), ?_⟩
    split
    · next hone =>
        rw [hone.1]
        exact (roundHalfAway_cancel (k := PAYMENT_SCALE) hP.le one_pos (by decide)).symm
    · refine (roundHalfAway_le hP.le (by omega) ?_).trans (le_max_left P 0)
      exact le_mul_of_one_le_right hP.le hn.1
  · rw [monthlyPayment_of_rate hP hn hpos] at hp
    cases hp
    have hrate := le_monthlyRate hpos
    have hgrown := scale_lt_growth hn.1 hpos
    have hnumerator : 0 ≤ P * monthlyRate a * growth (PAYMENT_SCALE + monthlyRate a) n.toNat :=
      Int.mul_nonneg (Int.mul_nonneg hP.le (by omega)) (le_trans (by decide) hgrown.le)
    have hdenominator : 0 < (growth (PAYMENT_SCALE + monthlyRate a) n.toNat - PAYMENT_SCALE) *
        PAYMENT_SCALE := Int.mul_pos (by omega) (by decide)
    refine ⟨roundHalfAway_nonneg hnumerator hdenominator, ?_⟩
    split
    · next hone =>
        have hgrowth : growth (PAYMENT_SCALE + monthlyRate a) n.toNat =
            PAYMENT_SCALE + monthlyRate a := by
          rw [hone.1]
          show (PAYMENT_SCALE * (PAYMENT_SCALE + monthlyRate a)).tdiv PAYMENT_SCALE = _
          exact Int.mul_tdiv_cancel_left _ (by decide)
        rw [hgrowth, afterOneMonth, ← roundHalfAway_cancel (k := monthlyRate a)
          (Int.mul_nonneg hP.le (Int.add_nonneg (by decide) (by omega))) (by decide) (by omega)]
        congr 1 <;> ring
    · next hmore =>
        exact (roundHalfAway_le hnumerator hdenominator
          (payment_le_financed hP (by omega) hpos ha.2)).trans (le_max_left P 0)

end Payment

/-! ## The figures -/

/-- What the rules of a kind come to in a book. -/
def kindTotal (inputs : ScenarioInputs) (rules : List ResolvedRule) (kind : RuleKind) : Int :=
  ((rules.filter fun r => r.ruleKind = kind).map (amountOf inputs rules)).sum

/-- What a deal leaves to finance. -/
def financedCents (inputs : ScenarioInputs) (rules : List ResolvedRule) : Int :=
  inputs.vehiclePriceCents + kindTotal inputs rules .tax + kindTotal inputs rules .fee -
    kindTotal inputs rules .incentive - inputs.cashDownCents -
      (inputs.tradeAllowanceCents - inputs.tradePayoffCents)

/-- The values of the rules of a book are not negative. -/
def NonnegRules (rules : List ResolvedRule) : Prop :=
  ∀ r ∈ rules, 0 ≤ r.ratePpm.getD 0 ∧ 0 ≤ r.amountCents.getD 0

section Figures

variable {inputs : ScenarioInputs} {rules : List ResolvedRule} {c : ComputedScenario}

theorem applyRate_nonneg {amount rate : Int} (hamount : 0 ≤ amount) (hrate : 0 ≤ rate) :
    0 ≤ applyRate amount rate :=
  roundHalfAway_nonneg (Int.mul_nonneg hamount hrate) (by decide)

theorem taxableAmountCents_nonneg (credit : Option ResolvedRule) :
    0 ≤ taxableAmountCents inputs credit := by
  unfold taxableAmountCents
  split <;> omega

theorem magnitude_nonneg (hrules : NonnegRules rules) {r : ResolvedRule} (hr : r ∈ rules)
    {base : Int} (hbase : 0 ≤ base) : 0 ≤ magnitude r base := by
  unfold magnitude
  split
  · exact (hrules r hr).2
  · exact applyRate_nonneg hbase (hrules r hr).1

theorem amountOf_nonneg (hrules : NonnegRules rules) (hprice : 0 ≤ inputs.vehiclePriceCents)
    {r : ResolvedRule} (hr : r ∈ rules) : 0 ≤ amountOf inputs rules r := by
  have hfirst : ∀ s, 0 ≤ firstBase inputs (tradeCredit rules) s := by
    intro s
    unfold firstBase
    split
    · exact taxableAmountCents_nonneg _
    · exact hprice
  have htotal : ∀ kind, 0 ≤ totalOf kind (firstBase inputs (tradeCredit rules))
      (rules.filter (·.inFirstPass)) := by
    intro kind
    refine sum_nonneg fun amount hamount => ?_
    obtain ⟨s, hs, rfl⟩ := mem_map.mp hamount
    exact magnitude_nonneg hrules (mem_of_mem_filter (mem_of_mem_filter hs)) (hfirst s)
  refine magnitude_nonneg hrules hr ?_
  split
  · have htaxes := htotal .tax
    have hfees := htotal .fee
    unfold subtotal
    omega
  · exact hfirst r

theorem kindTotal_nonneg (hrules : NonnegRules rules) (hprice : 0 ≤ inputs.vehiclePriceCents)
    (kind : RuleKind) : 0 ≤ kindTotal inputs rules kind := by
  refine sum_nonneg fun amount hamount => ?_
  obtain ⟨r, hr, rfl⟩ := mem_map.mp hamount
  exact amountOf_nonneg hrules hprice (mem_of_mem_filter hr)

theorem amountOf_le_kindTotal (hrules : NonnegRules rules) (hprice : 0 ≤ inputs.vehiclePriceCents)
    {r : ResolvedRule} (hr : r ∈ rules) :
    amountOf inputs rules r ≤ kindTotal inputs rules r.ruleKind := by
  refine single_le_sum (fun amount hamount => ?_) _
    (mem_map_of_mem (mem_filter.mpr ⟨hr, decide_eq_true rfl⟩))
  obtain ⟨s, hs, rfl⟩ := mem_map.mp hamount
  exact amountOf_nonneg hrules hprice (mem_of_mem_filter hs)

/-- The lines that no rule writes. -/
def standingEntries (inputs : ScenarioInputs) : List Entry :=
  [⟨.price, "vehicle_price", "Vehicle price", inputs.vehiclePriceCents, none, none⟩,
    ⟨.trade, "trade_equity", "Trade equity (allowance less payoff)",
      -(inputs.tradeAllowanceCents - inputs.tradePayoffCents), none, none⟩,
    ⟨.down_payment, "cash_down", "Cash down", -inputs.cashDownCents, none, none⟩]

/-- A line is one of the standing ones, or that of a tax, a fee or an incentive of the book. -/
theorem line_cases (h : computeScenario inputs rules = .ok c) {l : ComputedLine}
    (hl : l ∈ c.lines) : l.entry ∈ standingEntries inputs ∨
      ∃ r ∈ rules, r.priced = true ∧ l.entry = r.entry (amountOf inputs rules r) := by
  have hlines : c.lines = (closeSheet inputs (tradeCredit rules)
      ((ordered rules).filter (·.inFirstPass)) ((ordered rules).filter (·.inSecondPass))).lines := by
    obtain ⟨payment, -, h⟩ := bind_eq_ok.mp h
    cases h
    rfl
  have hpriced : ∀ e ∈ (pricedSheet inputs rules).lines.map ComputedLine.entry,
      e ∈ standingEntries inputs ∨
        ∃ r ∈ rules, r.priced = true ∧ e = r.entry (amountOf inputs rules r) := by
    intro e he
    rw [pricedSheet_lines, mem_append] at he
    rcases he with he | he
    · left
      unfold openSheet at he
      dsimp only at he
      split at he
      · rcases mem_cons.mp he with rfl | he
        · exact mem_cons_self
        · rw [mem_singleton.mp he]
          exact mem_cons_of_mem _ mem_cons_self
      · rw [mem_singleton.mp he]
        exact mem_cons_self
    · obtain ⟨r, hr, rfl⟩ := mem_map.mp he
      have hr := mem_filter.mp ((passes_perm rules).mem_iff.mp hr)
      exact .inr ⟨r, hr.1, hr.2, rfl⟩
  rw [hlines, closeSheet_eq] at hl
  split at hl
  · rcases mem_inserted hl with hl | rfl
    · exact hpriced _ (mem_map_of_mem hl)
    · exact .inl (by simp [standingEntries, ComputedLine.entry])
  · exact hpriced _ (mem_map_of_mem hl)

theorem lineTotal_of_compute (h : computeScenario inputs rules = .ok c)
    (hdeal : LinesAreTheDeal inputs rules c) {kind : RuleKind}
    (hkind : kind = .tax ∨ kind = .fee ∨ kind = .incentive) :
    lineTotal kind.lineKind c.lines =
      ((rules.filter fun r => r.ruleKind = kind).map
        fun r => (r.entry (amountOf inputs rules r)).amountCents).sum := by
  have hruled : (c.lines.filter fun l => l.kind = kind.lineKind) =
      (c.lines.filter fun l => l.ruleId.isSome).filter fun l => l.kind = kind.lineKind := by
    rw [filter_filter]
    refine filter_congr fun l hl => ?_
    rcases line_cases h hl with hstanding | ⟨r, -, -, hentry⟩
    · have hother : l.kind ≠ kind.lineKind := by
        show l.entry.kind ≠ _
        revert hstanding
        generalize l.entry = e
        simp only [standingEntries, mem_cons, not_mem_nil, or_false]
        rintro (rfl | rfl | rfl) <;> rcases hkind with rfl | rfl | rfl <;> rintro ⟨⟩
      simp [hother]
    · have hsome : l.ruleId = some r.ruleId := congrArg Entry.ruleId hentry
      simp [hsome]
  have hpriced : ∀ r : ResolvedRule, (decide (r.ruleKind.lineKind = kind.lineKind) && r.priced) =
      decide (r.ruleKind = kind) := by
    intro r
    unfold ResolvedRule.priced
    rcases hkind with rfl | rfl | rfl <;> cases r.ruleKind <;> rfl
  have hentries : ((c.lines.filter fun l => l.ruleId.isSome).filter
      fun l => l.kind = kind.lineKind).map (·.amountCents) =
        ((((c.lines.filter fun l => l.ruleId.isSome).map ComputedLine.entry).filter
          fun e => e.kind = kind.lineKind).map (·.amountCents)) := by
    rw [filter_map, map_map]
    rfl
  rw [lineTotal, hruled, hentries, ((hdeal.lines.filter _).map _).sum_eq, filter_map,
    map_map, filter_filter]
  congr 2
  exact filter_congr fun r _ => hpriced r

structure Figured (inputs : ScenarioInputs) (rules : List ResolvedRule) (c : ComputedScenario) :
    Prop where
  equity : c.tradeEquityCents = inputs.tradeAllowanceCents - inputs.tradePayoffCents
  taxable : c.taxableAmountCents = taxableAmountCents inputs (tradeCredit rules)
  taxes : c.taxTotalCents = kindTotal inputs rules .tax
  fees : c.feeTotalCents = kindTotal inputs rules .fee
  incentives : c.incentiveTotalCents = kindTotal inputs rules .incentive
  financed : c.amountFinancedCents = financedCents inputs rules
  payment : monthlyFigure inputs (financedCents inputs rules) = .ok c.monthlyPaymentCents

theorem figured_of_compute (h : computeScenario inputs rules = .ok c) : Figured inputs rules c := by
  have hdeal : LinesAreTheDeal inputs rules c := by
    rcases lines_are_the_deal inputs rules with ⟨c', hok, hdeal⟩ | ⟨-, e, herror⟩
    · rw [h] at hok
      cases hok
      exact hdeal
    · rw [h] at herror
      cases herror
  have htaxes : c.taxTotalCents = kindTotal inputs rules .tax := by
    rw [← hdeal.taxes]
    refine (lineTotal_of_compute h hdeal (.inl rfl)).trans (congrArg List.sum ?_)
    refine map_congr_left fun r hr => if_neg ?_
    rw [of_decide_eq_true (mem_filter.mp hr).2]
    decide
  have hfees : c.feeTotalCents = kindTotal inputs rules .fee := by
    rw [← hdeal.fees]
    refine (lineTotal_of_compute h hdeal (.inr (.inl rfl))).trans (congrArg List.sum ?_)
    refine map_congr_left fun r hr => if_neg ?_
    rw [of_decide_eq_true (mem_filter.mp hr).2]
    decide
  have hincentives : c.incentiveTotalCents = kindTotal inputs rules .incentive := by
    rw [← hdeal.incentives, neg_eq_iff_eq_neg]
    refine (lineTotal_of_compute h hdeal (.inr (.inr rfl))).trans ?_
    rw [kindTotal, sum_neg, map_map]
    refine congrArg List.sum (map_congr_left fun r hr => if_pos ?_)
    exact of_decide_eq_true (mem_filter.mp hr).2
  obtain ⟨payment, hpayment, h⟩ := bind_eq_ok.mp h
  have hfinanced : c.amountFinancedCents = financedCents inputs rules := by
    rw [financedCents, ← htaxes, ← hfees, ← hincentives]
    cases h
    rfl
  refine ⟨?_, ?_, htaxes, hfees, hincentives, hfinanced, ?_⟩
  · cases h
    rfl
  · cases h
    rfl
  · rw [← hfinanced]
    cases h
    exact hpayment

end Figures

/-! ## What can be stored -/

/-- A rate of an amount that is not negative, to the nearest cent. -/
def centsAtRate (amountCents ratePpm : Int) : Int :=
  (amountCents * ratePpm * 2 + 1000000) / 2000000

/-- What a row asks on a base: its amount, or its rate of the base. -/
def DeskingRule.asks (r : DeskingRule) (base : Int) : Int :=
  r.amount_cents.getD (centsAtRate base (r.rate_ppm.getD 0))

/-- A row that leaves a part of the trade allowance untaxed. -/
def DeskingRule.leavesUntaxed (r : DeskingRule) : Bool :=
  r.rule_kind = .policy && r.rule_code = TRADE_TAX_CREDIT && r.basis = .rate_ppm

/-- A row of a kind that deals are priced with. -/
def DeskingRule.counts (r : DeskingRule) : Bool :=
  r.rule_kind = .tax || r.rule_kind = .fee || r.rule_kind = .incentive || r.leavesUntaxed

/-- The rows in force for a request, a rooftop's own in place of those of the tenant. -/
def BuildScenarioInput.rowsAt (w : DeskWorld) (input : BuildScenarioInput) (c : DeskingCase)
    (instant : Int) : List DeskingRule :=
  w.rules.rows.filter fun r => IsChosen w.rules.rows input.jurisdiction c.rooftop_id instant r

section Rows

variable (input : BuildScenarioInput) (rows : List DeskingRule)

def untaxedCents : Int :=
  ((rows.filter (·.leavesUntaxed)).map fun r =>
    centsAtRate (input.tradeAllowanceCents.getD 0) (r.rate_ppm.getD 0)).sum

/-- What a row asks its rate of, if not of everything before it. -/
def rowBase (r : DeskingRule) : Int :=
  if r.applies_to = .taxable_amount then max 0 (input.vehiclePriceCents - untaxedCents input rows)
  else input.vehiclePriceCents

/-- The rows of a kind, on the price and its taxable part. -/
def askedCents (kind : RuleKind) : Int :=
  ((rows.filter fun r => r.rule_kind = kind && r.applies_to ≠ .total).map
    fun r => r.asks (rowBase input rows r)).sum

/-- What a row comes to; one on the total goes on the price with its taxes and fees. -/
def dueCents (r : DeskingRule) : Int :=
  r.asks (if r.applies_to = .total
    then input.vehiclePriceCents + askedCents input rows .tax + askedCents input rows .fee
    else rowBase input rows r)

def kindCents (kind : RuleKind) : Int :=
  ((rows.filter fun r => r.rule_kind = kind).map (dueCents input rows)).sum

/-- What is left to finance. -/
def balanceCents : Int :=
  input.vehiclePriceCents + kindCents input rows .tax + kindCents input rows .fee -
    kindCents input rows .incentive - input.cashDownCents.getD 0 -
      (input.tradeAllowanceCents.getD 0 - input.tradePayoffCents.getD 0)

end Rows

/-- The deal a request asks for can be stored: what the columns ask of it and of the rule rows
in force, beyond what the parsers and the refusals do. -/
structure Storable (w : DeskWorld) (input : BuildScenarioInput) (db : Desk) (c : DeskingCase)
    (instant : Int) : Prop where
  label : input.label.length ≤ 80 ∧ carried input.label = true
  allowance : 0 ≤ input.tradeAllowanceCents.getD 0
  payoff : 0 ≤ input.tradePayoffCents.getD 0
  cash : 0 ≤ input.cashDownCents.getD 0
  rate : ∀ apr ∈ input.aprPpm, 0 ≤ apr ∧ apr ≤ 1000000
  expires : ∀ text ∈ input.expiresAt, ∃ t, w.timestamptz text = some t ∧ instant < t
  supersedes : ∀ id ∈ input.supersedesScenarioId, ∃ r ∈ db.desking_scenarios, r.scenario_id = id
  dates : ∀ r ∈ input.rowsAt w c instant, r.counts = true →
    (w.timestamptz (isoOfDate r.effective_from)).isSome = true ∧
      ∀ e ∈ r.effective_to, (w.timestamptz (isoOfDate e)).isSome = true
  untaxed : untaxedCents input (input.rowsAt w c instant) < 2 ^ 63
  kinds : ∀ kind ∈ [RuleKind.tax, .fee, .incentive],
    kindCents input (input.rowsAt w c instant) kind < 2 ^ 63
  balance : fitsBigint (balanceCents input (input.rowsAt w c instant)) = true
  payment : input.termMonths = some 1 → ∀ apr ∈ input.aprPpm,
    0 < balanceCents input (input.rowsAt w c instant) →
      afterOneMonth (balanceCents input (input.rowsAt w c instant)) apr < 2 ^ 63

/-- The same in the figures of the calculator. -/
structure Fits (w : DeskWorld) (input : BuildScenarioInput) (db : Desk) (c : DeskingCase)
    (instant : Int) : Prop where
  label : input.label.length ≤ 80 ∧ carried input.label = true
  allowance : 0 ≤ input.tradeAllowanceCents.getD 0
  payoff : 0 ≤ input.tradePayoffCents.getD 0
  cash : 0 ≤ input.cashDownCents.getD 0
  rate : ∀ apr ∈ input.aprPpm, 0 ≤ apr ∧ apr ≤ 1000000
  expires : ∀ text ∈ input.expiresAt, ∃ t, w.timestamptz text = some t ∧ instant < t
  supersedes : ∀ id ∈ input.supersedesScenarioId, ∃ r ∈ db.desking_scenarios, r.scenario_id = id
  dates : ∀ r ∈ (input.book w c instant).rules, r.applicable = true →
    (w.timestamptz r.effectiveFrom).isSome = true ∧
      ∀ text ∈ r.effectiveTo, (w.timestamptz text).isSome = true
  credit : creditCents (input.inputs w) (tradeCredit (input.book w c instant).rules) < 2 ^ 63
  totals : ∀ kind ∈ [RuleKind.tax, .fee, .incentive],
    kindTotal (input.inputs w) (input.book w c instant).rules kind < 2 ^ 63
  financed : fitsBigint (financedCents (input.inputs w) (input.book w c instant).rules) = true
  payment : input.termMonths = some 1 → ∀ apr ∈ input.aprPpm,
    0 < financedCents (input.inputs w) (input.book w c instant).rules →
      afterOneMonth (financedCents (input.inputs w) (input.book w c instant).rules) apr < 2 ^ 63

section Storing

variable {w : DeskWorld} {input : BuildScenarioInput} {db : Desk} {c : DeskingCase}
  {instant : Int} {computed : ComputedScenario}

theorem fitsBigint_iff {x : Int} : fitsBigint x = true ↔ -(2 ^ 63) ≤ x ∧ x < 2 ^ 63 := by
  rw [fitsBigint, Bool.and_eq_true, decide_eq_true_eq, decide_eq_true_eq]

theorem of_refusal_eq_none (h : input.refusal = none) :
    0 ≤ input.vehiclePriceCents ∧ input.termMonths.isNone = input.aprPpm.isNone ∧
      ∀ n ∈ input.termMonths, 1 ≤ n ∧ n ≤ 120 := by
  unfold BuildScenarioInput.refusal at h
  split at h
  · cases h
  split at h
  · cases h
  split at h
  · cases h
  next hprice hpair hterm =>
    refine ⟨by omega, not_not.mp hpair, fun n hn => ?_⟩
    rw [Option.mem_def.mp hn] at hterm
    simp only [Option.any_some, Bool.or_eq_true, decide_eq_true_eq] at hterm
    omega

theorem nonneg_book : NonnegRules (input.book w c instant).rules := by
  intro r hr
  obtain ⟨row, hrow, rfl⟩ := mem_book_iff.mp hr
  obtain ⟨-, -, hamount, hrate, -⟩ := w.rules.checks row hrow.1
  constructor
  · show 0 ≤ row.rate_ppm.getD 0
    cases h : row.rate_ppm with
    | none => exact Int.le_refl 0
    | some p => exact (hrate p h).1
  · show 0 ≤ row.amount_cents.getD 0
    cases h : row.amount_cents with
    | none => exact Int.le_refl 0
    | some a => exact hamount a h

theorem isJurisdiction_of_taxRows (h : taxRows w.rules.rows input.jurisdiction c.rooftop_id ≠ []) :
    isJurisdiction input.jurisdiction = true := by
  obtain ⟨r, hr⟩ := exists_mem_of_ne_nil _ h
  obtain ⟨hrow, hcovers, -⟩ := mem_taxRows.mp hr
  exact hcovers.1 ▸ (w.rules.checks r hrow).2.2.2.2.2.2.2.2.1

theorem payment_of_figure (hn : ∀ n ∈ input.termMonths, 1 ≤ n ∧ n ≤ 120)
    (ha : ∀ apr ∈ input.aprPpm, 0 ≤ apr ∧ apr ≤ 1000000) {P : Int} {payment : Option Int}
    (h : monthlyFigure (input.inputs w) P = .ok payment) (hP : P < 2 ^ 63) :
    (∀ p ∈ payment, 0 ≤ p) ∧ (payment.getD 0 < 2 ^ 63 ↔
      (input.termMonths = some 1 → ∀ apr ∈ input.aprPpm, 0 < P → afterOneMonth P apr < 2 ^ 63)) := by
  simp only [monthlyFigure, BuildScenarioInput.inputs] at h
  cases hterm : input.termMonths with
  | none =>
    rw [hterm] at h
    cases h
    exact ⟨by simp, by simp⟩
  | some n =>
    cases hapr : input.aprPpm with
    | none =>
      rw [hterm, hapr] at h
      cases h
      exact ⟨by simp, by simp⟩
    | some apr =>
      rw [hterm, hapr] at h
      dsimp only at h
      cases hp : monthlyPayment P n apr with
      | error e =>
        rw [hp] at h
        cases h
      | ok p =>
        rw [hp] at h
        cases h
        obtain ⟨hpos, hle⟩ := monthlyPayment_bounds (hn n hterm) (ha apr hapr) hp
        refine ⟨fun _ hq => Option.some.inj hq ▸ hpos, ?_⟩
        simp only [Option.getD_some, Option.some.injEq, Option.mem_some]
        split at hle
        · next hone => simp [hone.1, hone.2, hle]
        next hmore =>
          refine iff_of_true (lt_of_le_of_lt hle (max_lt hP (by decide))) ?_
          rintro rfl apr' - hfinanced
          exact absurd ⟨rfl, hfinanced⟩ hmore

theorem line_checks (h : computeScenario (input.inputs w) (input.book w c instant).rules =
    .ok computed) {l : ComputedLine} (hl : l ∈ computed.lines) :
    l.checks = fitsBigint l.amountCents := by
  suffices hrest : (1 ≤ l.entry.lineCode.length ∧ l.entry.lineCode.length ≤ 40) ∧
      (1 ≤ l.entry.label.length ∧ l.entry.label.length ≤ 120) ∧
      l.entry.ruleId.isNone = l.entry.ruleVersion.isNone by
    obtain ⟨⟨hone, hforty⟩, ⟨hsome, hlabel⟩, hrule⟩ := hrest
    simp only [ComputedLine.entry] at hone hforty hsome hlabel hrule
    simp [ComputedLine.checks, hone, hforty, hsome, hlabel, hrule]
  rcases line_cases h hl with hstanding | ⟨r, hr, -, hentry⟩
  · revert hstanding
    generalize l.entry = e
    simp only [standingEntries, mem_cons, not_mem_nil, or_false]
    rintro (rfl | rfl | rfl) <;> dsimp only <;>
      exact ⟨⟨by decide, by decide⟩, ⟨by decide, by decide⟩, rfl⟩
  · obtain ⟨row, hrow, rfl⟩ := mem_book_iff.mp hr
    obtain ⟨-, -, -, -, -, hcode, hlabel, -⟩ := w.rules.checks row hrow.1
    rw [hentry]
    simp only [isRuleCode, Bool.and_eq_true, decide_eq_true_eq] at hcode
    exact ⟨⟨by change 1 ≤ row.rule_code.length; omega, hcode.1.2⟩, hlabel, rfl⟩

theorem casts_iff {r : ResolvedRule} {amount : Int} :
    (r.application amount).casts w.timestamptz = true ↔
      ((w.timestamptz r.effectiveFrom).isSome = true ∧
        ∀ text ∈ r.effectiveTo, (w.timestamptz text).isSome = true) ∧ fitsBigint amount = true := by
  simp [RuleApplication.casts, ResolvedRule.application, Option.all_eq_true]

theorem figures_check (hprice : 0 ≤ input.vehiclePriceCents)
    (hallowance : 0 ≤ input.tradeAllowanceCents.getD 0)
    (h : computeScenario (input.inputs w) (input.book w c instant).rules = .ok computed) :
    0 ≤ computed.taxTotalCents ∧ 0 ≤ computed.feeTotalCents ∧ 0 ≤ computed.incentiveTotalCents ∧
      0 ≤ computed.taxableAmountCents ∧ computed.taxableAmountCents ≤ input.vehiclePriceCents := by
  have hfigured := figured_of_compute h
  have htotal : ∀ kind, 0 ≤ kindTotal (input.inputs w) (input.book w c instant).rules kind :=
    kindTotal_nonneg nonneg_book hprice
  refine ⟨hfigured.taxes ▸ htotal .tax, hfigured.fees ▸ htotal .fee,
    hfigured.incentives ▸ htotal .incentive, hfigured.taxable ▸ taxableAmountCents_nonneg _, ?_⟩
  have hcredit : 0 ≤ creditCents (input.inputs w) (tradeCredit (input.book w c instant).rules) := by
    cases hfound : tradeCredit (input.book w c instant).rules with
    | none => exact Int.le_refl 0
    | some r =>
      have hmem := (ordered_perm _).mem_iff.mp (mem_of_find?_eq_some hfound)
      exact applyRate_nonneg hallowance (nonneg_book r hmem).1
  rw [hfigured.taxable, taxableAmountCents]
  split
  · exact sub_le_self _ hcredit
  · exact hprice

theorem amounts_fit (haccepted : Accepted input) (hprice : 0 ≤ input.vehiclePriceCents)
    (h : computeScenario (input.inputs w) (input.book w c instant).rules = .ok computed)
    (htotals : ∀ kind ∈ [RuleKind.tax, .fee, .incentive],
      kindTotal (input.inputs w) (input.book w c instant).rules kind < 2 ^ 63) :
    ∀ l ∈ computed.lines, fitsBigint l.amountCents = true := by
  obtain ⟨-, hprice', hallowance, hpayoff, hcash, -⟩ := haccepted
  rw [abs_lt] at hprice' hallowance hpayoff hcash
  intro l hl
  rw [fitsBigint_iff]
  rcases line_cases h hl with hstanding | ⟨r, hr, hpriced, hentry⟩
  · have hamount : l.amountCents = input.vehiclePriceCents ∨
        l.amountCents = -(input.tradeAllowanceCents.getD 0 - input.tradePayoffCents.getD 0) ∨
          l.amountCents = -input.cashDownCents.getD 0 := by
      simp only [standingEntries, mem_cons, not_mem_nil, or_false] at hstanding
      exact hstanding.imp (congrArg Entry.amountCents) (.imp (congrArg Entry.amountCents)
        (congrArg Entry.amountCents))
    omega
  · have hamount : l.amountCents = if r.ruleKind = .incentive
        then -amountOf (input.inputs w) (input.book w c instant).rules r
        else amountOf (input.inputs w) (input.book w c instant).rules r :=
      congrArg Entry.amountCents hentry
    have hbase : 0 ≤ (input.inputs w).vehiclePriceCents := hprice
    have hnonneg := amountOf_nonneg nonneg_book hbase hr
    have hle := amountOf_le_kindTotal nonneg_book hbase hr
    have hkind : r.ruleKind ∈ [RuleKind.tax, .fee, .incentive] := by
      simpa [ResolvedRule.priced, or_assoc] using hpriced
    have htotal := htotals r.ruleKind hkind
    split at hamount <;> omega

theorem nodup_ruleIds : ((input.book w c instant).rules.map (·.ruleId)).Nodup := by
  refine List.Nodup.map_on (fun r hr r' hr' hid => ?_)
    (List.Nodup.of_map ruleKey (nodup_book w.rules.rows))
  obtain ⟨row, hrow, rfl⟩ := mem_book_iff.mp hr
  obtain ⟨row', hrow', rfl⟩ := mem_book_iff.mp hr'
  rw [eq_of_key w.rules.rule_id hrow.1 hrow'.1 hid]

/-! ### The rows are the rules of the book -/

theorem applyRate_eq {amount rate : Int} (hamount : 0 ≤ amount) (hrate : 0 ≤ rate) :
    applyRate amount rate = centsAtRate amount rate := by
  have hproduct : 0 ≤ amount * rate := Int.mul_nonneg hamount hrate
  unfold applyRate roundHalfAway centsAtRate PPM
  rw [if_neg (by omega), if_neg (by omega), Int.tdiv_eq_ediv_of_nonneg (by omega)]
  rfl

section Book

variable {r : DeskingRule}

theorem book_perm (w : DeskWorld) (input : BuildScenarioInput) (c : DeskingCase) (instant : Int) :
    (input.book w c instant).rules.Perm ((input.rowsAt w c instant).map mapRule) := by
  have hrules : (input.book w c instant).rules.Nodup := List.Nodup.of_map _ nodup_ruleIds
  have hrows : ((input.rowsAt w c instant).map mapRule).Nodup := by
    refine List.Nodup.of_map (·.ruleId) ?_
    rw [map_map]
    exact w.rules.rule_id.sublist (filter_sublist.map _)
  refine (perm_ext_iff_of_nodup hrules hrows).mpr fun rule => ?_
  rw [BuildScenarioInput.book, mem_book_iff, mem_map]
  constructor
  · rintro ⟨row, hrow, rfl⟩
    exact ⟨row, mem_filter.mpr ⟨hrow.1, decide_eq_true hrow⟩, rfl⟩
  · rintro ⟨row, hrow, rfl⟩
    exact ⟨row, of_decide_eq_true (mem_filter.mp hrow).2, rfl⟩

theorem checks_of_mem_rowsAt (hr : r ∈ input.rowsAt w c instant) : r.Checks :=
  w.rules.checks r (mem_of_mem_filter hr)

theorem rate_nonneg (hr : r ∈ input.rowsAt w c instant) : 0 ≤ r.rate_ppm.getD 0 := by
  cases hrate : r.rate_ppm with
  | none => exact Int.le_refl 0
  | some rate => exact ((checks_of_mem_rowsAt hr).2.2.2.1 rate hrate).1

theorem magnitude_mapRule (hr : r ∈ input.rowsAt w c instant) {base : Int} (hbase : 0 ≤ base) :
    magnitude (mapRule r) base = r.asks base := by
  unfold magnitude DeskingRule.asks mapRule
  rcases (checks_of_mem_rowsAt hr).2.1 with ⟨hbasis, -, hamount⟩ | ⟨hbasis, hamount, -⟩
  · rw [hbasis, hamount]
    exact applyRate_eq hbase (rate_nonneg hr)
  · obtain ⟨amount, hsome⟩ := Option.isSome_iff_exists.mp hamount
    rw [hbasis, hsome]
    rfl

theorem sum_book (p : ResolvedRule → Bool) (f : ResolvedRule → Int) :
    (((input.book w c instant).rules.filter p).map f).sum =
      (((input.rowsAt w c instant).filter fun r => p (mapRule r)).map fun r => f (mapRule r)).sum := by
  rw [(((book_perm w input c instant).filter p).map f).sum_eq, filter_map, map_map]
  rfl

section Figures

variable (hprice : 0 ≤ input.vehiclePriceCents)
  (hallowance : 0 ≤ input.tradeAllowanceCents.getD 0)

include hallowance in
theorem creditCents_eq : creditCents (input.inputs w)
    (tradeCredit (input.book w c instant).rules) =
      untaxedCents input (input.rowsAt w c instant) := by
  have hlist : ∀ found : Option ResolvedRule, creditCents (input.inputs w) found =
      (found.toList.map fun r => applyRate (input.tradeAllowanceCents.getD 0)
        (r.ratePpm.getD 0)).sum := by
    intro found
    cases found with
    | none => rfl
    | some r => exact (Int.add_zero _).symm
  have hbook : ((input.book w c instant).rules.map ruleKey).Nodup := nodup_book w.rules.rows
  rw [hlist, ((tradeCredit_perm hbook).map _).sum_eq, sum_book]
  refine congrArg List.sum (map_congr_left fun r hr => ?_)
  exact applyRate_eq hallowance (rate_nonneg (mem_of_mem_filter hr))

include hallowance in
theorem firstBase_eq (r : DeskingRule) : firstBase (input.inputs w)
    (tradeCredit (input.book w c instant).rules) (mapRule r) =
      rowBase input (input.rowsAt w c instant) r := by
  rw [firstBase, taxableAmountCents, creditCents_eq hallowance]
  show (if r.applies_to = .taxable_amount then
      if input.vehiclePriceCents - untaxedCents input (input.rowsAt w c instant) > 0 then
        input.vehiclePriceCents - untaxedCents input (input.rowsAt w c instant) else 0
    else input.vehiclePriceCents) = _
  rw [rowBase]
  refine if_congr Iff.rfl ?_ rfl
  split <;> omega

include hprice in
theorem rowBase_nonneg (r : DeskingRule) (rows : List DeskingRule) : 0 ≤ rowBase input rows r := by
  unfold rowBase
  split
  · exact le_max_left _ _
  · exact hprice

include hprice hallowance

theorem totalOf_eq (kind : RuleKind) (hkind : kind = .tax ∨ kind = .fee) :
    totalOf kind (firstBase (input.inputs w) (tradeCredit (input.book w c instant).rules))
        ((input.book w c instant).rules.filter (·.inFirstPass)) =
      askedCents input (input.rowsAt w c instant) kind := by
  rw [totalOf, filter_filter, sum_book, askedCents]
  have hfilter : ((input.rowsAt w c instant).filter fun r =>
      decide ((mapRule r).ruleKind = kind) && (mapRule r).inFirstPass) =
        (input.rowsAt w c instant).filter fun r => r.rule_kind = kind && r.applies_to ≠ .total := by
    refine filter_congr fun r _ => ?_
    show (decide (r.rule_kind = kind) && (mapRule r).inFirstPass) = _
    by_cases hr : r.rule_kind = kind
    · rcases hkind with rfl | rfl <;>
        simp [ResolvedRule.inFirstPass, ResolvedRule.priced, mapRule, hr]
    · simp [hr]
  rw [hfilter]
  refine congrArg List.sum (map_congr_left fun r hr => ?_)
  rw [firstBase_eq hallowance]
  exact magnitude_mapRule (mem_of_mem_filter hr) (rowBase_nonneg hprice r _)

theorem amountOf_mapRule (hr : r ∈ input.rowsAt w c instant) :
    amountOf (input.inputs w) (input.book w c instant).rules (mapRule r) =
      dueCents input (input.rowsAt w c instant) r := by
  have hasked : ∀ kind, 0 ≤ askedCents input (input.rowsAt w c instant) kind := by
    intro kind
    refine sum_nonneg fun amount hamount => ?_
    obtain ⟨s, hs, rfl⟩ := mem_map.mp hamount
    have hrow := mem_of_mem_filter hs
    rw [← magnitude_mapRule hrow (rowBase_nonneg hprice s _)]
    have hrule := (book_perm w input c instant).mem_iff.mpr (mem_map_of_mem hrow)
    exact magnitude_nonneg nonneg_book hrule (rowBase_nonneg hprice s _)
  rw [amountOf, subtotal, totalOf_eq hprice hallowance _ (.inl rfl),
    totalOf_eq hprice hallowance _ (.inr rfl), firstBase_eq hallowance]
  refine magnitude_mapRule hr ?_
  split
  · have htaxes := hasked .tax
    have hfees := hasked .fee
    exact Int.add_nonneg (Int.add_nonneg hprice htaxes) hfees
  · exact rowBase_nonneg hprice r _

theorem kindTotal_eq (kind : RuleKind) :
    kindTotal (input.inputs w) (input.book w c instant).rules kind =
      kindCents input (input.rowsAt w c instant) kind := by
  rw [kindTotal, sum_book, kindCents]
  exact congrArg List.sum (map_congr_left fun r hr =>
    amountOf_mapRule hprice hallowance (mem_of_mem_filter hr))

theorem financedCents_eq : financedCents (input.inputs w) (input.book w c instant).rules =
    balanceCents input (input.rowsAt w c instant) := by
  rw [financedCents, kindTotal_eq hprice hallowance, kindTotal_eq hprice hallowance,
    kindTotal_eq hprice hallowance]
  rfl

end Figures

theorem storable_iff_fits (hprice : 0 ≤ input.vehiclePriceCents) :
    Storable w input db c instant ↔ Fits w input db c instant := by
  have hdates : (∀ r ∈ input.rowsAt w c instant, r.counts = true →
      (w.timestamptz (isoOfDate r.effective_from)).isSome = true ∧
        ∀ e ∈ r.effective_to, (w.timestamptz (isoOfDate e)).isSome = true) ↔
      ∀ r ∈ (input.book w c instant).rules, r.applicable = true →
        (w.timestamptz r.effectiveFrom).isSome = true ∧
          ∀ text ∈ r.effectiveTo, (w.timestamptz text).isSome = true := by
    simp only [(book_perm w input c instant).mem_iff, forall_mem_map]
    refine forall₂_congr fun r _ => ?_
    simp [mapRule]
    rfl
  constructor
  · intro h
    exact {
      label := h.label
      allowance := h.allowance
      payoff := h.payoff
      cash := h.cash
      rate := h.rate
      expires := h.expires
      supersedes := h.supersedes
      dates := hdates.mp h.dates
      credit := creditCents_eq h.allowance ▸ h.untaxed
      totals := fun kind hkind => kindTotal_eq hprice h.allowance kind ▸ h.kinds kind hkind
      financed := financedCents_eq hprice h.allowance ▸ h.balance
      payment := financedCents_eq hprice h.allowance ▸ h.payment }
  · intro h
    exact {
      label := h.label
      allowance := h.allowance
      payoff := h.payoff
      cash := h.cash
      rate := h.rate
      expires := h.expires
      supersedes := h.supersedes
      dates := hdates.mpr h.dates
      untaxed := creditCents_eq h.allowance ▸ h.credit
      kinds := fun kind hkind => kindTotal_eq hprice h.allowance kind ▸ h.totals kind hkind
      balance := financedCents_eq hprice h.allowance ▸ h.financed
      payment := financedCents_eq hprice h.allowance ▸ h.payment }

end Book

/-! ### What the database admits -/

theorem fits_of_admits (hrefusal : input.refusal = none)
    (h : computeScenario (input.inputs w) (input.book w c instant).rules = .ok computed)
    {expiresAt : Option Int} (hexpiry : input.expiry w = .ok expiresAt)
    (hadmits : Admits w db (input.row w db c instant computed expiresAt)) :
    Fits w input db c instant := by
  obtain ⟨-, -, hterm⟩ := of_refusal_eq_none hrefusal
  have hfigured := figured_of_compute h
  have hchecks := hadmits.checks
  simp only [Scenario.checks, Bool.and_eq_true, decide_eq_true_eq, all_cons, all_nil,
    Option.all_eq_true, fitsBigint_iff] at hchecks
  obtain ⟨⟨⟨⟨⟨⟨⟨⟨⟨⟨⟨⟨⟨⟨⟨⟨⟨-, hlabel⟩, -⟩, hallowance⟩, hpayoff⟩, hcash⟩, -⟩, hrate⟩, -⟩, -⟩, -⟩, -⟩,
    -⟩, -⟩, -⟩, hafter⟩, -⟩, -, -, -, -, -, -, htaxes, hfees, hincentives, hfinanced, hpayment, -⟩ :=
      hchecks
  have hcasts : ∀ r ∈ (input.book w c instant).rules, r.applicable = true → _ :=
    fun r hr happlies => casts_iff.mp (hadmits.casts _
      ((mem_applications_iff (nodup_book w.rules.rows) h).mpr ⟨r, hr, happlies, rfl⟩))
  exact {
    label := ⟨hlabel, hadmits.label⟩
    allowance := hallowance
    payoff := hpayoff
    cash := hcash
    rate := hrate
    expires := by
      intro text htext
      rw [BuildScenarioInput.expiry, Option.mem_def.mp htext, Option.elim_some,
        DeskWorld.cast] at hexpiry
      cases ht : w.timestamptz text with
      | none =>
        rw [ht] at hexpiry
        cases hexpiry
      | some t =>
        rw [ht] at hexpiry
        cases hexpiry
        exact ⟨t, rfl, hafter t rfl⟩
    supersedes := hadmits.supersedes
    dates := fun r hr happlies => (hcasts r hr happlies).1
    credit := by
      cases hfound : tradeCredit (input.book w c instant).rules with
      | none => exact (by decide : (0 : Int) < 2 ^ 63)
      | some r =>
        have hcredit : r.isCredit = true := isCredit_of_mem_find _ (Option.mem_toList.mpr hfound)
        have hfits := (hcasts r ((ordered_perm _).mem_iff.mp (mem_of_find?_eq_some hfound))
          (by rw [ResolvedRule.applicable, hcredit, Bool.or_true])).2
        rw [resolvedAmount, if_pos hcredit, fitsBigint_iff] at hfits
        exact hfits.2
    totals := by
      simp only [forall_mem_cons, not_mem_nil, false_imp_iff, implies_true, and_true]
      exact ⟨hfigured.taxes ▸ htaxes.2, hfigured.fees ▸ hfees.2,
        hfigured.incentives ▸ hincentives.2⟩
    financed := fitsBigint_iff.mpr (hfigured.financed ▸ hfinanced)
    payment := (payment_of_figure hterm hrate hfigured.payment
      (hfigured.financed ▸ hfinanced).2).2.mp hpayment.2 }

theorem Fits.expiry (hfits : Fits w input db c instant) :
    ∃ expiresAt, input.expiry w = .ok expiresAt ∧ ∀ t ∈ expiresAt, instant < t := by
  rw [BuildScenarioInput.expiry]
  cases htext : input.expiresAt with
  | none => exact ⟨none, rfl, nofun⟩
  | some text =>
    obtain ⟨t, ht, hlater⟩ := hfits.expires text htext
    refine ⟨some t, ?_, fun _ heq => Option.some.inj heq ▸ hlater⟩
    rw [Option.elim_some, DeskWorld.cast, ht]
    rfl

theorem Fits.casts (hfits : Fits w input db c instant) (hprice : 0 ≤ input.vehiclePriceCents)
    (hbook : ((input.book w c instant).rules.map ruleKey).Nodup)
    (h : computeScenario (input.inputs w) (input.book w c instant).rules = .ok computed) :
    ∀ a ∈ computed.applications, a.casts w.timestamptz = true := by
  intro a ha
  obtain ⟨r, hr, happlies, rfl⟩ := (mem_applications_iff hbook h).mp ha
  refine casts_iff.mpr ⟨hfits.dates r hr happlies, fitsBigint_iff.mpr ?_⟩
  rw [resolvedAmount]
  split
  · next hcredit =>
      have hfound : tradeCredit (input.book w c instant).rules = some r :=
        Option.mem_toList.mp ((tradeCredit_perm hbook).mem_iff.mpr (mem_filter.mpr ⟨hr, hcredit⟩))
      have hnonneg := applyRate_nonneg hfits.allowance (nonneg_book r hr).1
      refine ⟨le_trans (by decide) hnonneg, ?_⟩
      rw [← hfound]
      exact hfits.credit
  · next hcredit =>
      rw [ResolvedRule.applicable, Bool.eq_false_iff.mpr hcredit, Bool.or_false] at happlies
      have hbase : 0 ≤ (input.inputs w).vehiclePriceCents := hprice
      have hnonneg := amountOf_nonneg nonneg_book hbase hr
      have hle := amountOf_le_kindTotal nonneg_book hbase hr
      have hkind : r.ruleKind ∈ [RuleKind.tax, .fee, .incentive] := by
        simpa [ResolvedRule.priced, or_assoc] using happlies
      have hlt := hfits.totals r.ruleKind hkind
      omega

theorem admits_of_fits (haccepted : Accepted input)
    (hfresh : ∀ r ∈ db.desking_scenarios, r.scenario_id ≠ w.newScenarioId)
    (hrefusal : input.refusal = none) (hjurisdiction : isJurisdiction input.jurisdiction = true)
    (h : computeScenario (input.inputs w) (input.book w c instant).rules = .ok computed)
    (hfits : Fits w input db c instant) :
    ∃ expiresAt, input.expiry w = .ok expiresAt ∧
      Admits w db (input.row w db c instant computed expiresAt) := by
  obtain ⟨hprice, hpair, hterm⟩ := of_refusal_eq_none hrefusal
  have hfigured := figured_of_compute h
  have hlabel : 1 ≤ input.label.length :=
    Nat.one_le_iff_ne_zero.mpr fun hempty => haccepted.label (String.length_eq_zero_iff.mp hempty)
  obtain ⟨htaxes, hfees, hincentives, htaxable, htaxable'⟩ :=
    figures_check hprice hfits.allowance h
  have hfinanced := fitsBigint_iff.mp hfits.financed
  obtain ⟨hpays, hpayment⟩ := payment_of_figure hterm hfits.rate hfigured.payment hfinanced.2
  have hpayment := hpayment.mpr hfits.payment
  have hbook : ((input.book w c instant).rules.map ruleKey).Nodup := nodup_book w.rules.rows
  have hmonthly : 0 ≤ computed.monthlyPaymentCents.getD 0 := by
    cases hfigure : computed.monthlyPaymentCents with
    | none => exact Int.le_refl 0
    | some p => exact hpays p hfigure
  have hequity := hfigured.equity
  change computed.tradeEquityCents =
    input.tradeAllowanceCents.getD 0 - input.tradePayoffCents.getD 0 at hequity
  have htotal := hfits.totals
  simp only [forall_mem_cons, ← hfigured.taxes, ← hfigured.fees, ← hfigured.incentives] at htotal
  rw [← hfigured.financed] at hfinanced
  have hsmall := And.intro (abs_lt.mp haccepted.price) (abs_lt.mp haccepted.allowance)
  have hsmall' := And.intro (abs_lt.mp haccepted.payoff) (abs_lt.mp haccepted.cash)
  obtain ⟨expiresAt, hexpiry, hafter⟩ := hfits.expiry
  refine ⟨expiresAt, hexpiry, hfits.label.2, ?_, hfresh, ?_, hfits.supersedes,
    fun l hl => (line_checks h hl).trans (amounts_fit haccepted hprice h hfits.totals l hl),
    hfits.casts hprice hbook h, ?_⟩
  · simp only [Scenario.checks, Bool.and_eq_true, decide_eq_true_eq, all_cons, all_nil,
      Option.all_eq_true, fitsBigint_iff]
    simp only [BuildScenarioInput.row, BuildScenarioInput.inputs]
    refine ⟨⟨⟨⟨⟨⟨⟨⟨⟨⟨⟨⟨⟨⟨⟨⟨⟨hlabel, hfits.label.1⟩, hprice⟩, hfits.allowance⟩,
      hfits.payoff⟩, hfits.cash⟩, hterm⟩, hfits.rate⟩, hjurisdiction⟩, htaxable⟩,
      htaxes⟩, hfees⟩, hincentives⟩, hpays⟩, hpair⟩, hafter⟩, fun hself => ?_⟩, ?_⟩
    · obtain ⟨r, hr, hid⟩ := hfits.supersedes _ hself
      exact hfresh r hr hid
    · exact ⟨by omega, by omega, by omega, by omega, by omega, by omega, by omega, by omega,
        by omega, by omega, by omega, trivial⟩
  · rintro r hr ⟨hcase, hversion⟩
    have hlt := lt_nextVersionNo hr
    rw [hcase] at hlt
    exact hlt.ne hversion
  · show (computed.applications.map (·.ruleId)).Nodup
    rw [((applications_perm hbook h).map _).nodup_iff, map_map]
    exact nodup_ruleIds.sublist (filter_sublist.map _)

end Storing

/-! ## Where a request ends -/

/-- What a request finds around it: a known actor, a clock the database reads, a fresh id. -/
structure DeskWorld.Serves (w : DeskWorld) (actor : String) (db : Desk) : Prop where
  known : w.access.knows actor = true
  clock : ∃ instant, w.timestamptz w.clock = some instant
  fresh : ∀ r ∈ db.desking_scenarios, r.scenario_id ≠ w.newScenarioId

/-- The request ends in an outcome. -/
def Answers (w : DeskWorld) (input : BuildScenarioInput) (db : Desk) : Prop :=
  ∃ out db', buildScenarioWithin w input db = .ok (out, db')

def TaxStands (w : DeskWorld) (input : BuildScenarioInput) (c : DeskingCase) (instant : Int) :
    Prop :=
  ∃ r ∈ taxRows w.rules.rows input.jurisdiction c.rooftop_id, ∀ e ∈ r.effective_to, instant < e

section Ends

variable {w : DeskWorld} {input : BuildScenarioInput} {db : Desk} {c : DeskingCase}
  {instant : Int}

theorem complete_of_taxStands (h : TaxStands w input c instant) :
    ¬ ((resolveRuleBookWithin w.rules.rows input.jurisdiction c.rooftop_id instant).missing ≠ [] ∨
      (resolveRuleBookWithin w.rules.rows input.jurisdiction c.rooftop_id instant).expired ≠ []) := by
  rw [unavailable_iff]
  intro hended
  obtain ⟨r, hr, hstands⟩ := h
  obtain ⟨e, he, hle⟩ := hended r hr
  exact absurd (hstands e he) (by omega)

/-- A request that is priced ends in an outcome exactly when its deal can be stored. -/
theorem ReachesBook.answers_iff (h : ReachesBook w input db c instant)
    (htax : TaxStands w input c instant) (haccepted : Accepted input)
    (hfresh : ∀ r ∈ db.desking_scenarios, r.scenario_id ≠ w.newScenarioId) :
    Answers w input db ↔ Storable w input db c instant := by
  have hcomplete := complete_of_taxStands htax
  have hmissing : (input.book w c instant).missing = [] := not_not.mp (not_or.mp hcomplete).1
  have hexpired : (input.book w c instant).expired = [] := not_not.mp (not_or.mp hcomplete).2
  obtain ⟨hprice, hpair, hterm⟩ := of_refusal_eq_none h.admitted
  obtain ⟨r, hr, -⟩ := id htax
  have hjurisdiction : isJurisdiction input.jurisdiction = true :=
    isJurisdiction_of_taxRows (ne_nil_of_mem hr)
  have hcarried : carried input.jurisdiction = true := carried_of_taxRows hr
  constructor
  · rintro ⟨out, db', hbuild⟩
    obtain ⟨computed, hcompute⟩ : ∃ computed,
        computeScenario (input.inputs w) (input.book w c instant).rules = .ok computed := by
      rw [h.build_eq, priceScenario] at hbuild
      obtain ⟨instant', hinstant, hbuild⟩ := bind_eq_ok.mp hbuild
      cases h.priced_at.symm.trans hinstant
      obtain ⟨_, -, hbuild⟩ := bind_eq_ok.mp hbuild
      dsimp only at hbuild
      rw [if_neg hcomplete] at hbuild
      obtain ⟨computed, hcomputed, -⟩ := bind_eq_ok.mp hbuild
      exact ⟨computed, mapError_eq_ok.mp hcomputed⟩
    have hprices : Prices w input db c instant computed := ⟨h, hcarried, hmissing, hexpired, hcompute⟩
    rw [hprices.build_eq, writeScenario_eq_ok] at hbuild
    obtain ⟨expiresAt, hexpiry, hadmits, -⟩ := hbuild
    exact (storable_iff_fits hprice).mpr (fits_of_admits h.admitted hcompute hexpiry hadmits)
  · intro hstorable
    rcases lines_are_the_deal (input.inputs w) (input.book w c instant).rules with
      ⟨computed, hcompute, -⟩ | ⟨⟨n, hn, apr, hapr, hout⟩, -⟩
    · have hprices : Prices w input db c instant computed := ⟨h, hcarried, hmissing, hexpired, hcompute⟩
      obtain ⟨expiresAt, hexpiry, hadmits⟩ :=
        admits_of_fits haccepted hfresh h.admitted hjurisdiction hcompute
          ((storable_iff_fits hprice).mp hstorable)
      exact ⟨_, _, hprices.build_eq.trans
        (writeScenario_eq_ok.mpr ⟨expiresAt, hexpiry, hadmits, rfl, rfl⟩)⟩
    · have hrange := hterm n hn
      have hrate := hstorable.rate apr hapr
      omega

/-- **Where an accepted request ends.**  A request that the field parsers accept ends in one of
the stated outcomes exactly when the book can be asked for its jurisdiction, if it comes to that,
and the deal it asks for can be stored, if it comes to be priced. -/
theorem accepted_request_answers_iff {actor deskingCaseId : String} {b : Body}
    (hrequest : scenarioRequest actor deskingCaseId b = .ok input) (hserves : w.Serves actor db) :
    Answers w input db ↔ ∀ c instant, ReachesBook w input db c instant →
      carried input.jurisdiction = true ∧
        (TaxStands w input c instant → Storable w input db c instant) := by
  obtain ⟨rfl, haccepted⟩ := accepted_of_scenarioRequest hrequest
  constructor
  · intro hanswers c instant hreaches
    obtain ⟨out, db', hbuild⟩ := id hanswers
    exact ⟨hreaches.carried_of_build hbuild,
      fun htax => (hreaches.answers_iff htax haccepted hserves.fresh).mp hanswers⟩
  · intro hends
    have hactor := requireActor_of_knows hserves.known
    obtain ⟨instant, hclock⟩ := hserves.clock
    cases hcase : requireCaseWithin w db input.actingUserLinkId input.deskingCaseId with
    | none =>
      refine ⟨.not_found, db, ?_⟩
      rw [buildScenarioWithin, hactor]
      simp only [bind, Except.bind, hcase]
      rfl
    | some c =>
      cases hrefusal : input.refusal with
      | some error =>
        refine ⟨.invalid error, db, ?_⟩
        rw [buildScenarioWithin, hactor]
        simp only [bind, Except.bind, hcase, hrefusal]
        rfl
      | none =>
        have hreaches : ReachesBook w input db c instant := by
          refine ⟨hactor, hcase, hrefusal, ?_⟩
          rw [BuildScenarioInput.instantText, haccepted.clocked, Option.getD_none,
            DeskWorld.cast, hclock]
          rfl
        obtain ⟨hcarried, hstorable⟩ := hends c instant hreaches
        by_cases htax : TaxStands w input c instant
        · exact (hreaches.answers_iff htax haccepted hserves.fresh).mpr (hstorable htax)
        · obtain ⟨missing, expired, hbuild⟩ := hreaches.build_unavailable hcarried (by
            intro r hr
            by_contra hstands
            push Not at hstands
            exact htax ⟨r, hr, hstands⟩)
          exact ⟨_, _, hbuild⟩

end Ends

/-! ## Requests that raise -/

def cashBody (members : List (String × Sent)) : Body := fun name =>
  List.lookup name (("label", ⟨true, "First pencil", none⟩) ::
    ("jurisdiction", ⟨true, "US-OH", none⟩) ::
    ("vehicle_price_cents", ⟨true, "2500000", some 2500000⟩) :: members)

/-- The deal it asks for. -/
def pricedCash (tradeAllowanceCents : Int) (termMonths aprPpm : Option Int) : BuildScenarioInput :=
  { cashRequest with
    tradeAllowanceCents := some tradeAllowanceCents
    tradePayoffCents := some 0
    cashDownCents := some 0
    termMonths, aprPpm }

theorem mayDay_serves : mayDay.Serves deskManager northDesk :=
  ⟨by decide +kernel, ⟨1777593600000000, by decide +kernel⟩, fun _ hr => absurd hr not_mem_nil⟩

/-- No column stores a negative allowance, and a negative rate has no payment. -/
theorem accepted_requests_raise :
    (scenarioRequest deskManager "case-1"
        (cashBody [("trade_allowance_cents", ⟨true, "-1", some (-1)⟩)]) =
        .ok (pricedCash (-1) none none) ∧
      buildScenarioWithin mayDay (pricedCash (-1) none none) northDesk =
        .error (.database "desking_scenarios CHECK")) ∧
    (scenarioRequest deskManager "case-1"
        (cashBody [("term_months", ⟨false, "12", some 12⟩), ("apr_ppm", ⟨true, "-1", some (-1)⟩)]) =
        .ok (pricedCash 0 (some 12) (some (-1))) ∧
      buildScenarioWithin mayDay (pricedCash 0 (some 12) (some (-1))) northDesk =
        .error (.rangeError "monthlyPayment: a negative rate is not a price")) ∧
    ¬ ∀ (w : DeskWorld) (db : Desk) (actor deskingCaseId : String) (b : Body)
        (input : BuildScenarioInput), scenarioRequest actor deskingCaseId b = .ok input →
      w.Serves actor db → Answers w input db := by
  have hrequest : scenarioRequest deskManager "case-1"
      (cashBody [("trade_allowance_cents", ⟨true, "-1", some (-1)⟩)]) =
        .ok (pricedCash (-1) none none) := rfl
  have hraises : buildScenarioWithin mayDay (pricedCash (-1) none none) northDesk =
      .error (.database "desking_scenarios CHECK") := rfl
  refine ⟨⟨hrequest, hraises⟩, ⟨rfl, rfl⟩, fun h => ?_⟩
  obtain ⟨out, db', hbuild⟩ := h mayDay northDesk _ _ _ _ hrequest mayDay_serves
  rw [hraises] at hbuild
  cases hbuild

/-- The cash deal is built, and answered exactly when it can be stored. -/
theorem accepted_request_answers_iff_cash :
    (∃ s computed db', buildScenarioWithin mayDay (pricedCash 0 none none) northDesk =
        .ok (.built s computed, db') ∧ computed.amountFinancedCents = 2662500) ∧
      (Answers mayDay (pricedCash 0 none none) northDesk ↔
        ∀ c instant, ReachesBook mayDay (pricedCash 0 none none) northDesk c instant →
          carried (pricedCash 0 none none).jurisdiction = true ∧
            (TaxStands mayDay (pricedCash 0 none none) c instant →
              Storable mayDay (pricedCash 0 none none) northDesk c instant)) :=
  have hrequest : scenarioRequest deskManager "case-1" (cashBody []) =
      .ok (pricedCash 0 none none) := rfl
  ⟨⟨_, _, _, rfl, rfl⟩, accepted_request_answers_iff hrequest mayDay_serves⟩

end Dealership.Desking
