import Dealership.Desking.Canonical
import Dealership.Desking.Money

/-!
# The desk calculator

One pure function from the inputs of a scenario and a resolved rule book to the
figures, the lines, the rule applications and the two fingerprints.  The passes
run in a fixed order: the trade, the taxable base, the taxes, fees and
incentives on the price or the base, then those on the subtotal, and last what
is left to finance.

The only way `computeScenario` fails is the range check of the payment formula.
-/

namespace Dealership.Desking

open Library

/-! ## Rules, inputs and results -/

inductive RuleKind where
  | tax | fee | incentive | valuation | policy
deriving DecidableEq

inductive RuleBasis where
  | rate_ppm | flat_amount
deriving DecidableEq

inductive RuleTarget where
  | vehicle_price | taxable_amount | total
deriving DecidableEq

inductive LineKind where
  | price | trade | tax | fee | incentive | down_payment
deriving DecidableEq

/-- The text of a line kind, as it is stored and fingerprinted. -/
def LineKind.text : LineKind → String
  | price => "price"
  | trade => "trade"
  | tax => "tax"
  | fee => "fee"
  | incentive => "incentive"
  | down_payment => "down_payment"

/-- A rule as the rule book resolved it, with everything an audit needs. -/
structure ResolvedRule where
  ruleId : String
  ruleKind : RuleKind
  ruleCode : String
  label : String
  source : String
  jurisdiction : String
  rooftopScoped : Bool
  version : Int
  effectiveFrom : String
  effectiveTo : Option String
  basis : RuleBasis
  ratePpm : Option Int
  amountCents : Option Int
  appliesTo : RuleTarget
deriving DecidableEq

structure ScenarioInputs where
  vehiclePriceCents : Int
  tradeAllowanceCents : Int
  tradePayoffCents : Int
  cashDownCents : Int
  termMonths : Option Int
  aprPpm : Option Int
  currency : String
  jurisdiction : String
  /-- The instant the rule book was read at, as an ISO-8601 string. -/
  pricedAt : String
deriving DecidableEq

structure ComputedLine where
  sequenceNo : Nat
  kind : LineKind
  lineCode : String
  label : String
  /-- Signed: what this line does to the balance. -/
  amountCents : Int
  ruleId : Option String
  ruleVersion : Option Int
deriving DecidableEq

structure RuleApplication where
  ruleId : String
  ruleKind : RuleKind
  ruleCode : String
  ruleVersion : Int
  source : String
  jurisdiction : String
  rooftopScoped : Bool
  effectiveFrom : String
  effectiveTo : Option String
  resolvedAmountCents : Int
deriving DecidableEq

structure ComputedScenario where
  tradeEquityCents : Int
  taxableAmountCents : Int
  taxTotalCents : Int
  feeTotalCents : Int
  incentiveTotalCents : Int
  amountFinancedCents : Int
  monthlyPaymentCents : Option Int
  lines : List ComputedLine
  applications : List RuleApplication
  inputFingerprint : String
  outputFingerprint : String
deriving DecidableEq

def TRADE_TAX_CREDIT : String := "trade_tax_credit"

/-! ## The fixed order -/

def rank : RuleKind → Int
  | .policy => 0
  | .tax => 1
  | .fee => 2
  | .incentive => 3
  | .valuation => 4

/-- The comparator of `ordered`: kind, then code, then version. -/
def compareRules (a b : ResolvedRule) : Int :=
  let kind := rank a.ruleKind - rank b.ruleKind
  let code : Int :=
    if jsLt a.ruleCode b.ruleCode then -1 else if jsLt b.ruleCode a.ruleCode then 1 else 0
  if kind ≠ 0 then kind else if code ≠ 0 then code else a.version - b.version

/-- Rules are applied in a fixed order regardless of the order they were handed over in. -/
def ordered (rules : List ResolvedRule) : List ResolvedRule :=
  rules.insertionSort fun a b => compareRules a b ≤ 0

theorem compareRules_le_iff (a b : ResolvedRule) :
    compareRules a b ≤ 0 ↔ rank a.ruleKind < rank b.ruleKind ∨
      rank a.ruleKind = rank b.ruleKind ∧ (utf16 a.ruleCode < utf16 b.ruleCode ∨
        utf16 a.ruleCode = utf16 b.ruleCode ∧ a.version ≤ b.version) := by
  simp only [compareRules, jsLt, decide_eq_true_eq]
  rcases lt_trichotomy (utf16 a.ruleCode) (utf16 b.ruleCode) with h | h | h
  · simp only [h, if_true, true_or, and_true]
    split <;> omega
  · simp only [h, lt_irrefl, if_false, false_or, true_and, ne_eq, not_true_eq_false]
    split <;> omega
  · simp only [h, h.not_gt, h.ne', if_true, if_false, false_and, or_false, and_false]
    split <;> omega

instance : Std.Total fun a b => compareRules a b ≤ 0 where
  total a b := by
    simp only [compareRules_le_iff]
    rcases lt_trichotomy (utf16 a.ruleCode) (utf16 b.ruleCode) with h | h | h
    · simp only [h, true_or, and_true]
      omega
    · simp only [h, true_and, lt_irrefl, false_or]
      omega
    · simp only [h, true_or, and_true]
      omega

instance : IsTrans ResolvedRule fun a b => compareRules a b ≤ 0 where
  trans a b c hab hbc := by
    simp only [compareRules_le_iff] at *
    rcases hab with hab | ⟨hab, hab'⟩ <;> rcases hbc with hbc | ⟨hbc, hbc'⟩
    · exact .inl (lt_trans hab hbc)
    · exact .inl (hbc ▸ hab)
    · exact .inl (hab ▸ hbc)
    · refine .inr ⟨hab.trans hbc, ?_⟩
      rcases hab' with hab' | ⟨hab', hv⟩ <;> rcases hbc' with hbc' | ⟨hbc', hw⟩
      · exact .inl (lt_trans hab' hbc')
      · exact .inl (hbc' ▸ hab')
      · exact .inl (hab' ▸ hbc')
      · exact .inr ⟨hab'.trans hbc', le_trans hv hw⟩

theorem rank_injective : Function.Injective rank := by
  intro a b h
  cases a <;> cases b <;> first | rfl | cases h

theorem compareRules_antisymm {a b : ResolvedRule} (hab : compareRules a b ≤ 0)
    (hba : compareRules b a ≤ 0) :
    a.ruleKind = b.ruleKind ∧ a.ruleCode = b.ruleCode ∧ a.version = b.version := by
  rw [compareRules_le_iff] at hab hba
  rcases hab with hab | ⟨hk, hab⟩ <;> rcases hba with hba | ⟨hk', hba⟩
  · omega
  · omega
  · omega
  · rcases hab with hab | ⟨hc, hab⟩ <;> rcases hba with hba | ⟨hc', hba⟩
    · exact absurd hba (lt_asymm hab)
    · exact absurd hab (by rw [hc']; exact lt_irrefl _)
    · exact absurd hba (by rw [hc]; exact lt_irrefl _)
    · exact ⟨rank_injective hk, utf16_injective hc, le_antisymm hab hba⟩

/-! ## The passes -/

def magnitude (rule : ResolvedRule) (base : Int) : Int :=
  match rule.basis with
  | .flat_amount => rule.amountCents.getD 0
  | .rate_ppm => applyRate base (rule.ratePpm.getD 0)

/-- What the passes accumulate. -/
structure Sheet where
  sequenceNo : Nat
  lines : List ComputedLine
  applications : List RuleApplication
  taxTotalCents : Int
  feeTotalCents : Int
  incentiveTotalCents : Int

/-- Append a line under the next sequence number. -/
def Sheet.push (s : Sheet) (kind : LineKind) (lineCode label : String) (amountCents : Int)
    (ruleId : Option String) (ruleVersion : Option Int) : Sheet :=
  { s with
    sequenceNo := s.sequenceNo + 1
    lines := s.lines ++
      [⟨s.sequenceNo + 1, kind, lineCode, label, amountCents, ruleId, ruleVersion⟩] }

def Sheet.applied (s : Sheet) (rule : ResolvedRule) (resolvedAmountCents : Int) : Sheet :=
  { s with
    applications := s.applications ++
      [⟨rule.ruleId, rule.ruleKind, rule.ruleCode, rule.version, rule.source, rule.jurisdiction,
        rule.rooftopScoped, rule.effectiveFrom, rule.effectiveTo, resolvedAmountCents⟩] }

/-- The line kind of the three rule kinds that become lines; the passes admit no other. -/
def RuleKind.lineKind : RuleKind → LineKind
  | .tax => .tax
  | .fee => .fee
  | _ => .incentive

/-- The loop body of both pricing passes: one rule against its base. -/
def Sheet.price (s : Sheet) (rule : ResolvedRule) (base : Int) : Sheet :=
  let amount := magnitude rule base
  let s := s.applied rule amount
  let s :=
    match rule.ruleKind with
    | .tax => { s with taxTotalCents := s.taxTotalCents + amount }
    | .fee => { s with feeTotalCents := s.feeTotalCents + amount }
    | _ => { s with incentiveTotalCents := s.incentiveTotalCents + amount }
  s.push rule.ruleKind.lineKind rule.ruleCode rule.label
    (if rule.ruleKind = .incentive then -amount else amount) (some rule.ruleId) (some rule.version)

def ResolvedRule.priced (r : ResolvedRule) : Bool :=
  r.ruleKind = .tax || r.ruleKind = .fee || r.ruleKind = .incentive

def ResolvedRule.isCredit (r : ResolvedRule) : Bool :=
  r.ruleKind = .policy && r.ruleCode = TRADE_TAX_CREDIT && r.basis = .rate_ppm

def ResolvedRule.inFirstPass (r : ResolvedRule) : Bool := r.priced && r.appliesTo ≠ .total

def ResolvedRule.inSecondPass (r : ResolvedRule) : Bool := r.priced && r.appliesTo = .total

/-! ## The fingerprinted records -/

/-- What `inputFingerprint` is taken over: the rule book as versions rather than values. -/
def inputMembers (inputs : ScenarioInputs) (applications : List RuleApplication) :
    List (String × Value) :=
  [("vehicle_price_cents", .bigint inputs.vehiclePriceCents),
   ("trade_allowance_cents", .bigint inputs.tradeAllowanceCents),
   ("trade_payoff_cents", .bigint inputs.tradePayoffCents),
   ("cash_down_cents", .bigint inputs.cashDownCents),
   ("term_months", inputs.termMonths.elim .null .number),
   ("apr_ppm", inputs.aprPpm.elim .null .bigint),
   ("currency", .string inputs.currency),
   ("jurisdiction", .string inputs.jurisdiction),
   ("priced_at", .string inputs.pricedAt),
   ("rules", .array (applications.map fun a =>
     .array [.string a.ruleId, .number a.ruleVersion]))]

def inputRecord (inputs : ScenarioInputs) (applications : List RuleApplication) : Value :=
  .record (inputMembers inputs applications)

/-- What `outputFingerprint` is taken over. -/
def outputRecord (tradeEquityCents taxableAmountCents taxTotalCents feeTotalCents
    incentiveTotalCents amountFinancedCents : Int) (monthlyPaymentCents : Option Int)
    (lines : List ComputedLine) : Value :=
  .record
    [("trade_equity_cents", .bigint tradeEquityCents),
     ("taxable_amount_cents", .bigint taxableAmountCents),
     ("tax_total_cents", .bigint taxTotalCents),
     ("fee_total_cents", .bigint feeTotalCents),
     ("incentive_total_cents", .bigint incentiveTotalCents),
     ("amount_financed_cents", .bigint amountFinancedCents),
     ("monthly_payment_cents", monthlyPaymentCents.elim .null .bigint),
     ("lines", .array (lines.map fun l =>
       .array [.number l.sequenceNo, .string l.kind.text, .string l.lineCode,
         .bigint l.amountCents]))]

/-! ## The calculator -/

def openSheet (inputs : ScenarioInputs) : Sheet :=
  let s : Sheet := ⟨0, [], [], 0, 0, 0⟩
  let s := s.push .price "vehicle_price" "Vehicle price" inputs.vehiclePriceCents none none
  if inputs.tradeAllowanceCents ≠ 0 ∨ inputs.tradePayoffCents ≠ 0 then
    s.push .trade "trade_equity" "Trade equity (allowance less payoff)"
      (-(inputs.tradeAllowanceCents - inputs.tradePayoffCents)) none none
  else s

/-- 2: what the trade takes off the taxable base. -/
def creditCents (inputs : ScenarioInputs) (creditRule : Option ResolvedRule) : Int :=
  creditRule.elim 0 fun r => applyRate inputs.tradeAllowanceCents (r.ratePpm.getD 0)

def taxableAmountCents (inputs : ScenarioInputs) (creditRule : Option ResolvedRule) : Int :=
  if inputs.vehiclePriceCents - creditCents inputs creditRule > 0 then
    inputs.vehiclePriceCents - creditCents inputs creditRule
  else 0

def closeSheet (inputs : ScenarioInputs) (creditRule : Option ResolvedRule)
    (firstPass secondPass : List ResolvedRule) : Sheet :=
  let s := creditRule.elim (openSheet inputs) fun r =>
    (openSheet inputs).applied r (creditCents inputs creditRule)
  -- 3: taxes, fees and incentives on the price or the taxable base.
  let s := firstPass.foldl (fun s rule => s.price rule
    (if rule.appliesTo = .taxable_amount then taxableAmountCents inputs creditRule
     else inputs.vehiclePriceCents)) s
  -- 4 and 5: the subtotal, and everything written against it.
  let subtotalCents := inputs.vehiclePriceCents + s.taxTotalCents + s.feeTotalCents
  let s := secondPass.foldl (fun s rule => s.price rule subtotalCents) s
  -- 6: what is paid at once.
  if inputs.cashDownCents ≠ 0 then
    s.push .down_payment "cash_down" "Cash down" (-inputs.cashDownCents) none none
  else s

/-- 7: the monthly figure, when and only when both assumptions were given. -/
def monthlyFigure (inputs : ScenarioInputs) (amountFinancedCents : Int) :
    Except String (Option Int) :=
  match inputs.termMonths, inputs.aprPpm with
  | some termMonths, some aprPpm =>
    some <$> monthlyPayment amountFinancedCents termMonths aprPpm
  | _, _ => pure none

/-- The calculator over the rules it applies, in the order it applies them. -/
def priceWith (inputs : ScenarioInputs) (creditRule : Option ResolvedRule)
    (firstPass secondPass : List ResolvedRule) : Except String ComputedScenario := do
  let s := closeSheet inputs creditRule firstPass secondPass
  let tradeEquityCents := inputs.tradeAllowanceCents - inputs.tradePayoffCents
  let taxableAmountCents := taxableAmountCents inputs creditRule
  let amountFinancedCents :=
    inputs.vehiclePriceCents + s.taxTotalCents + s.feeTotalCents - s.incentiveTotalCents -
      inputs.cashDownCents - tradeEquityCents
  let monthlyPaymentCents ← monthlyFigure inputs amountFinancedCents
  return {
    tradeEquityCents, taxableAmountCents
    taxTotalCents := s.taxTotalCents
    feeTotalCents := s.feeTotalCents
    incentiveTotalCents := s.incentiveTotalCents
    amountFinancedCents, monthlyPaymentCents
    lines := s.lines
    applications := s.applications
    inputFingerprint := fingerprint (inputRecord inputs s.applications)
    outputFingerprint := fingerprint (outputRecord tradeEquityCents taxableAmountCents
      s.taxTotalCents s.feeTotalCents s.incentiveTotalCents amountFinancedCents
      monthlyPaymentCents s.lines) }

/-- The inputs and the resolved rule book go in, the figures and their digests come out. -/
def computeScenario (inputs : ScenarioInputs) (rules : List ResolvedRule) :
    Except String ComputedScenario :=
  let book := ordered rules
  priceWith inputs (book.find? (·.isCredit)) (book.filter (·.inFirstPass))
    (book.filter (·.inSecondPass))

end Dealership.Desking
