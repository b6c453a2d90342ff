import Dealership.Desking.Calculator
import Dealership.Library.Run

/-!
# The input fingerprint determines the output

The fingerprint of the inputs covers the scenario's explicit inputs and the ids
and versions of the rules that were applied, in the order they were applied.
Nothing else reaches a figure: the calculator is a function of the inputs and
of the applied rules (`computeScenario_eq`), and the applied rules can be read
back from their ids and versions.
-/

namespace Dealership.Desking

open Library List

variable {r : ResolvedRule}

/-- The rules a book applies, in the order the passes apply them. -/
def appliedRules (rules : List ResolvedRule) : List ResolvedRule :=
  let book := ordered rules
  (book.find? (·.isCredit)).toList ++ book.filter (·.inFirstPass) ++ book.filter (·.inSecondPass)

/-- A rule the calculator may apply: a tax, a fee, an incentive or the trade credit. -/
def ResolvedRule.applicable (r : ResolvedRule) : Bool := r.priced || r.isCredit

/-! ## The applied rules decide the passes -/

theorem not_isCredit_of_priced (h : r.priced = true) : r.isCredit = false := by
  unfold ResolvedRule.priced at h
  unfold ResolvedRule.isCredit
  cases hk : r.ruleKind <;> simp_all

theorem priced_of_inFirstPass (h : r.inFirstPass = true) : r.priced = true := by
  rw [ResolvedRule.inFirstPass, Bool.and_eq_true] at h
  exact h.1

theorem priced_of_inSecondPass (h : r.inSecondPass = true) : r.priced = true := by
  rw [ResolvedRule.inSecondPass, Bool.and_eq_true] at h
  exact h.1

theorem not_inSecondPass_of_inFirstPass (h : r.inFirstPass = true) : r.inSecondPass = false := by
  rw [ResolvedRule.inFirstPass, Bool.and_eq_true, decide_eq_true_eq] at h
  rw [ResolvedRule.inSecondPass, decide_eq_false h.2, Bool.and_false]

theorem filter_eq_nil_of_forall {p : ResolvedRule → Bool} {l : List ResolvedRule}
    (h : ∀ r ∈ l, p r = false) : l.filter p = [] := by
  rw [filter_eq_nil_iff]
  intro r hr
  rw [h r hr]
  exact Bool.false_ne_true

section Passes

variable (rules : List ResolvedRule)

theorem isCredit_of_mem_find (h : r ∈ ((ordered rules).find? (·.isCredit)).toList) :
    r.isCredit = true := by
  rw [Option.mem_toList] at h
  exact find?_some (p := ResolvedRule.isCredit) h

theorem find_isCredit_appliedRules :
    (appliedRules rules).find? (·.isCredit) = (ordered rules).find? (·.isCredit) := by
  simp only [appliedRules]
  cases h : (ordered rules).find? (·.isCredit) with
  | some r =>
    have hr : r.isCredit = true := isCredit_of_mem_find rules (by rw [h]; simp)
    simp [hr]
  | none =>
    have hfirst : ∀ r ∈ (ordered rules).filter (·.inFirstPass), ¬ r.isCredit = true := by
      intro r hr
      simp [not_isCredit_of_priced (priced_of_inFirstPass (mem_filter.mp hr).2)]
    have hsecond : ∀ r ∈ (ordered rules).filter (·.inSecondPass), ¬ r.isCredit = true := by
      intro r hr
      simp [not_isCredit_of_priced (priced_of_inSecondPass (mem_filter.mp hr).2)]
    rw [find?_eq_none]
    intro r hr
    simp only [Option.toList_none, nil_append, mem_append] at hr
    exact hr.elim (hfirst r) (hsecond r)

theorem filter_inFirstPass_appliedRules :
    (appliedRules rules).filter (·.inFirstPass) = (ordered rules).filter (·.inFirstPass) := by
  have hcredit : ((ordered rules).find? (·.isCredit)).toList.filter (·.inFirstPass) = [] := by
    refine filter_eq_nil_of_forall fun r hr => ?_
    have hc := isCredit_of_mem_find rules hr
    by_contra h
    rw [not_isCredit_of_priced (priced_of_inFirstPass (Bool.of_not_eq_false h))] at hc
    cases hc
  have hsecond : ((ordered rules).filter (·.inSecondPass)).filter (·.inFirstPass) = [] := by
    refine filter_eq_nil_of_forall fun r hr => ?_
    by_contra h
    have hs := (mem_filter.mp hr).2
    rw [not_inSecondPass_of_inFirstPass (Bool.of_not_eq_false h)] at hs
    cases hs
  rw [appliedRules, filter_append, filter_append, hcredit, hsecond, nil_append,
    append_nil, filter_filter]
  simp only [Bool.and_self]

theorem filter_inSecondPass_appliedRules :
    (appliedRules rules).filter (·.inSecondPass) = (ordered rules).filter (·.inSecondPass) := by
  have hcredit : ((ordered rules).find? (·.isCredit)).toList.filter (·.inSecondPass) = [] := by
    refine filter_eq_nil_of_forall fun r hr => ?_
    have hc := isCredit_of_mem_find rules hr
    by_contra h
    rw [not_isCredit_of_priced (priced_of_inSecondPass (Bool.of_not_eq_false h))] at hc
    cases hc
  have hfirst : ((ordered rules).filter (·.inFirstPass)).filter (·.inSecondPass) = [] :=
    filter_eq_nil_of_forall fun r hr =>
      not_inSecondPass_of_inFirstPass (mem_filter.mp hr).2
  rw [appliedRules, filter_append, filter_append, hcredit, hfirst, nil_append,
    nil_append, filter_filter]
  simp only [Bool.and_self]

theorem computeScenario_eq (inputs : ScenarioInputs) :
    computeScenario inputs rules =
      priceWith inputs ((appliedRules rules).find? (·.isCredit))
        ((appliedRules rules).filter (·.inFirstPass))
        ((appliedRules rules).filter (·.inSecondPass)) := by
  rw [find_isCredit_appliedRules, filter_inFirstPass_appliedRules, filter_inSecondPass_appliedRules]
  rfl

theorem mem_of_mem_appliedRules (h : r ∈ appliedRules rules) : r ∈ rules := by
  have hbook : r ∈ ordered rules := by
    rw [appliedRules, mem_append, mem_append] at h
    rcases h with (h | h) | h
    · exact mem_of_find?_eq_some (Option.mem_toList.mp h)
    · exact mem_of_mem_filter h
    · exact mem_of_mem_filter h
  rwa [ordered, mem_insertionSort] at hbook

theorem appliedRules_filter_applicable :
    appliedRules (rules.filter (·.applicable)) = appliedRules rules := by
  have hsort : ordered (rules.filter (·.applicable)) = (ordered rules).filter (·.applicable) := by
    rw [ordered, ordered, filter_insertionSort]
  have hcredit : ∀ r : ResolvedRule, (r.applicable && r.isCredit) = r.isCredit := by
    intro r
    cases hc : r.isCredit <;> simp [ResolvedRule.applicable, hc]
  have hfirst : ∀ r : ResolvedRule, (r.inFirstPass && r.applicable) = r.inFirstPass := by
    intro r
    cases hf : r.inFirstPass with
    | false => rfl
    | true => simp [ResolvedRule.applicable, priced_of_inFirstPass hf]
  have hsecond : ∀ r : ResolvedRule, (r.inSecondPass && r.applicable) = r.inSecondPass := by
    intro r
    cases hs : r.inSecondPass with
    | false => rfl
    | true => simp [ResolvedRule.applicable, priced_of_inSecondPass hs]
  simp only [appliedRules, hsort, find?_filter, filter_filter, hfirst, hsecond]
  simp [hcredit]

end Passes

/-! ## The applications name the applied rules -/

/-- The id and version an application records, as the fingerprint lists them. -/
def RuleApplication.ref (a : RuleApplication) : String × Int := (a.ruleId, a.ruleVersion)

def ResolvedRule.ref (r : ResolvedRule) : String × Int := (r.ruleId, r.version)

@[simp] theorem Sheet.applied_refs (s : Sheet) (rule : ResolvedRule) (amount : Int) :
    (s.applied rule amount).applications.map (·.ref) = s.applications.map (·.ref) ++ [rule.ref] := by
  simp [Sheet.applied, RuleApplication.ref, ResolvedRule.ref]

@[simp] theorem Sheet.price_refs (s : Sheet) (rule : ResolvedRule) (base : Int) :
    (s.price rule base).applications.map (·.ref) = s.applications.map (·.ref) ++ [rule.ref] := by
  rw [← Sheet.applied_refs s rule (magnitude rule base)]
  unfold Sheet.price
  cases rule.ruleKind <;> rfl

theorem foldl_price_refs (base : Sheet → ResolvedRule → Int) (rules : List ResolvedRule)
    (s : Sheet) :
    (rules.foldl (fun s r => s.price r (base s r)) s).applications.map (·.ref) =
      s.applications.map (·.ref) ++ rules.map (·.ref) := by
  induction rules generalizing s with
  | nil => simp
  | cons r rules ih => simp [ih]

@[simp] theorem openSheet_applications (inputs : ScenarioInputs) :
    (openSheet inputs).applications = [] := by
  unfold openSheet
  dsimp only
  split <;> rfl

theorem closeSheet_refs (inputs : ScenarioInputs) (credit : Option ResolvedRule)
    (first second : List ResolvedRule) :
    (closeSheet inputs credit first second).applications.map (·.ref) =
      (credit.toList ++ first ++ second).map (·.ref) := by
  have hcash : ∀ s : Sheet, (if inputs.cashDownCents ≠ 0 then
      s.push .down_payment "cash_down" "Cash down" (-inputs.cashDownCents) none none
      else s).applications = s.applications := by
    intro s
    split <;> rfl
  rw [closeSheet, hcash, foldl_price_refs (fun _ _ => _), foldl_price_refs (fun _ r => _)]
  cases credit with
  | none => simp
  | some r => simp

theorem priceWith_spec {inputs : ScenarioInputs} {credit : Option ResolvedRule}
    {first second : List ResolvedRule} {c : ComputedScenario}
    (h : priceWith inputs credit first second = .ok c) :
    c.applications.map (·.ref) = (credit.toList ++ first ++ second).map (·.ref) ∧
      c.inputFingerprint = fingerprint (inputRecord inputs c.applications) := by
  obtain ⟨payment, -, h⟩ := bind_eq_ok.mp h
  cases h
  exact ⟨closeSheet_refs inputs credit first second, rfl⟩

theorem computeScenario_refs {inputs : ScenarioInputs} {rules : List ResolvedRule}
    {c : ComputedScenario} (h : computeScenario inputs rules = .ok c) :
    c.applications.map (·.ref) = (appliedRules rules).map (·.ref) := (priceWith_spec h).1

/-! ## Reading the text back -/

/-- The text that is hashed into `inputFingerprint`. -/
def inputText (inputs : ScenarioInputs) (c : ComputedScenario) : List Char :=
  canonicalize (inputRecord inputs c.applications)

theorem bigint_toJson_inj {m n : Int} (h : (Value.bigint m).toJson = (Value.bigint n).toJson) :
    m = n := by
  simp only [Value.toJson, Json.string.injEq] at h
  exact intText_injective (String.ofList_injective h)

theorem optional_toJson_inj {f : Int → Value} (hnull : ∀ n, (f n).toJson ≠ .null)
    (hf : ∀ m n, (f m).toJson = (f n).toJson → m = n) {a b : Option Int}
    (h : (a.elim .null f).toJson = (b.elim .null f).toJson) : a = b := by
  cases a with
  | none =>
    cases b with
    | none => rfl
    | some n => exact absurd h.symm (hnull n)
  | some m =>
    cases b with
    | none => exact absurd h (hnull m)
    | some n => exact congrArg some (hf m n h)

theorem refs_toJson_inj {as bs : List RuleApplication}
    (h : (Value.array (as.map fun a => .array [.string a.ruleId, .number a.ruleVersion])).toJson =
      (Value.array (bs.map fun a => .array [.string a.ruleId, .number a.ruleVersion])).toJson) :
    as.map (·.ref) = bs.map (·.ref) := by
  simp only [Value.toJson, Json.array.injEq] at h
  induction as generalizing bs with
  | nil =>
    cases bs with
    | nil => rfl
    | cons b bs => cases h
  | cons a as ih =>
    cases bs with
    | nil => cases h
    | cons b bs =>
      simp only [map_cons, Value.toJsonAll, Value.toJson, List.cons.injEq,
        Json.array.injEq, Json.string.injEq, Json.number.injEq, and_true] at h
      rw [map_cons, map_cons, ih h.2, RuleApplication.ref, RuleApplication.ref, h.1.1, h.1.2]

/-- The hashed text determines the explicit inputs and the ids and versions of
the applied rules. -/
theorem inputRecord_inj {i j : ScenarioInputs} {as bs : List RuleApplication}
    (h : canonicalize (inputRecord i as) = canonicalize (inputRecord j bs)) :
    i = j ∧ as.map (·.ref) = bs.map (·.ref) := by
  have hkeys : ((inputMembers i as).map Prod.fst).Nodup := by simp [inputMembers]
  rw [inputRecord, inputRecord] at h
  have hsame : (inputMembers i as).map Prod.fst = (inputMembers j bs).map Prod.fst := rfl
  have hm := record_members_eq hsame hkeys h
  simp only [inputMembers, map_cons, map_nil, List.cons.injEq, Prod.mk.injEq, true_and, and_true] at hm
  obtain ⟨hprice, hallowance, hpayoff, hcash, hterm, hapr, hcur, hjur, hat, hrules⟩ := hm
  have hterm := optional_toJson_inj (f := .number) (by intro n h; cases h)
    (by intro m n h; simpa only [Value.toJson, Json.number.injEq] using h) hterm
  have hapr := optional_toJson_inj (f := .bigint) (by intro n h; cases h)
    (fun _ _ => bigint_toJson_inj) hapr
  simp only [Value.toJson, Json.string.injEq] at hcur hjur hat
  refine ⟨?_, refs_toJson_inj hrules⟩
  have hprice := bigint_toJson_inj hprice
  have hallowance := bigint_toJson_inj hallowance
  have hpayoff := bigint_toJson_inj hpayoff
  have hcash := bigint_toJson_inj hcash
  cases i
  cases j
  simp only at hprice hallowance hpayoff hcash hterm hapr hcur hjur hat
  rw [hprice, hallowance, hpayoff, hcash, hterm, hapr, hcur, hjur, hat]

/-! ## Two runs with the same input text -/

/-- Rules that share id and version are identical: a version of a rule is
written once and never edited. -/
def OneRulePerVersion (rules : List ResolvedRule) : Prop :=
  ∀ r ∈ rules, ∀ r' ∈ rules, r.ruleId = r'.ruleId → r.version = r'.version → r = r'

instance (rules : List ResolvedRule) : Decidable (OneRulePerVersion rules) :=
  inferInstanceAs (Decidable (∀ r ∈ rules, ∀ r' ∈ rules, _))

theorem eq_of_refs_eq {rules xs ys : List ResolvedRule} (h : OneRulePerVersion rules)
    (hx : ∀ r ∈ xs, r ∈ rules) (hy : ∀ r ∈ ys, r ∈ rules)
    (href : xs.map (·.ref) = ys.map (·.ref)) : xs = ys := by
  induction xs generalizing ys with
  | nil =>
    cases ys with
    | nil => rfl
    | cons y ys => cases href
  | cons x xs ih =>
    cases ys with
    | nil => cases href
    | cons y ys =>
      simp only [map_cons, List.cons.injEq, ResolvedRule.ref, Prod.mk.injEq] at href
      have hxy : x = y := h x (hx x mem_cons_self) y (hy y mem_cons_self) href.1.1 href.1.2
      rw [hxy, ih (fun r hr => hx r (mem_cons_of_mem _ hr))
        (fun r hr => hy r (mem_cons_of_mem _ hr)) href.2]

/-- Equal input texts come from equal inputs and equal applied rules, so they
have the same computation. -/
theorem computeScenario_eq_of_inputText_eq {i₁ i₂ : ScenarioInputs}
    {R₁ R₂ : List ResolvedRule} {c₁ c₂ : ComputedScenario}
    (hR : OneRulePerVersion (R₁ ++ R₂)) (h₁ : computeScenario i₁ R₁ = .ok c₁)
    (h₂ : computeScenario i₂ R₂ = .ok c₂) (htext : inputText i₁ c₁ = inputText i₂ c₂) :
    c₁ = c₂ := by
  obtain ⟨rfl, href⟩ := inputRecord_inj htext
  rw [computeScenario_refs h₁, computeScenario_refs h₂] at href
  have hrules : appliedRules R₁ = appliedRules R₂ :=
    eq_of_refs_eq hR (fun r hr => mem_append_left _ (mem_of_mem_appliedRules R₁ hr))
      (fun r hr => mem_append_right _ (mem_of_mem_appliedRules R₂ hr)) href
  rw [computeScenario_eq, hrules, ← computeScenario_eq, h₂] at h₁
  exact (Except.ok.inj h₁).symm

/-- The canonical text hashed into the input fingerprint determines every
figure, every line, every application and the output fingerprint; rules that
are never applied have no influence at all. -/
theorem inputFingerprint_determines_output :
    (∀ (i₁ i₂ : ScenarioInputs) (R₁ R₂ : List ResolvedRule) (c₁ c₂ : ComputedScenario),
      OneRulePerVersion (R₁ ++ R₂) →
      computeScenario i₁ R₁ = .ok c₁ → computeScenario i₂ R₂ = .ok c₂ →
      inputText i₁ c₁ = inputText i₂ c₂ →
      c₁.tradeEquityCents = c₂.tradeEquityCents ∧
      c₁.taxableAmountCents = c₂.taxableAmountCents ∧
      c₁.taxTotalCents = c₂.taxTotalCents ∧
      c₁.feeTotalCents = c₂.feeTotalCents ∧
      c₁.incentiveTotalCents = c₂.incentiveTotalCents ∧
      c₁.amountFinancedCents = c₂.amountFinancedCents ∧
      c₁.monthlyPaymentCents = c₂.monthlyPaymentCents ∧
      c₁.lines = c₂.lines ∧ c₁.applications = c₂.applications ∧
      c₁.outputFingerprint = c₂.outputFingerprint) ∧
    (∀ (i : ScenarioInputs) (R : List ResolvedRule) (c : ComputedScenario),
      computeScenario i R = .ok c → c.inputFingerprint = Sha256.hexText (inputText i c)) ∧
    (∀ (i : ScenarioInputs) (R : List ResolvedRule),
      computeScenario i (R.filter (·.applicable)) = computeScenario i R) := by
  refine ⟨?_, ?_, ?_⟩
  · intro i₁ i₂ R₁ R₂ c₁ c₂ hR h₁ h₂ htext
    obtain rfl := computeScenario_eq_of_inputText_eq hR h₁ h₂ htext
    exact ⟨rfl, rfl, rfl, rfl, rfl, rfl, rfl, rfl, rfl, rfl⟩
  · intro i R c h
    exact (priceWith_spec h).2
  · intro i R
    rw [computeScenario_eq, appliedRules_filter_applicable, ← computeScenario_eq]

def cashDeal : ScenarioInputs where
  vehiclePriceCents := 2500000
  tradeAllowanceCents := 400000
  tradePayoffCents := 100000
  cashDownCents := 50000
  termMonths := none
  aprPpm := none
  currency := "USD"
  jurisdiction := "US-OH"
  pricedAt := "2026-05-01T00:00:00.000Z"

def salesTax : ResolvedRule where
  ruleId := "r1"
  ruleKind := .tax
  ruleCode := "state_sales"
  label := "State sales tax"
  source := "ORC 5739.02"
  jurisdiction := "US-OH"
  rooftopScoped := false
  version := 1
  effectiveFrom := "2026-01-01T00:00:00.000Z"
  effectiveTo := none
  basis := .rate_ppm
  ratePpm := some 65000
  amountCents := none
  appliesTo := .taxable_amount

/-- A valuation rule, which the calculator never applies. -/
def bookValue : ResolvedRule :=
  { salesTax with ruleId := "r2", ruleKind := .valuation, ruleCode := "book_value" }

/-- The sheet with a valuation rule in the book is the sheet without it. -/
theorem inputFingerprint_determines_output_bookValue :
    ∃ c₁ c₂, computeScenario cashDeal [salesTax] = .ok c₁ ∧
      computeScenario cashDeal [bookValue, salesTax] = .ok c₂ ∧
      c₁.taxTotalCents = 162500 ∧ c₁.lines = c₂.lines ∧
      c₁.outputFingerprint = c₂.outputFingerprint := by
  refine ⟨_, _, rfl, rfl, by decide +kernel, ?_⟩
  have h := inputFingerprint_determines_output.1 cashDeal cashDeal [salesTax]
    [bookValue, salesTax] _ _ (by decide +kernel) rfl rfl rfl
  exact ⟨h.2.2.2.2.2.2.2.1, h.2.2.2.2.2.2.2.2.2⟩

end Dealership.Desking
