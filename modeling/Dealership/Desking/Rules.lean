import Dealership.Desking.Calculator
import Dealership.Library.Table
import Mathlib.Algebra.Group.Int.Defs

/-!
# The rule book at an instant

`desking_rules` holds every version of every tax, fee, incentive, valuation and
policy rule of a tenant.  `resolveRuleBookWithin` reads the rows in force at an
instant for one jurisdiction and one rooftop, lets a rooftop's own rule replace
the tenant-wide rule of the same kind and code, and reports kinds that were
never configured or went stale.

A table value carries the constraints of the migration, so an overlapping rule
book cannot be built; the order in which the database returns rows is left open
and shown not to matter.
-/

namespace Dealership.Desking

open Library List

/-! ## The table -/

/-- A row of `desking_rules`; instants are microseconds. -/
structure DeskingRule where
  rule_id : String
  rule_kind : RuleKind
  rule_code : String
  label : String
  source : String
  jurisdiction : String
  /-- `none` means every rooftop in the tenant. -/
  rooftop_id : Option String
  version : Int
  effective_from : Int
  effective_to : Option Int
  basis : RuleBasis
  rate_ppm : Option Int
  amount_cents : Option Int
  applies_to : RuleTarget
deriving DecidableEq

/-- `COALESCE(rooftop_id, '00000000-0000-0000-0000-000000000000'::uuid)`. -/
def DeskingRule.scope (r : DeskingRule) : String :=
  r.rooftop_id.getD "00000000-0000-0000-0000-000000000000"

/-- `effective_from <= at AND (effective_to IS NULL OR effective_to > at)`. -/
def DeskingRule.InForce (instant : Int) (r : DeskingRule) : Prop :=
  r.effective_from ≤ instant ∧ ∀ e ∈ r.effective_to, instant < e

instance (instant : Int) (r : DeskingRule) : Decidable (r.InForce instant) :=
  inferInstanceAs (Decidable (_ ∧ _))

/-- `tstzrange(effective_from, effective_to) && …`: the half-open intervals meet. -/
def DeskingRule.Overlaps (r r' : DeskingRule) : Prop :=
  (∀ e ∈ r'.effective_to, r.effective_from < e) ∧ ∀ e ∈ r.effective_to, r'.effective_from < e

instance (r r' : DeskingRule) : Decidable (r.Overlaps r') := inferInstanceAs (Decidable (_ ∧ _))

/-- The operands of `uq_desking_rules_no_overlap` that are compared with `=`. -/
def DeskingRule.SameScope (r r' : DeskingRule) : Prop :=
  r.rule_kind = r'.rule_kind ∧ r.rule_code = r'.rule_code ∧
    r.jurisdiction = r'.jurisdiction ∧ r.scope = r'.scope

instance (r r' : DeskingRule) : Decidable (r.SameScope r') := inferInstanceAs (Decidable (_ ∧ _))

/-- A `BIGINT` column. -/
def fitsBigint (n : Int) : Bool := -(2 ^ 63) ≤ n && n < 2 ^ 63

/-- `jurisdiction ~ '^[A-Z0-9-]{2,40}$'`. -/
def isJurisdiction (s : String) : Bool :=
  2 ≤ s.length && s.length ≤ 40 &&
    s.toList.all fun c => ('A' ≤ c && c ≤ 'Z') || c.isDigit || c = '-'

/-- `[a-z0-9_]`. -/
def isRuleCodeChar (c : Char) : Bool := ('a' ≤ c && c ≤ 'z') || c.isDigit || c = '_'

/-- `rule_code ~ '^[a-z0-9_]{2,40}$'`. -/
def isRuleCode (s : String) : Bool :=
  2 ≤ s.length && s.length ≤ 40 && s.toList.all isRuleCodeChar

/-- `ck_rule_interval`, `ck_rule_value_matches_basis`, `ck_rule_amount_non_negative`
and the checks on the single columns. -/
def DeskingRule.Checks (r : DeskingRule) : Prop :=
  (∀ e ∈ r.effective_to, r.effective_from < e) ∧
  (r.basis = .rate_ppm ∧ r.rate_ppm.isSome ∧ r.amount_cents = none ∨
    r.basis = .flat_amount ∧ r.amount_cents.isSome ∧ r.rate_ppm = none) ∧
  (∀ a ∈ r.amount_cents, 0 ≤ a) ∧ (∀ p ∈ r.rate_ppm, 0 ≤ p ∧ p ≤ 100000000) ∧ 1 ≤ r.version ∧
  isRuleCode r.rule_code ∧ (1 ≤ r.label.length ∧ r.label.length ≤ 120) ∧
  (1 ≤ r.source.length ∧ r.source.length ≤ 200) ∧ isJurisdiction r.jurisdiction ∧
  ∀ a ∈ r.amount_cents, fitsBigint a

instance (r : DeskingRule) : Decidable r.Checks := inferInstanceAs (Decidable (_ ∧ _))

/-- The contents of `desking_rules`, in some order, with the constraints of the
migration. -/
structure RuleTable where
  rows : List DeskingRule
  /-- The primary key. -/
  rule_id : (rows.map (·.rule_id)).Nodup
  /-- `UNIQUE (tenant_id, rule_kind, rule_code, version)`. -/
  kind_code_version : (rows.map fun r => (r.rule_kind, r.rule_code, r.version)).Nodup
  /-- The `CHECK`s. -/
  checks : ∀ r ∈ rows, r.Checks
  /-- `uq_desking_rules_no_overlap`. -/
  no_overlap : ∀ r ∈ rows, ∀ r' ∈ rows, r ≠ r' → r.SameScope r' → ¬ r.Overlaps r'

/-! ## Resolution -/

def mapRule (row : DeskingRule) : ResolvedRule where
  ruleId := row.rule_id
  ruleKind := row.rule_kind
  ruleCode := row.rule_code
  label := row.label
  source := row.source
  jurisdiction := row.jurisdiction
  rooftopScoped := row.rooftop_id.isSome
  version := row.version
  effectiveFrom := isoOfDate row.effective_from
  effectiveTo := row.effective_to.map isoOfDate
  basis := row.basis
  ratePpm := row.rate_ppm
  amountCents := row.amount_cents
  appliesTo := row.applies_to

def RuleKind.text : RuleKind → String
  | .tax => "tax"
  | .fee => "fee"
  | .incentive => "incentive"
  | .valuation => "valuation"
  | .policy => "policy"

/-- The key a choice is made under: kind, colon, code. -/
def ruleKey (rule : ResolvedRule) : String := rule.ruleKind.text ++ ":" ++ rule.ruleCode

/-- One round of the choice: the first rule of its key, or a rooftop's own rule
in place of a tenant-wide one. -/
def chooseStep (chosen : Entries String ResolvedRule) (rule : ResolvedRule) :
    Entries String ResolvedRule :=
  match chosen.get (ruleKey rule) with
  | none => chosen.set (ruleKey rule) rule
  | some held =>
    if rule.rooftopScoped && !held.rooftopScoped then chosen.set (ruleKey rule) rule else chosen

/-- The map of chosen rules, over the rules in the order they arrive. -/
def chosen (inForce : List ResolvedRule) : Entries String ResolvedRule :=
  inForce.foldl chooseStep []

/-- `jurisdiction = $2 AND (rooftop_id IS NULL OR rooftop_id = $3)`. -/
def DeskingRule.Covers (jurisdiction rooftopId : String) (r : DeskingRule) : Prop :=
  r.jurisdiction = jurisdiction ∧ ∀ t ∈ r.rooftop_id, t = rooftopId

instance (jurisdiction rooftopId : String) (r : DeskingRule) :
    Decidable (r.Covers jurisdiction rooftopId) := inferInstanceAs (Decidable (_ ∧ _))

/-- A row of the second query: a kind the jurisdiction has ever had. -/
structure KnownKind where
  rule_kind : RuleKind
  any_in_force : Bool

structure RuleBook where
  rules : List ResolvedRule
  /-- Kinds the jurisdiction has never had a rule for. -/
  missing : List RuleKind
  /-- Kinds whose only rules stopped being in force before the pricing instant. -/
  expired : List RuleKind

section Queries

variable (rows : List DeskingRule) (jurisdiction rooftopId : String) (instant : Int)

/-- The rows in force, in table order. -/
def inForceRows : List DeskingRule :=
  rows.filter fun r => r.Covers jurisdiction rooftopId ∧ r.InForce instant

/-- `SELECT rule_kind, bool_or(effective_to IS NULL OR effective_to > $4) … GROUP BY rule_kind`.
The aggregate does not look at `effective_from`. -/
def knownKinds : List KnownKind :=
  let covered := rows.filter fun r => r.Covers jurisdiction rooftopId
  [RuleKind.tax, .fee, .incentive, .valuation, .policy].filterMap fun kind =>
    let group := covered.filter fun r => r.rule_kind = kind
    if group = [] then none
    else some ⟨kind, group.any fun r => decide (∀ e ∈ r.effective_to, instant < e)⟩

end Queries

/-- The book made of the two query results, in whatever order they arrive. -/
def ruleBookOf (found : List DeskingRule) (known : List KnownKind) : RuleBook :=
  let everKinds := known.map (·.rule_kind)
  let staleKinds := (known.filter fun k => k.any_in_force = false).map (·.rule_kind)
  let priceable := [RuleKind.tax]
  { rules := (chosen (found.map mapRule)).values
    missing := priceable.filter fun k => k ∉ everKinds
    expired := priceable.filter fun k => k ∈ everKinds ∧ k ∈ staleKinds }

/-- The rule book at an instant, for one jurisdiction and one rooftop. -/
def resolveRuleBookWithin (rows : List DeskingRule) (jurisdiction rooftopId : String)
    (instant : Int) : RuleBook :=
  ruleBookOf (inForceRows rows jurisdiction rooftopId instant)
    (knownKinds rows jurisdiction rooftopId instant)

/-! ## The choice does not depend on the order of the rows -/

/-- A rooftop's own rule outranks the tenant-wide one. -/
def specificity (rule : ResolvedRule) : Nat := if rule.rooftopScoped then 1 else 0

theorem specificity_lt_iff (held rule : ResolvedRule) :
    specificity held < specificity rule ↔ (rule.rooftopScoped && !held.rooftopScoped) = true := by
  unfold specificity
  cases held.rooftopScoped <;> cases rule.rooftopScoped <;> decide

theorem chosen_eq_pick (rules : List ResolvedRule) :
    chosen rules = pick ruleKey specificity rules := by
  have hstep : chooseStep = pickStep ruleKey specificity := by
    funext m rule
    rw [chooseStep, pickStep]
    cases m.get (ruleKey rule) with
    | none => rfl
    | some held => exact if_congr (specificity_lt_iff held rule).symm rfl rfl
  rw [chosen, hstep, pick]

theorem specificity_inj {a b : ResolvedRule} (h : specificity a = specificity b) :
    a.rooftopScoped = b.rooftopScoped := by
  unfold specificity at h
  revert h
  cases a.rooftopScoped <;> cases b.rooftopScoped <;> simp

theorem specificity_le_one (r : ResolvedRule) : specificity r ≤ 1 := by
  unfold specificity
  split <;> omega

theorem ruleKey_inj {a b : ResolvedRule} (h : ruleKey a = ruleKey b) :
    a.ruleKind = b.ruleKind ∧ a.ruleCode = b.ruleCode := by
  have hl := congrArg String.toList h
  simp only [ruleKey, String.toList_append] at hl
  revert hl
  cases a.ruleKind <;> cases b.ruleKind <;> simp [RuleKind.text, String.toList_inj]

theorem DeskingRule.InForce.overlaps {instant : Int} {r r' : DeskingRule}
    (h : r.InForce instant) (h' : r'.InForce instant) : r.Overlaps r' :=
  ⟨fun e he => lt_of_le_of_lt h.1 (h'.2 e he), fun e he => lt_of_le_of_lt h'.1 (h.2 e he)⟩

section Order

variable {T : RuleTable} {jurisdiction rooftopId : String} {instant : Int}
  {found : List DeskingRule}

theorem RuleTable.eq_of_inForce {r r' : DeskingRule}
    (hr : r ∈ inForceRows T.rows jurisdiction rooftopId instant)
    (hr' : r' ∈ inForceRows T.rows jurisdiction rooftopId instant)
    (hkind : r.rule_kind = r'.rule_kind) (hcode : r.rule_code = r'.rule_code)
    (hscoped : r.rooftop_id.isSome = r'.rooftop_id.isSome) : r = r' := by
  simp only [inForceRows, mem_filter, decide_eq_true_eq] at hr hr'
  obtain ⟨hmem, ⟨hj, ht⟩, hforce⟩ := hr
  obtain ⟨hmem', ⟨hj', ht'⟩, hforce'⟩ := hr'
  have hrooftop : r.rooftop_id = r'.rooftop_id := by
    cases h : r.rooftop_id with
    | none =>
      rw [h] at hscoped
      exact (Option.isNone_iff_eq_none.mp (by simpa using hscoped.symm)).symm
    | some t =>
      rw [h] at hscoped
      obtain ⟨t', h'⟩ := Option.isSome_iff_exists.mp hscoped.symm
      rw [h', ht t h, ht' t' h']
  by_contra hne
  exact T.no_overlap r hmem r' hmem' hne
    ⟨hkind, hcode, hj.trans hj'.symm, by rw [DeskingRule.scope, hrooftop, DeskingRule.scope]⟩
    (hforce.overlaps hforce')

theorem RuleTable.noTies (hf : found.Perm (inForceRows T.rows jurisdiction rooftopId instant)) :
    NoTies ruleKey specificity (found.map mapRule) := by
  intro x hx y hy hkey hrank
  obtain ⟨r, hr, rfl⟩ := mem_map.mp hx
  obtain ⟨r', hr', rfl⟩ := mem_map.mp hy
  obtain ⟨hkind, hcode⟩ := ruleKey_inj hkey
  rw [RuleTable.eq_of_inForce (hf.mem_iff.mp hr) (hf.mem_iff.mp hr') hkind hcode
    (specificity_inj hrank)]

theorem ordered_eq_of_perm {found' : List DeskingRule}
    (hf : found.Perm (inForceRows T.rows jurisdiction rooftopId instant)) (hp : found.Perm found') :
    ordered (pick ruleKey specificity (found.map mapRule)).values =
      ordered (pick ruleKey specificity (found'.map mapRule)).values := by
  refine insertionSort_eq_of_perm (pick_perm (RuleTable.noTies hf) (hp.map mapRule)) ?_
  intro x hx y hy hxy hyx
  obtain ⟨hkind, hcode, -⟩ := compareRules_antisymm hxy hyx
  exact eq_of_key (nodup_map_key_pick _) hx hy (by rw [ruleKey, ruleKey, hkind, hcode])

/-- `row` is what the book answers for its kind and code: the rooftop's own rule
in force, or the tenant-wide one when the rooftop has none in force. -/
def IsChosen (rows : List DeskingRule) (jurisdiction rooftopId : String) (instant : Int)
    (row : DeskingRule) : Prop :=
  row ∈ rows ∧ row.Covers jurisdiction rooftopId ∧ row.InForce instant ∧
    (row.rooftop_id = some rooftopId ∨ row.rooftop_id = none ∧
      ∀ other ∈ rows, other.Covers jurisdiction rooftopId → other.InForce instant →
        other.rule_kind = row.rule_kind → other.rule_code = row.rule_code →
        other.rooftop_id = none)

instance (rows : List DeskingRule) (jurisdiction rooftopId : String) (instant : Int)
    (row : DeskingRule) : Decidable (IsChosen rows jurisdiction rooftopId instant row) :=
  inferInstanceAs (Decidable (_ ∧ _))

theorem isBest_mapRule_iff (hf : found.Perm (inForceRows T.rows jurisdiction rooftopId instant))
    (rule : ResolvedRule) :
    IsBest ruleKey specificity (found.map mapRule) rule ↔
      ∃ row, IsChosen T.rows jurisdiction rooftopId instant row ∧ rule = mapRule row := by
  have hmem : ∀ row, row ∈ found ↔
      row ∈ T.rows ∧ row.Covers jurisdiction rooftopId ∧ row.InForce instant := by
    intro row
    rw [hf.mem_iff, inForceRows, mem_filter, decide_eq_true_eq]
  constructor
  · rintro ⟨hrule, hbest⟩
    obtain ⟨row, hrow, rfl⟩ := mem_map.mp hrule
    obtain ⟨hin, hcover, hforce⟩ := (hmem row).mp hrow
    refine ⟨row, ⟨hin, hcover, hforce, ?_⟩, rfl⟩
    cases hr : row.rooftop_id with
    | some t => exact .inl (by rw [hcover.2 t hr])
    | none =>
      refine .inr ⟨rfl, fun other ho hoc hof hkind hcode => ?_⟩
      -- A rooftop rule of the same key would outrank this one.
      have hle := hbest (mapRule other) (mem_map_of_mem ((hmem other).mpr ⟨ho, hoc, hof⟩))
        (by simp only [ruleKey, mapRule, hkind, hcode])
      cases hother : other.rooftop_id with
      | none => rfl
      | some t => simp [specificity, mapRule, hr, hother] at hle
  · rintro ⟨row, ⟨hin, hcover, hforce, hchoice⟩, rfl⟩
    refine ⟨mem_map_of_mem ((hmem row).mpr ⟨hin, hcover, hforce⟩), fun x hx hkey => ?_⟩
    obtain ⟨other, hother, rfl⟩ := mem_map.mp hx
    obtain ⟨ho, hoc, hof⟩ := (hmem other).mp hother
    obtain ⟨hkind, hcode⟩ := ruleKey_inj hkey
    rcases hchoice with hr | ⟨hr, hnone⟩
    · calc specificity (mapRule other) ≤ 1 := specificity_le_one _
        _ = specificity (mapRule row) := by simp [specificity, mapRule, hr]
    · simp [specificity, mapRule, hr, hnone other ho hoc hof hkind hcode]

end Order

/-- For every order of the rows the database returns, the book answers for each
kind and code with the rooftop's own rule in force or else the tenant-wide one,
and the calculator computes the same scenario. -/
theorem pricing_ignores_row_order (T : RuleTable) (jurisdiction rooftopId : String)
    (instant : Int) (found : List DeskingRule) (known : List KnownKind)
    (hf : found.Perm (inForceRows T.rows jurisdiction rooftopId instant))
    (hk : known.Perm (knownKinds T.rows jurisdiction rooftopId instant)) :
    (∀ rule, rule ∈ (ruleBookOf found known).rules ↔
      ∃ row, IsChosen T.rows jurisdiction rooftopId instant row ∧ rule = mapRule row) ∧
    (∀ r ∈ (ruleBookOf found known).rules, ∀ r' ∈ (ruleBookOf found known).rules,
      r.ruleKind = r'.ruleKind → r.ruleCode = r'.ruleCode → r = r') ∧
    (∀ row ∈ T.rows, row.Covers jurisdiction rooftopId → row.InForce instant →
      ∃ r ∈ (ruleBookOf found known).rules,
        r.ruleKind = row.rule_kind ∧ r.ruleCode = row.rule_code) ∧
    (ruleBookOf found known).missing =
      (resolveRuleBookWithin T.rows jurisdiction rooftopId instant).missing ∧
    (ruleBookOf found known).expired =
      (resolveRuleBookWithin T.rows jurisdiction rooftopId instant).expired ∧
    ∀ inputs, computeScenario inputs (ruleBookOf found known).rules =
      computeScenario inputs (resolveRuleBookWithin T.rows jurisdiction rooftopId instant).rules := by
  refine ⟨?_, ?_, ?_, ?_, ?_, ?_⟩
  · intro rule
    rw [ruleBookOf, chosen_eq_pick, mem_pick_iff (RuleTable.noTies hf), isBest_mapRule_iff hf]
  · intro r hr r' hr' hkind hcode
    rw [ruleBookOf, chosen_eq_pick] at hr hr'
    exact eq_of_key (nodup_map_key_pick _) hr hr' (by rw [ruleKey, ruleKey, hkind, hcode])
  · intro row hrow hcover hforce
    have hmem : mapRule row ∈ found.map mapRule := by
      refine mem_map_of_mem (hf.mem_iff.mpr ?_)
      rw [inForceRows, mem_filter, decide_eq_true_eq]
      exact ⟨hrow, hcover, hforce⟩
    obtain ⟨r, hr, hkey⟩ := exists_mem_pick ruleKey specificity hmem
    rw [← chosen_eq_pick] at hr
    exact ⟨r, hr, ruleKey_inj hkey⟩
  · simp only [ruleBookOf, resolveRuleBookWithin, (hk.map _).mem_iff]
  · simp only [ruleBookOf, resolveRuleBookWithin, (hk.map _).mem_iff, ((hk.filter _).map _).mem_iff]
  · intro inputs
    simp only [computeScenario, ruleBookOf, resolveRuleBookWithin, chosen_eq_pick,
      ordered_eq_of_perm hf hf]

/-- A tenant-wide sales tax, in force since 2026-01-01. -/
def tenantTax : DeskingRule where
  rule_id := "r1"
  rule_kind := .tax
  rule_code := "state_sales"
  label := "State sales tax"
  source := "ORC 5739.02"
  jurisdiction := "US-OH"
  rooftop_id := none
  version := 1
  effective_from := 1767225600000000
  effective_to := none
  basis := .rate_ppm
  rate_ppm := some 65000
  amount_cents := none
  applies_to := .taxable_amount

def rooftopTax : DeskingRule :=
  { tenantTax with rule_id := "r2", rooftop_id := some "north", version := 2, rate_ppm := some 70000 }

def twoScopes : RuleTable where
  rows := [tenantTax, rooftopTax]
  rule_id := by decide
  kind_code_version := by decide
  checks := by decide
  no_overlap := by decide

/-- Returned in either order, the rooftop's own rule is the one that prices. -/
theorem pricing_ignores_row_order_twoScopes :
    mapRule rooftopTax ∈ (ruleBookOf [rooftopTax, tenantTax]
      (knownKinds twoScopes.rows "US-OH" "north" 1777593600000000)).rules ∧
    ∀ inputs, computeScenario inputs (ruleBookOf [rooftopTax, tenantTax]
        (knownKinds twoScopes.rows "US-OH" "north" 1777593600000000)).rules =
      computeScenario inputs
        (resolveRuleBookWithin twoScopes.rows "US-OH" "north" 1777593600000000).rules := by
  have h := pricing_ignores_row_order twoScopes "US-OH" "north" 1777593600000000
    [rooftopTax, tenantTax] _ (by decide) (List.Perm.refl _)
  refine ⟨(h.1 _).mpr ⟨rooftopTax, ?_, rfl⟩, h.2.2.2.2.2⟩
  exact ⟨by decide, by decide, by decide, .inl rfl⟩

end Dealership.Desking
