import Dealership.Desking.Determinism
import Mathlib.Algebra.BigOperators.Group.List.Basic
import Mathlib.Algebra.Ring.Int.Defs

/-!
# The lines are the deal

What the passes of the calculator write line by line, and that the lines come to the figures:
every line is numbered, the balance of the lines is the amount financed, and each tax, fee or
incentive of the book is one line and one application of the same magnitude.
-/

namespace Dealership.Desking

open Library List

/-! ## What a rule comes to -/

/-- The trade credit the book applies. -/
def tradeCredit (rules : List ResolvedRule) : Option ResolvedRule :=
  (ordered rules).find? (·.isCredit)

/-- What a rule of the first pass is computed on. -/
def firstBase (inputs : ScenarioInputs) (credit : Option ResolvedRule) (r : ResolvedRule) : Int :=
  if r.appliesTo = .taxable_amount then taxableAmountCents inputs credit
  else inputs.vehiclePriceCents

def totalOf (kind : RuleKind) (base : ResolvedRule → Int) (rules : List ResolvedRule) : Int :=
  ((rules.filter fun r => r.ruleKind = kind).map fun r => magnitude r (base r)).sum

/-- The price and what the first pass adds to it: its taxes and its fees, and no other rule. -/
def subtotal (inputs : ScenarioInputs) (credit : Option ResolvedRule)
    (rules : List ResolvedRule) : Int :=
  inputs.vehiclePriceCents +
    totalOf .tax (firstBase inputs credit) (rules.filter (·.inFirstPass)) +
      totalOf .fee (firstBase inputs credit) (rules.filter (·.inFirstPass))

/-- What a tax, a fee or an incentive of a book comes to. -/
def amountOf (inputs : ScenarioInputs) (rules : List ResolvedRule) (r : ResolvedRule) : Int :=
  magnitude r (if r.appliesTo = .total then subtotal inputs (tradeCredit rules) rules
    else firstBase inputs (tradeCredit rules) r)

structure Entry where
  kind : LineKind
  lineCode : String
  label : String
  amountCents : Int
  ruleId : Option String
  ruleVersion : Option Int

def ComputedLine.entry (l : ComputedLine) : Entry :=
  ⟨l.kind, l.lineCode, l.label, l.amountCents, l.ruleId, l.ruleVersion⟩

def ResolvedRule.entry (r : ResolvedRule) (amount : Int) : Entry :=
  ⟨r.ruleKind.lineKind, r.ruleCode, r.label, if r.ruleKind = .incentive then -amount else amount,
    some r.ruleId, some r.version⟩

def ResolvedRule.application (r : ResolvedRule) (amount : Int) : RuleApplication :=
  ⟨r.ruleId, r.ruleKind, r.ruleCode, r.version, r.source, r.jurisdiction, r.rooftopScoped,
    r.effectiveFrom, r.effectiveTo, amount⟩

/-! ## Sheets that add up -/

def lineTotal (kind : LineKind) (lines : List ComputedLine) : Int :=
  ((lines.filter fun l => l.kind = kind).map (·.amountCents)).sum

theorem lineTotal_append (kind : LineKind) (xs ys : List ComputedLine) :
    lineTotal kind (xs ++ ys) = lineTotal kind xs + lineTotal kind ys := by
  rw [lineTotal, filter_append, map_append, sum_append, lineTotal, lineTotal]

theorem lineTotal_singleton (kind : LineKind) (l : ComputedLine) :
    lineTotal kind [l] = if l.kind = kind then l.amountCents else 0 := by
  by_cases h : l.kind = kind
  · simp [lineTotal, h]
  · simp [lineTotal, h]

/-- The lines of a sheet are numbered, and come to what it has accumulated besides `opening`. -/
structure Sheet.AddsUp (s : Sheet) (opening : Int) : Prop where
  numbered : s.lines.map (·.sequenceNo) = List.range' 1 s.sequenceNo
  balance : (s.lines.map (·.amountCents)).sum =
    opening + s.taxTotalCents + s.feeTotalCents - s.incentiveTotalCents
  taxes : lineTotal .tax s.lines = s.taxTotalCents
  fees : lineTotal .fee s.lines = s.feeTotalCents
  incentives : lineTotal .incentive s.lines = -s.incentiveTotalCents

section AddsUp

variable {s : Sheet} {opening : Int}

theorem Sheet.AddsUp.applied (h : s.AddsUp opening) (r : ResolvedRule) (amount : Int) :
    (s.applied r amount).AddsUp opening :=
  ⟨h.numbered, h.balance, h.taxes, h.fees, h.incentives⟩

theorem numbered_push (h : s.lines.map (·.sequenceNo) = List.range' 1 s.sequenceNo)
    (kind : LineKind) (code label : String) (amount : Int) (id : Option String)
    (version : Option Int) :
    (s.push kind code label amount id version).lines.map (·.sequenceNo) =
      List.range' 1 (s.sequenceNo + 1) := by
  rw [Sheet.push, map_append, h, range'_concat]
  simp [Nat.add_comm]

theorem Sheet.AddsUp.push (h : s.AddsUp opening) (kind : LineKind) (code label : String)
    (amount : Int) (id : Option String) (version : Option Int)
    (hkind : kind ≠ .tax ∧ kind ≠ .fee ∧ kind ≠ .incentive) :
    (s.push kind code label amount id version).AddsUp (opening + amount) := by
  obtain ⟨htax, hfee, hincentive⟩ := hkind
  have hsame : ∀ k, kind ≠ k → lineTotal k (s.push kind code label amount id version).lines =
      lineTotal k s.lines := by
    intro k hk
    rw [Sheet.push, lineTotal_append, lineTotal_singleton, if_neg hk, Int.add_zero]
  refine ⟨numbered_push h.numbered _ _ _ _ _ _, ?_, ?_, ?_, ?_⟩
  · have hbalance := h.balance
    simp only [Sheet.push, map_append, sum_append, map_cons, map_nil, sum_cons, sum_nil]
    omega
  · exact (hsame _ htax).trans h.taxes
  · exact (hsame _ hfee).trans h.fees
  · exact (hsame _ hincentive).trans h.incentives

theorem Sheet.AddsUp.price (h : s.AddsUp opening) {r : ResolvedRule} (hr : r.priced = true)
    (base : Int) : (s.price r base).AddsUp opening := by
  have hnumbered := numbered_push h.numbered
  obtain ⟨-, hbalance, htaxes, hfees, hincentives⟩ := h
  have hlines : (s.price r base).lines = s.lines ++ [⟨s.sequenceNo + 1, r.ruleKind.lineKind,
      r.ruleCode, r.label, if r.ruleKind = .incentive then -magnitude r base else magnitude r base,
      some r.ruleId, some r.version⟩] := by
    unfold Sheet.price
    cases r.ruleKind <;> rfl
  have hsequence : (s.price r base).sequenceNo = s.sequenceNo + 1 := by
    unfold Sheet.price
    cases r.ruleKind <;> rfl
  have hfigures : (s.price r base).taxTotalCents =
        s.taxTotalCents + (if r.ruleKind = .tax then magnitude r base else 0) ∧
      (s.price r base).feeTotalCents =
        s.feeTotalCents + (if r.ruleKind = .fee then magnitude r base else 0) ∧
      (s.price r base).incentiveTotalCents =
        s.incentiveTotalCents + (if r.ruleKind = .incentive then magnitude r base else 0) := by
    unfold ResolvedRule.priced at hr
    unfold Sheet.price
    cases hkind : r.ruleKind with
    | tax => simp [Sheet.push, Sheet.applied]
    | fee => simp [Sheet.push, Sheet.applied]
    | incentive => simp [Sheet.push, Sheet.applied]
    | valuation => simp [hkind] at hr
    | policy => simp [hkind] at hr
  obtain ⟨htax, hfee, hincentive⟩ := hfigures
  refine ⟨?_, ?_, ?_, ?_, ?_⟩
  · rw [hlines, hsequence]
    exact hnumbered r.ruleKind.lineKind r.ruleCode r.label _ (some r.ruleId) (some r.version)
  · rw [hlines, htax, hfee, hincentive, map_append, sum_append, hbalance]
    unfold ResolvedRule.priced at hr
    cases hkind : r.ruleKind <;> simp [hkind] at hr ⊢ <;> omega
  · rw [hlines, htax, lineTotal_append, lineTotal_singleton, htaxes]
    unfold ResolvedRule.priced at hr
    cases hkind : r.ruleKind <;> simp [hkind, RuleKind.lineKind] at hr ⊢
  · rw [hlines, hfee, lineTotal_append, lineTotal_singleton, hfees]
    unfold ResolvedRule.priced at hr
    cases hkind : r.ruleKind <;> simp [hkind, RuleKind.lineKind] at hr ⊢
  · rw [hlines, hincentive, lineTotal_append, lineTotal_singleton, hincentives]
    unfold ResolvedRule.priced at hr
    cases hkind : r.ruleKind <;> simp [hkind, RuleKind.lineKind] at hr ⊢
    omega

theorem Sheet.AddsUp.pass (h : s.AddsUp opening) (base : ResolvedRule → Int)
    {rules : List ResolvedRule} (hrules : ∀ r ∈ rules, r.priced = true) :
    (rules.foldl (fun s r => s.price r (base r)) s).AddsUp opening := by
  induction rules generalizing s with
  | nil => exact h
  | cons r rules ih =>
    rw [foldl_cons]
    exact ih (h.price (hrules r mem_cons_self) _) fun r' hr' => hrules r' (mem_cons_of_mem r hr')

end AddsUp

/-! ## What a pass writes -/

section Pass

variable (base : ResolvedRule → Int) (rules : List ResolvedRule) (s : Sheet)

theorem Sheet.price_lines (r : ResolvedRule) (b : Int) :
    (s.price r b).lines.map ComputedLine.entry =
      s.lines.map ComputedLine.entry ++ [r.entry (magnitude r b)] := by
  unfold Sheet.price
  cases hkind : r.ruleKind <;>
    simp [Sheet.push, Sheet.applied, ComputedLine.entry, ResolvedRule.entry, hkind]

theorem Sheet.price_applications (r : ResolvedRule) (b : Int) :
    (s.price r b).applications = s.applications ++ [r.application (magnitude r b)] := by
  unfold Sheet.price
  cases hkind : r.ruleKind <;> simp [Sheet.push, Sheet.applied, ResolvedRule.application, hkind]

theorem pass_lines : (rules.foldl (fun s r => s.price r (base r)) s).lines.map ComputedLine.entry =
    s.lines.map ComputedLine.entry ++ rules.map fun r => r.entry (magnitude r (base r)) := by
  induction rules generalizing s with
  | nil => simp
  | cons r rules ih => rw [foldl_cons, ih, Sheet.price_lines]; simp

theorem pass_applications : (rules.foldl (fun s r => s.price r (base r)) s).applications =
    s.applications ++ rules.map fun r => r.application (magnitude r (base r)) := by
  induction rules generalizing s with
  | nil => simp
  | cons r rules ih => rw [foldl_cons, ih, Sheet.price_applications]; simp

theorem totalOf_cons (kind : RuleKind) (r : ResolvedRule) :
    totalOf kind base (r :: rules) =
      (if r.ruleKind = kind then magnitude r (base r) else 0) + totalOf kind base rules := by
  by_cases h : r.ruleKind = kind
  · simp [totalOf, h]
  · simp [totalOf, h]

theorem pass_totals :
    (rules.foldl (fun s r => s.price r (base r)) s).taxTotalCents =
        s.taxTotalCents + totalOf .tax base rules ∧
      (rules.foldl (fun s r => s.price r (base r)) s).feeTotalCents =
        s.feeTotalCents + totalOf .fee base rules := by
  induction rules generalizing s with
  | nil => simp [totalOf]
  | cons r rules ih =>
    obtain ⟨htax, hfee⟩ := ih (s.price r (base r))
    rw [foldl_cons, htax, hfee, totalOf_cons, totalOf_cons]
    unfold Sheet.price
    cases hkind : r.ruleKind <;> simp [Sheet.push, Sheet.applied] <;> omega

variable {rules} in
theorem totalOf_perm {rules' : List ResolvedRule} (h : rules.Perm rules') (kind : RuleKind) :
    totalOf kind base rules = totalOf kind base rules' :=
  ((h.filter _).map _).sum_eq

end Pass

/-! ## The book -/

theorem ordered_perm (rules : List ResolvedRule) : (ordered rules).Perm rules :=
  perm_insertionSort _ rules

/-- The two passes price every tax, fee and incentive of the book, once. -/
theorem passes_perm (rules : List ResolvedRule) :
    ((ordered rules).filter (·.inFirstPass) ++ (ordered rules).filter (·.inSecondPass)).Perm
      (rules.filter (·.priced)) := by
  have hfirst : (ordered rules).filter (·.inFirstPass) =
      ((ordered rules).filter (·.priced)).filter fun r => r.appliesTo ≠ .total := by
    rw [filter_filter]
    exact filter_congr fun r _ => Bool.and_comm _ _
  have hsecond : (ordered rules).filter (·.inSecondPass) =
      ((ordered rules).filter (·.priced)).filter fun r => !decide (r.appliesTo ≠ .total) := by
    rw [filter_filter]
    refine filter_congr fun r _ => ?_
    rw [ResolvedRule.inSecondPass, Bool.and_comm]
    simp
  rw [hfirst, hsecond]
  exact (filter_append_perm _ _).trans ((ordered_perm rules).filter _)

theorem subtotal_eq (inputs : ScenarioInputs) (rules : List ResolvedRule) :
    subtotal inputs (tradeCredit rules) rules = inputs.vehiclePriceCents +
      totalOf .tax (firstBase inputs (tradeCredit rules)) ((ordered rules).filter (·.inFirstPass)) +
        totalOf .fee (firstBase inputs (tradeCredit rules))
          ((ordered rules).filter (·.inFirstPass)) := by
  have hperm := (ordered_perm rules).filter (·.inFirstPass)
  rw [subtotal, totalOf_perm _ hperm, totalOf_perm _ hperm]

/-! ## The deal -/

/-- The lines and the applications of a computed scenario are its deal. -/
structure LinesAreTheDeal (inputs : ScenarioInputs) (rules : List ResolvedRule)
    (c : ComputedScenario) : Prop where
  numbered : c.lines.map (·.sequenceNo) = List.range' 1 c.lines.length
  balance : (c.lines.map (·.amountCents)).sum = c.amountFinancedCents
  taxes : lineTotal .tax c.lines = c.taxTotalCents
  fees : lineTotal .fee c.lines = c.feeTotalCents
  incentives : -lineTotal .incentive c.lines = c.incentiveTotalCents
  lines : ((c.lines.filter fun l => l.ruleId.isSome).map ComputedLine.entry).Perm
    ((rules.filter (·.priced)).map fun r => r.entry (amountOf inputs rules r))
  applications : ∃ further : List RuleApplication, further.length ≤ 1 ∧
    (∀ a ∈ further, ∃ r ∈ rules, r.isCredit = true ∧
      a = r.application (creditCents inputs (some r))) ∧
    c.applications.Perm (further ++
      (rules.filter (·.priced)).map fun r => r.application (amountOf inputs rules r))
  apart : ∀ rules', (rules'.filter fun r => !r.inSecondPass) =
    (rules.filter fun r => !r.inSecondPass) →
      ∀ r, amountOf inputs rules' r = amountOf inputs rules r

/-- The scenario asks for a monthly figure that no term or rate of its kind has. -/
def PaymentOutOfRange (inputs : ScenarioInputs) : Prop :=
  ∃ term ∈ inputs.termMonths, ∃ apr ∈ inputs.aprPpm, (term < 1 ∨ 120 < term) ∨ apr < 0

section Deal

variable (inputs : ScenarioInputs) (rules : List ResolvedRule)

theorem tradeCredit_eq : tradeCredit rules =
    (ordered (rules.filter fun r => !r.inSecondPass)).find? (·.isCredit) := by
  have hcredit : ∀ r : ResolvedRule, (!r.inSecondPass && r.isCredit) = r.isCredit := by
    intro r
    cases hsecond : r.inSecondPass with
    | false => rfl
    | true => rw [not_isCredit_of_priced (priced_of_inSecondPass hsecond), Bool.and_false]
  rw [tradeCredit, ordered, ordered, ← filter_insertionSort, find?_filter]
  congr 1
  funext r
  rw [Bool.eq_iff_iff, decide_eq_true_eq, ← Bool.and_eq_true, hcredit]

theorem filter_inFirstPass_eq : rules.filter (·.inFirstPass) =
    (rules.filter fun r => !r.inSecondPass).filter (·.inFirstPass) := by
  rw [filter_filter]
  refine filter_congr fun r _ => ?_
  cases hfirst : r.inFirstPass with
  | false => rfl
  | true => rw [not_inSecondPass_of_inFirstPass hfirst]; rfl

theorem amountOf_apart {rules' : List ResolvedRule}
    (h : (rules'.filter fun r => !r.inSecondPass) = rules.filter fun r => !r.inSecondPass)
    (r : ResolvedRule) : amountOf inputs rules' r = amountOf inputs rules r := by
  have hcredit : tradeCredit rules' = tradeCredit rules := by
    rw [tradeCredit_eq, h, ← tradeCredit_eq]
  have hfirst : rules'.filter (·.inFirstPass) = rules.filter (·.inFirstPass) := by
    rw [filter_inFirstPass_eq, h, ← filter_inFirstPass_eq]
  rw [amountOf, subtotal, hcredit, hfirst, amountOf, subtotal]

theorem openSheet_addsUp : (openSheet inputs).AddsUp
    (inputs.vehiclePriceCents - (inputs.tradeAllowanceCents - inputs.tradePayoffCents)) := by
  have hnone : Sheet.AddsUp ⟨0, [], [], 0, 0, 0⟩ 0 := ⟨rfl, rfl, rfl, rfl, rfl⟩
  have hprice := hnone.push .price "vehicle_price" "Vehicle price"
    inputs.vehiclePriceCents none none (by decide)
  unfold openSheet
  dsimp only
  split
  · have htrade := hprice.push .trade "trade_equity"
      "Trade equity (allowance less payoff)"
      (-(inputs.tradeAllowanceCents - inputs.tradePayoffCents)) none none (by decide)
    rw [Int.zero_add] at htrade
    exact htrade
  · rename_i hno
    rw [Int.zero_add] at hprice
    have hequity : inputs.tradeAllowanceCents - inputs.tradePayoffCents = 0 := by omega
    rw [hequity, Int.sub_zero]
    exact hprice

def creditedSheet : Sheet :=
  (tradeCredit rules).elim (openSheet inputs) fun r =>
    (openSheet inputs).applied r (creditCents inputs (tradeCredit rules))

/-- The sheet after both passes. -/
def pricedSheet : Sheet :=
  ((ordered rules).filter (·.inSecondPass)).foldl
    (fun s r => s.price r (subtotal inputs (tradeCredit rules) rules))
    (((ordered rules).filter (·.inFirstPass)).foldl
      (fun s r => s.price r (firstBase inputs (tradeCredit rules) r)) (creditedSheet inputs rules))

theorem closeSheet_eq : closeSheet inputs (tradeCredit rules)
      ((ordered rules).filter (·.inFirstPass)) ((ordered rules).filter (·.inSecondPass)) =
    if inputs.cashDownCents ≠ 0 then
      (pricedSheet inputs rules).push .down_payment "cash_down" "Cash down"
        (-inputs.cashDownCents) none none
    else pricedSheet inputs rules := by
  have hopen : (creditedSheet inputs rules).taxTotalCents = 0 ∧
      (creditedSheet inputs rules).feeTotalCents = 0 := by
    have hsheet : (openSheet inputs).taxTotalCents = 0 ∧ (openSheet inputs).feeTotalCents = 0 := by
      unfold openSheet
      dsimp only
      split <;> exact ⟨rfl, rfl⟩
    unfold creditedSheet
    cases tradeCredit rules <;> exact hsheet
  obtain ⟨htax, hfee⟩ := pass_totals (firstBase inputs (tradeCredit rules))
    ((ordered rules).filter (·.inFirstPass)) (creditedSheet inputs rules)
  rw [hopen.1, Int.zero_add] at htax
  rw [hopen.2, Int.zero_add] at hfee
  unfold pricedSheet
  rw [subtotal_eq, ← htax, ← hfee]
  rfl

theorem pricedSheet_addsUp : (pricedSheet inputs rules).AddsUp
    (inputs.vehiclePriceCents - (inputs.tradeAllowanceCents - inputs.tradePayoffCents)) := by
  have hcredited : (creditedSheet inputs rules).AddsUp
      (inputs.vehiclePriceCents - (inputs.tradeAllowanceCents - inputs.tradePayoffCents)) := by
    unfold creditedSheet
    cases tradeCredit rules with
    | none => exact openSheet_addsUp inputs
    | some r => exact (openSheet_addsUp inputs).applied r _
  refine (hcredited.pass _ fun r hr => ?_).pass (fun _ => _) fun r hr => ?_
  · exact priced_of_inFirstPass (mem_filter.mp hr).2
  · exact priced_of_inSecondPass (mem_filter.mp hr).2

theorem magnitude_first {r : ResolvedRule} (hr : r ∈ (ordered rules).filter (·.inFirstPass)) :
    magnitude r (firstBase inputs (tradeCredit rules) r) = amountOf inputs rules r := by
  have hfirst := (mem_filter.mp hr).2
  rw [ResolvedRule.inFirstPass, Bool.and_eq_true, decide_eq_true_eq] at hfirst
  rw [amountOf, if_neg hfirst.2]

theorem magnitude_second {r : ResolvedRule} (hr : r ∈ (ordered rules).filter (·.inSecondPass)) :
    magnitude r (subtotal inputs (tradeCredit rules) rules) = amountOf inputs rules r := by
  have hsecond := (mem_filter.mp hr).2
  rw [ResolvedRule.inSecondPass, Bool.and_eq_true, decide_eq_true_eq] at hsecond
  rw [amountOf, if_pos hsecond.2]

theorem pricedSheet_lines :
    (pricedSheet inputs rules).lines.map ComputedLine.entry =
      (openSheet inputs).lines.map ComputedLine.entry ++
        ((ordered rules).filter (·.inFirstPass) ++ (ordered rules).filter (·.inSecondPass)).map
          fun r => r.entry (amountOf inputs rules r) := by
  have hopen : (creditedSheet inputs rules).lines = (openSheet inputs).lines := by
    unfold creditedSheet
    cases tradeCredit rules <;> rfl
  rw [pricedSheet, pass_lines (fun _ => _), pass_lines, hopen, map_append, append_assoc]
  congr 2
  · exact map_congr_left fun r hr => by rw [magnitude_first inputs rules hr]
  · exact map_congr_left fun r hr => by rw [magnitude_second inputs rules hr]

theorem pricedSheet_applications :
    (pricedSheet inputs rules).applications =
      (tradeCredit rules).toList.map (fun r => r.application (creditCents inputs (some r))) ++
        ((ordered rules).filter (·.inFirstPass) ++ (ordered rules).filter (·.inSecondPass)).map
          fun r => r.application (amountOf inputs rules r) := by
  have hopen : (creditedSheet inputs rules).applications = (tradeCredit rules).toList.map
      fun r => r.application (creditCents inputs (some r)) := by
    unfold creditedSheet
    cases tradeCredit rules with
    | none => exact openSheet_applications inputs
    | some r =>
      show (openSheet inputs).applications ++ _ = _
      rw [openSheet_applications]
      rfl
  rw [pricedSheet, pass_applications (fun _ => _), pass_applications, hopen, map_append,
    append_assoc]
  congr 2
  · exact map_congr_left fun r hr => by rw [magnitude_first inputs rules hr]
  · exact map_congr_left fun r hr => by rw [magnitude_second inputs rules hr]

theorem applied_pricedSheet : ∃ further : List RuleApplication, further.length ≤ 1 ∧
    (∀ a ∈ further, ∃ r ∈ rules, r.isCredit = true ∧
      a = r.application (creditCents inputs (some r))) ∧
    (pricedSheet inputs rules).applications.Perm (further ++
      (rules.filter (·.priced)).map fun r => r.application (amountOf inputs rules r)) := by
  refine ⟨(tradeCredit rules).toList.map fun r => r.application (creditCents inputs (some r)),
    ?_, ?_, ?_⟩
  · cases tradeCredit rules with
    | none => exact Nat.zero_le 1
    | some r => exact Nat.le_refl 1
  · intro a ha
    obtain ⟨r, hr, rfl⟩ := mem_map.mp ha
    have hfound := Option.mem_toList.mp hr
    refine ⟨r, (ordered_perm rules).mem_iff.mp (mem_of_find?_eq_some hfound), ?_, rfl⟩
    exact isCredit_of_mem_find rules hr
  · rw [pricedSheet_applications]
    exact List.Perm.append_left _ ((passes_perm rules).map _)

theorem ruled_pricedSheet :
    (((pricedSheet inputs rules).lines.filter fun l => l.ruleId.isSome).map
        ComputedLine.entry).Perm
      ((rules.filter (·.priced)).map fun r => r.entry (amountOf inputs rules r)) := by
  have hopen : ((openSheet inputs).lines.map ComputedLine.entry).filter
      (fun e => e.ruleId.isSome) = [] := by
    unfold openSheet
    dsimp only
    split <;> rfl
  have hruled : ∀ xs : List ResolvedRule,
      (xs.map fun r => r.entry (amountOf inputs rules r)).filter (fun e => e.ruleId.isSome) =
        xs.map fun r => r.entry (amountOf inputs rules r) := by
    intro xs
    refine filter_eq_self.mpr fun e he => ?_
    obtain ⟨r, -, rfl⟩ := mem_map.mp he
    rfl
  have hentries : ((pricedSheet inputs rules).lines.filter fun l => l.ruleId.isSome).map
      ComputedLine.entry =
        ((pricedSheet inputs rules).lines.map ComputedLine.entry).filter
          fun e => e.ruleId.isSome := by
    rw [filter_map]
    rfl
  rw [hentries, pricedSheet_lines, filter_append, hopen, hruled, nil_append]
  exact (passes_perm rules).map _

theorem ruled_push (s : Sheet) (kind : LineKind) (code label : String) (amount : Int)
    (version : Option Int) :
    ((s.push kind code label amount none version).lines.filter fun l => l.ruleId.isSome) =
      s.lines.filter fun l => l.ruleId.isSome := by
  rw [Sheet.push, filter_append]
  exact append_nil _

theorem closeSheet_spec {s : Sheet} (hs : closeSheet inputs (tradeCredit rules)
      ((ordered rules).filter (·.inFirstPass)) ((ordered rules).filter (·.inSecondPass)) = s) :
    s.AddsUp (inputs.vehiclePriceCents - (inputs.tradeAllowanceCents - inputs.tradePayoffCents) -
        inputs.cashDownCents) ∧
      ((s.lines.filter fun l => l.ruleId.isSome).map ComputedLine.entry).Perm
        ((rules.filter (·.priced)).map fun r => r.entry (amountOf inputs rules r)) ∧
      s.applications = (pricedSheet inputs rules).applications := by
  rw [closeSheet_eq] at hs
  have hsum := pricedSheet_addsUp inputs rules
  have hruled := ruled_pricedSheet inputs rules
  subst hs
  by_cases hcash : inputs.cashDownCents ≠ 0
  · rw [if_pos hcash]
    refine ⟨?_, ?_, rfl⟩
    · have hpaid := hsum.push .down_payment "cash_down" "Cash down"
        (-inputs.cashDownCents) none none (by decide)
      rwa [← Int.sub_eq_add_neg] at hpaid
    · rw [ruled_push]
      exact hruled
  · rw [if_neg hcash]
    refine ⟨?_, hruled, rfl⟩
    rw [not_not.mp hcash, Int.sub_zero]
    exact hsum

/-- The calculator fails on the term or on the rate alone. -/
theorem monthlyFigure_cases (amountFinancedCents : Int) :
    (∃ figure, monthlyFigure inputs amountFinancedCents = .ok figure) ∨
      PaymentOutOfRange inputs ∧ ∃ e, monthlyFigure inputs amountFinancedCents = .error e := by
  unfold monthlyFigure
  cases hterm : inputs.termMonths with
  | none => exact .inl ⟨none, rfl⟩
  | some term =>
    cases hapr : inputs.aprPpm with
    | none => exact .inl ⟨none, rfl⟩
    | some apr =>
      dsimp only
      cases hpayment : monthlyPayment amountFinancedCents term apr with
      | ok payment => exact .inl ⟨some payment, rfl⟩
      | error e =>
        refine .inr ⟨⟨term, hterm, apr, hapr, ?_⟩, e, rfl⟩
        by_contra hin
        have hterm' : 1 ≤ term ∧ term ≤ 120 := by omega
        have hapr' : 0 ≤ apr := by omega
        obtain ⟨payment, hok⟩ := monthlyPayment_isOk amountFinancedCents hterm' hapr'
        rw [hpayment] at hok
        cases hok

/-- **The lines are the deal.**  Whatever the inputs and the book, the calculator computes a
scenario whose lines and applications are its deal, or refuses the term or the rate. -/
theorem lines_are_the_deal :
    (∃ c, computeScenario inputs rules = .ok c ∧ LinesAreTheDeal inputs rules c) ∨
      PaymentOutOfRange inputs ∧ ∃ e, computeScenario inputs rules = .error e := by
  unfold computeScenario priceWith
  dsimp only
  generalize hs : closeSheet inputs ((ordered rules).find? (·.isCredit))
    ((ordered rules).filter (·.inFirstPass)) ((ordered rules).filter (·.inSecondPass)) = s
  obtain ⟨hsum, hruled, happlied⟩ := closeSheet_spec inputs rules hs
  rcases monthlyFigure_cases inputs (inputs.vehiclePriceCents + s.taxTotalCents + s.feeTotalCents -
    s.incentiveTotalCents - inputs.cashDownCents -
      (inputs.tradeAllowanceCents - inputs.tradePayoffCents)) with ⟨figure, hok⟩ | ⟨hout, e, herror⟩
  · rw [hok]
    refine .inl ⟨_, rfl, ?_, ?_, hsum.taxes, hsum.fees, ?_, hruled, ?_, fun rules' h r =>
      amountOf_apart inputs rules h r⟩
    · have hlength := congrArg List.length hsum.numbered
      rw [length_map, length_range'] at hlength
      rw [hlength]
      exact hsum.numbered
    · have hbalance := hsum.balance
      dsimp only
      omega
    · have hincentives := hsum.incentives
      dsimp only
      omega
    · dsimp only
      rw [happlied]
      exact applied_pricedSheet inputs rules
  · rw [herror]
    exact .inr ⟨hout, e, rfl⟩

end Deal

end Dealership.Desking
