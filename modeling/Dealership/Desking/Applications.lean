import Dealership.Desking.Lines
import Dealership.Desking.Rules

/-!
# The rules a price rests on

A book holds one rule of each kind and code, and the calculator applies every rule of the book
it can apply, once: the taxes, the fees, the incentives and the trade credit.
-/

namespace Dealership.Desking

open Library List

/-! ## The book -/

section Book

variable {T : RuleTable} {jurisdiction rooftopId : String} {instant : Int}

theorem mem_book_iff {rule : ResolvedRule} :
    rule ∈ (resolveRuleBookWithin T.rows jurisdiction rooftopId instant).rules ↔
      ∃ row, IsChosen T.rows jurisdiction rooftopId instant row ∧ rule = mapRule row := by
  rw [resolveRuleBookWithin, ruleBookOf, chosen_eq_pick,
    mem_pick_iff (RuleTable.noTies (List.Perm.refl _)), isBest_mapRule_iff (List.Perm.refl _)]

theorem nodup_book (rows : List DeskingRule) :
    ((resolveRuleBookWithin rows jurisdiction rooftopId instant).rules.map ruleKey).Nodup := by
  rw [resolveRuleBookWithin, ruleBookOf, chosen_eq_pick]
  exact nodup_map_key_pick _

end Book

/-! ## The applications -/

/-- What a rule of the book comes to. -/
def resolvedAmount (inputs : ScenarioInputs) (rules : List ResolvedRule) (r : ResolvedRule) : Int :=
  if r.isCredit then creditCents inputs (some r) else amountOf inputs rules r

section Applied

variable {inputs : ScenarioInputs} {rules : List ResolvedRule}

theorem tradeCredit_perm (hkeys : (rules.map ruleKey).Nodup) :
    (tradeCredit rules).toList.Perm (rules.filter (·.isCredit)) := by
  have hperm := (ordered_perm rules).filter (·.isCredit)
  have hsame : ∀ r ∈ rules.filter (·.isCredit), ruleKey r = "policy:" ++ TRADE_TAX_CREDIT := by
    intro r hr
    have hcredit := (mem_filter.mp hr).2
    simp only [ResolvedRule.isCredit, Bool.and_eq_true, decide_eq_true_eq] at hcredit
    rw [ruleKey, hcredit.1.1, hcredit.1.2]
    rfl
  have hfew : (rules.filter (·.isCredit)).length ≤ 1 := by
    have hnodup : ((rules.filter (·.isCredit)).map ruleKey).Nodup :=
      hkeys.sublist (filter_sublist.map _)
    generalize rules.filter (·.isCredit) = credits at hsame hnodup
    cases credits with
    | nil => exact Nat.zero_le 1
    | cons a credits =>
      cases credits with
      | nil => exact Nat.le_refl 1
      | cons b rest =>
        have hkey : ruleKey a = ruleKey b := (hsame a mem_cons_self).trans (hsame b (by simp)).symm
        simp [hkey] at hnodup
  rw [tradeCredit, ← head?_filter]
  rw [← hperm.length_eq] at hfew
  refine List.Perm.trans ?_ hperm
  generalize (ordered rules).filter (·.isCredit) = credits at hfew
  cases credits with
  | nil => exact List.Perm.refl _
  | cons a credits =>
    cases credits with
    | nil => exact List.Perm.refl _
    | cons b rest =>
      rw [length_cons, length_cons] at hfew
      omega

theorem filter_applicable_perm (rules : List ResolvedRule) :
    (rules.filter (·.isCredit) ++ rules.filter (·.priced)).Perm (rules.filter (·.applicable)) := by
  have hcredit : rules.filter (·.isCredit) = (rules.filter (·.applicable)).filter (·.isCredit) := by
    rw [filter_filter]
    refine filter_congr fun r _ => ?_
    rw [ResolvedRule.applicable]
    cases r.isCredit <;> simp
  have hpriced : rules.filter (·.priced) =
      (rules.filter (·.applicable)).filter fun r => !r.isCredit := by
    rw [filter_filter]
    refine filter_congr fun r _ => ?_
    rw [ResolvedRule.applicable]
    cases hp : r.priced with
    | true => rw [not_isCredit_of_priced hp]; rfl
    | false => cases r.isCredit <;> rfl
  rw [hcredit, hpriced]
  exact filter_append_perm _ _

theorem applications_perm (hkeys : (rules.map ruleKey).Nodup) {c : ComputedScenario}
    (h : computeScenario inputs rules = .ok c) :
    c.applications.Perm ((rules.filter (·.applicable)).map
      fun r => r.application (resolvedAmount inputs rules r)) := by
  have happlied : c.applications = (pricedSheet inputs rules).applications := by
    obtain ⟨payment, -, h⟩ := bind_eq_ok.mp h
    cases h
    exact (closeSheet_spec inputs rules rfl).2.2
  have hcredit : (tradeCredit rules).toList.map
      (fun r => r.application (creditCents inputs (some r))) =
        (tradeCredit rules).toList.map fun r => r.application (resolvedAmount inputs rules r) :=
    map_congr_left fun r hr => by
      rw [resolvedAmount, if_pos (isCredit_of_mem_find rules hr)]
  have hpriced : (rules.filter (·.priced)).map
      (fun r => r.application (amountOf inputs rules r)) =
        (rules.filter (·.priced)).map fun r => r.application (resolvedAmount inputs rules r) :=
    map_congr_left fun r hr => by
      rw [resolvedAmount, if_neg (by
        rw [not_isCredit_of_priced (mem_filter.mp hr).2]
        exact Bool.false_ne_true)]
  have hpasses : ((tradeCredit rules).toList.map
        (fun r => r.application (creditCents inputs (some r))) ++
      ((ordered rules).filter (·.inFirstPass) ++ (ordered rules).filter (·.inSecondPass)).map
        fun r => r.application (amountOf inputs rules r)).Perm
      ((tradeCredit rules).toList.map (fun r => r.application (resolvedAmount inputs rules r)) ++
        (rules.filter (·.priced)).map fun r => r.application (resolvedAmount inputs rules r)) := by
    rw [hcredit, ← hpriced]
    exact List.Perm.append_left _ ((passes_perm rules).map _)
  rw [happlied, pricedSheet_applications]
  refine hpasses.trans ?_
  rw [← map_append]
  exact (((tradeCredit_perm hkeys).append_right _).trans (filter_applicable_perm rules)).map _

theorem mem_applications_iff (hkeys : (rules.map ruleKey).Nodup) {c : ComputedScenario}
    (h : computeScenario inputs rules = .ok c) {a : RuleApplication} :
    a ∈ c.applications ↔ ∃ r ∈ rules, r.applicable = true ∧
      a = r.application (resolvedAmount inputs rules r) := by
  rw [(applications_perm hkeys h).mem_iff, mem_map]
  simp only [mem_filter, and_assoc, eq_comm (b := a)]

end Applied

end Dealership.Desking
