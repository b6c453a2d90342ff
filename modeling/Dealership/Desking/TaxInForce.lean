import Dealership.Desking.Scenarios

/-!
# Pricing and the tax rule in force

`buildScenarioWithin` refuses when the book reports the tax kind missing or
expired.  The report comes from an aggregate over every version of the kind that
does not look at `effective_from`, while the book itself holds only rules whose
interval contains the instant.  The two agree unless a rule that has not started
yet is taken for one in force; then a deal is priced without any tax rule.
-/

namespace Dealership.Desking

open Library List

section Book

variable (rows : List DeskingRule) (jurisdiction rooftopId : String) (instant : Int)

/-- The book priced with contains a tax rule whose interval contains the instant. -/
def BookHasTax : Prop :=
  ∃ row ∈ rows, row.rule_kind = .tax ∧ row.InForce instant ∧
    mapRule row ∈ (resolveRuleBookWithin rows jurisdiction rooftopId instant).rules

/-- The tax rows the queries look at. -/
def taxRows : List DeskingRule :=
  rows.filter fun r => r.Covers jurisdiction rooftopId ∧ r.rule_kind = .tax

variable {rows jurisdiction rooftopId instant}

theorem mem_taxRows {r : DeskingRule} : r ∈ taxRows rows jurisdiction rooftopId ↔
    r ∈ rows ∧ r.Covers jurisdiction rooftopId ∧ r.rule_kind = .tax := by
  rw [taxRows, mem_filter, decide_eq_true_eq]

theorem bookHasTax_iff : BookHasTax rows jurisdiction rooftopId instant ↔
    ∃ r ∈ taxRows rows jurisdiction rooftopId, r.InForce instant := by
  have hfound : ∀ r, r ∈ inForceRows rows jurisdiction rooftopId instant ↔
      r ∈ rows ∧ r.Covers jurisdiction rooftopId ∧ r.InForce instant := by
    intro r
    rw [inForceRows, mem_filter, decide_eq_true_eq]
  constructor
  · rintro ⟨row, -, hkind, -, hmem⟩
    rw [resolveRuleBookWithin, ruleBookOf, chosen_eq_pick] at hmem
    obtain ⟨row', hrow', heq⟩ := mem_map.mp (isBest_of_mem_pick hmem).1
    obtain ⟨hin, hcover, hforce⟩ := (hfound row').mp hrow'
    have hkind' : row'.rule_kind = row.rule_kind := congrArg ResolvedRule.ruleKind heq
    exact ⟨row', mem_taxRows.mpr ⟨hin, hcover, hkind'.trans hkind⟩, hforce⟩
  · rintro ⟨r, hr, hforce⟩
    obtain ⟨hin, hcover, hkind⟩ := mem_taxRows.mp hr
    have hmem := mem_map_of_mem (f := mapRule) ((hfound r).mpr ⟨hin, hcover, hforce⟩)
    obtain ⟨v, hv, hkey⟩ := exists_mem_pick ruleKey specificity hmem
    obtain ⟨row, hrow, rfl⟩ := mem_map.mp (isBest_of_mem_pick hv).1
    obtain ⟨hin', -, hforce'⟩ := (hfound row).mp hrow
    refine ⟨row, hin', (ruleKey_inj hkey).1.trans hkind, hforce', ?_⟩
    rw [resolveRuleBookWithin, ruleBookOf, chosen_eq_pick]
    exact hv

/-- The tax kind is among the known kinds when there is a tax row, and stale
when every tax row has ended. -/
theorem mem_knownKinds_tax {k : KnownKind} (hk : k ∈ knownKinds rows jurisdiction rooftopId instant)
    (htax : k.rule_kind = .tax) :
    taxRows rows jurisdiction rooftopId ≠ [] ∧
      (k.any_in_force = true ↔ ∃ r ∈ taxRows rows jurisdiction rooftopId,
        ∀ e ∈ r.effective_to, instant < e) := by
  have hgroup : ∀ kind, (rows.filter fun r => r.Covers jurisdiction rooftopId).filter
      (fun r => r.rule_kind = kind) =
      rows.filter fun r => r.Covers jurisdiction rooftopId ∧ r.rule_kind = kind := by
    intro kind
    rw [filter_filter]
    exact filter_congr fun r _ => by simp [and_comm]
  obtain ⟨kind, -, hsome⟩ := mem_filterMap.mp hk
  dsimp only at hsome
  rw [hgroup] at hsome
  split at hsome
  · cases hsome
  next hne =>
    cases hsome
    cases htax
    refine ⟨hne, ?_⟩
    simp only [any_eq_true, decide_eq_true_eq]
    rfl

theorem exists_knownKinds_tax (h : taxRows rows jurisdiction rooftopId ≠ []) :
    ∃ k ∈ knownKinds rows jurisdiction rooftopId instant, k.rule_kind = .tax := by
  have hgroup : (rows.filter fun r => r.Covers jurisdiction rooftopId).filter
      (fun r => r.rule_kind = .tax) = taxRows rows jurisdiction rooftopId := by
    rw [taxRows, filter_filter]
    exact filter_congr fun r _ => by simp [and_comm]
  refine ⟨⟨.tax, (taxRows rows jurisdiction rooftopId).any fun r =>
    decide (∀ e ∈ r.effective_to, instant < e)⟩, mem_filterMap.mpr ⟨.tax, by simp, ?_⟩, rfl⟩
  dsimp only
  rw [hgroup, if_neg h]

/-- Pricing is refused exactly when every tax row has ended. -/
theorem unavailable_iff :
    ((resolveRuleBookWithin rows jurisdiction rooftopId instant).missing ≠ [] ∨
      (resolveRuleBookWithin rows jurisdiction rooftopId instant).expired ≠ []) ↔
    ∀ r ∈ taxRows rows jurisdiction rooftopId, ∃ e ∈ r.effective_to, e ≤ instant := by
  have hmissing : (resolveRuleBookWithin rows jurisdiction rooftopId instant).missing ≠ [] ↔
      ¬ ∃ k ∈ knownKinds rows jurisdiction rooftopId instant, k.rule_kind = .tax := by
    simp [resolveRuleBookWithin, ruleBookOf]
  have hexpired : (resolveRuleBookWithin rows jurisdiction rooftopId instant).expired ≠ [] ↔
      ∃ k ∈ knownKinds rows jurisdiction rooftopId instant,
        k.any_in_force = false ∧ k.rule_kind = .tax := by
    simp only [resolveRuleBookWithin, ruleBookOf, ne_eq, filter_eq_nil_iff,
      mem_singleton, forall_eq, decide_eq_true_eq, mem_map, mem_filter, not_not]
    constructor
    · rintro ⟨-, k, ⟨hk, hstale⟩, htax⟩
      exact ⟨k, hk, hstale, htax⟩
    · rintro ⟨k, hk, hstale, htax⟩
      exact ⟨⟨k, hk, htax⟩, k, ⟨hk, hstale⟩, htax⟩
  rw [hmissing, hexpired]
  constructor
  · rintro (hnone | ⟨k, hk, hstale, htax⟩)
    · intro r hr
      exact absurd (exists_knownKinds_tax (ne_nil_of_mem hr)) hnone
    · intro r hr
      have hiff := (mem_knownKinds_tax hk htax).2
      by_contra hrunning
      push Not at hrunning
      rw [hiff.mpr ⟨r, hr, hrunning⟩] at hstale
      cases hstale
  · intro hended
    by_cases hk : ∃ k ∈ knownKinds rows jurisdiction rooftopId instant, k.rule_kind = .tax
    · obtain ⟨k, hk, htax⟩ := hk
      refine .inr ⟨k, hk, ?_, htax⟩
      rw [Bool.eq_false_iff, ne_eq, (mem_knownKinds_tax hk htax).2]
      rintro ⟨r, hr, hrunning⟩
      obtain ⟨e, he, hle⟩ := hended r hr
      exact absurd (hrunning e he) (by omega)
    · exact .inl hk

end Book

/-! ## A request that reaches the rule book -/

/-- The request passes every check before the book is read: the case is found
and reached, the figures are admitted, and the pricing text is an instant. -/
structure ReachesBook (w : DeskWorld) (input : BuildScenarioInput) (db : Desk)
    (c : DeskingCase) (instant : Int) : Prop where
  actor : requireActor w.access input.actingUserLinkId = .ok input.actingUserLinkId
  case_found : requireCaseWithin w db input.actingUserLinkId input.deskingCaseId = some c
  admitted : input.refusal = none
  priced_at : w.cast (input.instantText w) = .ok instant

/-- No deal is priced without a tax rule in force: what is built was priced with
one, and without one the request is refused and nothing is written. -/
def PricedUnderTax (w : DeskWorld) (input : BuildScenarioInput) (db : Desk) (c : DeskingCase)
    (instant : Int) : Prop :=
  (∀ s computed db', buildScenarioWithin w input db = .ok (.built s computed, db') →
    BookHasTax w.rules.rows input.jurisdiction c.rooftop_id instant) ∧
  (¬ BookHasTax w.rules.rows input.jurisdiction c.rooftop_id instant →
    ∃ missing expired, buildScenarioWithin w input db = .ok (.rules_unavailable missing expired, db))

section Reach

variable {w : DeskWorld} {input : BuildScenarioInput} {db : Desk} {c : DeskingCase} {instant : Int}

theorem ReachesBook.build_eq (h : ReachesBook w input db c instant) :
    buildScenarioWithin w input db = priceScenario w input input.actingUserLinkId c db := by
  rw [buildScenarioWithin, h.actor]
  simp only [bind, Except.bind, h.case_found, h.admitted]

theorem ReachesBook.build_unavailable (h : ReachesBook w input db c instant)
    (hcarried : carried input.jurisdiction = true)
    (hbook : ∀ r ∈ taxRows w.rules.rows input.jurisdiction c.rooftop_id,
      ∃ e ∈ r.effective_to, e ≤ instant) :
    ∃ missing expired,
      buildScenarioWithin w input db = .ok (.rules_unavailable missing expired, db) := by
  rw [h.build_eq, priceScenario, h.priced_at]
  simp only [bind, Except.bind, ensure, if_pos hcarried, if_pos (unavailable_iff.mpr hbook)]
  exact ⟨_, _, rfl⟩

theorem ReachesBook.carried_of_build (h : ReachesBook w input db c instant) {out : BuildOutcome}
    {db' : Desk} (hbuild : buildScenarioWithin w input db = .ok (out, db')) :
    carried input.jurisdiction = true := by
  rw [h.build_eq, priceScenario, h.priced_at] at hbuild
  obtain ⟨_, -, hbuild⟩ := bind_eq_ok.mp hbuild
  obtain ⟨_, hcarried, -⟩ := bind_eq_ok.mp hbuild
  exact ensure_eq_ok.mp hcarried

theorem ReachesBook.build_ne_unavailable (h : ReachesBook w input db c instant)
    (hbook : ¬ ∀ r ∈ taxRows w.rules.rows input.jurisdiction c.rooftop_id,
      ∃ e ∈ r.effective_to, e ≤ instant) (missing expired : List RuleKind) (db' : Desk) :
    buildScenarioWithin w input db ≠ .ok (.rules_unavailable missing expired, db') := by
  intro hbuild
  rw [h.build_eq, priceScenario, h.priced_at] at hbuild
  obtain ⟨instant, hinstant, hbuild⟩ := bind_eq_ok.mp hbuild
  cases hinstant
  obtain ⟨_, -, hbuild⟩ := bind_eq_ok.mp hbuild
  dsimp only at hbuild
  rw [if_neg (mt unavailable_iff.mp hbook)] at hbuild
  obtain ⟨computed, -, hbuild⟩ := bind_eq_ok.mp hbuild
  obtain ⟨_, -, hbuild⟩ := bind_eq_ok.mp hbuild
  obtain ⟨_, -, hbuild⟩ := bind_eq_ok.mp hbuild
  obtain ⟨_, -, hbuild⟩ := bind_eq_ok.mp hbuild
  obtain ⟨_, -, hbuild⟩ := bind_eq_ok.mp hbuild
  cases hbuild

end Reach

theorem carried_of_taxRows {T : RuleTable} {jurisdiction rooftopId : String} {r : DeskingRule}
    (hr : r ∈ taxRows T.rows jurisdiction rooftopId) : carried jurisdiction = true := by
  obtain ⟨hrow, hcovers, -⟩ := mem_taxRows.mp hr
  have hchecks := (T.checks r hrow).2.2.2.2.2.2.2.2.1
  rw [hcovers.1, isJurisdiction, Bool.and_eq_true, all_eq_true] at hchecks
  rw [carried, decide_eq_true_eq]
  exact fun hnul => absurd (hchecks.2 _ hnul) (by decide)

/-- A deal is priced under a tax rule in force, or refused, exactly when some covering tax rule
is in force at the instant, or the jurisdiction can be looked up and no covering tax rule starts
after the instant. -/
theorem pricedUnderTax_iff (w : DeskWorld) (input : BuildScenarioInput) (db : Desk)
    (c : DeskingCase) (instant : Int) (h : ReachesBook w input db c instant) :
    PricedUnderTax w input db c instant ↔
      (∃ r ∈ taxRows w.rules.rows input.jurisdiction c.rooftop_id, r.InForce instant) ∨
      carried input.jurisdiction = true ∧
        ∀ r ∈ taxRows w.rules.rows input.jurisdiction c.rooftop_id,
          r.effective_from ≤ instant := by
  constructor
  · rintro ⟨-, hrefuse⟩
    by_cases hforce : ∃ r ∈ taxRows w.rules.rows input.jurisdiction c.rooftop_id, r.InForce instant
    · exact .inl hforce
    · obtain ⟨missing, expired, hbuild⟩ := hrefuse (mt bookHasTax_iff.mp hforce)
      refine .inr ⟨h.carried_of_build hbuild, fun r hr => ?_⟩
      by_contra hfuture
      -- A rule that starts later ends later still, so the aggregate counts it as in force.
      refine h.build_ne_unavailable (fun hended => ?_) missing expired db hbuild
      obtain ⟨e, he, hle⟩ := hended r hr
      have hinterval := (w.rules.checks r (mem_taxRows.mp hr).1).1 e he
      omega
  · intro hcond
    by_cases hforce : ∃ r ∈ taxRows w.rules.rows input.jurisdiction c.rooftop_id, r.InForce instant
    · have hbook := bookHasTax_iff.mpr hforce
      exact ⟨fun _ _ _ _ => hbook, fun hno => absurd hbook hno⟩
    · obtain ⟨hcarried, hstarted⟩ := hcond.resolve_left hforce
      have hended : ∀ r ∈ taxRows w.rules.rows input.jurisdiction c.rooftop_id,
          ∃ e ∈ r.effective_to, e ≤ instant := by
        intro r hr
        by_contra hrunning
        push Not at hrunning
        exact hforce ⟨r, hr, hstarted r hr, hrunning⟩
      obtain ⟨missing, expired, hbuild⟩ := h.build_unavailable hcarried hended
      refine ⟨fun s computed db' hbuilt => ?_, fun _ => ⟨missing, expired, hbuild⟩⟩
      rw [hbuild] at hbuilt
      cases hbuilt

/-! ## The failing input -/

def northCase : DeskingCase where
  desking_case_id := "case-1"
  rooftop_id := "north"
  state := .open
  approved_at := none
  authorization_version := 1

def northDesk : Desk := ⟨[northCase], [], [], [], [], []⟩

def futureBook : RuleTable where
  rows := [tenantTax]
  rule_id := by decide
  kind_code_version := by decide
  checks := by decide
  no_overlap := by decide

def deskManager : String := "6f9619ff-8b86-d011-b42d-00c04fc964ff"

/-- The texts of two days and of the day the rule starts. -/
def fewDates (text : String) : Option Int :=
  [("2025-12-31T00:00:00.000Z", 1767139200000000), ("2026-01-01T00:00:00.000Z", 1767225600000000),
    ("2026-05-01T00:00:00.000Z", 1777593600000000)].lookup text

/-- A desk at which the manager may do everything and the clock reads 2025-12-31. -/
def newYearsEve : DeskWorld where
  access := ⟨fun u => u = deskManager, fun u r => u = deskManager && r = "north"⟩
  isEligibleManager u r := u = deskManager && r = "north"
  rules := futureBook
  clock := "2025-12-31T00:00:00.000Z"
  now := 1767139200000000
  timestamptz := fewDates
  newScenarioId := "scenario-1"
  newApprovalId := "approval-1"

/-- A cash deal in the jurisdiction of the rule. -/
def cashRequest : BuildScenarioInput where
  actingUserLinkId := deskManager
  deskingCaseId := "case-1"
  label := "First pencil"
  jurisdiction := "US-OH"
  vehiclePriceCents := 2500000
  tradeAllowanceCents := none
  tradePayoffCents := none
  cashDownCents := none
  termMonths := none
  aprPpm := none
  pricedAt := none
  expiresAt := none
  supersedesScenarioId := none

/-- Priced the day before its only tax rule starts, a deal is built with no tax
rule in the book and no tax. -/
theorem not_pricedUnderTax_newYearsEve :
    (∃ s computed db', buildScenarioWithin newYearsEve cashRequest northDesk =
        .ok (.built s computed, db') ∧ computed.taxTotalCents = 0) ∧
      ¬ PricedUnderTax newYearsEve cashRequest northDesk northCase 1767139200000000 := by
  have hno : ¬ BookHasTax newYearsEve.rules.rows cashRequest.jurisdiction northCase.rooftop_id
      1767139200000000 := by
    rw [bookHasTax_iff]
    decide +kernel
  have hbuilt : ∃ s computed db', buildScenarioWithin newYearsEve cashRequest northDesk =
      .ok (.built s computed, db') ∧ computed.taxTotalCents = 0 := ⟨_, _, _, rfl, rfl⟩
  refine ⟨hbuilt, fun h => ?_⟩
  obtain ⟨s, computed, db', hbuild, -⟩ := hbuilt
  exact hno (h.1 s computed db' hbuild)

/-- The same desk in May, with the rule in force. -/
def mayDay : DeskWorld :=
  { newYearsEve with
    clock := "2026-05-01T00:00:00.000Z"
    now := 1777593600000000 }

/-- The deal is built, with its tax. -/
theorem pricedUnderTax_mayDay :
    (∃ s computed db', buildScenarioWithin mayDay cashRequest northDesk =
        .ok (.built s computed, db') ∧ computed.taxTotalCents = 162500) ∧
      PricedUnderTax mayDay cashRequest northDesk northCase 1777593600000000 :=
  ⟨⟨_, _, _, rfl, rfl⟩, (pricedUnderTax_iff mayDay cashRequest northDesk northCase 1777593600000000
    ⟨by decide +kernel, by decide +kernel, by decide +kernel, by decide +kernel⟩).mpr
    (.inl ⟨tenantTax, by decide +kernel, by decide +kernel⟩)⟩

end Dealership.Desking
