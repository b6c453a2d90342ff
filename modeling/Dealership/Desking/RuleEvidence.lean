import Dealership.Desking.Applications
import Dealership.Desking.Builds

/-!
# The recorded rule intervals

A build copies the interval of every rule it applied beside the scenario, as evidence that the
rule was in force at the pricing instant.  Whether it was is decided on full-precision instants;
the copy goes through the text of a `Date`, which has whole seconds.  The copy is the rule's
interval exactly when both of its ends are whole seconds.
-/

namespace Dealership.Desking

open Library List

/-! ## Intervals -/

/-- The instants from one on, up to another when there is one. -/
structure Interval where
  start : Int
  stop : Option Int
deriving DecidableEq

def Interval.Holds (i : Interval) (instant : Int) : Prop :=
  i.start ≤ instant ∧ ∀ e ∈ i.stop, instant < e

instance (i : Interval) (instant : Int) : Decidable (i.Holds instant) :=
  inferInstanceAs (Decidable (_ ∧ _))

def DeskingRule.interval (r : DeskingRule) : Interval := ⟨r.effective_from, r.effective_to⟩

/-- Both ends of the interval are whole seconds. -/
def Interval.WholeSeconds (i : Interval) : Prop :=
  i.start % 1000000 = 0 ∧ ∀ e ∈ i.stop, e % 1000000 = 0

instance (i : Interval) : Decidable i.WholeSeconds := inferInstanceAs (Decidable (_ ∧ _))

def RuleApplication.recorded (timestamptz : String → Option Int) (a : RuleApplication) :
    Option Interval := do
  let start ← timestamptz a.effectiveFrom
  match a.effectiveTo with
  | none => pure ⟨start, none⟩
  | some text => do
    let stop ← timestamptz text
    pure ⟨start, some stop⟩

/-- An application is evidence of its price when it carries the interval of the rule it names
and the interval holds the pricing instant. -/
def Justifies (w : DeskWorld) (pricedAt : Int) (a : RuleApplication) : Prop :=
  ∃ r ∈ w.rules.rows, r.rule_id = a.ruleId ∧
    ∃ i, a.recorded w.timestamptz = some i ∧ i = r.interval ∧ i.Holds pricedAt

/-! ## The copy of an instant -/

/-- The database reads what `toISOString` prints as the instant it stands for. -/
def ReadsIso (timestamptz : String → Option Int) : Prop :=
  ∀ ms t, timestamptz (toISOString ms) = some t → t = ms * 1000

theorem ReadsIso.of_texts {timestamptz : String → Option Int}
    (h : ∀ text t, timestamptz text = some t → ∃ ms, text = toISOString ms ∧ t = ms * 1000 ∧
      0 ≤ (civil (ms / 1000 / 86400)).year ∧ (civil (ms / 1000 / 86400)).year ≤ 9999) :
    ReadsIso timestamptz := by
  intro ms t ht
  obtain ⟨ms', htext, rfl, hyear⟩ := h _ _ ht
  rw [toISOString_inj hyear htext]

section Copies

variable {w : DeskWorld}

/-- The text of a `Date` is read back without the fraction of its second. -/
theorem ReadsIso.isoOfDate (h : ReadsIso w.timestamptz) {t u : Int}
    (hu : w.timestamptz (isoOfDate t) = some u) : u = t ↔ t % 1000000 = 0 := by
  have hread := h _ _ hu
  omega

theorem recorded_mapRule (h : ReadsIso w.timestamptz) {r : DeskingRule} {amount : Int}
    (hcasts : ((mapRule r).application amount).casts w.timestamptz = true) :
    ∃ i, ((mapRule r).application amount).recorded w.timestamptz = some i ∧
      (i = r.interval ↔ r.interval.WholeSeconds) := by
  simp only [RuleApplication.casts, Bool.and_eq_true, ResolvedRule.application, mapRule,
    Option.isSome_iff_exists] at hcasts
  obtain ⟨⟨⟨start, hstart⟩, hto⟩, -⟩ := hcasts
  have hfrom := h.isoOfDate hstart
  simp only [RuleApplication.recorded, ResolvedRule.application, mapRule, hstart,
    DeskingRule.interval, Interval.WholeSeconds]
  cases hstop : r.effective_to with
  | none => exact ⟨_, rfl, by simp [hfrom]⟩
  | some e =>
    rw [hstop] at hto
    simp only [Option.map_some, Option.all_some, Option.isSome_iff_exists] at hto
    obtain ⟨stop, htext⟩ := hto
    have hend := h.isoOfDate htext
    refine ⟨⟨start, some stop⟩, by simp [htext], ?_⟩
    simp [hfrom, hend]

end Copies

/-! ## The evidence of a build -/

/-- The applications one step wrote. -/
def writtenApplications (before after : Desk) : List (String × RuleApplication) :=
  after.scenario_rule_applications.drop before.scenario_rule_applications.length

section Evidence

variable {w : DeskWorld} {input : BuildScenarioInput} {db db' : Desk} {s : Scenario}
  {computed : ComputedScenario}

/-- The rules a scenario was priced under: those the book chose and the calculator applies. -/
def PricedUnder (w : DeskWorld) (s : Scenario) (r : DeskingRule) : Prop :=
  IsChosen w.rules.rows s.inputs.jurisdiction s.rooftop_id s.priced_at r ∧
    (mapRule r).applicable = true

theorem writtenApplications_of_built
    (h : buildScenarioWithin w input db = .ok (.built s computed, db')) :
    (∀ row, row ∈ writtenApplications db db' ↔ ∃ r, PricedUnder w s r ∧
      row = (s.scenario_id, (mapRule r).application (resolvedAmount s.inputs
        (resolveRuleBookWithin w.rules.rows s.inputs.jurisdiction s.rooftop_id
          s.priced_at).rules (mapRule r)))) ∧
    ∀ row ∈ writtenApplications db db', row.2.casts w.timestamptz = true := by
  rcases built_of_build h with ⟨-, hne⟩ | ⟨c, instant, priced, expiresAt, hprices, -, hadmits,
    hout, rfl⟩
  · exact absurd rfl (hne s computed)
  · cases hout
    have hwritten : writtenApplications db (db.withScenario
        (input.row w db c instant computed expiresAt) (input.event w)) =
          computed.applications.map (w.newScenarioId, ·) := by
      rw [writtenApplications, Desk.withScenario]
      exact drop_left
    rw [hwritten]
    constructor
    · intro row
      rw [mem_map]
      constructor
      · rintro ⟨a, ha, rfl⟩
        obtain ⟨rule, hrule, happlicable, rfl⟩ :=
          (mem_applications_iff (nodup_book _) hprices.computes).mp ha
        obtain ⟨r, hr, rfl⟩ := mem_book_iff.mp hrule
        exact ⟨r, ⟨hr, happlicable⟩, rfl⟩
      · rintro ⟨r, ⟨hr, happlicable⟩, rfl⟩
        exact ⟨_, (mem_applications_iff (nodup_book _) hprices.computes).mpr
          ⟨mapRule r, mem_book_iff.mpr ⟨r, hr, rfl⟩, happlicable, rfl⟩, rfl⟩
    · intro row hrow
      obtain ⟨a, ha, rfl⟩ := mem_map.mp hrow
      exact hadmits.casts a ha

/-- The evidence of a build justifies its price exactly when every rule the price rests on is
in force between whole seconds. -/
theorem evidence_justifies_price_iff (hreads : ReadsIso w.timestamptz)
    (h : buildScenarioWithin w input db = .ok (.built s computed, db')) :
    (∀ row ∈ writtenApplications db db',
        row.1 = s.scenario_id ∧ Justifies w s.priced_at row.2) ↔
      ∀ r, PricedUnder w s r → r.interval.WholeSeconds := by
  obtain ⟨hmem, hcasts⟩ := writtenApplications_of_built h
  constructor
  · intro hevidence r hr
    have hrow := (hmem _).mpr ⟨r, hr, rfl⟩
    obtain ⟨-, named, hnamed, hid, i, hi, hsame, -⟩ := hevidence _ hrow
    obtain ⟨i', hi', hwhole⟩ := recorded_mapRule hreads (hcasts _ hrow)
    -- a rule is known by its id
    obtain rfl : named = r := eq_of_key w.rules.rule_id hnamed hr.1.1 hid
    rw [hi] at hi'
    cases hi'
    exact hwhole.mp hsame
  · intro hseconds row hrow
    obtain ⟨r, hr, rfl⟩ := (hmem row).mp hrow
    obtain ⟨i, hi, hwhole⟩ := recorded_mapRule hreads (hcasts _ hrow)
    obtain rfl := hwhole.mpr (hseconds r hr)
    exact ⟨rfl, r, hr.1.1, rfl, _, hi, rfl, hr.1.2.2.1⟩

end Evidence

/-! ## A rule that stops within a second -/

/-- The tenant's sales tax, in force until half a second past midnight on the first of May. -/
def endingTax : DeskingRule := { tenantTax with effective_to := some 1777593600500000 }

def endingBook : RuleTable where
  rows := [endingTax]
  rule_id := by decide
  kind_code_version := by decide
  checks := by decide
  no_overlap := by decide

/-- The desk a fifth of a second past midnight, at a database that reads three texts. -/
def lateMidnight : DeskWorld :=
  { newYearsEve with
    rules := endingBook
    clock := "2026-05-01T00:00:00.200Z"
    now := 1777593600200000
    timestamptz := fun t =>
      if t = "2026-05-01T00:00:00.200Z" then some 1777593600200000
      else if t = "2026-05-01T00:00:00.000Z" then some 1777593600000000
      else if t = "2026-01-01T00:00:00.000Z" then some 1767225600000000
      else none }

theorem lateMidnight_readsIso : ReadsIso lateMidnight.timestamptz := by
  refine ReadsIso.of_texts fun text t h => ?_
  unfold lateMidnight at h
  dsimp only at h
  split at h
  · cases h
    exact ⟨1777593600200, by simp only [*]; decide +kernel, rfl, by decide⟩
  split at h
  · cases h
    exact ⟨1777593600000, by simp only [*]; decide +kernel, rfl, by decide⟩
  split at h
  · cases h
    exact ⟨1767225600000, by simp only [*]; decide +kernel, rfl, by decide⟩
  · cases h

/-- The deal is taxed under a rule whose recorded interval had stopped before it was priced. -/
theorem evidence_stops_before_pricing :
    ∃ s computed db', buildScenarioWithin lateMidnight cashRequest northDesk =
        .ok (.built s computed, db') ∧ s.priced_at = 1777593600200000 ∧
      (∃ row ∈ writtenApplications northDesk db', row.2.recorded lateMidnight.timestamptz =
        some ⟨1767225600000000, some 1777593600000000⟩) ∧
      ¬ ∀ row ∈ writtenApplications northDesk db',
        row.1 = s.scenario_id ∧ Justifies lateMidnight s.priced_at row.2 := by
  have hstopped : ∀ {written : List (String × RuleApplication)},
      (∃ row ∈ written, row.2.recorded lateMidnight.timestamptz =
        some ⟨1767225600000000, some 1777593600000000⟩) →
      ¬ ∀ row ∈ written, row.1 = "scenario-1" ∧ Justifies lateMidnight 1777593600200000 row.2 := by
    rintro written ⟨row, hrow, hrecorded⟩ h
    obtain ⟨-, r, -, -, i, hi, -, hholds⟩ := h row hrow
    rw [hrecorded] at hi
    cases hi
    exact absurd hholds (by decide)
  have hwritten : ∃ s computed db', buildScenarioWithin lateMidnight cashRequest northDesk =
        .ok (.built s computed, db') ∧ (s.priced_at = 1777593600200000 ∧
          s.scenario_id = "scenario-1") ∧
      ∃ row ∈ writtenApplications northDesk db', row.2.recorded lateMidnight.timestamptz =
        some ⟨1767225600000000, some 1777593600000000⟩ :=
    ⟨_, _, _, rfl, by decide +kernel, by decide +kernel⟩
  obtain ⟨s, computed, db', hbuilt, ⟨hpriced, hid⟩, hrow⟩ := hwritten
  refine ⟨s, computed, db', hbuilt, hpriced, hrow, ?_⟩
  rw [hpriced, hid]
  exact hstopped hrow

/-- The same desk under the tenant's tax as it was, which never stops. -/
def openEnded : DeskWorld := { lateMidnight with rules := futureBook }

/-- The evidence of the deal it prices is good. -/
theorem open_ended_tax_justifies_price :
    ∃ s computed db', buildScenarioWithin openEnded cashRequest northDesk =
        .ok (.built s computed, db') ∧ (writtenApplications northDesk db').length = 1 ∧
      ∀ row ∈ writtenApplications northDesk db',
        row.1 = s.scenario_id ∧ Justifies openEnded s.priced_at row.2 := by
  have hbuilt : ∃ s computed db', buildScenarioWithin openEnded cashRequest northDesk =
      .ok (.built s computed, db') ∧ (writtenApplications northDesk db').length = 1 :=
    ⟨_, _, _, rfl, by decide +kernel⟩
  have hreads : ReadsIso openEnded.timestamptz := lateMidnight_readsIso
  obtain ⟨s, computed, db', hbuilt, hone⟩ := hbuilt
  refine ⟨s, computed, db', hbuilt, hone,
    (evidence_justifies_price_iff hreads hbuilt).mpr fun r hr => ?_⟩
  have hrow : r = tenantTax := mem_singleton.mp hr.1.1
  rw [hrow]
  decide

end Dealership.Desking
