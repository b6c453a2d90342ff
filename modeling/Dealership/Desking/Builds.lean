import Dealership.Desking.Lifecycle
import Dealership.Desking.TaxInForce

/-!
# What a build writes

`buildScenarioWithin` answers `built` exactly when the request reaches the rule book, the book
is complete, the calculator answers, the expiry is an instant and the database admits the rows.
The rows are then those of one scenario, and everything that is proved of scenarios as they are
written starts from here.
-/

namespace Dealership.Desking

open Library List

/-! ## The rows of a priced request -/

section Rows

variable (w : DeskWorld) (input : BuildScenarioInput)

/-- The rule book a request is priced with. -/
def BuildScenarioInput.book (c : DeskingCase) (instant : Int) : RuleBook :=
  resolveRuleBookWithin w.rules.rows input.jurisdiction c.rooftop_id instant

/-- The instant a version expires at. -/
def BuildScenarioInput.expiry : Except Raise (Option Int) :=
  input.expiresAt.elim (pure none) fun text => some <$> w.cast text

def BuildScenarioInput.row (db : Desk) (c : DeskingCase) (instant : Int)
    (computed : ComputedScenario) (expiresAt : Option Int) : Scenario where
  scenario_id := w.newScenarioId
  desking_case_id := input.deskingCaseId
  rooftop_id := c.rooftop_id
  version_no := nextVersionNo db input.deskingCaseId
  supersedes_scenario_id := input.supersedesScenarioId
  label := input.label
  state := .draft
  inputs := input.inputs w
  priced_at := instant
  computed
  built_by_user_link_id := input.actingUserLinkId
  expires_at := expiresAt
  authorization_version := 1

/-- The event that says a version was built. -/
def BuildScenarioInput.event : StateEvent where
  scenario_id := w.newScenarioId
  from_state := none
  to_state := .draft
  reason := input.supersedesScenarioId.map fun _ => "revision"
  changed_by_user_link_id := input.actingUserLinkId

end Rows

/-- The tables with one more version in them. -/
def Desk.withScenario (db : Desk) (s : Scenario) (e : StateEvent) : Desk :=
  { db with
    desking_scenarios := db.desking_scenarios ++ [s]
    scenario_line_items := db.scenario_line_items ++ s.computed.lines.map (s.scenario_id, ·)
    scenario_rule_applications :=
      db.scenario_rule_applications ++ s.computed.applications.map (s.scenario_id, ·)
    scenario_state_events := db.scenario_state_events ++ [e] }

/-- What the database asks of the rows of a version. -/
structure Admits (w : DeskWorld) (db : Desk) (s : Scenario) : Prop where
  label : carried s.label = true
  checks : s.checks = true
  fresh : ∀ r ∈ db.desking_scenarios, r.scenario_id ≠ s.scenario_id
  version : ∀ r ∈ db.desking_scenarios,
    ¬ (r.desking_case_id = s.desking_case_id ∧ r.version_no = s.version_no)
  supersedes : ∀ id ∈ s.supersedes_scenario_id, ∃ r ∈ db.desking_scenarios, r.scenario_id = id
  lines : ∀ l ∈ s.computed.lines, l.checks = true
  casts : ∀ a ∈ s.computed.applications, a.casts w.timestamptz = true
  rules : (s.computed.applications.map (·.ruleId)).Nodup

/-! ## When it is written -/

section Writes

variable {w : DeskWorld} {input : BuildScenarioInput} {db db' : Desk} {c : DeskingCase}
  {instant : Int} {computed : ComputedScenario} {s : Scenario} {out : BuildOutcome}

theorem insertScenario_eq_ok :
    insertScenario s db = .ok db' ↔
      carried s.label = true ∧ s.checks = true ∧
      (∀ r ∈ db.desking_scenarios, r.scenario_id ≠ s.scenario_id) ∧
      (∀ r ∈ db.desking_scenarios,
        ¬ (r.desking_case_id = s.desking_case_id ∧ r.version_no = s.version_no)) ∧
      (∀ id ∈ s.supersedes_scenario_id, ∃ r ∈ db.desking_scenarios, r.scenario_id = id) ∧
      db' = { db with desking_scenarios := db.desking_scenarios ++ [s] } := by
  simp only [insertScenario, bind_eq_ok, ensure_eq_ok, exists_and_left, exists_const,
    all_eq_true, decide_eq_true_eq, Option.all_eq_true, any_eq_true, pure, Except.pure,
    Except.ok.injEq, eq_comm (b := db')]
  rfl

theorem insertComputation_eq_ok {id : String} :
    insertComputation w id computed db = .ok db' ↔
      (∀ l ∈ computed.lines, l.checks = true) ∧
      (∀ a ∈ computed.applications, a.casts w.timestamptz = true) ∧
      (computed.applications.map (·.ruleId)).Nodup ∧
      db' = { db with
        scenario_line_items := db.scenario_line_items ++ computed.lines.map (id, ·)
        scenario_rule_applications :=
          db.scenario_rule_applications ++ computed.applications.map (id, ·) } := by
  simp only [insertComputation, bind_eq_ok, ensure_eq_ok, exists_and_left, exists_const,
    all_eq_true, decide_eq_true_eq, pure, Except.pure, Except.ok.injEq, eq_comm (b := db')]

theorem writeScenario_eq :
    writeScenario w input input.actingUserLinkId c instant computed db = (do
      let expiresAt ← input.expiry w
      let db₁ ← insertScenario (input.row w db c instant computed expiresAt) db
      let db₂ ← insertComputation w w.newScenarioId computed db₁
      let db₃ ← stateEvent (input.event w) db₂
      pure (.built (input.row w db c instant computed expiresAt) computed, db₃)) := rfl

theorem writeScenario_eq_ok :
    writeScenario w input input.actingUserLinkId c instant computed db = .ok (out, db') ↔
      ∃ expiresAt, input.expiry w = .ok expiresAt ∧
        Admits w db (input.row w db c instant computed expiresAt) ∧
        out = .built (input.row w db c instant computed expiresAt) computed ∧
        db' = db.withScenario (input.row w db c instant computed expiresAt) (input.event w) := by
  have hreason : shortReason (input.event w).reason = true := by
    show shortReason (input.supersedesScenarioId.map fun _ => "revision") = true
    cases input.supersedesScenarioId with
    | none => rfl
    | some id => exact (by decide : shortReason (some "revision") = true)
  rw [writeScenario_eq]
  constructor
  · intro h
    obtain ⟨expiresAt, hexpiry, h⟩ := bind_eq_ok.mp h
    obtain ⟨db₁, h₁, h⟩ := bind_eq_ok.mp h
    obtain ⟨db₂, h₂, h⟩ := bind_eq_ok.mp h
    obtain ⟨db₃, h₃, h⟩ := bind_eq_ok.mp h
    obtain ⟨hlabel, hchecks, hfresh, hversion, hsupersedes, rfl⟩ := insertScenario_eq_ok.mp h₁
    obtain ⟨hlines, hcasts, hrules, rfl⟩ := insertComputation_eq_ok.mp h₂
    obtain rfl := stateEvent_ok h₃
    cases h
    exact ⟨expiresAt, hexpiry,
      ⟨hlabel, hchecks, hfresh, hversion, hsupersedes, hlines, hcasts, hrules⟩, rfl, rfl⟩
  · rintro ⟨expiresAt, hexpiry, hadmits, rfl, rfl⟩
    refine bind_eq_ok.mpr ⟨expiresAt, hexpiry, bind_eq_ok.mpr ⟨_, insertScenario_eq_ok.mpr
      ⟨hadmits.label, hadmits.checks, hadmits.fresh, hadmits.version, hadmits.supersedes, rfl⟩,
      bind_eq_ok.mpr ⟨_, insertComputation_eq_ok.mpr
        ⟨hadmits.lines, hadmits.casts, hadmits.rules, rfl⟩, bind_eq_ok.mpr ⟨_, ?_, rfl⟩⟩⟩⟩
    exact bind_eq_ok.mpr ⟨(), ensure_eq_ok.mpr hreason, rfl⟩

/-- A request that reaches the rule book, with a complete book and a computed answer. -/
structure Prices (w : DeskWorld) (input : BuildScenarioInput) (db : Desk) (c : DeskingCase)
    (instant : Int) (computed : ComputedScenario) : Prop
    extends ReachesBook w input db c instant where
  jurisdiction : carried input.jurisdiction = true
  missing : (input.book w c instant).missing = []
  expired : (input.book w c instant).expired = []
  computes : computeScenario (input.inputs w) (input.book w c instant).rules = .ok computed

theorem mapError_eq_ok {ε ε' α : Type} {f : ε → ε'} {x : Except ε α} {a : α} :
    x.mapError f = .ok a ↔ x = .ok a := by
  cases x with
  | error e => exact ⟨nofun, nofun⟩
  | ok b => exact ⟨fun h => by cases h; rfl, fun h => by cases h; rfl⟩

theorem Prices.build_eq (h : Prices w input db c instant computed) :
    buildScenarioWithin w input db =
      writeScenario w input input.actingUserLinkId c instant computed db := by
  have hcomplete : ¬ ((resolveRuleBookWithin w.rules.rows input.jurisdiction c.rooftop_id
        instant).missing ≠ [] ∨
      (resolveRuleBookWithin w.rules.rows input.jurisdiction c.rooftop_id
        instant).expired ≠ []) := by
    rintro (hmissing | hexpired)
    · exact hmissing h.missing
    · exact hexpired h.expired
  have hcomputes := h.computes
  rw [BuildScenarioInput.book] at hcomputes
  have hjurisdiction : ensure (carried input.jurisdiction)
      "invalid byte sequence for encoding UTF8: 0x00" = .ok () := ensure_eq_ok.mpr h.jurisdiction
  rw [h.toReachesBook.build_eq, priceScenario, h.priced_at, hjurisdiction]
  simp only [bind, Except.bind, if_neg hcomplete]
  rw [mapError_eq_ok.mpr hcomputes]

theorem built_of_build (h : buildScenarioWithin w input db = .ok (out, db')) :
    db' = db ∧ (∀ s computed, out ≠ .built s computed) ∨
    ∃ c instant computed expiresAt, Prices w input db c instant computed ∧
      input.expiry w = .ok expiresAt ∧
      Admits w db (input.row w db c instant computed expiresAt) ∧
      out = .built (input.row w db c instant computed expiresAt) computed ∧
      db' = db.withScenario (input.row w db c instant computed expiresAt) (input.event w) := by
  rw [buildScenarioWithin] at h
  obtain ⟨actor, hactor, h⟩ := bind_eq_ok.mp h
  obtain rfl : actor = input.actingUserLinkId := requireActor_eq_ok hactor
  cases hcase : requireCaseWithin w db input.actingUserLinkId input.deskingCaseId with
  | none =>
    rw [hcase] at h
    cases h
    exact .inl ⟨rfl, fun _ _ hne => by cases hne⟩
  | some c =>
    rw [hcase] at h
    dsimp only at h
    cases hrefusal : input.refusal with
    | some error =>
      rw [hrefusal] at h
      cases h
      exact .inl ⟨rfl, fun _ _ hne => by cases hne⟩
    | none =>
      rw [hrefusal] at h
      obtain ⟨instant, hinstant, h⟩ := bind_eq_ok.mp h
      obtain ⟨_, hcarried, h⟩ := bind_eq_ok.mp h
      by_cases hcomplete : (input.book w c instant).missing ≠ [] ∨
          (input.book w c instant).expired ≠ []
      · rw [BuildScenarioInput.book] at hcomplete
        rw [if_pos hcomplete] at h
        cases h
        exact .inl ⟨rfl, fun _ _ hne => by cases hne⟩
      · have hboth := not_or.mp hcomplete
        rw [BuildScenarioInput.book] at hcomplete
        rw [if_neg hcomplete] at h
        obtain ⟨computed, hcomputed, h⟩ := bind_eq_ok.mp h
        obtain ⟨expiresAt, hwritten⟩ := writeScenario_eq_ok.mp h
        exact .inr ⟨c, instant, computed, expiresAt, ⟨⟨hactor, hcase, hrefusal, hinstant⟩,
          ensure_eq_ok.mp hcarried, not_not.mp hboth.1, not_not.mp hboth.2,
          mapError_eq_ok.mp hcomputed⟩, hwritten⟩

end Writes

end Dealership.Desking
