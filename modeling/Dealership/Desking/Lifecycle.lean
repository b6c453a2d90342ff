import Dealership.Desking.Scenarios

/-!
# The lifecycle of a scenario

What a committed command does to the tables is said once, in `Effect`: nothing,
a new draft, one move of one scenario, or a decision with the supersession it
entails.  The invariant ties the scenarios to their events, their decisions and
their case; it is proved once per effect and holds along every history.
-/

namespace Dealership.Desking

open Library List

variable {s : Scenario} {db db' : Desk} {w : DeskWorld} {e : StateEvent} {actor : String}
  {id : String} {t : List Scenario} {input : DecideInput} {out : MoveOutcome}

/-! ## What the statements do -/

theorem insertScenario_ok (h : insertScenario s db = .ok db') :
    (∀ r ∈ db.desking_scenarios, r.scenario_id ≠ s.scenario_id) ∧
      db' = { db with desking_scenarios := db.desking_scenarios ++ [s] } := by
  unfold insertScenario at h
  obtain ⟨_, -, h⟩ := bind_eq_ok.mp h
  obtain ⟨_, -, h⟩ := bind_eq_ok.mp h
  obtain ⟨_, hkey, h⟩ := bind_eq_ok.mp h
  obtain ⟨_, -, h⟩ := bind_eq_ok.mp h
  obtain ⟨_, -, h⟩ := bind_eq_ok.mp h
  cases h
  refine ⟨fun r hr => ?_, rfl⟩
  exact of_decide_eq_true (all_eq_true.mp (ensure_eq_ok.mp hkey) r hr)

theorem insertComputation_ok {c : ComputedScenario}
    (h : insertComputation w id c db = .ok db') : db' = { db with
      scenario_line_items := db.scenario_line_items ++ c.lines.map (id, ·)
      scenario_rule_applications :=
        db.scenario_rule_applications ++ c.applications.map (id, ·) } := by
  obtain ⟨_, -, h⟩ := bind_eq_ok.mp h
  obtain ⟨_, -, h⟩ := bind_eq_ok.mp h
  obtain ⟨_, -, h⟩ := bind_eq_ok.mp h
  cases h
  rfl

theorem stateEvent_ok (h : stateEvent e db = .ok db') :
    db' = { db with scenario_state_events := db.scenario_state_events ++ [e] } := by
  obtain ⟨_, -, h⟩ := bind_eq_ok.mp h
  cases h
  rfl

theorem moveScenarios_ok {p : Scenario → Bool} {target : ScenarioState}
    (h : moveScenarios p target db = .ok db') : db' = { db with
      desking_scenarios :=
        updateWhere (fun s => p s = true) (Scenario.moved target) db.desking_scenarios } := by
  obtain ⟨_, -, h⟩ := bind_eq_ok.mp h
  obtain ⟨_, -, h⟩ := bind_eq_ok.mp h
  cases h
  rfl

theorem insertApproval_ok {a : Approval} (h : insertApproval a db = .ok db') :
    db' = { db with scenario_approvals := db.scenario_approvals ++ [a] } := by
  obtain ⟨_, -, h⟩ := bind_eq_ok.mp h
  obtain ⟨_, -, h⟩ := bind_eq_ok.mp h
  obtain ⟨_, -, h⟩ := bind_eq_ok.mp h
  obtain ⟨_, -, h⟩ := bind_eq_ok.mp h
  cases h
  rfl

theorem requireCaseWithin_mem {c : DeskingCase} (h : requireCaseWithin w db actor id = some c) :
    c ∈ db.desking_cases ∧ c.desking_case_id = id := by
  unfold requireCaseWithin at h
  split at h
  · cases h
  next c' hfind =>
    split at h
    · cases h
      exact of_find?_eq_some hfind
    · cases h

theorem loadScenarioForUpdate_mem (h : loadScenarioForUpdate w db actor id = some s) :
    s ∈ db.desking_scenarios ∧ s.scenario_id = id := by
  unfold loadScenarioForUpdate at h
  split at h
  · cases h
  next s' hfind =>
    split at h
    · cases h
    · cases h
      exact of_find?_eq_some hfind

@[simp] theorem map_scenario_id_updateWhere (p : Scenario → Prop) [DecidablePred p]
    (target : ScenarioState) (t : List Scenario) :
    (updateWhere p (Scenario.moved target) t).map (·.scenario_id) = t.map (·.scenario_id) :=
  map_updateWhere fun _ _ => rfl

/-! ## Supersession -/

section Supersede

variable (actor : String) (scenario : Scenario)

def supersessionEvent (standing : Scenario) : StateEvent where
  scenario_id := standing.scenario_id
  from_state := some .approved
  to_state := .superseded
  reason := some ("superseded by version " ++ toString scenario.version_no)
  changed_by_user_link_id := actor

theorem foldlM_supersedeStanding_ok {standing : List Scenario}
    (h : standing.foldlM (supersedeStanding actor scenario) db = .ok db') : db' = { db with
      desking_scenarios := standing.foldl (fun t x =>
        updateWhere (fun s => s.scenario_id = x.scenario_id) (Scenario.moved .superseded) t)
        db.desking_scenarios
      scenario_state_events :=
        db.scenario_state_events ++ standing.map (supersessionEvent actor scenario) } := by
  induction standing generalizing db with
  | nil =>
    cases h
    simp
  | cons x standing ih =>
    rw [foldlM_cons] at h
    obtain ⟨db₁, hstep, h⟩ := bind_eq_ok.mp h
    obtain ⟨db₂, hmove, hevent⟩ := bind_eq_ok.mp hstep
    rw [ih h, stateEvent_ok hevent, moveScenarios_ok hmove]
    simp [supersessionEvent, decide_eq_true_eq]

end Supersede

theorem foldl_updateWhere_key (target : ScenarioState) {standing : List Scenario}
    (hn : (standing.map (·.scenario_id)).Nodup) (t : List Scenario) :
    standing.foldl (fun t x =>
        updateWhere (fun s => s.scenario_id = x.scenario_id) (Scenario.moved target) t) t =
      updateWhere (fun s => s.scenario_id ∈ standing.map (·.scenario_id))
        (Scenario.moved target) t := by
  induction standing generalizing t with
  | nil => exact (updateWhere_of_forall_not fun _ _ => not_mem_nil).symm
  | cons x standing ih =>
    rw [map_cons, nodup_cons] at hn
    rw [foldl_cons, ih hn.2, updateWhere_updateWhere]
    · exact updateWhere_congr fun r _ => by rw [map_cons, mem_cons]
    · intro r hr hmem
      exact hn.1 (hr ▸ hmem)

/-- The rows of a table with unique ids whose id is that of a standing version
are the standing versions. -/
theorem mem_standing_ids (hids : (db.desking_scenarios.map (·.scenario_id)).Nodup) {case : String}
    {r : Scenario} (hr : r ∈ db.desking_scenarios) :
    r.scenario_id ∈ (standingScenarios db case).map (·.scenario_id) ↔
      r.desking_case_id = case ∧ r.state = .approved := by
  simp only [mem_map, standingScenarios, mem_filter, decide_eq_true_eq]
  constructor
  · rintro ⟨x, ⟨hx, hstand⟩, hid⟩
    exact eq_of_key hids hx hr hid ▸ hstand
  · intro hstand
    exact ⟨r, ⟨hr, hstand⟩, rfl⟩

/-! ## What a command does -/

/-- What a decision on `s` makes of a row: the decided version moves, and an
approval supersedes the versions of the case that stood approved. -/
def decidedRow (s : Scenario) (d : Decision) (r : Scenario) : Scenario :=
  if r.scenario_id = s.scenario_id then r.moved d.state
  else if d = .approved ∧ r.desking_case_id = s.desking_case_id ∧ r.state = .approved then
    r.moved .superseded
  else r

def supersededBy (db : Desk) (s : Scenario) : Decision → List Scenario
  | .approved => standingScenarios db s.desking_case_id
  | .rejected => []

/-- What a committed command did to the tables. -/
inductive Effect (db : Desk) : Desk → Prop
  | same : Effect db db
  | built (s : Scenario) (e : StateEvent)
      (hcase : ∃ c ∈ db.desking_cases, c.desking_case_id = s.desking_case_id)
      (hfresh : ∀ r ∈ db.desking_scenarios, r.scenario_id ≠ s.scenario_id)
      (hs : s.state = .draft ∧ s.authorization_version = 1)
      (he : e.scenario_id = s.scenario_id ∧ e.from_state = none ∧ e.to_state = .draft) :
      Effect db { db with
        desking_scenarios := db.desking_scenarios ++ [s]
        scenario_line_items := db.scenario_line_items ++ s.computed.lines.map (s.scenario_id, ·)
        scenario_rule_applications :=
          db.scenario_rule_applications ++ s.computed.applications.map (s.scenario_id, ·)
        scenario_state_events := db.scenario_state_events ++ [e] }
  | moved (s : Scenario) (target : ScenarioState) (e : StateEvent)
      (hs : s ∈ db.desking_scenarios)
      (hmove : s.state = .draft ∧ target = .submitted ∨
        (s.state = .draft ∨ s.state = .submitted) ∧ target = .expired)
      (he : e.scenario_id = s.scenario_id ∧ e.from_state = some s.state ∧ e.to_state = target) :
      Effect db { db with
        desking_scenarios := updateWhere (fun r => r.scenario_id = s.scenario_id)
          (Scenario.moved target) db.desking_scenarios
        scenario_state_events := db.scenario_state_events ++ [e] }
  | decided (s : Scenario) (a : Approval) (e : StateEvent) (actor : String) (now : Int)
      (hs : s ∈ db.desking_scenarios) (hstate : s.state = .submitted)
      (hundecided : ∀ r ∈ db.scenario_approvals, r.scenario_id ≠ s.scenario_id)
      (ha : a.scenario_id = s.scenario_id ∧
        a.reviewed_output_fingerprint = s.computed.outputFingerprint)
      (he : e.scenario_id = s.scenario_id ∧ e.from_state = some .submitted ∧
        e.to_state = a.decision.state) :
      Effect db (approveCaseFor a.decision now s.desking_case_id { db with
        desking_scenarios := db.desking_scenarios.map (decidedRow s a.decision)
        scenario_approvals := db.scenario_approvals ++ [a]
        scenario_state_events := db.scenario_state_events ++
          (supersededBy db s a.decision).map (supersessionEvent actor s) ++ [e] })

structure Edit (db db' : Desk) : Prop where
  effect : Effect db db'
  count : db'.desking_scenarios.length = db.desking_scenarios.length

theorem Edit.same (db : Desk) : Edit db db := ⟨.same, rfl⟩

def UniqueIds (db : Desk) : Prop :=
  (db.desking_cases.map (·.desking_case_id)).Nodup ∧
    (db.desking_scenarios.map (·.scenario_id)).Nodup

theorem writeScenario_effect {input : BuildScenarioInput} {c : DeskingCase} {instant : Int}
    {computed : ComputedScenario} {out : BuildOutcome}
    (hc : c ∈ db.desking_cases ∧ c.desking_case_id = input.deskingCaseId)
    (h : writeScenario w input actor c instant computed db = .ok (out, db')) : Effect db db' := by
  obtain ⟨expiresAt, -, h⟩ := bind_eq_ok.mp h
  obtain ⟨db₁, h₁, h⟩ := bind_eq_ok.mp h
  obtain ⟨db₂, h₂, h⟩ := bind_eq_ok.mp h
  obtain ⟨db₃, h₃, h⟩ := bind_eq_ok.mp h
  obtain ⟨hfresh, rfl⟩ := insertScenario_ok h₁
  obtain rfl := insertComputation_ok h₂
  obtain rfl := stateEvent_ok h₃
  cases h
  exact .built _ _ ⟨c, hc⟩ hfresh ⟨rfl, rfl⟩ ⟨rfl, rfl, rfl⟩

theorem buildScenarioWithin_effect {input : BuildScenarioInput} {out : BuildOutcome}
    (h : buildScenarioWithin w input db = .ok (out, db')) : Effect db db' := by
  obtain ⟨actor, -, h⟩ := bind_eq_ok.mp h
  split at h
  · cases h
    exact .same
  next c hc =>
    split at h
    · cases h
      exact .same
    obtain ⟨instant, -, h⟩ := bind_eq_ok.mp h
    obtain ⟨_, -, h⟩ := bind_eq_ok.mp h
    dsimp only at h
    split at h
    · cases h
      exact .same
    · obtain ⟨computed, -, h⟩ := bind_eq_ok.mp h
      exact writeScenario_effect (requireCaseWithin_mem hc) h

/-- The `UPDATE … WHERE scenario_id = $2 AND authorization_version = $3` of a
locked row whose version was checked touches that row. -/
theorem updateWhere_locked (hids : (t.map (·.scenario_id)).Nodup) (hs : s ∈ t)
    (target : ScenarioState) : updateWhere (fun r => (r.scenario_id = s.scenario_id &&
        r.authorization_version = s.authorization_version : Bool) = true)
        (Scenario.moved target) t =
      updateWhere (fun r => r.scenario_id = s.scenario_id) (Scenario.moved target) t := by
  refine updateWhere_congr fun r hr => ?_
  simp only [Bool.and_eq_true, decide_eq_true_eq]
  refine ⟨And.left, fun hid => ⟨hid, ?_⟩⟩
  rw [eq_of_key hids hr hs hid]

theorem find?_locked (hids : (t.map (·.scenario_id)).Nodup) (hs : s ∈ t) :
    t.find? (fun r => (r.scenario_id = s.scenario_id &&
      r.authorization_version = s.authorization_version : Bool)) = some s := by
  refine find?_eq_some_of_unique hs (by simp) fun r hr hlocked => ?_
  rw [Bool.and_eq_true, decide_eq_true_eq] at hlocked
  exact eq_of_key hids hr hs hlocked.1

theorem moveScenario_effect {input : MoveInput} {target : ScenarioState} {reason : Option String}
    (hids : UniqueIds db) (hs : s ∈ db.desking_scenarios ∧ s.scenario_id = input.scenarioId)
    (hversion : s.authorization_version = input.expectedVersion)
    (hmove : s.state = .draft ∧ target = .submitted ∨
      (s.state = .draft ∨ s.state = .submitted) ∧ target = .expired)
    (h : moveScenario input actor s target reason db = .ok (out, db')) : Edit db db' := by
  unfold moveScenario at h
  rw [← hs.2, ← hversion] at h
  dsimp only at h
  obtain ⟨db₁, h₁, h⟩ := bind_eq_ok.mp h
  obtain rfl := moveScenarios_ok h₁
  rw [find?_locked hids.2 hs.1, updateWhere_locked hids.2 hs.1] at h
  obtain ⟨db₂, h₂, h⟩ := bind_eq_ok.mp h
  obtain rfl := stateEvent_ok h₂
  cases h
  exact ⟨.moved s target _ hs.1 hmove ⟨rfl, rfl, rfl⟩, length_map _⟩

theorem submitScenario_effect {input : MoveInput} (hids : UniqueIds db)
    (h : submitScenario w input db = .ok (out, db')) : Edit db db' := by
  obtain ⟨actor, -, h⟩ := bind_eq_ok.mp h
  split at h
  · cases h
    exact .same db
  next s hload =>
    split at h
    · cases h
      exact .same db
    split at h
    · cases h
      exact .same db
    next hdraft =>
      split at h
      · cases h
        exact .same db
      next hversion =>
        exact moveScenario_effect hids (loadScenarioForUpdate_mem hload)
          (not_not.mp hversion) (.inl ⟨not_not.mp hdraft, rfl⟩) h

theorem expireScenario_effect {input : MoveInput} (hids : UniqueIds db)
    (h : expireScenario w input db = .ok (out, db')) : Edit db db' := by
  obtain ⟨actor, -, h⟩ := bind_eq_ok.mp h
  split at h
  · cases h
    exact .same db
  next s hload =>
    split at h
    · cases h
      exact .same db
    split at h
    · cases h
      exact .same db
    next hopen =>
      split at h
      · cases h
        exact .same db
      next hversion =>
        have hstate : s.state = .draft ∨ s.state = .submitted := by
          rcases Decidable.em (s.state = .draft) with hd | hd
          · exact .inl hd
          · exact .inr (by_contra fun hsub => hopen ⟨hd, hsub⟩)
        exact moveScenario_effect hids (loadScenarioForUpdate_mem hload)
          (not_not.mp hversion) (.inr ⟨hstate, rfl⟩) h

theorem supersedeFor_ok {d : Decision} (hids : UniqueIds db)
    (h : supersedeFor d actor s db = .ok db') : db' = { db with
      desking_scenarios := updateWhere (fun r => d = .approved ∧
        r.desking_case_id = s.desking_case_id ∧ r.state = .approved)
        (Scenario.moved .superseded) db.desking_scenarios
      scenario_state_events :=
        db.scenario_state_events ++ (supersededBy db s d).map (supersessionEvent actor s) } := by
  cases d with
  | rejected =>
    cases h
    simp [supersededBy, updateWhere_of_forall_not]
  | approved =>
    have hstanding : ((standingScenarios db s.desking_case_id).map (·.scenario_id)).Nodup :=
      hids.2.sublist (filter_sublist.map _)
    rw [foldlM_supersedeStanding_ok actor s h, foldl_updateWhere_key _ hstanding,
      updateWhere_congr fun r hr => mem_standing_ids hids.2 hr]
    simp [supersededBy]

theorem updateWhere_decidedRow (hids : (t.map (·.scenario_id)).Nodup) (hs : s ∈ t)
    (hstate : s.state = .submitted) (d : Decision) :
    updateWhere (fun r => r.scenario_id = s.scenario_id) (Scenario.moved d.state)
        (updateWhere (fun r => d = .approved ∧ r.desking_case_id = s.desking_case_id ∧
          r.state = .approved) (Scenario.moved .superseded) t) =
      t.map (decidedRow s d) := by
  simp only [updateWhere, map_map]
  refine map_congr_left fun r hr => ?_
  simp only [Function.comp_apply, decidedRow]
  by_cases hid : r.scenario_id = s.scenario_id
  · -- The decided version was submitted, so it is not among the superseded ones.
    have hrs : r = s := eq_of_key hids hr hs hid
    have hnot : ¬ (d = .approved ∧ r.desking_case_id = s.desking_case_id ∧
        r.state = .approved) := by
      rintro ⟨-, -, happroved⟩
      rw [hrs, hstate] at happroved
      cases happroved
    rw [if_neg hnot, if_pos hid]
  · rw [if_neg hid]
    split
    · exact if_neg hid
    · rfl

@[simp] theorem approveCaseFor_desking_scenarios (d : Decision) (now : Int) (id : String)
    (db : Desk) : (approveCaseFor d now id db).desking_scenarios = db.desking_scenarios := by
  cases d <;> rfl

@[simp] theorem approveCaseFor_scenario_state_events (d : Decision) (now : Int) (id : String)
    (db : Desk) : (approveCaseFor d now id db).scenario_state_events = db.scenario_state_events := by
  cases d <;> rfl

@[simp] theorem approveCaseFor_scenario_approvals (d : Decision) (now : Int) (id : String)
    (db : Desk) : (approveCaseFor d now id db).scenario_approvals = db.scenario_approvals := by
  cases d <;> rfl

theorem recordDecision_effect {out : DecisionOutcome} (hids : UniqueIds db)
    (hs : s ∈ db.desking_scenarios ∧ s.scenario_id = input.scenarioId)
    (hundecided : ∀ r ∈ db.scenario_approvals, r.scenario_id ≠ s.scenario_id)
    (hstate : s.state = .submitted)
    (hreviewed : s.computed.outputFingerprint = input.reviewedOutputFingerprint)
    (hversion : s.authorization_version = input.expectedVersion)
    (h : recordDecision w input actor s db = .ok (out, db')) : Edit db db' := by
  unfold recordDecision at h
  rw [← hs.2, ← hversion] at h
  obtain ⟨db₁, h₁, h⟩ := bind_eq_ok.mp h
  obtain rfl := supersedeFor_ok hids h₁
  obtain ⟨db₂, h₂, h⟩ := bind_eq_ok.mp h
  obtain rfl := insertApproval_ok h₂
  dsimp only at h
  obtain ⟨db₃, h₃, h⟩ := bind_eq_ok.mp h
  obtain rfl := moveScenarios_ok h₃
  -- The locked row is still there: it was submitted, not standing.
  have hids₁ : ((updateWhere (fun r => input.decision = .approved ∧
      r.desking_case_id = s.desking_case_id ∧ r.state = .approved)
      (Scenario.moved .superseded) db.desking_scenarios).map (·.scenario_id)).Nodup := by
    rw [map_scenario_id_updateWhere]
    exact hids.2
  have hs₁ : s ∈ updateWhere (fun r => input.decision = .approved ∧
      r.desking_case_id = s.desking_case_id ∧ r.state = .approved)
      (Scenario.moved .superseded) db.desking_scenarios := by
    refine mem_updateWhere_of_neg hs.1 ?_
    rintro ⟨-, -, happroved⟩
    rw [hstate] at happroved
    cases happroved
  rw [find?_locked hids₁ hs₁, updateWhere_locked hids₁ hs₁,
    updateWhere_decidedRow hids.2 hs.1 hstate] at h
  obtain ⟨db₄, h₄, h⟩ := bind_eq_ok.mp h
  obtain rfl := stateEvent_ok h₄
  cases h
  refine ⟨.decided s (input.approval w actor s) _ actor w.now hs.1 hstate hundecided
    ⟨rfl, hreviewed.symm⟩ ⟨rfl, rfl, rfl⟩, ?_⟩
  rw [approveCaseFor_desking_scenarios]
  exact length_map _

theorem decisionRefusal_eq_none (h : decisionRefusal w input actor s = none) :
    s.state = .submitted ∧ s.computed.outputFingerprint = input.reviewedOutputFingerprint ∧
      s.authorization_version = input.expectedVersion := by
  unfold decisionRefusal at h
  split at h
  · cases h
  next hstate =>
    split at h
    · cases h
    split at h
    · cases h
    split at h
    · cases h
    next hreviewed =>
      split at h
      · cases h
      next hversion => exact ⟨not_not.mp hstate, not_not.mp hreviewed, not_not.mp hversion⟩

theorem decideScenario_effect {out : DecisionOutcome} (hids : UniqueIds db)
    (h : decideScenario w input db = .ok (out, db')) : Edit db db' := by
  obtain ⟨actor, -, h⟩ := bind_eq_ok.mp h
  split at h
  · cases h
    exact .same db
  next s hload =>
    have hs := loadScenarioForUpdate_mem hload
    split at h
    · split at h
      · cases h
        exact .same db
      · cases h
        exact .same db
    · next hnone =>
        have hundecided : ∀ r ∈ db.scenario_approvals, r.scenario_id ≠ s.scenario_id := by
          intro r hr hid
          have hne := find?_eq_none.mp hnone r hr
          exact hne (decide_eq_true (hid.trans hs.2))
        split at h
        · cases h
          exact .same db
        next hok =>
          obtain ⟨hstate, hreviewed, hversion⟩ := decisionRefusal_eq_none hok
          exact recordDecision_effect hids hs hundecided hstate hreviewed hversion h

theorem step_edit (hids : UniqueIds db) (call : Call) :
    (∃ w input, call = .build w input) ∨ Edit db (step db call) := by
  cases call with
  | build w input => exact .inl ⟨w, input, rfl⟩
  | submit w input =>
    exact .inr (committed_induction (.same db) fun _ _ h => submitScenario_effect hids h)
  | decide w input =>
    exact .inr (committed_induction (.same db) fun _ _ h => decideScenario_effect hids h)
  | expire w input =>
    exact .inr (committed_induction (.same db) fun _ _ h => expireScenario_effect hids h)

/-- Every command, committed or rolled back, has one of the four effects. -/
theorem step_effect (hids : UniqueIds db) (call : Call) : Effect db (step db call) := by
  rcases step_edit hids call with ⟨w, input, rfl⟩ | h
  · exact committed_induction .same fun _ _ h => buildScenarioWithin_effect h
  · exact h.effect

/-! ## The invariant -/

/-- The events of one scenario, in commit order. -/
def eventsOf (events : List StateEvent) (scenarioId : String) : List StateEvent :=
  events.filter fun e => e.scenario_id = scenarioId

/-- The events of a scenario are one chain from `none → draft` to its state, and
its authorization version counts them. -/
def History (events : List StateEvent) (s : Scenario) : Prop :=
  Trail (·.from_state) (fun e => some e.to_state) none (eventsOf events s.scenario_id)
      (some s.state) ∧
    (eventsOf events s.scenario_id).head?.map (·.to_state) = some .draft ∧
    s.authorization_version = (eventsOf events s.scenario_id).length

def ScenarioState.IsDecided (state : ScenarioState) : Prop :=
  state = .approved ∨ state = .rejected ∨ state = .superseded

/-- A decision is recorded exactly for the decided states, it is a rejection
exactly for the rejected ones, and it names the figures of the scenario. -/
def DecisionRecorded (approvals : List Approval) (s : Scenario) : Prop :=
  ((∃ a ∈ approvals, a.scenario_id = s.scenario_id) ↔ s.state.IsDecided) ∧
    ∀ a ∈ approvals, a.scenario_id = s.scenario_id →
      (a.decision = .rejected ↔ s.state = .rejected) ∧
        a.reviewed_output_fingerprint = s.computed.outputFingerprint

/-- The case of `c` has an approved scenario. -/
def HasApproved (scenarios : List Scenario) (c : DeskingCase) : Prop :=
  ∃ s ∈ scenarios, s.desking_case_id = c.desking_case_id ∧ s.state = .approved

/-- What holds of the tables in every state a history reaches. -/
structure Coherent (db : Desk) : Prop where
  ids : UniqueIds db
  case_of : ∀ s ∈ db.desking_scenarios, ∃ c ∈ db.desking_cases,
    c.desking_case_id = s.desking_case_id
  event_of : ∀ e ∈ db.scenario_state_events, ∃ s ∈ db.desking_scenarios,
    s.scenario_id = e.scenario_id
  approval_of : ∀ a ∈ db.scenario_approvals, ∃ s ∈ db.desking_scenarios,
    s.scenario_id = a.scenario_id
  one_decision : (db.scenario_approvals.map (·.scenario_id)).Nodup
  one_approved : ∀ s ∈ db.desking_scenarios, ∀ s' ∈ db.desking_scenarios,
    s.state = .approved → s'.state = .approved → s.desking_case_id = s'.desking_case_id → s = s'
  case_approved : ∀ c ∈ db.desking_cases, c.state = .approved ↔ HasApproved db.desking_scenarios c
  history : ∀ s ∈ db.desking_scenarios, History db.scenario_state_events s
  decision : ∀ s ∈ db.desking_scenarios, DecisionRecorded db.scenario_approvals s

theorem eventsOf_append (events more : List StateEvent) (id : String) :
    eventsOf (events ++ more) id = eventsOf events id ++ eventsOf more id := filter_append _ _

theorem History.append_others {events more : List StateEvent} (h : History events s)
    (hmore : eventsOf more s.scenario_id = []) : History (events ++ more) s := by
  unfold History
  rw [eventsOf_append, hmore, append_nil]
  exact h

theorem History.append_move {events more : List StateEvent} (h : History events s)
    (hmore : eventsOf more s.scenario_id = [e]) (hfrom : e.from_state = some s.state) :
    History (events ++ more) (s.moved e.to_state) := by
  obtain ⟨htrail, hhead, hlength⟩ := h
  have hev : eventsOf (events ++ more) s.scenario_id = eventsOf events s.scenario_id ++ [e] := by
    rw [eventsOf_append, hmore]
  have hne : eventsOf events s.scenario_id ≠ [] := by
    intro hnil
    rw [hnil] at hhead
    cases hhead
  unfold History
  rw [Scenario.moved]
  dsimp only
  rw [hev]
  refine ⟨htrail.concat hfrom, ?_, ?_⟩
  · rw [head?_append_of_ne_nil _ hne]
    exact hhead
  · rw [length_append, length_singleton, hlength]

theorem eventsOf_singleton_of_ne (h : e.scenario_id ≠ id) :
    eventsOf [e] id = [] := by simp [eventsOf, h]

theorem eventsOf_singleton (h : e.scenario_id = id) :
    eventsOf [e] id = [e] := by simp [eventsOf, h]

/-! ## Every effect keeps the invariant -/

section Effects

variable {r : Scenario}

theorem Coherent.built (h : Coherent db) {lines : List (String × ComputedLine)}
    {applications : List (String × RuleApplication)}
    (hcase : ∃ c ∈ db.desking_cases, c.desking_case_id = s.desking_case_id)
    (hfresh : ∀ r ∈ db.desking_scenarios, r.scenario_id ≠ s.scenario_id)
    (hs : s.state = .draft ∧ s.authorization_version = 1)
    (he : e.scenario_id = s.scenario_id ∧ e.from_state = none ∧ e.to_state = .draft) :
    Coherent { db with
      desking_scenarios := db.desking_scenarios ++ [s]
      scenario_line_items := lines
      scenario_rule_applications := applications
      scenario_state_events := db.scenario_state_events ++ [e] } := by
  -- The new id has no events and no decision yet.
  have hnoevents : eventsOf db.scenario_state_events s.scenario_id = [] := by
    rw [eventsOf, filter_eq_nil_iff]
    intro e' he' hid
    obtain ⟨r, hr, hrid⟩ := h.event_of e' he'
    exact hfresh r hr (hrid.trans (of_decide_eq_true hid))
  have hundecided : ∀ a ∈ db.scenario_approvals, a.scenario_id ≠ s.scenario_id := by
    intro a ha hid
    obtain ⟨r, hr, hrid⟩ := h.approval_of a ha
    exact hfresh r hr (hrid.trans hid)
  have hdraft : s.state ≠ .approved := by
    rw [hs.1]
    exact ScenarioState.noConfusion
  refine ⟨⟨h.ids.1, nodup_key_insert h.ids.2 hfresh⟩, ?_, ?_, ?_, h.one_decision, ?_, ?_, ?_, ?_⟩
  · intro r hr
    rcases mem_inserted hr with hr | rfl
    · exact h.case_of r hr
    · exact hcase
  · intro e' he'
    rcases mem_inserted he' with he' | rfl
    · obtain ⟨r, hr, hrid⟩ := h.event_of e' he'
      exact ⟨r, mem_append_left _ hr, hrid⟩
    · exact ⟨s, by simp, he.1.symm⟩
  · intro a ha
    obtain ⟨r, hr, hrid⟩ := h.approval_of a ha
    exact ⟨r, mem_append_left _ hr, hrid⟩
  · intro r hr r' hr' happ happ' hcase
    rcases mem_inserted hr with hr | rfl
    · rcases mem_inserted hr' with hr' | rfl
      · exact h.one_approved r hr r' hr' happ happ' hcase
      · exact absurd happ' hdraft
    · exact absurd happ hdraft
  · intro c hc
    rw [h.case_approved c hc]
    constructor
    · rintro ⟨r, hr, hrc⟩
      exact ⟨r, mem_append_left _ hr, hrc⟩
    · rintro ⟨r, hr, hrc⟩
      rcases mem_inserted hr with hr | rfl
      · exact ⟨r, hr, hrc⟩
      · exact absurd hrc.2 hdraft
  · intro r hr
    rcases mem_inserted hr with hr | rfl
    · exact (h.history r hr).append_others (eventsOf_singleton_of_ne (he.1 ▸ (hfresh r hr).symm))
    · unfold History
      rw [eventsOf_append, hnoevents, eventsOf_singleton he.1]
      refine ⟨⟨he.2.1, ?_⟩, ?_, hs.2⟩
      · simp [Trail, he.2.2, hs.1]
      · simp [he.2.2]
  · intro r hr
    rcases mem_inserted hr with hr | rfl
    · exact h.decision r hr
    · refine ⟨⟨?_, ?_⟩, fun a ha hid => absurd hid (hundecided a ha)⟩
      · rintro ⟨a, ha, hid⟩
        exact absurd hid (hundecided a ha)
      · rw [hs.1]
        rintro (hd | hd | hd) <;> cases hd

theorem Coherent.moved (h : Coherent db) {target : ScenarioState} (hs : s ∈ db.desking_scenarios)
    (hmove : s.state = .draft ∧ target = .submitted ∨
      (s.state = .draft ∨ s.state = .submitted) ∧ target = .expired)
    (he : e.scenario_id = s.scenario_id ∧ e.from_state = some s.state ∧ e.to_state = target) :
    Coherent { db with
      desking_scenarios := updateWhere (fun r => r.scenario_id = s.scenario_id)
        (Scenario.moved target) db.desking_scenarios
      scenario_state_events := db.scenario_state_events ++ [e] } := by
  have hcases : ∀ {r' : Scenario},
      r' ∈ updateWhere (fun r => r.scenario_id = s.scenario_id) (Scenario.moved target)
        db.desking_scenarios →
      (r' ∈ db.desking_scenarios ∧ r'.scenario_id ≠ s.scenario_id) ∨ r' = s.moved target := by
    exact fun hr' => (mem_updateWhere_key h.ids.2 hs fun _ => Iff.rfl).mp hr'
  have hkept : ∀ {r : Scenario}, r ∈ db.desking_scenarios → ∃ r' ∈
      updateWhere (fun r => r.scenario_id = s.scenario_id) (Scenario.moved target)
        db.desking_scenarios, r'.scenario_id = r.scenario_id := by
    intro r hr
    by_cases hid : r.scenario_id = s.scenario_id
    · exact ⟨_, mem_updateWhere_of_pos hr hid, rfl⟩
    · exact ⟨r, mem_updateWhere_of_neg hr hid, rfl⟩
  -- Neither end of the move is a decided state.
  have hopen : ¬ s.state.IsDecided := by
    rcases hmove with ⟨hst, -⟩ | ⟨hst | hst, -⟩ <;> rw [hst] <;> rintro (hd | hd | hd) <;> cases hd
  have htarget : ¬ target.IsDecided := by
    rcases hmove with ⟨-, hst⟩ | ⟨-, hst⟩ <;> rw [hst] <;> rintro (hd | hd | hd) <;> cases hd
  have hundecided : ∀ a ∈ db.scenario_approvals, a.scenario_id ≠ s.scenario_id :=
    fun a ha hid => hopen ((h.decision s hs).1.mp ⟨a, ha, hid⟩)
  refine ⟨⟨h.ids.1, ?_⟩, ?_, ?_, ?_, h.one_decision, ?_, ?_, ?_, ?_⟩
  · rw [map_scenario_id_updateWhere]
    exact h.ids.2
  · intro r' hr'
    rcases hcases hr' with ⟨hr, -⟩ | rfl
    · exact h.case_of r' hr
    · exact h.case_of s hs
  · intro e' he'
    rcases mem_inserted he' with he' | rfl
    · obtain ⟨r, hr, hrid⟩ := h.event_of e' he'
      obtain ⟨r', hr', hid⟩ := hkept hr
      exact ⟨r', hr', hid.trans hrid⟩
    · rw [he.1]
      exact hkept hs
  · intro a ha
    obtain ⟨r, hr, hrid⟩ := h.approval_of a ha
    obtain ⟨r', hr', hid⟩ := hkept hr
    exact ⟨r', hr', hid.trans hrid⟩
  · intro r hr r' hr' happ happ' hcase
    rcases hcases hr with ⟨hr, -⟩ | rfl
    · rcases hcases hr' with ⟨hr', -⟩ | rfl
      · exact h.one_approved r hr r' hr' happ happ' hcase
      · exact absurd (.inl happ') htarget
    · exact absurd (.inl happ) htarget
  · intro c hc
    rw [h.case_approved c hc]
    constructor
    · rintro ⟨r, hr, hrc, happ⟩
      have hid : r.scenario_id ≠ s.scenario_id := by
        intro hid
        rw [eq_of_key h.ids.2 hr hs hid] at happ
        exact hopen (.inl happ)
      exact ⟨r, mem_updateWhere_of_neg hr hid, hrc, happ⟩
    · rintro ⟨r', hr', hrc, happ⟩
      rcases hcases hr' with ⟨hr, -⟩ | rfl
      · exact ⟨r', hr, hrc, happ⟩
      · exact absurd (.inl happ) htarget
  · intro r' hr'
    rcases hcases hr' with ⟨hr, hid⟩ | rfl
    · exact (h.history r' hr).append_others (eventsOf_singleton_of_ne (he.1 ▸ hid.symm))
    · rw [← he.2.2]
      exact (h.history s hs).append_move (eventsOf_singleton he.1) he.2.1
  · intro r' hr'
    rcases hcases hr' with ⟨hr, -⟩ | rfl
    · exact h.decision r' hr
    · refine ⟨⟨?_, fun hd => absurd hd htarget⟩, fun a ha hid => absurd hid (hundecided a ha)⟩
      rintro ⟨a, ha, hid⟩
      exact absurd hid (hundecided a ha)

/-! ### Decisions -/

@[simp] theorem decidedRow_scenario_id (s : Scenario) (d : Decision) (r : Scenario) :
    (decidedRow s d r).scenario_id = r.scenario_id := by
  unfold decidedRow
  split
  · rfl
  · split <;> rfl

@[simp] theorem decidedRow_desking_case_id (s : Scenario) (d : Decision) (r : Scenario) :
    (decidedRow s d r).desking_case_id = r.desking_case_id := by
  unfold decidedRow
  split
  · rfl
  · split <;> rfl

theorem decidedRow_cases (hids : UniqueIds db) (hs : s ∈ db.desking_scenarios)
    (hr : r ∈ db.desking_scenarios) (d : Decision) : (r = s ∧ decidedRow s d r = s.moved d.state) ∨
    (r.scenario_id ≠ s.scenario_id ∧ d = .approved ∧ r ∈ supersededBy db s d ∧
      r.desking_case_id = s.desking_case_id ∧ r.state = .approved ∧
      decidedRow s d r = r.moved .superseded) ∨
    (r.scenario_id ≠ s.scenario_id ∧ r ∉ supersededBy db s d ∧
      ¬ (d = .approved ∧ r.desking_case_id = s.desking_case_id ∧ r.state = .approved) ∧
      decidedRow s d r = r) := by
  unfold decidedRow
  by_cases hid : r.scenario_id = s.scenario_id
  · obtain rfl := eq_of_key hids.2 hr hs hid
    exact .inl ⟨rfl, by rw [if_pos rfl]⟩
  · rw [if_neg hid]
    by_cases hstand : d = .approved ∧ r.desking_case_id = s.desking_case_id ∧ r.state = .approved
    · rw [if_pos hstand]
      obtain ⟨rfl, hcase, happ⟩ := hstand
      refine .inr (.inl ⟨hid, rfl, ?_, hcase, happ, rfl⟩)
      simp only [supersededBy, standingScenarios, mem_filter, decide_eq_true_eq]
      exact ⟨hr, hcase, happ⟩
    · rw [if_neg hstand]
      refine .inr (.inr ⟨hid, fun hmem => ?_, hstand, rfl⟩)
      cases d with
      | rejected => cases hmem
      | approved =>
        simp only [supersededBy, standingScenarios, mem_filter, decide_eq_true_eq] at hmem
        exact hstand ⟨rfl, hmem.2⟩

theorem mem_of_mem_supersededBy {d : Decision} (h : r ∈ supersededBy db s d) :
    r ∈ db.desking_scenarios ∧ r.state = .approved := by
  cases d with
  | rejected => cases h
  | approved =>
    simp only [supersededBy, standingScenarios, mem_filter, decide_eq_true_eq] at h
    exact ⟨h.1, h.2.2⟩

theorem nodup_supersededBy (hids : UniqueIds db) (s : Scenario) (d : Decision) :
    ((supersededBy db s d).map (·.scenario_id)).Nodup := by
  cases d with
  | rejected => exact nodup_nil
  | approved => exact hids.2.sublist (filter_sublist.map _)

theorem eventsOf_supersessions (actor : String) (s : Scenario) (standing : List Scenario)
    (id : String) :
    eventsOf (standing.map (supersessionEvent actor s)) id =
      (standing.filter fun x => x.scenario_id = id).map (supersessionEvent actor s) := by
  rw [eventsOf, filter_map]
  rfl

theorem eventsOf_decision (hids : UniqueIds db) (hr : r ∈ db.desking_scenarios) (d : Decision)
    (actor : String) :
    eventsOf ((supersededBy db s d).map (supersessionEvent actor s) ++ [e]) r.scenario_id =
      (if r ∈ supersededBy db s d then [supersessionEvent actor s r] else []) ++
        eventsOf [e] r.scenario_id := by
  rw [eventsOf_append, eventsOf_supersessions]
  split
  · next hmem =>
      rw [filter_eq_singleton_of_key (nodup_supersededBy hids s d) hmem]
      rfl
  · next hmem =>
      have hnone : (supersededBy db s d).filter (fun x => x.scenario_id = r.scenario_id) = [] := by
        rw [filter_eq_nil_iff]
        intro x hx hid
        obtain rfl := eq_of_key hids.2 (mem_of_mem_supersededBy hx).1 hr (of_decide_eq_true hid)
        exact hmem hx
      rw [hnone]
      rfl

theorem mem_approveCaseFor {d : Decision} {now : Int} {id : String} {c' : DeskingCase}
    (h : c' ∈ (approveCaseFor d now id db).desking_cases) :
    ∃ c ∈ db.desking_cases, c'.desking_case_id = c.desking_case_id ∧
      (d = .approved ∧ c.desking_case_id = id ∧ c'.state = .approved ∨
        ¬ (d = .approved ∧ c.desking_case_id = id) ∧ c'.state = c.state) := by
  cases d with
  | rejected => exact ⟨c', h, rfl, .inr ⟨fun hd => Decision.noConfusion hd.1, rfl⟩⟩
  | approved =>
    rcases updateWhere_cases h with ⟨hc, hid⟩ | ⟨c, hc, hid, rfl⟩
    · exact ⟨c', hc, rfl, .inr ⟨fun h => hid h.2, rfl⟩⟩
    · exact ⟨c, hc, rfl, .inl ⟨rfl, hid, rfl⟩⟩

theorem map_case_id_approveCaseFor (d : Decision) (now : Int) (id : String) (db : Desk) :
    (approveCaseFor d now id db).desking_cases.map (·.desking_case_id) =
      db.desking_cases.map (·.desking_case_id) := by
  cases d with
  | rejected => rfl
  | approved => exact map_updateWhere fun _ _ => rfl

theorem exists_mem_approveCaseFor {d : Decision} {now : Int} {id : String} {c : DeskingCase}
    (hc : c ∈ db.desking_cases) :
    ∃ c' ∈ (approveCaseFor d now id db).desking_cases, c'.desking_case_id = c.desking_case_id := by
  refine mem_map.mp ?_
  rw [map_case_id_approveCaseFor]
  exact mem_map_of_mem hc

theorem Coherent.decided (h : Coherent db) {a : Approval} {now : Int}
    (hs : s ∈ db.desking_scenarios) (hstate : s.state = .submitted)
    (hundecided : ∀ r ∈ db.scenario_approvals, r.scenario_id ≠ s.scenario_id)
    (ha : a.scenario_id = s.scenario_id ∧
      a.reviewed_output_fingerprint = s.computed.outputFingerprint)
    (he : e.scenario_id = s.scenario_id ∧ e.from_state = some .submitted ∧
      e.to_state = a.decision.state) :
    Coherent (approveCaseFor a.decision now s.desking_case_id { db with
      desking_scenarios := db.desking_scenarios.map (decidedRow s a.decision)
      scenario_approvals := db.scenario_approvals ++ [a]
      scenario_state_events := db.scenario_state_events ++
        (supersededBy db s a.decision).map (supersessionEvent actor s) ++ [e] }) := by
  have hnotapproved : s.state ≠ .approved := by
    rw [hstate]
    exact ScenarioState.noConfusion
  -- Which rows are approved afterwards.
  have happroved : ∀ r ∈ db.desking_scenarios, (decidedRow s a.decision r).state = .approved →
      (r = s ∧ a.decision = .approved) ∨ (r.state = .approved ∧ decidedRow s a.decision r = r ∧
        (a.decision = .approved → r.desking_case_id ≠ s.desking_case_id)) := by
    intro r hr happ
    rcases decidedRow_cases h.ids hs hr a.decision with
      ⟨rfl, hrow⟩ | ⟨-, -, -, -, -, hrow⟩ | ⟨-, -, hstand, hrow⟩
    · rw [hrow] at happ
      refine .inl ⟨rfl, ?_⟩
      cases hd : a.decision with
      | approved => rfl
      | rejected =>
        rw [hd] at happ
        cases happ
    · rw [hrow] at happ
      cases happ
    · rw [hrow] at happ
      exact .inr ⟨happ, hrow, fun hd hcase => hstand ⟨hd, hcase, happ⟩⟩
  refine ⟨⟨?_, ?_⟩, ?_, ?_, ?_, ?_, ?_, ?_, ?_, ?_⟩
  · rw [map_case_id_approveCaseFor]
    exact h.ids.1
  · rw [approveCaseFor_desking_scenarios, map_map]
    simpa only [Function.comp_def, decidedRow_scenario_id] using h.ids.2
  · intro r' hr'
    rw [approveCaseFor_desking_scenarios] at hr'
    obtain ⟨r, hr, rfl⟩ := mem_map.mp hr'
    obtain ⟨c, hc, hcase⟩ := h.case_of r hr
    rw [decidedRow_desking_case_id, ← hcase]
    exact exists_mem_approveCaseFor hc
  · intro e' he'
    rw [approveCaseFor_scenario_state_events] at he'
    rw [approveCaseFor_desking_scenarios]
    have hold : ∃ r ∈ db.desking_scenarios, r.scenario_id = e'.scenario_id := by
      simp only [mem_append, mem_map, mem_singleton] at he'
      rcases he' with (he' | ⟨x, hx, rfl⟩) | rfl
      · exact h.event_of e' he'
      · exact ⟨x, (mem_of_mem_supersededBy hx).1, rfl⟩
      · exact ⟨s, hs, he.1.symm⟩
    obtain ⟨r, hr, hid⟩ := hold
    exact ⟨_, mem_map_of_mem hr, by rw [decidedRow_scenario_id, hid]⟩
  · intro a' ha'
    rw [approveCaseFor_scenario_approvals] at ha'
    rw [approveCaseFor_desking_scenarios]
    have hold : ∃ r ∈ db.desking_scenarios, r.scenario_id = a'.scenario_id := by
      rcases mem_inserted ha' with ha' | rfl
      · exact h.approval_of a' ha'
      · exact ⟨s, hs, ha.1.symm⟩
    obtain ⟨r, hr, hid⟩ := hold
    exact ⟨_, mem_map_of_mem hr, by rw [decidedRow_scenario_id, hid]⟩
  · rw [approveCaseFor_scenario_approvals]
    exact nodup_key_insert h.one_decision fun r hr => ha.1 ▸ hundecided r hr
  · intro r₁' hr₁' r₂' hr₂' happ₁ happ₂ hcase
    rw [approveCaseFor_desking_scenarios] at hr₁' hr₂'
    obtain ⟨r₁, hr₁, rfl⟩ := mem_map.mp hr₁'
    obtain ⟨r₂, hr₂, rfl⟩ := mem_map.mp hr₂'
    rw [decidedRow_desking_case_id, decidedRow_desking_case_id] at hcase
    rcases happroved r₁ hr₁ happ₁ with ⟨rfl, hd⟩ | ⟨hst₁, hrow₁, hother₁⟩ <;>
      rcases happroved r₂ hr₂ happ₂ with ⟨rfl, hd'⟩ | ⟨hst₂, hrow₂, hother₂⟩
    · rfl
    · exact absurd hcase.symm (hother₂ hd)
    · exact absurd hcase (hother₁ hd')
    · rw [h.one_approved r₁ hr₁ r₂ hr₂ hst₁ hst₂ hcase]
  · intro c' hc'
    rw [approveCaseFor_desking_scenarios]
    obtain ⟨c, hc, hid, hstate'⟩ := mem_approveCaseFor hc'
    have hcstate := h.case_approved c hc
    rcases hstate' with ⟨hd, hcs, hst⟩ | ⟨hother, hst⟩
    · -- The case of the approved version.
      refine iff_of_true hst ⟨decidedRow s a.decision s, mem_map_of_mem hs, ?_, ?_⟩
      · rw [decidedRow_desking_case_id, hid, hcs]
      · simp [decidedRow, Scenario.moved, hd, Decision.state]
    · rw [hst, hcstate]
      constructor
      · rintro ⟨r, hr, hrc, happ⟩
        rcases decidedRow_cases h.ids hs hr a.decision with
          ⟨rfl, -⟩ | ⟨-, hd, -, hcase, -⟩ | ⟨-, -, -, hrow⟩
        · exact absurd happ hnotapproved
        · exact absurd ⟨hd, hrc.symm.trans hcase⟩ hother
        · refine ⟨decidedRow s a.decision r, mem_map_of_mem hr, ?_, ?_⟩
          · rw [decidedRow_desking_case_id, hrc, hid]
          · rw [hrow, happ]
      · rintro ⟨r', hr', hrc, happ⟩
        obtain ⟨r, hr, rfl⟩ := mem_map.mp hr'
        rw [decidedRow_desking_case_id, hid] at hrc
        rcases happroved r hr happ with ⟨rfl, hd⟩ | ⟨hst', -, -⟩
        · exact absurd ⟨hd, hrc.symm⟩ hother
        · exact ⟨r, hr, hrc, hst'⟩
  · intro r' hr'
    rw [approveCaseFor_desking_scenarios] at hr'
    rw [approveCaseFor_scenario_state_events, append_assoc]
    obtain ⟨r, hr, rfl⟩ := mem_map.mp hr'
    have hev := eventsOf_decision h.ids (s := s) hr a.decision actor (e := e)
    rcases decidedRow_cases h.ids hs hr a.decision with
      ⟨rfl, hrow⟩ | ⟨hid, -, hmem, -, happ, hrow⟩ | ⟨hid, hmem, -, hrow⟩
    · -- The decided version: it was not standing, and its event comes last.
      have hmem : r ∉ supersededBy db r a.decision :=
        fun hmem => hnotapproved (mem_of_mem_supersededBy hmem).2
      rw [if_neg hmem, eventsOf_singleton he.1, nil_append] at hev
      rw [hrow, ← he.2.2]
      exact (h.history r hr).append_move hev (by rw [he.2.1, hstate])
    · rw [if_pos hmem, eventsOf_singleton_of_ne (he.1 ▸ hid.symm), append_nil] at hev
      rw [hrow]
      exact (h.history r hr).append_move hev (by rw [happ]; rfl)
    · rw [if_neg hmem, eventsOf_singleton_of_ne (he.1 ▸ hid.symm), append_nil] at hev
      rw [hrow]
      exact (h.history r hr).append_others hev
  · intro r' hr'
    rw [approveCaseFor_desking_scenarios] at hr'
    rw [approveCaseFor_scenario_approvals]
    obtain ⟨r, hr, rfl⟩ := mem_map.mp hr'
    have hdec := h.decision r hr
    -- Decisions about a row that is not the decided one are the old ones.
    have hothers : r.scenario_id ≠ s.scenario_id → ∀ a',
        (a' ∈ db.scenario_approvals ++ [a] ∧ a'.scenario_id = r.scenario_id ↔
          a' ∈ db.scenario_approvals ∧ a'.scenario_id = r.scenario_id) := by
      intro hid a'
      simp only [mem_append, mem_singleton]
      constructor
      · rintro ⟨hmem | rfl, hid'⟩
        · exact ⟨hmem, hid'⟩
        · exact absurd (hid'.symm.trans ha.1) hid
      · rintro ⟨hmem, hid'⟩
        exact ⟨.inl hmem, hid'⟩
    rcases decidedRow_cases h.ids hs hr a.decision with
      ⟨rfl, hrow⟩ | ⟨hid, -, -, -, happ, hrow⟩ | ⟨hid, -, -, hrow⟩
    · rw [hrow]
      refine ⟨iff_of_true ⟨a, by simp, ha.1⟩ ?_, ?_⟩
      · cases hd : a.decision
        · exact .inl rfl
        · exact .inr (.inl rfl)
      · intro a' ha' hid'
        rcases mem_inserted ha' with hmem | rfl
        · exact absurd hid' (hundecided a' hmem)
        · refine ⟨?_, ha.2⟩
          cases hd : a.decision <;> simp [Scenario.moved, Decision.state]
    · rw [hrow]
      refine ⟨iff_of_true ?_ (.inr (.inr rfl)), ?_⟩
      · obtain ⟨a', ha', hid'⟩ := hdec.1.mpr (.inl happ)
        exact ⟨a', mem_append_left _ ha', hid'⟩
      · intro a' ha' hid'
        have hold := hdec.2 a' ((hothers hid a').mp ⟨ha', hid'⟩).1 hid'
        rw [happ] at hold
        simpa [Scenario.moved] using hold
    · rw [hrow]
      refine ⟨?_, fun a' ha' hid' => hdec.2 a' ((hothers hid a').mp ⟨ha', hid'⟩).1 hid'⟩
      rw [← hdec.1]
      exact exists_congr fun a' => hothers hid a'

end Effects

theorem Coherent.step (h : Coherent db) (call : Call) : Coherent (step db call) := by
  generalize hdb : Desking.step db call = db'
  cases (hdb ▸ step_effect h.ids call : Effect db db') with
  | same => exact h
  | built s e hcase hfresh hs he => exact h.built hcase hfresh hs he
  | moved s target e hs hmove he => exact h.moved hs hmove he
  | decided s a e actor now hs hstate hundecided ha he =>
    exact h.decided hs hstate hundecided ha he

/-! ## What never changes -/

/-- A scenario without the two columns a command may move. -/
def Scenario.frozen (s : Scenario) : Scenario := { s with state := .draft, authorization_version := 0 }

/-- Nothing a scenario was built from or computed to is edited or deleted, and
an approved case stays approved. -/
structure Persists (db db' : Desk) : Prop where
  scenarios : ∀ s ∈ db.desking_scenarios, ∃ s' ∈ db'.desking_scenarios, s'.frozen = s.frozen
  lines : db.scenario_line_items <+: db'.scenario_line_items
  applications : db.scenario_rule_applications <+: db'.scenario_rule_applications
  approvals : db.scenario_approvals <+: db'.scenario_approvals
  cases : ∀ c ∈ db.desking_cases, c.state = .approved → ∃ c' ∈ db'.desking_cases,
    c'.desking_case_id = c.desking_case_id ∧ c'.state = .approved

theorem Persists.refl (db : Desk) : Persists db db :=
  ⟨fun s hs => ⟨s, hs, rfl⟩, prefix_rfl, prefix_rfl, prefix_rfl,
    fun c hc happ => ⟨c, hc, rfl, happ⟩⟩

theorem Persists.trans {a b c : Desk} (hab : Persists a b) (hbc : Persists b c) :
    Persists a c where
  scenarios s hs := by
    obtain ⟨s', hs', hfrozen⟩ := hab.scenarios s hs
    obtain ⟨s'', hs'', hfrozen'⟩ := hbc.scenarios s' hs'
    exact ⟨s'', hs'', hfrozen'.trans hfrozen⟩
  lines := hab.lines.trans hbc.lines
  applications := hab.applications.trans hbc.applications
  approvals := hab.approvals.trans hbc.approvals
  cases k hk happ := by
    obtain ⟨k', hk', hid, happ'⟩ := hab.cases k hk happ
    obtain ⟨k'', hk'', hid', happ''⟩ := hbc.cases k' hk' happ'
    exact ⟨k'', hk'', hid'.trans hid, happ''⟩

theorem decidedRow_frozen (s : Scenario) (d : Decision) (r : Scenario) :
    (decidedRow s d r).frozen = r.frozen := by
  unfold decidedRow
  split
  · rfl
  · split <;> rfl

theorem Edit.frozen (h : Edit db db') :
    db'.desking_scenarios.map Scenario.frozen = db.desking_scenarios.map Scenario.frozen := by
  obtain ⟨heffect, hcount⟩ := h
  cases heffect with
  | same => rfl
  | built s e =>
    rw [length_append, length_singleton] at hcount
    omega
  | moved s target e =>
    show (updateWhere _ _ db.desking_scenarios).map Scenario.frozen = _
    rw [updateWhere, map_map]
    refine map_congr_left fun r _ => ?_
    rw [Function.comp_apply]
    split <;> rfl
  | decided s a e actor now =>
    rw [approveCaseFor_desking_scenarios, map_map]
    exact map_congr_left fun r _ => decidedRow_frozen s a.decision r

theorem Effect.persists (h : Effect db db') : Persists db db' := by
  cases h with
  | same => exact .refl db
  | built s e hcase hfresh hs he =>
    exact ⟨fun r hr => ⟨r, mem_append_left _ hr, rfl⟩, prefix_append _ _,
      prefix_append _ _, prefix_rfl, fun c hc happ => ⟨c, hc, rfl, happ⟩⟩
  | moved s target e hs hmove he =>
    refine ⟨fun r hr => ?_, prefix_rfl, prefix_rfl, prefix_rfl, fun c hc happ => ⟨c, hc, rfl, happ⟩⟩
    by_cases hid : r.scenario_id = s.scenario_id
    · exact ⟨_, mem_updateWhere_of_pos hr hid, rfl⟩
    · exact ⟨r, mem_updateWhere_of_neg hr hid, rfl⟩
  | decided s a e actor now hs hstate hundecided ha he =>
    cases hd : a.decision with
    | rejected =>
      exact ⟨fun r hr => ⟨_, mem_map_of_mem hr, decidedRow_frozen s _ r⟩,
        prefix_rfl, prefix_rfl, prefix_append _ _,
        fun c hc happ => ⟨c, hc, rfl, happ⟩⟩
    | approved =>
      refine ⟨fun r hr => ⟨_, mem_map_of_mem hr, decidedRow_frozen s _ r⟩,
        prefix_rfl, prefix_rfl, prefix_append _ _, fun c hc happ => ?_⟩
      by_cases hid : c.desking_case_id = s.desking_case_id
      · exact ⟨_, mem_updateWhere_of_pos hc hid, rfl, rfl⟩
      · exact ⟨c, mem_updateWhere_of_neg hc hid, rfl, happ⟩

/-! ## Histories -/

/-- The desk before any scenario: open cases under unique ids. -/
structure OpenCases where
  cases : List DeskingCase
  ids : (cases.map (·.desking_case_id)).Nodup
  allOpen : ∀ c ∈ cases, c.state = .open

def OpenCases.desk (start : OpenCases) : Desk := ⟨start.cases, [], [], [], [], []⟩

theorem OpenCases.coherent (start : OpenCases) : Coherent start.desk where
  ids := ⟨start.ids, nodup_nil⟩
  case_of _ hs := absurd hs not_mem_nil
  event_of _ he := absurd he not_mem_nil
  approval_of _ ha := absurd ha not_mem_nil
  one_decision := nodup_nil
  one_approved _ hs := absurd hs not_mem_nil
  case_approved c hc := by
    rw [start.allOpen c hc]
    refine iff_of_false CaseState.noConfusion ?_
    rintro ⟨s, hs, -⟩
    exact not_mem_nil hs
  history _ hs := absurd hs not_mem_nil
  decision _ hs := absurd hs not_mem_nil

/-- In every state a history of commands reaches, the scenarios, their events,
their decisions and their cases agree, and nothing written is edited later. -/
theorem scenario_lifecycle (start : OpenCases) (calls : List Call) :
    let db := run step start.desk calls
    (∀ c ∈ db.desking_cases, ∀ s ∈ db.desking_scenarios, ∀ s' ∈ db.desking_scenarios,
      s.desking_case_id = c.desking_case_id → s'.desking_case_id = c.desking_case_id →
      s.state = .approved → s'.state = .approved → s = s') ∧
    (∀ c ∈ db.desking_cases, c.state = .approved ↔ HasApproved db.desking_scenarios c) ∧
    (∀ s ∈ db.desking_scenarios, History db.scenario_state_events s) ∧
    (∀ s ∈ db.desking_scenarios, DecisionRecorded db.scenario_approvals s) ∧
    (db.scenario_approvals.map (·.scenario_id)).Nodup ∧
    ∀ more : List Call, Persists db (run step db more) := by
  have hcoherent := run_invariant (I := Coherent) (fun db call h => h.step call)
    start.coherent calls
  refine ⟨?_, hcoherent.case_approved, hcoherent.history, hcoherent.decision,
    hcoherent.one_decision, ?_⟩
  · intro c _ s hs s' hs' hcase hcase' happ happ'
    exact hcoherent.one_approved s hs s' hs' happ happ' (hcase.trans hcase'.symm)
  · intro more
    exact run_related Persists.refl (fun _ _ _ => Persists.trans) (fun db call h => h.step call)
      (fun db call h => (step_effect (Coherent.ids h) call).persists) hcoherent more

end Dealership.Desking
