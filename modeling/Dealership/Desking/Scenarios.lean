import Dealership.Desking.Rules
import Dealership.Transaction

/-!
# Scenarios: built, submitted, decided, expired

The four commands on the scenarios of a desking case, over the tables they read
and write.  A scenario is built, never edited: the only columns a command moves
on an existing row are its state and its authorization version.  Approving a
version supersedes the one that stood approved in the same transaction.

A `ScenarioView` is the row with its instants as text; the commands read the
row, and the one instant a decision compares as text is `expires_at`.
-/

namespace Dealership.Desking

open Library

/-! ## The tables -/

inductive CaseState where
  | open | approved
deriving DecidableEq

/-- A row of `desking_cases`. -/
structure DeskingCase where
  desking_case_id : String
  rooftop_id : String
  state : CaseState
  approved_at : Option Int
  authorization_version : Nat
deriving DecidableEq

inductive ScenarioState where
  | draft | submitted | approved | rejected | expired | superseded
deriving DecidableEq

def ScenarioState.text : ScenarioState → String
  | .draft => "draft"
  | .submitted => "submitted"
  | .approved => "approved"
  | .rejected => "rejected"
  | .expired => "expired"
  | .superseded => "superseded"

/-- A row of `desking_scenarios`. -/
structure Scenario where
  scenario_id : String
  desking_case_id : String
  rooftop_id : String
  version_no : Nat
  supersedes_scenario_id : Option String
  label : String
  state : ScenarioState
  inputs : ScenarioInputs
  priced_at : Int
  computed : ComputedScenario
  built_by_user_link_id : String
  expires_at : Option Int
  authorization_version : Nat
deriving DecidableEq

/-- A row of `scenario_state_events`; a `from_state` of `none` is the text `'none'`. -/
structure StateEvent where
  scenario_id : String
  from_state : Option ScenarioState
  to_state : ScenarioState
  reason : Option String
  changed_by_user_link_id : String

inductive Decision where
  | approved | rejected
deriving DecidableEq

def Decision.state : Decision → ScenarioState
  | .approved => .approved
  | .rejected => .rejected

/-- A row of `scenario_approvals`. -/
structure Approval where
  approval_id : String
  desking_case_id : String
  scenario_id : String
  scenario_version_no : Nat
  decision : Decision
  reviewed_output_fingerprint : String
  decided_by_user_link_id : String
  override_reason : Option String
  limit_reason : Option String

/-- The rows of one tenant. -/
structure Desk where
  desking_cases : List DeskingCase
  desking_scenarios : List Scenario
  scenario_line_items : List (String × ComputedLine)
  scenario_rule_applications : List (String × RuleApplication)
  scenario_state_events : List StateEvent
  scenario_approvals : List Approval

/-- What a command finds around it: who may do what, the rule book, the clocks,
the cast `$1::timestamptz` and the identifiers `gen_random_uuid()` hands out. -/
structure DeskWorld where
  access : Access
  isEligibleManager : String → String → Bool
  rules : RuleTable
  /-- `new Date().toISOString()`. -/
  clock : String
  /-- `NOW()`. -/
  now : Int
  timestamptz : String → Option Int
  newScenarioId : String
  newApprovalId : String

/-- The cast of a text to `timestamptz`. -/
def DeskWorld.cast (w : DeskWorld) (text : String) : Except Raise Int :=
  (w.timestamptz text).elim (throw (.database "invalid input syntax for timestamptz")) pure

/-! ## Statements -/

/-- The `CHECK`s of `desking_scenarios`. -/
def Scenario.checks (s : Scenario) : Bool :=
  1 ≤ s.label.length && s.label.length ≤ 80 &&
  0 ≤ s.inputs.vehiclePriceCents && 0 ≤ s.inputs.tradeAllowanceCents &&
  0 ≤ s.inputs.tradePayoffCents && 0 ≤ s.inputs.cashDownCents &&
  (s.inputs.termMonths.all fun n => 1 ≤ n && n ≤ 120) &&
  (s.inputs.aprPpm.all fun n => 0 ≤ n && n ≤ 1000000) &&
  isJurisdiction s.inputs.jurisdiction &&
  0 ≤ s.computed.taxableAmountCents && 0 ≤ s.computed.taxTotalCents &&
  0 ≤ s.computed.feeTotalCents && 0 ≤ s.computed.incentiveTotalCents &&
  (s.computed.monthlyPaymentCents.all fun n => 0 ≤ n) &&
  s.inputs.termMonths.isNone = s.inputs.aprPpm.isNone &&
  (s.expires_at.all fun t => s.priced_at < t) &&
  s.supersedes_scenario_id ≠ some s.scenario_id &&
  [s.inputs.vehiclePriceCents, s.inputs.tradeAllowanceCents, s.inputs.tradePayoffCents,
    s.inputs.cashDownCents, s.computed.tradeEquityCents, s.computed.taxableAmountCents,
    s.computed.taxTotalCents, s.computed.feeTotalCents, s.computed.incentiveTotalCents,
    s.computed.amountFinancedCents, s.computed.monthlyPaymentCents.getD 0].all fitsBigint

/-- `INSERT INTO desking_scenarios`.  No column takes a label that holds U+0000. -/
def insertScenario (s : Scenario) (db : Desk) : Except Raise Desk := do
  ensure (carried s.label) "invalid byte sequence for encoding UTF8: 0x00"
  ensure s.checks "desking_scenarios CHECK"
  ensure (db.desking_scenarios.all fun r => r.scenario_id ≠ s.scenario_id) "desking_scenarios_pkey"
  ensure (db.desking_scenarios.all fun r =>
    ¬ (r.desking_case_id = s.desking_case_id ∧ r.version_no = s.version_no))
    "desking_scenarios_version_key"
  ensure (s.supersedes_scenario_id.all fun id =>
    db.desking_scenarios.any fun r => r.scenario_id = id) "desking_scenarios_supersedes_fkey"
  pure { db with desking_scenarios := db.desking_scenarios ++ [s] }

/-- The `CHECK`s of `scenario_line_items`. -/
def ComputedLine.checks (l : ComputedLine) : Bool :=
  1 ≤ l.lineCode.length && l.lineCode.length ≤ 40 && 1 ≤ l.label.length && l.label.length ≤ 120 &&
    l.ruleId.isNone = l.ruleVersion.isNone && fitsBigint l.amountCents

/-- The columns of `scenario_rule_applications` that are cast: two instants and an amount. -/
def RuleApplication.casts (timestamptz : String → Option Int) (a : RuleApplication) : Bool :=
  (timestamptz a.effectiveFrom).isSome && (a.effectiveTo.all fun text => (timestamptz text).isSome) &&
    fitsBigint a.resolvedAmountCents

/-- The loops that write the lines and the applications beside a scenario. -/
def insertComputation (w : DeskWorld) (scenarioId : String) (c : ComputedScenario) (db : Desk) :
    Except Raise Desk := do
  ensure (c.lines.all ComputedLine.checks) "scenario_line_items CHECK"
  ensure (c.applications.all (RuleApplication.casts w.timestamptz)) "scenario_rule_applications casts"
  ensure ((c.applications.map (·.ruleId)).Nodup) "scenario_rule_applications_rule_key"
  pure { db with
    scenario_line_items := db.scenario_line_items ++ c.lines.map (scenarioId, ·)
    scenario_rule_applications :=
      db.scenario_rule_applications ++ c.applications.map (scenarioId, ·) }

/-- Texts of at most 400 characters. -/
def shortReason (reason : Option String) : Bool := reason.all fun r => r.length ≤ 400

/-- `INSERT INTO scenario_state_events`. -/
def stateEvent (e : StateEvent) (db : Desk) : Except Raise Desk := do
  ensure (shortReason e.reason) "scenario_state_events_reason_check"
  pure { db with scenario_state_events := db.scenario_state_events ++ [e] }

/-- The states `desking_scenarios_freeze` lets a row move to. -/
def freezeAllows (old new : ScenarioState) : Bool :=
  match old with
  | .approved => new = .approved || new = .superseded
  | .rejected | .expired | .superseded => new = old
  | .draft | .submitted => true

/-- `uq_scenario_one_approved_per_case`. -/
def oneApprovedPerCase (scenarios : List Scenario) : Bool :=
  ((scenarios.filter fun s => s.state = .approved).map (·.desking_case_id)).Nodup

/-- The new values of the two columns a move sets. -/
def Scenario.moved (target : ScenarioState) (s : Scenario) : Scenario :=
  { s with state := target, authorization_version := s.authorization_version + 1 }

/-- `UPDATE desking_scenarios SET state = …, authorization_version = authorization_version + 1
WHERE scenario_id = … AND p`, behind the freeze trigger and the partial unique index. -/
def moveScenarios (p : Scenario → Bool) (target : ScenarioState) (db : Desk) :
    Except Raise Desk := do
  ensure ((db.desking_scenarios.filter p).all fun s => freezeAllows s.state target)
    "desking_scenarios_freeze"
  let scenarios := updateWhere (fun s => p s = true) (Scenario.moved target) db.desking_scenarios
  ensure (oneApprovedPerCase scenarios) "uq_scenario_one_approved_per_case"
  pure { db with desking_scenarios := scenarios }

/-- The `CHECK`s of `scenario_approvals`. -/
def Approval.checks (a : Approval) : Bool :=
  shortReason a.override_reason && shortReason a.limit_reason &&
    (a.decision = .approved || a.limit_reason.isSome)

/-- `scenario_approvals_bind_reviewed_version`. -/
def bindsReviewedVersion (a : Approval) (scenarios : List Scenario) : Bool :=
  match scenarios.find? (fun s => s.scenario_id = a.scenario_id) with
  | none => false
  | some s =>
    s.computed.outputFingerprint = a.reviewed_output_fingerprint &&
      s.desking_case_id = a.desking_case_id && s.version_no = a.scenario_version_no

/-- `INSERT INTO scenario_approvals`. -/
def insertApproval (a : Approval) (db : Desk) : Except Raise Desk := do
  ensure (bindsReviewedVersion a db.desking_scenarios) "scenario_approvals_bind_reviewed_version"
  ensure a.checks "scenario_approvals CHECK"
  ensure (db.scenario_approvals.all fun r => r.approval_id ≠ a.approval_id)
    "scenario_approvals_pkey"
  ensure (db.scenario_approvals.all fun r => r.scenario_id ≠ a.scenario_id)
    "scenario_approvals_scenario_key"
  pure { db with scenario_approvals := db.scenario_approvals ++ [a] }

/-! ## Loading -/

/-- Lock a case for a command, and refuse to say whether a foreign one exists. -/
def requireCaseWithin (w : DeskWorld) (db : Desk) (actor deskingCaseId : String) :
    Option DeskingCase :=
  match db.desking_cases.find? (fun c => c.desking_case_id = deskingCaseId) with
  | none => none
  | some c => if w.access.reaches actor c.rooftop_id then some c else none

def loadScenarioForUpdate (w : DeskWorld) (db : Desk) (actor scenarioId : String) :
    Option Scenario :=
  match db.desking_scenarios.find? (fun s => s.scenario_id = scenarioId) with
  | none => none
  | some s =>
    match requireCaseWithin w db actor s.desking_case_id with
    | none => none
    | some _ => some s

/-! ## buildScenario -/

structure BuildScenarioInput where
  actingUserLinkId : String
  deskingCaseId : String
  label : String
  jurisdiction : String
  vehiclePriceCents : Int
  tradeAllowanceCents : Option Int
  tradePayoffCents : Option Int
  cashDownCents : Option Int
  termMonths : Option Int
  aprPpm : Option Int
  pricedAt : Option String
  expiresAt : Option String
  supersedesScenarioId : Option String

inductive BuildOutcome where
  | built (scenario : Scenario) (computed : ComputedScenario)
  | not_found
  | rules_unavailable (missing expired : List RuleKind)
  | invalid (error : String)

/-- The requests `buildScenarioWithin` refuses before it looks at the rule book. -/
def BuildScenarioInput.refusal (input : BuildScenarioInput) : Option String :=
  if input.vehiclePriceCents < 0 then some "a vehicle price is not negative"
  else if input.termMonths.isNone ≠ input.aprPpm.isNone then
    some "a monthly figure needs both a term and a rate, or neither"
  else if input.termMonths.any fun n => n < 1 || n > 120 then
    some "a term is between 1 and 120 months"
  else none

/-- The instant the rule book is read at, as text. -/
def BuildScenarioInput.instantText (w : DeskWorld) (input : BuildScenarioInput) : String :=
  input.pricedAt.getD w.clock

/-- What the calculator is given. -/
def BuildScenarioInput.inputs (w : DeskWorld) (input : BuildScenarioInput) : ScenarioInputs where
  vehiclePriceCents := input.vehiclePriceCents
  tradeAllowanceCents := input.tradeAllowanceCents.getD 0
  tradePayoffCents := input.tradePayoffCents.getD 0
  cashDownCents := input.cashDownCents.getD 0
  termMonths := input.termMonths
  aprPpm := input.aprPpm
  currency := "USD"
  jurisdiction := input.jurisdiction
  pricedAt := input.instantText w

/-- `SELECT COALESCE(MAX(version_no), 0) + 1`. -/
def nextVersionNo (db : Desk) (deskingCaseId : String) : Nat :=
  ((db.desking_scenarios.filter fun s => s.desking_case_id = deskingCaseId).map
    (·.version_no)).foldl max 0 + 1

def writeScenario (w : DeskWorld) (input : BuildScenarioInput) (actor : String)
    (deskingCase : DeskingCase) (instant : Int) (computed : ComputedScenario) (db : Desk) :
    Except Raise (BuildOutcome × Desk) := do
  let expiresAt ← input.expiresAt.elim (pure none) fun text => some <$> w.cast text
  let scenario : Scenario :=
    { scenario_id := w.newScenarioId
      desking_case_id := input.deskingCaseId
      rooftop_id := deskingCase.rooftop_id
      version_no := nextVersionNo db input.deskingCaseId
      supersedes_scenario_id := input.supersedesScenarioId
      label := input.label
      state := .draft
      inputs := input.inputs w
      priced_at := instant
      computed
      built_by_user_link_id := actor
      expires_at := expiresAt
      authorization_version := 1 }
  let db ← insertScenario scenario db
  let db ← insertComputation w scenario.scenario_id computed db
  let db ← stateEvent
    { scenario_id := scenario.scenario_id
      from_state := none
      to_state := .draft
      reason := input.supersedesScenarioId.map fun _ => "revision"
      changed_by_user_link_id := actor } db
  pure (.built scenario computed, db)

/-- The pricing of an admitted request: resolve the book, compute, write. -/
def priceScenario (w : DeskWorld) (input : BuildScenarioInput) (actor : String)
    (deskingCase : DeskingCase) (db : Desk) : Except Raise (BuildOutcome × Desk) := do
  let instant ← w.cast (input.instantText w)
  -- The queries of the book cannot be asked about a text that holds U+0000 either.
  ensure (carried input.jurisdiction) "invalid byte sequence for encoding UTF8: 0x00"
  let book := resolveRuleBookWithin w.rules.rows input.jurisdiction deskingCase.rooftop_id instant
  if book.missing ≠ [] ∨ book.expired ≠ [] then
    pure (.rules_unavailable book.missing book.expired, db)
  else do
    let computed ← (computeScenario (input.inputs w) book.rules).mapError .rangeError
    writeScenario w input actor deskingCase instant computed db

def buildScenarioWithin (w : DeskWorld) (input : BuildScenarioInput) (db : Desk) :
    Except Raise (BuildOutcome × Desk) := do
  let actor ← requireActor w.access input.actingUserLinkId
  match requireCaseWithin w db actor input.deskingCaseId with
  | none => pure (.not_found, db)
  | some deskingCase =>
    match input.refusal with
    | some error => pure (.invalid error, db)
    | none => priceScenario w input actor deskingCase db

/-! ## submitScenario and expireScenario -/

inductive MoveOutcome where
  | moved (scenario : Scenario)
  | already_there (scenario : Scenario)
  | not_found
  | version_conflict (currentVersion : Nat)
  | invalid (error : String)

structure MoveInput where
  actingUserLinkId : String
  scenarioId : String
  expectedVersion : Nat
  /-- Given to `expireScenario` only. -/
  reason : Option String

/-- The move both commands make once the state and the version are right. -/
def moveScenario (input : MoveInput) (actor : String) (scenario : Scenario)
    (target : ScenarioState) (reason : Option String) (db : Desk) : Except Raise (MoveOutcome × Desk) := do
  let here := fun s : Scenario =>
    s.scenario_id = input.scenarioId && s.authorization_version = input.expectedVersion
  let matched := db.desking_scenarios.find? here
  let db ← moveScenarios here target db
  match matched with
  | none => pure (.version_conflict scenario.authorization_version, db)
  | some row => do
    let db ← stateEvent
      { scenario_id := row.scenario_id
        from_state := some scenario.state
        to_state := target
        reason
        changed_by_user_link_id := actor } db
    pure (.moved (row.moved target), db)

/-- Draft → submitted: the desk is asking a manager to look. -/
def submitScenario (w : DeskWorld) (input : MoveInput) (db : Desk) :
    Except Raise (MoveOutcome × Desk) := do
  let actor ← requireActor w.access input.actingUserLinkId
  match loadScenarioForUpdate w db actor input.scenarioId with
  | none => pure (.not_found, db)
  | some scenario =>
    if scenario.state = .submitted then pure (.already_there scenario, db)
    else if scenario.state ≠ .draft then
      pure (.invalid ("a " ++ scenario.state.text ++ " version is not waiting to be submitted"), db)
    else if scenario.authorization_version ≠ input.expectedVersion then
      pure (.version_conflict scenario.authorization_version, db)
    else moveScenario input actor scenario .submitted none db

/-- Draft or submitted → expired.  A quote nobody acted on stops being a quote. -/
def expireScenario (w : DeskWorld) (input : MoveInput) (db : Desk) :
    Except Raise (MoveOutcome × Desk) := do
  let actor ← requireActor w.access input.actingUserLinkId
  match loadScenarioForUpdate w db actor input.scenarioId with
  | none => pure (.not_found, db)
  | some scenario =>
    if scenario.state = .expired then pure (.already_there scenario, db)
    else if scenario.state ≠ .draft ∧ scenario.state ≠ .submitted then
      pure (.invalid ("a " ++ scenario.state.text ++ " version cannot expire"), db)
    else if scenario.authorization_version ≠ input.expectedVersion then
      pure (.version_conflict scenario.authorization_version, db)
    else moveScenario input actor scenario .expired input.reason db

/-! ## decideScenario -/

structure DecideInput where
  actingUserLinkId : String
  scenarioId : String
  decision : Decision
  reviewedOutputFingerprint : String
  expectedVersion : Nat
  overrideReason : Option String
  limitReason : Option String
  now : Option String

inductive DecisionOutcome where
  | decided (scenario : Scenario) (approvalId : String)
  | already_decided (scenario : Scenario) (approvalId : String)
  | not_found
  | stale_view (currentFingerprint : String)
  | version_conflict (currentVersion : Nat)
  | invalid (error : String)

/-- Supersede one standing version: its state moves, and the event says by whom. -/
def supersedeStanding (actor : String) (scenario : Scenario) (db : Desk) (standing : Scenario) :
    Except Raise Desk := do
  let db ← moveScenarios (fun s => s.scenario_id = standing.scenario_id) .superseded db
  stateEvent
    { scenario_id := standing.scenario_id
      from_state := some .approved
      to_state := .superseded
      reason := some ("superseded by version " ++ toString scenario.version_no)
      changed_by_user_link_id := actor } db

def standingScenarios (db : Desk) (deskingCaseId : String) : List Scenario :=
  db.desking_scenarios.filter fun s => s.desking_case_id = deskingCaseId ∧ s.state = .approved

/-- `UPDATE desking_cases SET state = 'approved', approved_at = NOW(), …`. -/
def approveCase (now : Int) (deskingCaseId : String) (db : Desk) : Desk :=
  { db with
    desking_cases := updateWhere (fun c => c.desking_case_id = deskingCaseId)
      (fun c => { c with
        state := .approved
        approved_at := some now
        authorization_version := c.authorization_version + 1 }) db.desking_cases }

/-- An approval supersedes every standing version of the case; a rejection none. -/
def supersedeFor (decision : Decision) (actor : String) (scenario : Scenario) (db : Desk) :
    Except Raise Desk :=
  match decision with
  | .approved =>
    (standingScenarios db scenario.desking_case_id).foldlM (supersedeStanding actor scenario) db
  | .rejected => pure db

def approveCaseFor (decision : Decision) (now : Int) (deskingCaseId : String) (db : Desk) : Desk :=
  match decision with
  | .approved => approveCase now deskingCaseId db
  | .rejected => db

/-- The row a decision is recorded as. -/
def DecideInput.approval (w : DeskWorld) (input : DecideInput) (actor : String)
    (scenario : Scenario) : Approval where
  approval_id := w.newApprovalId
  desking_case_id := scenario.desking_case_id
  scenario_id := scenario.scenario_id
  scenario_version_no := scenario.version_no
  decision := input.decision
  reviewed_output_fingerprint := input.reviewedOutputFingerprint
  decided_by_user_link_id := actor
  override_reason := input.overrideReason
  limit_reason := input.limitReason

def recordDecision (w : DeskWorld) (input : DecideInput) (actor : String) (scenario : Scenario)
    (db : Desk) : Except Raise (DecisionOutcome × Desk) := do
  let db ← supersedeFor input.decision actor scenario db
  let db ← insertApproval (input.approval w actor scenario) db
  let here := fun s : Scenario =>
    s.scenario_id = input.scenarioId && s.authorization_version = input.expectedVersion
  let matched := db.desking_scenarios.find? here
  let db ← moveScenarios here input.decision.state db
  match matched with
  | none => pure (.version_conflict scenario.authorization_version, db)
  | some row => do
    let db ← stateEvent
      { scenario_id := row.scenario_id
        from_state := some .submitted
        to_state := input.decision.state
        reason := input.limitReason.or input.overrideReason
        changed_by_user_link_id := actor } db
    pure (.decided (row.moved input.decision.state) w.newApprovalId,
      approveCaseFor input.decision w.now row.desking_case_id db)

/-- The refusals of a decision on a version that nobody decided yet. -/
def decisionRefusal (w : DeskWorld) (input : DecideInput) (actor : String)
    (scenario : Scenario) : Option DecisionOutcome :=
  if scenario.state ≠ .submitted then
    some (.invalid ("a " ++ scenario.state.text ++ " version is not in front of a manager"))
  else if ¬ w.isEligibleManager actor scenario.rooftop_id then some .not_found
  else if scenario.expires_at.any fun t => jsLe (isoOfDate t) (input.now.getD w.clock) then
    some (.invalid "that version expired before it was decided — rebuild it at today’s rule book")
  else if scenario.computed.outputFingerprint ≠ input.reviewedOutputFingerprint then
    some (.stale_view scenario.computed.outputFingerprint)
  else if scenario.authorization_version ≠ input.expectedVersion then
    some (.version_conflict scenario.authorization_version)
  else if input.decision = .rejected ∧ isBlank (input.limitReason.getD "") then
    some (.invalid "a rejection says what it was rejected against")
  else none

/-- A manager approves or rejects one version, naming the figures they were
looking at.  The replay is answered before the version check. -/
def decideScenario (w : DeskWorld) (input : DecideInput) (db : Desk) :
    Except Raise (DecisionOutcome × Desk) := do
  let actor ← requireActor w.access input.actingUserLinkId
  match loadScenarioForUpdate w db actor input.scenarioId with
  | none => pure (.not_found, db)
  | some scenario =>
    match db.scenario_approvals.find? (fun a => a.scenario_id = input.scenarioId) with
    | some row =>
      if row.decision = input.decision then
        pure (.already_decided scenario row.approval_id, db)
      else
        pure (.invalid ("version " ++ toString scenario.version_no ++ " was already " ++
          row.decision.state.text ++ ", and a decision is made once"), db)
    | none =>
      match decisionRefusal w input actor scenario with
      | some outcome => pure (outcome, db)
      | none => recordDecision w input actor scenario db

/-! ## Histories -/

/-- One command, with what it found around it. -/
inductive Call where
  | build (w : DeskWorld) (input : BuildScenarioInput)
  | submit (w : DeskWorld) (input : MoveInput)
  | decide (w : DeskWorld) (input : DecideInput)
  | expire (w : DeskWorld) (input : MoveInput)

/-- The rows after a command committed or was rolled back. -/
def step (db : Desk) : Call → Desk
  | .build w input => committed db (buildScenarioWithin w input db)
  | .submit w input => committed db (submitScenario w input db)
  | .decide w input => committed db (decideScenario w input db)
  | .expire w input => committed db (expireScenario w input db)

end Dealership.Desking
