import Dealership.Inventory.Schema
import Dealership.Jacket.Lifecycle
import Dealership.Library.Chronicle

/-!
# Intake beside the desk

`openJacket`, `voidJacket` and the desk's `decideScenario`, one statement after another.
The openers of a file take its advisory lock and look for an active jacket behind it.  One
that finds none asks for the approved version, and `SELECT … state = 'approved' FOR UPDATE`
is two steps: it sees the versions that stand when it begins, waits for their rows, and
keeps those that stand by then.  An approval takes the row of its file and then the rows of
the versions it supersedes.

An id that only the database compares is a uuid, by value; the id of the file is also part
of the advisory key, and there it is the text the caller wrote.
-/

namespace Dealership.Jacket.Intake

open Library List
open Inventory (LotLock)

/-- The rows of one tenant that the three calls write. -/
structure DealRows where
  desk : Desking.Desk
  cabinet : Cabinet

abbrev IntakeWork := Script DealRows LotLock Raise

/-- What an opener finds around it, with the instant an approval was decided at. -/
structure OpenWorld extends JacketWorld where
  decidedAt : String → Int

/-- The rows the seam reads, those of the desk as they stand. -/
def OpenWorld.sourcesAt (w : OpenWorld) (desk : Desking.Desk) : Sources :=
  { w.sources with
    desking_scenarios := desk.desking_scenarios
    scenario_approvals := desk.scenario_approvals.map fun a => ⟨a, w.decidedAt a.approval_id⟩
    scenario_rule_applications := desk.scenario_rule_applications }

/-- An attributable mutation has an actor. -/
def actorWithin (access : Access) (actingUserLinkId : String) : IntakeWork String :=
  match requireActor access actingUserLinkId with
  | .ok actor => pure actor
  | .error e => .raise e

/-! ## Locks -/

/-- `pg_advisory_xact_lock`, on the file as the caller names it. -/
def intakeKey (deskingCaseId : String) : LotLock := .advisory ("fbl140:jacket:" ++ deskingCaseId)

def versionRow (scenarioId : String) : LotLock := .row "desking_scenarios" scenarioId .forUpdate

/-- What the snapshot of the approved versions leaves behind: it blocks nobody. -/
def seen (scenarioId : String) : LotLock := .row "desking_scenarios" scenarioId .read

def jacketRow (jacketId : String) : LotLock := .row "deal_jackets" jacketId .forUpdate

/-- The versions a transaction has seen stand. -/
def snapshot (held : List LotLock) : List String :=
  held.filterMap fun k =>
    match k with
    | .row table id .read => if table = "desking_scenarios" then some id else none
    | _ => none

theorem mem_snapshot {held : List LotLock} {id : String} (h : seen id ∈ held) :
    id ∈ snapshot held :=
  mem_filterMap.mpr ⟨seen id, h, rfl⟩

/-! ## openJacket -/

/-- The approved version of one desk file, locked for the caller's transaction. -/
def getApprovedDeskingVersionWithin (w : OpenWorld) (deskingCaseId : String) :
    IntakeWork (Option ApprovedDeskingVersion) :=
  match w.sources.desking_cases.find? fun c => c.desking_case_id = deskingCaseId with
  | none => pure none
  | some deskingCase => do
    let stood ← Script.selectLocking
      (fun d => (Desking.standingScenarios d.desk deskingCaseId).map fun s => seen s.scenario_id)
      fun d => (Desking.standingScenarios d.desk deskingCaseId).map (·.scenario_id)
    let approved ← Script.selectLocking (fun _ => stood.map versionRow) fun d =>
      (Desking.standingScenarios d.desk deskingCaseId).filter fun s => s.scenario_id ∈ stood
    match approved with
    | [] => pure none
    | scenario :: _ => do
      let decision ← Script.select fun d =>
        (w.sourcesAt d.desk).scenario_approvals.find? fun a =>
          a.scenario_id = scenario.scenario_id ∧ a.decision = .approved
      match decision with
      | none => pure none
      | some approval => do
        let ruleApplications ← Script.select fun d =>
          (w.sourcesAt d.desk).ruleApplications scenario.scenario_id
        pure (some
          { deskingCase
            scenario
            approval
            trade := w.sources.trade deskingCaseId
            ruleApplications })

/-- The jacket that holds an approved version, voided or not. -/
def holderOf (scenarioId : String) (d : DealRows) : Option DealJacket :=
  d.cabinet.deal_jackets.find? fun j => j.approved_scenario_id = scenarioId

def activeJacket (deskingCaseId : String) (d : DealRows) : Option DealJacket :=
  d.cabinet.deal_jackets.find? fun j => j.desking_case_id = deskingCaseId ∧ j.state ≠ .voided

/-- `INSERT INTO deal_jackets … ON CONFLICT (approved_scenario_id) DO NOTHING`: whether a row
was written.  The foreign key holds the file's row against a deletion. -/
def insertJacket (j : DealJacket) : IntakeWork Bool :=
  Script.execute
    (fun d => .index "deal_jackets_approved_scenario_key" j.approved_scenario_id ::
      if (holderOf j.approved_scenario_id d).isSome then []
      else [.index "uq_deal_jackets_one_active_per_case" j.desking_case_id,
        .row "desking_cases" j.desking_case_id .keyShare])
    (fun d => (holderOf j.approved_scenario_id d).isSome ||
      ((activeJacket j.desking_case_id d).isNone &&
        d.cabinet.deal_jackets.all fun r => r.jacket_id ≠ j.jacket_id))
    (.database "uq_deal_jackets_one_active_per_case")
    (fun v d =>
      if (holderOf j.approved_scenario_id v).isSome then d
      else { d with cabinet := { d.cabinet with deal_jackets := d.cabinet.deal_jackets ++ [j] } })
    fun d => (holderOf j.approved_scenario_id d).isNone

/-- `INSERT INTO jacket_checklist_items … ON CONFLICT (jacket_id, requirement_code) DO NOTHING`. -/
def insertItem (i : ChecklistItem) : IntakeWork Unit :=
  let taken := fun d : DealRows => d.cabinet.jacket_checklist_items.any fun r =>
    r.jacket_id = i.jacket_id && r.requirement_code = i.requirement_code
  Script.execute
    (fun _ => [.index "jacket_checklist_items_code_key" (i.jacket_id ++ ":" ++ i.requirement_code)])
    (fun d => taken d || d.cabinet.jacket_checklist_items.all fun r => r.item_id ≠ i.item_id)
    (.database "jacket_checklist_items_pkey")
    (fun v d =>
      if taken v then d
      else { d with cabinet := { d.cabinet with
        jacket_checklist_items := d.cabinet.jacket_checklist_items ++ [i] } })
    fun _ => ()

def insertItems : List ChecklistItem → IntakeWork Unit
  | [] => pure ()
  | i :: is => do
    insertItem i
    insertItems is

/-- The checklist, resolved from configuration at the instant the jacket opens. -/
def resolveChecklist (w : OpenWorld) (jacket : DealJacket) : IntakeWork Unit :=
  match w.cast w.clock with
  | .error e => .raise e
  | .ok instant =>
    insertItems ((resolveConfigurationWithin w.configuration
      (jacket.scope instant)).requirements.zipIdx.map fun r =>
        r.1.item jacket.jacket_id (w.newItemId r.2))

/-- Guards two and three: the unique key decides, and the loser re-selects. -/
def bindJacket (w : OpenWorld) (actor : String) (fact : ApprovedDeskingVersion) :
    IntakeWork OpenJacketOutcome :=
  match w.sources.rooftops.find? fun r => r.rooftop_id = fact.deskingCase.rooftop_id with
  | none => .raise (.typeError "Cannot read properties of undefined")
  | some rooftop => do
    let jacket := jacketOf w.toJacketWorld actor rooftop.legal_entity_id fact
    let written ← insertJacket jacket
    if written then do
      resolveChecklist w jacket
      pure (.opened jacket)
    else do
      let raced ← Script.select (holderOf fact.scenario.scenario_id)
      match raced with
      | some raced => pure (.already_open raced)
      | none => .raise (.typeError "Cannot read properties of undefined")

def openJacketWithin (w : OpenWorld) (actingUserLinkId deskingCaseId : String) :
    IntakeWork OpenJacketOutcome := do
  let actor ← actorWithin w.access actingUserLinkId
  Script.selectLocking (fun _ => [intakeKey deskingCaseId]) fun _ => ()
  let file := canonicalUuid deskingCaseId
  let existing ← Script.select (activeJacket file)
  match existing with
  | some already =>
    pure (if w.access.reaches actor already.rooftop_id then .already_open already else .not_found)
  | none => do
    let fact ← getApprovedDeskingVersionWithin w file
    match fact with
    | none => pure (notApproved w.toJacketWorld actor file)
    | some fact =>
      if w.access.reaches actor fact.deskingCase.rooftop_id then bindJacket w actor fact
      else pure .not_found

/-! ## voidJacket -/

/-- One turn of the loop over the live packages; a conflict is passed over. -/
def voidWithJacket (reason : String) (row : Package) : IntakeWork Unit := do
  let reason := some (slice 400 ("voided with the jacket: " ++ reason))
  let hit := fun k : Package =>
    k.package_id = row.package_id && k.state.live && k.authorization_version = row.authorization_version
  Script.execute (fun _ => [])
    (fun d => (updatePackages hit (Package.moved .voided reason) d.cabinet).isOk)
    (.database "jacket_packages")
    (fun _ d => { d with cabinet := d.cabinet.setPackages hit (Package.moved .voided reason) })
    fun _ => ()
  Script.execute (fun _ => [.row "signing_ceremonies" row.package_id .forUpdate]) (fun _ => true)
    (.database "signing_ceremonies")
    (fun _ d => { d with cabinet := voidCeremonyOfPackageWithin row.package_id d.cabinet })
    fun _ => ()

def voidEach (reason : String) : List Package → IntakeWork Unit
  | [] => pure ()
  | p :: ps => do
    voidWithJacket reason p
    voidEach reason ps

/-- The row of a jacket, at the version its caller has read. -/
def isRead (input : VoidJacketInput) (jacket : DealJacket) (r : DealJacket) : Bool :=
  r.jacket_id = jacket.jacket_id && r.authorization_version = input.expectedVersion

/-- `UPDATE deal_jackets SET state = 'voided' … RETURNING`: whether a row was moved. -/
def moveJacket (p : DealJacket → Bool) : IntakeWork Bool :=
  Script.execute (fun _ => []) (fun _ => true) (.database "deal_jackets")
    (fun _ d =>
      let moved := updateWhere (fun r => p r = true) (DealJacket.moved .voided)
        d.cabinet.deal_jackets
      { d with cabinet := { d.cabinet with deal_jackets := moved } })
    fun d => d.cabinet.deal_jackets.any p

/-- A manager voids the whole jacket.  The live package and its ceremony are
voided with it. -/
def voidJacket (w : JacketWorld) (input : VoidJacketInput) : IntakeWork JacketMoveOutcome := do
  let actor ← actorWithin w.access input.actingUserLinkId
  let found ← Script.selectLocking (fun _ => [jacketRow input.jacketId]) fun d =>
    requireJacketWithin w d.cabinet actor input.jacketId
  match found with
  | none => pure .not_found
  | some jacket =>
    if ¬ w.isEligibleManager actor jacket.rooftop_id then pure .not_found
    else
      match input.refusal jacket with
      | some out => pure out
      | none => do
        let live := fun d : DealRows => d.cabinet.jacket_packages.filter fun p =>
          p.jacket_id = jacket.jacket_id && p.state.live
        let rows ← Script.selectLocking
          (fun d => (live d).map fun p => .row "jacket_packages" p.package_id .forUpdate) live
        voidEach input.reason rows
        let moved ← moveJacket (isRead input jacket)
        pure (if moved then .moved (jacket.moved .voided)
          else .version_conflict (jacket.authorization_version + 1))

/-! ## decideScenario -/

/-- `UPDATE desking_scenarios … RETURNING`, on rows the transaction has locked. -/
def moveScenarios (p : Desking.Scenario → Bool) (target : Desking.ScenarioState) :
    IntakeWork (Option Desking.Scenario) :=
  Script.execute (fun _ => []) (fun d => (Desking.moveScenarios p target d.desk).isOk)
    (.database "desking_scenarios")
    (fun _ d =>
      let moved := updateWhere (fun s => p s = true) (Desking.Scenario.moved target)
        d.desk.desking_scenarios
      { d with desk := { d.desk with desking_scenarios := moved } })
    fun d => d.desk.desking_scenarios.find? p

/-- `INSERT INTO scenario_state_events`. -/
def stateEvent (e : Desking.StateEvent) : IntakeWork Unit :=
  Script.execute (fun _ => []) (fun d => (Desking.stateEvent e d.desk).isOk)
    (.database "scenario_state_events_reason_check")
    (fun _ d => { d with desk := { d.desk with
      scenario_state_events := d.desk.scenario_state_events ++ [e] } })
    fun _ => ()

/-- `INSERT INTO scenario_approvals`. -/
def insertApproval (a : Desking.Approval) : IntakeWork Unit :=
  Script.execute (fun _ => [.index "scenario_approvals_scenario_key" a.scenario_id])
    (fun d => (Desking.insertApproval a d.desk).isOk) (.database "scenario_approvals")
    (fun _ d => { d with desk := { d.desk with
      scenario_approvals := d.desk.scenario_approvals ++ [a] } })
    fun _ => ()

/-- Supersede one standing version: its state moves, and the event says by whom. -/
def supersedeStanding (actor : String) (scenario standing : Desking.Scenario) :
    IntakeWork Unit := do
  let _ ← moveScenarios (fun s => s.scenario_id = standing.scenario_id) .superseded
  stateEvent
    { scenario_id := standing.scenario_id
      from_state := some .approved
      to_state := .superseded
      reason := some ("superseded by version " ++ toString scenario.version_no)
      changed_by_user_link_id := actor }

def supersedeEach (actor : String) (scenario : Desking.Scenario) :
    List Desking.Scenario → IntakeWork Unit
  | [] => pure ()
  | s :: ss => do
    supersedeStanding actor scenario s
    supersedeEach actor scenario ss

/-- An approval supersedes every standing version of the case; a rejection none. -/
def supersedeFor (decision : Desking.Decision) (actor : String) (scenario : Desking.Scenario) :
    IntakeWork Unit :=
  match decision with
  | .approved => do
    let standing ← Script.selectLocking
      (fun d => (Desking.standingScenarios d.desk scenario.desking_case_id).map fun s =>
        versionRow s.scenario_id)
      fun d => Desking.standingScenarios d.desk scenario.desking_case_id
    supersedeEach actor scenario standing
  | .rejected => pure ()

/-- The row of a version that a decision moves. -/
def isReviewed (input : Desking.DecideInput) (s : Desking.Scenario) : Bool :=
  s.scenario_id = input.scenarioId && s.authorization_version = input.expectedVersion

def recordDecision (w : Desking.DeskWorld) (input : Desking.DecideInput) (actor : String)
    (scenario : Desking.Scenario) : IntakeWork Desking.DecisionOutcome := do
  supersedeFor input.decision actor scenario
  insertApproval (input.approval w actor scenario)
  let moved ← moveScenarios (isReviewed input) input.decision.state
  match moved with
  | none => pure (.version_conflict scenario.authorization_version)
  | some row => do
    stateEvent
      { scenario_id := row.scenario_id
        from_state := some .submitted
        to_state := input.decision.state
        reason := input.limitReason.or input.overrideReason
        changed_by_user_link_id := actor }
    Script.execute (fun _ => []) (fun _ => true) (.database "desking_cases")
      (fun _ d => { d with
        desk := Desking.approveCaseFor input.decision w.now row.desking_case_id d.desk })
      fun _ => ()
    pure (.decided (row.moved input.decision.state) w.newApprovalId)

/-- A manager approves or rejects one version, naming the figures they were
looking at.  The replay is answered before the version check. -/
def decideScenario (w : Desking.DeskWorld) (input : Desking.DecideInput) :
    IntakeWork Desking.DecisionOutcome := do
  let actor ← actorWithin w.access input.actingUserLinkId
  let found ← Script.selectLocking (fun _ => [versionRow input.scenarioId]) fun d =>
    d.desk.desking_scenarios.find? fun s => s.scenario_id = input.scenarioId
  match found with
  | none => pure .not_found
  | some scenario => do
    let file ← Script.selectLocking
      (fun _ => [.row "desking_cases" scenario.desking_case_id .forUpdate]) fun d =>
        Desking.requireCaseWithin w d.desk actor scenario.desking_case_id
    match file with
    | none => pure .not_found
    | some _ => do
      let decided ← Script.select fun d =>
        d.desk.scenario_approvals.find? fun a => a.scenario_id = input.scenarioId
      match decided with
      | some row =>
        pure (if row.decision = input.decision then .already_decided scenario row.approval_id
          else .invalid ("version " ++ toString scenario.version_no ++ " was already " ++
            row.decision.state.text ++ ", and a decision is made once"))
      | none =>
        match Desking.decisionRefusal w input actor scenario with
        | some outcome => pure outcome
        | none => recordDecision w input actor scenario

/-! ## Calls -/

inductive IntakeCall where
  | openJacket (w : OpenWorld) (actingUserLinkId deskingCaseId : String)
  | voidJacket (w : JacketWorld) (input : VoidJacketInput)
  | decideScenario (w : Desking.DeskWorld) (input : Desking.DecideInput)

inductive IntakeAnswer where
  | opening (outcome : OpenJacketOutcome)
  | move (outcome : JacketMoveOutcome)
  | decision (outcome : Desking.DecisionOutcome)

def IntakeCall.program : IntakeCall → IntakeWork IntakeAnswer
  | .openJacket w actor file => openJacketWithin w actor file >>= fun out => pure (.opening out)
  | .voidJacket w input => Intake.voidJacket w input >>= fun out => pure (.move out)
  | .decideScenario w input => Intake.decideScenario w input >>= fun out => pure (.decision out)

abbrev IntakeServer := Server IntakeCall DealRows LotLock Raise IntakeAnswer

abbrev IntakeEnding := Ending IntakeCall DealRows Raise IntakeAnswer

end Dealership.Jacket.Intake
