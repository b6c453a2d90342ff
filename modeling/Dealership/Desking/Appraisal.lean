import Dealership.Desking.Scenarios
import Mathlib.Algebra.Group.Int.Defs

/-!
# Appraisals: the car once, its evidence in versions

The identity of the trade is one row, and it does not change; what a walk-around
finds is a new version every time, and the appraisal points at the last one.  A
revision is allowed after a scenario was approved: the scenario carries its own
figures, so new evidence moves none of them.
-/

namespace Dealership.Desking

open Library List

/-! ## Rows -/

inductive Ownership where
  | owned_outright | financed | leased

def Ownership.text : Ownership → String
  | .owned_outright => "owned_outright"
  | .financed => "financed"
  | .leased => "leased"

inductive Relationship where
  | customer_owned | co_owned | third_party

inductive OdometerStatus where
  | actual | not_actual | exceeds_limits

def OdometerStatus.text : OdometerStatus → String
  | .actual => "actual"
  | .not_actual => "not_actual"
  | .exceeds_limits => "exceeds_limits"

inductive ConditionGrade where
  | rough | average | clean | extra_clean

def ConditionGrade.text : ConditionGrade → String
  | .rough => "rough"
  | .average => "average"
  | .clean => "clean"
  | .extra_clean => "extra_clean"

inductive Provenance where
  | walk_around | third_party_inspection | customer_declared

inductive DamageSeverity where
  | light | moderate | severe

/-- A row of `appraisal_damage_items`. -/
structure DamageInput where
  area : String
  severity : DamageSeverity
  note : Option String
  estimatedRepairCents : Option Int

/-- A row of `appraisal_equipment`. -/
structure EquipmentInput where
  code : String
  label : String
  present : Bool

structure AppraisalEvidence where
  ownership : Ownership
  relationship : Relationship
  /-- `none` for a number that is not an integer. -/
  odometerMiles : Option Int
  odometerStatus : OdometerStatus
  conditionGrade : ConditionGrade
  provenance : Provenance
  inspectionNotes : Option String
  changeReason : Option String
  damage : List DamageInput
  equipment : List EquipmentInput
  observations : List String

/-- A row of `appraisals`. -/
structure Appraisal where
  appraisal_id : String
  rooftop_id : String
  desking_case_id : String
  vin : String
  model_year : Int
  make : String
  model : String
  trim_level : Option String
  current_version_no : Int
  authorization_version : Nat

/-- A row of `appraisal_versions`, with the rows written under it. -/
structure AppraisalVersion where
  appraisal_id : String
  version_no : Int
  ownership : Ownership
  relationship : Relationship
  odometer_miles : Int
  odometer_status : OdometerStatus
  condition_grade : ConditionGrade
  provenance : Provenance
  inspection_notes : Option String
  change_reason : Option String
  recorded_by_user_link_id : String
  damage : List DamageInput
  equipment : List EquipmentInput
  observations : List String

structure Appraisals where
  appraisals : List Appraisal
  appraisal_versions : List AppraisalVersion

/-- What an appraisal's command finds around it. -/
structure AppraisalWorld extends DeskWorld where
  /-- `vin.toUpperCase()`. -/
  toUpperCase : String → String
  newAppraisalId : String

inductive AppraisalOutcome where
  | recorded (appraisal : Appraisal) (versionNo : Int)
  | already_recorded (appraisal : Appraisal)
  | not_found
  | version_conflict (currentVersion : Nat)
  | invalid (error : String)

/-! ## The evidence -/

/-- The first equipment code that is listed twice. -/
def repeatedCode : List String → List String → Option String
  | _, [] => none
  | codes, code :: rest => if code ∈ codes then some code else repeatedCode (code :: codes) rest

def evidenceProblem (evidence : AppraisalEvidence) : Option String :=
  if evidence.odometerMiles.all fun n => n < 0 then
    some "an odometer reading is a whole number of miles"
  else if evidence.damage.any fun item => isBlank item.area then some "a damage note says where"
  else (repeatedCode [] (evidence.equipment.map (·.code))).map fun code =>
    "equipment " ++ code ++ " is listed twice"

/-- An `INTEGER` column. -/
def fitsInteger (n : Int) : Bool := -(2 ^ 31) ≤ n && n < 2 ^ 31

/-- A text of one to `limit` characters. -/
def lengthUpTo (limit : Nat) (s : String) : Bool := 1 ≤ s.length && s.length ≤ limit

/-- The `CHECK`s of `appraisal_versions` and of the tables under it. -/
def AppraisalVersion.checks (v : AppraisalVersion) : Bool :=
  1 ≤ v.version_no && fitsInteger v.version_no && 0 ≤ v.odometer_miles &&
    fitsInteger v.odometer_miles &&
    (v.inspection_notes.all fun n => n.length ≤ 2000) &&
    (v.change_reason.all fun r => r.length ≤ 400) &&
    (v.damage.all fun d => lengthUpTo 60 d.area && (d.note.all fun n => n.length ≤ 400) &&
      d.estimatedRepairCents.all fun n => 0 ≤ n && fitsBigint n) &&
    (v.equipment.all fun e => lengthUpTo 40 e.code && lengthUpTo 120 e.label) &&
    v.observations.all (lengthUpTo 1000)

/-- `vin ~ '^[A-HJ-NPR-Z0-9]{11,17}$'`. -/
def isVin (s : String) : Bool :=
  11 ≤ s.length && s.length ≤ 17 &&
    s.toList.all fun c => c.isDigit || (('A' ≤ c && c ≤ 'Z') && c ≠ 'I' && c ≠ 'O' && c ≠ 'Q')

/-- The `CHECK`s of `appraisals`. -/
def Appraisal.checks (a : Appraisal) : Bool :=
  isVin a.vin && 1900 ≤ a.model_year && a.model_year ≤ 2100 && lengthUpTo 60 a.make &&
    lengthUpTo 60 a.model && a.trim_level.all fun t => t.length ≤ 60

def versionOf (appraisalId : String) (versionNo : Int) (actor : String)
    (evidence : AppraisalEvidence) : AppraisalVersion where
  appraisal_id := appraisalId
  version_no := versionNo
  ownership := evidence.ownership
  relationship := evidence.relationship
  odometer_miles := evidence.odometerMiles.getD 0
  odometer_status := evidence.odometerStatus
  condition_grade := evidence.conditionGrade
  provenance := evidence.provenance
  inspection_notes := evidence.inspectionNotes
  change_reason := evidence.changeReason
  recorded_by_user_link_id := actor
  damage := evidence.damage
  equipment := evidence.equipment
  observations := evidence.observations

def writeVersion (v : AppraisalVersion) (t : Appraisals) : Except Raise Appraisals := do
  ensure v.checks "appraisal_versions CHECK"
  ensure (t.appraisal_versions.all fun r =>
    ¬ (r.appraisal_id = v.appraisal_id ∧ r.version_no = v.version_no))
    "appraisal_versions_version_key"
  pure { t with appraisal_versions := t.appraisal_versions ++ [v] }

/-! ## recordAppraisal -/

structure RecordAppraisalInput where
  actingUserLinkId : String
  deskingCaseId : String
  vin : String
  modelYear : Int
  make : String
  model : String
  trimLevel : Option String
  evidence : AppraisalEvidence

def RecordAppraisalInput.row (w : AppraisalWorld) (input : RecordAppraisalInput)
    (deskingCase : DeskingCase) : Appraisal where
  appraisal_id := w.newAppraisalId
  rooftop_id := deskingCase.rooftop_id
  desking_case_id := input.deskingCaseId
  vin := w.toUpperCase input.vin
  model_year := input.modelYear
  make := input.make
  model := input.model
  trim_level := input.trimLevel
  current_version_no := 1
  authorization_version := 1

/-- `INSERT INTO appraisals`, for a case without one. -/
def insertAppraisal (a : Appraisal) (t : Appraisals) : Except Raise Appraisals := do
  ensure a.checks "appraisals CHECK"
  ensure (t.appraisals.all fun r => r.appraisal_id ≠ a.appraisal_id) "appraisals_pkey"
  pure { t with appraisals := t.appraisals ++ [a] }

def recordAppraisalWithin (w : AppraisalWorld) (db : Desk) (input : RecordAppraisalInput)
    (t : Appraisals) : Except Raise (AppraisalOutcome × Appraisals) := do
  let actor ← requireActor w.access input.actingUserLinkId
  match evidenceProblem input.evidence with
  | some problem => pure (.invalid problem, t)
  | none =>
    match requireCaseWithin w.toDeskWorld db actor input.deskingCaseId with
    | none => pure (.not_found, t)
    | some deskingCase =>
      match t.appraisals.find? fun a => a.desking_case_id = input.deskingCaseId with
      | some existing => pure (.already_recorded existing, t)
      | none => do
        let appraisal := input.row w deskingCase
        let t ← insertAppraisal appraisal t
        let t ← writeVersion (versionOf appraisal.appraisal_id 1 actor input.evidence) t
        pure (.recorded appraisal 1, t)

/-! ## reviseAppraisal -/

structure ReviseAppraisalInput where
  actingUserLinkId : String
  appraisalId : String
  expectedVersion : Nat
  evidence : AppraisalEvidence

/-- The columns a revision sets. -/
def Appraisal.revised (versionNo : Int) (a : Appraisal) : Appraisal :=
  { a with
    current_version_no := versionNo
    authorization_version := a.authorization_version + 1 }

/-- A new version of the evidence.  The old one stays exactly as it was. -/
def reviseAppraisal (w : AppraisalWorld) (db : Desk) (input : ReviseAppraisalInput)
    (t : Appraisals) : Except Raise (AppraisalOutcome × Appraisals) := do
  let actor ← requireActor w.access input.actingUserLinkId
  match evidenceProblem input.evidence with
  | some problem => pure (.invalid problem, t)
  | none =>
    match t.appraisals.find? fun a => a.appraisal_id = input.appraisalId with
    | none => pure (.not_found, t)
    | some current =>
      match requireCaseWithin w.toDeskWorld db actor current.desking_case_id with
      | none => pure (.not_found, t)
      | some _ =>
        if current.authorization_version ≠ input.expectedVersion then
          pure (.version_conflict current.authorization_version, t)
        else do
          let next := current.current_version_no + 1
          let t ← writeVersion (versionOf current.appraisal_id next actor input.evidence) t
          pure (.recorded (current.revised next) next, { t with
            appraisals := updateWhere (fun a => a.appraisal_id = input.appraisalId ∧
              a.authorization_version = input.expectedVersion) (Appraisal.revised next)
              t.appraisals })

/-! ## What never changes -/

/-- The car of an appraisal: its row without the columns a revision moves. -/
def Appraisal.car (a : Appraisal) : Appraisal :=
  { a with current_version_no := 1, authorization_version := 1 }

/-- No appraisal changes its car or goes away, and no version is edited. -/
structure AppraisalsPersist (before after : Appraisals) : Prop where
  appraisals : ∀ a ∈ before.appraisals, ∃ b ∈ after.appraisals, b.car = a.car
  versions : ∀ v ∈ before.appraisal_versions, v ∈ after.appraisal_versions

theorem AppraisalsPersist.refl (t : Appraisals) : AppraisalsPersist t t :=
  ⟨fun a ha => ⟨a, ha, rfl⟩, fun _ hv => hv⟩

theorem writeVersion_ok {v : AppraisalVersion} {t t' : Appraisals}
    (h : writeVersion v t = .ok t') :
    t' = { t with appraisal_versions := t.appraisal_versions ++ [v] } := by
  obtain ⟨_, -, h⟩ := bind_eq_ok.mp h
  obtain ⟨_, -, h⟩ := bind_eq_ok.mp h
  cases h
  rfl

theorem recordAppraisalWithin_persist {w : AppraisalWorld} {db : Desk}
    {input : RecordAppraisalInput} {t t' : Appraisals} {out : AppraisalOutcome}
    (h : recordAppraisalWithin w db input t = .ok (out, t')) : AppraisalsPersist t t' := by
  obtain ⟨_, -, h⟩ := bind_eq_ok.mp h
  split at h
  · cases h
    exact .refl t
  split at h
  · cases h
    exact .refl t
  split at h
  · cases h
    exact .refl t
  obtain ⟨t₁, h₁, h⟩ := bind_eq_ok.mp h
  obtain ⟨t₂, h₂, h⟩ := bind_eq_ok.mp h
  cases h
  obtain ⟨_, -, h₁⟩ := bind_eq_ok.mp h₁
  obtain ⟨_, -, h₁⟩ := bind_eq_ok.mp h₁
  cases h₁
  obtain rfl := writeVersion_ok h₂
  exact ⟨fun a ha => ⟨a, mem_append_left _ ha, rfl⟩, fun v hv => mem_append_left _ hv⟩

theorem reviseAppraisal_persist {w : AppraisalWorld} {db : Desk} {input : ReviseAppraisalInput}
    {t t' : Appraisals} {out : AppraisalOutcome}
    (h : reviseAppraisal w db input t = .ok (out, t')) : AppraisalsPersist t t' := by
  obtain ⟨_, -, h⟩ := bind_eq_ok.mp h
  split at h
  · cases h
    exact .refl t
  split at h
  · cases h
    exact .refl t
  split at h
  · cases h
    exact .refl t
  split at h
  · cases h
    exact .refl t
  obtain ⟨t₁, h₁, h⟩ := bind_eq_ok.mp h
  cases h
  obtain rfl := writeVersion_ok h₁
  refine ⟨fun a ha => ?_, fun v hv => mem_append_left _ hv⟩
  by_cases hit : a.appraisal_id = input.appraisalId ∧
      a.authorization_version = input.expectedVersion
  · exact ⟨_, mem_updateWhere_of_pos ha hit, rfl⟩
  · exact ⟨a, mem_updateWhere_of_neg ha hit, rfl⟩

end Dealership.Desking
