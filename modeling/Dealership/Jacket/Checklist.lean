import Dealership.Jacket.Intake
import Mathlib.Algebra.Group.Int.Defs

/-!
# The checklist, and what it takes to waive a line of it

An item satisfied by a document is marked by the assembler when it renders that
document; an item satisfied by evidence is marked here, by the person who holds
it.  A waiver is four things: who, why, under which policy version, and with
what evidence; and only a manager makes one.
-/

namespace Dealership.Jacket

open Library

/-- The items of a jacket, `ORDER BY requirement_code`. -/
def checklistWithin (db : Cabinet) (jacketId : String) : List ChecklistItem :=
  (db.jacket_checklist_items.filter fun i => i.jacket_id = jacketId).insertionSort
    fun a b => jsLe a.requirement_code b.requirement_code

/-- The items that stop a package from moving forward: required, and not yet met. -/
def blockingItems (items : List ChecklistItem) : List ChecklistItem :=
  items.filter fun i => i.required && i.state = .missing

inductive ChecklistOutcome where
  | updated (item : ChecklistItem)
  | already_there (item : ChecklistItem)
  | version_conflict (currentVersion : Nat)
  | invalid (error : String)
  | not_found

def loadItemForUpdate (db : Cabinet) (jacketId itemId : String) : Option ChecklistItem :=
  db.jacket_checklist_items.find? fun i => i.jacket_id = jacketId ∧ i.item_id = itemId

/-- Texts of at most 500 characters. -/
def fits500 (s : String) : Bool := s.length ≤ 500

/-! ## Evidence -/

structure SatisfyInput where
  actingUserLinkId : String
  jacketId : String
  itemId : String
  evidenceUri : String
  evidenceSha256 : String
  expectedVersion : Nat

/-- The requests `satisfyWithEvidence` answers without writing, in order. -/
def SatisfyInput.refusal (input : SatisfyInput) (item : ChecklistItem) : Option ChecklistOutcome :=
  if item.satisfied_by ≠ .evidence then
    some (.invalid "this requirement is met by a rendered document, not by evidence")
  else if item.state = .satisfied ∧ item.evidence_sha256 = some input.evidenceSha256 then
    some (.already_there item)
  else if item.state = .waived then
    some (.invalid "this requirement was waived; the waiver stands")
  else if isBlank input.evidenceUri ∨ (utf16 input.evidenceUri).length > 500 then
    some (.invalid "evidence names where it is")
  else if ¬ isSha256Hex input.evidenceSha256 then
    some (.invalid "evidence names the sha256 of its bytes")
  else if item.authorization_version ≠ input.expectedVersion then
    some (.version_conflict item.authorization_version)
  else none

/-- The columns evidence sets. -/
def ChecklistItem.evidenced (uri sha256 : String) (i : ChecklistItem) : ChecklistItem :=
  { i with
    state := .satisfied
    evidence_uri := some uri
    evidence_sha256 := some sha256
    authorization_version := i.authorization_version + 1 }

def satisfyWithEvidence (w : JacketWorld) (db : Cabinet) (input : SatisfyInput) :
    Except Raise (ChecklistOutcome × Cabinet) := do
  let actor ← requireActor w.access input.actingUserLinkId
  match requireJacketWithin w db actor input.jacketId with
  | none => pure (.not_found, db)
  | some _ =>
    match loadItemForUpdate db input.jacketId input.itemId with
    | none => pure (.not_found, db)
    | some item =>
      match input.refusal item with
      | some out => pure (out, db)
      | none => do
        ensure (fits500 input.evidenceUri) "jacket_checklist_items_evidence_uri_check"
        let written := ChecklistItem.evidenced input.evidenceUri input.evidenceSha256
        pure (.updated (written item), db.updateItems (fun i => i.item_id = item.item_id) written)

/-! ## Waivers -/

structure WaiveInput where
  actingUserLinkId : String
  jacketId : String
  itemId : String
  reason : String
  /-- `none` for a number that is not an integer. -/
  policyVersion : Option Int
  evidenceUri : String
  expectedVersion : Nat

/-- The requests `waiveRequirement` answers without writing, in order. -/
def WaiveInput.refusal (input : WaiveInput) (item : ChecklistItem) : Option ChecklistOutcome :=
  if item.state = .waived then some (.already_there item)
  else if ¬ item.waivable then
    some (.invalid (item.requirement_code ++ " (version " ++ decimal item.requirement_version ++
      ", " ++ item.requirement_source ++ ") is not a requirement anybody may waive"))
  else if isBlank input.reason then some (.invalid "a waiver says why")
  else if input.policyVersion.all fun v => v < 1 then
    some (.invalid "a waiver names the version of the policy that permits it")
  else if isBlank input.evidenceUri then
    some (.invalid "a waiver names the evidence it rests on")
  else if item.authorization_version ≠ input.expectedVersion then
    some (.version_conflict item.authorization_version)
  else none

/-- The columns a waiver sets. -/
def ChecklistItem.waive (actor : String) (input : WaiveInput) (now : Int) (i : ChecklistItem) :
    ChecklistItem :=
  { i with
    state := .waived
    waived_by_user_link_id := some actor
    waiver_reason := some input.reason
    waiver_policy_version := input.policyVersion
    waiver_evidence_uri := some input.evidenceUri
    waived_at := some now
    authorization_version := i.authorization_version + 1 }

def waiveRequirement (w : JacketWorld) (db : Cabinet) (input : WaiveInput) :
    Except Raise (ChecklistOutcome × Cabinet) := do
  let actor ← requireActor w.access input.actingUserLinkId
  match requireJacketWithin w db actor input.jacketId with
  | none => pure (.not_found, db)
  | some jacket =>
    if ¬ w.isEligibleManager actor jacket.rooftop_id then pure (.not_found, db)
    else
      match loadItemForUpdate db input.jacketId input.itemId with
      | none => pure (.not_found, db)
      | some item =>
        match input.refusal item with
        | some out => pure (out, db)
        | none => do
          ensure (fits500 input.reason && fits500 input.evidenceUri &&
            input.policyVersion.all fun v => v < 2 ^ 31) "jacket_checklist_items CHECK"
          let waived := ChecklistItem.waive actor input w.now
          pure (.updated (waived item), db.updateItems (fun i => i.item_id = item.item_id) waived)

end Dealership.Jacket
