import Dealership.Jacket.Sources

/-!
# Opening a jacket

A jacket is opened from one approved version.  An active jacket of the file is
answered again; otherwise the unique key on the approved scenario decides, and
an empty `RETURNING` is answered with the row that already holds the key.  The
checklist is resolved from configuration at the instant the jacket opens.
-/

namespace Dealership.Jacket

open Library

def transactionTypeOf (scenario : Desking.Scenario) : TransactionType :=
  if scenario.inputs.termMonths.isNone then .retail_cash else .retail_finance

inductive OpenJacketOutcome where
  | opened (jacket : DealJacket)
  | already_open (jacket : DealJacket)
  | not_approved (error : String)
  | not_found

/-- One jacket by its id, or `none` when it does not exist or sits at a rooftop
this person does not work. -/
def requireJacketWithin (w : JacketWorld) (db : Cabinet) (actor jacketId : String) :
    Option DealJacket :=
  match db.deal_jackets.find? fun j => j.jacket_id = jacketId with
  | none => none
  | some j => if w.access.reaches actor j.rooftop_id then some j else none

def DealJacket.scope (jacket : DealJacket) (instant : Int) : ResolutionScope where
  jurisdiction := jacket.jurisdiction
  legalEntityId := jacket.legal_entity_id
  rooftopId := jacket.rooftop_id
  transactionType := jacket.transaction_type
  instant

def Requirement.item (r : Requirement) (jacketId itemId : String) : ChecklistItem where
  item_id := itemId
  jacket_id := jacketId
  requirement_id := r.requirement_id
  requirement_code := r.requirement_code
  requirement_version := r.version
  requirement_source := r.source
  required := r.required
  waivable := r.waivable
  satisfied_by := r.satisfied_by
  template_code := r.template_code
  evidence_kind := r.evidence_kind
  state := .missing
  satisfied_document_id := none
  evidence_uri := none
  evidence_sha256 := none
  waived_by_user_link_id := none
  waiver_reason := none
  waiver_policy_version := none
  waiver_evidence_uri := none
  waived_at := none
  authorization_version := 1

/-- `INSERT INTO jacket_checklist_items … ON CONFLICT (jacket_id, requirement_code) DO NOTHING`. -/
def insertItem (db : Cabinet) (i : ChecklistItem) : Except Raise Cabinet :=
  if db.jacket_checklist_items.any fun r =>
      r.jacket_id = i.jacket_id && r.requirement_code = i.requirement_code then pure db
  else do
    ensure (db.jacket_checklist_items.all fun r => r.item_id ≠ i.item_id)
      "jacket_checklist_items_pkey"
    pure { db with jacket_checklist_items := db.jacket_checklist_items ++ [i] }

/-- The checklist, resolved from configuration at the instant the jacket opens. -/
def resolveChecklist (w : JacketWorld) (jacket : DealJacket) (instant : Int) (db : Cabinet) :
    Except Raise Cabinet :=
  (resolveConfigurationWithin w.configuration (jacket.scope instant)).requirements.zipIdx.foldlM
    (fun db r => insertItem db (r.1.item jacket.jacket_id (w.newItemId r.2))) db

/-- `INSERT INTO deal_jackets`, for an approved scenario no jacket holds. -/
def insertJacket (j : DealJacket) (db : Cabinet) : Except Raise Cabinet := do
  ensure (db.deal_jackets.all fun r => r.jacket_id ≠ j.jacket_id) "deal_jackets_pkey"
  ensure (db.deal_jackets.all fun r =>
    ¬ (r.desking_case_id = j.desking_case_id ∧ r.state ≠ .voided))
    "uq_deal_jackets_one_active_per_case"
  pure { db with deal_jackets := db.deal_jackets ++ [j] }

/-- The row an approved version is bound in. -/
def jacketOf (w : JacketWorld) (actor legalEntityId : String) (fact : ApprovedDeskingVersion) :
    DealJacket where
  jacket_id := w.newJacketId
  legal_entity_id := legalEntityId
  rooftop_id := fact.deskingCase.rooftop_id
  desking_case_id := fact.deskingCase.desking_case_id
  opportunity_id := fact.deskingCase.opportunity_id
  party_id := fact.deskingCase.party_id
  stock_item_id := fact.deskingCase.stock_item_id
  appraisal_id := fact.trade.map (·.appraisal.appraisal_id)
  appraisal_version_no := fact.trade.map (·.appraisal.current_version_no)
  approved_scenario_id := fact.scenario.scenario_id
  scenario_version_no := fact.scenario.version_no
  approved_output_fingerprint := fact.scenario.computed.outputFingerprint
  approval_id := fact.approval.approval_id
  jurisdiction := fact.scenario.inputs.jurisdiction
  transaction_type := transactionTypeOf fact.scenario
  state := .open
  opened_by_user_link_id := actor
  opened_at := w.now
  authorization_version := 1

def notApproved (w : JacketWorld) (actor deskingCaseId : String) : OpenJacketOutcome :=
  match w.sources.desking_cases.find? fun c => c.desking_case_id = deskingCaseId with
  | none => .not_found
  | some file =>
    if w.access.reaches actor file.rooftop_id then
      .not_approved
        "no version of this deal is approved — the jacket opens from the desk’s decision, not before it"
    else .not_found

/-- Guards two and three: the unique key decides, and the loser re-selects. -/
def bindJacket (w : JacketWorld) (actor : String) (fact : ApprovedDeskingVersion) (now : String)
    (db : Cabinet) : Except Raise (OpenJacketOutcome × Cabinet) := do
  let rooftop ← firstRow
    (w.sources.rooftops.find? fun r => r.rooftop_id = fact.deskingCase.rooftop_id)
  match db.deal_jackets.find? fun j => j.approved_scenario_id = fact.scenario.scenario_id with
  | some raced => pure (.already_open raced, db)
  | none => do
    let jacket := jacketOf w actor rooftop.legal_entity_id fact
    let db ← insertJacket jacket db
    let instant ← w.cast now
    let db ← resolveChecklist w jacket instant db
    pure (.opened jacket, db)

def openJacketWithin (w : JacketWorld) (db : Cabinet)
    (actingUserLinkId deskingCaseId : String) : Except Raise (OpenJacketOutcome × Cabinet) := do
  let actor ← requireActor w.access actingUserLinkId
  match db.deal_jackets.find? fun j => j.desking_case_id = deskingCaseId ∧ j.state ≠ .voided with
  | some already =>
    if w.access.reaches actor already.rooftop_id then pure (.already_open already, db)
    else pure (.not_found, db)
  | none =>
    match getApprovedDeskingVersionWithin w.sources deskingCaseId with
    | none => pure (notApproved w actor deskingCaseId, db)
    | some fact =>
      if w.access.reaches actor fact.deskingCase.rooftop_id then
        bindJacket w actor fact w.clock db
      else pure (.not_found, db)

end Dealership.Jacket
