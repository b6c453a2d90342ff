import Dealership.Crm.Contacts
import Dealership.Library.Json
import Dealership.Library.Sha256

/-!
# The lead

Capture, the lifecycle and the handoff, each inside its transaction.  A capture
reads the intake ledger without a lock, resolves the customer, locks the interest
and only then asks whether a lead is open on it; the ledger's own row comes last.
A move of the lifecycle locks the lead first.
-/

namespace Dealership.Crm

open Library

/-! ## Intake -/

structure ProviderLeadPayload where
  externalId : Option String
  givenName : Option String
  familyName : Option String
  email : Option String
  phone : Option String
  comment : Option String
  vin : Option String

structure LeadCaptureInput where
  actingUserLinkId : String
  rooftopId : String
  intakeKey : String
  channel : IntakeChannel
  sourceCode : String
  partyId : Option String
  party : Option PartyDetails
  interestStockItemId : Option String
  interestVehicleId : Option String
  campaignVersionId : Option String
  payload : Option ProviderLeadPayload

inductive LeadCaptureOutcome where
  | created (lead : Lead) (partyId : String)
  | merged_into_existing (lead : Lead) (partyId : String) (replayed : Bool)
  | invalid (error : String)

/-- `x || null` of a text. -/
def nullIfEmpty (s : String) : Json := if s = "" then .null else .string s

/-- The fingerprint an intake records instead of the payload. -/
def payloadFingerprint (casing : Casing) (payload : ProviderLeadPayload) : String :=
  let text := fun (s : Option String) => (s.map Json.string).getD .null
  Sha256.hexText (Json.print (.object
    [("externalId", text payload.externalId),
      ("givenName", text payload.givenName),
      ("familyName", text payload.familyName),
      ("email", nullIfEmpty (casing.lower (trimText (payload.email.getD "")))),
      ("phone", nullIfEmpty (String.ofList ((payload.phone.getD "").toList.filter
        fun c => c.isDigit || c = '+'))),
      ("vin", nullIfEmpty (casing.upper (trimText (payload.vin.getD "")))),
      ("comment", text payload.comment)]))

/-- What the fingerprint of a capture is taken of. -/
def LeadCaptureInput.payloadOf (input : LeadCaptureInput) : ProviderLeadPayload :=
  input.payload.getD
    { externalId := some input.intakeKey
      givenName := input.party.bind (·.givenName)
      familyName := input.party.bind (·.familyName)
      email := input.party.bind (·.email)
      phone := input.party.bind (·.phone)
      comment := none
      vin := none }

def fingerprintOf (casing : Casing) (input : LeadCaptureInput) : String :=
  payloadFingerprint casing input.payloadOf

/-- The key of `lockIntakeDecision`, and of `uq_leads_open_interest`. -/
def interestText (rooftopId partyId interestKey : String) : String :=
  rooftopId ++ ":" ++ partyId ++ ":" ++ interestKey

def openLeadOn (rooftopId partyId interestKey : String) (db : Pipeline) : Option Lead :=
  db.leads.find? fun l => l.rooftop_id = rooftopId && l.party_id = partyId &&
    l.interest_key = interestKey && ¬ l.lifecycle_state.finished

def readLead (leadId : String) (db : Pipeline) : Option Lead :=
  db.leads.find? fun l => l.lead_id = leadId

/-- `INSERT INTO lead_intakes`: the key is tenant-wide. -/
def recordIntake (i : LeadIntake) : Work Unit :=
  Script.execute
    (fun _ => .intake i.intake_key .forUpdate :: i.lead_id.toList.map fun l => .lead l .keyShare)
    (fun db => db.lead_intakes.all fun j => j.intake_key ≠ i.intake_key)
    (.database "lead_intakes_tenant_id_intake_key_key")
    (fun _ db => { db with lead_intakes := db.lead_intakes ++ [i] })
    fun _ => ()

/-- `COALESCE(MAX(touch_seq), 0) + 1`, the trigger's position. -/
def nextTouchSeq (leadId : String) (db : Pipeline) : Nat :=
  ((db.lead_source_touches.filter fun t => t.lead_id = leadId).map (·.touch_seq)).foldl max 0 + 1

def recordSourceTouchWithin (w : CrmWorld) (leadId leadSourceId : String)
    (campaignVersionId : Option String) (channel : IntakeChannel) (first : Bool) : Work Unit := do
  Script.selectLocking (fun _ => [.lead leadId .forUpdate]) fun _ => ()
  Script.execute (fun _ => [.index "lead_source_touches_pkey" w.newTouchId])
    (fun db => (db.lead_source_touches.all fun t => t.touch_id ≠ w.newTouchId) &&
      campaignVersionId.all w.campaignVersionExists)
    (.database "lead_source_touches")
    (fun v db =>
      { db with
        lead_source_touches := db.lead_source_touches ++
          [{ touch_id := w.newTouchId
             lead_id := leadId
             lead_source_id := leadSourceId
             campaign_version_id := campaignVersionId
             touch_seq := nextTouchSeq leadId v
             channel
             first }] })
    fun _ => ()

inductive ResolvedParty where
  | party (partyId : String)
  | invalid (error : String)

/-- The customer this lead is about: named, found by contact details, or created. -/
def resolveParty (casing : Casing) (w : CrmWorld) (input : LeadCaptureInput) (actor : String) :
    Work ResolvedParty :=
  match input.partyId, input.party with
  | some partyId, _ => do
    let known ← Script.select fun db : Pipeline =>
      db.parties.any fun p => p.party_id = partyId && p.status = .active
    pure (if known then .party partyId else .invalid "that customer does not exist")
  | none, none => pure (.invalid "a lead needs a customer or the details to identify one")
  | none, some details =>
    if normalizeEmail casing details.email = none ∧ normalizePhone details.phone = none then
      pure (.invalid "a lead needs an email address or a phone number")
    else do
      match ← createPartyWithin casing w actor .person details false with
      | .created party => pure (.party party.party_id)
      | .duplicate [] => pure (.invalid "the customer could not be resolved")
      | .duplicate (p :: _) => pure (.party p.party_id)
      | .invalid error => pure (.invalid error)

/-- A new lead, with its clocks set from the rooftop's own policy. -/
def newLead (w : CrmWorld) (input : LeadCaptureInput) (partyId sourceId : String)
    (sla : Option LeadSlaPolicy) : Lead where
  lead_id := w.newLeadId
  rooftop_id := input.rooftopId
  party_id := partyId
  interest_stock_item_id := input.interestStockItemId
  interest_vehicle_id := input.interestVehicleId
  lifecycle_state := .new
  disposition := none
  owner_user_link_id := none
  queue_id := none
  primary_source_id := sourceId
  first_response_due_at := sla.map fun s => w.now + s.first_response_minutes * 60000000
  escalate_at := sla.map fun s => w.now + s.escalate_after_minutes * 60000000
  first_response_at := none
  escalated_at := none
  handed_off_at := none
  closed_at := none
  authorization_version := 1

/-- The foreign keys of a new lead, its primary key and `uq_leads_open_interest`. -/
def Lead.insertable (w : CrmWorld) (l : Lead) (db : Pipeline) : Bool :=
  (db.leads.all fun k => k.lead_id ≠ l.lead_id) &&
    (openLeadOn l.rooftop_id l.party_id l.interest_key db).isNone &&
    w.rooftopExists l.rooftop_id && l.interest_stock_item_id.all w.stockItemExists &&
    l.interest_vehicle_id.all w.vehicleExists

/-- `INSERT INTO leads`. -/
def insertLead (w : CrmWorld) (l : Lead) : Work Lead :=
  Script.execute
    (fun _ => [.index "leads_pkey" l.lead_id,
      .index "uq_leads_open_interest" (interestText l.rooftop_id l.party_id l.interest_key)])
    (l.insertable w) (.database "leads") (fun _ db => { db with leads := db.leads ++ [l] })
    fun _ => l

/-- Joins the open lead: a touch, and a line in the ledger. -/
def joinOpenLead (casing : Casing) (w : CrmWorld) (input : LeadCaptureInput)
    (actor intakeKey sourceId partyId : String) (lead : Lead) : Work LeadCaptureOutcome := do
  recordSourceTouchWithin w lead.lead_id sourceId input.campaignVersionId input.channel false
  recordIntake
    { intake_key := intakeKey
      channel := input.channel
      lead_id := some lead.lead_id
      outcome := .merged_into_existing
      reason := none
      payload_fingerprint := fingerprintOf casing input
      received_by_user_link_id := actor }
  pure (.merged_into_existing lead partyId false)

/-- Creates the lead, with its first touch and its line in the ledger. -/
def createLead (casing : Casing) (w : CrmWorld) (input : LeadCaptureInput)
    (actor intakeKey sourceId partyId : String) : Work LeadCaptureOutcome := do
  let sla ← Script.select fun db : Pipeline =>
    db.lead_sla_policies.find? fun s => s.rooftop_id = input.rooftopId && s.active
  let lead ← insertLead w (newLead w input partyId sourceId sla)
  recordSourceTouchWithin w lead.lead_id sourceId input.campaignVersionId input.channel true
  recordIntake
    { intake_key := intakeKey
      channel := input.channel
      lead_id := some lead.lead_id
      outcome := .created
      reason := none
      payload_fingerprint := fingerprintOf casing input
      received_by_user_link_id := actor }
  pure (.created lead partyId)

/-- The interest, locked before it is asked about. -/
def decideOnInterest (casing : Casing) (w : CrmWorld) (input : LeadCaptureInput)
    (actor intakeKey sourceId partyId : String) : Work LeadCaptureOutcome := do
  let interestKey := interestKeyOf input.interestStockItemId input.interestVehicleId
  Script.selectLocking
    (fun _ => [.advisory ("crm-lead-interest:" ++ interestText input.rooftopId partyId interestKey)])
    fun _ => ()
  let found ← Script.selectLocking
    (fun db => (openLeadOn input.rooftopId partyId interestKey db).toList.map fun l =>
      .lead l.lead_id .read)
    (openLeadOn input.rooftopId partyId interestKey)
  match found with
  | some lead => joinOpenLead casing w input actor intakeKey sourceId partyId lead
  | none => createLead casing w input actor intakeKey sourceId partyId

def captureFresh (casing : Casing) (w : CrmWorld) (input : LeadCaptureInput)
    (actor intakeKey : String) : Work LeadCaptureOutcome := do
  let source ← Script.select fun db : Pipeline =>
    db.lead_sources.find? fun s => s.source_code = input.sourceCode && s.active
  match source with
  | none => pure (.invalid ("no active lead source named " ++ input.sourceCode))
  | some source =>
    match ← resolveParty casing w input actor with
    | .invalid error => do
      recordIntake
        { intake_key := intakeKey
          channel := input.channel
          lead_id := none
          outcome := .rejected
          reason := some (slice 200 error)
          payload_fingerprint := fingerprintOf casing input
          received_by_user_link_id := actor }
      pure (.invalid error)
    | .party partyId =>
      decideOnInterest casing w input actor intakeKey source.lead_source_id partyId

/-- The answer to a repeat: the lead the ledger names. -/
def replayIntake (prior : LeadIntake) : Work LeadCaptureOutcome :=
  match prior.lead_id with
  | none => pure (.invalid (prior.reason.getD "the intake was refused"))
  | some leadId => do
    match ← Script.select (readLead leadId) with
    | none => pure (.invalid "the recorded lead no longer exists")
    | some lead => pure (.merged_into_existing lead lead.party_id true)

/-- Capture, inside the caller's transaction. -/
def captureLeadWithin (casing : Casing) (w : CrmWorld) (input : LeadCaptureInput) :
    Work LeadCaptureOutcome :=
  let intakeKey := trimText input.intakeKey
  if intakeKey = "" ∨ 200 < (utf16 intakeKey).length then
    pure (.invalid "an intake needs a key")
  else if input.interestStockItemId.isSome ∧ input.interestVehicleId.isSome then
    pure (.invalid "a lead is about one car or one model, not both")
  else do
    let actor ← actorWithin w input.actingUserLinkId
    let replay ← Script.selectLocking (fun _ => [.intake intakeKey .read]) fun db : Pipeline =>
      db.lead_intakes.find? fun i => i.intake_key = intakeKey
    match replay with
    | some prior => replayIntake prior
    | none => captureFresh casing w input actor intakeKey

/-! ## Lifecycle -/

/-- The state machine, written down once. -/
def legalTransitions : LeadState → List LeadState
  | .new => [.working, .closed]
  | .working => [.qualified, .closed]
  | .qualified => [.appointment_set, .handed_off, .closed]
  | .appointment_set => [.qualified, .handed_off, .closed]
  | .handed_off => []
  | .closed => []

inductive LeadTransitionOutcome where
  | moved (lead : Lead)
  | version_conflict (currentVersion : Nat)
  | not_found
  | invalid (error : String)

/-- `UPDATE leads … WHERE lead_id = $2 AND authorization_version = … RETURNING`. -/
def updateLead (leadId : String) (version : Nat) (f : Lead → Lead) : Work (Option Lead) :=
  Script.execute (fun _ => [.lead leadId .noKeyUpdate]) (fun _ => true) (.database "leads")
    (fun _ db =>
      { db with
        leads := updateWhere
          (fun l : Lead => l.lead_id = leadId ∧ l.authorization_version = version) f db.leads })
    fun db => (db.leads.find? fun l =>
      l.lead_id = leadId && l.authorization_version = version).map f

/-- `INSERT INTO lead_status_events`. -/
def insertStatusEvent (e : LeadStatusEvent) : Work Unit :=
  Script.execute (fun _ => [.lead e.lead_id .keyShare])
    (fun _ => e.from_state ≠ e.to_state && e.note.all fun n => n.length ≤ 500)
    (.database "lead_status_events")
    (fun _ db => { db with lead_status_events := db.lead_status_events ++ [e] }) fun _ => ()

/-- Moves a lead along the machine under optimistic concurrency. -/
def transitionLead (w : CrmWorld) (actingUserLinkId leadId : String) (toState : LeadState)
    (expectedVersion : Nat) (disposition : Option LeadDisposition) (note : Option String) :
    Work LeadTransitionOutcome := do
  let actor ← actorWithin w actingUserLinkId
  match ← Script.selectLocking (fun _ => [.lead leadId .forUpdate]) (readLead leadId) with
  | none => pure .not_found
  | some current =>
    let allowed := legalTransitions current.lifecycle_state
    let terminal := decide (toState = .closed)
    if current.authorization_version ≠ expectedVersion then
      pure (.version_conflict current.authorization_version)
    else if toState ∉ allowed then
      pure (.invalid (if allowed = [] then
          "a " ++ current.lifecycle_state.text ++ " lead is finished and cannot move"
        else
          "a " ++ current.lifecycle_state.text ++ " lead may move to " ++
            " or ".intercalate (allowed.map LeadState.text) ++ ", not " ++ toState.text))
    else if terminal ∧ disposition = none then pure (.invalid "closing a lead states why")
    else if toState = .handed_off then
      pure (.invalid "a handoff is recorded by handing the lead over, not by setting its state")
    else
      let stated := if terminal then disposition else none
      let written ← updateLead leadId expectedVersion fun l =>
        { l with
          lifecycle_state := toState
          disposition := stated
          closed_at := if terminal then some w.now else l.closed_at
          authorization_version := l.authorization_version + 1 }
      match written with
      | none => pure (.version_conflict current.authorization_version)
      | some lead =>
        insertStatusEvent
          { lead_id := leadId
            from_state := current.lifecycle_state
            to_state := toState
            disposition := stated
            note
            changed_by_user_link_id := actor }
        pure (.moved lead)

def stampFirstResponseWithin (w : CrmWorld) (leadId : String) : Work Unit :=
  Script.execute (fun _ => [.lead leadId .noKeyUpdate]) (fun _ => true) (.database "leads")
    (fun _ db =>
      { db with
        leads := updateWhere
          (fun l : Lead => l.lead_id = leadId ∧ l.first_response_at = none)
          (fun l => { l with first_response_at := some w.now }) db.leads })
    fun _ => ()

/-! ## The sales handoff -/

inductive HandoffOutcome where
  | handed_off (lead : Lead) (handoffId : String)
  | already_handed_off (handoffId : String)
  | version_conflict (currentVersion : Nat)
  | not_found
  | invalid (error : String)

/-- What sales is being given. -/
def Lead.snapshot (l : Lead) : HandedSnapshot where
  lead_id := l.lead_id
  rooftop_id := l.rooftop_id
  party_id := l.party_id
  interest_stock_item_id := l.interest_stock_item_id
  interest_vehicle_id := l.interest_vehicle_id
  primary_source_id := l.primary_source_id
  owner_user_link_id := l.owner_user_link_id
  first_response_at := l.first_response_at
  handed_off_at := l.handed_off_at

/-- `INSERT INTO lead_handoffs`: one per lead. -/
def insertHandoff (w : CrmWorld) (h : LeadHandoff) : Work Unit :=
  Script.execute
    (fun _ => [.index "lead_handoffs_pkey" h.handoff_id, .index "lead_handoffs_lead" h.lead_id,
      .lead h.lead_id .keyShare])
    (fun db => (db.lead_handoffs.all fun g =>
        g.handoff_id ≠ h.handoff_id && g.lead_id ≠ h.lead_id) &&
      w.access.userLinkExists h.handed_to_user_link_id)
    (.database "lead_handoffs")
    (fun _ db => { db with lead_handoffs := db.lead_handoffs ++ [h] }) fun _ => ()

/-- The seam: the lead is handed to sales with a snapshot of what it was. -/
def handOffLead (w : CrmWorld) (actingUserLinkId leadId : String) (expectedVersion : Nat)
    (handedToUserLinkId : String) : Work HandoffOutcome := do
  let actor ← actorWithin w actingUserLinkId
  match ← Script.selectLocking (fun _ => [.lead leadId .forUpdate]) (readLead leadId) with
  | none => pure .not_found
  | some current =>
    let prior ← Script.select fun db : Pipeline =>
      db.lead_handoffs.find? fun h => h.lead_id = leadId
    match prior with
    | some h => pure (.already_handed_off h.handoff_id)
    | none =>
      if current.authorization_version ≠ expectedVersion then
        pure (.version_conflict current.authorization_version)
      else if LeadState.handed_off ∉ legalTransitions current.lifecycle_state then
        pure (.invalid ("a " ++ current.lifecycle_state.text ++
          " lead is not ready to hand to sales"))
      else
        let written ← updateLead leadId expectedVersion fun l =>
          { l with
            lifecycle_state := .handed_off
            disposition := some .handed_to_sales
            handed_off_at := some w.now
            authorization_version := l.authorization_version + 1 }
        match written with
        | none => pure (.version_conflict current.authorization_version)
        | some lead =>
          insertHandoff w
            { handoff_id := w.newHandoffId
              lead_id := leadId
              handed_snapshot := lead.snapshot
              handed_to_user_link_id := handedToUserLinkId
              handed_by_user_link_id := actor }
          insertStatusEvent
            { lead_id := leadId
              from_state := current.lifecycle_state
              to_state := .handed_off
              disposition := some .handed_to_sales
              note := none
              changed_by_user_link_id := actor }
          pure (.handed_off lead w.newHandoffId)

end Dealership.Crm
