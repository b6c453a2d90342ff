import Dealership.Service.Lines
import Dealership.Service.Orders
import Mathlib.Algebra.Ring.Rat

/-!
# Estimates and the customer's decisions

An estimate puts the lines nobody has been asked about to the customer, under the next
version of its repair order.  It is sent, and then answered line by line, once or in parts;
the answer is the evidence that lets the order into `authorized`.
-/

namespace Dealership.Service

open Library
open Inventory (LotLock)

/-! ## Generating -/

def languageModes : List String := ["en", "es", "bilingual", "auto"]

def quotable : List ROStatus :=
  [.checked_in, .inspection_in_progress, .estimate_pending, .authorized, .in_repair,
    .waiting_parts, .sublet_in_progress, .qc]

/-- Undecided work that has not been shown to the customer. -/
def LineItem.unquoted (l : LineItem) : Bool :=
  l.authorization_status = .not_required && l.status ≠ .canceled && l.status ≠ .declined

def unquotedLines (roId : String) (d : Shop) : List LineItem :=
  (d.linesOf roId).filter LineItem.unquoted

/-- What a line costs; a line without a readable price is unpriced, not free. -/
def LineItem.amount (l : LineItem) : Option Rat :=
  l.price_ref.bind fun price =>
    match price.amount_cents with
    | .number n => if 0 ≤ n then some n else none
    | _ => none

/-- The currency of a line that has a price; a price names one, or is in dollars. -/
def LineItem.currency (l : LineItem) : Option String :=
  l.price_ref.bind fun price =>
    match price.amount_cents with
    | .number n =>
      if 0 ≤ n then
        some (match price.currency with
          | .text s => s
          | _ => "USD")
      else none
    | _ => none

/-- `summariseMoney` refuses lines whose priced ones do not share a currency. -/
def oneCurrency (lines : List LineItem) : Bool :=
  let currencies := lines.filterMap LineItem.currency
  currencies.all fun c => currencies.head?.all fun first => c = first

/-- The totals of an estimate, with what `summariseMoney` returns for its lines.  The code adds
doubles: the sums are these while amounts are whole, hours come in quarters and no sum passes
2 ^ 51. -/
def totalsOf (lines : List LineItem) : EstimateTotals :=
  let amounts := lines.filterMap LineItem.amount
  { line_count := lines.length
    estimated_hours := (lines.map fun l => l.estimated_hours.getD 0).sum
    currency := (lines.filterMap LineItem.currency).head?
    amount_cents := if amounts.isEmpty then none else some amounts.sum
    priced_line_count := amounts.length
    unpriced_line_count := lines.length - amounts.length }

def insertEstimate (e : Estimate) : ServiceWork Unit :=
  Script.execute (fun _ => [.index "ro_estimates_pkey" e.estimate_id])
    (fun d => d.ro_estimates.all fun f => f.estimate_id ≠ e.estimate_id &&
      (f.ro_id ≠ e.ro_id || f.version ≠ e.version))
    (refusal "ro_estimates") (fun _ d => { d with ro_estimates := d.ro_estimates ++ [e] })
    fun _ => ()

/-- The mark of the statement that reads the lines an estimate is to be of. -/
def quoteMark (estimateId : String) : LotLock := .row "ro_line_items: to quote" estimateId .read

def generateEstimate (w : ServiceWorld) (roId : String) (languageMode : Option String) :
    ServiceWork Estimate := do
  insist (languageMode.all fun m => m = "" || m ∈ languageModes) ⟨.validation,
    "validation_error", "language_mode must be one of: " ++ ", ".intercalate languageModes⟩
  let ro ← assertRO roId true
  insist (ro.status ∈ quotable) ⟨.conflict, "ro_not_estimable",
    "An estimate cannot be generated for a '" ++ ro.status.text ++ "' repair order"⟩
  let lines ← Script.selectLocking (fun _ => [quoteMark w.newId]) (unquotedLines roId)
  insist (!lines.isEmpty) ⟨.conflict, "no_line_items",
    "There is no undecided work to quote on this repair order"⟩
  let version ← Script.select (maxVersion roId)
  insist (oneCurrency lines) ⟨.validation, "mixed_currency",
    "Line items on one estimate must share a currency"⟩
  let est : Estimate := ⟨w.newId, roId, version + 1, .draft, totalsOf lines⟩
  insertEstimate est
  store (fun d => rowLocks "ro_line_items" ((unquotedLines roId d).map (·.line_item_id)))
    fun v d => d.setLines ((unquotedLines roId v).map (·.line_item_id)) fun l =>
      { l with authorization_status := .pending, estimate_id := some w.newId }
  let moved ← moveRO roId [.inspection_in_progress, .checked_in] .estimate_pending
  (if moved then syncQueueForRO w { ro with status := .estimate_pending } else pure ())
  recordROEvent w roId (.estimate_generated w.newId (version + 1))
  pure est

/-! ## Sending -/

/-- The statuses a supplemental estimate is sent in. -/
def workStates : List ROStatus :=
  [.authorized, .in_repair, .waiting_parts, .sublet_in_progress, .qc]

def lockEstimate (roId estimateId : String) : ServiceWork Estimate := do
  let found ← Script.selectLocking (fun _ => [.row "ro_estimates" estimateId .forUpdate])
    (findEstimate roId estimateId)
  match found with
  | none =>
    .raise ⟨.notFound, "estimate_not_found", "Estimate not found on this repair order"⟩
  | some est => pure est

/-- `UPDATE ro_estimates SET status`. -/
def setEstimate (estimateId : String) (status : EstimateStatus) : ServiceWork Unit :=
  store (fun _ => rowLocks "ro_estimates" [estimateId]) fun _ d =>
    d.setEstimates [estimateId] status

def sendEstimate (w : ServiceWorld) (roId estimateId : String) : ServiceWork Estimate := do
  requireUuid estimateId "estimate_id"
  let ro ← assertRO roId true
  insist (ro.status = .estimate_pending || ro.status ∈ workStates)
    ⟨.conflict, "ro_not_estimate_pending",
      "An estimate cannot be sent from a '" ++ ro.status.text ++ "' repair order"⟩
  let est ← lockEstimate roId estimateId
  insist (est.status = .draft) ⟨.conflict, "estimate_not_draft", "Estimate is already sent"⟩
  setEstimate estimateId .sent
  let moved ← moveRO roId [.estimate_pending] .awaiting_authorization
  (if moved then syncQueueForRO w { ro with status := .awaiting_authorization } else pure ())
  recordROEvent w roId (.estimate_sent estimateId)
  pure { est with status := .sent }

/-! ## Deciding -/

def AuthorizationMethod.parse : String → Option AuthorizationMethod
  | "portal" => some .portal
  | "signature" => some .signature
  | "staff_attestation" => some .staff_attestation
  | "recorded_call_ref" => some .recorded_call_ref
  | _ => none

/-- `methodRequiresStepUp`. -/
def methodRequiresStepUp (method : AuthorizationMethod) : Bool := method = .staff_attestation

def deriveAuthorizationStatus (approved declined : List String) : AuthorizationStatus :=
  if !approved.isEmpty then .approved
  else if !declined.isEmpty then .declined
  else .pending

def deriveEstimateStatus (approved declined undecided : Nat) : EstimateStatus :=
  if approved = 0 then if 0 < undecided then .partially_approved else .declined
  else if declined = 0 ∧ undecided = 0 then .approved
  else .partially_approved

/-- A list of line ids as a request brings it. -/
inductive Items where
  | absent
  | notAnArray
  | items (ids : List String)

/-- The distinct texts of the list. -/
def Items.ids : Items → List String
  | items ids => ids.eraseDups
  | _ => []

/-- The lines they name, whichever case their ids are spelled in. -/
def Items.named (its : Items) : List String := its.ids.map canonicalUuid

structure AuthorizationInput where
  estimate_id : String
  method : String
  approved_items : Items
  declined_items : Items
  /-- `evidence_refs` is there and has a key. -/
  hasEvidence : Bool
  customer_language_used : Option String
  step_up_token : Option String

/-- `assertLineItemsOnRO` with `FOR UPDATE`.  `ANY` compares uuids, whatever their spelling; the
rows are counted against the texts. -/
def assertLineItemsOnRO (roId : String) (ids : List String) : ServiceWork (List LineItem) := do
  insist (ids.all isUuid) ⟨.validation, "validation_error", "line_item_id must be a UUID"⟩
  let found := fun d =>
    (d.linesOf roId).filter fun l => l.line_item_id ∈ ids.map canonicalUuid
  let rows ← Script.selectLocking
    (fun d => (found d).map fun l => .row "ro_line_items" l.line_item_id .forUpdate) found
  insist (rows.length = ids.length) ⟨.validation, "unknown_line_items",
    "One or more line items do not belong to this repair order"⟩
  pure rows

def LineItem.terms (l : LineItem) : LineTerms where
  line_item_id := l.line_item_id
  description := l.description
  line_type := l.line_type
  labor_op_code := l.labor_op_code
  estimated_hours := l.estimated_hours
  sold_hours := l.sold_hours
  price_ref := l.price_ref

/-- The lines an estimate's status is counted from: its own, or where it has none, from
before lines were associated, those of the repair order. -/
def tally (roId estimateId : String) (d : Shop) : Nat × Nat × Nat :=
  let count := fun (ls : List LineItem) (p : LineItem → Bool) => (ls.filter p).length
  let its := (d.linesOf roId).filter fun l => l.estimate_id = some estimateId
  if 0 < its.length then
    (count its fun l => l.authorization_status = .approved,
      count its fun l => l.authorization_status = .declined,
      count its fun l => l.authorization_status = .pending && l.status ≠ .canceled)
  else
    (count (d.linesOf roId) fun l => l.authorization_status = .approved,
      count (d.linesOf roId) fun l => l.authorization_status = .declined,
      count (d.linesOf roId) fun l => l.authorization_status = .pending)

def validateDecision (input : AuthorizationInput) : ServiceWork AuthorizationMethod := do
  requireUuid input.estimate_id "estimate_id"
  match AuthorizationMethod.parse input.method with
  | none => .raise ⟨.validation, "validation_error",
      "method must be one of: portal, signature, staff_attestation, recorded_call_ref"⟩
  | some method => do
    insist (match input.approved_items with
      | .items _ => true
      | _ => false) ⟨.validation, "validation_error", "approved_items must be an array"⟩
    insist (match input.declined_items with
      | .notAnArray => false
      | _ => true) ⟨.validation, "validation_error", "declined_items must be an array"⟩
    let approved := input.approved_items.ids
    let declined := input.declined_items.ids
    insist (!approved.isEmpty || !declined.isEmpty) ⟨.validation, "validation_error",
      "A decision must approve or decline at least one line item"⟩
    insist (approved.all fun id => id ∉ declined) ⟨.validation, "contradictory_decision",
      "A line item cannot be both approved and declined"⟩
    insist (methodRequiresStepUp method || input.hasEvidence) ⟨.validation, "evidence_required",
      "evidence_refs is required for method '" ++ input.method ++ "'"⟩
    insist (input.customer_language_used.all fun l => l = "" || l = "en" || l = "es")
      ⟨.validation, "validation_error", "customer_language_used must be one of: en, es"⟩
    pure method

/-- The row a decision is recorded as: uuids, beside a snapshot of the lines whose uuids are
among the texts of the request. -/
def decision (w : ServiceWorld) (roId : String) (input : AuthorizationInput)
    (method : AuthorizationMethod) (lines : List LineItem) : ROAuthorization where
  authorization_id := w.newId
  ro_id := roId
  estimate_id := input.estimate_id
  method := method
  status := deriveAuthorizationStatus input.approved_items.ids input.declined_items.ids
  approved_items := input.approved_items.named
  declined_items := input.declined_items.named
  approved_snapshot :=
    (lines.filter fun l => l.line_item_id ∈ input.approved_items.ids).map LineItem.terms
  authorized_at := w.now

def insertAuthorization (a : ROAuthorization) : ServiceWork Unit :=
  Script.execute (fun _ => [.index "ro_authorizations_pkey" a.authorization_id])
    (fun d => d.ro_authorizations.all fun b => b.authorization_id ≠ a.authorization_id)
    (refusal "ro_authorizations")
    (fun _ d => { d with ro_authorizations := d.ro_authorizations ++ [a] }) fun _ => ()

def markApproved (authorizationId : String) (l : LineItem) : LineItem :=
  { l with authorization_status := .approved, authorization_ref := some authorizationId }

def markDeclined (authorizationId : String) (l : LineItem) : LineItem :=
  { l with
    authorization_status := .declined
    status := .declined
    authorization_ref := some authorizationId }

/-- The estimate a decision answers: sent, not answered in full, and the latest. -/
def requireAnswerable (roId estimateId : String) : ServiceWork Estimate := do
  let est ← lockEstimate roId estimateId
  insist (est.status = .sent || est.status = .partially_approved)
    ⟨.conflict, "estimate_not_sent", "only a sent or partially decided estimate can be decided"⟩
  let current ← Script.select (latestEstimate roId)
  insist (current.all fun c => c.estimate_id = est.estimate_id)
    ⟨.conflict, "estimate_superseded", "This estimate has been superseded by a newer version"⟩
  pure est

/-- The mark of the statement that counts what has been decided of an estimate. -/
def tallyMark (estimateId : String) : LotLock := .row "ro_line_items: tally" estimateId .read

def recordAuthorization (w : ServiceWorld) (roId : String) (input : AuthorizationInput) :
    ServiceWork ROAuthorization := do
  let method ← validateDecision input
  let _ ← assertRO roId true
  (if methodRequiresStepUp method then
    consumeSensitiveActionGrant w input.step_up_token
      ("service.ro.authorization.record:" ++ method.text) roId else pure ())
  let est ← requireAnswerable roId input.estimate_id
  let approved := input.approved_items.ids
  let declined := input.declined_items.ids
  let lines ← assertLineItemsOnRO roId (approved ++ declined)
  insist (lines.all fun l => l.authorization_status = .pending)
    ⟨.conflict, "line_items_not_pending",
      "One or more line items are not awaiting a customer decision"⟩
  let auth := decision w roId input method lines
  insertAuthorization auth
  store (fun _ => rowLocks "ro_line_items" input.approved_items.named) fun _ d =>
    d.setLines input.approved_items.named (markApproved w.newId)
  store (fun _ => rowLocks "ro_line_items" input.declined_items.named) fun _ d =>
    d.setLines input.declined_items.named (markDeclined w.newId)
  let (approvedCount, declinedCount, pendingCount) ← Script.selectLocking
    (fun _ => [tallyMark est.estimate_id]) (tally roId est.estimate_id)
  setEstimate est.estimate_id (deriveEstimateStatus approvedCount declinedCount pendingCount)
  recordROEvent w roId
    (.authorization_received w.newId method auth.status approved.length declined.length)
  pure auth

end Dealership.Service
