import Dealership.Service.Schema

/-!
# Lines of work

A line is added to a repair order as work proposed and not shown to the customer.  The shop
floor moves its status, an advisor or a manager its hours and its price; what the customer
has decided, or is deciding, stays as it is.  None of the three operations looks at the
status of the repair order.
-/

namespace Dealership.Service

open Library
open Inventory (LotLock)

/-! ## Adding -/

structure LineInput where
  line_type : Option LineType
  category : Option String
  description : String
  labor_op_code : Option String
  estimated_hours : Option Rat
  /-- `authorization_status` or `authorization_ref` is among the parameters. -/
  namesAuthorization : Bool

def insertLine (l : LineItem) : ServiceWork Unit :=
  Script.execute (fun _ => [.row "repair_orders" l.ro_id .keyShare,
      .index "ro_line_items_pkey" l.line_item_id])
    (fun d => d.ro_line_items.all fun m => m.line_item_id ≠ l.line_item_id)
    (refusal "ro_line_items_pkey")
    (fun _ d => { d with ro_line_items := d.ro_line_items ++ [l] }) fun _ => ()

def newLine (w : ServiceWorld) (roId : String) (lineType : LineType) (input : LineInput) :
    LineItem where
  line_item_id := w.newId
  ro_id := roId
  line_type := lineType
  category := input.category
  description := input.description
  status := .proposed
  authorization_status := .not_required
  authorization_ref := none
  estimate_id := none
  assigned_tech_user_id := none
  labor_op_code := input.labor_op_code
  estimated_hours := input.estimated_hours
  sold_hours := none
  price_ref := none

def addLineItem (w : ServiceWorld) (roId : String) (input : LineInput) :
    ServiceWork LineItem := do
  insist (!input.namesAuthorization) ⟨.forbidden, "authorization_fields_readonly",
    "authorization_status is set from a recorded customer authorization, not directly"⟩
  match input.line_type with
  | none => .raise ⟨.validation, "validation_error",
      "line_type must be one of: labor, parts, sublet, fee"⟩
  | some lineType => do
    insist (!isBlank input.description) ⟨.validation, "validation_error", "description is required"⟩
    insist (input.estimated_hours.all fun h => 0 ≤ h)
      ⟨.validation, "validation_error", "estimated_hours must be a non-negative number"⟩
    let _ ← assertRO roId false
    insertLine (newLine w roId lineType input)
    pure (newLine w roId lineType input)

/-! ## Updating -/

/-- A `price_ref` as a request brings it. -/
inductive PriceRefInput where
  | null
  | notAnObject
  | object (price : PriceRef)

/-- The fields a request names: `none` where it does not. -/
structure LineUpdates where
  namesAuthorization : Bool
  namesAssignment : Bool
  status : Option (Option LineStatus)
  sold_hours : Option (Option Rat)
  price_ref : Option PriceRefInput

def LineUpdates.commercial (u : LineUpdates) : Bool := u.sold_hours.isSome || u.price_ref.isSome

def validatePriceRef : PriceRefInput → ServiceWork Unit
  | .null => pure ()
  | .notAnObject => .raise ⟨.validation, "validation_error", "price_ref must be an object"⟩
  | .object price => do
    insist (match price.amount_cents with
      | .absent => true
      | .number n => 0 ≤ n
      | .other => false)
      ⟨.validation, "validation_error",
        "price_ref.amount_cents must be a non-negative finite number"⟩
    insist (price.currency ≠ .other)
      ⟨.validation, "validation_error", "price_ref.currency must be a string"⟩

def PriceRefInput.stored : PriceRefInput → Option PriceRef
  | .object price => some price
  | _ => none

/-- The line with what the caller may write of it. -/
def LineUpdates.apply (u : LineUpdates) (supervises : Bool) (l : LineItem) : LineItem :=
  { l with
    status := (u.status.bind id).getD l.status
    sold_hours := if supervises then u.sold_hours.getD l.sold_hours else l.sold_hours
    price_ref := if supervises then (u.price_ref.map PriceRefInput.stored).getD l.price_ref
      else l.price_ref }

def validateUpdates (w : ServiceWorld) (u : LineUpdates) : ServiceWork Unit := do
  insist (!u.namesAuthorization) ⟨.forbidden, "authorization_fields_readonly",
    "authorization_status is set from a recorded customer authorization, not directly"⟩
  insist (!u.namesAssignment) ⟨.forbidden, "assignment_via_dispatch_only",
    "assigned_tech_user_id is set by dispatch, not directly"⟩
  insist (!u.commercial || w.supervises) ⟨.forbidden, "commercial_fields_restricted",
    "Only a service advisor or manager may change what the customer is billed"⟩
  insist (u.status ≠ some none) ⟨.validation, "validation_error",
    "status must be one of: proposed, approved, declined, in_progress, completed, canceled"⟩
  insist ((u.sold_hours.bind id).all fun h => 0 ≤ h)
    ⟨.validation, "validation_error", "sold_hours must be a non-negative number"⟩
  match u.price_ref with
  | none => pure ()
  | some price => validatePriceRef price

/-- What the line itself still allows. -/
def requireUnfrozen (w : ServiceWorld) (line : LineItem) (u : LineUpdates) : ServiceWork Unit := do
  insist (w.supervises || line.assigned_tech_user_id = some w.userId)
    ⟨.forbidden, "not_line_item_assignee", "This line item is assigned to another technician"⟩
  insist (line.authorization_status ≠ .declined ||
      (u.status.bind id).all fun s => s = .declined)
    ⟨.conflict, "line_item_declined",
      "This line was declined by the customer and cannot be reopened"⟩
  insist (line.authorization_status ≠ .pending || !u.commercial)
    ⟨.conflict, "pending_terms_frozen", "This line is out with the customer; " ++
      "move the repair order back to estimate_pending to re-quote it"⟩
  insist (line.authorization_status ≠ .approved || !u.commercial)
    ⟨.conflict, "approved_terms_frozen", "This line is customer-approved; " ++
      "its price is now part of the agreement and cannot be changed"⟩
  insist (u.status.isSome || u.commercial)
    ⟨.validation, "validation_error", "No updatable fields supplied"⟩

/-- `UPDATE ro_line_items SET … WHERE … AND authorization_status = …`. -/
def writeLine (roId : String) (line : LineItem) (f : LineItem → LineItem) : ServiceWork Bool :=
  let hit := fun d => (findLine roId line.line_item_id d).any fun l =>
    l.authorization_status = line.authorization_status
  Script.execute (fun d => if hit d then rowLocks "ro_line_items" [line.line_item_id] else [])
    (fun _ => true) (refusal "")
    (fun v d => if hit v then d.setLines [line.line_item_id] f else d) hit

def updateLineItem (w : ServiceWorld) (roId lineItemId : String) (updates : LineUpdates) :
    ServiceWork LineItem := do
  validateUpdates w updates
  let _ ← assertRO roId false
  let line ← assertLineItem roId lineItemId
  requireUnfrozen w line updates
  let written ← writeLine roId line (updates.apply w.supervises)
  insist written ⟨.conflict, "concurrent_modification",
    "The line item changed while this update was being applied"⟩
  pure (updates.apply w.supervises line)

/-! ## Dispatch -/

structure DispatchInput where
  ro_id : String
  line_item_id : String
  tech_user_id : String

def liveTickets (lineItemId : String) (d : Shop) : List String :=
  (d.tech_work_tickets.filter fun t => t.line_item_id = lineItemId &&
    (t.status = .assigned || t.status = .started || t.status = .paused)).map WorkTicket.ticket_id

def dispatchTech (w : ServiceWorld) (input : DispatchInput) : ServiceWork WorkTicket := do
  requireUuid input.tech_user_id "tech_user_id"
  let ro ← assertRO input.ro_id false
  let _ ← assertLineItem input.ro_id input.line_item_id
  let profile ← Script.select fun d => d.tech_profiles.find? fun p =>
    p.tech_user_id = input.tech_user_id && p.location_id = ro.location_id && p.active
  insist profile.isSome ⟨.validation, "tech_not_available",
    "No active technician profile at this location"⟩
  store (fun d => rowLocks "tech_work_tickets" (liveTickets input.line_item_id d)) fun v d =>
    { d with
      tech_work_tickets := updateWhere (fun t => t.ticket_id ∈ liveTickets input.line_item_id v)
        (fun t => { t with status := .reassigned }) d.tech_work_tickets }
  let ticket : WorkTicket :=
    ⟨w.newId, input.ro_id, input.line_item_id, input.tech_user_id, .assigned, none⟩
  Script.execute (fun _ => [.row "repair_orders" input.ro_id .keyShare,
      .index "tech_work_tickets_pkey" w.newId])
    (fun d => d.tech_work_tickets.all fun t => t.ticket_id ≠ w.newId)
    (refusal "tech_work_tickets")
    (fun _ d => { d with tech_work_tickets := d.tech_work_tickets ++ [ticket] }) fun _ => ()
  store (fun _ => rowLocks "ro_line_items" [input.line_item_id]) fun _ d =>
    d.setLines [input.line_item_id] fun l =>
      { l with assigned_tech_user_id := some input.tech_user_id }
  pure ticket

end Dealership.Service
