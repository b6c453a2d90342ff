import Dealership.Service.Schema

/-!
# The work queues

Every repair order in a status that waits for somebody has an item in the queue of that
status.  `syncQueueForRO` brings the items of an order in line with its status, in the
transaction that changed it; between two changes people claim an item, block it and finish it.
-/

namespace Dealership.Service

open Library
open Inventory (LotLock)

/-- `RO_STATUS_QUEUE`: the queue a repair order belongs in while it sits in a status. -/
def roStatusQueue : ROStatus → Option QueueType
  | .checked_in => some .waiting_checkin
  | .inspection_in_progress => some .in_repair
  | .estimate_pending => some .waiting_authorization
  | .awaiting_authorization => some .waiting_authorization
  | .authorized => some .in_repair
  | .in_repair => some .in_repair
  | .waiting_parts => some .waiting_parts
  | .sublet_in_progress => some .in_repair
  | .qc => some .qc
  | .ready_for_pickup => some .ready_pickup
  | .comeback => some .comeback_review
  | .draft | .closed | .canceled => none

def QueueStatus.isClosed (s : QueueStatus) : Bool := s = .done || s = .canceled

/-- The items of an order that are neither done nor canceled. -/
def openItems (roId : String) (d : Shop) : List QueueItem :=
  d.service_queue_items.filter fun q => q.ro_id = some roId && !q.status.isClosed

/-- The open items of an order in any other queue than the one it belongs in. -/
def staleItems (roId : String) (target : Option QueueType) (d : Shop) : List String :=
  ((openItems roId d).filter fun q => target ≠ some q.queue_type).map QueueItem.queue_item_id

def Shop.setItems (d : Shop) (ids : List String) (f : QueueItem → QueueItem) : Shop :=
  { d with
    service_queue_items := updateWhere (fun q => q.queue_item_id ∈ ids) f d.service_queue_items }

def finished (q : QueueItem) : QueueItem := { q with status := .done }

/-- `resolveSlaDueAt`, where no due time is given: instants are in milliseconds. -/
def slaDueAt (w : ServiceWorld) (queueType : QueueType) (d : Shop) : Option Int :=
  (d.service_sla_defaults.find? fun s => s.queue_type = queueType).map fun s =>
    w.now + s.target_minutes * 60000

structure QueueItemInput where
  location_id : String
  queue_type : QueueType
  ro_id : Option String
  appointment_id : Option String

def newItem (id : String) (input : QueueItemInput) (dueAt : Option Int) : QueueItem where
  queue_item_id := id
  location_id := input.location_id
  queue_type := input.queue_type
  ro_id := input.ro_id
  appointment_id := input.appointment_id
  priority := .p1
  status := .queued
  assigned_to_user_id := none
  sla_due_at := dueAt
  block_reason_codes := none

def insertItem (q : QueueItem) : ServiceWork Unit :=
  Script.execute (fun _ => [.index "service_queue_items_pkey" q.queue_item_id])
    (fun d => d.service_queue_items.all fun r => r.queue_item_id ≠ q.queue_item_id)
    (refusal "service_queue_items_pkey")
    (fun _ d => { d with service_queue_items := d.service_queue_items ++ [q] }) fun _ => ()

def createServiceQueueItem (w : ServiceWorld) (id : String) (input : QueueItemInput) :
    ServiceWork Unit := do
  requireUuid input.location_id "location_id"
  let dueAt ← Script.select (slaDueAt w input.queue_type)
  insertItem (newItem id input dueAt)

/-- The mark of a statement that found an open item of an order to keep. -/
def keptMark (roId : String) : LotLock := .row "service_queue_items: kept" roId .read

/-- The row is as the status change left it. -/
def syncQueueForRO (w : ServiceWorld) (ro : RepairOrder) : ServiceWork Unit := do
  let target := roStatusQueue ro.status
  store (fun d => rowLocks "service_queue_items" (staleItems ro.ro_id target d)) fun v d =>
    d.setItems (staleItems ro.ro_id target v) finished
  match target with
  | none => pure ()
  | some queue => do
    let found := fun d => (openItems ro.ro_id d).any fun q => q.queue_type = queue
    let present ← Script.selectLocking
      (fun d => if found d then [keptMark ro.ro_id] else []) found
    (if present then pure () else
      createServiceQueueItem w w.nextId ⟨ro.location_id, queue, some ro.ro_id, none⟩)

/-! ## People at the board -/

def lockItem (queueItemId : String) : ServiceWork QueueItem := do
  let found ← Script.selectLocking
    (fun _ => [.row "service_queue_items" queueItemId .forUpdate])
    fun d => d.service_queue_items.find? fun q => q.queue_item_id = queueItemId
  match found with
  | none => .raise ⟨.notFound, "not_found", "Queue item not found"⟩
  | some item => pure item

def writeItem (queueItemId : String) (f : QueueItem → QueueItem) : ServiceWork Unit :=
  store (fun _ => rowLocks "service_queue_items" [queueItemId]) fun _ d =>
    d.setItems [queueItemId] f

def QueueStatus.text : QueueStatus → String
  | queued => "queued"
  | in_progress => "in_progress"
  | blocked => "blocked"
  | done => "done"
  | canceled => "canceled"

def claimed (userId : String) (q : QueueItem) : QueueItem :=
  { q with
    assigned_to_user_id := some userId
    status := .in_progress }

def assignServiceQueueItem (w : ServiceWorld) (queueItemId : String) :
    ServiceWork QueueItem := do
  requireUuid queueItemId "queue_item_id"
  let item ← lockItem queueItemId
  insist (!item.status.isClosed)
    ⟨.conflict, "queue_item_closed", "Queue item is already '" ++ item.status.text ++ "'"⟩
  insist (item.assigned_to_user_id.all fun holder => holder = w.userId)
    ⟨.conflict, "queue_item_taken", "Queue item is already assigned to another user"⟩
  writeItem queueItemId (claimed w.userId)
  pure (claimed w.userId item)

structure QueueStatusInput where
  /-- `none` where it is not one of the five. -/
  status : Option QueueStatus
  block_reason_codes : Option (List String)

/-- Block reasons are rewritten where they are given, and cleared when the item unblocks. -/
def withStatus (status : QueueStatus) (reasons : Option (List String)) (q : QueueItem) :
    QueueItem :=
  { q with
    status := status
    block_reason_codes :=
      match reasons with
      | some codes => some codes
      | none => if status = .blocked then q.block_reason_codes else none }

def updateServiceQueueItemStatus (w : ServiceWorld) (queueItemId : String)
    (input : QueueStatusInput) : ServiceWork QueueItem := do
  requireUuid queueItemId "queue_item_id"
  match input.status with
  | none => .raise ⟨.validation, "validation_error",
      "status must be one of: queued, in_progress, blocked, done, canceled"⟩
  | some status => do
    let item ← lockItem queueItemId
    insist (w.supervises || item.assigned_to_user_id.all fun holder => holder = w.userId)
      ⟨.forbidden, "queue_item_taken", "This queue item is assigned to another user"⟩
    insist (!item.status.isClosed || status.isClosed) ⟨.conflict, "queue_item_closed",
      "Queue item is already '" ++ item.status.text ++ "' and cannot be reopened"⟩
    writeItem queueItemId (withStatus status input.block_reason_codes)
    pure (withStatus status input.block_reason_codes item)

structure EscalationInput where
  reason : String
  create_runbook : Bool

def escalateServiceQueueItem (queueItemId : String) (input : EscalationInput) :
    ServiceWork Unit := do
  requireUuid queueItemId "queue_item_id"
  insist (!isBlank input.reason) ⟨.validation, "validation_error", "reason is required"⟩
  insist (!input.create_runbook) ⟨.validation, "runbook_unsupported",
    "Runbook creation is not available in this build"⟩
  let found ← Script.execute
    (fun d => if d.service_queue_items.any (fun q => q.queue_item_id = queueItemId) then
      rowLocks "service_queue_items" [queueItemId] else [])
    (fun _ => true) (refusal "")
    (fun _ d => d.setItems [queueItemId] fun q => { q with priority := .p0 })
    fun d => d.service_queue_items.any fun q => q.queue_item_id = queueItemId
  insist found ⟨.notFound, "not_found", "Queue item not found"⟩

/-! ## What the synchroniser writes -/

section Writes

variable {R : Shop → Shop → Prop} (hrefl : ∀ d, R d d)
  (hitems : ∀ d items, R d { d with service_queue_items := items })

include hrefl hitems

theorem createServiceQueueItem_writes (w : ServiceWorld) (id : String) (input : QueueItemInput) :
    (createServiceQueueItem w id input).Writes R := by
  unfold createServiceQueueItem
  refine Script.Writes.bind ?_ fun _ => ?_
  · unfold requireUuid insist
    split
    · exact writes_pure ()
    · exact writes_raise _
  · refine (writes_select hrefl _).bind fun _ => ?_
    exact writes_execute (fun _ d => hitems d _) _ _ _ _

theorem syncQueueForRO_writes (w : ServiceWorld) (ro : RepairOrder) :
    (syncQueueForRO w ro).Writes R := by
  unfold syncQueueForRO
  refine (writes_execute (fun _ d => hitems d _) _ _ _ _).bind fun _ => ?_
  cases roStatusQueue ro.status with
  | none => exact writes_pure ()
  | some queue =>
    refine (writes_selectLocking hrefl _ _).bind fun present => ?_
    cases present with
    | true => exact writes_pure ()
    | false => exact createServiceQueueItem_writes hrefl hitems _ _ _

end Writes

end Dealership.Service
