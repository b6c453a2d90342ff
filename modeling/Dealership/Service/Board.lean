import Dealership.Service.Statements

/-!
# The board

The calls that move repair orders through their statuses and those that people make on the
items of the queues, and for each what a commit of it does to the orders and the items.  An
order that changes its status has its items brought in line in the same commit: whatever lies
in another queue is done, and one is entered where none was found.
-/

namespace Dealership.Service

open Library List
open Inventory (LotLock)
open Sales (Locked)

variable {d : Shop}

/-! ## Calls -/

inductive BoardCall where
  | createRO (w : ServiceWorld) (input : ROInput)
  | checkIn (w : ServiceWorld) (appointmentId : String) (odometer : Option Rat)
  | startMPISession (w : ServiceWorld) (roId templateId techUserId : String)
  | generateEstimate (w : ServiceWorld) (roId : String) (languageMode : Option String)
  | sendEstimate (w : ServiceWorld) (roId estimateId : String)
  | transitionRO (w : ServiceWorld) (roId : String) (target : ROStatus) (input : TransitionInput)
  | createComebackCase (w : ServiceWorld) (input : ComebackInput)
  | assignServiceQueueItem (w : ServiceWorld) (queueItemId : String)
  | updateServiceQueueItemStatus (w : ServiceWorld) (queueItemId : String)
      (input : QueueStatusInput)
  | escalateServiceQueueItem (queueItemId : String) (input : EscalationInput)

/-- A call as a transaction; what it answers is not looked at. -/
def BoardCall.program : BoardCall → ServiceWork Unit
  | .createRO w input => Service.createRO w input >>= fun _ => pure ()
  | .checkIn w appointmentId odometer =>
    Service.checkIn w appointmentId odometer >>= fun _ => pure ()
  | .startMPISession w roId templateId techUserId =>
    Service.startMPISession w roId templateId techUserId >>= fun _ => pure ()
  | .generateEstimate w roId languageMode =>
    Service.generateEstimate w roId languageMode >>= fun _ => pure ()
  | .sendEstimate w roId estimateId => Service.sendEstimate w roId estimateId >>= fun _ => pure ()
  | .transitionRO w roId target input =>
    Service.transitionRO w roId target input >>= fun _ => pure ()
  | .createComebackCase w input => Service.createComebackCase w input >>= fun _ => pure ()
  | .assignServiceQueueItem w queueItemId =>
    Service.assignServiceQueueItem w queueItemId >>= fun _ => pure ()
  | .updateServiceQueueItemStatus w queueItemId input =>
    Service.updateServiceQueueItemStatus w queueItemId input >>= fun _ => pure ()
  | .escalateServiceQueueItem queueItemId input =>
    Service.escalateServiceQueueItem queueItemId input

/-- A call of the lifecycle, and none of somebody at the board. -/
def BoardCall.lifecycle : BoardCall → Bool
  | .assignServiceQueueItem .. | .updateServiceQueueItemStatus ..
  | .escalateServiceQueueItem .. => false
  | _ => true

/-- Whoever is at the board may change the status of an item that `holder` has. -/
def BoardCall.mayWork (c : BoardCall) (holder : String) : Prop :=
  match c with
  | .assignServiceQueueItem w _ => w.userId = holder
  | .updateServiceQueueItemStatus w _ _ => w.supervises = true ∨ w.userId = holder
  | _ => False

abbrev BoardServer := Server BoardCall Shop LotLock ServiceError Unit

abbrev BoardEnding := Ending BoardCall Shop ServiceError Unit

/-! ## A board in order -/

structure BoardSound (d : Shop) : Prop where
  orders : (d.repair_orders.map RepairOrder.ro_id).Nodup
  items : (d.service_queue_items.map QueueItem.queue_item_id).Nodup
  placed : ∀ q ∈ d.service_queue_items, ∀ roId, q.ro_id = some roId →
    ∃ r ∈ d.repair_orders, r.ro_id = roId
  alone : ∀ roId, ∀ p ∈ openItems roId d, ∀ q ∈ openItems roId d, p = q
  inPlace : ∀ r ∈ d.repair_orders, ∀ q ∈ openItems r.ro_id d,
    roStatusQueue r.status = some q.queue_type

theorem mem_openItems {roId : String} {q : QueueItem} :
    q ∈ openItems roId d ↔ q ∈ d.service_queue_items ∧ q.ro_id = some roId ∧
      q.status.isClosed = false := by
  simp [openItems, mem_filter]

theorem mem_openItems_finished {roId : String} {ids : List String} {q : QueueItem} :
    q ∈ openItems roId (d.setItems ids finished) ↔
      q ∈ openItems roId d ∧ q.queue_item_id ∉ ids := by
  constructor
  · intro hq
    obtain ⟨hmem, hro, hopen⟩ := mem_openItems.mp hq
    rcases updateWhere_cases hmem with ⟨hmem, hnot⟩ | ⟨p, -, -, rfl⟩
    · exact ⟨mem_openItems.mpr ⟨hmem, hro, hopen⟩, hnot⟩
    · cases hopen
  · rintro ⟨hq, hnot⟩
    obtain ⟨hmem, hrest⟩ := mem_openItems.mp hq
    exact mem_openItems.mpr ⟨mem_updateWhere_of_neg hmem hnot, hrest⟩

theorem BoardSound.openItems_length (hd : BoardSound d) (roId : String) :
    (openItems roId d).length ≤ 1 := by
  have hnodup : (openItems roId d).Nodup := (List.Nodup.of_map _ hd.items).filter _
  exact length_le_one_of_forall_eq hnodup (hd.alone roId)

theorem BoardSound.openItems_eq (hd : BoardSound d) {roId : String} {q : QueueItem}
    (hq : q ∈ openItems roId d) : openItems roId d = [q] := by
  obtain ⟨p, hp⟩ := length_eq_one_iff.mp
    (Nat.le_antisymm (hd.openItems_length roId) (length_pos_of_mem hq))
  rw [hp] at hq ⊢
  rw [mem_singleton.mp hq]

/-! ## Moves -/

structure SameBoard (d d' : Shop) : Prop where
  orders : d'.repair_orders = d.repair_orders
  items : d'.service_queue_items = d.service_queue_items

theorem SameBoard.refl (d : Shop) : SameBoard d d := ⟨rfl, rfl⟩

theorem SameBoard.trans {a b c : Shop} (hab : SameBoard a b) (hbc : SameBoard b c) :
    SameBoard a c :=
  ⟨hbc.orders.trans hab.orders, hbc.items.trans hab.items⟩

theorem SameBoard.openItems {d' : Shop} (h : SameBoard d d') (roId : String) :
    openItems roId d' = openItems roId d := by
  rw [Service.openItems, h.items, Service.openItems]

theorem BoardSound.of_same {d' : Shop} (hd : BoardSound d) (h : SameBoard d d') :
    BoardSound d' := by
  refine ⟨?_, ?_, ?_, ?_, ?_⟩
  · rw [h.orders]
    exact hd.orders
  · rw [h.items]
    exact hd.items
  · rw [h.items, h.orders]
    exact hd.placed
  · intro roId
    rw [h.openItems]
    exact hd.alone roId
  · intro r hr
    rw [h.openItems]
    exact hd.inPlace r (h.orders ▸ hr)

/-- The items brought in line: some are done, and one may be entered. -/
def Shop.synced (d : Shop) (ids : List String) (entered : Option QueueItem) : Shop :=
  { d with
    service_queue_items :=
      updateWhere (fun q => q.queue_item_id ∈ ids) finished d.service_queue_items ++
        entered.toList }

/-- Nobody else works on the order: it is locked, or is about to be entered. -/
def Owned (held : List LotLock) (roId : String) (d : Shop) : Prop :=
  .row "repair_orders" roId .forUpdate ∈ held ∧ (∃ r ∈ d.repair_orders, r.ro_id = roId) ∨
    .index "repair_orders_pkey" roId ∈ held ∧ ∀ r ∈ d.repair_orders, r.ro_id ≠ roId

/-- What somebody has found who owns an order and has done with the items of its that lie in
another queue than the target. -/
structure Cleared (held : List LotLock) (roId : String) (target : Option QueueType)
    (ids : List String) (d : Shop) : Prop where
  owned : Owned held roId d
  locked : ∀ id ∈ ids, Locked held "service_queue_items" id
  stale : ∀ q ∈ openItems roId d, target ≠ some q.queue_type → q.queue_item_id ∈ ids
  only : ∀ id ∈ ids, ∃ q ∈ openItems roId d, q.queue_item_id = id ∧ target ≠ some q.queue_type

/-- Besides, an item is entered in the target unless one was found there to keep. -/
structure Synced (held : List LotLock) (roId : String) (target : Option QueueType)
    (ids : List String) (entered : Option QueueItem) (d : Shop) : Prop
    extends Cleared held roId target ids d where
  enters : ∀ q ∈ entered, .index "service_queue_items_pkey" q.queue_item_id ∈ held ∧
    (∀ p ∈ d.service_queue_items, p.queue_item_id ≠ q.queue_item_id) ∧ q.ro_id = some roId ∧
      q.status.isClosed = false ∧ target = some q.queue_type ∧
        ∀ p ∈ openItems roId d, target ≠ some p.queue_type
  keeps : entered = none → target = none ∨
    keptMark roId ∈ held ∧ ∀ q ∈ openItems roId d, target = some q.queue_type

structure Works (c : BoardCall) (q q' : QueueItem) : Prop where
  order : q'.ro_id = q.ro_id
  queue : q'.queue_type = q.queue_type
  closed : q.status.isClosed = true → q'.status.isClosed = true
  holder : ∀ h, q.assigned_to_user_id = some h → q'.assigned_to_user_id = some h ∧
    (q'.status = q.status ∨ c.mayWork h)

/-- What a commit that held `held` did to the board. -/
inductive BoardMoves (held : List LotLock) : BoardCall → Shop → Shop → Prop where
  | stays {c : BoardCall} {d d' : Shop} (same : SameBoard d d') : BoardMoves held c d d'
  | opens {c : BoardCall} {r : RepairOrder} {d d' : Shop}
      (key : .index "repair_orders_pkey" r.ro_id ∈ held)
      (fresh : ∀ s ∈ d.repair_orders, s.ro_id ≠ r.ro_id)
      (aside : roStatusQueue r.status = none)
      (same : SameBoard { d with repair_orders := d.repair_orders ++ [r] } d') :
      BoardMoves held c d d'
  | checksIn {c : BoardCall} {r : RepairOrder} {ids : List String}
      {entered : Option QueueItem} {d d' : Shop} (call : c.lifecycle = true)
      (key : .index "repair_orders_pkey" r.ro_id ∈ held)
      (fresh : ∀ s ∈ d.repair_orders, s.ro_id ≠ r.ro_id)
      (synced : Synced held r.ro_id (roStatusQueue r.status) ids entered d)
      (shown : keptMark r.ro_id ∈ held → openItems r.ro_id d ≠ [])
      (same : SameBoard (Shop.synced { d with repair_orders := d.repair_orders ++ [r] } ids
        entered) d') :
      BoardMoves held c d d'
  | moves {c : BoardCall} {r : RepairOrder} {target : ROStatus} {ids : List String}
      {entered : Option QueueItem} {d d' : Shop} (call : c.lifecycle = true)
      (lock : .row "repair_orders" r.ro_id .forUpdate ∈ held) (found : r ∈ d.repair_orders)
      (synced : Synced held r.ro_id (roStatusQueue target) ids entered d)
      (shown : keptMark r.ro_id ∈ held → openItems r.ro_id d ≠ [])
      (same : SameBoard ((d.setStatus r.ro_id target).synced ids entered) d') :
      BoardMoves held c d d'
  | works {c : BoardCall} {q : QueueItem} {f : QueueItem → QueueItem} {d d' : Shop}
      (lock : Locked held "service_queue_items" q.queue_item_id)
      (found : q ∈ d.service_queue_items)
      (keyed : ∀ p, (f p).queue_item_id = p.queue_item_id) (fits : Works c q (f q))
      (same : SameBoard (d.setItems [q.queue_item_id] f) d') :
      BoardMoves held c d d'

/-! ## Every move keeps the board in order -/

section Synced

variable {held : List LotLock} {roId : String} {target : Option QueueType} {ids : List String}
  {entered : Option QueueItem}

theorem Synced.open_cases (h : Synced held roId target ids entered d)
    {orders : List RepairOrder} {id : String} {q : QueueItem}
    (hq : q ∈ openItems id (Shop.synced { d with repair_orders := orders } ids entered)) :
    q ∈ openItems id d ∧ (id = roId → target = some q.queue_type) ∨
      entered = some q ∧ id = roId ∧ target = some q.queue_type := by
  obtain ⟨hmem, hro, hopen⟩ := mem_openItems.mp hq
  rcases mem_append.mp hmem with hmem | hmem
  · rcases updateWhere_cases hmem with ⟨hmem, hnot⟩ | ⟨p, -, -, rfl⟩
    · refine .inl ⟨mem_openItems.mpr ⟨hmem, hro, hopen⟩, ?_⟩
      rintro rfl
      by_contra htarget
      exact hnot (h.stale q (mem_openItems.mpr ⟨hmem, hro, hopen⟩) htarget)
    · cases hopen
  · rw [Option.mem_toList] at hmem
    obtain ⟨-, -, hro', -, htarget, -⟩ := h.enters q hmem
    exact .inr ⟨hmem, Option.some.inj (hro.symm.trans hro'), htarget⟩

theorem BoardSound.synced (hd : BoardSound d) (h : Synced held roId target ids entered d)
    {orders : List RepairOrder} (hkeys : (orders.map RepairOrder.ro_id).Nodup)
    (hstay : ∀ r ∈ d.repair_orders, ∃ s ∈ orders, s.ro_id = r.ro_id)
    (hthere : ∃ s ∈ orders, s.ro_id = roId)
    (hother : ∀ s ∈ orders, s.ro_id ≠ roId → s ∈ d.repair_orders)
    (hstatus : ∀ s ∈ orders, s.ro_id = roId → roStatusQueue s.status = target) :
    BoardSound (Shop.synced { d with repair_orders := orders } ids entered) := by
  have hids : (updateWhere (fun q : QueueItem => q.queue_item_id ∈ ids) finished
      d.service_queue_items).map QueueItem.queue_item_id =
        d.service_queue_items.map QueueItem.queue_item_id :=
    map_updateWhere (f := finished) fun _ _ => rfl
  have hplaced : ∀ q ∈ d.service_queue_items, ∀ id, q.ro_id = some id →
      ∃ s ∈ orders, s.ro_id = id := by
    intro q hq id hro
    obtain ⟨r, hr, rfl⟩ := hd.placed q hq id hro
    exact hstay r hr
  refine ⟨hkeys, ?_, ?_, ?_, ?_⟩
  · rw [Shop.synced, map_append, hids]
    cases entered with
    | none =>
      rw [Option.toList, map_nil, append_nil]
      exact hd.items
    | some q =>
      rw [← map_append]
      exact nodup_key_insert hd.items (h.enters q rfl).2.1
  · intro q hq id hro
    rcases mem_append.mp hq with hq | hq
    · rcases updateWhere_cases hq with ⟨hq, -⟩ | ⟨p, hp, -, rfl⟩
      · exact hplaced q hq id hro
      · exact hplaced p hp id hro
    · rw [Option.mem_toList] at hq
      rw [(h.enters q hq).2.2.1] at hro
      cases hro
      exact hthere
  · intro id p hp q hq
    rcases h.open_cases hp with ⟨hp, hptarget⟩ | ⟨hp, rfl, -⟩
    · rcases h.open_cases hq with ⟨hq, -⟩ | ⟨hq, rfl, -⟩
      · exact hd.alone id p hp q hq
      · exact absurd (hptarget rfl) ((h.enters q hq).2.2.2.2.2 p hp)
    · rcases h.open_cases hq with ⟨hq, hqtarget⟩ | ⟨hq, -, -⟩
      · exact absurd (hqtarget rfl) ((h.enters p hp).2.2.2.2.2 q hq)
      · exact Option.some.inj (hp.symm.trans hq)
  · intro s hs q hq
    rcases h.open_cases hq with ⟨hq, htarget⟩ | ⟨-, hid, htarget⟩
    · by_cases hid : s.ro_id = roId
      · exact (hstatus s hs hid).trans (htarget hid)
      · exact hd.inPlace s (hother s hs hid) q hq
    · exact (hstatus s hs hid).trans htarget

theorem Synced.shows (h : Synced held roId target ids entered d) (hd : BoardSound d)
    (hshown : keptMark roId ∈ held → openItems roId d ≠ []) {orders : List RepairOrder}
    {queue : QueueType} (htarget : target = some queue) :
    ∃ q ∈ openItems roId (Shop.synced { d with repair_orders := orders } ids entered),
      q.queue_type = queue := by
  cases hentered : entered with
  | some q =>
    obtain ⟨-, -, hro, hopen, hqueue, -⟩ := h.enters q hentered
    refine ⟨q, mem_openItems.mpr ⟨mem_append_right _ ?_, hro, hopen⟩, ?_⟩
    · exact mem_singleton.mpr rfl
    · exact Option.some.inj (hqueue.symm.trans htarget)
  | none =>
    rcases h.keeps hentered with hnone | ⟨hmark, hkept⟩
    · rw [hnone] at htarget
      cases htarget
    · obtain ⟨q, hq⟩ := exists_mem_of_ne_nil _ (hshown hmark)
      obtain ⟨hmem, hro, hopen⟩ := mem_openItems.mp hq
      have hnot : q.queue_item_id ∉ ids := by
        intro hin
        obtain ⟨p, hp, hid, hstale⟩ := h.only _ hin
        rw [hd.alone roId p hp q hq] at hstale
        exact hstale (hkept q hq)
      refine ⟨q, mem_openItems.mpr ⟨mem_append_left _ ?_, hro, hopen⟩, ?_⟩
      · exact mem_updateWhere_of_neg hmem hnot
      · exact Option.some.inj ((hkept q hq).symm.trans htarget)

end Synced

section Orders

theorem concat_cases {r s : RepairOrder} (h : s ∈ d.repair_orders ++ [r]) :
    s ∈ d.repair_orders ∨ s = r :=
  (mem_append.mp h).imp_right mem_singleton.mp

theorem setStatus_cases {roId : String} {target : ROStatus} {s : RepairOrder}
    (h : s ∈ (d.setStatus roId target).repair_orders) :
    s ∈ d.repair_orders ∧ s.ro_id ≠ roId ∨ s.ro_id = roId ∧ s.status = target := by
  rcases updateWhere_cases h with ⟨hs, hid⟩ | ⟨r, -, hid, rfl⟩
  · exact .inl ⟨hs, hid⟩
  · exact .inr ⟨hid, rfl⟩

theorem setStatus_keys (roId : String) (target : ROStatus) :
    (d.setStatus roId target).repair_orders.map RepairOrder.ro_id =
      d.repair_orders.map RepairOrder.ro_id :=
  map_updateWhere (f := fun r : RepairOrder => { r with status := target }) fun _ _ => rfl

theorem exists_setStatus {r s : RepairOrder} (hs : s ∈ d.repair_orders) (target : ROStatus) :
    ∃ t ∈ (d.setStatus r.ro_id target).repair_orders, t.ro_id = s.ro_id := by
  by_cases hid : s.ro_id = r.ro_id
  · exact ⟨{ s with status := target }, mem_updateWhere_of_pos hs hid, rfl⟩
  · exact ⟨s, mem_updateWhere_of_neg hs hid, rfl⟩

end Orders

theorem BoardSound.works (hd : BoardSound d) {c : BoardCall} {q : QueueItem}
    {f : QueueItem → QueueItem} (hq : q ∈ d.service_queue_items)
    (hkey : ∀ p, (f p).queue_item_id = p.queue_item_id) (hf : Works c q (f q)) :
    BoardSound (d.setItems [q.queue_item_id] f) := by
  -- What is written is what is made of the item.
  have hcases : ∀ {p}, p ∈ (d.setItems [q.queue_item_id] f).service_queue_items →
      p ∈ d.service_queue_items ∨ p = f q := by
    intro p hp
    rcases updateWhere_cases hp with ⟨hp, -⟩ | ⟨x, hx, hid, rfl⟩
    · exact .inl hp
    · exact .inr (by rw [eq_of_key hd.items hx hq (mem_singleton.mp hid)])
  -- Whatever is open was, under the same key, order and queue.
  have hopen : ∀ {roId p}, p ∈ openItems roId (d.setItems [q.queue_item_id] f) →
      ∃ x ∈ openItems roId d, x.queue_type = p.queue_type ∧
        (p = x ∧ p.queue_item_id ≠ q.queue_item_id ∨ p = f q ∧ x = q) := by
    intro roId p hp
    obtain ⟨hmem, hro, hclosed⟩ := mem_openItems.mp hp
    rcases updateWhere_cases hmem with ⟨hmem, hid⟩ | ⟨x, hx, hid, rfl⟩
    · exact ⟨p, mem_openItems.mpr ⟨hmem, hro, hclosed⟩, rfl, .inl ⟨rfl,
        fun h => hid (mem_singleton.mpr h)⟩⟩
    · obtain rfl := eq_of_key hd.items hx hq (mem_singleton.mp hid)
      refine ⟨x, mem_openItems.mpr ⟨hx, hf.order.symm.trans hro, ?_⟩, hf.queue.symm,
        .inr ⟨rfl, rfl⟩⟩
      by_contra hne
      rw [hf.closed (Bool.not_eq_false _ ▸ hne)] at hclosed
      cases hclosed
  refine ⟨hd.orders, ?_, ?_, ?_, ?_⟩
  · rw [Shop.setItems, map_updateWhere fun p _ => hkey p]
    exact hd.items
  · intro p hp id hro
    rcases hcases hp with hp | rfl
    · exact hd.placed p hp id hro
    · exact hd.placed q hq id (hf.order.symm.trans hro)
  · intro roId p hp p' hp'
    obtain ⟨x, hx, -, hxp⟩ := hopen hp
    obtain ⟨y, hy, -, hyp⟩ := hopen hp'
    obtain rfl := hd.alone roId x hx y hy
    rcases hxp with ⟨rfl, hne⟩ | ⟨rfl, rfl⟩
    · rcases hyp with ⟨rfl, -⟩ | ⟨-, rfl⟩
      · rfl
      · exact absurd rfl hne
    · rcases hyp with ⟨rfl, hne⟩ | ⟨rfl, -⟩
      · exact absurd rfl hne
      · rfl
  · intro r hr p hp
    obtain ⟨x, hx, hqueue, -⟩ := hopen hp
    rw [← hqueue]
    exact hd.inPlace r hr x hx

theorem BoardSound.opens (hd : BoardSound d) {r : RepairOrder}
    (hfresh : ∀ s ∈ d.repair_orders, s.ro_id ≠ r.ro_id) :
    BoardSound { d with repair_orders := d.repair_orders ++ [r] } := by
  refine ⟨nodup_key_insert hd.orders hfresh, hd.items, ?_, hd.alone, ?_⟩
  · intro q hq id hro
    obtain ⟨s, hs, hid⟩ := hd.placed q hq id hro
    exact ⟨s, mem_append_left _ hs, hid⟩
  · intro s hs q hq
    rcases concat_cases hs with hs | rfl
    · exact hd.inPlace s hs q hq
    · obtain ⟨hmem, hro, -⟩ := mem_openItems.mp hq
      obtain ⟨t, ht, hid⟩ := hd.placed q hmem _ hro
      exact absurd hid (hfresh t ht)

/-- **Every commit keeps the board in order.** -/
theorem BoardMoves.boardSound {held : List LotLock} {c : BoardCall} {d' : Shop}
    (hm : BoardMoves held c d d') (hd : BoardSound d) : BoardSound d' := by
  cases hm with
  | stays same => exact hd.of_same same
  | opens _ fresh _ same => exact (hd.opens fresh).of_same same
  | @checksIn r ids entered _ _ _ _ fresh synced _ same =>
    refine (hd.synced synced (nodup_key_insert hd.orders fresh) ?_ ?_ ?_ ?_).of_same same
    · exact fun s hs => ⟨s, mem_append_left _ hs, rfl⟩
    · exact ⟨r, mem_append_right _ mem_cons_self, rfl⟩
    · intro s hs hne
      rcases concat_cases hs with hs | rfl
      · exact hs
      · exact absurd rfl hne
    · intro s hs hid
      rcases concat_cases hs with hs | rfl
      · exact absurd hid (fresh s hs)
      · rfl
  | @moves r target ids entered _ _ _ _ found synced _ same =>
    have hkeys := setStatus_keys (d := d) r.ro_id target
    refine (hd.synced synced (hkeys ▸ hd.orders) ?_ ?_ ?_ ?_).of_same same
    · exact fun s hs => exists_setStatus hs target
    · exact exists_setStatus found target
    · intro s hs hne
      rcases setStatus_cases hs with ⟨hs, -⟩ | ⟨hid, -⟩
      · exact hs
      · exact absurd hid hne
    · intro s hs hid
      rcases setStatus_cases hs with ⟨-, hne⟩ | ⟨-, hstatus⟩
      · exact absurd hid hne
      · rw [hstatus]
  | works _ found keyed fits same => exact (hd.works found keyed fits).of_same same

end Dealership.Service
