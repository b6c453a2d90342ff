import Dealership.Inventory.Stock

/-!
# Publication and reconciliation

A request moves the listing and enqueues its delivery in one transaction.  A worker
claims a due event, calls the provider and settles what it was told, all in another;
the call cannot be taken back when that transaction is.  Reconciliation asks the
provider what it carries and corrects the listing.

The desk is the rows together with what is under way: the deliveries whose provider
has been called, the deferrals still to be written down, the reconciliations and the
moves of stock records that hold their row.  Beside them stand three logs that no
statement reads: the requests that were granted, the calls the provider received and
the answers that were committed.
-/

namespace Dealership.Inventory

open Library List

/-! ## The provider -/

inductive Verdict where
  | accepted | rejected | deferred
deriving DecidableEq

structure ListingOutcome where
  outcome : Verdict
  providerRef : Option String
  message : Option String

/-- What a call to a provider comes back with. -/
inductive ProviderAnswer where
  | outcome (o : ListingOutcome)
  | threw (message : String)

/-- What the provider is shown: ids and merchandising only. -/
structure ListingSubmission where
  listingId : String
  channel : String
  stockNumber : String
  vin : String
  modelYear : Option Int
  make : Option String
  model : Option String
  priceCents : Option Int
  photoCount : Nat
  attempt : Nat

structure ListingPort where
  provider : String
  publish : ListingSubmission → ProviderAnswer
  withdraw : String → Option String → ProviderAnswer
  describe : String → Option String → ProviderAnswer

/-- The provider reference is a pure function of the listing id. -/
def simulatedProviderRef (listingId : String) : String :=
  "SIM-" ++ String.ofList (((listingId.toList.filter fun c => c ≠ '-').take 12).map Char.toUpper)

def simulatedListingProvider : ListingPort where
  provider := "simulator"
  publish := fun s =>
    if s.priceCents = none then
      .outcome ⟨.rejected, none, some "a listing needs a published price"⟩
    else if s.photoCount < 1 then
      .outcome ⟨.rejected, none, some "a listing needs at least one photograph"⟩
    else if s.channel = "slow_channel" ∧ s.attempt ≤ 1 then
      .outcome ⟨.deferred, none, some "the channel is busy; retry shortly"⟩
    else .outcome ⟨.accepted, some (simulatedProviderRef s.listingId), none⟩
  withdraw := fun _ providerRef =>
    match providerRef with
    | none => .outcome ⟨.accepted, none, some "nothing was published"⟩
    | some ref => .outcome ⟨.accepted, some ref, none⟩
  describe := fun _ providerRef =>
    match providerRef with
    | none => .outcome ⟨.rejected, none, some "the provider carries no such listing"⟩
    | some ref => .outcome ⟨.accepted, some ref, none⟩

/-! ## Rows -/

/-- The event types of the domain: `LISTING_PUBLISH_EVENT`, `LISTING_WITHDRAW_EVENT`. -/
inductive ListingRequest where
  | publish | withdraw
deriving DecidableEq

/-- A row of `admin_outbox` of the domain; `listing_id` is what its payload names. -/
structure OutboxEvent where
  event_id : String
  event_type : ListingRequest
  listing_id : Option String
  occurred_at : Int
  available_at : Int
  attempts : Nat
  delivered_at : Option Int
  last_error : Option String

inductive ListingEventType where
  | published | rejected | withdrawn | reconciled
deriving DecidableEq

inductive ListingEventDetail where
  | answered (message : Option String)
  | compared (platformState : ListingState) (providerHasListing : Bool)
      (correctedTo : Option ListingState)

/-- A row of `listing_events`. -/
structure ListingEvent where
  listing_id : String
  event_type : ListingEventType
  outcome : Verdict
  attempt : Nat
  provider_ref : Option String
  detail : ListingEventDetail
  outbox_event_id : Option String

/-- The rows publication works on. -/
structure ListingRows where
  stock_items : List StockItem
  stock_listings : List StockListing
  listing_events : List ListingEvent
  admin_outbox : List OutboxEvent
  admin_outbox_deliveries : List String

/-- `SELECT … FROM stock_listings WHERE listing_id = …`. -/
def readListing (listingId : String) (rows : ListingRows) : Option StockListing :=
  rows.stock_listings.find? fun l => l.listing_id = listingId

/-- `UPDATE stock_listings SET … WHERE listing_id = …`. -/
def ListingRows.setListing (listingId : String) (f : StockListing → StockListing)
    (rows : ListingRows) : ListingRows :=
  { rows with
    stock_listings := updateWhere (fun l : StockListing => l.listing_id = listingId) f
      rows.stock_listings }

/-- `UPDATE admin_outbox SET … WHERE event_id = …`. -/
def ListingRows.setEvent (eventId : String) (f : OutboxEvent → OutboxEvent)
    (rows : ListingRows) : ListingRows :=
  { rows with
    admin_outbox := updateWhere (fun e : OutboxEvent => e.event_id = eventId) f rows.admin_outbox }

/-- `INSERT INTO admin_outbox`, due at once. -/
def ListingRows.enqueue (eventId : String) (now : Int) (eventType : ListingRequest)
    (listingId : String) (rows : ListingRows) : ListingRows :=
  { rows with
    admin_outbox := rows.admin_outbox ++
      [{ event_id := eventId
         event_type := eventType
         listing_id := some listingId
         occurred_at := now
         available_at := now
         attempts := 0
         delivered_at := none
         last_error := none }] }

/-- The key of `uq_listing_events_attempt`. -/
def ListingEvent.sameAttempt (e f : ListingEvent) : Bool :=
  e.listing_id = f.listing_id && e.event_type = f.event_type && e.attempt = f.attempt

/-- `recordListingEvent`: one outcome per listing, event type and attempt, and the first
one stays. -/
def recordListingEvent (e : ListingEvent) (rows : ListingRows) : ListingRows :=
  if rows.listing_events.any e.sameAttempt then rows
  else { rows with listing_events := rows.listing_events ++ [e] }

/-! ## Requests -/

/-- What a request finds around it. -/
structure DeskWorld where
  access : Access
  now : Int
  newListingId : String
  newEventId : String
  /-- The type of the hold on the car, when there is one. -/
  hold : Option String
  /-- A retail or internet price stands. -/
  priced : Bool
  /-- A photograph is active. -/
  photographed : Bool

inductive PublishOutcome where
  | requested (listing : StockListing)
  | blocked (error : String)
  | invalid (error : String)
  | not_found

/-- `CHANNEL_PATTERN`. -/
def isChannel (s : String) : Bool :=
  match s.toList with
  | [] => false
  | c :: cs => ('a' ≤ c && c ≤ 'z') && decide (cs.length ≤ 31) &&
      cs.all fun d => ('a' ≤ d && d ≤ 'z') || d.isDigit || d = '_'

/-- A listing asked for the first time. -/
def newListing (w : DeskWorld) (stockItemId channel : String) : StockListing where
  listing_id := w.newListingId
  stock_item_id := stockItemId
  channel := channel
  state := .publish_pending
  external_ref := none
  last_error := none
  attempts := 0
  published_at := none
  withdrawn_at := none
  authorization_version := 1

/-- The columns a renewed request writes. -/
def StockListing.pending (state : ListingState) (l : StockListing) : StockListing :=
  { l with
    state
    last_error := none
    authorization_version := l.authorization_version + 1 }

def requestListingPublicationWithin (w : DeskWorld) (actingUserLinkId stockItemId channel : String)
    (rows : ListingRows) : Except Raise (PublishOutcome × ListingRows) :=
  if ¬ isChannel channel then
    pure (.invalid "a channel is lower-case letters, digits and underscores", rows)
  else do
    let _ ← requireActor w.access actingUserLinkId
    match rows.stock_items.find? fun i => i.stock_item_id = stockItemId with
    | none => pure (.not_found, rows)
    | some stock =>
      if stock.lifecycle_state ≠ .retail_ready then
        pure (.blocked ("only a retail-ready vehicle is advertised; this one is " ++
          stock.lifecycle_state.text), rows)
      else if w.hold.isSome then
        pure (.blocked ("the vehicle is on a " ++ w.hold.getD "" ++ " hold"), rows)
      else if ¬ w.priced then
        pure (.blocked "set a retail or internet price before advertising", rows)
      else if ¬ w.photographed then
        pure (.blocked "add at least one photograph before advertising", rows)
      else do
        ensure (rows.admin_outbox.all fun e => e.event_id ≠ w.newEventId) "admin_outbox_pkey"
        match rows.stock_listings.find? fun l =>
          l.stock_item_id = stockItemId && l.channel = channel with
        | some l =>
          pure (.requested (l.pending .publish_pending),
            (rows.setListing l.listing_id (StockListing.pending .publish_pending)).enqueue
              w.newEventId w.now .publish l.listing_id)
        | none => do
          ensure (rows.stock_listings.all fun l => l.listing_id ≠ w.newListingId)
            "stock_listings_pkey"
          let listing := newListing w stockItemId channel
          pure (.requested listing,
            ListingRows.enqueue w.newEventId w.now .publish listing.listing_id
              { rows with stock_listings := rows.stock_listings ++ [listing] })

inductive WithdrawOutcome where
  | requested (listing : StockListing)
  | not_found

/-- Asks for a listing to come down.  Withdrawing something already withdrawn converges. -/
def requestListingWithdrawalWithin (w : DeskWorld) (actingUserLinkId listingId : String)
    (rows : ListingRows) : Except Raise (WithdrawOutcome × ListingRows) := do
  let _ ← requireActor w.access actingUserLinkId
  match readListing listingId rows with
  | none => pure (.not_found, rows)
  | some current =>
    if current.state = .withdrawn ∨ current.state = .draft then
      pure (.requested current, rows)
    else do
      ensure (rows.admin_outbox.all fun e => e.event_id ≠ w.newEventId) "admin_outbox_pkey"
      pure (.requested (current.pending .withdraw_pending),
        (rows.setListing listingId (StockListing.pending .withdraw_pending)).enqueue
          w.newEventId w.now .withdraw listingId)

/-! ## The desk -/

/-- How far a delivery has come in its transaction. -/
inductive Progress where
  | deduplicated
  | unnamed
  | absent
  /-- The provider was shown the listing and answered. -/
  | called (listing : StockListing) (answer : ProviderAnswer)

/-- An event claimed by a worker, in a transaction not yet settled. -/
structure Delivery where
  event : OutboxEvent
  now : Int
  progress : Progress

def Delivery.attempt (d : Delivery) : Nat := d.event.attempts + 1

/-- A delivery rolled back whose attempt is not written down yet. -/
structure Deferral where
  event_id : String
  message : String
  attempt : Option Nat

/-- A reconciliation that holds its listing and has heard the provider. -/
structure Reconciliation where
  listing : StockListing
  now : Int
  providerHasListing : Bool

/-- A move that holds its stock record and has found no listing in its way. -/
structure Move where
  stockItemId : String
  version : Nat
  now : Int
  input : TransitionInput

/-- A granted request; `event_id` is none when it converged. -/
structure Granted where
  listing_id : String
  kind : ListingRequest
  event_id : Option String

/-- A publication or a withdrawal, as the provider received it. -/
structure ProviderCall where
  listing_id : String
  kind : ListingRequest
  event_id : String
  answer : ProviderAnswer

structure ListingDesk where
  rows : ListingRows
  inFlight : List Delivery
  deferring : List Deferral
  reconciling : List Reconciliation
  moving : List Move
  requests : List Granted
  calls : List ProviderCall
  answers : List ListingEvent

def ListingDesk.fresh (items : List StockItem) : ListingDesk where
  rows := ⟨items, [], [], [], []⟩
  inFlight := []
  deferring := []
  reconciling := []
  moving := []
  requests := []
  calls := []
  answers := []

def ListingDesk.listingHeld (listingId : String) (S : ListingDesk) : Bool :=
  S.reconciling.any fun r => r.listing.listing_id = listingId

/-- The row of the stock record is held by a move. -/
def ListingDesk.itemHeld (stockItemId : String) (S : ListingDesk) : Bool :=
  S.moving.any fun m => m.stockItemId = stockItemId

/-- The row of the event is held by a worker. -/
def ListingDesk.eventHeld (eventId : String) (S : ListingDesk) : Bool :=
  S.inFlight.any fun d => d.event.event_id = eventId

/-! ### Requests at the desk -/

/-- A publication, once no move holds the car and no reconciliation its listing. -/
def ListingDesk.requestPublication (w : DeskWorld) (actingUserLinkId stockItemId channel : String)
    (S : ListingDesk) : ListingDesk :=
  if S.itemHeld stockItemId || S.reconciling.any fun r =>
      r.listing.stock_item_id = stockItemId && r.listing.channel = channel then S
  else
    match requestListingPublicationWithin w actingUserLinkId stockItemId channel S.rows with
    | .ok (.requested listing, rows) =>
      { S with
        rows
        requests := S.requests ++ [⟨listing.listing_id, .publish, some w.newEventId⟩] }
    | _ => S

/-- A withdrawal, once no reconciliation holds the listing. -/
def ListingDesk.requestWithdrawal (w : DeskWorld) (actingUserLinkId listingId : String)
    (S : ListingDesk) : ListingDesk :=
  if S.listingHeld listingId then S
  else
    match requestListingWithdrawalWithin w actingUserLinkId listingId S.rows with
    | .ok (.requested listing, rows) =>
      { S with
        rows
        requests := S.requests ++ [⟨listingId, .withdraw,
          if listing.state = .withdraw_pending then some w.newEventId else none⟩] }
    | _ => S

/-! ### Dispatch -/

/-- The events a worker may claim: undelivered, due, held by nobody. -/
def ListingDesk.due (now : Int) (S : ListingDesk) : List OutboxEvent :=
  S.rows.admin_outbox.filter fun e =>
    e.delivered_at.isNone && e.available_at ≤ now && ¬ S.eventHeld e.event_id

/-- The event claimed: the one named, when no due event occurred before it. -/
def ListingDesk.claimed (now : Int) (eventId : String) (S : ListingDesk) : Option OutboxEvent :=
  (S.due now).find? fun e =>
    e.event_id = eventId && (S.due now).all fun f => e.occurred_at ≤ f.occurred_at

/-- What the join shows of the car beside its listing. -/
structure Shown where
  stockNumber : String
  vin : String
  modelYear : Option Int
  make : Option String
  model : Option String
  priceCents : Option Int
  photoCount : Nat

/-- `buildSubmission`. -/
def Shown.submission (s : Shown) (l : StockListing) (attempt : Nat) : ListingSubmission where
  listingId := l.listing_id
  channel := l.channel
  stockNumber := s.stockNumber
  vin := s.vin
  modelYear := s.modelYear
  make := s.make
  model := s.model
  priceCents := s.priceCents
  photoCount := s.photoCount
  attempt := attempt

/-- The call a worker makes for an event. -/
def callProvider (port : ListingPort) (shown : Shown) (e : OutboxEvent) (l : StockListing) :
    ProviderAnswer :=
  match e.event_type with
  | .withdraw => port.withdraw l.listing_id l.external_ref
  | .publish => port.publish (shown.submission l (e.attempts + 1))

/-- A worker claims an event and, when there is a listing to deliver, calls the provider. -/
def ListingDesk.claim (now : Int) (eventId : String) (port : ListingPort) (shown : Shown)
    (S : ListingDesk) : ListingDesk :=
  match S.claimed now eventId with
  | none => S
  | some e =>
    if e.event_id ∈ S.rows.admin_outbox_deliveries then
      { S with inFlight := S.inFlight ++ [⟨e, now, .deduplicated⟩] }
    else
      match e.listing_id with
      | none => { S with inFlight := S.inFlight ++ [⟨e, now, .unnamed⟩] }
      | some listingId =>
        match readListing listingId S.rows with
        | none => { S with inFlight := S.inFlight ++ [⟨e, now, .absent⟩] }
        | some l =>
          let answer := callProvider port shown e l
          { S with
            inFlight := S.inFlight ++ [⟨e, now, .called l answer⟩]
            calls := S.calls ++ [⟨listingId, e.event_type, e.event_id, answer⟩] }

/-- The columns the settlement of an event writes. -/
def OutboxEvent.delivered (now : Int) (attempts : Nat) (lastError : Option String)
    (e : OutboxEvent) : OutboxEvent :=
  { e with delivered_at := some now, attempts, last_error := lastError }

def Delivery.answerRow (d : Delivery) (l : StockListing) (a : ListingOutcome) : ListingEvent where
  listing_id := l.listing_id
  event_type :=
    match d.event.event_type with
    | .withdraw => .withdrawn
    | .publish => if a.outcome = .accepted then .published else .rejected
  outcome := a.outcome
  attempt := d.attempt
  provider_ref :=
    match d.event.event_type with
    | .withdraw => l.external_ref
    | .publish => a.providerRef
  detail := .answered a.message
  outbox_event_id := some d.event.event_id

/-- The columns a delivery writes on the listing. -/
def Delivery.answered (d : Delivery) (a : ListingOutcome) (l : StockListing) : StockListing :=
  match d.event.event_type with
  | .withdraw =>
    { l with
      state := .withdrawn
      withdrawn_at := some d.now
      attempts := d.attempt
      last_error := none
      authorization_version := l.authorization_version + 1 }
  | .publish =>
    { l with
      state := if a.outcome = .accepted then .published else .rejected
      external_ref := a.providerRef.or l.external_ref
      published_at := if a.outcome = .accepted then some d.now else l.published_at
      last_error := if a.outcome = .accepted then none else a.message
      attempts := d.attempt
      authorization_version := l.authorization_version + 1 }

/-- The `CHECK`s of `listing_events` and `stock_listings` on what a provider answers. -/
def Delivery.accepts (d : Delivery) (a : ListingOutcome) : Bool :=
  match d.event.event_type with
  | .withdraw => true
  | .publish =>
    (a.providerRef.all fun r => decide (1 ≤ r.length ∧ r.length ≤ 100)) &&
      (a.outcome = .accepted || a.message.all fun m => m.length ≤ 500)

/-- What becomes of a delivery. -/
inductive Settlement where
  /-- The transaction commits these rows, on record with this answer. -/
  | commit (rows : ListingRows) (answer : Option ListingEvent)
  /-- It is rolled back, and the attempt is to be written down. -/
  | rollback (message : String) (attempt : Option Nat)

/-- The rest of a delivery's transaction, on the rows it commits to. -/
def Delivery.settlement (d : Delivery) (rows : ListingRows) : Settlement :=
  let ledger : ListingRows :=
    { rows with admin_outbox_deliveries := rows.admin_outbox_deliveries ++ [d.event.event_id] }
  let marked := fun (attempts : Nat) (lastError : Option String) (r : ListingRows) =>
    r.setEvent d.event.event_id (OutboxEvent.delivered d.now attempts lastError)
  match d.progress with
  | .deduplicated => .commit (marked d.event.attempts none rows) none
  | .unnamed => .commit (marked d.event.attempts (some "no listing named") ledger) none
  | .absent => .commit (marked d.event.attempts (some "listing absent") ledger) none
  | .called _ (.threw message) => .rollback message none
  | .called l (.outcome a) =>
    -- Only a publication is deferred: any answer to a withdrawal takes the listing down.
    if d.event.event_type = .publish ∧ a.outcome = .deferred then
      .rollback (a.message.getD "the provider deferred") (some d.attempt)
    else if ¬ d.accepts a then .rollback "violates check constraint" none
    else
      let recorded := recordListingEvent (d.answerRow l a) ledger
      .commit (marked d.attempt none (recorded.setListing l.listing_id (d.answered a)))
        (some (d.answerRow l a))

/-- A reconciliation holds the listing the delivery is about to write. -/
def ListingDesk.waits (d : Delivery) (S : ListingDesk) : Bool :=
  match d.progress with
  | .called l _ => S.listingHeld l.listing_id
  | _ => false

/-- The transactions under way but for the one on this event. -/
def ListingDesk.without (eventId : String) (S : ListingDesk) : ListingDesk :=
  { S with inFlight := S.inFlight.filter fun d => d.event.event_id ≠ eventId }

/-- A worker ends the transaction of the event it claimed. -/
def ListingDesk.settle (eventId : String) (S : ListingDesk) : ListingDesk :=
  match S.inFlight.find? fun d => d.event.event_id = eventId with
  | none => S
  | some d =>
    if S.waits d then S
    else
      match d.settlement S.rows with
      | .commit rows answer =>
        { S.without eventId with rows, answers := S.answers ++ answer.toList }
      | .rollback message attempt =>
        { S.without eventId with deferring := S.deferring ++ [⟨eventId, message, attempt⟩] }

/-- A worker is gone, its transaction rolled back. -/
def ListingDesk.crash (eventId : String) (S : ListingDesk) : ListingDesk := S.without eventId

/-- The columns `deferEvent` writes: the attempt, and a backoff. -/
def OutboxEvent.deferredBy (now : Int) (d : Deferral) (e : OutboxEvent) : OutboxEvent :=
  { e with
    attempts := d.attempt.getD (e.attempts + 1)
    last_error := some (String.ofList (d.message.toList.take 2000))
    available_at := now + min (e.attempts + 1) 8 * 5 * 60000000 }

/-- A deferral is written down, once nobody holds its event, or lost with its worker. -/
def ListingDesk.deferEvent (now : Int) (i : Nat) (lost : Bool) (S : ListingDesk) : ListingDesk :=
  match S.deferring[i]? with
  | none => S
  | some d =>
    if lost then { S with deferring := S.deferring.eraseIdx i }
    else if S.eventHeld d.event_id then S
    else
      { S with
        deferring := S.deferring.eraseIdx i
        rows :=
          { S.rows with
            admin_outbox := updateWhere
              (fun e : OutboxEvent => e.event_id = d.event_id ∧ e.delivered_at = none)
              (OutboxEvent.deferredBy now d) S.rows.admin_outbox } }

/-! ### Reconciliation -/

/-- A reconciliation locks its listing and asks the provider what it carries. -/
def ListingDesk.beginReconcile (now : Int) (listingId : String) (port : ListingPort)
    (S : ListingDesk) : ListingDesk :=
  if S.listingHeld listingId then S
  else
    match readListing listingId S.rows with
    | none => S
    | some l =>
      match port.describe l.listing_id l.external_ref with
      | .threw _ => S
      | .outcome a =>
        { S with reconciling := S.reconciling ++ [⟨l, now, a.outcome = .accepted⟩] }

def Reconciliation.agreed (r : Reconciliation) : Bool :=
  r.providerHasListing = decide (r.listing.state = .published)

def Reconciliation.correctedTo (r : Reconciliation) : Option ListingState :=
  if r.agreed then none else some (if r.providerHasListing then .published else .withdrawn)

/-- The row a reconciliation is recorded in, numbered above the delivery attempts. -/
def Reconciliation.answerRow (r : Reconciliation) : ListingEvent where
  listing_id := r.listing.listing_id
  event_type := .reconciled
  outcome := if r.agreed then .accepted else .rejected
  attempt := r.listing.attempts + 1000
  provider_ref := r.listing.external_ref
  detail := .compared r.listing.state r.providerHasListing r.correctedTo
  outbox_event_id := none

/-- The columns a correction writes. -/
def Reconciliation.corrected (r : Reconciliation) (l : StockListing) : StockListing :=
  match r.correctedTo with
  | none => l
  | some state =>
    { l with
      state
      published_at :=
        if state = .published ∧ l.published_at = none then some r.now else l.published_at
      withdrawn_at := if state = .withdrawn then some r.now else l.withdrawn_at
      authorization_version := l.authorization_version + 1 }

/-- A reconciliation under way ends, or is cut off. -/
def ListingDesk.settleReconcile (i : Nat) (lost : Bool) (S : ListingDesk) : ListingDesk :=
  match S.reconciling[i]? with
  | none => S
  | some r =>
    if lost then { S with reconciling := S.reconciling.eraseIdx i }
    else
      { S with
        reconciling := S.reconciling.eraseIdx i
        rows := recordListingEvent r.answerRow (S.rows.setListing r.listing.listing_id r.corrected)
        answers := S.answers ++ [r.answerRow] }

/-! ### Stock records -/

/-- `acquireStock` commits a new record. -/
def ListingDesk.acquire (item : StockItem) (S : ListingDesk) : ListingDesk :=
  if item.lifecycle_state = .acquired ∧
      (S.rows.stock_items.all fun i => i.stock_item_id ≠ item.stock_item_id) = true then
    { S with rows := { S.rows with stock_items := S.rows.stock_items ++ [item] } }
  else S

/-- `transitionStockWithin` up to its `UPDATE`: the record locked, the listings asked. -/
def ListingDesk.beginTransition (w : LotWorld) (input : TransitionInput) (S : ListingDesk) :
    ListingDesk :=
  if S.itemHeld input.stockItemId || ¬ w.access.knows input.actingUserLinkId then S
  else
    match S.rows.stock_items.find? fun i => i.stock_item_id = input.stockItemId with
    | none => S
    | some current =>
      if (input.answer current).isSome then S
      else if input.toState = .retired ∧ listed input.stockItemId S.rows.stock_listings then S
      else
        { S with
          moving := S.moving ++ [⟨input.stockItemId, current.authorization_version, w.now, input⟩] }

/-- A move under way ends, or is cut off or refused. -/
def ListingDesk.settleTransition (i : Nat) (lost : Bool) (S : ListingDesk) : ListingDesk :=
  match S.moving[i]? with
  | none => S
  | some m =>
    if lost ∨ ¬ m.input.accepted then { S with moving := S.moving.eraseIdx i }
    else
      { S with
        moving := S.moving.eraseIdx i
        rows :=
          { S.rows with
            stock_items := updateWhere
              (fun i : StockItem =>
                i.stock_item_id = m.stockItemId ∧ i.authorization_version = m.version)
              (StockItem.moved m.now m.input) S.rows.stock_items } }

/-! ### Steps -/

inductive DeskStep where
  | requestPublication (w : DeskWorld) (actingUserLinkId stockItemId channel : String)
  | requestWithdrawal (w : DeskWorld) (actingUserLinkId listingId : String)
  | claim (now : Int) (eventId : String) (port : ListingPort) (shown : Shown)
  | settle (eventId : String)
  | crash (eventId : String)
  | deferEvent (now : Int) (i : Nat) (lost : Bool)
  | beginReconcile (now : Int) (listingId : String) (port : ListingPort)
  | settleReconcile (i : Nat) (lost : Bool)
  | acquire (item : StockItem)
  | beginTransition (w : LotWorld) (input : TransitionInput)
  | settleTransition (i : Nat) (lost : Bool)

def ListingDesk.step (S : ListingDesk) : DeskStep → ListingDesk
  | .requestPublication w who stockItemId channel => S.requestPublication w who stockItemId channel
  | .requestWithdrawal w who listingId => S.requestWithdrawal w who listingId
  | .claim now eventId port shown => S.claim now eventId port shown
  | .settle eventId => S.settle eventId
  | .crash eventId => S.crash eventId
  | .deferEvent now i lost => S.deferEvent now i lost
  | .beginReconcile now listingId port => S.beginReconcile now listingId port
  | .settleReconcile i lost => S.settleReconcile i lost
  | .acquire item => S.acquire item
  | .beginTransition w input => S.beginTransition w input
  | .settleTransition i lost => S.settleTransition i lost

/-! ## What a step does -/

theorem readListing_eq_some {listingId : String} {rows : ListingRows} {l : StockListing}
    (h : readListing listingId rows = some l) :
    l ∈ rows.stock_listings ∧ l.listing_id = listingId :=
  of_find?_eq_some (p := fun l : StockListing => l.listing_id = listingId) h

/-- The rows after a granted publication: the listing renewed, or opened. -/
inductive PublicationGranted (w : DeskWorld) (stockItemId channel : String) (rows : ListingRows) :
    String → ListingRows → Prop
  | renewed (l : StockListing) : l ∈ rows.stock_listings → l.stock_item_id = stockItemId →
      l.channel = channel →
      PublicationGranted w stockItemId channel rows l.listing_id
        ((rows.setListing l.listing_id (StockListing.pending .publish_pending)).enqueue
          w.newEventId w.now .publish l.listing_id)
  | opened : (∀ l ∈ rows.stock_listings, l.listing_id ≠ w.newListingId) →
      PublicationGranted w stockItemId channel rows w.newListingId
        (ListingRows.enqueue w.newEventId w.now .publish w.newListingId
          { rows with stock_listings := rows.stock_listings ++ [newListing w stockItemId channel] })

theorem requestListingPublicationWithin_granted {w : DeskWorld} {who stockItemId channel : String}
    {rows rows' : ListingRows} {listing : StockListing}
    (h : requestListingPublicationWithin w who stockItemId channel rows =
      .ok (.requested listing, rows')) :
    (∃ stock, (rows.stock_items.find? fun i => i.stock_item_id = stockItemId) = some stock ∧
      stock.lifecycle_state = .retail_ready) ∧
    (∀ e ∈ rows.admin_outbox, e.event_id ≠ w.newEventId) ∧
    PublicationGranted w stockItemId channel rows listing.listing_id rows' := by
  unfold requestListingPublicationWithin at h
  split at h
  · cases h
  obtain ⟨_, _, h⟩ := bind_eq_ok.mp h
  split at h
  · cases h
  rename_i stock hstock
  split at h
  · cases h
  rename_i hready
  split at h
  · cases h
  split at h
  · cases h
  split at h
  · cases h
  obtain ⟨_, hfresh, h⟩ := bind_eq_ok.mp h
  replace hfresh : ∀ e ∈ rows.admin_outbox, e.event_id ≠ w.newEventId := by
    simpa using ensure_eq_ok.mp hfresh
  refine ⟨⟨stock, hstock, not_not.mp hready⟩, hfresh, ?_⟩
  split at h
  · rename_i l hl
    cases h
    have hkey : l.stock_item_id = stockItemId ∧ l.channel = channel := by
      simpa using find?_some hl
    exact .renewed l (mem_of_find?_eq_some hl) hkey.1 hkey.2
  · obtain ⟨_, hnew, h⟩ := bind_eq_ok.mp h
    cases h
    exact .opened (by simpa using ensure_eq_ok.mp hnew)

inductive Claimed (S : ListingDesk) (now : Int) (port : ListingPort) (shown : Shown)
    (e : OutboxEvent) : Progress → List ProviderCall → Prop
  | deduplicated : e.event_id ∈ S.rows.admin_outbox_deliveries →
      Claimed S now port shown e .deduplicated S.calls
  | unnamed : e.event_id ∉ S.rows.admin_outbox_deliveries → e.listing_id = none →
      Claimed S now port shown e .unnamed S.calls
  | absent (listingId : String) : e.event_id ∉ S.rows.admin_outbox_deliveries →
      e.listing_id = some listingId → readListing listingId S.rows = none →
      Claimed S now port shown e .absent S.calls
  | called (l : StockListing) : e.event_id ∉ S.rows.admin_outbox_deliveries →
      e.listing_id = some l.listing_id → readListing l.listing_id S.rows = some l →
      Claimed S now port shown e (.called l (callProvider port shown e l))
        (S.calls ++ [⟨l.listing_id, e.event_type, e.event_id, callProvider port shown e l⟩])

inductive Stepped (S : ListingDesk) : DeskStep → ListingDesk → Prop
  /-- Nothing but a deferral forgotten, or a move begun or cut off. -/
  | aside (e : DeskStep) (deferring : List Deferral) (moving : List Move) :
      Stepped S e { S with deferring, moving }
  | publishes {w : DeskWorld} {who stockItemId channel listingId : String} {rows : ListingRows}
      (ready : ∃ stock, (S.rows.stock_items.find? fun i => i.stock_item_id = stockItemId) =
        some stock ∧ stock.lifecycle_state = .retail_ready)
      (fresh : ∀ e ∈ S.rows.admin_outbox, e.event_id ≠ w.newEventId)
      (apart : ∀ r ∈ S.reconciling, ¬ (r.listing.stock_item_id = stockItemId ∧
        r.listing.channel = channel))
      (granted : PublicationGranted w stockItemId channel S.rows listingId rows) :
      Stepped S (.requestPublication w who stockItemId channel)
        { S with
          rows
          requests := S.requests ++ [⟨listingId, .publish, some w.newEventId⟩] }
  | converges {w : DeskWorld} {who : String} {l : StockListing}
      (listing : l ∈ S.rows.stock_listings) (down : l.state = .withdrawn ∨ l.state = .draft) :
      Stepped S (.requestWithdrawal w who l.listing_id)
        { S with requests := S.requests ++ [⟨l.listing_id, .withdraw, none⟩] }
  | withdraws {w : DeskWorld} {who : String} {l : StockListing}
      (free : S.listingHeld l.listing_id = false) (listing : l ∈ S.rows.stock_listings)
      (up : ¬ (l.state = .withdrawn ∨ l.state = .draft))
      (fresh : ∀ e ∈ S.rows.admin_outbox, e.event_id ≠ w.newEventId) :
      Stepped S (.requestWithdrawal w who l.listing_id)
        { S with
          rows := (S.rows.setListing l.listing_id
            (StockListing.pending .withdraw_pending)).enqueue w.newEventId w.now .withdraw
              l.listing_id
          requests := S.requests ++ [⟨l.listing_id, .withdraw, some w.newEventId⟩] }
  | claims {now : Int} {eventId : String} {port : ListingPort} {shown : Shown} {e : OutboxEvent}
      {progress : Progress} {calls : List ProviderCall} (claimed : S.claimed now eventId = some e)
      (event : e ∈ S.rows.admin_outbox) (due : e.delivered_at = none)
      (free : S.eventHeld e.event_id = false) (begun : Claimed S now port shown e progress calls) :
      Stepped S (.claim now eventId port shown)
        { S with inFlight := S.inFlight ++ [⟨e, now, progress⟩], calls }
  | settles {d : Delivery} {rows : ListingRows} {answer : Option ListingEvent}
      (flight : d ∈ S.inFlight) (free : S.waits d = false)
      (commits : d.settlement S.rows = .commit rows answer) :
      Stepped S (.settle d.event.event_id)
        { S.without d.event.event_id with rows, answers := S.answers ++ answer.toList }
  /-- A delivery is rolled back, or gone with its worker. -/
  | ends (e : DeskStep) (eventId : String) (deferring : List Deferral) :
      Stepped S e { S.without eventId with deferring }
  | defers {now : Int} {i : Nat} {lost : Bool} {d : Deferral}
      (free : S.eventHeld d.event_id = false) :
      Stepped S (.deferEvent now i lost)
        { S with
          deferring := S.deferring.eraseIdx i
          rows :=
            { S.rows with
              admin_outbox := updateWhere
                (fun e : OutboxEvent => e.event_id = d.event_id ∧ e.delivered_at = none)
                (OutboxEvent.deferredBy now d) S.rows.admin_outbox } }
  | asks {now : Int} {port : ListingPort} {l : StockListing} (has : Bool)
      (free : S.listingHeld l.listing_id = false) (listing : l ∈ S.rows.stock_listings) :
      Stepped S (.beginReconcile now l.listing_id port)
        { S with reconciling := S.reconciling ++ [⟨l, now, has⟩] }
  | releases (i : Nat) (lost : Bool) :
      Stepped S (.settleReconcile i lost) { S with reconciling := S.reconciling.eraseIdx i }
  | corrects {i : Nat} {r : Reconciliation} (row : S.reconciling[i]? = some r) :
      Stepped S (.settleReconcile i false)
        { S with
          reconciling := S.reconciling.eraseIdx i
          rows := recordListingEvent r.answerRow
            (S.rows.setListing r.listing.listing_id r.corrected)
          answers := S.answers ++ [r.answerRow] }
  | acquires {item : StockItem} (acquired : item.lifecycle_state = .acquired)
      (fresh : ∀ i ∈ S.rows.stock_items, i.stock_item_id ≠ item.stock_item_id) :
      Stepped S (.acquire item)
        { S with rows := { S.rows with stock_items := S.rows.stock_items ++ [item] } }
  | transitions {i : Nat} {m : Move} (row : S.moving[i]? = some m) :
      Stepped S (.settleTransition i false)
        { S with
          moving := S.moving.eraseIdx i
          rows :=
            { S.rows with
              stock_items := updateWhere
                (fun i : StockItem =>
                  i.stock_item_id = m.stockItemId ∧ i.authorization_version = m.version)
                (StockItem.moved m.now m.input) S.rows.stock_items } }

namespace Stepped

variable {S : ListingDesk}

theorem stays (e : DeskStep) : Stepped S e S := .aside e S.deferring S.moving

theorem requestPublication (w : DeskWorld) (who stockItemId channel : String) :
    Stepped S (.requestPublication w who stockItemId channel)
      (S.requestPublication w who stockItemId channel) := by
  unfold ListingDesk.requestPublication
  split
  · exact stays _
  rename_i hfree
  rw [Bool.not_eq_true, Bool.or_eq_false_iff] at hfree
  split
  · rename_i listing rows hgranted
    obtain ⟨hready, hfresh, hrows⟩ := requestListingPublicationWithin_granted hgranted
    exact .publishes hready hfresh (by simpa using hfree.2) hrows
  · exact stays _

theorem requestWithdrawal (w : DeskWorld) (who listingId : String) :
    Stepped S (.requestWithdrawal w who listingId) (S.requestWithdrawal w who listingId) := by
  unfold ListingDesk.requestWithdrawal
  split
  · exact stays _
  rename_i hfree
  rw [Bool.not_eq_true] at hfree
  split
  · rename_i listing rows hgranted
    unfold requestListingWithdrawalWithin at hgranted
    obtain ⟨_, _, hgranted⟩ := bind_eq_ok.mp hgranted
    split at hgranted
    · cases hgranted
    rename_i l hl
    obtain ⟨hmem, rfl⟩ := readListing_eq_some hl
    split at hgranted
    · rename_i hdown
      cases hgranted
      have hstate : listing.state ≠ .withdraw_pending := by
        rcases hdown with hdown | hdown <;> rw [hdown] <;> decide
      rw [if_neg hstate]
      exact .converges hmem hdown
    · rename_i hup
      obtain ⟨_, hfresh, hgranted⟩ := bind_eq_ok.mp hgranted
      cases hgranted
      have hstate : (l.pending .withdraw_pending).state = .withdraw_pending := rfl
      rw [if_pos hstate]
      exact .withdraws hfree hmem hup (by simpa using ensure_eq_ok.mp hfresh)
  · exact stays _

theorem claim (now : Int) (eventId : String) (port : ListingPort) (shown : Shown) :
    Stepped S (.claim now eventId port shown) (S.claim now eventId port shown) := by
  unfold ListingDesk.claim
  cases hclaimed : S.claimed now eventId with
  | none => exact stays _
  | some e =>
    have hmem := mem_of_find?_eq_some hclaimed
    rw [ListingDesk.due, mem_filter] at hmem
    simp only [Bool.and_eq_true, Option.isNone_iff_eq_none, decide_eq_true_eq,
      Bool.not_eq_true] at hmem
    have hclaims : ∀ {progress calls}, Claimed S now port shown e progress calls →
        Stepped S (.claim now eventId port shown)
          { S with inFlight := S.inFlight ++ [⟨e, now, progress⟩], calls } :=
      .claims hclaimed hmem.1 hmem.2.1.1 hmem.2.2
    dsimp only
    split
    · rename_i hledger
      exact hclaims (.deduplicated hledger)
    rename_i hledger
    split
    · rename_i hnone
      exact hclaims (.unnamed hledger hnone)
    rename_i listingId hsome
    split
    · rename_i habsent
      exact hclaims (.absent listingId hledger hsome habsent)
    rename_i l hl
    obtain ⟨-, hlid⟩ := readListing_eq_some hl
    obtain rfl := hlid
    exact hclaims (.called l hledger hsome hl)

theorem settle (eventId : String) : Stepped S (.settle eventId) (S.settle eventId) := by
  unfold ListingDesk.settle
  split
  · exact stays _
  rename_i d hd
  obtain ⟨hmem, rfl⟩ := of_find?_eq_some (p := fun d : Delivery => d.event.event_id = eventId) hd
  split
  · exact stays _
  rename_i hwaits
  cases hsettled : d.settlement S.rows with
  | commit rows answer => exact .settles hmem (Bool.not_eq_true _ ▸ hwaits) hsettled
  | rollback message attempt => exact .ends _ _ _

theorem deferEvent (now : Int) (i : Nat) (lost : Bool) :
    Stepped S (.deferEvent now i lost) (S.deferEvent now i lost) := by
  unfold ListingDesk.deferEvent
  split
  · exact stays _
  split
  · exact .aside _ _ _
  split
  · exact stays _
  · rename_i hheld
    exact .defers (Bool.not_eq_true _ ▸ hheld)

theorem beginReconcile (now : Int) (listingId : String) (port : ListingPort) :
    Stepped S (.beginReconcile now listingId port) (S.beginReconcile now listingId port) := by
  unfold ListingDesk.beginReconcile
  split
  · exact stays _
  rename_i hfree
  split
  · exact stays _
  rename_i l hl
  obtain ⟨hmem, rfl⟩ := readListing_eq_some hl
  split
  · exact stays _
  · exact .asks _ (Bool.not_eq_true _ ▸ hfree) hmem

theorem settleReconcile (i : Nat) (lost : Bool) :
    Stepped S (.settleReconcile i lost) (S.settleReconcile i lost) := by
  unfold ListingDesk.settleReconcile
  split
  · exact stays _
  rename_i r hr
  cases lost with
  | true => exact .releases i true
  | false => exact .corrects hr

theorem acquire (item : StockItem) : Stepped S (.acquire item) (S.acquire item) := by
  unfold ListingDesk.acquire
  split
  · rename_i hnew
    exact .acquires hnew.1 (by simpa using hnew.2)
  · exact stays _

theorem beginTransition (w : LotWorld) (input : TransitionInput) :
    Stepped S (.beginTransition w input) (S.beginTransition w input) := by
  unfold ListingDesk.beginTransition
  split
  · exact stays _
  split
  · exact stays _
  split
  · exact stays _
  split
  · exact stays _
  · exact .aside _ _ _

theorem settleTransition (i : Nat) (lost : Bool) :
    Stepped S (.settleTransition i lost) (S.settleTransition i lost) := by
  unfold ListingDesk.settleTransition
  split
  · exact stays _
  rename_i m hm
  split
  · exact .aside _ _ _
  rename_i hgoes
  cases lost with
  | true => exact absurd (.inl rfl) hgoes
  | false => exact .transitions hm

end Stepped

theorem stepped (S : ListingDesk) (e : DeskStep) : Stepped S e (S.step e) := by
  cases e with
  | requestPublication w who stockItemId channel =>
    exact .requestPublication w who stockItemId channel
  | requestWithdrawal w who listingId => exact .requestWithdrawal w who listingId
  | claim now eventId port shown => exact .claim now eventId port shown
  | settle eventId => exact .settle eventId
  | crash eventId => exact .ends _ eventId S.deferring
  | deferEvent now i lost => exact .deferEvent now i lost
  | beginReconcile now listingId port => exact .beginReconcile now listingId port
  | settleReconcile i lost => exact .settleReconcile i lost
  | acquire item => exact .acquire item
  | beginTransition w input => exact .beginTransition w input
  | settleTransition i lost => exact .settleTransition i lost

theorem settlement_called {d : Delivery} {rows rows' : ListingRows} {answer : Option ListingEvent}
    {l : StockListing} {told : ProviderAnswer} (hcalled : d.progress = .called l told)
    (h : d.settlement rows = .commit rows' answer) :
    ∃ a, told = .outcome a ∧ ¬ (d.event.event_type = .publish ∧ a.outcome = .deferred) ∧
      answer = some (d.answerRow l a) ∧
      rows' = ((recordListingEvent (d.answerRow l a)
          { rows with
            admin_outbox_deliveries := rows.admin_outbox_deliveries ++ [d.event.event_id] }).setListing
        l.listing_id (d.answered a)).setEvent d.event.event_id
          (OutboxEvent.delivered d.now d.attempt none) := by
  unfold Delivery.settlement at h
  rw [hcalled] at h
  cases told with
  | threw message => cases h
  | outcome a =>
    dsimp only at h
    split at h
    · cases h
    rename_i hdeferred
    split at h
    · cases h
    cases h
    exact ⟨a, rfl, hdeferred, rfl, rfl⟩

end Dealership.Inventory
