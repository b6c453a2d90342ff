import Dealership.Inventory.Acquisition
import Dealership.Inventory.Stock

/-!
# Transfers between the rooftops

A transfer is requested under the lock of its stock record, and its origin is stamped
by a trigger from where the record says the car is.  It is settled under its own lock:
the settlement of a completed one moves the car, and neither locks the record before
that nor looks at it.
-/

namespace Dealership.Inventory

open Library
open Crm (Casing RowLock)

/-! ## Requesting -/

structure TransferInput where
  actingUserLinkId : String
  stockItemId : String
  toRooftopId : String
  reason : Option String

inductive TransferOutcome where
  | requested (transfer : StockTransfer)
  | already_open (transfer : StockTransfer)
  | invalid (error : String)
  | not_found

def StockTransfer.opens (stockItemId : String) (t : StockTransfer) : Bool :=
  t.stock_item_id = stockItemId && t.state = .requested

def openTransfer (stockItemId : String) (db : Lot) : Option StockTransfer :=
  db.stock_transfers.find? fun t => t.opens stockItemId

/-- The entry of `uq_stock_transfers_open`. -/
def openEntry (stockItemId : String) : LotLock := .index "uq_stock_transfers_open" stockItemId

/-- `stock_transfer_origin_is_derived`: where the stock record says the car is. -/
def derivedOrigin (stockItemId : String) (db : Lot) : Option String :=
  (readStockItem stockItemId db).map (·.rooftop_id)

/-- The row of a new transfer, with the defaults of its columns. -/
def newTransfer (w : LotWorld) (input : TransferInput) (origin : String) : StockTransfer where
  transfer_id := w.newTransferId
  stock_item_id := input.stockItemId
  from_rooftop_id := origin
  to_rooftop_id := input.toRooftopId
  state := .requested
  reason := input.reason
  requested_at := w.now
  settled_at := none
  authorization_version := 1

/-- The `CHECK`s of `stock_transfers` on the columns an insert fills. -/
def StockTransfer.accepted (t : StockTransfer) : Bool :=
  t.reason.all (fun r => r.length ≤ 200) && t.from_rooftop_id ≠ t.to_rooftop_id

/-- `INSERT INTO stock_transfers`: the origin the caller supplies is overwritten. -/
def insertTransfer (w : LotWorld) (input : TransferInput) : LotWork StockTransfer :=
  let row := fun seen : Lot =>
    newTransfer w input ((derivedOrigin input.stockItemId seen).getD "")
  .statement
    (fun _ => [.index "stock_transfers_pkey" w.newTransferId, openEntry input.stockItemId,
      .row "stock_items" input.stockItemId .keyShare])
    (fun seen db => { db with stock_transfers := db.stock_transfers ++ [row seen] })
    fun seen =>
      if derivedOrigin input.stockItemId seen = none then
        .raise (.database "a transfer names a stock item of this dealership")
      else if ¬ (row seen).accepted then .raise (.database "stock_transfers_check")
      else if seen.stock_transfers.any fun t => t.transfer_id = w.newTransferId then
        .raise (.database "stock_transfers_pkey")
      else if (openTransfer input.stockItemId seen).isSome then
        .raise (.database "uq_stock_transfers_open")
      else .commit (row seen)

/-- Requests a move between the dealership's own rooftops. -/
def requestStockTransferWithin (w : LotWorld) (input : TransferInput) :
    LotWork TransferOutcome := do
  let _ ← actorOnLot w input.actingUserLinkId
  match ← lockStockItem input.stockItemId with
  | none => pure .not_found
  | some stock =>
    if stock.lifecycle_state = .retired then
      pure (.invalid "a retired vehicle cannot be transferred")
    else if stock.rooftop_id = input.toRooftopId then
      pure (.invalid "the vehicle is already at that rooftop")
    else if ¬ w.rooftopExists input.toRooftopId then
      pure (.invalid "the destination rooftop does not exist")
    else
      match ← Script.select (openTransfer input.stockItemId) with
      | some transfer => pure (.already_open transfer)
      | none =>
        let transfer ← insertTransfer w input
        pure (.requested transfer)

/-! ## Settling -/

structure SettleInput where
  actingUserLinkId : String
  transferId : String
  state : String

inductive TransferSettleOutcome where
  | settled (transfer : StockTransfer)
  | invalid (error : String)
  | not_found

def TransferState.settlesAs (s : String) : Option TransferState :=
  [.completed, .cancelled].find? fun t : TransferState => t.text = s

def readTransfer (transferId : String) (db : Lot) : Option StockTransfer :=
  db.stock_transfers.find? fun t => t.transfer_id = transferId

/-- The columns a settlement writes. -/
def StockTransfer.settle (now : Int) (state : TransferState) (t : StockTransfer) :
    StockTransfer :=
  { t with
    state
    settled_at := some now
    authorization_version := t.authorization_version + 1 }

/-- `UPDATE stock_transfers … WHERE transfer_id = … AND state = 'requested'`: a settled
transfer leaves the unique index over open ones. -/
def settleTransfer (w : LotWorld) (transferId : String) (state : TransferState) :
    LotWork (Option StockTransfer) :=
  .statement
    (fun seen => .row "stock_transfers" transferId .noKeyUpdate ::
      (readTransfer transferId seen).toList.map fun t => openEntry t.stock_item_id)
    (fun _ db =>
      { db with
        stock_transfers := updateWhere
          (fun t : StockTransfer => t.transfer_id = transferId ∧ t.state = .requested)
          (StockTransfer.settle w.now state) db.stock_transfers })
    fun seen => .commit
      ((seen.stock_transfers.find? fun t =>
        t.transfer_id = transferId && t.state = .requested).map (StockTransfer.settle w.now state))

/-- The columns a move writes. -/
def StockItem.moveTo (rooftopId : String) (i : StockItem) : StockItem :=
  { i with
    rooftop_id := rooftopId
    authorization_version := i.authorization_version + 1 }

/-- A live record other than this one holds the number of this one at the rooftop. -/
def numberTakenAt (rooftopId : String) (i : StockItem) (items : List StockItem) : Bool :=
  i.live && items.any fun j => j.stock_item_id ≠ i.stock_item_id && j.live &&
    j.rooftop_id = rooftopId && j.stock_number = i.stock_number

/-- `UPDATE stock_items SET rooftop_id = …`: a live record moves to another entry of the
unique index over live numbers, which may be taken. -/
def moveStockItem (stockItemId rooftopId : String) : LotWork Unit :=
  Script.execute
    (fun seen => .row "stock_items" stockItemId .noKeyUpdate ::
      (readStockItem stockItemId seen).toList.flatMap fun i =>
        i.entries ++ (i.moveTo rooftopId).entries)
    (fun seen => (readStockItem stockItemId seen).all fun i =>
      ¬ numberTakenAt rooftopId i seen.stock_items)
    (.database "uq_stock_items_live_number")
    (fun _ db =>
      { db with
        stock_items := updateWhere (fun i : StockItem => i.stock_item_id = stockItemId)
          (StockItem.moveTo rooftopId) db.stock_items })
    fun _ => ()

def settleStockTransferWithin (w : LotWorld) (input : SettleInput) :
    LotWork TransferSettleOutcome :=
  match TransferState.settlesAs input.state with
  | none => pure (.invalid "a transfer settles as completed or cancelled")
  | some state => do
    let _ ← actorOnLot w input.actingUserLinkId
    let found ← Script.selectLocking
      (fun _ => [.row "stock_transfers" input.transferId .forUpdate])
      (readTransfer input.transferId)
    match found with
    | none => pure .not_found
    | some current =>
      if current.state ≠ .requested then
        -- Asked to settle the same way again it converges.
        if current.state = state then pure (.settled current)
        else pure (.invalid ("this transfer is already " ++ current.state.text))
      else
        match ← settleTransfer w input.transferId state with
        | none => pure .not_found
        | some transfer => do
          if state = .completed then
            let _ ← moveStockItem transfer.stock_item_id transfer.to_rooftop_id
            pure (.settled transfer)
          else pure (.settled transfer)

/-! ## The yard -/

/-- A call that says where a car is, or what becomes of it. -/
inductive YardCall where
  | acquireStock (w : BooksWorld) (input : AcquisitionInput)
  | requestStockTransfer (w : LotWorld) (input : TransferInput)
  | settleStockTransfer (w : LotWorld) (input : SettleInput)
  | transitionStock (w : LotWorld) (input : TransitionInput)

inductive YardAnswer where
  | acquisition (outcome : AcquisitionOutcome)
  | transfer (outcome : TransferOutcome)
  | settlement (outcome : TransferSettleOutcome)
  | transition (outcome : TransitionOutcome)

def YardCall.program (casing : Casing) : YardCall → BooksWork YardAnswer
  | .acquireStock w input => do
    let outcome ← acquireStockWithin casing w input
    pure (.acquisition outcome)
  | .requestStockTransfer w input => do
    let outcome ← onLot (requestStockTransferWithin w input)
    pure (.transfer outcome)
  | .settleStockTransfer w input => do
    let outcome ← onLot (settleStockTransferWithin w input)
    pure (.settlement outcome)
  | .transitionStock w input => do
    let outcome ← onLot (transitionStockWithin w input)
    pure (.transition outcome)

end Dealership.Inventory
