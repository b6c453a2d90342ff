import Dealership.Crm.Schema

/-!
# The rows of the lot

A vehicle is the thing in the world, a stock item the dealership's holding of it.
Around a stock item stand its prices, each superseded rather than overwritten, its
transfers between the dealership's own rooftops, and its listings, one a channel.

Instants are microseconds.  `NOW()` is the instant a transaction began, which may
come before the commit of one it waited for.
-/

namespace Dealership.Inventory

open Library
open Crm (RowLock)

/-! ## Vocabularies -/

inductive LifecycleState where
  | acquired | in_reconditioning | retail_ready | retired
deriving DecidableEq

def LifecycleState.text : LifecycleState → String
  | .acquired => "acquired"
  | .in_reconditioning => "in_reconditioning"
  | .retail_ready => "retail_ready"
  | .retired => "retired"

inductive AcquisitionSource where
  | trade_in | auction | private_purchase | fleet | consignment | transfer

def AcquisitionSource.text : AcquisitionSource → String
  | .trade_in => "trade_in"
  | .auction => "auction"
  | .private_purchase => "private_purchase"
  | .fleet => "fleet"
  | .consignment => "consignment"
  | .transfer => "transfer"

inductive OdometerUnit where
  | mi | km

inductive TitleStatus where
  | pending | in_hand | sent | lost

inductive PriceType where
  | retail | internet | wholesale | msrp
deriving DecidableEq

def PriceType.text : PriceType → String
  | .retail => "retail"
  | .internet => "internet"
  | .wholesale => "wholesale"
  | .msrp => "msrp"

inductive TransferState where
  | requested | completed | cancelled
deriving DecidableEq

def TransferState.text : TransferState → String
  | .requested => "requested"
  | .completed => "completed"
  | .cancelled => "cancelled"

inductive ListingState where
  | draft | publish_pending | published | withdraw_pending | withdrawn | rejected
deriving DecidableEq

/-- The states in which a car is advertised, or about to be, or not yet down. -/
def ListingState.live : ListingState → Bool
  | .publish_pending | .published | .withdraw_pending => true
  | .draft | .withdrawn | .rejected => false

/-! ## Rows -/

/-- A row of `vehicles`. -/
structure Vehicle where
  vehicle_id : String
  vin : String
  vin_check_digit_valid : Bool
  model_year : Option Int
  authorization_version : Nat

/-- A row of `stock_items`. -/
structure StockItem where
  stock_item_id : String
  vehicle_id : String
  rooftop_id : String
  stock_number : String
  lifecycle_state : LifecycleState
  acquisition_source : AcquisitionSource
  acquisition_party_id : Option String
  acquired_on : String
  odometer : Option Int
  odometer_unit : OdometerUnit
  title_status : TitleStatus
  location_label : Option String
  retail_ready_at : Option Int
  retired_at : Option Int
  retired_reason : Option String
  authorization_version : Nat

/-- A row of `stock_prices`. -/
structure StockPrice where
  price_id : String
  stock_item_id : String
  price_type : PriceType
  amount_cents : Int
  currency : String
  effective_from : Int
  superseded_at : Option Int
  superseded_by_price_id : Option String
  reason : Option String
  authorization_version : Nat

/-- A row of `stock_transfers`. -/
structure StockTransfer where
  transfer_id : String
  stock_item_id : String
  from_rooftop_id : String
  to_rooftop_id : String
  state : TransferState
  reason : Option String
  requested_at : Int
  settled_at : Option Int
  authorization_version : Nat
deriving DecidableEq

/-- A row of `stock_listings`. -/
structure StockListing where
  listing_id : String
  stock_item_id : String
  channel : String
  state : ListingState
  external_ref : Option String
  last_error : Option String
  attempts : Nat
  published_at : Option Int
  withdrawn_at : Option Int
  authorization_version : Nat

structure Lot where
  vehicles : List Vehicle
  stock_items : List StockItem
  stock_prices : List StockPrice
  stock_transfers : List StockTransfer
  stock_listings : List StockListing

/-! ## What surrounds a command -/

/-- What a command on the lot finds around it. -/
structure LotWorld where
  access : Access
  now : Int
  rooftopExists : String → Bool
  newVehicleId : String
  newStockItemId : String
  newPriceId : String
  newTransferId : String

/-- What is locked: a row, an entry of a unique index, the key of an advisory lock. -/
inductive LotLock where
  | row (table id : String) (mode : RowLock)
  | index (name key : String)
  | advisory (key : String)
deriving DecidableEq

def LotLock.conflicts : LotLock → LotLock → Bool
  | .row t x m, .row u y n => t = u && x = y && m.conflicts n
  | .index a k, .index b l => a = b && k = l
  | .advisory k, .advisory l => k = l
  | _, _ => false

theorem LotLock.conflicts_symm (k l : LotLock) : k.conflicts l = l.conflicts k := by
  cases k <;> cases l <;> simp only [LotLock.conflicts, Crm.RowLock.conflicts_symm, eq_comm]

def StockItem.live (i : StockItem) : Bool := i.lifecycle_state ≠ .retired

/-- The entry of `uq_stock_items_live_number`. -/
def numberEntry (rooftopId stockNumber : String) : LotLock :=
  .index "uq_stock_items_live_number" (rooftopId ++ ":" ++ stockNumber)

/-- The entry of `uq_stock_items_live_vehicle`. -/
def vehicleEntry (vehicleId : String) : LotLock :=
  .index "uq_stock_items_live_vehicle" vehicleId

/-- The entries of a stock record in the unique indexes over live records. -/
def StockItem.entries (i : StockItem) : List LotLock :=
  if i.live then [numberEntry i.rooftop_id i.stock_number, vehicleEntry i.vehicle_id] else []

abbrev LotWork := Script Lot LotLock Raise

/-- An attributable mutation has an actor. -/
def actorOnLot (w : LotWorld) (actingUserLinkId : String) : LotWork String :=
  match requireActor w.access actingUserLinkId with
  | .ok actor => pure actor
  | .error e => .raise e

/-- The stock item, as `readStockItem` finds it. -/
def readStockItem (stockItemId : String) (db : Lot) : Option StockItem :=
  db.stock_items.find? fun i => i.stock_item_id = stockItemId

/-- `lockStockItem`: every merchandising write is a write about the stock item. -/
def lockStockItem (stockItemId : String) : LotWork (Option StockItem) :=
  Script.selectLocking (fun _ => [.row "stock_items" stockItemId .forUpdate])
    (readStockItem stockItemId)

end Dealership.Inventory
