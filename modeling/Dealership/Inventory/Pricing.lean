import Dealership.Inventory.Schema
import Mathlib.Algebra.Group.Int.Defs

/-!
# Prices

A price is set under the lock of its stock item: the standing price is closed, the
new one is inserted, and the closed one is pointed at it, in one transaction.
-/

namespace Dealership.Inventory

open Library

structure PriceInput where
  actingUserLinkId : String
  stockItemId : String
  priceType : PriceType
  /-- `none` for a number that is not whole. -/
  amountCents : Option Int
  currency : Option String
  reason : Option String

structure PriceView where
  priceId : String
  priceType : PriceType
  amountCents : Int
  currency : String
  effectiveFrom : Int
  supersededAt : Option Int
  reason : Option String

inductive PriceOutcome where
  | priced (price : PriceView) (superseded : Option String)
  | invalid (error : String)
  | not_found

/-- The price that stands for an item and a type, among these rows. -/
def StockPrice.stands (stockItemId : String) (priceType : PriceType) (p : StockPrice) : Prop :=
  p.stock_item_id = stockItemId ∧ p.price_type = priceType ∧ p.superseded_at = none

instance (stockItemId : String) (priceType : PriceType) :
    DecidablePred (StockPrice.stands stockItemId priceType) :=
  fun _ => inferInstanceAs (Decidable (_ ∧ _ ∧ _))

/-- The columns the supersession writes. -/
def StockPrice.close (now : Int) (p : StockPrice) : StockPrice :=
  { p with superseded_at := some now, authorization_version := p.authorization_version + 1 }

def standingIds (stockItemId : String) (priceType : PriceType) (db : Lot) : List String :=
  (db.stock_prices.filter fun p => p.stands stockItemId priceType).map (·.price_id)

/-- `UPDATE stock_prices SET superseded_at = NOW() … WHERE superseded_at IS NULL
RETURNING price_id`, under `CHECK (superseded_at >= effective_from)`. -/
def closeStanding (w : LotWorld) (stockItemId : String) (priceType : PriceType) :
    LotWork (List String) :=
  Script.execute
    (fun v => (standingIds stockItemId priceType v).map fun p =>
      .row "stock_prices" p .noKeyUpdate)
    (fun v => v.stock_prices.all fun p =>
      ¬ p.stands stockItemId priceType || p.effective_from ≤ w.now)
    (.database "stock_prices_check")
    (fun _ db =>
      { db with
        stock_prices := updateWhere (fun p => p.stands stockItemId priceType)
          (StockPrice.close w.now) db.stock_prices })
    (standingIds stockItemId priceType)

/-- `currency ~ '^[A-Z]{3}$'`. -/
def isCurrency (s : String) : Bool :=
  s.toList.length = 3 && s.toList.all fun c => 'A' ≤ c && c ≤ 'Z'

/-- The `CHECK`s of `stock_prices` on the columns an insert fills, the range of `BIGINT`, and
the text that no column holds. -/
def StockPrice.accepted (p : StockPrice) : Bool :=
  decide (0 ≤ p.amount_cents ∧ p.amount_cents < 2 ^ 63) && isCurrency p.currency &&
    p.reason.all fun r => r.length ≤ 200 && carried r

/-- `INSERT INTO stock_prices`, with `uq_stock_prices_current`. -/
def insertPrice (p : StockPrice) : LotWork Unit :=
  Script.execute
    (fun _ => [.index "stock_prices_pkey" p.price_id,
      .index "uq_stock_prices_current" (p.stock_item_id ++ ":" ++ p.price_type.text),
      .row "stock_items" p.stock_item_id .keyShare])
    (fun v => (v.stock_prices.all fun q => q.price_id ≠ p.price_id &&
      ¬ q.stands p.stock_item_id p.price_type) && p.accepted)
    (.database "stock_prices")
    (fun _ db => { db with stock_prices := db.stock_prices ++ [p] })
    fun _ => ()

/-- `UPDATE stock_prices SET superseded_by_price_id = $3 WHERE price_id = ANY(…)`,
under its two `CHECK`s. -/
def pointAt (closed : List String) (priceId : String) : LotWork Unit :=
  Script.execute (fun _ => closed.map fun p => .row "stock_prices" p .noKeyUpdate)
    (fun v => v.stock_prices.all fun p =>
      decide (p.price_id ∉ closed) || (p.superseded_at.isSome && p.price_id ≠ priceId))
    (.database "stock_prices_check")
    (fun _ db =>
      { db with
        stock_prices := updateWhere (fun p : StockPrice => p.price_id ∈ closed)
          (fun p => { p with superseded_by_price_id := some priceId }) db.stock_prices })
    fun _ => ()

def newPrice (w : LotWorld) (input : PriceInput) (cents : Int) : StockPrice where
  price_id := w.newPriceId
  stock_item_id := input.stockItemId
  price_type := input.priceType
  amount_cents := cents
  currency := input.currency.getD "USD"
  effective_from := w.now
  superseded_at := none
  superseded_by_price_id := none
  reason := input.reason
  authorization_version := 1

def StockPrice.view (p : StockPrice) : PriceView where
  priceId := p.price_id
  priceType := p.price_type
  amountCents := p.amount_cents
  currency := p.currency
  effectiveFrom := p.effective_from
  supersededAt := none
  reason := p.reason

/-- Sets the live price of one type, superseding whatever stood before it. -/
def setStockPriceWithin (w : LotWorld) (input : PriceInput) : LotWork PriceOutcome :=
  match input.amountCents with
  | none => pure (.invalid "a price is a whole number of cents, at least zero")
  | some cents =>
    if cents < 0 then pure (.invalid "a price is a whole number of cents, at least zero")
    else do
      let _ ← actorOnLot w input.actingUserLinkId
      match ← lockStockItem input.stockItemId with
      | none => pure .not_found
      | some _ =>
        let superseded ← closeStanding w input.stockItemId input.priceType
        insertPrice (newPrice w input cents)
        if superseded = [] then pure (.priced (newPrice w input cents).view none)
        else do
          pointAt superseded w.newPriceId
          pure (.priced (newPrice w input cents).view superseded.head?)

end Dealership.Inventory
