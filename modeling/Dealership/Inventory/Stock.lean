import Dealership.Inventory.Schema

/-!
# The readiness progression

A stock record advances from acquisition to retail-readiness, may go back to
reconditioning, and ends retired.  A move locks the record first; a retirement also
asks whether a listing of the record is live.
-/

namespace Dealership.Inventory

open Library

/-- Which transitions are legal.  `retired` is terminal. -/
def legalTransitions : LifecycleState → List LifecycleState
  | .acquired => [.in_reconditioning, .retail_ready, .retired]
  | .in_reconditioning => [.retail_ready, .retired]
  | .retail_ready => [.in_reconditioning, .retired]
  | .retired => []

structure TransitionInput where
  actingUserLinkId : String
  stockItemId : String
  toState : LifecycleState
  expectedVersion : Option Nat
  reason : Option String

inductive TransitionOutcome where
  | transitioned (stockItem : StockItem)
  | illegal (fromState toState : LifecycleState)
  | version_conflict (currentVersion : Nat)
  | blocked (error : String)
  | not_found

/-- The answers given on the locked row alone: `none` is that the move goes on. -/
def TransitionInput.answer (input : TransitionInput) (current : StockItem) :
    Option TransitionOutcome :=
  if input.expectedVersion.any fun v => current.authorization_version ≠ v then
    some (.version_conflict current.authorization_version)
  -- A retried command converges rather than refusing its own earlier success.
  else if current.lifecycle_state = input.toState then some (.transitioned current)
  else if input.toState ∉ legalTransitions current.lifecycle_state then
    some (.illegal current.lifecycle_state input.toState)
  else if input.toState = .retired ∧ isBlank (input.reason.getD "") then
    some (.blocked "retiring a stock record records why")
  else none

def listed (stockItemId : String) (listings : List StockListing) : Bool :=
  listings.any fun l => l.stock_item_id = stockItemId && l.state.live

/-- The columns a move writes. -/
def StockItem.moved (now : Int) (input : TransitionInput) (i : StockItem) : StockItem :=
  { i with
    lifecycle_state := input.toState
    retail_ready_at :=
      if input.toState = .retail_ready ∧ i.retail_ready_at = none then some now
      else i.retail_ready_at
    retired_at := if input.toState = .retired then some now else none
    retired_reason := if input.toState = .retired then input.reason else none
    authorization_version := i.authorization_version + 1 }

/-- `CHECK (length(retired_reason) <= 200)`, on a row that is moved. -/
def TransitionInput.accepted (input : TransitionInput) : Bool :=
  input.toState ≠ .retired || input.reason.all fun r => r.length ≤ 200

/-- `UPDATE stock_items … WHERE stock_item_id = … AND authorization_version = …`: a record
that is retired leaves the unique indexes over live records. -/
def updateStockItem (w : LotWorld) (input : TransitionInput) (version : Nat) :
    LotWork (Option StockItem) :=
  Script.execute
    (fun seen => .row "stock_items" input.stockItemId .noKeyUpdate ::
      if input.toState = .retired then
        (readStockItem input.stockItemId seen).toList.flatMap StockItem.entries
      else [])
    (fun _ => input.accepted) (.database "stock_items_retired_reason_check")
    (fun _ db =>
      { db with
        stock_items := updateWhere
          (fun i : StockItem =>
            i.stock_item_id = input.stockItemId ∧ i.authorization_version = version)
          (StockItem.moved w.now input) db.stock_items })
    fun db => (db.stock_items.find? fun i =>
      i.stock_item_id = input.stockItemId && i.authorization_version = version).map
        (StockItem.moved w.now input)

/-- Advances one stock record through the readiness progression. -/
def transitionStockWithin (w : LotWorld) (input : TransitionInput) :
    LotWork TransitionOutcome := do
  let _ ← actorOnLot w input.actingUserLinkId
  match ← lockStockItem input.stockItemId with
  | none => pure .not_found
  | some current =>
    match input.answer current with
    | some answer => pure answer
    | none =>
      let blocked ← Script.select fun db : Lot =>
        input.toState = .retired && listed input.stockItemId db.stock_listings
      if blocked then pure (.blocked "withdraw the listing before retiring this vehicle")
      else
        match ← updateStockItem w input current.authorization_version with
        | none => pure (.version_conflict current.authorization_version)
        | some stockItem => pure (.transitioned stockItem)

end Dealership.Inventory
