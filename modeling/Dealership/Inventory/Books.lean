import Dealership.Crm.Leads
import Dealership.Inventory.Schema
import Dealership.Library.Zoom

/-!
# The books of a dealership

The customers and leads together with the lot, for the operations that write both: an
acquisition creates its seller, a merge repoints the stock that came from the customer
it absorbs.

The column `merged_into_party_id` of `parties` is kept beside the rows, as the pairs of
a party and the party it was merged into; no other operation reads it.
-/

namespace Dealership.Inventory

open Library
open Crm (Pipeline)

/-! ## Consents and merges -/

inductive ConsentChannel where
  | email | sms | phone | postal

inductive ConsentState where
  | granted | withdrawn | unknown

/-- A row of `party_consents`. -/
structure PartyConsent where
  party_id : String
  channel : ConsentChannel
  state : ConsentState
  captured_at : Int
  source : String
  note : Option String
  authorization_version : Nat

structure MergeSummary where
  stockItemsRepointed : Nat
  consentsAdopted : Nat

/-- A row of `party_merges`. -/
structure PartyMerge where
  surviving_party_id : String
  merged_party_id : String
  moved : MergeSummary
  reason : Option String

/-! ## The rows together -/

structure Books where
  crm : Pipeline
  lot : Lot
  /-- `parties.merged_into_party_id`. -/
  merged_into : List (String × String)
  party_consents : List PartyConsent
  party_merges : List PartyMerge

/-- The customers and leads among the books. -/
def Books.leadRows : Lens Books Pipeline where
  get := (·.crm)
  set := fun p db => { db with crm := p }
  get_set := fun _ _ => rfl
  set_get := fun _ => rfl
  set_set := fun _ _ _ => rfl

def Books.lotRows : Lens Books Lot where
  get := (·.lot)
  set := fun l db => { db with lot := l }
  get_set := fun _ _ => rfl
  set_get := fun _ => rfl
  set_set := fun _ _ _ => rfl

def crmLock : Crm.Lock → LotLock
  | .lead id m => .row "leads" id m
  | .activity id m => .row "lead_activities" id m
  | .intake k m => .row "lead_intakes" k m
  | .index name key => .index name key
  | .advisory key => .advisory key

/-- Why nothing a transaction wrote is there: it raised; or a statement of it had been
refused, its `COMMIT` was a rollback, and the answer was given all the same. -/
inductive Undone where
  | raised (error : Raise)
  | duplicate_stock_number (stockNumber : String)

abbrev BooksWork := Script Books LotLock Undone

/-- Work on the customers and leads, in a transaction on the books. -/
def onLeads {A : Type} (s : Crm.Work A) : BooksWork A := s.zoom Books.leadRows crmLock .raised

def onLot {A : Type} (s : LotWork A) : BooksWork A := s.zoom Books.lotRows (fun k => k) .raised

/-- What an acquisition finds around it. -/
structure BooksWorld extends Crm.CrmWorld where
  newVehicleId : String
  newStockItemId : String

/-- An attributable mutation has an actor. -/
def actorOnBooks (access : Access) (actingUserLinkId : String) : BooksWork String :=
  match requireActor access actingUserLinkId with
  | .ok actor => pure actor
  | .error e => .raise (.raised e)

end Dealership.Inventory
