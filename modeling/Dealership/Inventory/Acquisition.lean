import Dealership.Inventory.Books
import Dealership.Inventory.Vin

/-!
# Acquisition

One transaction finds or creates the vehicle of a VIN, optionally creates the party the
car came from, and establishes the stock record.  The vehicle and the party are written
before the last refusals are made, and a refusal that returns commits what was written.

The insert of the stock record is not in a savepoint: once a unique index refuses it,
the transaction can only be rolled back, and a further query raises.
-/

namespace Dealership.Inventory

open Library
open Crm (Party PartyType PartyDetails Casing RowLock)

/-! ## Input -/

/-- `ACQUISITION_SOURCES.includes`. -/
def AcquisitionSource.ofText (s : String) : Option AcquisitionSource :=
  [.trade_in, .auction, .private_purchase, .fleet, .consignment, .transfer].find?
    fun a : AcquisitionSource => a.text = s

/-- The sources that name a counterparty. -/
def AcquisitionSource.requiresParty : AcquisitionSource → Bool
  | .trade_in | .consignment => true
  | _ => false

/-- Stock numbers are upper-cased; the grammar refuses the rest. -/
def normalizeStockNumber (casing : Casing) (raw : Option String) : Option String :=
  raw.bind fun raw =>
    let value := casing.upper (trimText raw)
    let upperOrDigit := fun c : Char => ('A' ≤ c && c ≤ 'Z') || ('0' ≤ c && c ≤ '9')
    match value.toList with
    | [] => none
    | c :: cs =>
      if upperOrDigit c ∧ cs.length ≤ 23 ∧ cs.all fun c => upperOrDigit c || c = '-' then
        some value
      else none

/-- `/^\d{4}-\d{2}-\d{2}$/`. -/
def isDateText (s : String) : Bool :=
  s.toList.length = 10 && s.toList.zipIdx.all fun (c, i) =>
    if i = 4 || i = 7 then c = '-' else c.isDigit

/-- The value of decimal digits. -/
def decimal (cs : List Char) : Nat := cs.foldl (fun n c => 10 * n + (c.toNat - '0'.toNat)) 0

/-- The days of a month of the Gregorian calendar. -/
def daysInMonth (year month : Nat) : Nat :=
  if month = 2 then
    if year % 4 = 0 ∧ (year % 100 ≠ 0 ∨ year % 400 = 0) then 29 else 28
  else if month = 4 ∨ month = 6 ∨ month = 9 ∨ month = 11 then 30
  else 31

/-- A text of that shape the database casts to a date. -/
def isDate (s : String) : Bool :=
  let year := decimal (s.toList.take 4)
  let month := decimal ((s.toList.drop 5).take 2)
  let day := decimal (s.toList.drop 8)
  1 ≤ year && 1 ≤ month && month ≤ 12 && 1 ≤ day && day ≤ daysInMonth year month

structure AcquisitionInput where
  actingUserLinkId : String
  rooftopId : String
  /-- `none` for an input that is no text. -/
  vin : Option String
  stockNumber : Option String
  acquisitionSource : String
  acquiredOn : String
  referenceYear : Int
  odometer : Option Int
  odometerUnit : Option OdometerUnit
  titleStatus : Option TitleStatus
  locationLabel : Option String
  acquisitionPartyId : Option String
  newParty : Option (PartyType × PartyDetails)

inductive AcquisitionOutcome where
  | acquired (stockItem : StockItem) (vehicle : Vehicle) (party : Option Party)
      (vehicleCreated : Bool)
  | invalid (error : String)
  | vehicle_already_stocked (stockItem : StockItem)
  | rooftop_not_found

/-! ## The vehicle -/

inductive VehicleResolution where
  | resolved (vehicle : Vehicle) (created : Bool)
  | invalid (error : String)

def vehicleOf (vin : String) (db : Books) : Option Vehicle :=
  db.lot.vehicles.find? fun v => v.vin = vin

/-- `model_year BETWEEN 1950 AND 2100`. -/
def Vehicle.accepted (v : Vehicle) : Bool :=
  v.model_year.all fun year => decide (1950 ≤ year ∧ year ≤ 2100)

/-- `INSERT INTO vehicles … ON CONFLICT (vin) DO NOTHING RETURNING`. -/
def insertVehicle (v : Vehicle) : BooksWork (Option Vehicle) :=
  .statement
    (fun _ => [.index "vehicles_vin" v.vin, .index "vehicles_pkey" v.vehicle_id])
    (fun seen db =>
      if (vehicleOf v.vin seen).isSome then db
      else { db with lot := { db.lot with vehicles := db.lot.vehicles ++ [v] } })
    fun seen =>
      if ¬ v.accepted then .raise (.raised (.database "vehicles_model_year_check"))
      else if (vehicleOf v.vin seen).isSome then .commit none
      else if seen.lot.vehicles.any fun u => u.vehicle_id = v.vehicle_id then
        .raise (.raised (.database "vehicles_pkey"))
      else .commit (some v)

/-- Finds the dealership's vehicle for this VIN, creating it if this is the first time
the VIN has been seen. -/
def resolveVehicleByVin (casing : Casing) (w : BooksWorld) (actingUserLinkId : String)
    (vin : Option String) (referenceYear : Int) : BooksWork VehicleResolution :=
  let normalized := normalizeVin casing vin referenceYear
  match normalized.vin with
  | none => pure (.invalid (describeVinRejection (normalized.rejection.getD .empty)))
  | some vin => do
    let _ ← actorOnBooks w.access actingUserLinkId
    match ← Script.select (vehicleOf vin) with
    | some vehicle => pure (.resolved vehicle false)
    | none =>
      let written ← insertVehicle
        { vehicle_id := w.newVehicleId
          vin
          vin_check_digit_valid := normalized.checkDigitValid
          model_year := normalized.modelYear
          authorization_version := 1 }
      match written with
      | some vehicle => pure (.resolved vehicle true)
      | none =>
        -- The race was lost: the other transaction's row is the canonical one.
        match ← Script.select (vehicleOf vin) with
        | none => pure (.invalid "the vehicle could not be resolved")
        | some vehicle => pure (.resolved vehicle false)

/-! ## The seller -/

/-- The party the car came from: one that is created, one that is named, or none. -/
def resolveSeller (casing : Casing) (w : BooksWorld) (input : AcquisitionInput)
    (actor : String) : BooksWork (Except String (Option Party)) :=
  match input.newParty with
  | some (partyType, details) => do
    match ← onLeads (Crm.createPartyWithin casing w.toCrmWorld actor partyType details false) with
    | .invalid error => pure (.error error)
    | .duplicate _ => pure (.error ("that seller matches an existing customer — " ++
        "select the existing record or merge them first"))
    | .created party => pure (.ok (some party))
  | none =>
    match input.acquisitionPartyId with
    | none => pure (.ok none)
    | some partyId => do
      let found ← Script.selectLocking (fun _ => [.row "parties" partyId .read])
        fun db : Books => db.crm.parties.find? fun p => p.party_id = partyId
      match found with
      | none => pure (.error "the acquisition party does not exist")
      | some p =>
        if p.status ≠ .active then pure (.error "the acquisition party is not active")
        else pure (.ok none)

/-! ## The stock record -/

def stockedAs (vehicleId : String) (db : Books) : Option StockItem :=
  db.lot.stock_items.find? fun i => i.vehicle_id = vehicleId && i.live

/-- The row of a new stock record, with the defaults of its columns. -/
def newStockItem (w : BooksWorld) (input : AcquisitionInput) (source : AcquisitionSource)
    (stockNumber vehicleId : String) (partyId : Option String) : StockItem where
  stock_item_id := w.newStockItemId
  vehicle_id := vehicleId
  rooftop_id := input.rooftopId
  stock_number := stockNumber
  lifecycle_state := .acquired
  acquisition_source := source
  acquisition_party_id := partyId
  acquired_on := input.acquiredOn
  odometer := input.odometer
  odometer_unit := input.odometerUnit.getD .mi
  title_status := input.titleStatus.getD .pending
  location_label := input.locationLabel
  retail_ready_at := none
  retired_at := none
  retired_reason := none
  authorization_version := 1

/-- The casts and the `CHECK`s of `stock_items` on the columns an insert fills. -/
def StockItem.accepted (i : StockItem) : Bool :=
  isDate i.acquired_on && i.odometer.all (fun n => decide (0 ≤ n ∧ n ≤ 2000000)) &&
    i.location_label.all fun l => decide (1 ≤ l.length ∧ l.length ≤ 100)

def numberTaken (rooftopId stockNumber : String) (items : List StockItem) : Bool :=
  items.any fun j => j.live && j.rooftop_id = rooftopId && j.stock_number = stockNumber

/-- What PostgreSQL answers to a query after a refused statement. -/
def abortedTransaction : Undone :=
  .raised (.database
    "current transaction is aborted, commands ignored until end of transaction block")

/-- `INSERT INTO stock_items`, and what is made of its refusal: the checks come first, then
the unique indexes in the order in which they were created, then the foreign keys. -/
def insertStockItem (i : StockItem) : BooksWork StockItem :=
  .statement
    (fun _ => .index "stock_items_pkey" i.stock_item_id :: i.entries ++
      .row "vehicles" i.vehicle_id .keyShare ::
        i.acquisition_party_id.toList.map fun p => .row "parties" p .keyShare)
    (fun _ db => { db with lot := { db.lot with stock_items := db.lot.stock_items ++ [i] } })
    fun seen =>
      if ¬ i.accepted then .raise (.raised (.database "stock_items_check"))
      else if seen.lot.stock_items.any fun j => j.stock_item_id = i.stock_item_id then
        .raise abortedTransaction
      else if numberTaken i.rooftop_id i.stock_number seen.lot.stock_items then
        .raise (.duplicate_stock_number i.stock_number)
      else if (stockedAs i.vehicle_id seen).isSome then .raise abortedTransaction
      else .commit i

/-- What remains once the vehicle is known. -/
def stockVehicle (casing : Casing) (w : BooksWorld) (input : AcquisitionInput)
    (source : AcquisitionSource) (stockNumber actor : String) (vehicle : Vehicle)
    (created : Bool) : BooksWork AcquisitionOutcome := do
  let held ← Script.selectLocking
    (fun _ => [.row "stock_items_vehicle" vehicle.vehicle_id .read])
    (stockedAs vehicle.vehicle_id)
  match held with
  | some stockItem => pure (.vehicle_already_stocked stockItem)
  | none =>
    match ← resolveSeller casing w input actor with
    | .error error => pure (.invalid error)
    | .ok party =>
      let partyId := (party.map (·.party_id)).or input.acquisitionPartyId
      if partyId = none ∧ source.requiresParty = true then
        pure (.invalid ("a " ++ source.text ++ " acquisition names the party it came from"))
      else
        let stockItem ← insertStockItem
          (newStockItem w input source stockNumber vehicle.vehicle_id partyId)
        pure (.acquired stockItem vehicle party created)

/-- What is judged before anything is asked of the database. -/
def AcquisitionInput.judged (casing : Casing) (input : AcquisitionInput) :
    Except String (AcquisitionSource × String) :=
  match AcquisitionSource.ofText input.acquisitionSource with
  | none => .error ("unknown acquisition source " ++ input.acquisitionSource)
  | some source =>
    match normalizeStockNumber casing input.stockNumber with
    | none => .error "a stock number is up to 24 characters of letters, digits and hyphens"
    | some stockNumber =>
      if ¬ isDateText input.acquiredOn then
        .error "acquired_on must be a YYYY-MM-DD date"
      else if input.acquisitionPartyId.isSome ∧ input.newParty.isSome then
        .error "name an existing party or create one, not both"
      else .ok (source, stockNumber)

def acquireStockWithin (casing : Casing) (w : BooksWorld) (input : AcquisitionInput) :
    BooksWork AcquisitionOutcome :=
  match input.judged casing with
  | .error error => pure (.invalid error)
  | .ok (source, stockNumber) => do
    let actor ← actorOnBooks w.access input.actingUserLinkId
    if ¬ w.rooftopExists input.rooftopId then pure .rooftop_not_found
    else
      match ← resolveVehicleByVin casing w actor input.vin input.referenceYear with
      | .invalid error => pure (.invalid error)
      | .resolved vehicle created =>
        stockVehicle casing w input source stockNumber actor vehicle created

end Dealership.Inventory
