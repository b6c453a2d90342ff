import Mathlib.Data.List.Sort
import Dealership.Sales.Schema

/-!
# The floor

Who is up next.  A rooftop has one rotation: each person has one place in it, whoever is
given a customer goes to its end, and whoever is released may be given another.
-/

namespace Dealership.Sales

open Library
open Inventory (LotLock)

/-! ## The rotation -/

def entryOf (rooftopId userLinkId : String) (d : Showroom) : Option FloorRotation :=
  d.floor_rotations.find? fun e => e.rooftop_id = rooftopId && e.user_link_id = userLinkId

def findRotation (rotationId : String) (d : Showroom) : Option FloorRotation :=
  d.floor_rotations.find? fun e => e.rotation_id = rotationId

/-- `COALESCE((SELECT MAX(position) + 1 FROM floor_rotations …), 0)`. -/
def backOfLine (rooftopId : String) (d : Showroom) : Nat :=
  ((d.floor_rotations.filter fun e => e.rooftop_id = rooftopId).map (·.position + 1)).foldr max 0

/-- What the subselect over the positions of a rooftop leaves behind. -/
def placeMark (rooftopId : String) : LotLock := footprint "floor_rotations.position" rooftopId

/-- The subselect that reads the end of the line.  It sees the rows as they were committed
when its statement began, so it is a statement of its own here. -/
def readBackOfLine (rooftopId : String) : SalesWork Nat :=
  Script.selectLocking (fun _ => [placeMark rooftopId]) (backOfLine rooftopId)

/-- The largest `INTEGER`. -/
def maxInteger : Nat := 2147483647

def rotationLock (mode : Crm.RowLock) (e : FloorRotation) : LotLock :=
  .row "floor_rotations" e.rotation_id mode

/-- The entry of `UNIQUE (tenant_id, rooftop_id, user_link_id)`. -/
def seatEntry (rooftopId userLinkId : String) : LotLock :=
  .index "floor_rotations_seat_key" (rooftopId ++ ":" ++ userLinkId)

/-- Neither the id of the entry nor its person at its rooftop is taken, and its place is a
number. -/
def FloorRotation.fits (e : FloorRotation) (d : Showroom) : Bool :=
  decide (e.position ≤ maxInteger) && d.floor_rotations.all fun f =>
    f.rotation_id ≠ e.rotation_id &&
      ! (f.rooftop_id = e.rooftop_id && f.user_link_id = e.user_link_id)

/-- The entries of an entry of the rotation that is being inserted. -/
def FloorRotation.entries (e : FloorRotation) : List LotLock :=
  [.index "floor_rotations_pkey" e.rotation_id, seatEntry e.rooftop_id e.user_link_id]

/-- `INSERT INTO floor_rotations`. -/
def insertRotation (e : FloorRotation) : SalesWork Unit :=
  Script.execute (fun _ => e.entries) e.fits (.database "floor_rotations_seat_key")
    (fun _ d => { d with floor_rotations := d.floor_rotations ++ [e] }) fun _ => ()

/-- One entry is rewritten. -/
def Showroom.setRotation (rotationId : String) (f : FloorRotation → FloorRotation)
    (d : Showroom) : Showroom :=
  { d with floor_rotations := updateWhere (fun e => e.rotation_id = rotationId) f d.floor_rotations }

/-- `UPDATE floor_rotations … WHERE …`, which one entry meets or none. -/
def updateRotation (meets : Showroom → Option FloorRotation) (accepts : Bool)
    (f : FloorRotation → FloorRotation) : SalesWork (Option FloorRotation) :=
  Script.execute (fun d => (meets d).toList.map (rotationLock .noKeyUpdate)) (fun _ => accepts)
    (.database "integer out of range")
    (fun seen d =>
      match meets seen with
      | some e => d.setRotation e.rotation_id f
      | none => d)
    fun seen => (meets seen).map f

/-! ## On the floor and off it -/

structure SeatInput where
  actingUserLinkId : String
  rooftopId : String
  userLinkId : String

inductive RotationOutcome where
  | joined (entry : FloorRotation)
  | already_on_the_floor (entry : FloorRotation)
  | invalid (error : String)

/-- The row somebody who joins is given. -/
def newcomer (w : SalesWorld) (rooftopId userLinkId : String) (place : Nat) : FloorRotation where
  rotation_id := w.newId
  rooftop_id := rooftopId
  user_link_id := userLinkId
  position := place
  status := .available
  last_taken_at := none
  authorization_version := 1

/-- `joinFloorWithin`. -/
def joinFloor (w : SalesWorld) (input : SeatInput) : SalesWork RotationOutcome := do
  let actor ← actorOnFloor w input.actingUserLinkId
  if ¬ w.access.reaches actor input.rooftopId then
    pure (.invalid "you do not run the floor at that rooftop")
  else if ¬ w.access.reaches input.userLinkId input.rooftopId then
    pure (.invalid "that employee does not work this rooftop")
  else
    match ← Script.select (entryOf input.rooftopId input.userLinkId) with
    | some e => pure (.already_on_the_floor e)
    | none =>
      let place ← readBackOfLine input.rooftopId
      insertRotation (newcomer w input.rooftopId input.userLinkId place)
      pure (.joined (newcomer w input.rooftopId input.userLinkId place))

inductive ReleaseOutcome where
  | released (entry : FloorRotation)
  | not_found

/-- `status = 'available'`, one version on. -/
def FloorRotation.freed (e : FloorRotation) : FloorRotation :=
  { e with status := .available, authorization_version := e.authorization_version + 1 }

/-- Puts somebody back on the floor, whatever their status says. -/
def releaseToFloor (w : SalesWorld) (input : SeatInput) : SalesWork ReleaseOutcome := do
  let actor ← actorOnFloor w input.actingUserLinkId
  if ¬ w.access.reaches actor input.rooftopId then
    pure .not_found
  else
    match ← updateRotation (entryOf input.rooftopId input.userLinkId) true .freed with
    | none => pure .not_found
    | some e => pure (.released e)

/-- The entry of a person whom the floor has busy. -/
def busyEntry (rooftopId userLinkId : String) (d : Showroom) : Option FloorRotation :=
  (entryOf rooftopId userLinkId d).filter fun e => e.status = .with_customer

/-- `releaseWithin`: frees whoever was with a visit, if the floor still has them busy. -/
def release (rooftopId : String) (userLinkId : Option String) : SalesWork Unit :=
  match userLinkId with
  | none => pure ()
  | some userLinkId => do
    let _ ← updateRotation (busyEntry rooftopId userLinkId) true .freed
    pure ()

/-! ## Turns -/

/-- `status = 'with_customer'`, at the given place, one version on. -/
def FloorRotation.taken (now : Int) (place : Nat) (e : FloorRotation) : FloorRotation :=
  { e with
    status := .with_customer
    last_taken_at := some now
    position := place
    authorization_version := e.authorization_version + 1 }

/-- The statement both turns end with: busy, and to the back of the line. -/
def moveToBack (w : SalesWorld) (rooftopId rotationId : String) : SalesWork Unit := do
  let place ← readBackOfLine rooftopId
  let _ ← updateRotation (findRotation rotationId) (place ≤ maxInteger) (.taken w.now place)
  pure ()

/-- Who is free at a rooftop, by place. -/
def upList (rooftopId : String) (d : Showroom) : List FloorRotation :=
  (d.floor_rotations.filter fun e => e.rooftop_id = rooftopId && e.status = .available).insertionSort
    fun e f => e.position ≤ f.position

/-- `FOR UPDATE SKIP LOCKED` down a list: each entry is locked and looked at again, and
whoever is no longer free is passed over. -/
def lockFirstFree (rooftopId : String) : List FloorRotation → SalesWork (Option FloorRotation)
  | [] => pure none
  | e :: rest => do
    match ← Script.selectLocking (fun _ => [rotationLock .forUpdate e]) fun d =>
        (findRotation e.rotation_id d).filter fun f =>
          f.rooftop_id = rooftopId && f.status = .available with
    | some f => pure (some f)
    | none => lockFirstFree rooftopId rest

/-- `takeNextTurnWithin`, where the entries in `locked` are skipped. -/
def takeNextTurn (w : SalesWorld) (locked : List String) (rooftopId : String) :
    SalesWork (Option String) := do
  let candidates ← Script.select (upList rooftopId)
  match ← lockFirstFree rooftopId (candidates.filter fun e => e.rotation_id ∉ locked) with
  | none => pure none
  | some e =>
    moveToBack w rooftopId e.rotation_id
    pure (some e.user_link_id)

inductive NamedTurn where
  | claimed | absent | busy

/-- `claimNamedTurnWithin`. -/
def claimNamedTurn (w : SalesWorld) (rooftopId userLinkId : String) : SalesWork NamedTurn := do
  match ← Script.selectLocking
      (fun d => (entryOf rooftopId userLinkId d).toList.map (rotationLock .forUpdate))
      (entryOf rooftopId userLinkId) with
  | none => pure .absent
  | some e =>
    if e.status ≠ .available then pure .busy
    else
      moveToBack w rooftopId e.rotation_id
      pure .claimed

end Dealership.Sales
