import Dealership.Library.Pick
import Dealership.Sales.Schema

/-!
# Opportunities

An opportunity is opened by receiving a lead the CRM has handed off, or by somebody who
walks in.  Afterwards it is accepted or assigned, and moved through its stages; on one
move it is handed to desking.
-/

namespace Dealership.Sales

open Library
open Inventory (LotLock StockItem readStockItem)

/-! ## Intake -/

def receivedFrom (handoffId : String) (d : Showroom) : Option Opportunity :=
  d.opportunities.find? fun o => o.handoff_id = some handoffId

/-- `stage NOT IN ('ready_for_desking', 'lost')`, for a customer at a rooftop. -/
def Opportunity.openFor (rooftopId partyId : String) (o : Opportunity) : Bool :=
  o.rooftop_id = rooftopId && o.party_id = partyId && ! o.stage.terminal

def openFile (rooftopId partyId : String) (d : Showroom) : Option Opportunity :=
  d.opportunities.find? (·.openFor rooftopId partyId)

/-- The entry of `uq_opportunities_open_per_party`. -/
def openEntry (rooftopId partyId : String) : LotLock :=
  .index "uq_opportunities_open_per_party" (rooftopId ++ ":" ++ partyId)

/-- The entry of `UNIQUE (tenant_id, handoff_id)`. -/
def handoffEntry (handoffId : String) : LotLock := .index "opportunities_handoff_id_key" handoffId

def opportunityEntry (opportunityId : String) : LotLock := .index "opportunities_pkey" opportunityId

def Opportunity.entries (o : Opportunity) : List LotLock :=
  opportunityEntry o.opportunity_id :: openEntry o.rooftop_id o.party_id ::
    o.handoff_id.toList.map handoffEntry

/-- Neither the id of the row nor, while it is open, its customer at its rooftop is taken. -/
def Opportunity.fits (o : Opportunity) (d : Showroom) : Bool :=
  d.opportunities.all fun p =>
    p.opportunity_id ≠ o.opportunity_id && ! p.openFor o.rooftop_id o.party_id

/-- `INSERT INTO opportunities`, of an open row. -/
def insertOpportunity (o : Opportunity) : SalesWork Unit :=
  Script.execute (fun _ => o.entries) o.fits (.database "uq_opportunities_open_per_party")
    (fun _ d => { d with opportunities := d.opportunities ++ [o] }) fun _ => ()

/-- `INSERT INTO opportunities … ON CONFLICT (tenant_id, handoff_id) DO NOTHING`: under a
handoff that is taken nothing is written, any other key that is taken refuses the row. -/
def insertReceived (handoffId : String) (o : Opportunity) : SalesWork (Option Opportunity) :=
  Script.execute (fun _ => o.entries) (fun d => (receivedFrom handoffId d).isSome || o.fits d)
    (.database "uq_opportunities_open_per_party")
    (fun seen d => if (receivedFrom handoffId seen).isSome then d
      else { d with opportunities := d.opportunities ++ [o] })
    fun seen => if (receivedFrom handoffId seen).isSome then none else some o

def OpportunityAssignment.valid (a : OpportunityAssignment) : Bool :=
  (a.note.all fun n => n.length ≤ 500) && a.from_user_link_id ≠ some a.to_user_link_id

/-- `INSERT INTO opportunity_assignments`. -/
def assignmentRow (a : OpportunityAssignment) : SalesWork Unit :=
  Script.execute (fun _ => []) (fun _ => a.valid) (.database "opportunity_assignments_check")
    (fun _ d => { d with opportunity_assignments := d.opportunity_assignments ++ [a] }) fun _ => ()

structure ReceiveInput where
  actingUserLinkId : String
  handoffId : String

inductive ReceiveOutcome where
  | received (opportunity : Opportunity)
  | already_received (opportunity : Opportunity)
  | not_found
  | invalid (error : String)

def intakeKey (handoffId : String) : LotLock := .advisory ("sales.intake.handoff:" ++ handoffId)

/-- `lead_handoffs` joined with its lead. -/
def seam (handoffId : String) (d : Showroom) : Option (Crm.LeadHandoff × Crm.LeadState) :=
  (d.lead_handoffs.find? fun h => h.handoff_id = handoffId).bind fun h =>
    (d.leads.find? fun l => l.lead_id = h.lead_id).map fun l => (h, l.lifecycle_state)

/-- The appointment a customer is still expected on, soonest first. -/
def expectedAppointment (leadId : String) (d : Showroom) : Option String :=
  (best (fun a b : Crm.Appointment => a.starts_at < b.starts_at) (d.appointments.filter fun a =>
    a.lead_id = leadId && (a.state = .scheduled || a.state = .confirmed))).map (·.appointment_id)

/-- One owner, established at receipt where that is possible. -/
def establishedOwner (w : SalesWorld) (actor : String) (h : Crm.LeadHandoff) : Option String :=
  if w.access.reaches h.handed_to_user_link_id h.handed_snapshot.rooftop_id then
    some h.handed_to_user_link_id
  else if w.access.reaches actor h.handed_snapshot.rooftop_id then some actor
  else none

/-- The row a receipt inserts, from the frozen snapshot. -/
def receivedOpportunity (w : SalesWorld) (actor handoffId : String) (h : Crm.LeadHandoff)
    (appointmentId : Option String) : Opportunity where
  opportunity_id := w.newId
  rooftop_id := h.handed_snapshot.rooftop_id
  party_id := h.handed_snapshot.party_id
  origin := .crm_handoff
  handoff_id := some handoffId
  lead_id := some h.handed_snapshot.lead_id
  appointment_id := appointmentId
  interest_stock_item_id := h.handed_snapshot.interest_stock_item_id
  owner_user_link_id := establishedOwner w actor h
  stage := .received
  disposition := none
  desking_ready_at := none
  lost_at := none
  authorization_version := 1

/-- `receiveHandoffWithin`.  The CRM writes the snapshot whole, so it is never incomplete. -/
def receiveHandoff (w : SalesWorld) (input : ReceiveInput) : SalesWork ReceiveOutcome := do
  let actor ← actorOnFloor w input.actingUserLinkId
  Script.selectLocking (fun _ => [intakeKey input.handoffId]) fun _ => ()
  match ← Script.select (receivedFrom input.handoffId) with
  | some o => pure (.already_received o)
  | none =>
    match ← Script.select (seam input.handoffId) with
    | none => pure .not_found
    | some (h, state) =>
      if state ≠ .handed_off then
        pure (.invalid "that lead is not handed off, so there is nothing for sales to receive")
      else
        let appointmentId ← Script.select (expectedAppointment h.handed_snapshot.lead_id)
        match ← insertReceived input.handoffId
            (receivedOpportunity w actor input.handoffId h appointmentId) with
        | none =>
          match ← Script.select (receivedFrom input.handoffId) with
          | some o => pure (.already_received o)
          | none => pure .not_found
        | some o =>
          match o.owner_user_link_id with
          | some owner =>
            assignmentRow ⟨o.opportunity_id, none, owner, .manual_assignment,
              some "established at receipt", actor⟩
            pure (.received o)
          | none => pure (.received o)

structure WalkInInput where
  actingUserLinkId : String
  rooftopId : String
  partyId : String
  interestStockItemId : Option String

inductive WalkInOutcome where
  | opened (opportunity : Opportunity)
  | already_open (opportunity : Opportunity)
  | not_found
  | invalid (error : String)

def walkInKey (rooftopId partyId : String) : LotLock :=
  .advisory ("sales.intake.walkin:" ++ rooftopId ++ ":" ++ partyId)

def walkInOpportunity (w : SalesWorld) (actor : String) (input : WalkInInput) : Opportunity where
  opportunity_id := w.newId
  rooftop_id := input.rooftopId
  party_id := input.partyId
  origin := .walk_in
  handoff_id := none
  lead_id := none
  appointment_id := none
  interest_stock_item_id := input.interestStockItemId
  owner_user_link_id := some actor
  stage := .received
  disposition := none
  desking_ready_at := none
  lost_at := none
  authorization_version := 1

/-- What refuses a walk-in once no file is open: the customer, then the car named at the door. -/
def refuseParty (partyId : String) (d : Showroom) : Option WalkInOutcome :=
  match d.parties.find? fun p => p.party_id = partyId with
  | none => some .not_found
  | some p =>
    if p.status ≠ .active then
      some (.invalid "that customer record is not active, so it is not the canonical one")
    else none

def refuseCar (rooftopId : String) (stockItemId : Option String) (d : Showroom) :
    Option WalkInOutcome :=
  match stockItemId with
  | none => none
  | some id =>
    match readStockItem id d.lot with
    | none => some .not_found
    | some i =>
      if i.rooftop_id ≠ rooftopId then some .not_found
      else if i.lifecycle_state = .retired then
        some (.invalid "that vehicle is no longer in stock")
      else none

/-- `openWalkInWithin`. -/
def openWalkIn (w : SalesWorld) (input : WalkInInput) : SalesWork WalkInOutcome := do
  let actor ← actorOnFloor w input.actingUserLinkId
  if ¬ w.access.reaches actor input.rooftopId then
    pure (.invalid "you do not work at that rooftop")
  else
    Script.selectLocking (fun _ => [walkInKey input.rooftopId input.partyId]) fun _ => ()
    match ← Script.select (openFile input.rooftopId input.partyId) with
    | some o => pure (.already_open o)
    | none =>
      match ← readRow "parties" input.partyId (refuseParty input.partyId) with
      | some refusal => pure refusal
      | none =>
        match ← Script.select (refuseCar input.rooftopId input.interestStockItemId) with
        | some refusal => pure refusal
        | none =>
          let o := walkInOpportunity w actor input
          insertOpportunity o
          assignmentRow ⟨o.opportunity_id, none, actor, .manual_assignment,
            some "took the walk-in", actor⟩
          pure (.opened o)

end Dealership.Sales
