import Dealership.Service.Estimates
import Dealership.Library.Since

/-!
# What a commit does to the books

The calls of the service department, and for each what a commit of it does to the repair
orders, their lines, estimates, authorizations and events, and to the step-up grants.
Whatever concerns a repair order that exists is done under its lock, except to its lines:
those are added under a weaker one and edited under their own.
-/

namespace Dealership.Service

open Library
open Inventory (LotLock)
open Policy (ReauthenticationGrant)

/-! ## Calls -/

inductive ServiceCall where
  | createRO (w : ServiceWorld) (input : ROInput)
  | checkIn (w : ServiceWorld) (appointmentId : String) (odometer : Option Rat)
  | addLineItem (w : ServiceWorld) (roId : String) (input : LineInput)
  | updateLineItem (w : ServiceWorld) (roId lineItemId : String) (updates : LineUpdates)
  | dispatchTech (w : ServiceWorld) (input : DispatchInput)
  | startMPISession (w : ServiceWorld) (roId templateId techUserId : String)
  | generateEstimate (w : ServiceWorld) (roId : String) (languageMode : Option String)
  | sendEstimate (w : ServiceWorld) (roId estimateId : String)
  | recordAuthorization (w : ServiceWorld) (roId : String) (input : AuthorizationInput)
  | transitionRO (w : ServiceWorld) (roId : String) (target : ROStatus) (input : TransitionInput)
  | createComebackCase (w : ServiceWorld) (input : ComebackInput)

/-- A call as a transaction; what it answers is not looked at. -/
def ServiceCall.program : ServiceCall → ServiceWork Unit
  | .createRO w input => Service.createRO w input >>= fun _ => pure ()
  | .checkIn w appointmentId odometer =>
    Service.checkIn w appointmentId odometer >>= fun _ => pure ()
  | .addLineItem w roId input => Service.addLineItem w roId input >>= fun _ => pure ()
  | .updateLineItem w roId lineItemId updates =>
    Service.updateLineItem w roId lineItemId updates >>= fun _ => pure ()
  | .dispatchTech w input => Service.dispatchTech w input >>= fun _ => pure ()
  | .startMPISession w roId templateId techUserId =>
    Service.startMPISession w roId templateId techUserId >>= fun _ => pure ()
  | .generateEstimate w roId languageMode =>
    Service.generateEstimate w roId languageMode >>= fun _ => pure ()
  | .sendEstimate w roId estimateId => Service.sendEstimate w roId estimateId >>= fun _ => pure ()
  | .recordAuthorization w roId input =>
    Service.recordAuthorization w roId input >>= fun _ => pure ()
  | .transitionRO w roId target input =>
    Service.transitionRO w roId target input >>= fun _ => pure ()
  | .createComebackCase w input => Service.createComebackCase w input >>= fun _ => pure ()

abbrev ServiceServer := Server ServiceCall Shop LotLock ServiceError Unit

abbrev ServiceEnding := Ending ServiceCall Shop ServiceError Unit

/-! ## Moves -/

/-- Two states with the same orders, lines, estimates, authorizations, events and grants. -/
structure SameBooks (d d' : Shop) : Prop where
  tenant : d'.tenant_id = d.tenant_id
  orders : d'.repair_orders = d.repair_orders
  lines : d'.ro_line_items = d.ro_line_items
  estimates : d'.ro_estimates = d.ro_estimates
  authorizations : d'.ro_authorizations = d.ro_authorizations
  events : d'.ro_events = d.ro_events
  grants : d'.grants = d.grants

theorem SameBooks.refl (d : Shop) : SameBooks d d := ⟨rfl, rfl, rfl, rfl, rfl, rfl, rfl⟩

theorem SameBooks.trans {a b c : Shop} (hab : SameBooks a b) (hbc : SameBooks b c) :
    SameBooks a c where
  tenant := hbc.tenant.trans hab.tenant
  orders := hbc.orders.trans hab.orders
  lines := hbc.lines.trans hab.lines
  estimates := hbc.estimates.trans hab.estimates
  authorizations := hbc.authorizations.trans hab.authorizations
  events := hbc.events.trans hab.events
  grants := hbc.grants.trans hab.grants

theorem writes_syncQueueForRO (w : ServiceWorld) (ro : RepairOrder) :
    (syncQueueForRO w ro).Writes SameBooks :=
  syncQueueForRO_writes SameBooks.refl (fun _ _ => ⟨rfl, rfl, rfl, rfl, rfl, rfl, rfl⟩) w ro

theorem writes_convertOffers (w : ServiceWorld) (appointmentId roId : String) :
    (convertOffers w appointmentId roId).Writes SameBooks :=
  writes_execute (fun _ _ => ⟨rfl, rfl, rfl, rfl, rfl, rfl, rfl⟩) _ _ _ _

def Shop.moved (d : Shop) (r : RepairOrder) (sources : List ROStatus) (target : ROStatus) : Shop :=
  if r.status ∈ sources then d.setStatus r.ro_id target else d

def Shop.spend (d : Shop) (grantId : String) (now : Int) : Shop :=
  { d with
    grants := updateWhere (fun g => g.grantId = grantId)
      (fun g => { g with consumedAt := some now }) d.grants }

inductive Pays (held : List LotLock) (w : ServiceWorld) (action roId token : String) (d : Shop) :
    Shop → Prop
  | spends {g : ReauthenticationGrant}
      (lock : .row "reauthentication_grants" g.grantId .noKeyUpdate ∈ held)
      (found : g ∈ d.grants) (pays : grantPays w d.tenant_id action roId token g = true) :
      Pays held w action roId token d (d.spend g.grantId w.now)

def quotedAs (estimateId : String) (l : LineItem) : LineItem :=
  { l with authorization_status := .pending, estimate_id := some estimateId }

def unasked (l : LineItem) : LineItem := { l with authorization_status := .not_required }

def assignedTo (techUserId : String) (l : LineItem) : LineItem :=
  { l with assigned_tech_user_id := some techUserId }

/-- The lock a transaction holds on a repair order it works on. -/
def orderLock (roId : String) : LotLock := .row "repair_orders" roId .forUpdate

/-- The events an order is opened with, by the status it is opened in. -/
def opensWith : ROStatus → ROEventType → Bool
  | .draft, .created => true
  | .checked_in, .created_from_appointment _ => true
  | _, _ => false

/-- What a commit that held `held` did to the books; `tidy` says that lines were looked
after while it was under way. -/
inductive ServiceMoves (tidy : Prop) (held : List LotLock) :
    ServiceCall → Shop → Shop → Prop where
  | stays {c : ServiceCall} {d d' : Shop} (same : SameBooks d d') :
      ServiceMoves tidy held c d d'
  | opens {c : ServiceCall} {r : RepairOrder} {event : ROEventType} {userId : String}
      {d d' : Shop} (key : .index "repair_orders_pkey" r.ro_id ∈ held)
      (fresh : ∀ s ∈ d.repair_orders, s.ro_id ≠ r.ro_id)
      (status : opensWith r.status event = true)
      (same : SameBooks (Shop.tell { d with repair_orders := d.repair_orders ++ [r] } r.ro_id
        event userId) d') :
      ServiceMoves tidy held c d d'
  | adds {w : ServiceWorld} {input : LineInput} {l : LineItem} {d d' : Shop}
      (order : .row "repair_orders" l.ro_id .keyShare ∈ held)
      (key : .index "ro_line_items_pkey" l.line_item_id ∈ held)
      (fresh : ∀ m ∈ d.ro_line_items, m.line_item_id ≠ l.line_item_id)
      (same : SameBooks { d with ro_line_items := d.ro_line_items ++ [l] } d') :
      ServiceMoves tidy held (.addLineItem w l.ro_id input) d d'
  | edits {w : ServiceWorld} {l : LineItem} {updates : LineUpdates} {d d' : Shop}
      (lock : .row "ro_line_items" l.line_item_id .noKeyUpdate ∈ held)
      (found : l ∈ d.ro_line_items)
      (same : SameBooks (d.setLines [l.line_item_id] (updates.apply w.supervises)) d') :
      ServiceMoves tidy held (.updateLineItem w l.ro_id l.line_item_id updates) d d'
  | dispatches {c : ServiceCall} {lineItemId techUserId : String} {d d' : Shop}
      (lock : .row "ro_line_items" lineItemId .noKeyUpdate ∈ held)
      (same : SameBooks (d.setLines [lineItemId] (assignedTo techUserId)) d') :
      ServiceMoves tidy held c d d'
  | inspects {c : ServiceCall} {r : RepairOrder} {sessionId userId : String} {d d' : Shop}
      (lock : orderLock r.ro_id ∈ held) (found : r ∈ d.repair_orders)
      (status : r.status ∈ [.checked_in, .inspection_in_progress])
      (same : SameBooks ((d.moved r [.checked_in] .inspection_in_progress).tell r.ro_id
        (.mpi_started sessionId) userId) d') :
      ServiceMoves tidy held c d d'
  | quotes {c : ServiceCall} {r : RepairOrder} {e : Estimate} {ids : List String}
      {userId : String} {d d' : Shop} (lock : orderLock r.ro_id ∈ held)
      (found : r ∈ d.repair_orders) (status : r.status ∈ quotable)
      (key : .index "ro_estimates_pkey" e.estimate_id ∈ held)
      (fresh : ∀ f ∈ d.ro_estimates, f.estimate_id ≠ e.estimate_id)
      (order : e.ro_id = r.ro_id) (draft : e.status = .draft)
      (locked : ∀ id ∈ ids, .row "ro_line_items" id .noKeyUpdate ∈ held)
      (lines : ∀ l ∈ d.ro_line_items, l.line_item_id ∈ ids → l.ro_id = r.ro_id)
      (same : SameBooks (((Shop.setLines { d with ro_estimates := d.ro_estimates ++ [e] } ids
        (quotedAs e.estimate_id)).moved r [.inspection_in_progress, .checked_in]
          .estimate_pending).tell r.ro_id (.estimate_generated e.estimate_id e.version) userId)
        d') :
      ServiceMoves tidy held c d d'
  | sends {c : ServiceCall} {r : RepairOrder} {e : Estimate} {userId : String} {d d' : Shop}
      (lock : orderLock r.ro_id ∈ held) (found : r ∈ d.repair_orders)
      (estimate : e ∈ d.ro_estimates) (order : e.ro_id = r.ro_id) (draft : e.status = .draft)
      (same : SameBooks (((d.setEstimates [e.estimate_id] .sent).moved r [.estimate_pending]
        .awaiting_authorization).tell r.ro_id (.estimate_sent e.estimate_id) userId) d') :
      ServiceMoves tidy held c d d'
  | decides {c : ServiceCall} {r : RepairOrder} {e : Estimate} {a : ROAuthorization}
      {approved declined : List String} {status : EstimateStatus} {n m : Nat}
      {userId : String} {d paid d' : Shop}
      (lock : orderLock r.ro_id ∈ held) (found : r ∈ d.repair_orders)
      (payment : paid = d ∨ ∃ w action token, Pays held w action r.ro_id token d paid)
      (estimate : e ∈ d.ro_estimates) (order : e.ro_id = r.ro_id)
      (answerable : e.status = .sent ∨ e.status = .partially_approved)
      (status_ne : status ≠ .expired)
      (key : .index "ro_authorizations_pkey" a.authorization_id ∈ held)
      (fresh : ∀ b ∈ d.ro_authorizations, b.authorization_id ≠ a.authorization_id)
      (answers : a.ro_id = r.ro_id ∧ a.estimate_id = e.estimate_id)
      (locked : ∀ id ∈ approved ++ declined, .row "ro_line_items" id .noKeyUpdate ∈ held)
      (same : SameBooks ((((Shop.setLines { paid with
          ro_authorizations := paid.ro_authorizations ++ [a] } approved
            (markApproved a.authorization_id)).setLines declined
              (markDeclined a.authorization_id)).setEstimates [e.estimate_id] status).tell r.ro_id
        (.authorization_received a.authorization_id a.method a.status n m) userId) d') :
      ServiceMoves tidy held c d d'
  | transitions {w : ServiceWorld} {r : RepairOrder} {target : ROStatus}
      {input : TransitionInput} {quotes lines : List String} {d paid d' : Shop}
      (lock : orderLock r.ro_id ∈ held) (found : r ∈ d.repair_orders)
      (allowed : isTransitionAllowed r.status target = true)
      (payment : if transitionRequiresStepUp target = true then
        Pays held w (transitionAction target) r.ro_id (input.step_up_token.getD "") d paid
        else paid = d)
      (gates : tidy → target = .ready_for_pickup → ∀ l ∈ d.ro_line_items, l.ro_id = r.ro_id →
        l.isOpen = false ∧ l.undecided = false)
      (evidence : target = .authorized → evidenceOf r.ro_id d ≠ [])
      (withdrawn : ∀ e ∈ d.ro_estimates, e.estimate_id ∈ quotes →
        e.ro_id = r.ro_id ∧ target = .estimate_pending)
      (locked : ∀ id ∈ lines, .row "ro_line_items" id .noKeyUpdate ∈ held)
      (taken : ∀ l ∈ d.ro_line_items, l.line_item_id ∈ lines →
        l.ro_id = r.ro_id ∧ target = .estimate_pending)
      (same : SameBooks ((((paid.setStatus r.ro_id target).setEstimates quotes .expired).setLines
        lines unasked).tell r.ro_id (.status_changed r.status target input.reason) w.userId) d') :
      ServiceMoves tidy held (.transitionRO w r.ro_id target input) d d'
  | returns {c : ServiceCall} {r s : RepairOrder} {caseId userId : String} {d d' : Shop}
      (lock : orderLock r.ro_id ∈ held) (found : r ∈ d.repair_orders)
      (status : r.status = .closed) (other : orderLock s.ro_id ∈ held)
      (known : s ∈ d.repair_orders)
      (same : SameBooks (((d.setStatus r.ro_id .comeback).tell r.ro_id
        (.comeback_opened caseId s.ro_id) userId).tell s.ro_id
          (.comeback_linked caseId r.ro_id) userId) d') :
      ServiceMoves tidy held c d d'

end Dealership.Service
