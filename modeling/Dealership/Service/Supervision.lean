import Dealership.Policy.Decisions
import Dealership.Service.Admission
import Dealership.Service.Inspections
import Dealership.Service.Tickets
import Dealership.Service.Queue

/-!
# Who supervises where

Six calls of the shop floor ask twice who the caller is: the door decides at the rooftop of the
row acted on, and the handler looks whether an advisor's or a manager's role is among those
the caller holds anywhere in the tenant.  The two agree unless every such role of the caller is
held at a node the rooftop does not lie under.
-/

namespace Dealership.Service

open Library List
open Policy
open Inventory (LotLock)

variable {userLinkId : String} {db : Tables} {now : Int}

/-! ## The calls -/

inductive FloorCall where
  | updateLineItem (roId lineItemId : String) (updates : LineUpdates)
  | recordMPIResult (mpiSessionId : String) (input : ResultInput)
  | submitMPISession (draw : Nat → String) (mpiSessionId : String)
  | updateTicketStatus (ticketId : String) (input : TicketInput)
  | recordTimeEntry (ticketId : String) (input : TimeEntryInput)
  | updateServiceQueueItemStatus (queueItemId : String) (input : QueueStatusInput)

namespace FloorCall

/-- `TECH_UP`. -/
def allowedRoles : List String := ["service_advisor", "service_manager", "service_technician"]

/-- The entry of the call in `SERVICE_ACTION_DEFINITIONS`. -/
def definition : FloorCall → ActionDefinition
  | updateLineItem .. =>
    ⟨"service.ro.line_item.update", some "ro_line_item", allowedRoles, none, none⟩
  | recordMPIResult .. =>
    ⟨"service.mpi.record_results", some "mpi_session", allowedRoles, none, none⟩
  | submitMPISession .. => ⟨"service.mpi.submit", some "mpi_session", allowedRoles, none, none⟩
  | updateTicketStatus .. =>
    ⟨"service.tech.ticket_status", some "tech_work_ticket", allowedRoles, none, none⟩
  | recordTimeEntry .. =>
    ⟨"service.tech.ticket_time", some "tech_work_ticket", allowedRoles, none, none⟩
  | updateServiceQueueItemStatus .. =>
    ⟨"service.queue.update_status", some "service_queue_item", allowedRoles, none, none⟩

def row : FloorCall → ResourceRef
  | updateLineItem _ lineItemId _ => ⟨"ro_line_item", lineItemId⟩
  | recordMPIResult mpiSessionId _ => ⟨"mpi_session", mpiSessionId⟩
  | submitMPISession _ mpiSessionId => ⟨"mpi_session", mpiSessionId⟩
  | updateTicketStatus ticketId _ => ⟨"tech_work_ticket", ticketId⟩
  | recordTimeEntry ticketId _ => ⟨"tech_work_ticket", ticketId⟩
  | updateServiceQueueItemStatus queueItemId _ => ⟨"service_queue_item", queueItemId⟩

def params : FloorCall → List (String × String)
  | updateLineItem roId lineItemId _ => [("roId", roId), ("lineItemId", lineItemId)]
  | recordMPIResult mpiSessionId _ => [("mpiSessionId", mpiSessionId)]
  | submitMPISession _ mpiSessionId => [("mpiSessionId", mpiSessionId)]
  | updateTicketStatus ticketId _ => [("ticketId", ticketId)]
  | recordTimeEntry ticketId _ => [("ticketId", ticketId)]
  | updateServiceQueueItemStatus queueItemId _ => [("queueItemId", queueItemId)]

def program (w : ServiceWorld) : FloorCall → ServiceWork Unit
  | updateLineItem roId lineItemId updates =>
    Service.updateLineItem w roId lineItemId updates >>= fun _ => pure ()
  | recordMPIResult mpiSessionId input =>
    Service.recordMPIResult w mpiSessionId input >>= fun _ => pure ()
  | submitMPISession draw mpiSessionId =>
    Service.submitMPISession w draw mpiSessionId >>= fun _ => pure ()
  | updateTicketStatus ticketId input =>
    Service.updateTicketStatus w ticketId input >>= fun _ => pure ()
  | recordTimeEntry ticketId input =>
    Service.recordTimeEntry w ticketId input >>= fun _ => pure ()
  | updateServiceQueueItemStatus queueItemId input =>
    Service.updateServiceQueueItemStatus w queueItemId input >>= fun _ => pure ()

def request (c : FloorCall) (identity : RequestIdentity) (targetTenantHeader : Option String) :
    ApiRequest :=
  ⟨identity, targetTenantHeader, c.params, none⟩

def enter (c : FloorCall) (engine : PolicyEngine) (db : Tables) (now : Int) (ids : EvidenceIds)
    (identity : RequestIdentity) (targetTenantHeader : Option String) :
    Except DoorRefusal TenantContext :=
  requireAction engine db now ids c.definition.action (c.request identity targetTenantHeader)

def rooftop (c : FloorCall) (db : Tables) (tenantId : String) : Option String :=
  db.resourceOrgLeaf tenantId c.row.type c.row.id

end FloorCall

/-! ## The handlers read the roles once -/

theorem FloorCall.program_congr (c : FloorCall) {w v : ServiceWorld} (hid : v.userId = w.userId)
    (hnow : v.now = w.now) (hnew : v.newId = w.newId) (hsup : v.supervises = w.supervises) :
    c.program v = c.program w := by
  cases c with
  | updateLineItem roId lineItemId updates =>
    simp only [program, Service.updateLineItem, validateUpdates, requireUnfrozen, hid, hsup]
  | recordMPIResult mpiSessionId input =>
    simp only [program, Service.recordMPIResult, assertOwnMPISession, hid, hsup, hnew]
  | submitMPISession draw mpiSessionId =>
    simp only [program, Service.submitMPISession, assertOwnMPISession, recordROEvent, hid, hsup]
  | updateTicketStatus ticketId input =>
    simp only [program, Service.updateTicketStatus, assertOwnTicket, hid, hsup]
  | recordTimeEntry ticketId input =>
    simp only [program, Service.recordTimeEntry, assertOwnTicket, hid, hsup, hnow, hnew]
  | updateServiceQueueItemStatus queueItemId input =>
    simp only [program, Service.updateServiceQueueItemStatus, hid, hsup]

/-! ## Supervision -/

/-- The names of the roles that supervise. -/
def supervisory : List String := ["service_advisor", "service_manager"]

theorem roleOf_supervises {name : String} :
    roleOf name ∈ [Role.service_advisor, .service_manager] ↔ name ∈ supervisory := by
  unfold roleOf supervisory
  split
  · simp_all
  split
  · simp_all
  · simp_all

/-- An advisor's or a manager's binding of the person, in force in the tenant. -/
structure Supervisor (db : Tables) (now : Int) (userLinkId tenantId : String)
    (rb : RoleBinding) : Prop where
  held : rb ∈ tenantBindings db now userLinkId (some tenantId)
  role : rb.role ∈ supervisory

theorem supervises_iff {tenantId : String} (w : ServiceWorld) :
    (TenantContext.world ⟨some tenantId, userLinkId,
        rolesForUserLink db now userLinkId (some tenantId)⟩ w).supervises = true ↔
      ∃ rb, Supervisor db now userLinkId tenantId rb := by
  simp only [TenantContext.world, ServiceWorld.supervises, ServiceWorld.hasAnyRole,
    any_map, any_eq_true, Function.comp_apply, decide_eq_true_eq]
  constructor
  · rintro ⟨name, hname, hsup⟩
    obtain ⟨rb, hrb, rfl⟩ := mem_rolesForUserLink.mp hname
    exact ⟨rb, hrb, roleOf_supervises.mp hsup⟩
  · rintro ⟨rb, hrb, hrole⟩
    exact ⟨rb.role, mem_rolesForUserLink.mpr ⟨rb, hrb, rfl⟩, roleOf_supervises.mpr hrole⟩

/-- The node of a binding is the rooftop of the row acted on, or lies above it. -/
def CoversRow (db : Tables) (tenantId : String) (c : FloorCall) (rb : RoleBinding) : Prop :=
  ∃ leaf, c.rooftop db tenantId = some leaf ∧
    ReachesPlace db tenantId (some ⟨.rooftop, leaf⟩) rb.scopeLevel rb.scopeId

/-- The person supervises, and nowhere that the rooftop of the row lies under. -/
def SupervisesElsewhere (db : Tables) (now : Int) (userLinkId tenantId : String)
    (c : FloorCall) : Prop :=
  (∃ rb, Supervisor db now userLinkId tenantId rb) ∧
    ∀ rb, Supervisor db now userLinkId tenantId rb → ¬ CoversRow db tenantId c rb

def bound (db : Tables) (rb : RoleBinding) : Tables :=
  { db with roleBindings := db.roleBindings ++ [rb] }

/-- Whoever is taken for a supervisor supervises at the rooftop of the row; and what the call
does for them is what it does without any one binding they hold elsewhere. -/
structure SupervisesInPlace (engine : PolicyEngine) (db : Tables) (now : Int) (ids : EvidenceIds)
    (identity : RequestIdentity) (header : Option String) (c : FloorCall) (tenantId : String)
    (ctx : TenantContext) : Prop where
  covered : ∀ w, (ctx.world w).supervises = true →
    ∃ rb, Supervisor db now identity.userLinkId tenantId rb ∧ CoversRow db tenantId c rb
  unmoved : ∀ before rb ctx', db = bound before rb → ¬ CoversRow db tenantId c rb →
    c.enter engine before now ids identity header = .ok ctx' →
      ∀ w, c.program (ctx.world w) = c.program (ctx'.world w)

theorem tenantBindings_bound {tenantId : Option String} {b rb : RoleBinding}
    (h : rb ∈ tenantBindings (bound db b) now userLinkId tenantId) :
    rb ∈ tenantBindings db now userLinkId tenantId ∨ rb = b := by
  rw [mem_tenantBindings] at h
  obtain ⟨hmem, hrest⟩ := h
  rcases mem_inserted hmem with hmem | rfl
  · exact .inl (mem_tenantBindings.mpr ⟨hmem, hrest⟩)
  · exact .inr rfl

theorem mem_bound {tenantId : Option String} {b rb : RoleBinding}
    (h : rb ∈ tenantBindings db now userLinkId tenantId) :
    rb ∈ tenantBindings (bound db b) now userLinkId tenantId := by
  rw [mem_tenantBindings] at h ⊢
  exact ⟨mem_append_left _ h.1, h.2⟩

/-- **Supervising at one rooftop gives no supervision at another**, exactly for the callers who
do not supervise elsewhere only. -/
theorem supervises_in_place_iff {engine : PolicyEngine} {db : Tables} {now : Int}
    {ids : EvidenceIds} {identity : RequestIdentity} {header : Option String} {c : FloorCall}
    {tenantId : String} {ctx : TenantContext}
    (htarget : (c.request identity header).target = some tenantId)
    (h : c.enter engine db now ids identity header = .ok ctx) :
    SupervisesInPlace engine db now ids identity header c tenantId ctx ↔
      ¬ SupervisesElsewhere db now identity.userLinkId tenantId c := by
  obtain rfl := requireAction_eq_ok h
  rw [htarget]
  have hiff : ∀ w, (TenantContext.world ⟨some tenantId, identity.userLinkId,
      rolesForUserLink db now identity.userLinkId (some tenantId)⟩ w).supervises = true ↔
        ∃ rb, Supervisor db now identity.userLinkId tenantId rb := fun w => supervises_iff w
  constructor
  · rintro hplace ⟨hsome, hnone⟩
    obtain ⟨rb, hrb, hcovers⟩ := hplace.covered ⟨"", [], 0, "", "", fun s => s⟩ ((hiff _).mpr hsome)
    exact hnone rb hrb hcovers
  · intro hnot
    have hcovered : (∃ rb, Supervisor db now identity.userLinkId tenantId rb) →
        ∃ rb, Supervisor db now identity.userLinkId tenantId rb ∧ CoversRow db tenantId c rb := by
      intro hsome
      by_contra hnone
      exact hnot ⟨hsome, fun rb hrb hcovers => hnone ⟨rb, hrb, hcovers⟩⟩
    refine ⟨fun w hsup => hcovered ((hiff w).mp hsup), ?_⟩
    rintro before b ctx' rfl helsewhere hbefore w
    obtain rfl := requireAction_eq_ok hbefore
    rw [htarget]
    refine c.program_congr rfl rfl rfl (Bool.eq_iff_iff.mpr ?_)
    refine (hiff w).trans (Iff.trans ?_ (supervises_iff w).symm)
    constructor
    · intro hsome
      -- A binding that covers the row is not the one added.
      obtain ⟨rb, ⟨hheld, hrole⟩, hcovers⟩ := hcovered hsome
      rcases tenantBindings_bound hheld with hheld | rfl
      · exact ⟨rb, hheld, hrole⟩
      · exact absurd hcovers helsewhere
    · rintro ⟨rb, hheld, hrole⟩
      exact ⟨rb, mem_bound hheld, hrole⟩

/-! ## Two rooftops -/

namespace TwoRooftops

def always : EffectiveWindow := ⟨0, none⟩

def organization : Organization where
  tenants := [⟨"t", .active, always⟩]
  dealerGroups := [⟨"g", "t", .active, always⟩]
  legalEntities := [⟨"e", "t", "g", .active, always⟩]
  rooftops := [⟨"north", "t", "e", .active, always⟩, ⟨"south", "t", "e", .active, always⟩]
  departments := []

def order : String := "a0000000-0000-4000-8000-000000000001"

def line : String := "a0000000-0000-4000-8000-000000000002"

def binding (id role rooftop : String) : RoleBinding :=
  ⟨id, some "t", "pat", role, .rooftop, some rooftop, none, none, .active, always, 1⟩

/-- A tenant of two rooftops with a job at the southern one, and Pat, who is signed in. -/
def tables (bindings : List RoleBinding) : Tables where
  organization := organization
  userLinks := [⟨"pat", .dealership, some "t", .activated, always⟩]
  roleBindings := bindings
  identitySessions := [⟨"s1", "pat", 50, some "c", some "subject-1", 1000, none⟩]
  connections := [⟨"c", none, false, none, none, none⟩]
  supportRequests := []
  supportSessions := []
  resources := [⟨"ro_line_item", line, "t", "south"⟩]

def technician : RoleBinding := binding "b1" "service_technician" "south"

def advisor (rooftop : String) : RoleBinding := binding "b2" "service_advisor" rooftop

def policies : PolicyEngine where
  catalog := {
    list := [FloorCall.definition (.updateLineItem "" "" ⟨false, false, none, none, none⟩)]
    published := ⟨by decide, by decide, by decide, by decide⟩ }

def oneRequest : EvidenceIds :=
  ⟨"request-1", "correlation-1", Policy.OneRooftop.oneRequest.requestIdLength,
    Policy.OneRooftop.oneRequest.correlationIdLength⟩

def pat : RequestIdentity := ⟨"pat", .dealership, some "t", some "s1"⟩

/-- The job is to cost a dollar. -/
def reprice : FloorCall :=
  .updateLineItem order line ⟨false, false, none, none, some (.object ⟨.number 100, .absent⟩)⟩

/-- The job somebody else is on. -/
def shop : Shop :=
  { Shop.opening "t" [] [] [] [] with
    repair_orders := [⟨order, "south", none, "c", "v", .in_repair, none⟩]
    ro_line_items := [⟨line, order, .labor, none, "brakes", .proposed, .not_required, none, none,
      some "ann", none, none, none, none⟩] }

def world : ServiceWorld := ⟨"", [], 100, "", "", fun s => s⟩

/-- Whoever is let in, as the door describes them. -/
def letIn (roles : List String) : TenantContext := ⟨some "t", "pat", roles⟩

theorem north_not_over_south {c : FloorCall} (hrow : c.row = ⟨"ro_line_item", line⟩)
    (bindings : List RoleBinding) : ¬ CoversRow (tables bindings) "t" c (advisor "north") := by
  rintro ⟨leaf, hleaf, i, hi, habove⟩
  have hsouth : (tables bindings).resourceOrgLeaf "t" "ro_line_item" line = some "south" := rfl
  rw [FloorCall.rooftop, hrow, hsouth] at hleaf
  cases hleaf
  cases hi
  exact absurd (habove.eq_of_level (.self _) rfl) (by decide)

end TwoRooftops

open TwoRooftops in
/-- An advisor at the rooftop of the job supervises there. -/
theorem advisor_in_place :
    SupervisesInPlace policies (tables [advisor "south"]) 100 oneRequest pat none reprice "t"
      (letIn ["service_advisor"]) := by
  refine (supervises_in_place_iff (c := reprice) rfl (by decide +kernel)).mpr ?_
  rintro ⟨-, hnone⟩
  exact hnone (advisor "south") ⟨mem_cons_self, by decide⟩ ⟨"south", rfl, "south", rfl, .self _⟩

open TwoRooftops in
/-- A technician of the southern rooftop who advises at the northern one is let in to the
southern job, taken for its supervisor, and prices it. -/
theorem advisor_elsewhere_prices :
    reprice.enter policies (tables [technician, advisor "north"]) 100 oneRequest pat none =
        .ok (letIn ["service_advisor", "service_technician"]) ∧
      ((reprice.program ((letIn ["service_advisor", "service_technician"]).world world)).run
        shop).isOk = true ∧
      ((reprice.program ((letIn ["service_technician"]).world world)).run shop).isOk = false ∧
      ¬ SupervisesInPlace policies (tables [technician, advisor "north"]) 100 oneRequest pat none
        reprice "t" (letIn ["service_advisor", "service_technician"]) := by
  refine ⟨by decide +kernel, by decide +kernel, by decide +kernel, fun h => ?_⟩
  obtain ⟨rb, hrb, hcovers⟩ := h.covered world (by decide +kernel)
  obtain ⟨hmem, -⟩ := mem_tenantBindings.mp hrb.held
  rcases mem_cons.mp hmem with rfl | hmem
  · exact absurd hrb.role (by decide)
  · rw [mem_singleton.mp hmem] at hcovers
    exact north_not_over_south rfl _ hcovers

end Dealership.Service
