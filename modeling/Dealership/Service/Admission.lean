import Dealership.Service.Schema

/-!
# The door of the service department

A request names an action.  The policy engine decides it at the rooftop of the row the route
names; whoever is let in carries the names of the roles they hold anywhere in the tenant, and
the handlers read no more than these names.
-/

namespace Dealership.Service

open Policy
open List

variable {db : Tables} {now : Int}

/-- What authentication has established of the caller. -/
structure RequestIdentity where
  userLinkId : String
  actorScope : ActorScope
  tenantId : Option String
  sessionId : Option String

structure ApiRequest where
  identity : RequestIdentity
  /-- `x-target-tenant`. -/
  targetTenantHeader : Option String
  /-- The parameters of the route. -/
  params : List (String × String)
  /-- `location_id` of the body, or else of the query. -/
  location : Option String

/-- `req.tenantContext`. -/
structure TenantContext where
  tenantId : Option String
  userId : String
  roles : List String
deriving DecidableEq

inductive DoorRefusal where
  /-- `Resource not found`. -/
  | notFound
  /-- `Your role may not perform this action`. -/
  | forbidden
  /-- The decision could not be stored. -/
  | notStored (rule : String)
deriving DecidableEq

/-- `RESOURCE_PARAMS`. -/
def resourceParams : List (String × String) :=
  [("service_appointment", "appointmentId"), ("repair_order", "roId"),
    ("mpi_session", "mpiSessionId"), ("service_queue_item", "queueItemId"),
    ("ro_parts_line", "partLineId"), ("service_portal_task", "portalTaskId"),
    ("ro_sublet_job", "subletJobId"), ("tech_work_ticket", "ticketId"),
    ("service_waitlist_entry", "waitlistEntryId"), ("comeback_case", "comebackId"),
    ("ro_line_item", "lineItemId"), ("stock_item", "stockItemId"), ("stock_listing", "listingId"),
    ("lead", "leadId"), ("appointment", "appointmentId"), ("campaign", "campaignId"),
    ("opportunity", "opportunityId"), ("showroom_visit", "visitId"),
    ("demonstration", "demonstrationId"), ("desking_case", "deskingCaseId"),
    ("appraisal", "appraisalId"), ("desking_scenario", "scenarioId"), ("deal_jacket", "jacketId"),
    ("jacket_package", "packageId"), ("signing_ceremony", "ceremonyId")]

/-- A platform actor names the tenant; a dealership actor's is their own. -/
def ApiRequest.target (req : ApiRequest) : Option String :=
  match req.identity.actorScope with
  | .dealership => req.identity.tenantId
  | .platform =>
    match req.targetTenantHeader with
    | some named => if isUuid named then some named else req.identity.tenantId
    | none => req.identity.tenantId

/-- The resource the route names, when the action declares one. -/
def ApiRequest.resource (req : ApiRequest) (d : Option ActionDefinition) :
    Except DoorRefusal (Option ResourceRef) :=
  match d.bind ActionDefinition.resourceType with
  | none => pure none
  | some type =>
    match (resourceParams.lookup type).bind fun param => req.params.lookup param with
    | none => pure none
    | some id => if isUuid id then pure (some ⟨type, id⟩) else throw .notFound

/-- Where an action without a resource lands, when the request says so. -/
def ApiRequest.scopeHint (req : ApiRequest) (d : Option ActionDefinition) :
    Option OrganizationNodeRef :=
  if d.any fun def' => def'.resourceType = none then
    (req.location.filter fun named => isUuid named).map fun named => ⟨.rooftop, named⟩
  else none

/-- The rows of `rolesForUserLink`: bindings in force, held in the tenant. -/
def tenantBindings (db : Tables) (now : Int) (userLinkId : String) (tenantId : Option String) :
    List RoleBinding :=
  db.roleBindings.filter fun rb =>
    rb.userLinkId = userLinkId && rb.effective now && rb.tenantId = tenantId

/-- `SELECT DISTINCT rb.role … ORDER BY rb.role`. -/
def rolesForUserLink (db : Tables) (now : Int) (userLinkId : String) (tenantId : Option String) :
    List String :=
  ((tenantBindings db now userLinkId tenantId).map RoleBinding.role).eraseDups.insertionSort (· ≤ ·)

/-- The question the door puts to the engine. -/
def ApiRequest.question (req : ApiRequest) (action : String) (d : Option ActionDefinition)
    (resource : Option ResourceRef) : PolicyInput where
  actor := ⟨req.identity.userLinkId, req.identity.actorScope, req.identity.tenantId⟩
  action := action
  targetTenantId := req.target
  resource := resource
  scopeHint := req.scopeHint d
  supportRequestId := none
  sessionId := req.identity.sessionId

/-- `requireActionAsync`. -/
def requireAction (engine : PolicyEngine) (db : Tables) (now : Int) (ids : EvidenceIds)
    (action : String) (req : ApiRequest) : Except DoorRefusal TenantContext := do
  let d := engine.catalog.get action
  let resource ← req.resource d
  match engine.decide db now ids (req.question action d resource) with
  | .error rule => throw (.notStored rule)
  | .ok (result, _) =>
    if result.decision = .allow then
      pure {
        tenantId := req.target
        userId := req.identity.userLinkId
        roles := rolesForUserLink db now req.identity.userLinkId req.target }
    else if result.resourceVisible then throw .forbidden
    else throw .notFound

/-! ## What the handlers read -/

/-- `ROLES`, as far as the service department tells them apart. -/
def roleOf (name : String) : Role :=
  if name = "service_advisor" then .service_advisor
  else if name = "service_manager" then .service_manager
  else .other name

/-- The caller as a handler sees them; the instant and the ids are drawn for the call. -/
def TenantContext.world (ctx : TenantContext) (w : ServiceWorld) : ServiceWorld :=
  { w with
    userId := ctx.userId
    roles := ctx.roles.map roleOf }

/-! ## Read off -/

theorem mem_tenantBindings {userLinkId : String} {tenantId : Option String} {rb : RoleBinding} :
    rb ∈ tenantBindings db now userLinkId tenantId ↔ rb ∈ db.roleBindings ∧
      rb.userLinkId = userLinkId ∧ rb.effective now = true ∧ rb.tenantId = tenantId := by
  simp [tenantBindings, and_assoc]

theorem mem_rolesForUserLink {userLinkId : String} {tenantId : Option String} {role : String} :
    role ∈ rolesForUserLink db now userLinkId tenantId ↔
      ∃ rb ∈ tenantBindings db now userLinkId tenantId, rb.role = role := by
  simp [rolesForUserLink, mem_insertionSort, mem_eraseDups]

theorem requireAction_eq_ok {engine : PolicyEngine} {ids : EvidenceIds} {action : String}
    {req : ApiRequest} {ctx : TenantContext}
    (h : requireAction engine db now ids action req = .ok ctx) :
    ctx = ⟨req.target, req.identity.userLinkId,
      rolesForUserLink db now req.identity.userLinkId req.target⟩ := by
  unfold requireAction at h
  obtain ⟨resource, -, h⟩ := Library.bind_eq_ok.mp h
  split at h
  · cases h
  split at h
  · cases h
    rfl
  split at h
  · cases h
  · cases h

end Dealership.Service
