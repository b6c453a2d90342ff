import Dealership.Policy.Organization

/-!
# The identity tables

The rows an authorization decision reads and the evidence it leaves is judged
against: user links, role bindings, local sessions and the connections behind
them, delegated support requests and sessions, and the register that says at
which rooftop a resource lives.

`Tables.Sound` is what the schema's own keys, checks and triggers promise of the
rows whoever wrote them; a `Database` is rows that keep it.  Identifiers are the
values of `uuid` columns in the text the database prints.
-/

namespace Dealership.Policy

/-! ## Rows -/

/-- `actor_scope`. -/
inductive ActorScope where
  | dealership
  | platform
deriving DecidableEq

inductive LinkStatus where
  | pending
  | activated
  | deactivated
deriving DecidableEq

structure UserLink where
  userLinkId : String
  actorScope : ActorScope
  tenantId : Option String
  status : LinkStatus
  window : EffectiveWindow
deriving DecidableEq

inductive BindingStatus where
  | active
  | revoked
deriving DecidableEq

structure RoleBinding where
  roleBindingId : String
  tenantId : Option String
  userLinkId : String
  role : String
  scopeLevel : ScopeLevel
  scopeId : Option String
  resourceType : Option String
  resourceId : Option String
  status : BindingStatus
  window : EffectiveWindow
  authorizationVersion : Nat
deriving DecidableEq

structure IdentitySession where
  sessionId : String
  userLinkId : String
  authTime : Int
  connectionId : Option String
  providerSubject : Option String
  expiresAt : Int
  revokedAt : Option Int

/-- The columns of `identity_provider_connections` a certification is about. -/
structure ProviderConnection where
  connectionId : String
  tenantId : Option String
  mfaPolicyCertified : Bool
  mfaPolicyCertifiedAt : Option Int
  mfaPolicyCertificationExpiresAt : Option Int
  mfaPolicyCertificationRevokedAt : Option Int
deriving DecidableEq

inductive RequestStatus where
  | pending
  | approved
  | denied
  | cancelled
  | expired
deriving DecidableEq

structure SupportAccessRequest where
  requestId : String
  tenantId : String
  requesterUserLinkId : String
  requestedActions : List String
  scopeLevel : ScopeLevel
  scopeId : Option String
  requestedDurationMinutes : Nat
  status : RequestStatus
  decidedByUserLinkId : Option String
  decidedAt : Option Int

structure SupportAccessSession where
  supportSessionId : String
  requestId : String
  tenantId : String
  actorUserLinkId : String
  grantedAt : Int
  expiresAt : Int
  revokedAt : Option Int
  expiredAt : Option Int
deriving DecidableEq

/-- A row of one of the tables a protected resource lives in, with the rooftop it is
found at: its own `location_id` or `rooftop_id`, or that of the row it hangs off. -/
structure ResourceRow where
  resourceType : String
  resourceId : String
  tenantId : String
  locationId : String

structure Tables where
  organization : Organization
  userLinks : List UserLink
  roleBindings : List RoleBinding
  identitySessions : List IdentitySession
  connections : List ProviderConnection
  supportRequests : List SupportAccessRequest
  supportSessions : List SupportAccessSession
  resources : List ResourceRow

/-! ## Lookups -/

namespace Tables

variable (db : Tables)

def link (id : String) : Option UserLink := db.userLinks.find? fun r => r.userLinkId = id

def binding (id : String) : Option RoleBinding :=
  db.roleBindings.find? fun r => r.roleBindingId = id

def session (id : String) : Option IdentitySession :=
  db.identitySessions.find? fun r => r.sessionId = id

def connection (id : String) : Option ProviderConnection :=
  db.connections.find? fun r => r.connectionId = id

def supportRequest (id : String) : Option SupportAccessRequest :=
  db.supportRequests.find? fun r => r.requestId = id

def supportSession (id : String) : Option SupportAccessSession :=
  db.supportSessions.find? fun r => r.supportSessionId = id

end Tables

/-- The resource types `resource_org_leaf` has a branch for. -/
def registeredResources : List String :=
  ["service_appointment", "repair_order", "service_queue_item", "service_waitlist_entry",
    "mpi_session", "ro_line_item", "ro_parts_line", "ro_sublet_job", "service_portal_task",
    "tech_work_ticket", "warranty_claim", "comeback_case", "stock_item", "stock_listing",
    "lead", "appointment", "campaign", "opportunity", "showroom_visit", "demonstration",
    "desking_case", "appraisal", "desking_scenario", "deal_jacket", "jacket_package",
    "signing_ceremony"]

/-- `resource_org_leaf`, and `resource_org_leaf_visible` under the tenant's context: the
rooftop a resource of the tenant lives at.  An unknown type resolves to nothing. -/
def Tables.resourceOrgLeaf (db : Tables) (t type id : String) : Option String :=
  if type ∈ registeredResources then
    (db.resources.find? fun r =>
      r.resourceType = type ∧ r.tenantId = t ∧ r.resourceId = id).map ResourceRow.locationId
  else none

/-- `EFFECTIVE_ROLE_BINDING_SQL`. -/
def RoleBinding.effective (rb : RoleBinding) (now : Int) : Bool :=
  decide (rb.status = .active) && rb.window.covers now

/-- `ACTIVE_EFFECTIVE_TENANT_SQL`. -/
def Tenant.effective (t : Tenant) (now : Int) : Bool :=
  decide (t.status = .active) && t.window.covers now

/-- `EFFECTIVE_MFA_CERTIFICATION_SQL`. -/
def ProviderConnection.certified (c : ProviderConnection) (now : Int) : Bool :=
  c.mfaPolicyCertified && c.mfaPolicyCertifiedAt.isSome &&
    c.mfaPolicyCertificationRevokedAt.isNone &&
    c.mfaPolicyCertificationExpiresAt.any fun e => decide (now < e)

/-! ## What the schema promises -/

/-- The keys, checks and foreign keys of the identity tables, as far as a decision
rests on them. -/
structure Tables.Sound (db : Tables) : Prop where
  tenantKey : (db.organization.tenants.map Tenant.tenantId).Nodup
  bindingKey : (db.roleBindings.map RoleBinding.roleBindingId).Nodup
  supportSessionKey : (db.supportSessions.map SupportAccessSession.supportSessionId).Nodup
  sessionKey : (db.identitySessions.map IdentitySession.sessionId).Nodup
  /-- The `CHECK`s of 055 and 056 on a binding's columns. -/
  bindingPlatform : ∀ rb ∈ db.roleBindings, rb.scopeLevel = .platform ↔ rb.tenantId = none
  bindingScoped : ∀ rb ∈ db.roleBindings,
    rb.scopeId = none ↔ rb.scopeLevel = .platform ∨ rb.scopeLevel = .resource
  bindingVersion : ∀ rb ∈ db.roleBindings, 1 ≤ rb.authorizationVersion
  /-- A binding is somebody's, and a tenant's binding is somebody's in that tenant. -/
  bindingLink : ∀ rb ∈ db.roleBindings, ∃ ul, db.link rb.userLinkId = some ul ∧
    (rb.tenantId ≠ none → ul.tenantId = rb.tenantId)
  linkScope : ∀ ul ∈ db.userLinks, ul.actorScope = .dealership ↔ ul.tenantId ≠ none
  /-- A live session is fully bound, and its subject is its link's. -/
  sessionBound : ∀ s ∈ db.identitySessions, s.revokedAt = none →
    (∃ c, s.connectionId = some c ∧ (db.connection c).isSome = true) ∧
      ∃ p, s.providerSubject = some p ∧ 1 ≤ p.length ∧ p.length ≤ 200
  /-- A support session is under a request of its tenant, and its actor is a platform link. -/
  supportRequested : ∀ s ∈ db.supportSessions, ∃ r, db.supportRequest s.requestId = some r ∧
    r.tenantId = s.tenantId
  supportActor : ∀ s ∈ db.supportSessions, ∃ ul, db.link s.actorUserLinkId = some ul ∧
    ul.actorScope = .platform
  /-- An approved request says who approved it and when. -/
  approvalDecided : ∀ r ∈ db.supportRequests, r.status = .approved →
    r.decidedAt.isSome = true ∧ r.decidedByUserLinkId.isSome = true
  /-- The scope a request may name. -/
  requestScoped : ∀ r ∈ db.supportRequests, r.scopeLevel ∈ organizationLevels ∧
    (r.scopeLevel = .tenant ↔ r.scopeId = none)

structure Database extends Tables where
  sound : toTables.Sound

namespace Tables

variable {db : Tables} {id : String}

theorem binding_of_mem (h : db.Sound) {rb : RoleBinding} (hrb : rb ∈ db.roleBindings) :
    db.binding rb.roleBindingId = some rb :=
  Library.find?_eq_some_of_key h.bindingKey hrb

theorem supportSession_of_mem (h : db.Sound) {s : SupportAccessSession}
    (hs : s ∈ db.supportSessions) : db.supportSession s.supportSessionId = some s :=
  Library.find?_eq_some_of_key h.supportSessionKey hs

theorem session_of_mem (h : db.Sound) {s : IdentitySession} (hs : s ∈ db.identitySessions) :
    db.session s.sessionId = some s :=
  Library.find?_eq_some_of_key h.sessionKey hs

theorem mem_of_link {ul : UserLink} (h : db.link id = some ul) :
    ul ∈ db.userLinks ∧ ul.userLinkId = id :=
  Library.of_find?_eq_some h

theorem mem_of_supportRequest {r : SupportAccessRequest}
    (h : db.supportRequest id = some r) : r ∈ db.supportRequests ∧ r.requestId = id :=
  Library.of_find?_eq_some h

theorem registered_of_leaf {t type leaf : String}
    (h : db.resourceOrgLeaf t type id = some leaf) : type ∈ registeredResources := by
  unfold resourceOrgLeaf at h
  split at h
  · assumption
  · cases h

end Tables

end Dealership.Policy
