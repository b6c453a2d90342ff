import Dealership.Policy.Catalog
import Dealership.Policy.Schema
import Dealership.Library.Text
import Dealership.Library.Pick

/-!
# The policy engine

One code path answers whether an actor may perform an action: deny by default,
role bindings read from the database on every decision, a scope covering what
sits beneath it, and a platform person let into a tenant only under a live
approved support session.

`examine` is the rule, as the sequence of exits the source has: it throws a
denial or comes back with an allowance.  What a decision records is put together
here and written by `record`.
-/

namespace Dealership.Policy

open Library

/-! ## Inputs and answers -/

structure PolicyActor where
  userLinkId : String
  actorScope : ActorScope
  tenantId : Option String

structure ResourceRef where
  type : String
  id : String

/-- A question put to the engine.  A field the caller leaves out is absent. -/
structure PolicyInput where
  actor : PolicyActor
  action : String
  targetTenantId : Option String
  resource : Option ResourceRef
  scopeHint : Option OrganizationNodeRef
  supportRequestId : Option String
  sessionId : Option String

/-- `reason_code`. -/
inductive ReasonCode where
  | actionUnknown
  | controlPlaneCustomerPayload
  | actorTenantMissing
  | crossTenant
  | targetTenantMissing
  | tenantInactive
  | scopeNotFound
  | resourceRequired
  | resourceTypeMismatch
  | resourceNotFound
  | resourceScopeUnresolved
  | noMatchingBinding
  | supportActorUnauthorized
  | allowRoleBinding
  | allowPlatformRole
  | allowSupportSession
deriving DecidableEq

/-- A binding that matched, with the version it matched at. -/
structure MatchedBinding where
  roleBindingId : String
  authorizationVersion : Nat
deriving DecidableEq

/-- The whole delegated-access fact set of a decision allowed under a support session. -/
structure SupportAccessFacts where
  supportSessionId : String
  supportRequestId : String
  supportActorUserLinkId : String
  targetTenantId : String
  approvedScopeLevel : ScopeLevel
  approvedScopeId : Option String
  approvedActions : List String
  expiresAt : Int

/-- What a refusal says: a resource denial stays indistinguishable from a missing row. -/
structure Denial where
  reasonCode : ReasonCode
  resourceVisible : Bool := true
  scope : Option OrganizationNodeRef := none
  sensitive : Bool := false

/-- What an allowance rests on: the scope it records, the bindings that matched, the
delegated facts and the binding a delegation is supported by. -/
structure Allowance where
  reasonCode : ReasonCode
  scopeLevel : ScopeLevel
  scopeId : Option String
  tenantId : Option String
  controlPlaneTargetTenantId : Option String
  matched : List MatchedBinding
  support : Option SupportAccessFacts
  supportAuthority : Option MatchedBinding
  sensitive : Bool

/-! ## Scope rules -/

/-- Only a tenant-scope binding of that very tenant reaches the whole tenant. -/
def coversTenantWide (rb : RoleBinding) (targetTenantId : Option String) : Bool :=
  if rb.scopeLevel = .platform then false
  else if rb.scopeLevel = .resource then false
  else decide (rb.scopeLevel = .tenant) && decide (rb.scopeId = targetTenantId)

/-- Only platform scope reaches the control plane. -/
def coversPlatformAction (rb : RoleBinding) : Bool := decide (rb.scopeLevel = .platform)

/-- A node of a chain that a binding's or a request's scope names. -/
def onChain (chain : List OrganizationNodeRef) (level : ScopeLevel) (id : Option String) : Bool :=
  chain.any fun node => decide (node.level = level) && decide (some node.id = id)

/-- The deeper scope is the narrower one, and of two as deep the one with the smaller
identifier is taken. -/
def narrower (candidate b : RoleBinding) : Bool :=
  decide (scopeDepth b.scopeLevel < scopeDepth candidate.scopeLevel) ||
    decide (scopeDepth candidate.scopeLevel = scopeDepth b.scopeLevel) &&
      jsLt candidate.roleBindingId b.roleBindingId

def narrowestBinding (covering : List RoleBinding) : Option RoleBinding :=
  best narrower covering

/-- `PLATFORM_SUPPORT_AUTHORITY_ROLES`. -/
def platformSupportAuthorityRoles : List String := ["platform_support", "platform_admin"]

def RoleBinding.asMatched (rb : RoleBinding) : MatchedBinding :=
  ⟨rb.roleBindingId, rb.authorizationVersion⟩

/-! ## The exits -/

variable (catalog : ActionCatalog) (db : Tables) (now : Int) (input : PolicyInput)

/-- `input.targetTenantId ?? actor.tenantId`. -/
def PolicyInput.target : Option String :=
  match input.targetTenantId with
  | some t => some t
  | none => input.actor.tenantId

def ActionDefinition.isSensitive (d : ActionDefinition) : Bool := decide (d.sensitive = some true)

/-- The action is published, and a control-plane call carries no customer payload. -/
def publishedAction : Except Denial ActionDefinition :=
  match catalog.get input.action with
  | none => throw { reasonCode := .actionUnknown }
  | some d =>
    if actionPlane d = .controlPlane ∧ (input.resource ≠ none ∨ input.scopeHint ≠ none) then
      throw { reasonCode := .controlPlaneCustomerPayload, sensitive := d.isSensitive }
    else pure d

/-- A dealership actor's target is always their own tenant. -/
def ownTenant (d : ActionDefinition) : Except Denial Unit :=
  match input.actor.actorScope with
  | .platform => pure ()
  | .dealership =>
    if input.actor.tenantId = none then
      throw { reasonCode := .actorTenantMissing, sensitive := d.isSensitive }
    else if input.target ≠ input.actor.tenantId then
      throw { reasonCode := .crossTenant, resourceVisible := false, sensitive := d.isSensitive }
    else pure ()

/-- `SELECT 1 FROM tenants` with the authority rule of a tenant. -/
def Tables.tenantEffective (t : String) : Bool :=
  db.organization.tenants.any fun r => decide (r.tenantId = t) && r.effective now

/-- Every action but a control-plane one needs an effective tenant. -/
def targetTenant (d : ActionDefinition) : Except Denial String :=
  match input.target with
  | none => throw { reasonCode := .targetTenantMissing, sensitive := d.isSensitive }
  | some t =>
    if db.tenantEffective now t then pure t
    else throw { reasonCode := .tenantInactive, sensitive := d.isSensitive }

/-- The chain of the node the action lands on.  No chain means that no node was named,
and the action reaches the whole tenant. -/
def actedOn (d : ActionDefinition) (t : String) :
    Except Denial (Option (List OrganizationNodeRef)) :=
  match d.resourceType with
  | none =>
    match input.scopeHint with
    | none => pure none
    | some hint =>
      match db.organization.resolveAncestry t hint now with
      | some chain => pure (some chain)
      | none => throw { reasonCode := .scopeNotFound, resourceVisible := false,
                        scope := some hint, sensitive := d.isSensitive }
  | some type =>
    match input.resource with
    | none => throw { reasonCode := .resourceRequired, sensitive := d.isSensitive }
    | some resource =>
      if resource.type ≠ type then
        throw { reasonCode := .resourceTypeMismatch, resourceVisible := false,
                sensitive := d.isSensitive }
      else
        match db.resourceOrgLeaf t resource.type resource.id with
        | none => throw { reasonCode := .resourceNotFound, resourceVisible := false,
                          sensitive := d.isSensitive }
        | some leaf =>
          match db.organization.resolveAncestry t ⟨.rooftop, leaf⟩ now with
          | some chain => pure (some chain)
          | none => throw { reasonCode := .resourceScopeUnresolved, resourceVisible := false,
                            scope := some ⟨.rooftop, leaf⟩, sensitive := d.isSensitive }

/-- The bindings of the actor in force, in the order the database returns them: a
dealership actor's in their tenant, a platform actor's outside every tenant. -/
def loadBindings : List RoleBinding :=
  let home := match input.actor.actorScope with
    | .platform => none
    | .dealership => input.actor.tenantId
  db.roleBindings.filter fun rb =>
    decide (rb.userLinkId = input.actor.userLinkId) && rb.effective now &&
      decide (rb.tenantId = home)

/-- Whether a binding reaches what the action lands on. -/
def covers (d : ActionDefinition) (ancestry : Option (List OrganizationNodeRef))
    (rb : RoleBinding) : Bool :=
  if actionPlane d = .controlPlane then coversPlatformAction rb
  else if rb.scopeLevel = .platform then false
  else if rb.scopeLevel = .resource then
    match input.resource with
    | none => false
    | some resource =>
      decide (rb.resourceType = some resource.type) && decide (rb.resourceId = some resource.id)
  else
    match ancestry with
    | none => coversTenantWide rb input.target
    | some chain => onChain chain rb.scopeLevel rb.scopeId

/-- A binding that authorizes the action: an allowed role, and reach. -/
def authorizes (d : ActionDefinition) (ancestry : Option (List OrganizationNodeRef))
    (rb : RoleBinding) : Bool :=
  decide (rb.role ∈ d.allowedRoles) && covers input d ancestry rb

def coveringBindings (d : ActionDefinition) (ancestry : Option (List OrganizationNodeRef)) :
    List RoleBinding :=
  (loadBindings db now input).filter (authorizes input d ancestry)

/-- The allowance of a dealership actor: the scope of one binding, and all that matched. -/
def memberAllowance (d : ActionDefinition) (covering : List RoleBinding) (rb : RoleBinding) :
    Allowance where
  reasonCode := .allowRoleBinding
  scopeLevel := rb.scopeLevel
  scopeId := rb.scopeId
  tenantId := input.target
  controlPlaneTargetTenantId := none
  matched := covering.map RoleBinding.asMatched
  support := none
  supportAuthority := none
  sensitive := d.isSensitive

/-- A dealership actor: every covering binding is evidence, the narrowest is recorded. -/
def dealershipAllowance (d : ActionDefinition) (ancestry : Option (List OrganizationNodeRef)) :
    Except Denial Allowance :=
  let covering := coveringBindings db now input d ancestry
  match narrowestBinding covering with
  | some rb => pure (memberAllowance input d covering rb)
  | none => throw { reasonCode := .noMatchingBinding,
                    resourceVisible := decide (d.resourceType = none),
                    sensitive := d.isSensitive }

/-- The allowance of a platform actor on the control plane names no authorization tenant;
the tenant it was about is metadata. -/
def platformAllowance (d : ActionDefinition) (rb : RoleBinding) : Allowance where
  reasonCode := .allowPlatformRole
  scopeLevel := .platform
  scopeId := none
  tenantId := none
  controlPlaneTargetTenantId := input.target
  matched := [rb.asMatched]
  support := none
  supportAuthority := none
  sensitive := d.isSensitive

/-- A platform actor on the control plane: the first platform binding in an allowed role. -/
def controlPlaneAllowance (d : ActionDefinition) : Except Denial Allowance :=
  match (loadBindings db now input).find? (authorizes input d none) with
  | some first => pure (platformAllowance input d first)
  | none => throw { reasonCode := .noMatchingBinding, sensitive := d.isSensitive }

/-- The binding a delegation rests on: the first by identifier of the actor's platform
bindings in a support role. -/
def supportAuthority : Option RoleBinding :=
  best (fun a b => jsLt a.roleBindingId b.roleBindingId)
    ((loadBindings db now input).filter fun rb =>
      coversPlatformAction rb && decide (rb.role ∈ platformSupportAuthorityRoles))

/-- A support session joined with the request it was granted under. -/
structure DelegatedSession where
  session : SupportAccessSession
  request : SupportAccessRequest

/-- The actor's live sessions in the tenant under an approved request, in the order the
database returns them. -/
def liveSessions (t : String) : List DelegatedSession :=
  db.supportSessions.filterMap fun s =>
    match db.supportRequest s.requestId with
    | none => none
    | some r =>
      if s.actorUserLinkId = input.actor.userLinkId ∧ s.tenantId = t ∧ s.revokedAt = none ∧
          now < s.expiresAt ∧ r.status = .approved then
        some ⟨s, r⟩
      else none

/-- Whether what a request approved covers the action where it lands. -/
def sessionCovers (d : ActionDefinition) (ancestry : Option (List OrganizationNodeRef))
    (s : DelegatedSession) : Bool :=
  if d.action ∉ s.request.requestedActions then false
  else if s.request.scopeLevel = .tenant then true
  else
    match ancestry with
    | none => false
    | some chain => onChain chain s.request.scopeLevel s.request.scopeId

def DelegatedSession.facts (s : DelegatedSession) (t : String) : SupportAccessFacts where
  supportSessionId := s.session.supportSessionId
  supportRequestId := s.request.requestId
  supportActorUserLinkId := input.actor.userLinkId
  targetTenantId := t
  approvedScopeLevel := s.request.scopeLevel
  approvedScopeId := s.request.scopeId
  approvedActions := s.request.requestedActions
  expiresAt := s.session.expiresAt

/-- The allowance of a delegation: authorized by an approved request, so no binding matched;
the one it is supported by is named beside it. -/
def delegatedAllowance (d : ActionDefinition) (t : String) (authority : RoleBinding)
    (live : DelegatedSession) : Allowance where
  reasonCode := .allowSupportSession
  scopeLevel := live.request.scopeLevel
  scopeId := live.request.scopeId
  tenantId := some t
  controlPlaneTargetTenantId := none
  matched := []
  support := some (live.facts input t)
  supportAuthority := some authority.asMatched
  sensitive := d.isSensitive

/-- A platform actor in a tenant: platform-support authority still held, and a live
session whose approval covers the action. -/
def supportAllowance (d : ActionDefinition) (t : String)
    (ancestry : Option (List OrganizationNodeRef)) : Except Denial Allowance :=
  match supportAuthority db now input with
  | none => throw { reasonCode := .supportActorUnauthorized,
                    resourceVisible := decide (d.resourceType = none),
                    sensitive := d.isSensitive }
  | some authority =>
    match (liveSessions db now input t).find? (sessionCovers d ancestry) with
    | some live => pure (delegatedAllowance input d t authority live)
    | none => throw { reasonCode := .noMatchingBinding,
                      resourceVisible := decide (d.resourceType = none),
                      sensitive := d.isSensitive }

/-- The rule of `decide`: a control-plane action needs no tenant and lands on no node,
any other needs an effective tenant and the chain of the node it lands on. -/
def examine : Except Denial Allowance := do
  let d ← publishedAction catalog input
  ownTenant input d
  if actionPlane d = .controlPlane then
    match input.actor.actorScope with
    | .dealership => dealershipAllowance db now input d none
    | .platform => controlPlaneAllowance db now input d
  else
    let t ← targetTenant db now input d
    let ancestry ← actedOn db now input d t
    match input.actor.actorScope with
    | .dealership => dealershipAllowance db now input d ancestry
    | .platform => supportAllowance db now input d t ancestry

end Dealership.Policy
