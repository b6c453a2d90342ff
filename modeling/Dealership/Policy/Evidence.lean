import Dealership.Policy.Engine

/-!
# Decision evidence

Every decision, allowed or refused, writes one append-only row, and a decision
whose row cannot be written fails with it.  The row is judged where it lands: by
the triggers of `policy_decisions` before it is stored, by the table's checks and
foreign keys, and by the triggers of the matched bindings derived from it.

The rules are listed in the order the database applies them, under the names they
have there.  Every column that a decision never varies (the evidence version, the
policy version, `occurred_at`, which is the instant of the decision) is left out,
and so are the rules about it and about the `system` lane, which no decision
takes.
-/

namespace Dealership.Policy

open Library

/-! ## The presented credential -/

/-- The one live session row everything recorded about a credential comes from. -/
structure PresentedCredential where
  sessionId : String
  authTime : Int
  connectionId : String
  providerSubject : String
  mfaPolicyCertified : Bool

/-- The session a request presented: live, and the actor's own. -/
def presentedSession (db : Tables) (now : Int) (userLinkId : String) (sessionId : Option String) :
    Option IdentitySession :=
  match sessionId with
  | none => none
  | some id => db.identitySessions.find? fun s =>
    s.sessionId = id ∧ s.userLinkId = userLinkId ∧ s.revokedAt = none ∧ now < s.expiresAt

/-- Whether the connection behind a session certifies the organization's MFA policy. -/
def connectionCertified (db : Tables) (now : Int) (s : IdentitySession) : Bool :=
  match s.connectionId with
  | none => false
  | some id => (db.connection id).any fun c => c.certified now

def readPresentedCredential (db : Tables) (now : Int) (userLinkId : String)
    (sessionId : Option String) : Option PresentedCredential :=
  match presentedSession db now userLinkId sessionId with
  | none => none
  | some s =>
    match s.connectionId, s.providerSubject with
    | some connectionId, some providerSubject => some {
        sessionId := s.sessionId
        authTime := s.authTime
        connectionId := connectionId
        providerSubject := providerSubject
        mfaPolicyCertified := connectionCertified db now s }
    | _, _ => none

inductive Freshness where
  | notApplicable
  | stale
  | fresh

inductive MfaAssurance where
  | notApplicable
  | uncertified
  | certified

/-- `AUTHENTICATION_FRESHNESS_WINDOW_SECONDS`. -/
def authenticationFreshnessWindowSeconds : Int := 900

/-- `classifyActorAssurance` of a decision, which evaluates no grant: both facts come from
the presented session.  A `Date` counts milliseconds. -/
def classifyActorAssurance (db : Tables) (now : Int) (userLinkId : String)
    (sessionId : Option String) : Freshness × MfaAssurance :=
  match presentedSession db now userLinkId sessionId with
  | none => (.notApplicable, .notApplicable)
  | some s =>
    (if now / 1000 - s.authTime / 1000 ≤ authenticationFreshnessWindowSeconds * 1000 then .fresh
      else .stale,
     if connectionCertified db now s then .certified else .uncertified)

/-! ## The row -/

inductive ActorType where
  | user
  | platformSupport
deriving DecidableEq

inductive Decision where
  | allow
  | deny
deriving DecidableEq

/-- The identifiers a decision is correlated by, minted by the outermost middleware or
here, never sent by a client. -/
structure EvidenceIds where
  requestId : String
  correlationId : String
  requestIdLength : 8 ≤ requestId.length ∧ requestId.length ≤ 128
  correlationIdLength : 8 ≤ correlationId.length ∧ correlationId.length ≤ 128

/-- A row of `policy_decisions` as it is inserted. -/
structure EvidenceRow where
  tenantId : Option String
  actorUserLinkId : String
  actorType : ActorType
  action : String
  resource : Option ResourceRef
  scopeLevel : Option ScopeLevel
  scopeId : Option String
  decision : Decision
  reasonCode : ReasonCode
  requestId : String
  correlationId : String
  supportSessionId : Option String
  supportRequestId : Option String
  supportSessionExpiresAt : Option Int
  matched : List MatchedBinding
  freshness : Freshness
  mfaAssurance : MfaAssurance
  connectionId : Option String
  sessionId : Option String
  actorProviderSubject : Option String
  authTime : Option Int
  controlPlaneTargetTenantId : Option String
  supportAuthority : Option MatchedBinding

/-! ## The rules -/

namespace EvidenceRow

variable (db : Tables) (now : Int) (row : EvidenceRow)

def isAllow : Bool := decide (row.decision = .allow)

/-- `resource_rooftop_id`: the database's own resolution of the resource of an allow. -/
def resourceRooftopId : Option String :=
  match row.decision, row.resource, row.tenantId with
  | .allow, some r, some t => db.resourceOrgLeaf t r.type r.id
  | _, _, _ => none

/-- `trg_policy_decisions_auth_time`. -/
def authTimeIsTheSessions : Bool :=
  match row.sessionId with
  | none => true
  | some id => (db.session id).all fun s => decide (row.authTime = some s.authTime)

/-- `trg_policy_decisions_support_delegation`. -/
def supportEvidenceIsTheApproval : Bool :=
  match row.supportSessionId with
  | none => true
  | some id =>
    match db.supportSession id with
    | none => true
    | some s =>
      if some s.requestId ≠ row.supportRequestId ∨ some s.tenantId ≠ row.tenantId ∨
          s.actorUserLinkId ≠ row.actorUserLinkId then true
      else
        match db.supportRequest s.requestId with
        | none => false
        | some r =>
          decide (r.status = .approved) && r.decidedAt.isSome && r.decidedByUserLinkId.isSome &&
            decide (row.action ∈ r.requestedActions) &&
            (decide (r.scopeLevel = .tenant) ||
              decide (row.scopeLevel = some r.scopeLevel) && decide (row.scopeId = r.scopeId)) &&
            s.revokedAt.isNone && decide (s.grantedAt ≤ now) && decide (now < s.expiresAt)

/-- `trg_policy_decisions_support_live`. -/
def supportSessionIsLive : Bool :=
  match row.supportSessionId with
  | none => true
  | some id => (db.supportSession id).all fun s => decide (now < s.expiresAt)

/-- `trg_policy_decisions_support_window`. -/
def supportWindowIsTheSessions : Bool :=
  match row.supportSessionId with
  | none => true
  | some id =>
    decide (row.supportSessionExpiresAt = (db.supportSession id).map SupportAccessSession.expiresAt)

/-- The label of the actor is the real scope of their link. -/
def actorTypeIsReal : Bool :=
  (db.link row.actorUserLinkId).all fun ul =>
    match row.actorType with
    | .platformSupport => decide (ul.actorScope = .platform)
    | .user => decide (ul.actorScope = .dealership)

/-- The resource of an allow resolves in the tenant, on an effective chain. -/
def resourceStands : Bool :=
  match row.decision, row.resource, row.tenantId with
  | .allow, some r, some t =>
    (db.resourceOrgLeaf t r.type r.id).any fun leaf =>
      (db.organization.orgChainDefect t .rooftop (some leaf) now).isNone
  | _, _, _ => true

/-- The organization scope an allow records stands on an effective chain. -/
def scopeStands : Bool :=
  match row.decision, row.tenantId, row.scopeLevel with
  | .allow, some t, some level =>
    if level ∈ organizationLevels then
      (db.organization.orgChainDefect t level
        (if level = .tenant then some t else row.scopeId) now).isNone
    else true
  | _, _, _ => true

/-- `trg_policy_decisions_v4_structure`. -/
def structurallyValid : Bool :=
  row.actorTypeIsReal db && row.resourceStands db now && row.scopeStands db now

/-- `trg_policy_decisions_zz_support_authority_live`. -/
def supportAuthorityIsLive : Bool :=
  if row.supportSessionId = none ∨ row.decision = .deny then true
  else
    match row.supportAuthority with
    | none => false
    | some authority =>
      match db.binding authority.roleBindingId with
      | none => true
      | some rb =>
        decide (rb.userLinkId = row.actorUserLinkId) && decide (rb.scopeLevel = .platform) &&
          decide (rb.status = .active) && rb.window.covers now &&
          decide (rb.role ∈ platformSupportAuthorityRoles) &&
          decide (rb.authorizationVersion = authority.authorizationVersion) &&
          (db.link row.actorUserLinkId).all fun ul => decide (ul.status = .activated)

/-- `trg_policy_decisions_zz_support_scope_reaches_resource`. -/
def supportScopeReachesResource : Bool :=
  match row.decision, row.supportSessionId, row.resource, row.tenantId, row.supportRequestId with
  | .allow, some _, some r, some t, some request =>
    (db.supportRequest request).all fun q =>
      decide (q.scopeLevel = .tenant) ||
        (db.resourceOrgLeaf t r.type r.id).all fun leaf =>
          onChain (db.organization.orgAncestryEffective t .rooftop (some leaf) now)
            q.scopeLevel q.scopeId
  | _, _, _, _, _ => true

/-- `^[a-z][a-z0-9_.:]{0,127}$`. -/
def actionWellFormed : Bool :=
  match row.action.toList with
  | [] => false
  | c :: cs => ('a' ≤ c && c ≤ 'z') && cs.all (fun c => actionNameChar c || c = ':') &&
      decide (cs.length ≤ 127)

/-- `^[a-z][a-z0-9_]{0,63}$`. -/
def resourceTypeWellFormed (s : String) : Bool :=
  match s.toList with
  | [] => false
  | c :: cs => ('a' ≤ c && c ≤ 'z') && cs.all (fun c => actionNameChar c && c ≠ '.') &&
      decide (cs.length ≤ 63)

/-- `action ~ '^platform\.'`. -/
def namedPlatform (action : String) : Bool := "platform.".toList.isPrefixOf action.toList

def credentialGroupIsAtomic : Bool :=
  row.sessionId.isSome ==
    (row.authTime.isSome && row.connectionId.isSome && row.actorProviderSubject.isSome)

/-- The node of a level at or above a node of the tenant, as the joins of the
matched-binding trigger find it. -/
def nodeAbove (t : String) (ref : OrganizationNodeRef) (level : ScopeLevel) : Option String :=
  match ref.level with
  | .dealerGroup =>
    match db.organization.dealerGroupRow t ref.id with
    | none => none
    | some g => match level with
      | .dealerGroup => some g.dealerGroupId
      | _ => none
  | .legalEntity =>
    match db.organization.legalEntityRow t ref.id with
    | none => none
    | some e => match level with
      | .legalEntity => some e.legalEntityId
      | .dealerGroup => some e.dealerGroupId
      | _ => none
  | .rooftop =>
    match db.organization.rooftopRow t ref.id with
    | none => none
    | some r => match db.organization.legalEntityRow t r.legalEntityId with
      | none => none
      | some e => match level with
        | .rooftop => some r.rooftopId
        | .legalEntity => some r.legalEntityId
        | .dealerGroup => some e.dealerGroupId
        | _ => none
  | .department =>
    match db.organization.departmentRow t ref.id with
    | none => none
    | some d => match db.organization.rooftopRow t d.rooftopId with
      | none => none
      | some r => match db.organization.legalEntityRow t r.legalEntityId with
        | none => none
        | some e => match level with
          | .department => some d.departmentId
          | .rooftop => some d.rooftopId
          | .legalEntity => some r.legalEntityId
          | .dealerGroup => some e.dealerGroupId
          | _ => none
  | _ => none

def recordedNode (level : ScopeLevel) : Option String :=
  match row.tenantId, row.scopeLevel, row.scopeId with
  | some t, some l, some i => nodeAbove db t ⟨l, i⟩ level
  | _, _, _ => none

def recordedScopeExists : Bool :=
  match row.scopeLevel with
  | some .tenant => decide (row.scopeId = row.tenantId)
  | some .dealerGroup => (row.recordedNode db .dealerGroup).isSome
  | some .legalEntity => (row.recordedNode db .legalEntity).isSome
  | some .rooftop => (row.recordedNode db .rooftop).isSome
  | some .department => (row.recordedNode db .department).isSome
  | _ => true

/-- A matched binding covers the recorded node: its own, or one above it. -/
def recordedScopeIsBeneath (rb : RoleBinding) : Bool :=
  match rb.scopeLevel with
  | .tenant => decide (rb.scopeId = row.tenantId)
  | .dealerGroup | .legalEntity | .rooftop | .department =>
    if row.scopeLevel = some .resource then true
    else decide (row.recordedNode db rb.scopeLevel = rb.scopeId)
  | _ => true

/-- `trg_pdmb_binding_is_applicable`. -/
def bindingIsApplicable (m : MatchedBinding) : Bool :=
  match db.binding m.roleBindingId with
  | none => true
  | some rb =>
    if rb.userLinkId ≠ row.actorUserLinkId then true
    else
      decide (rb.authorizationVersion ≤ m.authorizationVersion) && rb.effective now &&
        if rb.scopeLevel = .platform then decide (row.scopeLevel = some .platform)
        else
          decide (row.scopeLevel ≠ some .platform) && decide (rb.tenantId = row.tenantId) &&
            (decide (rb.scopeLevel ≠ .resource) ||
              decide (rb.resourceType = row.resource.map ResourceRef.type) &&
                decide (rb.resourceId = row.resource.map ResourceRef.id)) &&
            row.recordedScopeExists db && row.recordedScopeIsBeneath db rb

/-- `trg_pdmb_live_and_reaches_the_resource`. -/
def bindingReachesResource (m : MatchedBinding) : Bool :=
  match db.binding m.roleBindingId with
  | none => true
  | some rb =>
    rb.window.covers now &&
      match row.resource, row.tenantId, row.resourceRooftopId db with
      | some _, some t, some leaf =>
        if rb.scopeLevel ∈ organizationLevels then
          onChain (db.organization.orgAncestryEffective t .rooftop (some leaf) now) rb.scopeLevel
            (if rb.scopeLevel = .tenant then some t else rb.scopeId)
        else true
      | _, _, _ => true

/-- `trg_pdmb_version_reachable`. -/
def bindingVersionIsReachable (m : MatchedBinding) : Bool :=
  (db.binding m.roleBindingId).all fun rb =>
    decide (m.authorizationVersion ≤ rb.authorizationVersion)

/-- `pdmb_binding_belongs_to_the_actor`. -/
def bindingBelongsToTheActor (m : MatchedBinding) : Bool :=
  (db.binding m.roleBindingId).any fun rb => decide (rb.userLinkId = row.actorUserLinkId)

/-- `pd_credential_identity_tuple`. -/
def credentialIsTheSessions : Bool :=
  match row.sessionId, row.connectionId, row.actorProviderSubject with
  | some id, some c, some p => (db.session id).any fun s =>
    decide (s.userLinkId = row.actorUserLinkId) && decide (s.connectionId = some c) &&
      decide (s.providerSubject = some p)
  | _, _, _ => true

/-- `pd_resource_rooftop_in_tenant`. -/
def resourceRooftopIsTheTenants : Bool :=
  match row.tenantId, row.resourceRooftopId db with
  | some t, some leaf => (db.organization.rooftopRow t leaf).isSome
  | _, _ => true

/-- `pd_support_evidence_tuple`. -/
def supportEvidenceIsTheSessions : Bool :=
  match row.supportSessionId, row.supportRequestId, row.tenantId with
  | some id, some r, some t => (db.supportSession id).any fun s =>
    decide (s.requestId = r) && decide (s.tenantId = t) &&
      decide (s.actorUserLinkId = row.actorUserLinkId)
  | _, _, _ => true

/-- The triggers before the insert. -/
def triggerRules : List (String × Bool) :=
  [ ("trg_policy_decisions_auth_time", row.authTimeIsTheSessions db),
    ("trg_policy_decisions_support_delegation", row.supportEvidenceIsTheApproval db now),
    ("trg_policy_decisions_support_live", row.supportSessionIsLive db now),
    ("trg_policy_decisions_support_window", row.supportWindowIsTheSessions db),
    ("trg_policy_decisions_v4_structure", row.structurallyValid db now),
    ("trg_policy_decisions_zz_support_authority_live", row.supportAuthorityIsLive db now),
    ("trg_policy_decisions_zz_support_scope_reaches_resource",
      row.supportScopeReachesResource db now) ]

def checkRules : List (String × Bool) :=
  [ ("pd_actor_subject_shape",
      row.actorProviderSubject.all fun s => decide (1 ≤ s.length ∧ s.length ≤ 200)),
    ("pd_correlation_shape",
      decide (8 ≤ row.correlationId.length ∧ row.correlationId.length ≤ 128)),
    ("pd_credential_group_is_atomic", row.credentialGroupIsAtomic),
    ("pd_deny_has_no_match", row.isAllow || row.matched.isEmpty),
    ("pd_resource_allow_names_a_tenant",
      !row.isAllow || row.resource.isNone || row.tenantId.isSome ||
        decide (row.scopeLevel = some .platform)),
    ("pd_support_authority_is_support_allow_evidence",
      row.supportAuthority.isNone || row.supportSessionId.isSome && row.isAllow),
    ("pd_support_evidence_is_attributable", row.supportSessionId.isNone || row.tenantId.isSome),
    ("pd_support_evidence_is_complete",
      row.supportSessionId.isNone || row.supportRequestId.isSome &&
        decide (row.actorType = .platformSupport) && row.supportSessionExpiresAt.isSome),
    ("pd_support_expiry_needs_a_session",
      row.supportSessionExpiresAt.isNone || row.supportSessionId.isSome),
    ("pd_v2_allow_has_authority_evidence",
      !row.isAllow || !row.matched.isEmpty || row.supportSessionId.isSome),
    ("pd_v2_allow_names_its_authority", !row.isAllow || row.scopeLevel.isSome),
    ("pd_v2_allow_names_presented_credential", !row.isAllow || row.sessionId.isSome),
    ("pd_v2_identified_actor_is_complete",
      row.tenantId.isSome || !row.isAllow || namedPlatform row.action),
    ("pd_v2_support_tenant_allow_is_delegated",
      !row.isAllow || decide (row.actorType ≠ .platformSupport) || row.tenantId.isNone ||
        namedPlatform row.action || row.supportSessionId.isSome),
    ("pd_v4_control_plane_is_structural",
      decide (row.scopeLevel ≠ some .platform) || row.tenantId.isNone && row.resource.isNone),
    ("pd_v4_identified_actor_names_a_tenant",
      !row.isAllow || row.tenantId.isSome || decide (row.scopeLevel = some .platform)),
    ("pd_v4_resource_allow_names_its_rooftop",
      !row.isAllow || row.resource.isNone || (row.resourceRooftopId db).isSome),
    ("pd_v4_support_tenant_allow_is_delegated",
      !row.isAllow || decide (row.actorType ≠ .platformSupport) || row.tenantId.isNone ||
        row.supportSessionId.isSome),
    ("pd_v4_target_tenant_is_metadata",
      row.controlPlaneTargetTenantId.isNone || decide (row.scopeLevel = some .platform)),
    ("policy_decisions_action_check", row.actionWellFormed),
    ("policy_decisions_request_id_check",
      decide (8 ≤ row.requestId.length ∧ row.requestId.length ≤ 128)),
    ("policy_decisions_resource_type_check",
      row.resource.all fun r => resourceTypeWellFormed r.type) ]

/-- The foreign keys of the table. -/
def keyRules : List (String × Bool) :=
  [ ("pd_actor_exists", (db.link row.actorUserLinkId).isSome),
    ("pd_allow_actor_is_in_its_tenant",
      !row.isAllow || decide (row.actorType ≠ .user) || row.tenantId.isNone ||
        (db.link row.actorUserLinkId).any fun ul => decide (ul.tenantId = row.tenantId)),
    ("pd_credential_identity_tuple", row.credentialIsTheSessions db),
    ("pd_resource_rooftop_in_tenant", row.resourceRooftopIsTheTenants db),
    ("pd_support_evidence_tuple", row.supportEvidenceIsTheSessions db),
    ("pd_tenant_exists",
      row.tenantId.all fun t => db.organization.tenants.any fun r => decide (r.tenantId = t)),
    ("policy_decisions_connection_id_fkey", row.connectionId.all fun c => (db.connection c).isSome),
    ("policy_decisions_control_plane_target_tenant_id_fkey",
      row.controlPlaneTargetTenantId.all fun t =>
        db.organization.tenants.any fun r => decide (r.tenantId = t)),
    ("policy_decisions_session_id_fkey", row.sessionId.all fun s => (db.session s).isSome),
    ("policy_decisions_support_authority_binding_id_fkey",
      row.supportAuthority.all fun a => (db.binding a.roleBindingId).isSome) ]

/-- The triggers, check and keys of the matched bindings. -/
def matchRules : List (String × Bool) :=
  [ ("trg_pdmb_binding_is_applicable", row.matched.all (row.bindingIsApplicable db now)),
    ("trg_pdmb_live_and_reaches_the_resource", row.matched.all (row.bindingReachesResource db now)),
    ("trg_pdmb_version_reachable", row.matched.all (bindingVersionIsReachable db)),
    ("pdmb_version_positive", row.matched.all fun m => decide (1 ≤ m.authorizationVersion)),
    ("policy_decision_matched_bindings_pkey",
      decide (row.matched.map MatchedBinding.roleBindingId).Nodup),
    ("pdmb_binding_belongs_to_the_actor", row.matched.all (row.bindingBelongsToTheActor db)) ]

/-- What is stored with a decision, rule by rule. -/
def rules : List (String × Bool) :=
  row.triggerRules db now ++ row.checkRules db ++ row.keyRules db ++ row.matchRules db now

/-- The first rule a row breaks. -/
def refusal : Option String :=
  ((row.rules db now).find? fun r => !r.2).map Prod.fst

theorem refusal_eq_none : row.refusal db now = none ↔ ∀ r ∈ row.rules db now, r.2 = true := by
  simp [refusal]

theorem mem_rules {r : String × Bool} : r ∈ row.rules db now ↔
    r ∈ row.triggerRules db now ∨ r ∈ row.checkRules db ∨ r ∈ row.keyRules db ∨
      r ∈ row.matchRules db now := by
  simp only [rules, List.mem_append, or_assoc]

end EvidenceRow

/-! ## The decision -/

structure PolicyDecisionResult where
  decision : Decision
  reasonCode : ReasonCode
  matchedBindings : List MatchedBinding
  resourceVisible : Bool
  supportSessionId : Option String
  support : Option SupportAccessFacts
  sensitive : Bool

variable (db : Tables) (now : Int) (ids : EvidenceIds) (input : PolicyInput)

/-- `policy_decisions.actor_type`. -/
def PolicyInput.actorType : ActorType :=
  match input.actor.actorScope with
  | .platform => .platformSupport
  | .dealership => .user

/-- The columns every row of a decision has: the actor, the generated identifiers and the
presented credential, its authentication time read from the session the row names. -/
def baseRow (decision : Decision) (reasonCode : ReasonCode) : EvidenceRow :=
  let credential := readPresentedCredential db now input.actor.userLinkId input.sessionId
  let assurance := classifyActorAssurance db now input.actor.userLinkId
    (credential.map PresentedCredential.sessionId)
  { tenantId := input.target
    actorUserLinkId := input.actor.userLinkId
    actorType := input.actorType
    action := input.action
    resource := input.resource
    scopeLevel := none
    scopeId := none
    decision := decision
    reasonCode := reasonCode
    requestId := ids.requestId
    correlationId := ids.correlationId
    supportSessionId := none
    supportRequestId := input.supportRequestId
    supportSessionExpiresAt := none
    matched := []
    freshness := assurance.1
    mfaAssurance := assurance.2
    connectionId := credential.map PresentedCredential.connectionId
    sessionId := credential.map PresentedCredential.sessionId
    actorProviderSubject := credential.map PresentedCredential.providerSubject
    authTime := (credential.bind fun c => db.session c.sessionId).map IdentitySession.authTime
    controlPlaneTargetTenantId := none
    supportAuthority := none }

def Denial.row (d : Denial) : EvidenceRow :=
  { baseRow db now ids input .deny d.reasonCode with
    scopeLevel := d.scope.map OrganizationNodeRef.level
    scopeId := d.scope.map OrganizationNodeRef.id }

def Denial.result (d : Denial) : PolicyDecisionResult where
  decision := .deny
  reasonCode := d.reasonCode
  matchedBindings := []
  resourceVisible := d.resourceVisible
  supportSessionId := none
  support := none
  sensitive := d.sensitive

def Allowance.row (a : Allowance) : EvidenceRow :=
  let base := baseRow db now ids input .allow a.reasonCode
  { base with
    tenantId := a.tenantId
    resource := if a.reasonCode = .allowPlatformRole then none else base.resource
    scopeLevel := some a.scopeLevel
    scopeId := a.scopeId
    supportSessionId := a.support.map SupportAccessFacts.supportSessionId
    supportRequestId := match a.reasonCode with
      | .allowPlatformRole => none
      | .allowSupportSession => a.support.map SupportAccessFacts.supportRequestId
      | _ => base.supportRequestId
    supportSessionExpiresAt := (a.support.bind fun s =>
      db.supportSession s.supportSessionId).map SupportAccessSession.expiresAt
    matched := a.matched
    controlPlaneTargetTenantId := a.controlPlaneTargetTenantId
    supportAuthority := a.supportAuthority }

def Allowance.result (a : Allowance) : PolicyDecisionResult where
  decision := .allow
  reasonCode := a.reasonCode
  matchedBindings := a.matched
  resourceVisible := true
  supportSessionId := a.support.map SupportAccessFacts.supportSessionId
  support := a.support
  sensitive := a.sensitive

/-- A decision's row is stored, or the decision fails with the rule that refused it. -/
def record (row : EvidenceRow) (result : PolicyDecisionResult) :
    Except String (PolicyDecisionResult × EvidenceRow) :=
  match row.refusal db now with
  | some rule => throw rule
  | none => pure (result, row)

structure PolicyEngine where
  catalog : ActionCatalog

/-- The answer, and the evidence it left. -/
def PolicyEngine.decide (engine : PolicyEngine) : Except String (PolicyDecisionResult × EvidenceRow) :=
  match examine engine.catalog db now input with
  | .error d => record db now (d.row db now ids input) d.result
  | .ok a => record db now (a.row db now ids input) a.result

end Dealership.Policy
