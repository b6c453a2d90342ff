import Dealership.Policy.Decisions
import Dealership.Transaction

/-!
# Administrative gates

Five mutations on delegated access and on the certification of an MFA policy ask
for authority in their own SQL, each from the published action it names.  Every
one runs in a transaction of its own, at one instant: it returns, with the rows
it leaves, or raises.
-/

namespace Dealership.Policy

open Library List

variable {r : SupportAccessRequest}

/-! ## State -/

inductive AssuranceLevel where
  | freshOnly
  | freshAndMfaPolicy
deriving DecidableEq

/-- A row of `reauthentication_grants`. -/
structure ReauthenticationGrant where
  grantId : String
  grantHash : String
  tenantId : String
  userLinkId : String
  action : String
  resourceType : Option String
  resourceId : Option String
  assuranceLevel : AssuranceLevel
  mfaPolicyCertifiedAtIssue : Bool
  expiresAt : Int
  consumedAt : Option Int

/-- What an attributable mutation leaves in `audit_events`. -/
structure MutationEvent where
  tenantId : Option String
  entityType : String
  entityId : String
  eventType : String
  actingUserLinkId : String

/-- The identity tables, the step-up grants and the mutations recorded so far. -/
structure Administration extends Tables where
  grants : List ReauthenticationGrant
  events : List MutationEvent

inductive MutationError where
  | unattributable (message : String)
  | authority (message : String)
  | rangeError (message : String)
  | database (refusal : String)

def demand (holds : Bool) (refusal : String) : Except MutationError Unit :=
  if holds then pure () else throw (.database refusal)

theorem demand_eq_ok {holds : Bool} {refusal : String} {u : Unit} :
    demand holds refusal = .ok u ↔ holds = true := by
  cases holds with
  | true => exact ⟨fun _ => rfl, fun _ => rfl⟩
  | false =>
    constructor
    · intro h
      cases h
    · intro h
      cases h

/-! ## The published actions -/

/-- `identity.support.approve`. -/
def supportApproveAction : ActionDefinition where
  action := "identity.support.approve"
  resourceType := none
  allowedRoles := ["tenant_admin"]
  sensitive := some true
  plane := none

/-- `identity.support.revoke`. -/
def supportRevokeAction : ActionDefinition where
  action := "identity.support.revoke"
  resourceType := none
  allowedRoles := ["tenant_admin"]
  sensitive := none
  plane := none

/-- `platform.support.request`. -/
def supportRequestAction : ActionDefinition where
  action := "platform.support.request"
  resourceType := none
  allowedRoles := platformSupportAuthorityRoles
  sensitive := none
  plane := some .controlPlane

/-- `MFA_CERTIFY_TENANT_ACTION`. -/
def mfaCertifyTenantAction : ActionDefinition where
  action := "identity.connection.certify_mfa_policy"
  resourceType := none
  allowedRoles := ["tenant_admin"]
  sensitive := some true
  plane := none

/-- `MFA_CERTIFY_PLATFORM_ACTION`. -/
def mfaCertifyPlatformAction : ActionDefinition where
  action := "platform.connection.certify_mfa_policy"
  resourceType := none
  allowedRoles := ["platform_admin"]
  sensitive := some true
  plane := some .controlPlane

/-- A catalog that publishes what the gates derive their authority from. -/
structure PublishesGates (catalog : ActionCatalog) : Prop where
  approve : catalog.get supportApproveAction.action = some supportApproveAction
  revoke : catalog.get supportRevokeAction.action = some supportRevokeAction
  certifyTenant : catalog.get mfaCertifyTenantAction.action = some mfaCertifyTenantAction
  certifyPlatform : catalog.get mfaCertifyPlatformAction.action = some mfaCertifyPlatformAction

/-! ## Who may act -/

section Authority

variable (db : Tables) (now : Int)

/-- `requireActor`. -/
def requireUserLink (actingUserLinkId : String) : Except MutationError String :=
  if ¬ isUuid actingUserLinkId then
    throw (.unattributable "an attributable mutation requires the acting user link id")
  else if (db.link actingUserLinkId).isNone then
    throw (.unattributable
      "the acting user link does not exist — refusing an unattributable mutation")
  else pure actingUserLinkId

def UserLink.inForce (ul : UserLink) : Bool :=
  decide (ul.status = .activated) && ul.window.covers now

/-- The gate of an action in a tenant, for a caller that names no resource. -/
def mayActTenantWide (d : ActionDefinition) (tenantId userLinkId : String) : Bool :=
  db.roleBindings.any fun rb =>
    decide (rb.userLinkId = userLinkId) && decide (rb.tenantId = some tenantId) &&
      decide (rb.role ∈ d.allowedRoles) && rb.effective now &&
      (db.link userLinkId).any (fun ul => decide (ul.tenantId = some tenantId) && ul.inForce now) &&
      coversTenantWide rb (some tenantId)

def mayActPlatformWide (d : ActionDefinition) (userLinkId : String) : Bool :=
  db.roleBindings.any fun rb =>
    decide (rb.userLinkId = userLinkId) && decide (rb.scopeLevel = .platform) &&
      decide (rb.role ∈ d.allowedRoles) && rb.effective now &&
      (db.link userLinkId).any fun ul => decide (ul.actorScope = .platform) && ul.inForce now

def holdsPlatformSupportAuthority (userLinkId : String) : Bool :=
  mayActPlatformWide db now supportRequestAction userLinkId

/-- The tenant first, then either authority. -/
def requireCertificationAuthority (actor : String) (tenantId : Option String) :
    Except MutationError Unit :=
  if ¬ (tenantId.all fun t => db.tenantEffective now t) then
    throw (.authority
      "certifying an organization MFA policy requires a currently active and effective tenant")
  else if mayActPlatformWide db now mfaCertifyPlatformAction actor then pure ()
  else if tenantId.any fun t => mayActTenantWide db now mfaCertifyTenantAction t actor then pure ()
  else throw (.authority "certifying an organization MFA policy requires administrative authority")

end Authority

/-! ## Delegated access -/

section Mutations

-- `sha256hex` is the hash a grant value is stored under.
variable (sha256hex : String → String) (db : Administration) (now : Int)

def Administration.recordMutation (e : MutationEvent) : Administration :=
  { db with events := db.events ++ [e] }

/-- A grant an approval may be paid with: its own, unspent, unexpired, and at
`fresh_and_mfa_policy`. -/
def ReauthenticationGrant.pays (g : ReauthenticationGrant) (now : Int) (hash tenantId userLinkId
    requestId : String) : Bool :=
  decide (g.grantHash = hash) && decide (g.tenantId = tenantId) &&
    decide (g.userLinkId = userLinkId) && decide (g.action = supportApproveAction.action) &&
    decide (g.resourceType = some "support_access_request") &&
    decide (g.resourceId = some requestId) && g.consumedAt.isNone && decide (now < g.expiresAt) &&
    decide (g.assuranceLevel = .freshAndMfaPolicy) && g.mfaPolicyCertifiedAtIssue

/-- `consumeReauthenticationGrantReturningId`, as an approval calls it. -/
def consumeGrant (grant tenantId userLinkId requestId : String) :
    Option (String × Administration) :=
  if grant = "" then none
  else
    match db.grants.find? fun g => g.pays now (sha256hex grant) tenantId userLinkId requestId with
    | none => none
    | some g => some (g.grantId, { db with
        grants := Library.updateWhere (fun g' => g'.grantId = g.grantId)
          (fun g' => { g' with consumedAt := some now }) db.grants })

/-- `UPDATE support_access_requests`, and its event.  The triggers ask for a platform
requester and, of an approval of less than the tenant, that its scope stands. -/
def settleRequest (r : SupportAccessRequest) (actor : String) (approve : Bool) :
    Except MutationError (SupportAccessRequest × Administration) := do
  demand ((db.link r.requesterUserLinkId).all fun ul => decide (ul.actorScope = .platform))
    "trg_sar_requester_is_platform"
  demand (!approve || decide (r.scopeLevel = .tenant) ||
      (db.organization.orgChainDefect r.tenantId r.scopeLevel r.scopeId now).isNone)
    "trg_sar_grant_is_the_approval"
  let decided := { r with
    status := if approve then .approved else .denied
    decidedByUserLinkId := some actor
    decidedAt := some now }
  let stored : Administration := { db with
    supportRequests := Library.updateWhere
      (fun r' => r'.requestId = r.requestId ∧ r'.status = .pending) (fun _ => decided)
      db.supportRequests }
  pure (decided, stored.recordMutation {
    tenantId := some r.tenantId
    entityType := "support_access_request"
    entityId := r.requestId
    eventType := if approve then "identity.support.approved" else "identity.support.denied"
    actingUserLinkId := actor })

/-- Starts the session of an approved request, for a requester who still holds authority. -/
def startSupportSessionWithin (newId actor : String) (r : SupportAccessRequest) :
    Except MutationError (Option SupportAccessSession × Administration) := do
  if ¬ holdsPlatformSupportAuthority db.toTables now r.requesterUserLinkId then
    pure (none, db)
  else
    let session : SupportAccessSession := {
      supportSessionId := newId
      requestId := r.requestId
      tenantId := r.tenantId
      actorUserLinkId := r.requesterUserLinkId
      grantedAt := now
      expiresAt := now + r.requestedDurationMinutes * 60000000
      revokedAt := none
      expiredAt := none }
    demand (decide (r.status = .approved) && r.decidedAt.any fun decidedAt => decide (decidedAt ≤ now))
      "trg_sas_bounded_by_approval"
    demand (decide (now < session.expiresAt ∧ session.expiresAt ≤ now + 60 * 60000000))
      "support_access_sessions_check"
    demand (db.supportSessions.all fun s =>
        decide (s.requestId ≠ r.requestId ∧ s.supportSessionId ≠ newId))
      "support_access_sessions_request_id_key"
    let stored : Administration := { db with supportSessions := db.supportSessions ++ [session] }
    pure (some session, stored.recordMutation {
      tenantId := some r.tenantId
      entityType := "support_access_session"
      entityId := newId
      eventType := "identity.support.session_started"
      actingUserLinkId := actor })

structure DecideSupportAccess where
  requestId : String
  decidedByUserLinkId : String
  approve : Bool
  approvalGrant : Option String
  /-- The identifier the database draws for the session. -/
  newSessionId : String

/-- The request a decision is about. -/
def pendingRequest (db : Tables) (requestId : String) : Option SupportAccessRequest :=
  db.supportRequests.find? fun r => r.requestId = requestId ∧ r.status = .pending

def decideSupportAccess (input : DecideSupportAccess) :
    Except MutationError (Option SupportAccessSession × Administration) := do
  let actor ← requireUserLink db.toTables input.decidedByUserLinkId
  match pendingRequest db.toTables input.requestId with
  | none => pure (none, db)
  | some r =>
    if r.requesterUserLinkId = actor then pure (none, db)
    else if ¬ mayActTenantWide db.toTables now supportApproveAction r.tenantId actor then
      pure (none, db)
    else if ¬ input.approve then do
      let (_, denied) ← settleRequest db now r actor false
      pure (none, denied)
    else if ¬ holdsPlatformSupportAuthority db.toTables now r.requesterUserLinkId then
      pure (none, db)
    else
      match consumeGrant sha256hex db now (input.approvalGrant.getD "") r.tenantId actor
          input.requestId with
      | none => pure (none, db)
      | some (_, spent) => do
        let (decided, approved) ← settleRequest spent now r actor true
        startSupportSessionWithin approved now input.newSessionId actor decided

structure StartSupportSession where
  requestId : String
  startedByUserLinkId : String
  newSessionId : String

def approvedRequest (db : Tables) (requestId : String) : Option SupportAccessRequest :=
  db.supportRequests.find? fun r => r.requestId = requestId ∧ r.status = .approved

def startSupportSession (input : StartSupportSession) :
    Except MutationError (Option SupportAccessSession × Administration) := do
  let actor ← requireUserLink db.toTables input.startedByUserLinkId
  match approvedRequest db.toTables input.requestId with
  | none => pure (none, db)
  | some r =>
    if ¬ mayActTenantWide db.toTables now supportApproveAction r.tenantId actor then
      pure (none, db)
    else if db.supportSessions.any fun s => decide (s.requestId = input.requestId) then
      pure (none, db)
    else startSupportSessionWithin db now input.newSessionId actor r

/-- `SUPPORT_SESSION_STILL_RUNNING_SQL`. -/
def SupportAccessSession.stillRunning (s : SupportAccessSession) (now : Int) : Bool :=
  s.revokedAt.isNone && s.expiredAt.isNone && decide (now < s.expiresAt)

def runningSession (db : Tables) (now : Int) (supportSessionId : String) :
    Option SupportAccessSession :=
  db.supportSessions.find? fun s => s.supportSessionId = supportSessionId ∧ s.stillRunning now

structure RevokeSupportSession where
  supportSessionId : String
  revokedByUserLinkId : String

def revokeSupportSession (input : RevokeSupportSession) :
    Except MutationError (Bool × Administration) := do
  let actor ← requireUserLink db.toTables input.revokedByUserLinkId
  match runningSession db.toTables now input.supportSessionId with
  | none => pure (false, db)
  | some s =>
    if ¬ mayActTenantWide db.toTables now supportRevokeAction s.tenantId actor ∧
        s.actorUserLinkId ≠ actor then
      pure (false, db)
    else
      let stored : Administration := { db with
        supportSessions := Library.updateWhere
          (fun s' => s'.supportSessionId = input.supportSessionId ∧ s'.stillRunning now)
          (fun s' => { s' with revokedAt := some now }) db.supportSessions }
      pure (true, stored.recordMutation {
        tenantId := some s.tenantId
        entityType := "support_access_session"
        entityId := input.supportSessionId
        eventType := "identity.support.revoked"
        actingUserLinkId := actor })

/-! ## Certification -/

/-- A validity window is counted in microseconds, as `make_interval` makes it. -/
def defaultMfaCertificationValidity : Int := 90 * 24 * 3600 * 1000000

def maxMfaCertificationValidity : Int := 365 * 24 * 3600 * 1000000

structure CertifyProviderMfaPolicy where
  actingUserLinkId : String
  connectionId : String
  certified : Bool
  validFor : Option Int

/-- What a certification, or its withdrawal, makes of the connection's row. -/
def ProviderConnection.certify (c : ProviderConnection) (now : Int) (certified : Bool)
    (validFor : Int) : ProviderConnection :=
  { c with
    mfaPolicyCertified := certified
    mfaPolicyCertifiedAt := if certified then some now else none
    mfaPolicyCertificationExpiresAt := if certified then some (now + validFor) else none
    mfaPolicyCertificationRevokedAt :=
      if certified then none else c.mfaPolicyCertificationRevokedAt }

def certifyProviderMfaPolicy (input : CertifyProviderMfaPolicy) :
    Except MutationError (Option MutationEvent × Administration) := do
  let validFor := input.validFor.getD defaultMfaCertificationValidity
  if validFor ≤ 0 ∨ maxMfaCertificationValidity < validFor then
    throw (.rangeError "an MFA certification validity window must be positive and bounded")
  else
    let actor ← requireUserLink db.toTables input.actingUserLinkId
    match db.connection input.connectionId with
    | none => pure (none, db)
    | some c => do
      requireCertificationAuthority db.toTables now actor c.tenantId
      let stored : Administration := { db with
        connections := Library.updateWhere (fun c' => c'.connectionId = input.connectionId)
          (fun c' => c'.certify now input.certified validFor) db.connections }
      let event : MutationEvent := {
        tenantId := c.tenantId
        entityType := "identity_provider_connection"
        entityId := input.connectionId
        eventType := "identity.provider_connection.mfa_policy_certified"
        actingUserLinkId := actor }
      pure (some event, stored.recordMutation event)

structure RevokeProviderMfaPolicyCertification where
  actingUserLinkId : String
  connectionId : String

def revokeProviderMfaPolicyCertification (input : RevokeProviderMfaPolicyCertification) :
    Except MutationError (Option MutationEvent × Administration) := do
  let actor ← requireUserLink db.toTables input.actingUserLinkId
  match db.connection input.connectionId with
  | none => pure (none, db)
  | some c => do
    requireCertificationAuthority db.toTables now actor c.tenantId
    let stored : Administration := { db with
      connections := Library.updateWhere (fun c' => c'.connectionId = input.connectionId)
        (fun c' => { c' with
          mfaPolicyCertified := false
          mfaPolicyCertifiedAt := none
          mfaPolicyCertificationExpiresAt := none
          mfaPolicyCertificationRevokedAt := some now }) db.connections }
    let event : MutationEvent := {
      tenantId := c.tenantId
      entityType := "identity_provider_connection"
      entityId := input.connectionId
      eventType := "identity.provider_connection.mfa_policy_certification_revoked"
      actingUserLinkId := actor }
    pure (some event, stored.recordMutation event)

end Mutations

/-! ## Acts that take effect -/

/-- A mutation takes effect when it returns and the tables are not what they were. -/
def Effective {α : Type} (before : Administration)
    (r : Except MutationError (α × Administration)) : Prop :=
  ∃ out after, r = .ok (out, after) ∧ after ≠ before

section Effects

variable {sha256hex : String → String} {db : Administration} {now : Int} {α : Type}
  {after : Administration} {actor : String}

@[simp] theorem not_effective_pure {out : α} :
    ¬ Effective db (pure (out, db) : Except MutationError (α × Administration)) := by
  rintro ⟨out', after, h, hne⟩
  cases h
  exact hne rfl

@[simp] theorem not_effective_throw {e : MutationError} :
    ¬ Effective db (throw e : Except MutationError (α × Administration)) := by
  rintro ⟨out', after, h, -⟩
  cases h

theorem effective_of_events {out : α} (h : db.events.length < after.events.length) :
    Effective db (pure (out, after) : Except MutationError (α × Administration)) := by
  refine ⟨out, after, rfl, ?_⟩
  rintro rfl
  exact lt_irrefl _ h

theorem effective_bind {β : Type} {x : Except MutationError β}
    {f : β → Except MutationError (α × Administration)} :
    Effective db (x >>= f) ↔ ∃ b, x = .ok b ∧ Effective db (f b) := by
  cases x with
  | error e =>
    constructor
    · rintro ⟨out, after, h, -⟩
      cases h
    · rintro ⟨b, h, -⟩
      cases h
  | ok b =>
    constructor
    · exact fun h => ⟨b, rfl, h⟩
    · rintro ⟨b', h, heff⟩
      cases h
      exact heff

theorem requireUserLink_eq_ok {db : Tables} {u : String} :
    requireUserLink db u = .ok actor ↔ actor = u ∧ isUuid u = true ∧ (db.link u).isSome = true := by
  unfold requireUserLink
  by_cases hu : isUuid u = true
  · cases hlink : db.link u with
    | none => simp [hu, throw, throwThe, MonadExceptOf.throw]
    | some ul => simp [hu, pure, Except.pure, eq_comm]
  · simp [hu, throw, throwThe, MonadExceptOf.throw]

/-- What the triggers of a request's row ask of a decision. -/
def DecisionStored (db : Tables) (now : Int) (r : SupportAccessRequest) (approve : Bool) : Prop :=
  ((db.link r.requesterUserLinkId).all fun ul => decide (ul.actorScope = .platform)) = true ∧
    (approve = true → r.scopeLevel = .tenant ∨
      db.organization.orgChainDefect r.tenantId r.scopeLevel r.scopeId now = none)

def SessionStored (db : Tables) (now : Int) (newId : String) (r : SupportAccessRequest) : Prop :=
  holdsPlatformSupportAuthority db now r.requesterUserLinkId = true ∧
    (∃ decidedAt, r.decidedAt = some decidedAt ∧ decidedAt ≤ now) ∧
    (1 ≤ r.requestedDurationMinutes ∧ r.requestedDurationMinutes ≤ 60) ∧
    ∀ s ∈ db.supportSessions, s.requestId ≠ r.requestId ∧ s.supportSessionId ≠ newId

theorem settleRequest_eq_ok {approve : Bool} :
    (∃ p, settleRequest db now r actor approve = .ok p) ↔
      DecisionStored db.toTables now r approve := by
  simp only [settleRequest, bind_eq_ok, demand_eq_ok]
  constructor
  · rintro ⟨p, -, hplatform, -, hscope, -⟩
    refine ⟨hplatform, fun happrove => ?_⟩
    simpa [happrove] using hscope
  · rintro ⟨hplatform, hscope⟩
    refine ⟨_, (), hplatform, (), ?_, rfl⟩
    cases approve with
    | false => rfl
    | true => simpa using hscope rfl

theorem of_settleRequest {decided : SupportAccessRequest} {approve : Bool}
    (h : settleRequest db now r actor approve = .ok (decided, after)) :
    after.events.length = db.events.length + 1 ∧ after.roleBindings = db.roleBindings ∧
      after.userLinks = db.userLinks ∧ after.supportSessions = db.supportSessions ∧
      decided = { r with
        status := if approve then .approved else .denied
        decidedByUserLinkId := some actor
        decidedAt := some now } := by
  simp only [settleRequest, bind_eq_ok, demand_eq_ok] at h
  obtain ⟨-, -, -, -, hp⟩ := h
  cases hp
  exact ⟨length_append, rfl, rfl, rfl, rfl⟩

theorem startSupportSessionWithin_cases {newId : String} (happroved : r.status = .approved)
    {out : Option SupportAccessSession}
    (h : startSupportSessionWithin db now newId actor r = .ok (out, after)) :
    holdsPlatformSupportAuthority db.toTables now r.requesterUserLinkId = false ∧ after = db ∨
      SessionStored db.toTables now newId r ∧ after.events.length = db.events.length + 1 := by
  unfold startSupportSessionWithin at h
  by_cases hholds : holdsPlatformSupportAuthority db.toTables now r.requesterUserLinkId = true
  · rw [if_neg (not_not.mpr hholds)] at h
    simp only [bind_eq_ok, demand_eq_ok] at h
    obtain ⟨-, hbounded, -, hwindow, -, hkey, hp⟩ := h
    cases hp
    refine .inr ⟨⟨hholds, ?_, ?_, ?_⟩, length_append⟩
    · simpa [happroved, Option.any_eq_true] using hbounded
    · have := of_decide_eq_true hwindow
      omega
    · intro s hs
      exact of_decide_eq_true (all_eq_true.mp hkey s hs)
  · rw [if_pos hholds] at h
    cases h
    exact .inl ⟨Bool.eq_false_iff.mpr hholds, rfl⟩

theorem startSupportSessionWithin_eq_ok {newId : String} (happroved : r.status = .approved)
    (h : SessionStored db.toTables now newId r) :
    ∃ p, startSupportSessionWithin db now newId actor r = .ok p := by
  obtain ⟨hholds, ⟨decidedAt, hdecided, hle⟩, ⟨hpos, hmax⟩, hkey⟩ := h
  unfold startSupportSessionWithin
  rw [if_neg (not_not.mpr hholds)]
  simp only [bind_eq_ok, demand_eq_ok]
  refine ⟨_, (), ?_, (), ?_, (), ?_, rfl⟩
  · simp [happroved, hdecided, hle]
  · exact decide_eq_true (by omega)
  · exact all_eq_true.mpr fun s hs => decide_eq_true (hkey s hs)

/-! ## What opens an act -/

/-- The actor of a mutation is a link that exists. -/
def KnownLink (db : Tables) (u : String) : Prop :=
  isUuid u = true ∧ (db.link u).isSome = true

/-- What `decideSupportAccess` goes through on, as the state before it has it. -/
structure DecisionOpen (sha256hex : String → String) (db : Administration) (now : Int)
    (input : DecideSupportAccess) (r : SupportAccessRequest) : Prop where
  known : KnownLink db.toTables input.decidedByUserLinkId
  pending : pendingRequest db.toTables input.requestId = some r
  apart : r.requesterUserLinkId ≠ input.decidedByUserLinkId
  gate : mayActTenantWide db.toTables now supportApproveAction r.tenantId
    input.decidedByUserLinkId = true
  stored : DecisionStored db.toTables now r input.approve
  paid : input.approve = true → (input.approvalGrant.getD "") ≠ "" ∧
    (db.grants.any fun g => g.pays now (sha256hex (input.approvalGrant.getD "")) r.tenantId
      input.decidedByUserLinkId input.requestId) = true
  session : input.approve = true →
    holdsPlatformSupportAuthority db.toTables now r.requesterUserLinkId = true ∧
    (1 ≤ r.requestedDurationMinutes ∧ r.requestedDurationMinutes ≤ 60) ∧
    ∀ s ∈ db.supportSessions, s.requestId ≠ r.requestId ∧ s.supportSessionId ≠ input.newSessionId

theorem consumeGrant_isSome {grant tenantId userLinkId requestId : String} :
    (consumeGrant sha256hex db now grant tenantId userLinkId requestId).isSome = true ↔
      grant ≠ "" ∧
        (db.grants.any fun g => g.pays now (sha256hex grant) tenantId userLinkId requestId)
          = true := by
  unfold consumeGrant
  by_cases hgrant : grant = ""
  · simp [hgrant]
  · rw [if_neg hgrant]
    cases hfind : db.grants.find? fun g =>
        g.pays now (sha256hex grant) tenantId userLinkId requestId with
    | none =>
      rw [find?_eq_none] at hfind
      simp only [Option.isSome_none, Bool.false_eq_true, any_eq_true, false_iff, not_and,
        not_exists]
      exact fun _ g hg hpays => hfind g hg hpays
    | some g =>
      simp only [Option.isSome_some, true_iff, any_eq_true]
      have hpays := find?_some hfind
      exact ⟨hgrant, g, mem_of_find?_eq_some hfind, hpays⟩

theorem of_consumeGrant {grant tenantId userLinkId requestId id : String} {spent : Administration}
    (h : consumeGrant sha256hex db now grant tenantId userLinkId requestId = some (id, spent)) :
    spent = { db with grants := spent.grants } := by
  unfold consumeGrant at h
  split at h
  · cases h
  split at h
  · cases h
  · cases h
    rfl

theorem holdsPlatformSupportAuthority_congr {db' : Tables} {db : Tables}
    (hrb : db'.roleBindings = db.roleBindings) (hul : db'.userLinks = db.userLinks) (u : String) :
    holdsPlatformSupportAuthority db' now u = holdsPlatformSupportAuthority db now u := by
  unfold holdsPlatformSupportAuthority mayActPlatformWide Tables.link
  rw [hrb, hul]

theorem approval_effective {id : String} {spent : Administration}
    (hspent : spent = { db with grants := spent.grants })
    (hholds : holdsPlatformSupportAuthority db.toTables now r.requesterUserLinkId = true) :
    Effective db (do
        let (decided, approved) ← settleRequest spent now r actor true
        startSupportSessionWithin approved now id actor decided) ↔
      DecisionStored db.toTables now r true ∧
        (1 ≤ r.requestedDurationMinutes ∧ r.requestedDurationMinutes ≤ 60) ∧
        ∀ s ∈ db.supportSessions, s.requestId ≠ r.requestId ∧ s.supportSessionId ≠ id := by
  have hsame : ∀ b, DecisionStored spent.toTables now r b ↔ DecisionStored db.toTables now r b := by
    intro b
    rw [hspent]
  rw [effective_bind]
  constructor
  · rintro ⟨⟨decided, approved⟩, hsettle, out, after, hstart, -⟩
    have hstored := (hsame true).mp (settleRequest_eq_ok.mp ⟨_, hsettle⟩)
    obtain ⟨-, hrb, hul, hss, rfl⟩ := of_settleRequest hsettle
    dsimp only at hstart
    rcases startSupportSessionWithin_cases rfl hstart with ⟨hnot, -⟩ | ⟨hsession, -⟩
    · rw [holdsPlatformSupportAuthority_congr hrb hul, hspent] at hnot
      exact absurd hholds (by rw [hnot]; exact Bool.false_ne_true)
    · refine ⟨hstored, hsession.2.2.1, fun s hs => hsession.2.2.2 s ?_⟩
      rw [hss, hspent]
      exact hs
  · rintro ⟨hstored, hminutes, hkeys⟩
    obtain ⟨⟨decided, approved⟩, hsettle⟩ := settleRequest_eq_ok.mpr ((hsame true).mpr hstored)
    obtain ⟨hevents, hrb, hul, hss, rfl⟩ := of_settleRequest hsettle
    refine ⟨_, hsettle, ?_⟩
    have hsession : SessionStored approved.toTables now id { r with
        status := .approved
        decidedByUserLinkId := some actor
        decidedAt := some now } := by
      refine ⟨?_, ⟨now, rfl, le_rfl⟩, hminutes, fun s hs => hkeys s ?_⟩
      · rw [holdsPlatformSupportAuthority_congr hrb hul, hspent]
        exact hholds
      · rw [hss, hspent] at hs
        exact hs
    obtain ⟨⟨out, after⟩, hstart⟩ := startSupportSessionWithin_eq_ok rfl hsession
    refine ⟨out, after, hstart, ?_⟩
    rintro rfl
    rcases startSupportSessionWithin_cases rfl hstart with ⟨hnot, -⟩ | ⟨-, hmore⟩
    · exact absurd hsession.1 (by rw [hnot]; exact Bool.false_ne_true)
    · have hspentEvents : spent.events = after.events := by rw [hspent]
      rw [hspentEvents] at hevents
      omega

theorem decideSupportAccess_effective {input : DecideSupportAccess} :
    Effective db (decideSupportAccess sha256hex db now input) ↔
      ∃ r, DecisionOpen sha256hex db now input r := by
  unfold decideSupportAccess
  rw [effective_bind]
  constructor
  · rintro ⟨actor, hactor, heff⟩
    obtain ⟨rfl, hknown⟩ := requireUserLink_eq_ok.mp hactor
    cases hpending : pendingRequest db.toTables input.requestId with
    | none =>
      rw [hpending] at heff
      exact absurd heff not_effective_pure
    | some r =>
      rw [hpending] at heff
      dsimp only at heff
      by_cases hapart : r.requesterUserLinkId = input.decidedByUserLinkId
      · rw [if_pos hapart] at heff
        exact absurd heff not_effective_pure
      rw [if_neg hapart] at heff
      by_cases hgate : mayActTenantWide db.toTables now supportApproveAction r.tenantId
          input.decidedByUserLinkId = true
      · rw [if_neg (not_not.mpr hgate)] at heff
        cases happrove : input.approve with
        | false =>
          rw [happrove, if_pos Bool.false_ne_true, effective_bind] at heff
          obtain ⟨p, hsettle, -⟩ := heff
          refine ⟨r, hknown, hpending, hapart, hgate, ?_, ?_, ?_⟩
          · rw [happrove]
            exact settleRequest_eq_ok.mp ⟨p, hsettle⟩
          · rw [happrove]
            exact fun h => absurd h Bool.false_ne_true
          · rw [happrove]
            exact fun h => absurd h Bool.false_ne_true
        | true =>
          rw [happrove, if_neg (not_not.mpr rfl)] at heff
          by_cases hholds : holdsPlatformSupportAuthority db.toTables now
              r.requesterUserLinkId = true
          · rw [if_neg (not_not.mpr hholds)] at heff
            cases hpaid : consumeGrant sha256hex db now (input.approvalGrant.getD "")
                r.tenantId input.decidedByUserLinkId input.requestId with
            | none =>
              rw [hpaid] at heff
              exact absurd heff not_effective_pure
            | some spent =>
              rw [hpaid] at heff
              obtain ⟨hstored, hrest⟩ := (approval_effective (of_consumeGrant hpaid) hholds).mp heff
              refine ⟨r, hknown, hpending, hapart, hgate, ?_, fun _ => ?_,
                fun _ => ⟨hholds, hrest⟩⟩
              · rw [happrove]
                exact hstored
              · exact consumeGrant_isSome.mp (by rw [hpaid]; rfl)
          · rw [if_pos hholds] at heff
            exact absurd heff not_effective_pure
      · rw [if_pos hgate] at heff
        exact absurd heff not_effective_pure
  · rintro ⟨r, hknown, hpending, hapart, hgate, hstored, hpaid, hsession⟩
    refine ⟨_, requireUserLink_eq_ok.mpr ⟨rfl, hknown⟩, ?_⟩
    rw [hpending]
    dsimp only
    rw [if_neg hapart, if_neg (not_not.mpr hgate)]
    cases happrove : input.approve with
    | false =>
      rw [happrove] at hstored
      rw [if_pos Bool.false_ne_true, effective_bind]
      obtain ⟨⟨decided, after⟩, hsettle⟩ := settleRequest_eq_ok.mpr hstored
      refine ⟨_, hsettle, effective_of_events ?_⟩
      rw [(of_settleRequest hsettle).1]
      exact Nat.lt_succ_self _
    | true =>
      rw [happrove] at hstored
      obtain ⟨hholds, hminutes, hkeys⟩ := hsession happrove
      obtain ⟨⟨id, spent⟩, hspent⟩ :=
        Option.isSome_iff_exists.mp (consumeGrant_isSome.mpr (hpaid happrove))
      rw [if_neg (not_not.mpr rfl), if_neg (not_not.mpr hholds), hspent]
      exact (approval_effective (of_consumeGrant hspent) hholds).mpr ⟨hstored, hminutes, hkeys⟩

/-- What `startSupportSession` goes through on. -/
structure StartOpen (db : Administration) (now : Int) (input : StartSupportSession)
    (r : SupportAccessRequest) : Prop where
  known : KnownLink db.toTables input.startedByUserLinkId
  approved : approvedRequest db.toTables input.requestId = some r
  gate : mayActTenantWide db.toTables now supportApproveAction r.tenantId
    input.startedByUserLinkId = true
  session : SessionStored db.toTables now input.newSessionId r

theorem startSupportSession_effective {input : StartSupportSession} :
    Effective db (startSupportSession db now input) ↔ ∃ r, StartOpen db now input r := by
  unfold startSupportSession
  rw [effective_bind]
  constructor
  · rintro ⟨actor, hactor, heff⟩
    obtain ⟨rfl, hknown⟩ := requireUserLink_eq_ok.mp hactor
    cases happroved : approvedRequest db.toTables input.requestId with
    | none =>
      rw [happroved] at heff
      exact absurd heff not_effective_pure
    | some r =>
      rw [happroved] at heff
      dsimp only at heff
      by_cases hgate : mayActTenantWide db.toTables now supportApproveAction r.tenantId
          input.startedByUserLinkId = true
      · rw [if_neg (not_not.mpr hgate)] at heff
        split at heff
        · exact absurd heff not_effective_pure
        obtain ⟨out, after, hstart, hne⟩ := heff
        obtain ⟨-, -, hstatus⟩ := Library.of_find?_eq_some happroved
        rcases startSupportSessionWithin_cases hstatus hstart with ⟨-, rfl⟩ | ⟨hsession, -⟩
        · exact absurd rfl hne
        · exact ⟨r, hknown, happroved, hgate, hsession⟩
      · rw [if_pos hgate] at heff
        exact absurd heff not_effective_pure
  · rintro ⟨r, hknown, happroved, hgate, hsession⟩
    obtain ⟨-, hid, hstatus⟩ := Library.of_find?_eq_some happroved
    refine ⟨_, requireUserLink_eq_ok.mpr ⟨rfl, hknown⟩, ?_⟩
    have hfresh : ¬ (db.supportSessions.any fun s => decide (s.requestId = input.requestId))
        = true := by
      rw [any_eq_true]
      rintro ⟨s, hs, hsame⟩
      exact (hsession.2.2.2 s hs).1 ((of_decide_eq_true hsame).trans hid.symm)
    rw [happroved]
    dsimp only
    rw [if_neg (not_not.mpr hgate), if_neg hfresh]
    obtain ⟨⟨out, after⟩, hstart⟩ := startSupportSessionWithin_eq_ok hstatus hsession
    refine ⟨out, after, hstart, ?_⟩
    rintro rfl
    rcases startSupportSessionWithin_cases hstatus hstart with ⟨hnot, -⟩ | ⟨-, hmore⟩
    · exact absurd hsession.1 (by rw [hnot]; exact Bool.false_ne_true)
    · omega

/-- What `revokeSupportSession` goes through on, for somebody else's session. -/
structure RevocationOpen (db : Administration) (now : Int) (input : RevokeSupportSession)
    (s : SupportAccessSession) : Prop where
  known : KnownLink db.toTables input.revokedByUserLinkId
  running : runningSession db.toTables now input.supportSessionId = some s
  apart : s.actorUserLinkId ≠ input.revokedByUserLinkId
  gate : mayActTenantWide db.toTables now supportRevokeAction s.tenantId
    input.revokedByUserLinkId = true

theorem revokeSupportSession_effective {input : RevokeSupportSession} {s : SupportAccessSession}
    (hrunning : runningSession db.toTables now input.supportSessionId = some s)
    (hapart : s.actorUserLinkId ≠ input.revokedByUserLinkId) :
    Effective db (revokeSupportSession db now input) ↔ RevocationOpen db now input s := by
  unfold revokeSupportSession
  rw [effective_bind]
  constructor
  · rintro ⟨actor, hactor, heff⟩
    obtain ⟨rfl, hknown⟩ := requireUserLink_eq_ok.mp hactor
    rw [hrunning] at heff
    dsimp only at heff
    split at heff
    · exact absurd heff not_effective_pure
    rename_i hgate
    rw [not_and, not_not, Bool.not_eq_true] at hgate
    refine ⟨hknown, hrunning, hapart, ?_⟩
    by_contra hnot
    exact hapart (hgate (Bool.eq_false_iff.mpr hnot))
  · rintro ⟨hknown, -, -, hgate⟩
    refine ⟨_, requireUserLink_eq_ok.mpr ⟨rfl, hknown⟩, ?_⟩
    rw [hrunning]
    dsimp only
    rw [if_neg (fun h => h.1 hgate)]
    apply effective_of_events
    show db.events.length < (db.events ++ [_]).length
    rw [length_append]
    exact Nat.lt_succ_self _

theorem certified_authority {input : CertifyProviderMfaPolicy}
    (h : Effective db (certifyProviderMfaPolicy db now input)) :
    ∃ c, db.connection input.connectionId = some c ∧
      requireCertificationAuthority db.toTables now input.actingUserLinkId c.tenantId = .ok () := by
  unfold certifyProviderMfaPolicy at h
  dsimp only at h
  split at h
  · exact absurd h not_effective_throw
  rw [effective_bind] at h
  obtain ⟨actor, hactor, heff⟩ := h
  obtain ⟨rfl, -⟩ := requireUserLink_eq_ok.mp hactor
  split at heff
  · exact absurd heff not_effective_pure
  rename_i c hc
  obtain ⟨⟨⟩, hauth, -⟩ := effective_bind.mp heff
  exact ⟨c, hc, hauth⟩

theorem revoked_authority {input : RevokeProviderMfaPolicyCertification}
    (h : Effective db (revokeProviderMfaPolicyCertification db now input)) :
    ∃ c, db.connection input.connectionId = some c ∧
      requireCertificationAuthority db.toTables now input.actingUserLinkId c.tenantId = .ok () := by
  unfold revokeProviderMfaPolicyCertification at h
  rw [effective_bind] at h
  obtain ⟨actor, hactor, heff⟩ := h
  obtain ⟨rfl, -⟩ := requireUserLink_eq_ok.mp hactor
  split at heff
  · exact absurd heff not_effective_pure
  rename_i c hc
  obtain ⟨⟨⟩, hauth, -⟩ := effective_bind.mp heff
  exact ⟨c, hc, hauth⟩

theorem requireCertificationAuthority_eq_ok {db : Tables} {tenantId : Option String} :
    requireCertificationAuthority db now actor tenantId = .ok () ↔
      (∀ t, tenantId = some t → db.tenantEffective now t = true) ∧
        (mayActPlatformWide db now mfaCertifyPlatformAction actor = true ∨
          ∃ t, tenantId = some t ∧
            mayActTenantWide db now mfaCertifyTenantAction t actor = true) := by
  unfold requireCertificationAuthority
  by_cases hplatform : mayActPlatformWide db now mfaCertifyPlatformAction actor = true
  · cases tenantId with
    | none => simp [hplatform, pure, Except.pure]
    | some t =>
      by_cases ht : db.tenantEffective now t = true
      · simp [hplatform, ht, pure, Except.pure]
      · simp [ht, throw, throwThe, MonadExceptOf.throw]
  · cases tenantId with
    | none => simp [hplatform, throw, throwThe, MonadExceptOf.throw]
    | some t =>
      by_cases ht : db.tenantEffective now t = true
      · by_cases hmay : mayActTenantWide db now mfaCertifyTenantAction t actor = true
        · simp [hplatform, ht, hmay, pure, Except.pure]
        · simp [hplatform, ht, hmay, throw, throwThe, MonadExceptOf.throw]
      · simp [ht, throw, throwThe, MonadExceptOf.throw]

end Effects

/-! ## What the engine says -/

/-- The question the engine is asked about an actor: the action, in a tenant, naming no
resource and no scope. -/
def ask (ul : UserLink) (action : String) (target sessionId : Option String) : PolicyInput where
  actor := ⟨ul.userLinkId, ul.actorScope, ul.tenantId⟩
  action := action
  targetTenantId := target
  resource := none
  scopeHint := none
  supportRequestId := none
  sessionId := sessionId

/-- The engine's rule allows the actor the action.  What it would be recorded with, the
session they present, is not part of the question. -/
def WouldAllow (engine : PolicyEngine) (db : Tables) (now : Int) (u : String)
    (d : ActionDefinition) (target : Option String) : Prop :=
  ∃ ul, db.link u = some ul ∧
    ∃ a, examine engine.catalog db now (ask ul d.action target none) = .ok a

section Answers

variable {engine : PolicyEngine} {db : Tables} {now : Int} {u t : String} {d : ActionDefinition}

theorem covers_of_coversTenantWide {input : PolicyInput} {rb : RoleBinding}
    (hplane : actionPlane d = .tenant) (h : coversTenantWide rb input.target = true) :
    covers input d none rb = true := by
  have hnot : actionPlane d ≠ .controlPlane := by rw [hplane]; decide
  have hcovers := h
  unfold coversTenantWide at hcovers
  split at hcovers
  · cases hcovers
  split at hcovers
  · cases hcovers
  rename_i hp hr
  unfold covers
  rw [if_neg hnot, if_neg hp, if_neg hr]
  exact h

theorem wouldAllow_of_mayActTenantWide (hdb : db.Sound)
    (hget : engine.catalog.get d.action = some d) (hplane : actionPlane d = .tenant)
    (htype : d.resourceType = none) (h : mayActTenantWide db now d t u = true)
    (heff : db.tenantEffective now t = true) : WouldAllow engine db now u d (some t) := by
  obtain ⟨rb, hmem, hrb⟩ := any_eq_true.mp h
  simp only [Bool.and_eq_true, decide_eq_true_eq, Option.any_eq_true] at hrb
  obtain ⟨⟨⟨⟨⟨hown, hhome⟩, hrole⟩, hlive⟩, ul, hlink, hul, -⟩, hcovers⟩ := hrb
  obtain ⟨hulmem, hulid⟩ := Tables.mem_of_link hlink
  have hscope : ul.actorScope = .dealership :=
    (hdb.linkScope ul hulmem).mpr (by rw [hul]; exact Option.some_ne_none t)
  have hactor : (ask ul d.action (some t) none).actor.actorScope = .dealership := hscope
  refine ⟨ul, hlink, ?_⟩
  have hload : rb ∈ loadBindings db now (ask ul d.action (some t) none) := by
    refine mem_loadBindings.mpr ⟨hmem, hown.trans hulid.symm, hlive, ?_⟩
    rw [hactor]
    exact hhome.trans hul.symm
  have hcov : rb ∈ coveringBindings db now (ask ul d.action (some t) none) d none :=
    mem_coveringBindings.mpr ⟨hload, hrole, covers_of_coversTenantWide hplane hcovers⟩
  obtain ⟨b, hb⟩ := exists_narrowestBinding.mpr ⟨rb, hcov⟩
  refine ⟨memberAllowance (ask ul d.action (some t) none) d
      (coveringBindings db now (ask ul d.action (some t) none) d none) b,
    examine_eq_ok.mpr ⟨d, publishedAction_eq_ok.mpr ⟨hget, fun _ => ⟨rfl, rfl⟩⟩,
      ownTenant_eq_ok.mpr fun _ => ⟨?_, ?_⟩, .inr ⟨hplane, t, none,
        targetTenant_eq_ok.mpr ⟨rfl, heff⟩,
        actedOn_eq_ok.mpr ⟨none, .tenantWide htype rfl, rfl⟩, ?_⟩⟩⟩
  · show ul.tenantId ≠ none
    rw [hul]
    exact Option.some_ne_none t
  · show some t = ul.tenantId
    rw [hul]
  · rw [tenantBranch, hactor]
    exact dealershipAllowance_eq_ok.mpr ⟨b, hb, rfl⟩

theorem wouldAllow_of_mayActPlatformWide (hdb : db.Sound)
    (hget : engine.catalog.get d.action = some d) (hplane : actionPlane d = .controlPlane)
    (h : mayActPlatformWide db now d u = true) (target : Option String) :
    WouldAllow engine db now u d target := by
  obtain ⟨rb, hmem, hrb⟩ := any_eq_true.mp h
  simp only [Bool.and_eq_true, decide_eq_true_eq, Option.any_eq_true] at hrb
  obtain ⟨⟨⟨⟨hown, hlevel⟩, hrole⟩, hlive⟩, ul, hlink, hscope, -⟩ := hrb
  obtain ⟨-, hulid⟩ := Tables.mem_of_link hlink
  have hactor : (ask ul d.action target none).actor.actorScope = .platform := hscope
  refine ⟨ul, hlink, ?_⟩
  have hload : rb ∈ loadBindings db now (ask ul d.action target none) := by
    refine mem_loadBindings.mpr ⟨hmem, hown.trans hulid.symm, hlive, ?_⟩
    rw [hactor]
    exact (hdb.bindingPlatform rb hmem).mp hlevel
  have hauth : authorizes (ask ul d.action target none) d none rb = true := by
    rw [authorizes, Bool.and_eq_true, covers_controlPlane hplane, decide_eq_true_eq]
    exact ⟨hrole, hlevel⟩
  obtain ⟨first, hfirst⟩ := Option.isSome_iff_exists.mp (find?_isSome.mpr ⟨rb, hload, hauth⟩)
  refine ⟨platformAllowance (ask ul d.action target none) d first,
    examine_eq_ok.mpr ⟨d, publishedAction_eq_ok.mpr ⟨hget, fun _ => ⟨rfl, rfl⟩⟩,
      ownTenant_eq_ok.mpr fun hdealer => ?_, .inl ⟨hplane, ?_⟩⟩⟩
  · rw [hactor] at hdealer
    cases hdealer
  · rw [controlPlaneBranch, hactor]
    exact controlPlaneAllowance_eq_ok.mpr ⟨first, hfirst, rfl⟩

/-- To an actor who acts on their own plane and presents a live session the engine answers what
its rule says. -/
theorem wouldAllow_iff_allows {ids : EvidenceIds} {ul : UserLink} {target sessionId : Option String}
    (hdb : db.Sound) (hres : ∀ rb ∈ db.roleBindings, rb.scopeLevel ≠ .resource)
    (hnamed : ∀ d ∈ engine.catalog.list, actionPlane d = .controlPlane →
      EvidenceRow.namedPlatform d.action = true)
    (hget : engine.catalog.get d.action = some d) (hlink : db.link u = some ul)
    (hown : actionPlane d = .controlPlane ↔ ul.actorScope = .platform)
    (htarget : ∀ t, target = some t →
      (db.organization.tenants.any fun r => decide (r.tenantId = t)) = true)
    (hsession : ∃ s, presentedSession db now u sessionId = some s) :
    engine.Allows db now ids (ask ul d.action target sessionId) ↔
      WouldAllow engine db now u d target := by
  obtain ⟨hmem, hid⟩ := Tables.mem_of_link hlink
  have hsame : examine engine.catalog db now (ask ul d.action target sessionId) =
      examine engine.catalog db now (ask ul d.action target none) := rfl
  have hrecordable : Recordable db now (ask ul d.action target sessionId) d := by
    refine ⟨?_, fun hplane => ⟨⟨ul, ?_, hown.mp hplane⟩, fun t ht => ?_⟩, ?_, ?_⟩
    · show ∃ s, presentedSession db now ul.userLinkId sessionId = some s
      rw [hid]
      exact hsession
    · show db.link ul.userLinkId = some ul
      rw [hid]
      exact hlink
    · cases target with
      | some t' => exact htarget t ht
      | none =>
        have hdealer : ul.actorScope = .dealership :=
          (hdb.linkScope ul hmem).mpr (Option.ne_none_iff_exists'.mpr ⟨t, ht⟩)
        rw [hown.mp hplane] at hdealer
        cases hdealer
    · intro _ _ _ _ r _ _ hr
      cases hr
    · intro hplane hscope
      rw [hown.mpr hscope] at hplane
      cases hplane
  rw [allows_iff, hsame]
  constructor
  · rintro ⟨a, ha, -⟩
    exact ⟨ul, hlink, a, ha⟩
  · rintro ⟨ul', hlink', a, ha⟩
    obtain rfl := Option.some.inj (hlink.symm.trans hlink')
    exact ⟨a, ha, (accepted_iff_recordable hdb hres hnamed hget (hsame.trans ha)).mpr hrecordable⟩

end Answers

/-! ## Gates and engine -/

inductive GatedAct where
  | decideSupportAccess (input : DecideSupportAccess)
  | startSupportSession (input : StartSupportSession)
  | revokeSupportSession (input : RevokeSupportSession)
  | certifyProviderMfaPolicy (input : CertifyProviderMfaPolicy)
  | revokeProviderMfaPolicyCertification (input : RevokeProviderMfaPolicyCertification)

namespace GatedAct

variable (sha256hex : String → String) (engine : PolicyEngine) (db : Administration) (now : Int)

def TakesEffect : GatedAct → Prop
  | .decideSupportAccess input =>
    Effective db (Policy.decideSupportAccess sha256hex db now input)
  | .startSupportSession input => Effective db (Policy.startSupportSession db now input)
  | .revokeSupportSession input =>
    -- Ending one's own session is not gated.
    (∀ s, runningSession db.toTables now input.supportSessionId = some s →
      s.actorUserLinkId ≠ input.revokedByUserLinkId) ∧
      Effective db (Policy.revokeSupportSession db now input)
  | .certifyProviderMfaPolicy input => Effective db (Policy.certifyProviderMfaPolicy db now input)
  | .revokeProviderMfaPolicyCertification input =>
    Effective db (Policy.revokeProviderMfaPolicyCertification db now input)

def actor : GatedAct → String
  | .decideSupportAccess input => input.decidedByUserLinkId
  | .startSupportSession input => input.startedByUserLinkId
  | .revokeSupportSession input => input.revokedByUserLinkId
  | .certifyProviderMfaPolicy input => input.actingUserLinkId
  | .revokeProviderMfaPolicyCertification input => input.actingUserLinkId

/-- The published actions an act corresponds to. -/
def actions : GatedAct → List ActionDefinition
  | .decideSupportAccess _ | .startSupportSession _ => [supportApproveAction]
  | .revokeSupportSession _ => [supportRevokeAction]
  | .certifyProviderMfaPolicy _ | .revokeProviderMfaPolicyCertification _ =>
    [mfaCertifyTenantAction, mfaCertifyPlatformAction]

/-- The row an act is about, by the tenant it is in: a platform connection is in none. -/
def target : GatedAct → Option (Option String)
  | .decideSupportAccess input =>
    (pendingRequest db.toTables input.requestId).map fun r => some r.tenantId
  | .startSupportSession input =>
    (approvedRequest db.toTables input.requestId).map fun r => some r.tenantId
  | .revokeSupportSession input =>
    (runningSession db.toTables now input.supportSessionId).map fun s => some s.tenantId
  | .certifyProviderMfaPolicy input =>
    (db.connection input.connectionId).map ProviderConnection.tenantId
  | .revokeProviderMfaPolicyCertification input =>
    (db.connection input.connectionId).map ProviderConnection.tenantId

/-- The engine would allow the actor the act, and the tenant the act is in is in force. -/
def Answered (act : GatedAct) : Prop :=
  ∃ target, act.target db now = some target ∧
    (∃ d ∈ act.actions, WouldAllow engine db.toTables now act.actor d target) ∧
    ∀ t, target = some t → db.tenantEffective now t = true

def Certifies : GatedAct → Prop
  | .certifyProviderMfaPolicy _ | .revokeProviderMfaPolicyCertification _ => True
  | _ => False

def TenantStands (act : GatedAct) : Prop :=
  ∀ t, act.target db now = some (some t) → db.tenantEffective now t = true

/-- The rows the act needs are there: its request or session, the gate's binding, and what
the database asks of the rows it writes. -/
def Opens : GatedAct → Prop
  | .decideSupportAccess input => ∃ r, DecisionOpen sha256hex db now input r
  | .startSupportSession input => ∃ r, StartOpen db now input r
  | .revokeSupportSession input => ∃ s, RevocationOpen db now input s
  | .certifyProviderMfaPolicy _ | .revokeProviderMfaPolicyCertification _ => False

section Answered

variable {sha256hex : String → String} {engine : PolicyEngine} {db : Administration} {now : Int}
  {act : GatedAct}

theorem takesEffect_iff_opens (hact : ¬ act.Certifies) :
    act.TakesEffect sha256hex db now ∧ (act.target db now).isSome = true ↔
      act.Opens sha256hex db now := by
  cases act with
  | decideSupportAccess input =>
    rw [TakesEffect, decideSupportAccess_effective, Opens]
    refine ⟨fun h => h.1, fun ⟨r, hr⟩ => ⟨⟨r, hr⟩, ?_⟩⟩
    rw [target, hr.pending]
    rfl
  | startSupportSession input =>
    rw [TakesEffect, startSupportSession_effective, Opens]
    refine ⟨fun h => h.1, fun ⟨r, hr⟩ => ⟨⟨r, hr⟩, ?_⟩⟩
    rw [target, hr.approved]
    rfl
  | revokeSupportSession input =>
    rw [TakesEffect, Opens]
    constructor
    · rintro ⟨⟨hapart, heff⟩, hsome⟩
      cases hrunning : runningSession db.toTables now input.supportSessionId with
      | none => rw [target, hrunning] at hsome; cases hsome
      | some s =>
        exact ⟨s, (revokeSupportSession_effective hrunning (hapart s hrunning)).mp heff⟩
    · rintro ⟨s, hs⟩
      refine ⟨⟨fun s' hs' => ?_,
        (revokeSupportSession_effective hs.running hs.apart).mpr hs⟩, ?_⟩
      · rw [hs.running, Option.some.injEq] at hs'
        exact hs' ▸ hs.apart
      · rw [target, hs.running]
        rfl
  | certifyProviderMfaPolicy input => exact absurd trivial hact
  | revokeProviderMfaPolicyCertification input => exact absurd trivial hact

theorem target_of_takesEffect (hact : ¬ act.Certifies)
    (h : act.TakesEffect sha256hex db now) : (act.target db now).isSome = true := by
  cases act with
  | decideSupportAccess input =>
    obtain ⟨r, hr⟩ := decideSupportAccess_effective.mp h
    rw [target, hr.pending]
    rfl
  | startSupportSession input =>
    obtain ⟨r, hr⟩ := startSupportSession_effective.mp h
    rw [target, hr.approved]
    rfl
  | revokeSupportSession input =>
    obtain ⟨-, heff⟩ := h
    cases hrunning : runningSession db.toTables now input.supportSessionId with
    | none =>
      unfold Policy.revokeSupportSession at heff
      obtain ⟨actor, -, heff⟩ := effective_bind.mp heff
      rw [hrunning] at heff
      exact absurd heff not_effective_pure
    | some s => rw [target, hrunning]; rfl
  | certifyProviderMfaPolicy input => exact absurd trivial hact
  | revokeProviderMfaPolicyCertification input => exact absurd trivial hact

theorem gate_of_opens (h : act.Opens sha256hex db now) :
    ∃ t, act.target db now = some (some t) ∧ ∃ d ∈ act.actions,
      (d = supportApproveAction ∨ d = supportRevokeAction) ∧
        mayActTenantWide db.toTables now d t act.actor = true := by
  cases act with
  | decideSupportAccess input =>
    obtain ⟨r, hr⟩ := h
    refine ⟨r.tenantId, ?_, supportApproveAction, mem_singleton_self _, .inl rfl, hr.gate⟩
    rw [target, hr.pending]
    rfl
  | startSupportSession input =>
    obtain ⟨r, hr⟩ := h
    refine ⟨r.tenantId, ?_, supportApproveAction, mem_singleton_self _, .inl rfl, hr.gate⟩
    rw [target, hr.approved]
    rfl
  | revokeSupportSession input =>
    obtain ⟨s, hs⟩ := h
    refine ⟨s.tenantId, ?_, supportRevokeAction, mem_singleton_self _, .inr rfl, hs.gate⟩
    rw [target, hs.running]
    rfl
  | certifyProviderMfaPolicy input => cases h
  | revokeProviderMfaPolicyCertification input => cases h

theorem answered_of_authority (hdb : db.toTables.Sound) (hpub : PublishesGates engine.catalog)
    (hactions : act.actions = [mfaCertifyTenantAction, mfaCertifyPlatformAction])
    {tenantId : Option String} (htarget : act.target db now = some tenantId)
    (h : requireCertificationAuthority db.toTables now act.actor tenantId = .ok ()) :
    act.Answered engine db now := by
  obtain ⟨heff, hmay⟩ := requireCertificationAuthority_eq_ok.mp h
  refine ⟨tenantId, htarget, ?_, heff⟩
  rw [hactions]
  rcases hmay with hplatform | ⟨t, rfl, htenant⟩
  · exact ⟨mfaCertifyPlatformAction, by simp,
      wouldAllow_of_mayActPlatformWide hdb hpub.certifyPlatform rfl hplatform tenantId⟩
  · exact ⟨mfaCertifyTenantAction, by simp,
      wouldAllow_of_mayActTenantWide hdb hpub.certifyTenant rfl rfl htenant (heff t rfl)⟩

/-- A gated act takes effect only where the engine would allow it, in a tenant that is in
force, exactly when it is a certification, or its tenant is in force, or it is not open. -/
theorem takesEffect_answered_iff (engine : PolicyEngine) (hpub : PublishesGates engine.catalog)
    (sha256hex : String → String) (db : Administration) (hdb : db.toTables.Sound) (now : Int)
    (act : GatedAct) :
    (act.TakesEffect sha256hex db now → act.Answered engine db now) ↔
      act.Certifies ∨ act.TenantStands db now ∨ ¬ act.Opens sha256hex db now := by
  by_cases hact : act.Certifies
  · refine ⟨fun _ => .inl hact, fun _ heff => ?_⟩
    cases act with
    | certifyProviderMfaPolicy input =>
      obtain ⟨c, hc, hauth⟩ := certified_authority heff
      exact answered_of_authority hdb hpub rfl (by rw [target, hc]; rfl) hauth
    | revokeProviderMfaPolicyCertification input =>
      obtain ⟨c, hc, hauth⟩ := revoked_authority heff
      exact answered_of_authority hdb hpub rfl (by rw [target, hc]; rfl) hauth
    | decideSupportAccess input => cases hact
    | startSupportSession input => cases hact
    | revokeSupportSession input => cases hact
  · constructor
    · intro h
      by_cases hopen : act.Opens sha256hex db now
      · obtain ⟨htakes, -⟩ := (takesEffect_iff_opens hact).mpr hopen
        obtain ⟨tenantId, htarget, -, hstands⟩ := h htakes
        refine .inr (.inl fun t ht => hstands t ?_)
        rw [htarget, Option.some.injEq] at ht
        exact ht
      · exact .inr (.inr hopen)
    · rintro hcond heff
      have hopen := (takesEffect_iff_opens hact).mp ⟨heff, target_of_takesEffect hact heff⟩
      have hstands := (hcond.resolve_left hact).resolve_right (not_not.mpr hopen)
      obtain ⟨t, htarget, d, hd, hone, hgate⟩ := gate_of_opens hopen
      have hforce := hstands t htarget
      refine ⟨some t, htarget, ⟨d, hd, ?_⟩, fun t' ht' => ?_⟩
      · rcases hone with rfl | rfl
        · exact wouldAllow_of_mayActTenantWide hdb hpub.approve rfl rfl hgate hforce
        · exact wouldAllow_of_mayActTenantWide hdb hpub.revoke rfl rfl hgate hforce
      · rw [Option.some.injEq] at ht'
        exact ht' ▸ hforce

end Answered

end GatedAct

namespace OneRooftop

def gatekeeper : PolicyEngine where
  catalog := {
    list := [supportApproveAction, supportRevokeAction, mfaCertifyTenantAction,
      mfaCertifyPlatformAction]
    published := ⟨by decide, by decide, by decide, by decide⟩ }

theorem gatekeeper_publishes : PublishesGates gatekeeper.catalog := ⟨rfl, rfl, rfl, rfl⟩

def administrator : String := "00000000-0000-0000-0000-00000000000a"

def supporter : String := "00000000-0000-0000-0000-00000000000b"

def pendingSupport : SupportAccessRequest :=
  ⟨"q", "t", supporter, ["lead.read"], .tenant, none, 30, .pending, none, none⟩

/-- A tenant of the given status with an administrator, and a request for support pending. -/
def supportDesk (status : OrgStatus) : Administration where
  organization := organization status
  userLinks := [⟨administrator, .dealership, some "t", .activated, always⟩,
    ⟨supporter, .platform, none, .activated, always⟩]
  roleBindings := [⟨"b1", some "t", administrator, "tenant_admin", .tenant, some "t", none, none,
      .active, always, 1⟩]
  identitySessions := []
  connections := []
  supportRequests := [pendingSupport]
  supportSessions := []
  resources := []
  grants := []
  events := []

theorem supportDesk_sound (status : OrgStatus) : (supportDesk status).toTables.Sound where
  tenantKey := nodup_singleton _
  bindingKey := nodup_singleton _
  supportSessionKey := nodup_nil
  sessionKey := nodup_nil
  bindingPlatform := forall_mem_singleton.mpr (by decide)
  bindingScoped := forall_mem_singleton.mpr (by decide)
  bindingVersion := forall_mem_singleton.mpr (by decide)
  bindingLink := forall_mem_singleton.mpr ⟨_, rfl, fun _ => rfl⟩
  linkScope := forall_mem_cons.mpr ⟨by decide, forall_mem_singleton.mpr (by decide)⟩
  sessionBound := forall_mem_nil _
  supportRequested := forall_mem_nil _
  supportActor := forall_mem_nil _
  approvalDecided := forall_mem_singleton.mpr (by decide)
  requestScoped := forall_mem_singleton.mpr (by decide)

def denial : DecideSupportAccess := ⟨"q", administrator, false, none, "s"⟩

theorem denial_effective (status : OrgStatus) :
    (GatedAct.decideSupportAccess denial).TakesEffect id (supportDesk status) 100 := by
  refine decideSupportAccess_effective.mpr ⟨pendingSupport, ⟨by decide, rfl⟩, rfl, by decide, ?_,
    ⟨rfl, ?_⟩, ?_, ?_⟩
  · cases status <;> decide
  · exact fun h => absurd h Bool.false_ne_true
  · exact fun h => absurd h Bool.false_ne_true
  · exact fun h => absurd h Bool.false_ne_true

end OneRooftop

open OneRooftop in
theorem denial_answered :
    (GatedAct.decideSupportAccess denial).Answered gatekeeper (supportDesk .active) 100 :=
  (GatedAct.takesEffect_answered_iff gatekeeper gatekeeper_publishes id (supportDesk .active)
    (supportDesk_sound .active) 100 (.decideSupportAccess denial)).mpr
    (.inr (.inl fun t ht => by cases ht; decide)) (denial_effective .active)

open OneRooftop in
/-- The administrator of a suspended tenant denies the request, and the engine would not
let them. -/
theorem denial_unanswered :
    ¬ ((GatedAct.decideSupportAccess denial).TakesEffect id (supportDesk .suspended) 100 →
      (GatedAct.decideSupportAccess denial).Answered gatekeeper (supportDesk .suspended) 100) := by
  intro h
  obtain ⟨target, htarget, -, hstands⟩ := h (denial_effective .suspended)
  cases htarget
  exact absurd (hstands "t" rfl) (by decide)

end Dealership.Policy
