import Dealership.Identity.LoginTransaction
import Dealership.Policy.Schema
import Mathlib.Tactic.MkIffOfInductiveProp

/-!
# The identity tables

Who a request comes from is a chain of rows: a tenant, the connection to the provider its
people sign in through, the link of a person to that connection, and the local session the
link was issued.  Beside them stand the step-ups started from a session and the audit trail.

`Lawful` is what the schema refuses to see broken.  Two of its foreign keys carry the chain:
the tuple of a link resolves to a connection, and the tuple of a session to its link.

Instants are milliseconds.
-/

namespace Dealership.Identity

open Library

/-! ## Rows -/

/-- A row of `tenants`. -/
structure Tenant extends Policy.Tenant where
  authorizationVersion : Nat
deriving DecidableEq

/-- A row of `identity_provider_connections`. -/
structure Connection extends Policy.ProviderConnection where
  provider : String
  providerOrganizationId : String
  issuer : String
  active : Bool
  window : Policy.EffectiveWindow
  authorizationVersion : Nat
deriving DecidableEq

/-- A row of `user_links`. -/
structure UserLink extends Policy.UserLink where
  provider : String
  providerUserId : String
  connectionId : Option String
  providerOrganizationId : Option String
  issuer : Option String
  authorizationVersion : Nat
deriving DecidableEq

/-- `SessionCredentialKind`. -/
inductive SessionCredentialKind where
  | cookie
  | bearer
deriving DecidableEq

/-- Sealed refresh state.  AES-256-GCM opens a seal under the key it was made with, to what
was sealed, and under no other key. -/
structure SealedState where
  key : String
  refreshToken : String
  iat : Int
deriving DecidableEq

/-- A row of `identity_sessions`. -/
structure SessionRow where
  sessionId : String
  tenantId : Option String
  userLinkId : String
  credentialKind : SessionCredentialKind
  sessionTokenHash : Option String
  bearerKeyHash : Option String
  providerSessionId : Option String
  connectionId : Option String
  issuer : Option String
  providerSubject : Option String
  providerOrganizationId : Option String
  authTime : Int
  issuedAt : Int
  expiresAt : Int
  lastSeenAt : Int
  providerAccessTokenExpiresAt : Option Int
  refreshTokenHash : Option String
  refreshStateSealed : Option SealedState
  refreshStateKeyVersion : Option Int
  refreshRotationCount : Nat
  lastRefreshedAt : Option Int
  refreshLeaseId : Option String
  refreshLeaseExpiresAt : Option Int
  revokedAt : Option Int
  revokedReason : Option String
  revokedByUserLinkId : Option String
  authorizationVersion : Nat
deriving DecidableEq

inductive ReauthenticationState where
  | started
  | completed
  | failed
  | expired
deriving DecidableEq

inductive AssuranceLevel where
  | freshOnly
  | freshAndMfaPolicy
deriving DecidableEq

/-- A row of `reauthentication_transactions`. -/
structure ReauthenticationRow where
  reauthTxnId : String
  tenantId : String
  userLinkId : String
  sessionId : Option String
  action : String
  resourceType : Option String
  resourceId : Option String
  nonceHash : String
  oidcNonceHash : Option String
  stateHash : Option String
  codeVerifierHash : Option String
  callbackUri : Option String
  connectionId : Option String
  issuer : Option String
  providerOrganizationId : Option String
  providerSubject : Option String
  requiredAssurance : AssuranceLevel
  state : ReauthenticationState
  startedAt : Int
  expiresAt : Int
  claimedAt : Option Int
  completedAt : Option Int
  terminalAt : Option Int
  terminalReason : Option String
deriving DecidableEq

/-- What the audit row of a session transition says. -/
inductive SessionFact where
  | established (credentialKind : SessionCredentialKind) (refreshable : Bool) (expiresAt : Int)
  | ended (reason : String) (credentialKind : SessionCredentialKind) (authorizationVersion : Nat)
  | refreshStateRotated (rotationCount : Nat) (credentialKind : SessionCredentialKind)
      (authorizationVersion : Nat)
  | refreshed (rotationCount : Nat) (authTimeAdvanced : Bool) (providerSessionIdBound : Bool)
  | stepUpStarted (action : String) (resourceType : Option String)
      (requiredAssurance : AssuranceLevel)
deriving DecidableEq

def SessionFact.ends : SessionFact → Bool
  | .ended _ _ _ => true
  | _ => false

/-- A row of `audit_events` about a session or a step-up from it. -/
structure SessionEvent where
  entityId : String
  tenantId : String
  actorUserId : Option String
  fact : SessionFact
deriving DecidableEq

/-- A row of `audit_events` that `recordMutation` writes. -/
structure MutationRecord where
  entityType : String
  entityId : String
  tenantId : String
  eventType : String
  actingUserLinkId : String
  authorizationVersion : Nat
deriving DecidableEq

structure Store where
  tenants : List Tenant
  connections : List Connection
  userLinks : List UserLink
  sessions : List SessionRow
  stepUps : List ReauthenticationRow
  events : List SessionEvent
  mutations : List MutationRecord
deriving DecidableEq

variable {d : Store}

/-! ## Lookups -/

namespace Store

variable (d : Store)

def tenant (tenantId : String) : Option Tenant :=
  d.tenants.find? fun t => t.tenantId = tenantId

def connection (connectionId : String) : Option Connection :=
  d.connections.find? fun c => c.connectionId = connectionId

def link (userLinkId : String) : Option UserLink :=
  d.userLinks.find? fun ul => ul.userLinkId = userLinkId

def session (sessionId : String) : Option SessionRow :=
  d.sessions.find? fun s => s.sessionId = sessionId

end Store

/-! ## What the schema refuses -/

/-- `COALESCE(tenant_id, nil)`: the generated key that stands for the platform where there
is no tenant. -/
def tenantKey (tenantId : Option String) : String := tenantId.getD nilTenant

/-- The `CHECK`s on a session's columns.  The one on `revoked_reason`, 1 to 200 characters, is
left out: every reason this program gives is a short literal. -/
@[mk_iff]
structure SessionRow.Checked (s : SessionRow) : Prop where
  expires : s.issuedAt < s.expiresAt
  versioned : s.refreshStateSealed.isNone = s.refreshStateKeyVersion.isNone
  keyVersionPositive : ∀ v ∈ s.refreshStateKeyVersion, 1 ≤ v
  hasDigest : s.refreshStateSealed.isSome → s.refreshTokenHash.isSome
  leasePaired : s.refreshLeaseId.isNone = s.refreshLeaseExpiresAt.isNone
  leaseNeedsState : s.refreshLeaseId.isSome → s.refreshStateSealed.isSome
  revokedHoldsNone : s.revokedAt.isSome → s.refreshTokenHash = none ∧ s.refreshStateSealed = none
  cookieKey : s.credentialKind = .cookie ↔ s.sessionTokenHash.isSome
  bearerKey : s.credentialKind = .bearer ↔ s.bearerKeyHash.isSome
  bearerHoldsNone : s.credentialKind = .bearer →
    s.refreshTokenHash = none ∧ s.refreshStateSealed = none
  bearerNoExpiry : s.credentialKind = .bearer → s.providerAccessTokenExpiresAt = none
  liveBound : s.revokedAt = none → s.connectionId.isSome ∧ s.issuer.isSome ∧
    s.providerSubject.isSome ∧ s.providerOrganizationId.isSome

instance SessionRow.instDecidableChecked (s : SessionRow) : Decidable s.Checked :=
  decidable_of_iff' _ (SessionRow.checked_iff s)

/-- `ul_connection_identity_tuple`, where no column of it is null. -/
def Store.LinkResolves (d : Store) (ul : UserLink) : Prop :=
  ∀ connectionId ∈ ul.connectionId, ∀ org ∈ ul.providerOrganizationId, ∀ issuer ∈ ul.issuer,
    ∃ c ∈ d.connections, c.connectionId = connectionId ∧
      tenantKey c.tenantId = tenantKey ul.tenantId ∧ c.provider = ul.provider ∧
      c.providerOrganizationId = org ∧ c.issuer = issuer

instance Store.instDecidableLinkResolves (d : Store) (ul : UserLink) :
    Decidable (d.LinkResolves ul) := by
  unfold Store.LinkResolves
  infer_instance

/-- `is_link_identity_tuple`, where no column of it is null. -/
def Store.SessionResolves (d : Store) (s : SessionRow) : Prop :=
  ∀ connectionId ∈ s.connectionId, ∀ org ∈ s.providerOrganizationId, ∀ issuer ∈ s.issuer,
    ∀ subject ∈ s.providerSubject,
      ∃ ul ∈ d.userLinks, ul.userLinkId = s.userLinkId ∧
        tenantKey ul.tenantId = tenantKey s.tenantId ∧ ul.connectionId = some connectionId ∧
        ul.providerOrganizationId = some org ∧ ul.issuer = some issuer ∧
        ul.providerUserId = subject

instance Store.instDecidableSessionResolves (d : Store) (s : SessionRow) :
    Decidable (d.SessionResolves s) := by
  unfold Store.SessionResolves
  infer_instance

/-- `REFERENCES tenants (tenant_id)`. -/
def Store.KnowsTenant (d : Store) (tenantId : Option String) : Prop :=
  ∀ t ∈ tenantId, ∃ r ∈ d.tenants, r.tenantId = t

instance Store.instDecidableKnowsTenant (d : Store) (tenantId : Option String) :
    Decidable (d.KnowsTenant tenantId) := by
  unfold Store.KnowsTenant
  infer_instance

/-- The keys, checks and foreign keys of the identity tables. -/
@[mk_iff]
structure Store.Lawful (d : Store) : Prop where
  tenantKeys : (d.tenants.map fun t => t.tenantId).Nodup
  platformKey : ∀ t ∈ d.tenants, t.tenantId ≠ nilTenant
  connectionKeys : (d.connections.map fun c => c.connectionId).Nodup
  connectionHomes : (d.connections.map fun c => (c.provider, c.providerOrganizationId)).Nodup
  connectionActive :
    ((d.connections.filter fun c => c.active).map fun c => (c.provider, c.tenantId)).Nodup
  connectionTenant : ∀ c ∈ d.connections, d.KnowsTenant c.tenantId
  linkKeys : (d.userLinks.map fun ul => ul.userLinkId).Nodup
  linkPersons : (d.userLinks.map fun ul => (ul.tenantId, ul.provider, ul.providerUserId)).Nodup
  linkTenant : ∀ ul ∈ d.userLinks, d.KnowsTenant ul.tenantId
  linkBound : ∀ ul ∈ d.userLinks, ul.status = .activated →
    ul.connectionId.isSome ∧ ul.providerOrganizationId.isSome ∧ ul.issuer.isSome
  linkResolves : ∀ ul ∈ d.userLinks, d.LinkResolves ul
  sessionKeys : (d.sessions.map SessionRow.sessionId).Nodup
  sessionTokens : (d.sessions.filterMap SessionRow.sessionTokenHash).Nodup
  bearerKeys : (d.sessions.filterMap SessionRow.bearerKeyHash).Nodup
  sessionChecked : ∀ s ∈ d.sessions, s.Checked
  sessionTenant : ∀ s ∈ d.sessions, d.KnowsTenant s.tenantId
  sessionLink : ∀ s ∈ d.sessions, ∃ ul ∈ d.userLinks, ul.userLinkId = s.userLinkId
  sessionResolves : ∀ s ∈ d.sessions, d.SessionResolves s

instance Store.instDecidableLawful (d : Store) : Decidable d.Lawful :=
  decidable_of_iff' _ (Store.lawful_iff d)

/-! ## What follows -/

theorem Store.Lawful.tenantId_eq (h : d.Lawful) {a b : Option String} (ha : d.KnowsTenant a)
    (hb : d.KnowsTenant b) (hkey : tenantKey a = tenantKey b) : a = b := by
  have named : ∀ {t : String}, d.KnowsTenant (some t) → t ≠ nilTenant := by
    intro t ht
    obtain ⟨r, hr, rfl⟩ := ht t rfl
    exact h.platformKey r hr
  cases a with
  | none =>
    cases b with
    | none => rfl
    | some t => exact absurd hkey.symm (named hb)
  | some t =>
    cases b with
    | none => exact absurd hkey (named ha)
    | some u => exact congrArg some hkey

theorem Store.Lawful.link_of_live (h : d.Lawful) {s : SessionRow} (hs : s ∈ d.sessions)
    (hlive : s.revokedAt = none) :
    ∃ ul ∈ d.userLinks, ul.userLinkId = s.userLinkId ∧ ul.tenantId = s.tenantId ∧
      ul.connectionId = s.connectionId ∧ ul.providerOrganizationId = s.providerOrganizationId ∧
      ul.issuer = s.issuer ∧ some ul.providerUserId = s.providerSubject := by
  obtain ⟨hconnection, hissuer, hsubject, horg⟩ := (h.sessionChecked s hs).liveBound hlive
  obtain ⟨connectionId, hc⟩ := Option.isSome_iff_exists.mp hconnection
  obtain ⟨issuer, hi⟩ := Option.isSome_iff_exists.mp hissuer
  obtain ⟨subject, hp⟩ := Option.isSome_iff_exists.mp hsubject
  obtain ⟨org, ho⟩ := Option.isSome_iff_exists.mp horg
  obtain ⟨ul, hul, hid, htenant, hulc, hulo, huli, hulp⟩ :=
    h.sessionResolves s hs connectionId hc org ho issuer hi subject hp
  refine ⟨ul, hul, hid, ?_, hulc.trans hc.symm, hulo.trans ho.symm, huli.trans hi.symm, ?_⟩
  · exact h.tenantId_eq (h.linkTenant ul hul) (h.sessionTenant s hs) htenant
  · rw [hulp, hp]

theorem Store.Lawful.session_of_mem (h : d.Lawful) {s : SessionRow}
    (hs : s ∈ d.sessions) : d.session s.sessionId = some s :=
  find?_eq_some_of_key h.sessionKeys hs

theorem Store.Lawful.link_of_mem (h : d.Lawful) {ul : UserLink}
    (hul : ul ∈ d.userLinks) : d.link ul.userLinkId = some ul :=
  find?_eq_some_of_key h.linkKeys hul

end Dealership.Identity
