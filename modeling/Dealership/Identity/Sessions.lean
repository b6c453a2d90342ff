import Dealership.Identity.Schema

/-!
# Local sessions

A session is created by a login, found again by the digest of the cookie, and ended by one
statement whatever the reason.  A bearer credential has a session too: it is found by a key
over the seven facts of the credential, and established once, under a guard that reads the
same chain of rows a revalidation reads.

Every operation takes the `NOW()` of its transaction, and those that look at the clock of the
process take that too.  It returns what it answers with the rows it leaves, or it raises.
-/

namespace Dealership.Identity

open Library

/-! ## What the callers see -/

structure IdentitySession where
  sessionId : String
  credentialKind : SessionCredentialKind
  tenantId : Option String
  userLinkId : String
  connectionId : Option String
  issuer : Option String
  providerSubject : Option String
  providerOrganizationId : Option String
  providerSessionId : Option String
  authTime : Int
  issuedAt : Int
  expiresAt : Int
  providerAccessTokenExpiresAt : Option Int
  refreshable : Bool
deriving DecidableEq

def mapSession (r : SessionRow) : IdentitySession where
  sessionId := r.sessionId
  credentialKind := r.credentialKind
  tenantId := r.tenantId
  userLinkId := r.userLinkId
  connectionId := r.connectionId
  issuer := r.issuer
  providerSubject := r.providerSubject
  providerOrganizationId := r.providerOrganizationId
  providerSessionId := r.providerSessionId
  authTime := r.authTime
  issuedAt := r.issuedAt
  expiresAt := r.expiresAt
  providerAccessTokenExpiresAt := r.providerAccessTokenExpiresAt
  refreshable := r.refreshStateSealed.isSome

def hashSessionToken (token : String) : String := sha256hex token

/-! ## Statements -/

/-- A statement on the identity tables, refused when it breaks the schema. -/
def Store.write (d : Store) (f : Store → Store) : Except Raise Store :=
  if (f d).Lawful then pure (f d) else throw (.database "identity schema")

theorem Store.write_eq_ok {d d' : Store} {f : Store → Store} :
    d.write f = .ok d' ↔ (f d).Lawful ∧ f d = d' := by
  unfold Store.write
  split
  · rename_i h
    constructor
    · intro he
      cases he
      exact ⟨h, rfl⟩
    · rintro ⟨-, rfl⟩
      rfl
  · rename_i h
    constructor
    · intro he
      cases he
    · intro he
      exact absurd he.1 h

/-- `UPDATE identity_sessions SET f WHERE p`. -/
def Store.setSessions (p : SessionRow → Prop) [DecidablePred p] (f : SessionRow → SessionRow)
    (d : Store) : Store :=
  { d with sessions := updateWhere p f d.sessions }

/-- `auditSession`. -/
def Store.auditSession (d : Store) (s : SessionRow) (actorUserLinkId : Option String)
    (fact : SessionFact) : Store :=
  { d with events := d.events ++ [⟨s.sessionId, s.tenantId.getD nilTenant, actorUserLinkId, fact⟩] }

/-! ## Sealed refresh state -/

def refreshStateKeyVersion : Int := 1

def defaultClockToleranceSeconds : Int := 60

def defaultRefreshStateMaxAgeSeconds : Int := 30 * 24 * 3600

def keyFor (cookiePassword : String) : String := sha256hex cookiePassword

def sealRefreshState (clock : Int) (refreshToken cookiePassword : String) : SealedState where
  key := keyFor cookiePassword
  refreshToken := refreshToken
  iat := clock / 1000

/-- A seal under another key, from the future, too old or over nothing opens to `none`. -/
def openRefreshState (clock : Int) (sealed : SealedState) (cookiePassword : String)
    (maxAgeSeconds : Int) : Option String :=
  if sealed.key = keyFor cookiePassword ∧
      sealed.iat - clock / 1000 ≤ defaultClockToleranceSeconds ∧
      clock / 1000 - sealed.iat ≤ maxAgeSeconds ∧ sealed.refreshToken ≠ "" then
    some sealed.refreshToken
  else none

/-! ## Creating -/

structure CreateSessionInput where
  tenantId : Option String
  userLinkId : String
  providerSessionId : Option String
  authTime : Int
  ttlSeconds : Int
  connectionId : Option String
  issuer : Option String
  providerSubject : Option String
  providerOrganizationId : Option String
  refreshToken : Option String
  cookiePassword : Option String
  refreshStateKeyVersion : Option Int
  providerAccessTokenExpiresAt : Option Int

/-- The row a login inserts, under an identifier and a cookie the server draws. -/
def newCookieSession (now clock : Int) (newSessionId sessionToken : String)
    (input : CreateSessionInput) : SessionRow :=
  let sealed :=
    match input.refreshToken, input.cookiePassword with
    | some refreshToken, some cookiePassword =>
      some (sealRefreshState clock refreshToken cookiePassword)
    | _, _ => none
  { sessionId := newSessionId
    tenantId := input.tenantId
    userLinkId := input.userLinkId
    credentialKind := .cookie
    sessionTokenHash := some (hashSessionToken sessionToken)
    bearerKeyHash := none
    providerSessionId := input.providerSessionId
    connectionId := input.connectionId
    issuer := input.issuer
    providerSubject := input.providerSubject
    providerOrganizationId := input.providerOrganizationId
    authTime := input.authTime
    issuedAt := now
    expiresAt := now + 1000 * input.ttlSeconds
    lastSeenAt := now
    providerAccessTokenExpiresAt := input.providerAccessTokenExpiresAt
    refreshTokenHash := input.refreshToken.map hashSessionToken
    refreshStateSealed := sealed
    refreshStateKeyVersion := sealed.map fun _ =>
      input.refreshStateKeyVersion.getD Identity.refreshStateKeyVersion
    refreshRotationCount := 0
    lastRefreshedAt := none
    refreshLeaseId := none
    refreshLeaseExpiresAt := none
    revokedAt := none
    revokedReason := none
    revokedByUserLinkId := none
    authorizationVersion := 1 }

/-- The row inserted, and the audit row it owes: nobody but the person performed it. -/
def Store.establish (d : Store) (row : SessionRow) : Except Raise (IdentitySession × Store) := do
  let d ← d.write fun d => { d with sessions := d.sessions ++ [row] }
  pure (mapSession row, d.auditSession row (some row.userLinkId)
    (.established row.credentialKind row.refreshStateSealed.isSome row.expiresAt))

def createSessionWithin (now clock : Int) (newSessionId sessionToken : String)
    (input : CreateSessionInput) (d : Store) : Except Raise (IdentitySession × Store) :=
  d.establish (newCookieSession now clock newSessionId sessionToken input)

/-! ## Looking -/

def SessionRow.touch (now : Int) (s : SessionRow) : SessionRow := { s with lastSeenAt := now }

def UserLink.effective (ul : UserLink) (now : Int) : Bool :=
  decide (ul.status = .activated) && ul.window.covers now

def Connection.effective (c : Connection) (now : Int) : Bool :=
  c.active && c.window.covers now

/-- `tenant_id IS NULL OR EXISTS (SELECT 1 FROM tenants …)`. -/
def Store.tenantEffective (d : Store) (tenantId : Option String) (now : Int) : Bool :=
  tenantId.all fun t => (d.tenant t).any fun r => r.effective now

/-- The cookie of a session that is neither revoked nor expired, under an effective link. -/
def Store.validates (d : Store) (now : Int) (sessionToken : String) (s : SessionRow) : Prop :=
  s.sessionTokenHash = some (hashSessionToken sessionToken) ∧ s.revokedAt = none ∧
    now < s.expiresAt ∧ (d.link s.userLinkId).any (fun ul => ul.effective now) = true

instance (d : Store) (now : Int) (sessionToken : String) :
    DecidablePred (d.validates now sessionToken) := fun s => by
  unfold Store.validates
  infer_instance

def validateSessionToken (now : Int) (sessionToken : String) (d : Store) :
    Except Raise (Option IdentitySession × Store) := do
  let d' ← d.write (Store.setSessions (d.validates now sessionToken) (SessionRow.touch now))
  pure ((d.sessions.find? fun s => d.validates now sessionToken s).map fun s =>
    mapSession (s.touch now), d')

/-! ## Revoking -/

/-- `RevocationTarget`. -/
inductive RevocationTarget where
  | sessionTokenHash (value : String)
  | sessionId (value : String)
  | userLinkId (value : String)

/-- `REVOCATION_TARGET_SQL`.  A sweep of a link touches live sessions only. -/
def RevocationTarget.hits (now : Int) : RevocationTarget → SessionRow → Prop
  | .sessionTokenHash value, s => s.sessionTokenHash = some value
  | .sessionId value, s => s.sessionId = value
  | .userLinkId value, s => s.userLinkId = value ∧ now < s.expiresAt

/-- The rows a revocation finds: those under its target that are not revoked yet. -/
def RevocationTarget.finds (now : Int) (target : RevocationTarget) (s : SessionRow) : Prop :=
  target.hits now s ∧ s.revokedAt = none

instance (now : Int) (target : RevocationTarget) : DecidablePred (target.finds now) := fun s => by
  unfold RevocationTarget.finds RevocationTarget.hits
  cases target <;> infer_instance

/-- What a revocation sets: the instant, the reason and the actor, and the provider credential
is destroyed. -/
def SessionRow.revoke (now : Int) (reason : String) (actingUserLinkId : Option String)
    (s : SessionRow) : SessionRow :=
  { s with
    revokedAt := some now
    revokedReason := some reason
    revokedByUserLinkId := actingUserLinkId.or s.revokedByUserLinkId
    authorizationVersion := s.authorizationVersion + 1
    refreshTokenHash := none
    refreshStateSealed := none
    refreshStateKeyVersion := none
    refreshLeaseId := none
    refreshLeaseExpiresAt := none }

/-- Whose act a revocation is: the one named, and for a logout the owner's own. -/
def revocationActor (reason : String) (actingUserLinkId : Option String)
    (rows : List SessionRow) : Option String :=
  actingUserLinkId.or (if reason = "logout" then rows.head?.map SessionRow.userLinkId else none)

/-- `auditRevocations`: one row for every session revoked. -/
def revocationEvent (reason : String) (actor : Option String) (s : SessionRow) : SessionEvent :=
  ⟨s.sessionId, s.tenantId.getD nilTenant, actor,
    .ended reason s.credentialKind s.authorizationVersion⟩

/-- The one statement that revokes a session, with the audit rows it owes. -/
def revokeSessionsWithin (now : Int) (target : RevocationTarget) (reason : String)
    (actingUserLinkId : Option String) (d : Store) : Except Raise (List SessionRow × Store) := do
  let d' ← d.write (Store.setSessions (target.finds now)
    (SessionRow.revoke now reason actingUserLinkId))
  let rows := (d.sessions.filter fun s => target.finds now s).map
    (SessionRow.revoke now reason actingUserLinkId)
  let actor := revocationActor reason actingUserLinkId rows
  pure (rows, { d' with events := d'.events ++ rows.map (revocationEvent reason actor) })

def revokeSessionByToken (now : Int) (sessionToken reason : String)
    (actingUserLinkId : Option String) (d : Store) : Except Raise (Bool × Store) := do
  let (rows, d) ← revokeSessionsWithin now (.sessionTokenHash (hashSessionToken sessionToken))
    reason actingUserLinkId d
  pure (decide (0 < rows.length), d)

def revokeSessionsForUserLink (now : Int) (userLinkId reason : String)
    (actingUserLinkId : Option String) (d : Store) : Except Raise (Nat × Store) := do
  let (rows, d) ← revokeSessionsWithin now (.userLinkId userLinkId) reason actingUserLinkId d
  pure (rows.length, d)

def revokeSessionById (now : Int) (sessionId reason : String)
    (actingUserLinkId : Option String) (d : Store) : Except Raise (Bool × Store) := do
  let (rows, d) ← revokeSessionsWithin now (.sessionId sessionId) reason actingUserLinkId d
  pure (decide (0 < rows.length), d)

/-! ## The six facts -/

/-- `a = b` in SQL: a null equals nothing. -/
def sqlEq (a b : Option String) : Bool := a.isSome && decide (a = b)

/-- `STEP_UP_IDENTITY_SQL` for the rows behind a session. -/
def identityAgrees (s : SessionRow) (ul : UserLink) (c : Connection) (now : Int) : Bool :=
  ul.effective now && decide (ul.tenantId = s.tenantId) &&
    sqlEq (some ul.providerUserId) s.providerSubject &&
    sqlEq ul.connectionId s.connectionId && sqlEq ul.issuer s.issuer &&
    sqlEq ul.providerOrganizationId s.providerOrganizationId &&
    c.effective now && sqlEq (some c.issuer) s.issuer &&
    sqlEq (some c.providerOrganizationId) s.providerOrganizationId &&
    decide (c.tenantId = s.tenantId)

/-- The chain behind a session holds: the session is live, and link, connection and tenant are
in force and agree with it. -/
def Store.chainHolds (d : Store) (now : Int) (s : SessionRow) : Bool :=
  decide (s.revokedAt = none) && decide (now < s.expiresAt) &&
    (d.link s.userLinkId).any (fun ul =>
      (s.connectionId.bind d.connection).any fun c => identityAgrees s ul c now) &&
    d.tenantEffective s.tenantId now

/-- `IDENTITY_REVALIDATION_SQL`. -/
def Store.revalidates (d : Store) (now : Int) (expectedIssuer : String) (s : SessionRow) : Bool :=
  d.chainHolds now s && decide (s.issuer = some expectedIssuer)

def revalidateSessionIdentity (now : Int) (sessionId expectedIssuer : String) (d : Store) :
    Option IdentitySession :=
  (d.sessions.find? fun s => s.sessionId = sessionId ∧
    d.revalidates now expectedIssuer s = true).map mapSession

/-! ## Bearer sessions -/

def defaultBearerSessionTtlSeconds : Int := 8 * 3600

/-- The seven facts a bearer session is keyed by. -/
structure BearerSessionIdentity where
  issuer : String
  providerSessionId : String
  providerOrganizationId : String
  providerSubject : String
  tenantId : Option String
  userLinkId : String
  connectionId : String

structure ResolveBearerSessionInput extends BearerSessionIdentity where
  authTime : Int
  expectedIssuer : String
  ttlSeconds : Option Int

inductive BearerSessionRefusal where
  | revoked
  | expired
  | issuerMismatch
  | identityNotEffective
deriving DecidableEq

inductive BearerSessionOutcome where
  | live (session : IdentitySession) (established : Bool)
  | refused (reason : BearerSessionRefusal)
deriving DecidableEq

/-- A length, a colon and the text, one after another. -/
def lengthPrefixed (parts : List String) : List Char :=
  parts.flatMap fun part =>
    Nat.toDigits 10 (Sha256.utf8 part.toList).length ++ ':' :: part.toList

def bearerSessionKey (identity : BearerSessionIdentity) : String :=
  Sha256.hexText (lengthPrefixed
    ["dealer.bearer-session.v1", identity.issuer, identity.providerSessionId,
      identity.providerOrganizationId, identity.providerSubject, identity.tenantId.getD "",
      identity.userLinkId, identity.connectionId])

/-- The `WHERE` of `resolveBearerSession`. -/
def Store.resolves (d : Store) (now : Int) (input : ResolveBearerSessionInput) (s : SessionRow) :
    Prop :=
  s.bearerKeyHash = some (bearerSessionKey input.toBearerSessionIdentity) ∧
    s.credentialKind = .bearer ∧ s.tenantId = input.tenantId ∧
    s.userLinkId = input.userLinkId ∧ s.connectionId = some input.connectionId ∧
    s.providerOrganizationId = some input.providerOrganizationId ∧
    s.providerSubject = some input.providerSubject ∧
    s.providerSessionId = some input.providerSessionId ∧
    d.revalidates now input.expectedIssuer s = true

instance (d : Store) (now : Int) (input : ResolveBearerSessionInput) :
    DecidablePred (d.resolves now input) := fun s => by
  unfold Store.resolves
  infer_instance

def resolveBearerSession (now : Int) (input : ResolveBearerSessionInput) (d : Store) :
    Except Raise (Option IdentitySession × Store) := do
  let d' ← d.write (Store.setSessions (d.resolves now input) (SessionRow.touch now))
  pure ((d.sessions.find? fun s => d.resolves now input s).map fun s =>
    mapSession (s.touch now), d')

/-- Why a session that exists under a key did not resolve. -/
def classifyMissingBearerSession (clock : Int) (key : String) (d : Store) :
    Option BearerSessionRefusal :=
  (d.sessions.find? fun s => s.bearerKeyHash = some key ∧ s.credentialKind = .bearer).map fun s =>
    if s.revokedAt.isSome then .revoked
    else if s.expiresAt ≤ clock then .expired
    else .identityNotEffective

/-- The guard of the insert: the link and the connection it is bound to, read anew. -/
def Store.admitsBearer (d : Store) (now : Int) (input : ResolveBearerSessionInput) : Bool :=
  (d.link input.userLinkId).any (fun ul =>
    (ul.connectionId.bind d.connection).any fun c =>
      ul.effective now && decide (ul.tenantId = input.tenantId) &&
        decide (ul.providerUserId = input.providerSubject) &&
        decide (ul.connectionId = some input.connectionId) &&
        decide (ul.issuer = some input.expectedIssuer) &&
        decide (ul.providerOrganizationId = some input.providerOrganizationId) &&
        c.effective now && decide (c.issuer = input.expectedIssuer) &&
        decide (c.providerOrganizationId = input.providerOrganizationId) &&
        decide (c.tenantId = input.tenantId)) &&
    d.tenantEffective input.tenantId now

def newBearerSession (now : Int) (newSessionId : String) (input : ResolveBearerSessionInput) :
    SessionRow where
  sessionId := newSessionId
  tenantId := input.tenantId
  userLinkId := input.userLinkId
  credentialKind := .bearer
  sessionTokenHash := none
  bearerKeyHash := some (bearerSessionKey input.toBearerSessionIdentity)
  providerSessionId := some input.providerSessionId
  connectionId := some input.connectionId
  issuer := some input.expectedIssuer
  providerSubject := some input.providerSubject
  providerOrganizationId := some input.providerOrganizationId
  authTime := input.authTime
  issuedAt := now
  expiresAt := now + 1000 * input.ttlSeconds.getD defaultBearerSessionTtlSeconds
  lastSeenAt := now
  providerAccessTokenExpiresAt := none
  refreshTokenHash := none
  refreshStateSealed := none
  refreshStateKeyVersion := none
  refreshRotationCount := 0
  lastRefreshedAt := none
  refreshLeaseId := none
  refreshLeaseExpiresAt := none
  revokedAt := none
  revokedReason := none
  revokedByUserLinkId := none
  authorizationVersion := 1

/-- One insert: nothing when the guard refuses, nothing when the key is taken. -/
def establishBearerSession (now : Int) (newSessionId : String)
    (input : ResolveBearerSessionInput) (d : Store) :
    Except Raise (Option IdentitySession × Store) := do
  let row := newBearerSession now newSessionId input
  if d.admitsBearer now input = false then pure (none, d)
  else
    ensure (decide row.Checked) "identity_sessions_check"
    if d.sessions.any (fun s => decide (s.bearerKeyHash = row.bearerKeyHash)) then pure (none, d)
    else
      let (session, d) ← d.establish row
      pure (some session, d)

/-- Where a call of `resolveOrEstablishBearerSession` stands between its statements. -/
inductive BearerStage where
  | resolving
  | classifying
  | establishing
  | resolvingAgain
  | classifyingAgain
  | answered (outcome : BearerSessionOutcome)
deriving DecidableEq

/-- The first thing a call does is compare the issuers. -/
def BearerStage.first (input : ResolveBearerSessionInput) : BearerStage :=
  if input.issuer ≠ input.expectedIssuer then .answered (.refused .issuerMismatch)
  else .resolving

/-- The next statement of `resolveOrEstablishBearerSession`. -/
def resolveOrEstablishBearerSession (now clock : Int) (newSessionId : String)
    (input : ResolveBearerSessionInput) (d : Store) :
    BearerStage → Except Raise (BearerStage × Store)
  | .resolving => do
    let (resolved, d) ← resolveBearerSession now input d
    pure (resolved.elim .classifying fun s => .answered (.live s false), d)
  | .classifying =>
    pure ((classifyMissingBearerSession clock
        (bearerSessionKey input.toBearerSessionIdentity) d).elim .establishing
      fun refusal => .answered (.refused refusal), d)
  | .establishing => do
    let (established, d) ← establishBearerSession now newSessionId input d
    pure (established.elim .resolvingAgain fun s => .answered (.live s true), d)
  | .resolvingAgain => do
    let (resolved, d) ← resolveBearerSession now input d
    pure (resolved.elim .classifyingAgain fun s => .answered (.live s false), d)
  | .classifyingAgain =>
    pure (.answered (.refused ((classifyMissingBearerSession clock
      (bearerSessionKey input.toBearerSessionIdentity) d).getD .identityNotEffective)), d)
  | .answered outcome => pure (.answered outcome, d)

/-! ## Step-ups -/

structure StartReauthenticationInput where
  tenantId : String
  userLinkId : String
  sessionId : String
  action : String
  resourceType : Option String
  resourceId : Option String
  ttlSeconds : Option Int
  requiredAssurance : Option AssuranceLevel
  callbackUri : String
  expectedConnectionId : Option String
  expectedIssuer : Option String
  expectedProviderOrganizationId : Option String
  expectedProviderSubject : Option String

/-- What the server draws for a step-up. -/
structure StepUpSecrets where
  reauthTxnId : String
  nonce : String
  oidcNonce : String
  state : String
  codeVerifier : String

/-- `expected IS NULL OR expected = derived`. -/
def believes (expected : Option String) (derived : Option String) : Bool :=
  expected.all fun e => decide (derived = some e)

def Store.derives (d : Store) (now : Int) (input : StartReauthenticationInput) (s : SessionRow) :
    Prop :=
  s.sessionId = input.sessionId ∧ s.userLinkId = input.userLinkId ∧
    s.tenantId = some input.tenantId ∧ d.chainHolds now s = true ∧
    believes input.expectedConnectionId s.connectionId = true ∧
    believes input.expectedIssuer s.issuer = true ∧
    believes input.expectedProviderOrganizationId s.providerOrganizationId = true ∧
    believes input.expectedProviderSubject s.providerSubject = true

instance (d : Store) (now : Int) (input : StartReauthenticationInput) :
    DecidablePred (d.derives now input) := fun s => by
  unfold Store.derives
  infer_instance

/-- The row of a step-up: its identity is the session's, and only digests are kept. -/
def newStepUp (now : Int) (secrets : StepUpSecrets) (input : StartReauthenticationInput)
    (s : SessionRow) : ReauthenticationRow where
  reauthTxnId := secrets.reauthTxnId
  tenantId := input.tenantId
  userLinkId := s.userLinkId
  sessionId := some s.sessionId
  action := input.action
  resourceType := input.resourceType
  resourceId := input.resourceId
  nonceHash := sha256hex secrets.nonce
  oidcNonceHash := some (sha256hex secrets.oidcNonce)
  stateHash := some (sha256hex secrets.state)
  codeVerifierHash := some (sha256hex secrets.codeVerifier)
  callbackUri := some input.callbackUri
  connectionId := s.connectionId
  issuer := s.issuer
  providerOrganizationId := s.providerOrganizationId
  providerSubject := s.providerSubject
  requiredAssurance := input.requiredAssurance.getD .freshOnly
  state := .started
  startedAt := now
  expiresAt := now + 1000 * input.ttlSeconds.getD 300
  claimedAt := none
  completedAt := none
  terminalAt := none
  terminalReason := none

/-- A step-up is started from a session whose chain holds, and from nothing else. -/
def startReauthentication (now : Int) (secrets : StepUpSecrets)
    (input : StartReauthenticationInput) (d : Store) :
    Except Raise (Option ReauthenticationRow × Store) :=
  match d.sessions.find? fun s => d.derives now input s with
  | none => pure (none, d)
  | some s => do
    let row := newStepUp now secrets input s
    ensure (decide (row.startedAt < row.expiresAt)) "reauthentication_transactions_check"
    ensure (d.stepUps.all fun r => decide (r.reauthTxnId ≠ row.reauthTxnId ∧
      r.nonceHash ≠ row.nonceHash ∧ r.stateHash ≠ row.stateHash))
      "reauthentication_transactions_key"
    pure (some row,
      { d with
        stepUps := d.stepUps ++ [row]
        events := d.events ++ [⟨row.reauthTxnId, row.tenantId, some row.userLinkId,
          .stepUpStarted row.action row.resourceType row.requiredAssurance⟩] })

end Dealership.Identity
