import Dealership.Identity.Sessions

/-!
# Refreshing the provider credential

A refresh spends the provider's single-use refresh token, so one attempt at a time may own
it.  An attempt claims the session under a lease in a short transaction, exchanges the token
with no transaction open, and in a second short transaction persists what came back, revokes
the session, or gives the lease back.

What the provider answers and what the verifier makes of it come from outside and are
arguments here.
-/

namespace Dealership.Identity

open Library

/-! ## What comes from outside -/

structure ImpersonationClassification where
  impersonated : Bool
  impersonatorEmailPresent : Bool
deriving DecidableEq

structure ProviderRefreshResult where
  accessToken : String
  refreshToken : String
  providerUserId : String
  providerSessionId : Option String
  organizationId : Option String
  impersonation : ImpersonationClassification
deriving DecidableEq

/-- The facts of a verified access token a refresh looks at. -/
structure VerifiedAccessToken where
  providerUserId : String
  providerSessionId : String
  organizationId : String
  authTime : Int
  expiresAt : Int
  impersonation : ImpersonationClassification
deriving DecidableEq

inductive ProviderRefreshFailureKind where
  | definitive
  | transient

/-- How an exchange ends: the port throws, where running into the deadline or throwing
anything unknown is as good as a transient failure, or it answers, and the verifier accepts
the new access token or throws. -/
inductive Exchange where
  | failed (kind : ProviderRefreshFailureKind)
  | answered (refreshed : ProviderRefreshResult) (verified : Option VerifiedAccessToken)

/-! ## Outcomes -/

inductive IdentityBreachReason where
  | identityMismatch
  | refreshFailed
  | impersonationDetected
  | refreshReplayDetected
deriving DecidableEq

def IdentityBreachReason.text : IdentityBreachReason → String
  | .identityMismatch => "identity_mismatch"
  | .refreshFailed => "refresh_failed"
  | .impersonationDetected => "impersonation_detected"
  | .refreshReplayDetected => "refresh_replay_detected"

inductive UnavailableReason where
  | noLiveSession
  | noRefreshState
  | keyVersionMismatch
  | sealedStateUnreadable
deriving DecidableEq

inductive RefreshSessionOutcome where
  | refreshed (session : IdentitySession) (rotationCount : Nat)
  | revoked (reason : IdentityBreachReason)
  | transient
  | unavailable (reason : UnavailableReason)
  | notDue (session : IdentitySession)
  | refreshInFlight (session : IdentitySession)
deriving DecidableEq

def RefreshSessionOutcome.session? : RefreshSessionOutcome → Option IdentitySession
  | .refreshed session _ | .notDue session | .refreshInFlight session => some session
  | .revoked _ | .transient | .unavailable _ => none

structure RefreshProviderSessionInput where
  sessionId : String
  cookiePassword : String
  expectedIssuer : String
  ttlSeconds : Int
  keyVersion : Option Int
  refreshStateMaxAgeSeconds : Option Int
  refreshDueLeewaySeconds : Option Int
  providerTimeoutMs : Option Int
deriving DecidableEq

def RefreshProviderSessionInput.sealVersion (input : RefreshProviderSessionInput) : Int :=
  input.keyVersion.getD refreshStateKeyVersion

/-! ## When a refresh is due -/

def defaultProviderRefreshTimeoutMs : Int := 10000

def accessTokenVerificationBoundSeconds : Int := 5

def refreshLeaseSlackSeconds : Int := 10

/-- The lease outlives the exchange and the verification; the first term rounds up. -/
def refreshLeaseSeconds (providerTimeoutMs : Int) : Int :=
  (providerTimeoutMs + 999) / 1000 + accessTokenVerificationBoundSeconds + refreshLeaseSlackSeconds

def defaultProviderRefreshLeewaySeconds : Int := 60

def isProviderRefreshDue (session : IdentitySession) (leewaySeconds clock : Int) : Bool :=
  session.refreshable &&
    session.providerAccessTokenExpiresAt.any fun e => decide (e - leewaySeconds * 1000 ≤ clock)

/-! ## Claiming -/

/-- `SELECT … WHERE session_id = $1 AND revoked_at IS NULL AND expires_at > NOW() FOR UPDATE`. -/
def Store.liveSession (d : Store) (now : Int) (sessionId : String) : Option SessionRow :=
  d.sessions.find? fun s => s.sessionId = sessionId ∧ s.revokedAt = none ∧ now < s.expiresAt

inductive RefreshClaim where
  | claimed (leaseId refreshToken : String)
  | closed (outcome : RefreshSessionOutcome)

/-- The condition of the claiming update. -/
def SessionRow.claimable (now : Int) (sessionId presentedDigest : String) (s : SessionRow) :
    Prop :=
  s.sessionId = sessionId ∧ s.refreshTokenHash = some presentedDigest ∧ s.revokedAt = none ∧
    now < s.expiresAt ∧
    (s.refreshLeaseId = none ∨ (s.refreshLeaseExpiresAt.any fun e => decide (e ≤ now)) = true)

instance (now : Int) (sessionId presentedDigest : String) :
    DecidablePred (SessionRow.claimable now sessionId presentedDigest) := fun s => by
  unfold SessionRow.claimable
  infer_instance

def SessionRow.lease (leaseId : String) (leaseExpiresAt : Int) (s : SessionRow) : SessionRow :=
  { s with refreshLeaseId := some leaseId, refreshLeaseExpiresAt := some leaseExpiresAt }

def revokeWithin (now : Int) (sessionId : String) (reason : IdentityBreachReason) (d : Store) :
    Except Raise (RefreshSessionOutcome × Store) := do
  let (_, d) ← revokeSessionsWithin now (.sessionId sessionId) reason.text none d
  pure (.revoked reason, d)

def revokeForIdentityBreach (now : Int) (sessionId : String) (reason : IdentityBreachReason)
    (d : Store) : Except Raise (Bool × Store) := do
  let (rows, d) ← revokeSessionsWithin now (.sessionId sessionId) reason.text none d
  pure (decide (0 < rows.length), d)

/-- The first phase. -/
def claimRefreshAttempt (now clock : Int) (newLeaseId : String)
    (input : RefreshProviderSessionInput) (d : Store) : Except Raise (RefreshClaim × Store) :=
  match d.liveSession now input.sessionId with
  | none => pure (.closed (.unavailable .noLiveSession), d)
  | some row =>
    if (input.refreshDueLeewaySeconds.all fun leeway =>
        isProviderRefreshDue (mapSession row) leeway clock) = false then
      pure (.closed (.notDue (mapSession row)), d)
    -- a lease whose expiry has passed on this process's clock is no lease
    else if row.refreshLeaseId.isSome ∧
        (row.refreshLeaseExpiresAt.any fun e => decide (clock < e)) = true then
      pure (.closed (.refreshInFlight (mapSession row)), d)
    else
      match row.refreshStateSealed with
      | none => pure (.closed (.unavailable .noRefreshState), d)
      | some sealed =>
        if row.refreshStateKeyVersion ≠ some input.sealVersion then
          pure (.closed (.unavailable .keyVersionMismatch), d)
        else
          match openRefreshState clock sealed input.cookiePassword
              (input.refreshStateMaxAgeSeconds.getD defaultRefreshStateMaxAgeSeconds) with
          | none => pure (.closed (.unavailable .sealedStateUnreadable), d)
          | some refreshToken =>
            if row.refreshTokenHash ≠ some (hashSessionToken refreshToken) then do
              let (outcome, d) ←
                revokeWithin now input.sessionId .refreshReplayDetected d
              pure (.closed outcome, d)
            -- the database has the last word on whether the lease has expired
            else if row.claimable now input.sessionId (hashSessionToken refreshToken) then do
              let d ← d.write (Store.setSessions
                (SessionRow.claimable now input.sessionId (hashSessionToken refreshToken))
                (SessionRow.lease newLeaseId (now + 1000 * refreshLeaseSeconds
                  (input.providerTimeoutMs.getD defaultProviderRefreshTimeoutMs))))
              pure (.claimed newLeaseId refreshToken, d)
            else pure (.closed (.refreshInFlight (mapSession row)), d)

/-! ## Settling -/

/-- What an exchange leaves an attempt to do. -/
inductive Settlement where
  | revoke (reason : IdentityBreachReason)
  | release
  | persist (refreshed : ProviderRefreshResult) (verified : VerifiedAccessToken)
deriving DecidableEq

def isImpersonated (c : ImpersonationClassification) : Bool :=
  c.impersonated || c.impersonatorEmailPresent

/-- From the end of the exchange to the last phase. -/
def Exchange.settlement : Exchange → Settlement
  | .failed .definitive => .revoke .refreshFailed
  | .failed .transient => .release
  | .answered refreshed verified =>
    if isImpersonated refreshed.impersonation then .revoke .impersonationDetected
    else
      match verified with
      | none => .revoke .refreshFailed
      | some verified =>
        if isImpersonated verified.impersonation then .revoke .impersonationDetected
        else .persist refreshed verified

def SessionRow.unlease (s : SessionRow) : SessionRow :=
  { s with refreshLeaseId := none, refreshLeaseExpiresAt := none }

/-- Keyed on the lease: an attempt gives back its own claim and nothing else. -/
def releaseRefreshLease (sessionId leaseId : String) (d : Store) : Except Raise Store :=
  d.write (Store.setSessions
    (fun s => s.sessionId = sessionId ∧ s.refreshLeaseId = some leaseId) SessionRow.unlease)

/-- The comparisons of a refresh with the session's own columns. -/
def replyMatches (row : SessionRow) (expectedIssuer : String) (refreshed : ProviderRefreshResult)
    (verified : VerifiedAccessToken) : Bool :=
  row.connectionId.isSome && decide (row.issuer = some expectedIssuer) &&
    row.providerOrganizationId.isSome &&
    decide (row.providerSubject = some refreshed.providerUserId) &&
    refreshed.organizationId.all (fun o => decide (row.providerOrganizationId = some o)) &&
    row.providerSessionId.any (fun p => decide (p ≠ "")) &&
    decide (refreshed.providerSessionId = row.providerSessionId) &&
    decide (row.providerSubject = some verified.providerUserId) &&
    decide (row.providerOrganizationId = some verified.organizationId) &&
    decide (row.providerSessionId = some verified.providerSessionId)

/-- The comparisons with the connection, the link and the tenant as they stand. -/
def Store.factsMatch (d : Store) (now : Int) (row : SessionRow) : Bool :=
  (row.connectionId.bind d.connection).any fun c => (d.link row.userLinkId).any fun ul =>
    c.effective now && ul.effective now && d.tenantEffective ul.tenantId now &&
      decide (some c.issuer = row.issuer) &&
      decide (some c.providerOrganizationId = row.providerOrganizationId) &&
      decide (some ul.providerUserId = row.providerSubject) &&
      decide (c.tenantId = row.tenantId) && decide (ul.tenantId = row.tenantId)

def identityStillMatches (now : Int) (row : SessionRow) (expectedIssuer : String)
    (refreshed : ProviderRefreshResult) (verified : VerifiedAccessToken) (d : Store) : Bool :=
  replyMatches row expectedIssuer refreshed verified && d.factsMatch now row

/-- What `rotateRefreshStateRow` is asked to write. -/
structure Rotation where
  sessionId : String
  presentedRefreshToken : String
  newRefreshToken : String
  authTime : Int
  ttlSeconds : Int
  cookiePassword : String
  refreshStateKeyVersion : Int
  providerAccessTokenExpiresAt : Int
  expectedLeaseId : String

/-- The condition of the rotating update. -/
def Rotation.applies (now : Int) (rotation : Rotation) (s : SessionRow) : Prop :=
  s.sessionId = rotation.sessionId ∧
    s.refreshTokenHash = some (hashSessionToken rotation.presentedRefreshToken) ∧
    s.revokedAt = none ∧ now < s.expiresAt ∧ s.refreshLeaseId = some rotation.expectedLeaseId

instance (now : Int) (rotation : Rotation) : DecidablePred (rotation.applies now) := fun s => by
  unfold Rotation.applies
  infer_instance

/-- The new token with its digest, the lease given up in the same statement; the local expiry
never moves later. -/
def Rotation.apply (now clock : Int) (rotation : Rotation) (s : SessionRow) : SessionRow :=
  { s with
    refreshTokenHash := some (hashSessionToken rotation.newRefreshToken)
    refreshStateSealed :=
      some (sealRefreshState clock rotation.newRefreshToken rotation.cookiePassword)
    refreshStateKeyVersion := some rotation.refreshStateKeyVersion
    refreshRotationCount := s.refreshRotationCount + 1
    lastRefreshedAt := some now
    authTime := rotation.authTime
    providerAccessTokenExpiresAt := some rotation.providerAccessTokenExpiresAt
    expiresAt := min s.expiresAt (now + 1000 * rotation.ttlSeconds)
    refreshLeaseId := none
    refreshLeaseExpiresAt := none }

def rotateRefreshStateRow (now clock : Int) (rotation : Rotation) (d : Store) :
    Except Raise (Option SessionRow × Store) :=
  match d.sessions.find? fun s => rotation.applies now s with
  | none => pure (none, d)
  | some s => do
    let d ← d.write (Store.setSessions (rotation.applies now) (rotation.apply now clock))
    let row := rotation.apply now clock s
    pure (some row, d.auditSession row none
      (.refreshStateRotated row.refreshRotationCount row.credentialKind row.authorizationVersion))

/-- The rotation an attempt asks for.  `auth_time` moves forward only. -/
def rotationOf (input : RefreshProviderSessionInput) (leaseId refreshToken : String)
    (row : SessionRow) (refreshed : ProviderRefreshResult) (verified : VerifiedAccessToken) :
    Rotation where
  sessionId := input.sessionId
  presentedRefreshToken := refreshToken
  newRefreshToken := refreshed.refreshToken
  authTime := if verified.authTime > row.authTime then verified.authTime else row.authTime
  ttlSeconds := input.ttlSeconds
  cookiePassword := input.cookiePassword
  refreshStateKeyVersion := input.sealVersion
  providerAccessTokenExpiresAt := verified.expiresAt
  expectedLeaseId := leaseId

/-- The last phase of an attempt the provider answered. -/
def persistRefreshedState (now clock : Int) (input : RefreshProviderSessionInput)
    (leaseId refreshToken : String) (refreshed : ProviderRefreshResult)
    (verified : VerifiedAccessToken) (d : Store) : Except Raise (RefreshSessionOutcome × Store) :=
  match d.liveSession now input.sessionId with
  | none => pure (.unavailable .noLiveSession, d)
  | some row =>
    -- a lease that is no longer ours means the token is being spent by another attempt
    if row.refreshLeaseId ≠ some leaseId then
      revokeWithin now input.sessionId .refreshReplayDetected d
    else if identityStillMatches now row input.expectedIssuer refreshed verified d = false then
      revokeWithin now input.sessionId .identityMismatch d
    else do
      let rotation := rotationOf input leaseId refreshToken row refreshed verified
      let (rotated, d) ← rotateRefreshStateRow now clock rotation d
      match rotated with
      | none => revokeWithin now input.sessionId .refreshReplayDetected d
      | some after =>
        pure (.refreshed (mapSession after) after.refreshRotationCount,
          d.auditSession after none (.refreshed after.refreshRotationCount
            (decide (row.authTime < rotation.authTime)) true))

/-- The last phase, whatever the exchange came to. -/
def settleRefreshAttempt (now clock : Int) (input : RefreshProviderSessionInput)
    (leaseId refreshToken : String) (d : Store) :
    Settlement → Except Raise (RefreshSessionOutcome × Store)
  | .revoke reason => revokeWithin now input.sessionId reason d
  | .release => do
    let d ← releaseRefreshLease input.sessionId leaseId d
    pure (.transient, d)
  | .persist refreshed verified =>
    persistRefreshedState now clock input leaseId refreshToken refreshed verified d

/-! ## On the request path -/

structure MaintainProviderSessionInput where
  session : IdentitySession
  cookiePassword : String
  expectedIssuer : String
  leewaySeconds : Option Int
  providerTimeoutMs : Option Int

/-- What `maintainProviderSession` asks of a refresh: the local session lives no longer for it. -/
def MaintainProviderSessionInput.refresh (input : MaintainProviderSessionInput) (clock : Int) :
    RefreshProviderSessionInput where
  sessionId := input.session.sessionId
  cookiePassword := input.cookiePassword
  expectedIssuer := input.expectedIssuer
  ttlSeconds := max 1 ((input.session.expiresAt - clock) / 1000)
  keyVersion := none
  refreshStateMaxAgeSeconds := none
  refreshDueLeewaySeconds := some (input.leewaySeconds.getD defaultProviderRefreshLeewaySeconds)
  providerTimeoutMs := input.providerTimeoutMs

/-- A refresh on the request path never asks for a session that is over already. -/
theorem MaintainProviderSessionInput.ttlSeconds_pos (input : MaintainProviderSessionInput)
    (clock : Int) : 0 < (input.refresh clock).ttlSeconds :=
  Int.lt_of_lt_of_le Int.zero_lt_one (Int.le_max_left _ _)

end Dealership.Identity
