import Dealership.Identity.Administration

/-!
# The service, operation after operation

The tables with the calls that are between two transactions: refreshes whose token is with the
provider, and bearer credentials being resolved.  One event is one transaction of one call, or
an answer from outside, so a list of events is any interleaving of any number of calls.  Every
event brings its own instants, and nothing is assumed of their order.
-/

namespace Dealership.Identity

open Library

/-! ## Calls under way -/

/-- Where an attempt stands.  The last phase records whether it began before the session's
expiry, and an attempt whose last phase was refused is over. -/
inductive AttemptStage where
  | exchanging
  | settling (settlement : Settlement)
  | settled (settlement : Settlement) (inTime : Bool) (outcome : RefreshSessionOutcome)
  | abandoned
deriving DecidableEq

/-- A refresh that claimed its session: the token it was handed, and the rotation count of the
row it was handed it from. -/
structure Attempt where
  leaseId : String
  input : RefreshProviderSessionInput
  refreshToken : String
  rotationCount : Nat
  stage : AttemptStage
deriving DecidableEq

structure BearerCall where
  callId : Nat
  input : ResolveBearerSessionInput
  stage : BearerStage

structure Service where
  store : Store
  attempts : List Attempt
  bearers : List BearerCall

/-- The service before anybody has called it. -/
def Service.start (d : Store) : Service := ⟨d, [], []⟩

def Service.attempt (m : Service) (leaseId : String) : Option Attempt :=
  m.attempts.find? fun a => a.leaseId = leaseId

def Service.bearer (m : Service) (callId : Nat) : Option BearerCall :=
  m.bearers.find? fun b => b.callId = callId

/-! ## Events -/

/-- The entry points of a revocation. -/
inductive RevocationCall where
  | byToken (sessionToken reason : String) (actingUserLinkId : Option String)
  | forUserLink (userLinkId reason : String) (actingUserLinkId : Option String)
  | byId (sessionId reason : String) (actingUserLinkId : Option String)
  | forIdentityBreach (sessionId : String) (reason : IdentityBreachReason)

def RevocationCall.call (now : Int) : RevocationCall → Store → Except Raise (Nat × Store)
  | .byToken sessionToken reason acting, d => do
    let (found, d) ← revokeSessionByToken now sessionToken reason acting d
    pure (found.toNat, d)
  | .forUserLink userLinkId reason acting, d =>
    revokeSessionsForUserLink now userLinkId reason acting d
  | .byId sessionId reason acting, d => do
    let (found, d) ← revokeSessionById now sessionId reason acting d
    pure (found.toNat, d)
  | .forIdentityBreach sessionId reason, d => do
    let (found, d) ← revokeForIdentityBreach now sessionId reason d
    pure (found.toNat, d)

def RevocationCall.target : RevocationCall → RevocationTarget
  | .byToken sessionToken _ _ => .sessionTokenHash (hashSessionToken sessionToken)
  | .forUserLink userLinkId _ _ => .userLinkId userLinkId
  | .byId sessionId _ _ | .forIdentityBreach sessionId _ => .sessionId sessionId

def RevocationCall.reason : RevocationCall → String
  | .byToken _ reason _ | .forUserLink _ reason _ | .byId _ reason _ => reason
  | .forIdentityBreach _ reason => reason.text

def RevocationCall.actingUserLinkId : RevocationCall → Option String
  | .byToken _ _ acting | .forUserLink _ _ acting | .byId _ _ acting => acting
  | .forIdentityBreach _ _ => none

theorem RevocationCall.call_eq_ok {now : Int} {call : RevocationCall} {d d' : Store} {count : Nat}
    (h : call.call now d = .ok (count, d')) :
    ∃ rows, revokeSessionsWithin now call.target call.reason call.actingUserLinkId d =
      .ok (rows, d') := by
  cases call with
  | byToken sessionToken reason acting =>
    obtain ⟨⟨found, d₁⟩, hfound, h⟩ := bind_eq_ok.mp h
    cases h
    obtain ⟨⟨rows, d₂⟩, hrows, hfound⟩ := bind_eq_ok.mp hfound
    cases hfound
    exact ⟨rows, hrows⟩
  | forUserLink userLinkId reason acting =>
    obtain ⟨⟨rows, d₁⟩, hrows, h⟩ := bind_eq_ok.mp h
    cases h
    exact ⟨rows, hrows⟩
  | byId sessionId reason acting =>
    obtain ⟨⟨found, d₁⟩, hfound, h⟩ := bind_eq_ok.mp h
    cases h
    obtain ⟨⟨rows, d₂⟩, hrows, hfound⟩ := bind_eq_ok.mp hfound
    cases hfound
    exact ⟨rows, hrows⟩
  | forIdentityBreach sessionId reason =>
    obtain ⟨⟨found, d₁⟩, hfound, h⟩ := bind_eq_ok.mp h
    cases h
    obtain ⟨⟨rows, d₂⟩, hrows, hfound⟩ := bind_eq_ok.mp hfound
    cases hfound
    exact ⟨rows, hrows⟩

inductive Event where
  | createSession (now clock : Int) (newSessionId sessionToken : String)
      (input : CreateSessionInput)
  | validate (now : Int) (sessionToken : String)
  | revalidate (now : Int) (sessionId expectedIssuer : String)
  | revoke (now : Int) (call : RevocationCall)
  | bearerCalled (callId : Nat) (input : ResolveBearerSessionInput)
  | bearerGoesOn (callId : Nat) (now clock : Int) (newSessionId : String)
  | claim (now clock : Int) (newLeaseId : String) (input : RefreshProviderSessionInput)
  | exchanged (leaseId : String) (exchange : Exchange)
  | settle (now clock : Int) (leaseId : String)
  | startReauthentication (now : Int) (secrets : StepUpSecrets)
      (input : StartReauthenticationInput)
  | administer (mutation : Mutation)

/-- The events that are a phase of a refresh on the tables. -/
def Event.refreshes : Event → Bool
  | .claim _ _ _ _ | .settle _ _ _ => true
  | _ => false

/-- What the caller of an event hears. -/
inductive Answer where
  | nothing
  | session (found : Option IdentitySession)
  | revoked (count : Nat)
  | bearer (stage : BearerStage)
  | refresh (outcome : RefreshSessionOutcome)
  | stepUp (row : Option ReauthenticationRow)
  | administered (authorizationVersion : Option Nat)
  | raised (raise : Raise)

def Answer.session? : Answer → Option IdentitySession
  | .session found => found
  | .bearer (.answered (.live live _)) => some live
  | .refresh outcome => outcome.session?
  | .nothing | .revoked _ | .bearer _ | .stepUp _ | .administered _ | .raised _ => none

def Answer.stepUpOn? : Answer → Option String
  | .stepUp row => row.bind ReauthenticationRow.sessionId
  | .nothing | .session _ | .revoked _ | .bearer _ | .refresh _ | .administered _ | .raised _ =>
    none

/-! ## Steps -/

/-- A transaction commits and answers, or it raises and nothing has happened. -/
def Service.perform {α : Type} (m : Service) (r : Except Raise (α × Store)) (answer : α → Answer) :
    Service × Answer :=
  match r with
  | .ok (a, d) => ({ m with store := d }, answer a)
  | .error raise => (m, .raised raise)

def Service.setStage (m : Service) (leaseId : String) (stage : AttemptStage) : Service :=
  { m with
    attempts := updateWhere (fun a : Attempt => a.leaseId = leaseId)
      (fun a => { a with stage := stage }) m.attempts }

def Store.inTime (d : Store) (now : Int) (sessionId : String) : Bool :=
  (d.session sessionId).any fun s => decide (now < s.expiresAt)

/-- A claim that is granted puts the attempt under way.  Lease identifiers are drawn at random
and never repeat. -/
def Service.claim (m : Service) (now clock : Int) (newLeaseId : String)
    (input : RefreshProviderSessionInput) : Service × Answer :=
  if m.attempts.any (fun a => decide (a.leaseId = newLeaseId)) then (m, .nothing)
  else
    match claimRefreshAttempt now clock newLeaseId input m.store with
    | .ok (.claimed leaseId refreshToken, d) =>
      ({ m with
          store := d
          attempts := m.attempts ++ [⟨leaseId, input, refreshToken,
            ((m.store.session input.sessionId).map SessionRow.refreshRotationCount).getD 0,
            .exchanging⟩] }, .nothing)
    | .ok (.closed outcome, d) => ({ m with store := d }, .refresh outcome)
    | .error raise => (m, .raised raise)

def Service.exchanged (m : Service) (leaseId : String) (exchange : Exchange) :
    Service × Answer :=
  match m.attempt leaseId with
  | some a =>
    if a.stage = .exchanging then (m.setStage leaseId (.settling exchange.settlement), .nothing)
    else (m, .nothing)
  | none => (m, .nothing)

/-- The last phase of an attempt. -/
def Service.settle (m : Service) (now clock : Int) (leaseId : String) : Service × Answer :=
  match m.attempt leaseId with
  | some a =>
    match a.stage with
    | .settling settlement =>
      match settleRefreshAttempt now clock a.input a.leaseId a.refreshToken m.store
          settlement with
      | .ok (outcome, d) =>
        ({ m.setStage leaseId
            (.settled settlement (m.store.inTime now a.input.sessionId) outcome) with
          store := d }, .refresh outcome)
      | .error raise => (m.setStage leaseId .abandoned, .raised raise)
    | .exchanging | .settled _ _ _ | .abandoned => (m, .nothing)
  | none => (m, .nothing)

/-- A bearer credential is presented. -/
def Service.bearerCalled (m : Service) (callId : Nat) (input : ResolveBearerSessionInput) :
    Service × Answer :=
  if m.bearers.any (fun b => decide (b.callId = callId)) then (m, .nothing)
  else
    ({ m with bearers := m.bearers ++ [⟨callId, input, .first input⟩] }, .bearer (.first input))

/-- The next statement of a bearer call; one that has answered is over. -/
def Service.bearerGoesOn (m : Service) (callId : Nat) (now clock : Int) (newSessionId : String) :
    Service × Answer :=
  match m.bearer callId with
  | some b =>
    match b.stage with
    | .answered _ => (m, .nothing)
    | stage =>
      match resolveOrEstablishBearerSession now clock newSessionId b.input m.store stage with
      | .ok (next, d) =>
        ({ m with
            store := d
            bearers := updateWhere (fun b : BearerCall => b.callId = callId)
              (fun b => { b with stage := next }) m.bearers }, .bearer next)
      | .error raise => (m, .raised raise)
  | none => (m, .nothing)

def Service.step (m : Service) : Event → Service × Answer
  | .createSession now clock newSessionId sessionToken input =>
    m.perform (createSessionWithin now clock newSessionId sessionToken input m.store)
      fun session => .session (some session)
  | .validate now sessionToken =>
    m.perform (validateSessionToken now sessionToken m.store) .session
  | .revalidate now sessionId expectedIssuer =>
    (m, .session (revalidateSessionIdentity now sessionId expectedIssuer m.store))
  | .revoke now call =>
    m.perform (call.call now m.store) .revoked
  | .bearerCalled callId input => m.bearerCalled callId input
  | .bearerGoesOn callId now clock newSessionId => m.bearerGoesOn callId now clock newSessionId
  | .claim now clock newLeaseId input => m.claim now clock newLeaseId input
  | .exchanged leaseId exchange => m.exchanged leaseId exchange
  | .settle now clock leaseId => m.settle now clock leaseId
  | .startReauthentication now secrets input =>
    m.perform (Identity.startReauthentication now secrets input m.store) .stepUp
  | .administer mutation => m.perform (mutation.call m.store) .administered

def Service.next (m : Service) (e : Event) : Service := (m.step e).1

end Dealership.Identity
