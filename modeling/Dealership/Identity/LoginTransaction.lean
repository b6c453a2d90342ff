import Dealership.Library.Pick
import Dealership.Library.Sha256
import Dealership.Library.Zoom
import Dealership.Transaction

/-!
# Login transactions

The server keeps every login it has sent to the provider as a row, with digests of the
secrets the callback must bring back.  A callback claims the row, the login succeeds or
fails with a reason, and a sweep ages what nobody finished.  Every transition writes one
audit event in its own transaction.

`NOW()` is the instant the transaction began and `clock_timestamp()` the instant of the
statement.  A call carries the instants it was given; nothing is assumed of them.
-/

namespace Dealership.Identity

open Library

/-! ## Rows -/

inductive LoginPurpose where
  | login
  | reauth
deriving DecidableEq

def LoginPurpose.text : LoginPurpose → String
  | .login => "login"
  | .reauth => "reauth"

/-- `LoginTransactionStatus`. -/
inductive LoginStatus where
  | pending
  | consuming
  | succeeded
  | failed
deriving DecidableEq

/-- `status IN ('pending', 'consuming')`. -/
def LoginStatus.live : LoginStatus → Bool
  | .pending | .consuming => true
  | .succeeded | .failed => false

/-- `LoginTransactionFailureReason`. -/
inductive FailureReason where
  | provider_exchange_failed
  | impersonation_detected
  | token_verification_failed
  | exchange_token_mismatch
  | identity_not_admitted
  | session_establishment_failed
  | provider_error_callback
  | authorization_code_missing
  | callback_purpose_mismatch
  | callback_state_mismatch
  | callback_nonce_mismatch
  | callback_pkce_mismatch
  | callback_redirect_mismatch
  | login_transaction_not_consuming
  | login_identity_disagreement
  | expired
deriving DecidableEq

/-- A row of `login_transactions`. -/
structure LoginTransaction where
  loginTxnId : String
  purpose : LoginPurpose
  stateHash : String
  nonceHash : String
  codeVerifierHash : String
  redirectUri : String
  returnTo : Option String
  tenantId : Option String
  connectionId : Option String
  userLinkId : Option String
  reauthTxnId : Option String
  expiresAt : Int
  status : LoginStatus
  claimedAt : Option Int
  consumedAt : Option Int
  failureReason : Option FailureReason

inductive LoginEventType where
  | started
  | claimed
  | replayed
  | succeeded
  | failed
  | expired

/-- The three events that end a login. -/
def LoginEventType.terminal : LoginEventType → Bool
  | .succeeded | .failed | .expired => true
  | .started | .claimed | .replayed => false

/-- A row of `audit_events` about a login transaction, with the details it carries. -/
structure LoginEvent where
  entityId : String
  tenantId : String
  actorUserId : Option String
  eventType : LoginEventType
  purpose : LoginPurpose
  observedStatus : Option LoginStatus
  reason : Option FailureReason

/-- A login does not know its tenant until somebody has been admitted. -/
def nilTenant : String := "00000000-0000-0000-0000-000000000000"

structure LoginStore where
  transactions : List LoginTransaction
  events : List LoginEvent

/-! ## Statements -/

/-- What is locked: a row, and the index entries of a row that is being inserted. -/
inductive LoginLock where
  | row (loginTxnId : String)
  | entry (loginTxnId : String)
  | state (stateHash : String)
deriving DecidableEq

def LoginLock.conflicts (k l : LoginLock) : Bool := k = l

abbrev LoginWork := Script LoginStore LoginLock Raise

/-- `login_txn_id = $1`. -/
def loginTransaction (loginTxnId : String) (d : LoginStore) : Option LoginTransaction :=
  d.transactions.find? fun t => t.loginTxnId = loginTxnId

/-- The row under a key, rewritten. -/
def LoginStore.setRow (loginTxnId : String) (f : LoginTransaction → LoginTransaction)
    (d : LoginStore) : LoginStore :=
  { d with
    transactions := updateWhere (fun t : LoginTransaction => t.loginTxnId = loginTxnId) f
      d.transactions }

/-- `UPDATE login_transactions SET … WHERE … RETURNING *`, of at most one row. -/
def updateOne (pick : LoginStore → Option LoginTransaction)
    (f : LoginTransaction → LoginTransaction) : LoginWork (Option LoginTransaction) :=
  .execute (fun d => (pick d).toList.map fun t => .row t.loginTxnId) (fun _ => true)
    (.database "login_transactions")
    (fun seen d => match pick seen with
      | some t => d.setRow t.loginTxnId f
      | none => d)
    fun d => (pick d).map f

/-- The one audit writer for login transitions. -/
def auditLogin (loginTxnId : String) (tenantId userLinkId : Option String)
    (eventType : LoginEventType) (purpose : LoginPurpose) (observedStatus : Option LoginStatus)
    (reason : Option FailureReason) : LoginWork Unit :=
  .execute (fun _ => []) (fun _ => true) (.database "audit_events")
    (fun _ d => { d with
      events := d.events ++ [⟨loginTxnId, tenantId.getD nilTenant, userLinkId, eventType, purpose,
        observedStatus, reason⟩] })
    fun _ => ()

/-- `createHash('sha256').update(value, 'utf8').digest('hex')`. -/
def sha256hex (value : String) : String := Sha256.hexText value.toList

/-! ## Opening -/

structure StartInput where
  purpose : LoginPurpose
  redirectUri : String
  returnTo : Option String
  tenantId : Option String
  connectionId : Option String
  userLinkId : Option String
  reauthTxnId : Option String
  ttlSeconds : Option Int

/-- What the server draws for a login, and which of the rows it names exist. -/
structure StartWorld where
  now : Int
  state : String
  nonce : String
  codeVerifier : String
  newLoginTxnId : String
  references : Bool

structure StartedLoginTransaction where
  loginTxnId : String
  state : String
  nonce : String
  codeVerifier : String
  expiresAt : Int

/-- The row a start inserts: pending, with digests of the secrets. -/
def newLoginTransaction (w : StartWorld) (input : StartInput) : LoginTransaction where
  loginTxnId := w.newLoginTxnId
  purpose := input.purpose
  stateHash := sha256hex w.state
  nonceHash := sha256hex w.nonce
  codeVerifierHash := sha256hex w.codeVerifier
  redirectUri := input.redirectUri
  returnTo := input.returnTo
  tenantId := input.tenantId
  connectionId := input.connectionId
  userLinkId := input.userLinkId
  reauthTxnId := input.reauthTxnId
  expiresAt := w.now + input.ttlSeconds.getD 600 * 1000000
  status := .pending
  claimedAt := none
  consumedAt := none
  failureReason := none

/-- The `CHECK`s of the table that a start can fail. -/
def LoginTransaction.wellFormed (now : Int) (t : LoginTransaction) : Bool :=
  1 ≤ t.redirectUri.length && t.redirectUri.length ≤ 2000 &&
    (t.returnTo.all fun r => 1 ≤ r.length && r.length ≤ 2000) && now < t.expiresAt &&
      (t.purpose = .login || t.reauthTxnId.isSome && t.userLinkId.isSome)

/-- `startLoginTransaction`. -/
def startLoginTransaction (w : StartWorld) (input : StartInput) :
    LoginWork StartedLoginTransaction :=
  let t := newLoginTransaction w input
  Script.execute (fun _ => [.entry t.loginTxnId, .state t.stateHash])
    (fun d => t.wellFormed w.now && w.references &&
      d.transactions.all fun u => u.loginTxnId ≠ t.loginTxnId && u.stateHash ≠ t.stateHash)
    (.database "login_transactions")
    (fun _ d => { d with transactions := d.transactions ++ [t] }) (fun _ => ()) >>= fun _ =>
  auditLogin t.loginTxnId input.tenantId input.userLinkId .started input.purpose none none >>=
    fun _ => pure ⟨t.loginTxnId, w.state, w.nonce, w.codeVerifier, t.expiresAt⟩

/-! ## Failing -/

def LoginTransaction.fail (now : Int) (reason : FailureReason) (t : LoginTransaction) :
    LoginTransaction :=
  { t with status := .failed, consumedAt := some now, failureReason := some reason }

/-- Expiry is its own transition in the inventory. -/
def FailureReason.eventType (reason : FailureReason) : LoginEventType :=
  if reason = .expired then .expired else .failed

/-- A transaction that is already terminal is left exactly as it is. -/
def failLoginTransactionWithin (now : Int) (loginTxnId : String) (reason : FailureReason) :
    LoginWork Bool :=
  updateOne (fun d => d.transactions.find? fun t => t.loginTxnId = loginTxnId && t.status.live)
    (.fail now reason) >>= fun row =>
  match row with
  | none => pure false
  | some t =>
    auditLogin t.loginTxnId t.tenantId t.userLinkId reason.eventType t.purpose none
      (some reason) >>= fun _ => pure true

/-- `failLoginTransaction`. -/
def failLoginTransaction (now : Int) (loginTxnId : String) (reason : FailureReason) :
    LoginWork Bool :=
  failLoginTransactionWithin now loginTxnId reason

/-! ## Claiming -/

/-- `LoginTransactionClaim`: what a callback presents, each value possibly absent. -/
structure LoginClaim where
  loginTxnId : String
  state : Option String
  purpose : LoginPurpose
  presentedPurpose : Option String
  nonce : Option String
  codeVerifier : Option String
  redirectUri : String

/-- `$1::uuid`: the value of a handle, in the text the database prints. -/
def LoginClaim.named (input : LoginClaim) : String := canonicalUuid input.loginTxnId

/-- `LoginTransactionRecord`. -/
structure LoginTransactionRecord where
  loginTxnId : String
  purpose : LoginPurpose
  status : LoginStatus
  redirectUri : String
  returnTo : Option String
  tenantId : Option String
  connectionId : Option String
  userLinkId : Option String
  reauthTxnId : Option String

def mapRecord (t : LoginTransaction) : LoginTransactionRecord :=
  ⟨t.loginTxnId, t.purpose, t.status, t.redirectUri, t.returnTo, t.tenantId, t.connectionId,
    t.userLinkId, t.reauthTxnId⟩

def LoginTransaction.claim (now : Int) (t : LoginTransaction) : LoginTransaction :=
  { t with status := .consuming, claimedAt := some now }

/-- `claimLoginTransaction`: the conditional claim. -/
def claimLoginTransaction (now : Int) (input : LoginClaim) :
    LoginWork (Option LoginTransactionRecord) :=
  match input.state, input.nonce, input.codeVerifier with
  | some state, some nonce, some codeVerifier =>
    updateOne (fun d => d.transactions.find? fun t =>
        t.loginTxnId = input.named && t.stateHash = sha256hex state &&
          t.purpose = input.purpose && t.nonceHash = sha256hex nonce &&
          t.codeVerifierHash = sha256hex codeVerifier && t.redirectUri = input.redirectUri &&
          t.status = .pending && now < t.expiresAt)
        (.claim now) >>= fun row => pure (row.map mapRecord)
  | _, _, _ => pure none

/-- The five binding comparisons, in order.  An absent value is a mismatch. -/
def LoginClaim.mismatch (input : LoginClaim) (t : LoginTransaction) : Option FailureReason :=
  if t.purpose ≠ input.purpose ∨ input.presentedPurpose ≠ some t.purpose.text then
    some .callback_purpose_mismatch
  else if input.state.map sha256hex ≠ some t.stateHash then some .callback_state_mismatch
  else if input.nonce.map sha256hex ≠ some t.nonceHash then some .callback_nonce_mismatch
  else if input.codeVerifier.map sha256hex ≠ some t.codeVerifierHash then
    some .callback_pkce_mismatch
  else if t.redirectUri ≠ input.redirectUri then some .callback_redirect_mismatch
  else none

/-- `claimLoginTransactionAtomically`. -/
def claimLoginTransactionAtomically (now : Int) (input : LoginClaim) :
    LoginWork (Option LoginTransactionRecord) :=
  if ¬ isUuid input.loginTxnId then pure none
  else
    Script.selectLocking
      (fun d => (loginTransaction input.named d).toList.map fun t => .row t.loginTxnId)
      (loginTransaction input.named) >>= fun found =>
    match found with
    | none => pure none
    | some existing =>
      if existing.status ≠ .pending then
        auditLogin existing.loginTxnId existing.tenantId existing.userLinkId .replayed
          existing.purpose (some existing.status) none >>= fun _ => pure none
      else if existing.expiresAt ≤ now then
        failLoginTransactionWithin now existing.loginTxnId .expired >>= fun _ => pure none
      else
        match input.mismatch existing with
        | some reason =>
          failLoginTransactionWithin now existing.loginTxnId reason >>= fun _ => pure none
        | none =>
          claimLoginTransaction now input >>= fun claimed =>
          match claimed with
          | none =>
            failLoginTransactionWithin now existing.loginTxnId
              .login_transaction_not_consuming >>= fun _ => pure none
          | some record =>
            auditLogin existing.loginTxnId record.tenantId record.userLinkId .claimed
              record.purpose none none >>= fun _ => pure (some record)

/-! ## Succeeding -/

/-- `AdmittedLoginIdentity`. -/
structure AdmittedLoginIdentity where
  loginTxnId : String
  tenantId : Option String
  userLinkId : String
  connectionId : Option String

/-- `LoginSuccessOutcome`. -/
inductive LoginSuccessOutcome where
  | recorded
  | refused (refusal : FailureReason)

def LoginSuccessOutcome.isRecorded : LoginSuccessOutcome → Bool
  | .recorded => true
  | .refused _ => false

/-- The instants the two statements of a success read, and whether the rows it names exist. -/
structure SuccessWorld where
  live : Int
  observed : Int
  references : Bool

/-- A transaction opened for somebody may only succeed as that one. -/
def AdmittedLoginIdentity.tenantOk (input : AdmittedLoginIdentity) (t : LoginTransaction) : Bool :=
  t.tenantId = none || t.tenantId = input.tenantId

def AdmittedLoginIdentity.linkOk (input : AdmittedLoginIdentity) (t : LoginTransaction) : Bool :=
  t.userLinkId = none || t.userLinkId = some input.userLinkId

def LoginTransaction.succeed (live : Int) (input : AdmittedLoginIdentity) (t : LoginTransaction) :
    LoginTransaction :=
  { t with
    status := .succeeded
    consumedAt := some live
    tenantId := input.tenantId
    userLinkId := some input.userLinkId
    connectionId := input.connectionId <|> t.connectionId }

def AdmittedLoginIdentity.completes (w : SuccessWorld) (input : AdmittedLoginIdentity)
    (t : LoginTransaction) : Bool :=
  t.loginTxnId = input.loginTxnId && t.status = .consuming && w.live < t.expiresAt &&
    input.tenantOk t && input.linkOk t

/-- Which clause refused, read back from the row. -/
def AdmittedLoginIdentity.refusal (w : SuccessWorld) (input : AdmittedLoginIdentity)
    (t : Option LoginTransaction) : FailureReason :=
  match t with
  | none => .login_transaction_not_consuming
  | some t =>
    if t.status = .consuming ∧ t.expiresAt ≤ w.observed then .expired
    else if t.status = .consuming ∧ ¬ (input.tenantOk t && input.linkOk t) then
      .login_identity_disagreement
    else .login_transaction_not_consuming

/-- `succeedLoginTransactionWithin`. -/
def succeedLoginTransactionWithin (w : SuccessWorld) (input : AdmittedLoginIdentity) :
    LoginWork LoginSuccessOutcome :=
  Script.statement
    (fun d => (d.transactions.find? (input.completes w)).toList.map fun t => .row t.loginTxnId)
    (fun seen d => match seen.transactions.find? (input.completes w) with
      | some t => d.setRow t.loginTxnId (.succeed w.live input)
      | none => d)
    fun seen =>
      match seen.transactions.find? (input.completes w) with
      | some t =>
        -- The foreign keys of the row are looked up when it is written.
        if ¬ w.references then .raise (.database "login_transactions") else
          auditLogin input.loginTxnId input.tenantId (some input.userLinkId) .succeeded
            t.purpose none none >>= fun _ => pure .recorded
      | none =>
        Script.select (loginTransaction input.loginTxnId) >>= fun observed =>
          pure (.refused (input.refusal w observed))

/-- `succeedLoginTransaction`. -/
def succeedLoginTransaction (w : SuccessWorld) (input : AdmittedLoginIdentity) : LoginWork Bool :=
  succeedLoginTransactionWithin w input >>= fun outcome => pure outcome.isRecorded

/-! ## Expiring -/

/-- The rows a sweep may take: stale, live, and not locked by anybody else, which `SKIP
LOCKED` decides when it looks. -/
def staleTransactions (now : Int) (locked : List String) (d : LoginStore) :
    List LoginTransaction :=
  d.transactions.filter fun t =>
    t.status.live && t.expiresAt < now && ¬ locked.contains t.loginTxnId

/-- One turn of the loop: the oldest stale transaction, if there is one. -/
def ageOne (now : Int) (locked : List String) : LoginWork (Option String) :=
  updateOne (fun d => best (fun a b => a.expiresAt < b.expiresAt) (staleTransactions now locked d))
    (.fail now .expired) >>= fun row =>
  match row with
  | none => pure none
  | some t =>
    auditLogin t.loginTxnId t.tenantId t.userLinkId .expired t.purpose none (some .expired) >>=
      fun _ => pure (some t.loginTxnId)

/-- The limit a sweep is asked for, as JavaScript has numbers: whole or not. -/
inductive Requested where
  | integer (n : Int)
  | notAnInteger

def loginTransactionExpiryDefaultBatch : Int := 200

def loginTransactionExpiryMaxBatch : Int := 1000

/-- How many transactions a sweep may age, or the text of the `RangeError`. -/
def sweepLimit (limit : Option Requested) : Except Raise Nat :=
  match limit.getD (.integer loginTransactionExpiryDefaultBatch) with
  | .integer n =>
    if n < 1 ∨ loginTransactionExpiryMaxBatch < n then
      .error (.rangeError "login transaction expiry batch limit must be an integer in 1..1000")
    else .ok n.toNat
  | .notAnInteger =>
    .error (.rangeError "login transaction expiry batch limit must be an integer in 1..1000")

/-- Where the loop of a sweep stands: it begins another transaction, or it returns. -/
inductive SweepState where
  | another
  | returns (recorded : Nat)
deriving DecidableEq

/-- `expireStaleLoginTransactions`, after the answers its transactions have given so far. -/
def expireStaleLoginTransactions (limit : Option Requested) (answers : List (Option String)) :
    Except Raise SweepState :=
  match sweepLimit limit with
  | .error e => .error e
  | .ok requested =>
    let recorded := (answers.takeWhile Option.isSome).length
    if recorded < answers.length then .ok (.returns recorded)
    else if recorded < requested then .ok .another
    else .ok (.returns recorded)

/-! ## Calls -/

/-- A transaction that somebody begins.  `age` is one turn of the loop of a sweep. -/
inductive LoginCall where
  | start (w : StartWorld) (input : StartInput)
  | claim (now : Int) (input : LoginClaim)
  | succeed (w : SuccessWorld) (input : AdmittedLoginIdentity)
  | fail (now : Int) (loginTxnId : String) (reason : FailureReason)
  | age (sweep : Nat) (now : Int) (locked : List String)

inductive LoginAnswer where
  | started (login : StartedLoginTransaction)
  | claim (record : Option LoginTransactionRecord)
  | success (recorded : Bool)
  | failure (recorded : Bool)
  | aged (loginTxnId : Option String)

def LoginCall.program : LoginCall → LoginWork LoginAnswer
  | .start w input => startLoginTransaction w input >>= fun s => pure (.started s)
  | .claim now input => claimLoginTransactionAtomically now input >>= fun r => pure (.claim r)
  | .succeed w input => succeedLoginTransaction w input >>= fun b => pure (.success b)
  | .fail now id reason => failLoginTransaction now id reason >>= fun b => pure (.failure b)
  | .age _ now locked => ageOne now locked >>= fun id => pure (.aged id)

end Dealership.Identity
