import Dealership.Library.Run

/-!
# One checkout of the pool

`withTransaction` checks a client out, runs `BEGIN`, the body and `COMMIT` on it, each raced
against the loss of the connection, and rolls back what fails.  The machine below has one turn for
everything that can happen next: the awaited step settles, the client raises an `'error'` event,
the loss wins the race, or the function resumes after its `await`.  So an event may fall before a
step settles, between its settling and the code that handles it, or after.

What an error says and where it comes from are two things.  The function sees its shape only; its
origin is kept beside it, to state what a caller is promised.
-/

namespace Dealership.Database

open Library

/-! ## What is thrown -/

/-- A thrown value: its string `code` and `message`, when it has them, or the loss of a
connection. -/
inductive Thrown where
  | raw (code message : Option String)
  | connectionLost (pgCode : Option String)
deriving DecidableEq

def Thrown.code : Thrown → Option String
  | .raw code _ => code
  | .connectionLost _ => some "database_connection_lost"

def Thrown.message : Thrown → Option String
  | .raw _ message => message
  | .connectionLost _ => some "The database connection was lost before this operation completed"

/-- `SQLSTATE_CLASSES`. -/
def sqlStateClasses : List String :=
  ["00", "01", "02", "03", "08", "09", "0A", "0B", "0F", "0L", "0P", "0Z", "20", "21", "22", "23",
    "24", "25", "26", "27", "28", "2B", "2D", "2F", "34", "38", "39", "3B", "3D", "3F", "40",
    "42", "44", "53", "54", "55", "57", "58", "72", "F0", "HV", "P0", "XX"]

/-- `sqlStateOf`: five characters of `[0-9A-Z]` of a class that exists. -/
def sqlStateOf (err : Thrown) : Option String :=
  err.code.filter fun code =>
    code.toList.length = 5 && code.toList.all (fun c => c.isDigit || c.isUpper) &&
      String.ofList (code.toList.take 2) ∈ sqlStateClasses

/-- `SESSION_ENDED_SQLSTATES`. -/
def sessionEndedSqlstates : List String := ["25P03", "57P01", "57P02"]

/-- `SEVERED_SOCKET_MESSAGES`. -/
def severedSocketMessages : List String :=
  ["Connection terminated unexpectedly",
    "Client has encountered a connection error and is not queryable"]

/-- `SEVERED_SOCKET_CODES`. -/
def severedSocketCodes : List String := ["ECONNRESET", "EPIPE", "ETIMEDOUT"]

/-- `isLostConnection`: what the error says on its own evidence. -/
def isLostConnection (err : Thrown) : Bool :=
  err.code.any (· ∈ sessionEndedSqlstates) || err.message.any (· ∈ severedSocketMessages)

def isSeveredSocketErrno (err : Thrown) : Bool :=
  err.code.any (· ∈ severedSocketCodes)

@[simp] theorem isLostConnection_connectionLost (pgCode : Option String) :
    isLostConnection (.connectionLost pgCode) = false := by
  simp only [isLostConnection, Thrown.code, Thrown.message, Option.any_some]
  decide

/-! ## The client -/

structure Client where
  /-- The driver's `_queryable`. -/
  queryable : Bool
  /-- Nothing that has arrived says the connection is gone. -/
  alive : Bool
  /-- A transaction is open in the session. -/
  inTransaction : Bool
  /-- The server has acknowledged the `COMMIT`. -/
  committed : Bool

/-- Where an error comes from.  A statement of this client that fails may have `severed` the
connection, may be one the driver had `taken` a connection error before, and may have `ended` the
transaction; everything else that fails a body is `elsewhere`. -/
inductive Origin where
  | client (severed taken ended : Bool)
  | elsewhere
deriving DecidableEq

/-- The client after an error.  A session that says it has ended is gone. -/
def Client.after (c : Client) (err : Thrown) : Origin → Client
  | .client severed taken ended =>
    { c with
      alive := c.alive && !(severed || taken || isLostConnection err)
      queryable := c.queryable && !taken
      inTransaction := c.inTransaction && !ended }
  | .elsewhere => c

/-! ## The function -/

/-- The step the function awaits. -/
inductive Phase where
  | begin_ | body | commit
  | rollback (err : Thrown)
  | released
deriving DecidableEq

/-- How the awaited step settled. -/
inductive Settled where
  | fulfilled
  | rejected (err : Thrown) (elsewhere : Bool)
deriving DecidableEq

inductive LogLine where
  | connection_lost_in_transaction (err : Thrown)
  | rollback_failed (err : Thrown)

def LogLine.isLoss : LogLine → Bool
  | .connection_lost_in_transaction _ => true
  | .rollback_failed _ => false

/-- What the `catch` was entered with, and whether the loss of the connection was known then. -/
structure Caught where
  err : Thrown
  elsewhere : Bool
  known : Bool

structure Checkout where
  phase : Phase
  settled : Option Settled
  /-- `connectionLost`, by its SQLSTATE. -/
  connectionLost : Option (Option String)
  /-- The client carries this checkout's `'error'` listener. -/
  listening : Bool
  client : Client
  log : List LogLine
  rollbacks : Nat
  caught : Option Caught
  outcome : Option (Except Thrown Unit)
  destroyed : Bool

/-- The client has been handed over and `BEGIN` sent. -/
def checkedOut : Checkout where
  phase := .begin_
  settled := none
  connectionLost := none
  listening := true
  client := { queryable := true, alive := true, inTransaction := false, committed := false }
  log := []
  rollbacks := 0
  caught := none
  outcome := none
  destroyed := false

/-- `recordConnectionLost`: the first observation is latched and logged. -/
def Checkout.recordConnectionLost (s : Checkout) (err : Thrown) : Checkout :=
  match s.connectionLost with
  | some _ => s
  | none =>
    { s with
      connectionLost := some (sqlStateOf err)
      log := s.log ++ [.connection_lost_in_transaction err] }

/-- `isLostOnThisClient`. -/
def Checkout.isLostOnThisClient (s : Checkout) (err : Thrown) : Bool :=
  isLostConnection err ||
    (isSeveredSocketErrno err && (s.connectionLost.isSome || !s.client.queryable))

/-- The `finally`: the listener goes, and the pool destroys a client that is released with an
error or is no longer queryable. -/
def Checkout.release (s : Checkout) (outcome : Except Thrown Unit) : Checkout :=
  { s with
    phase := .released
    settled := none
    listening := false
    outcome := some outcome
    destroyed := s.connectionLost.isSome || !s.client.queryable }

/-- The `catch`, up to its `await`. -/
def Checkout.caughtWith (s : Checkout) (err : Thrown) (elsewhere : Bool) : Checkout :=
  let known := s.connectionLost.isSome || (!elsewhere && s.isLostOnThisClient err)
  let s := { s with caught := some { err := err, elsewhere := elsewhere, known := known } }
  let s := if s.isLostOnThisClient err then s.recordConnectionLost err else s
  match s.connectionLost with
  | some pgCode => s.release (.error (.connectionLost pgCode))
  | none =>
    { s with
      phase := .rollback err
      settled := none
      rollbacks := s.rollbacks + 1 }

/-- The `catch` of the `ROLLBACK`. -/
def Checkout.rollbackFailed (s : Checkout) (rollbackErr : Thrown) : Checkout :=
  if s.isLostOnThisClient rollbackErr then s.recordConnectionLost rollbackErr
  else if s.connectionLost.isSome then s
  else { s with log := s.log ++ [.rollback_failed rollbackErr] }

/-- The code after the `await` whose promise has settled. -/
def Checkout.resume (s : Checkout) : Checkout :=
  match s.phase, s.settled with
  | .begin_, some .fulfilled => { s with phase := .body, settled := none }
  | .body, some .fulfilled => { s with phase := .commit, settled := none }
  | .commit, some .fulfilled => s.release (.ok ())
  | .rollback err, some .fulfilled => s.release (.error err)
  | .rollback err, some (.rejected rollbackErr _) =>
    (s.rollbackFailed rollbackErr).release (.error err)
  | .begin_, some (.rejected err elsewhere) => s.caughtWith err elsewhere
  | .body, some (.rejected err elsewhere) => s.caughtWith err elsewhere
  | .commit, some (.rejected err elsewhere) => s.caughtWith err elsewhere
  | _, _ => s

/-! ## What can happen -/

inductive Turn where
  /-- The awaited statement is acknowledged, or the body returns. -/
  | fulfils
  /-- The awaited statement, or the body, fails. -/
  | fails (err : Thrown) (origin : Origin)
  /-- The client raises an `'error'` event. -/
  | clientError (err : Thrown)
  /-- The loss settles the race. -/
  | lostWins
  | resume

/-- The acknowledgement of a statement, which only a live connection carries. -/
def Checkout.acknowledge (s : Checkout) (client : Client) : Checkout :=
  if s.client.alive then { s with client := client, settled := some .fulfilled } else s

def Checkout.fulfils (s : Checkout) : Checkout :=
  match s.phase, s.settled with
  | .begin_, none => s.acknowledge { s.client with inTransaction := true }
  | .body, none => { s with settled := some .fulfilled }
  | .commit, none => s.acknowledge { s.client with inTransaction := false, committed := true }
  | .rollback _, none => s.acknowledge { s.client with inTransaction := false }
  | _, _ => s

/-- Only a body fails with an error from elsewhere; the other steps are statements. -/
def Phase.failsWith (p : Phase) (origin : Origin) : Bool :=
  p ≠ .released && (origin ≠ .elsewhere || p = .body)

def Checkout.fails (s : Checkout) (err : Thrown) (origin : Origin) : Checkout :=
  if s.settled = none ∧ s.phase.failsWith origin then
    { s with
      client := s.client.after err origin
      settled := some (.rejected err (origin = .elsewhere)) }
  else s

/-- `onClientError`; the driver marks the client before it emits. -/
def Checkout.clientError (s : Checkout) (err : Thrown) : Checkout :=
  if s.listening then
    { s.recordConnectionLost err with
      client := { s.client with alive := false, queryable := false } }
  else s

/-- `BEGIN`, the body and `COMMIT` are raced against the loss; `ROLLBACK` is not. -/
def Phase.raced : Phase → Bool
  | .begin_ | .body | .commit => true
  | .rollback _ | .released => false

def Checkout.lostWins (s : Checkout) : Checkout :=
  match s.connectionLost with
  | some pgCode =>
    if s.settled = none ∧ s.phase.raced then
      { s with settled := some (.rejected (.connectionLost pgCode) false) }
    else s
  | none => s

def Checkout.step (s : Checkout) : Turn → Checkout
  | .fulfils => s.fulfils
  | .fails err origin => s.fails err origin
  | .clientError err => s.clientError err
  | .lostWins => s.lostWins
  | .resume => s.resume

end Dealership.Database
