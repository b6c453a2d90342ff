import Dealership.Library.Run
import Dealership.Library.Table

/-!
# Commands as transactions

A command runs in one tenant transaction: it returns an outcome together with
the rows it leaves, or it raises, and then the transaction is rolled back.
Everything the database refuses (a `CHECK`, a unique or foreign key, a trigger,
a cast) is a raise.  Row locks serialise the commands that touch the same rows,
so a history is the list of commands in the order they commit.

A state holds the rows of one tenant: every statement of the source names the
tenant, and row security repeats it.  Identifiers are the values of `uuid`
columns.
-/

namespace Dealership

open Library

/-- Why a transaction was rolled back. -/
inductive Raise where
  | unattributable (message : String)
  | rangeError (message : String)
  | typeError (message : String)
  | database (refusal : String)
deriving DecidableEq

def ensure (holds : Bool) (refusal : String) : Except Raise Unit :=
  if holds then pure () else throw (.database refusal)

theorem ensure_eq_ok {holds : Bool} {refusal : String} {u : Unit} :
    ensure holds refusal = .ok u ↔ holds = true := by
  unfold ensure
  cases holds with
  | true => exact ⟨fun _ => rfl, fun _ => rfl⟩
  | false =>
    constructor
    · intro h
      cases h
    · intro h
      cases h

/-- `withTenantTransaction`: the rows after the command, or before it when it raised. -/
def committed {α σ : Type} (before : σ) : Except Raise (α × σ) → σ
  | .ok (_, after) => after
  | .error _ => before

theorem committed_induction {α σ : Type} {before : σ} {r : Except Raise (α × σ)} {P : σ → Prop}
    (hb : P before) (hr : ∀ out after, r = .ok (out, after) → P after) :
    P (committed before r) := by
  cases r with
  | ok p => exact hr p.1 p.2 rfl
  | error e => exact hb

/-! ## Who is asking -/

/-- The eight, four, four, four and twelve hexadecimal digits of `UUID_RE`, in
either case. -/
def isUuid (s : String) : Bool :=
  let hexDigit := fun c : Char => c.isDigit || ('a' ≤ c && c ≤ 'f') || ('A' ≤ c && c ≤ 'F')
  let cs := s.toList
  cs.length = 36 && (cs.zipIdx.all fun (c, i) =>
    if i = 8 || i = 13 || i = 18 || i = 23 then c = '-' else hexDigit c)

/-- A uuid as the database writes it: two texts that differ in case name one row. -/
def canonicalUuid (s : String) : String := String.ofList (s.toList.map Char.toLower)

/-- What the access tables answer while a command runs. -/
structure Access where
  /-- `SELECT 1 FROM user_links WHERE user_link_id = $1` finds a row. -/
  userLinkExists : String → Bool
  /-- The rooftops a user link is permitted to work at. -/
  reaches : String → String → Bool

variable {access : Access}

def requireActor (access : Access) (actingUserLinkId : String) : Except Raise String :=
  if ¬ isUuid actingUserLinkId then
    throw (.unattributable "an attributable mutation requires the acting user link id")
  else if ¬ access.userLinkExists actingUserLinkId then
    throw (.unattributable
      "the acting user link does not exist — refusing an unattributable mutation")
  else pure actingUserLinkId

theorem requireActor_eq_ok {userLinkId actor : String}
    (h : requireActor access userLinkId = .ok actor) : actor = userLinkId := by
  rw [requireActor] at h
  split at h
  · cases h
  split at h
  · cases h
  · cases h
    rfl

def Access.knows (access : Access) (actingUserLinkId : String) : Bool :=
  isUuid actingUserLinkId && access.userLinkExists actingUserLinkId

theorem requireActor_of_knows {actingUserLinkId : String}
    (h : access.knows actingUserLinkId = true) :
    requireActor access actingUserLinkId = .ok actingUserLinkId := by
  rw [Access.knows, Bool.and_eq_true] at h
  simp [requireActor, h.1, h.2, pure, Except.pure]

theorem knows_of_requireActor {userLinkId actor : String}
    (h : requireActor access userLinkId = .ok actor) : access.knows userLinkId = true := by
  rw [requireActor] at h
  split at h
  · cases h
  rename_i huuid
  split at h
  · cases h
  rename_i hexists
  rw [Access.knows, not_not.mp huuid, not_not.mp hexists]
  rfl

end Dealership
