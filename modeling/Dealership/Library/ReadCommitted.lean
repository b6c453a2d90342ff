import Dealership.Library.Run

/-!
# Transactions at READ COMMITTED

A transaction is a script of statements.  A statement waits until the locks it
asks for are free, sees the committed rows together with what its own
transaction has written so far, writes, and hands what it saw to the next one.
At its end a script commits, and everything it wrote becomes visible at once,
or it raises, and nothing does.  A server runs any number of scripts, one
statement of one of them at a time; locks are kept until the transaction ends.

* `Script.run` is a script on its own, `Server.step` the interleaving of many.
* `Contract.Sound` is the rely-guarantee reading of a script: each statement is
  checked in every state that the commits of others may leave while the locks
  taken so far are held.  `Contract.Cooperates.guarded` is the rule: when every script
  is sound and what one commit does is within what the others rely on, the
  invariant holds of every committed state and every ending is as promised.
-/

namespace Dealership.Library

open List

/-- A transaction over rows `D`, with locks `K`, errors `E` and answers `A`. -/
inductive Script (D K E A : Type) where
  | commit (answer : A)
  | raise (error : E)
  | statement (locks : D → List K) (write : D → D → D) (next : D → Script D K E A)

namespace Script

variable {D K E A B : Type} {f : A → Script D K E B}

/-- One part of a transaction after another. -/
def bind : Script D K E A → (A → Script D K E B) → Script D K E B
  | commit a, f => f a
  | raise e, _ => raise e
  | statement locks write next, f => statement locks write fun v => (next v).bind f

instance : Monad (Script D K E) where
  pure := commit
  bind := bind

/-- `SELECT`: what the statement sees, read without a lock that blocks anybody. -/
def select (f : D → A) : Script D K E A :=
  statement (fun _ => []) (fun _ d => d) fun v => commit (f v)

/-- `SELECT … FOR UPDATE`, an advisory lock: the locks, then what is seen under them. -/
def selectLocking (locks : D → List K) (f : D → A) : Script D K E A :=
  statement locks (fun _ d => d) fun v => commit (f v)

/-- `INSERT`, `UPDATE`: the locks it takes, whether the database accepts it, what
it writes, what it returns. -/
def execute (locks : D → List K) (accepts : D → Bool) (refusal : E) (write : D → D → D)
    (returning : D → A) : Script D K E A :=
  statement locks write fun v => if accepts v then commit (returning v) else raise refusal

def commits : Script D K E A → Bool
  | commit _ => true
  | _ => false

theorem commits_iff {s : Script D K E A} : s.commits = true ↔ ∃ a, s = commit a := by
  cases s with
  | commit a => exact iff_of_true rfl ⟨a, rfl⟩
  | raise | statement => exact iff_of_false Bool.false_ne_true (by rintro ⟨a, h⟩; cases h)

/-! ## A script on its own -/

/-- The script with nobody else about. -/
def run : Script D K E A → D → Except E (A × D)
  | commit a, d => .ok (a, d)
  | raise e, _ => .error e
  | statement _ write next, d => (next d).run (write d d)

@[simp] theorem run_pure (a : A) (d : D) :
    run (pure a : Script D K E A) d = .ok (a, d) := rfl

@[simp] theorem run_raise (e : E) (d : D) : run (raise e : Script D K E A) d = .error e := rfl

@[simp] theorem run_select (f : D → A) (d : D) :
    run (select f : Script D K E A) d = .ok (f d, d) := rfl

@[simp] theorem run_selectLocking (locks : D → List K) (f : D → A) (d : D) :
    run (selectLocking locks f : Script D K E A) d = .ok (f d, d) := rfl

theorem run_bind (s : Script D K E A) (f : A → Script D K E B) (d : D) :
    run (s >>= f) d = run s d >>= fun p => run (f p.1) p.2 := by
  change run (bind s f) d = _
  induction s generalizing d with
  | commit a => rfl
  | raise e => rfl
  | statement locks write next ih =>
    rw [bind, run, run]
    exact ih d (write d d)

theorem bind_assoc {F : Type} (s : Script D K E A) (f : A → Script D K E B)
    (g : B → Script D K E F) : (s >>= f) >>= g = s >>= fun a => f a >>= g := by
  change bind (bind s f) g = bind s fun a => bind (f a) g
  induction s with
  | commit a => rfl
  | raise e => rfl
  | statement locks write next ih =>
    simp only [bind]
    congr 1
    exact funext fun v => ih v

theorem bind_pure (s : Script D K E A) : (s >>= fun a => pure a) = s := by
  change s.bind .commit = s
  induction s with
  | commit a => rfl
  | raise e => rfl
  | statement locks write next ih => exact congrArg (statement locks write) (funext ih)

theorem run_bind_eq_ok {s : Script D K E A} {d d' : D} {b : B} :
    run (s >>= f) d = .ok (b, d') ↔ ∃ a c, run s d = .ok (a, c) ∧ run (f a) c = .ok (b, d') := by
  rw [run_bind, bind_eq_ok]
  exact ⟨fun ⟨p, hp, h⟩ => ⟨p.1, p.2, hp, h⟩, fun ⟨a, c, hp, h⟩ => ⟨(a, c), hp, h⟩⟩

theorem run_bind_of_eq_ok {s : Script D K E A} {d c : D} {a : A}
    (h : run s d = .ok (a, c)) : run (s >>= f) d = run (f a) c := by
  rw [run_bind, h]
  rfl

theorem run_execute_eq_ok {locks : D → List K} {accepts : D → Bool} {e : E} {write : D → D → D}
    {returning : D → A} {d d' : D} {a : A} :
    run (execute locks accepts e write returning : Script D K E A) d = .ok (a, d') ↔
      accepts d = true ∧ a = returning d ∧ d' = write d d := by
  rw [execute, run]
  cases h : accepts d with
  | true => simp [run, eq_comm]
  | false => simp

theorem run_execute_bind {locks : D → List K} {accepts : D → Bool} {e : E} {write : D → D → D}
    {returning : D → A} {d d' : D} {b : B}
    (h : run (execute locks accepts e write returning >>= f) d = .ok (b, d')) :
    accepts d = true ∧ run (f (returning d)) (write d d) = .ok (b, d') := by
  obtain ⟨a, c, hs, h⟩ := run_bind_eq_ok.mp h
  obtain ⟨haccepts, rfl, rfl⟩ := run_execute_eq_ok.mp hs
  exact ⟨haccepts, h⟩

/-! ### What a script may write -/

/-- Every statement of the script moves the rows within `R`, whatever it has seen. -/
def Writes (R : D → D → Prop) : Script D K E A → Prop
  | commit _ => True
  | raise _ => True
  | statement _ write next => (∀ v d, R d (write v d)) ∧ ∀ v, Writes R (next v)

section Writes

variable {R : D → D → Prop} {s : Script D K E A}

@[simp] theorem writes_pure (a : A) : Writes R (pure a : Script D K E A) := trivial

theorem writes_unless {p : Prop} [Decidable p] {a : A} (hs : Writes R s) :
    Writes R (if p then pure a else s) := by
  split
  · exact writes_pure a
  · exact hs

@[simp] theorem writes_raise (e : E) : Writes R (raise e : Script D K E A) := trivial

theorem writes_select (hrefl : ∀ d, R d d) (f : D → A) :
    Writes R (select f : Script D K E A) := ⟨fun _ => hrefl, fun _ => trivial⟩

theorem writes_selectLocking (hrefl : ∀ d, R d d) (locks : D → List K) (f : D → A) :
    Writes R (selectLocking locks f : Script D K E A) := ⟨fun _ => hrefl, fun _ => trivial⟩

theorem writes_execute {write : D → D → D} (h : ∀ v d, R d (write v d)) (locks : D → List K)
    (accepts : D → Bool) (e : E) (returning : D → A) :
    Writes R (execute locks accepts e write returning : Script D K E A) := by
  refine ⟨h, fun v => ?_⟩
  dsimp only
  split <;> trivial

theorem Writes.bind {f : A → Script D K E B} (hs : Writes R s)
    (hf : ∀ a, Writes R (f a)) : Writes R (s >>= f) := by
  change Writes R (Script.bind s f)
  induction s with
  | commit a => exact hf a
  | raise e => trivial
  | statement locks write next ih => exact ⟨hs.1, fun v => ih v (hs.2 v)⟩

theorem Writes.mono {S : D → D → Prop} (hRS : ∀ a b, R a b → S a b)
    (hs : Writes R s) : Writes S s := by
  induction s with
  | commit a => trivial
  | raise e => trivial
  | statement locks write next ih =>
    exact ⟨fun v d => hRS _ _ (hs.1 v d), fun v => ih v (hs.2 v)⟩

theorem Writes.run (hrefl : ∀ d, R d d) (htrans : ∀ a b c, R a b → R b c → R a c) (hs : Writes R s)
    {d d' : D} {a : A} (h : s.run d = .ok (a, d')) :
    R d d' := by
  induction s generalizing d with
  | commit b =>
    cases h
    exact hrefl _
  | raise e => cases h
  | statement locks write next ih => exact htrans _ _ _ (hs.1 d d) (ih d (hs.2 d) h)

end Writes

end Script

export Script (writes_pure writes_select writes_selectLocking writes_execute writes_unless
  writes_raise run_select run_selectLocking run_bind_eq_ok run_bind_of_eq_ok run_execute_eq_ok
  run_execute_bind)

/-! ## The server -/

/-- A transaction under way: the call that began it, what is left of it, the
locks it holds and what it has written. -/
structure Session (C D K E A : Type) where
  call : C
  script : Script D K E A
  held : List K
  pending : D → D

/-- How a transaction ended. -/
inductive Ending (C D E A : Type) where
  | committed (call : C) (answer : A) (before after : D)
  | raised (call : C) (error : E)
  | aborted (call : C)

/-- The committed rows, the transactions begun (`none` once ended) and how
those that ended did, in order. -/
structure Server (C D K E A : Type) where
  committed : D
  sessions : List (Option (Session C D K E A))
  history : List (Ending C D E A)

/-- A client calls; a transaction gets its turn; the server ends one
(a deadlock, a lost connection). -/
inductive Event (C : Type) where
  | arrive (call : C)
  | turn (i : Nat)
  | abort (i : Nat)

/-- Calls that arrive one after another from a place on, each with the turns it needs to end. -/
def oneByOne {C : Type} (turns : Nat) (calls : List C) (place : Nat) : List (Event C) :=
  (calls.zipIdx place).flatMap fun (c, i) => .arrive c :: List.replicate turns (.turn i)

section Server

variable {C D K E A : Type} {S : Server C D K E A} {i : Nat} {s t : Session C D K E A}

/-- Nobody else holds a lock that conflicts with one of these. -/
def Grantable (conflicts : K → K → Bool) (sessions : List (Option (Session C D K E A))) (i : Nat)
    (locks : List K) : Bool :=
  sessions.zipIdx.all fun p => p.2 = i || p.1.all fun s =>
    s.held.all fun h => locks.all fun k => ¬ conflicts k h

/-- A transaction takes its turn: a statement whose locks are not free waits. -/
def Server.turn (conflicts : K → K → Bool) (S : Server C D K E A) (i : Nat)
    (s : Session C D K E A) : Server C D K E A :=
  match s.script with
  | .commit a =>
    { committed := s.pending S.committed
      sessions := S.sessions.set i none
      history := S.history ++ [.committed s.call a S.committed (s.pending S.committed)] }
  | .raise e =>
    { S with
      sessions := S.sessions.set i none
      history := S.history ++ [.raised s.call e] }
  | .statement locks write next =>
    let v := s.pending S.committed
    if Grantable conflicts S.sessions i (locks v) then
      { S with
        sessions := S.sessions.set i (some
          { s with
            script := next v
            held := locks v ++ s.held
            pending := fun d => write v (s.pending d) }) }
    else S

/-- The session in place `i`. -/
def Server.session (S : Server C D K E A) (i : Nat) : Option (Session C D K E A) :=
  S.sessions[i]?.join

def Server.step (conflicts : K → K → Bool) (program : C → Script D K E A)
    (S : Server C D K E A) : Event C → Server C D K E A
  | .arrive c => { S with sessions := S.sessions ++ [some ⟨c, program c, [], fun d => d⟩] }
  | .turn i =>
    match S.session i with
    | some s => S.turn conflicts i s
    | none => S
  | .abort i =>
    match S.session i with
    | some s =>
      { S with sessions := S.sessions.set i none, history := S.history ++ [.aborted s.call] }
    | none => S

/-- A server before anybody called. -/
def Server.fresh (d : D) : Server C D K E A := ⟨d, [], []⟩

/-- A server that started from `d`, after these events. -/
abbrev served (conflicts : K → K → Bool) (program : C → Script D K E A) (d : D)
    (es : List (Event C)) : Server C D K E A :=
  Library.run (Server.step conflicts program) (.fresh d) es

def Server.underWay (S : Server C D K E A) : List (Session C D K E A) :=
  S.sessions.filterMap id

theorem mem_underWay (h : S.session i = some s) : s ∈ S.underWay :=
  mem_filterMap.mpr ⟨some s, mem_of_getElem? (Option.join_eq_some_iff.mp h), rfl⟩

theorem session_set (h : S.session i = some s) (o : Option (Session C D K E A)) (j : Nat) (d : D)
    (es : List (Ending C D E A)) :
    (Server.mk d (S.sessions.set i o) es).session j = if i = j then o else S.session j := by
  have hi : i < S.sessions.length := by
    by_contra hlt
    rw [Server.session, getElem?_eq_none (Nat.le_of_not_lt hlt)] at h
    cases h
  unfold Server.session
  rw [getElem?_set]
  by_cases hij : i = j
  · rw [if_pos hij, if_pos hij, if_pos (hij ▸ hi)]
    rfl
  · rw [if_neg hij, if_neg hij]

theorem session_arrive {d : D} {es : List (Ending C D E A)}
    (h : (Server.mk d (S.sessions ++ [some t]) es).session i = some s) :
    S.session i = some s ∨ i = S.sessions.length ∧ s = t := by
  unfold Server.session at h ⊢
  rcases Nat.lt_trichotomy i S.sessions.length with hlt | heq | hgt
  · rw [getElem?_append_left hlt] at h
    exact .inl h
  · rw [heq, getElem?_concat_length] at h
    exact .inr ⟨heq, (Option.some.inj h).symm⟩
  · rw [getElem?_eq_none (by rw [length_append]; exact hgt)] at h
    cases h

theorem lt_of_session {j : Nat} (h : S.session j = some t) : j < S.sessions.length := by
  by_contra hge
  rw [Server.session, getElem?_eq_none (Nat.not_lt.mp hge)] at h
  cases h

theorem clear_of_grantable {conflicts : K → K → Bool} {j : Nat} {locks : List K}
    (h : Grantable conflicts S.sessions i locks = true) (hj : S.session j = some t) (hij : i ≠ j)
    {k l : K} (hk : k ∈ locks) (hl : l ∈ t.held) :
    conflicts k l = false := by
  have hget : S.sessions[j]? = some (some t) := Option.join_eq_some_iff.mp hj
  have hmem : (some t, j) ∈ S.sessions.zipIdx := mk_mem_zipIdx_iff_getElem?.mpr hget
  have hall := all_eq_true.mp h _ hmem
  simp only [Bool.or_eq_true, decide_eq_true_eq, Option.all_some, all_eq_true] at hall
  rcases hall with hji | hclear
  · exact absurd hji.symm hij
  · simpa using hclear l hl k hk

/-! ## Rely and guarantee -/

/-- What the transactions of a system promise each other.  `rely c held d d'`: the
commits of others may move the rows from `d` to `d'` while a transaction called
by `c` holds `held`.  `finds c held d`: what it may find when it takes a turn.
`ensures c held a d d'`: its own commit may move the rows so, answering `a`.
`mayRaise c e`: it may end by raising `e`. -/
structure Contract (C D K E A : Type) where
  inv : D → Prop
  rely : C → List K → D → D → Prop
  finds : C → List K → D → Prop
  ensures : C → List K → A → D → D → Prop
  mayRaise : C → E → Prop

namespace Contract

/-- A script keeps the contract from here on, whatever the others commit between
its statements. -/
def Sound (κ : Contract C D K E A) (c : C) :
    Script D K E A → List K → (D → D) → D → Prop
  | .commit a, held, pending, d => ∀ d', κ.rely c held d d' → κ.inv d' → κ.finds c held d' →
      κ.inv (pending d') ∧ κ.ensures c held a d' (pending d')
  | .raise e, _, _, _ => κ.mayRaise c e
  | .statement locks write next, held, pending, d => ∀ d', κ.rely c held d d' → κ.inv d' →
      κ.finds c held d' → Sound κ c (next (pending d')) (locks (pending d') ++ held)
        (fun x => write (pending d') (pending x)) d'

theorem Sound.stable {κ : Contract C D K E A}
    (htrans : ∀ c h a b e, κ.rely c h a b → κ.rely c h b e → κ.rely c h a e) {c : C}
    {s : Script D K E A} {held : List K} {pending : D → D} {d d' : D}
    (h : κ.Sound c s held pending d) (hr : κ.rely c held d d') :
    κ.Sound c s held pending d' := by
  cases s with
  | commit a => exact fun e he => h e (htrans _ _ _ _ _ hr he)
  | raise e => exact h
  | statement locks write next => exact fun e he => h e (htrans _ _ _ _ _ hr he)

/-! ### Checking a script -/

/-- What others may do is a preorder, and more locks allow less of it. -/
structure Regular (κ : Contract C D K E A) (c : C) : Prop where
  refl : ∀ h d, κ.rely c h d d
  trans : ∀ h a b e, κ.rely c h a b → κ.rely c h b e → κ.rely c h a e
  mono : ∀ h k a b, (∀ x ∈ h, x ∈ k) → κ.rely c k a b → κ.rely c h a b

/-- The call may end by raising anything. -/
class Tolerant (κ : Contract C D K E A) (c : C) : Prop where
  raises : ∀ e, κ.mayRaise c e

/-- The contract of a part of a program, whose answer is passed on. -/
def onAnswers {B : Type} (κ : Contract C D K E A) (g : B → A) : Contract C D K E B where
  inv := κ.inv
  rely := κ.rely
  finds := κ.finds
  ensures := fun c held b => κ.ensures c held (g b)
  mayRaise := κ.mayRaise

instance {B : Type} {κ : Contract C D K E A} {c : C} {g : B → A} [h : κ.Tolerant c] :
    (κ.onAnswers g).Tolerant c := ⟨h.raises⟩

section Check

variable {κ : Contract C D K E A} {c : C} {held : List K} {pending : D → D} {d : D} {B : Type}
  {s : Script D K E B} {g : B → Script D K E A}

theorem Regular.onAnswers {g : B → A} (h : κ.Regular c) : (κ.onAnswers g).Regular c :=
  ⟨h.refl, h.trans, h.mono⟩

theorem Sound.of_onAnswers {g : B → A} (h : (κ.onAnswers g).Sound c s held pending d) :
    κ.Sound c (s >>= fun b => pure (g b)) held pending d := by
  change κ.Sound c (s.bind fun b => .commit (g b)) held pending d
  induction s generalizing held pending d with
  | commit b => exact h
  | raise e => exact h
  | statement locks write next ih => exact fun d' hr hi hf => ih (pending d') (h d' hr hi hf)

theorem sound_select_bind {f : D → B} (h : ∀ d', κ.rely c held d d' → κ.inv d' → κ.finds c held d' →
      κ.Sound c (g (f (pending d'))) held pending d') :
    κ.Sound c (Script.select f >>= g) held pending d := h

theorem sound_selectLocking_bind {locks : D → List K} {f : D → B}
    (h : ∀ d' more, (∀ k ∈ held, k ∈ more) → (∀ k ∈ locks (pending d'), k ∈ more) →
      κ.rely c held d d' → κ.inv d' → κ.finds c held d' →
        κ.Sound c (g (f (pending d'))) more pending d') :
    κ.Sound c (Script.selectLocking locks f >>= g) held pending d := fun d' =>
  h d' _ (fun _ hk => mem_append_right _ hk) fun _ hk => mem_append_left _ hk

section Execute

variable {locks : D → List K} {accepts : D → Bool} {e : E} {write : D → D → D} {returning : D → B}
  (h : ∀ d' more, (∀ k ∈ held, k ∈ more) → (∀ k ∈ locks (pending d'), k ∈ more) →
    κ.rely c held d d' → κ.inv d' → κ.finds c held d' → accepts (pending d') = true →
      κ.Sound c (g (returning (pending d'))) more (fun x => write (pending d') (pending x)) d')

include h

theorem sound_execute_bind_of (hraise : ∀ d', κ.rely c held d d' → κ.inv d' → κ.finds c held d' →
      accepts (pending d') = false → κ.mayRaise c e) :
    κ.Sound c (Script.execute locks accepts e write returning >>= g) held pending d := by
  intro d' hr hi hf
  change κ.Sound c (Script.bind (if _ then _ else _) g) _ _ _
  cases hacc : accepts (pending d') with
  | true =>
    exact h d' _ (fun _ hk => mem_append_right _ hk) (fun _ hk => mem_append_left _ hk)
      hr hi hf hacc
  | false => exact hraise d' hr hi hf hacc

theorem sound_execute_bind [hκ : κ.Tolerant c] :
    κ.Sound c (Script.execute locks accepts e write returning >>= g) held pending d :=
  sound_execute_bind_of h fun _ _ _ _ _ => hκ.raises e

end Execute

/-- A part of a script that writes within `R` is passed over: what follows is sound under
the locks it took, with `R` added to whatever was pending. -/
theorem Sound.past_writes {Q R : D → D → Prop} (hQ : ∀ a b c, Q a b → R b c → Q a c)
    (hκ : κ.Regular c) (hraise : ∀ e, κ.mayRaise c e) (hs : s.Writes R) {f : B → Script D K E A}
    (hp : ∀ x, Q x (pending x))
    (hf : ∀ b held' pending' d', (∀ k ∈ held, k ∈ held') → (∀ x, Q x (pending' x)) →
      κ.rely c held d d' → κ.Sound c (f b) held' pending' d') :
    κ.Sound c (s >>= f) held pending d := by
  change κ.Sound c (s.bind f) held pending d
  induction s generalizing held pending d with
  | commit b => exact hf b held pending d (fun _ hk => hk) hp (hκ.refl _ _)
  | raise e => exact hraise e
  | statement locks write next ih =>
    intro d' hr _ _
    refine ih (pending d') (hs.2 _) (fun x => hQ _ _ _ (hp x) (hs.1 _ _)) ?_
    intro b held' pending' d'' hsub hp' hr'
    have hheld : ∀ k ∈ held, k ∈ locks (pending d') ++ held := fun k hk => mem_append_right _ hk
    exact hf b held' pending' d'' (fun k hk => hsub k (hheld k hk)) hp'
      (hκ.trans _ _ _ _ hr (hκ.mono _ _ _ _ hheld hr'))

/-- A part of a script that writes within `R` is passed over: what follows is sound
under the locks it took and whatever it wrote. -/
theorem Sound.bind_of_writes {R : D → D → Prop} (hR : ∀ a b c, R a b → R b c → R a c)
    (hκ : κ.Regular c) (hraise : ∀ e, κ.mayRaise c e) (hs : s.Writes R) {f : B → Script D K E A}
    (hp : ∀ x, R x (pending x))
    (hf : ∀ b held' pending' d', (∀ k ∈ held, k ∈ held') → (∀ x, R x (pending' x)) →
      κ.rely c held d d' → κ.Sound c (f b) held' pending' d') :
    κ.Sound c (s >>= f) held pending d :=
  Sound.past_writes hR hκ hraise hs hp hf

/-- A script that writes within `R` is sound where its end is. -/
theorem Sound.of_writes {Q R : D → D → Prop} (hQ : ∀ a b c, Q a b → R b c → Q a c)
    (hκ : κ.Regular c) (hraise : ∀ e, κ.mayRaise c e) {s : Script D K E A} (hs : s.Writes R)
    (hp : ∀ x, Q x (pending x))
    (hf : ∀ a held' pending' d', (∀ k ∈ held, k ∈ held') → (∀ x, Q x (pending' x)) →
      κ.rely c held d d' → κ.Sound c (pure a) held' pending' d') :
    κ.Sound c s held pending d := by
  rw [← Script.bind_pure s]
  exact Sound.past_writes hQ hκ hraise hs hp hf

end Check

/-! ### Side by side -/

def Keeps (κ : Contract C D K E A) : Ending C D E A → Prop
  | .committed c a before after =>
    κ.inv before ∧ κ.inv after ∧ ∃ held, κ.ensures c held a before after
  | .raised c e => κ.mayRaise c e
  | .aborted _ => True

/-- Two transactions side by side: their calls are apart and neither waits for
a lock of the other. -/
def Beside (conflicts : K → K → Bool) (apart : C → C → Prop) (s t : Session C D K E A) : Prop :=
  apart s.call t.call ∧ ∀ k ∈ s.held, ∀ h ∈ t.held, conflicts k h = false

/-- What makes scripts that keep the contract one by one keep it together, in
runs whose events all meet the condition `admits`. -/
structure Cooperates (κ : Contract C D K E A) (conflicts : K → K → Bool)
    (program : C → Script D K E A) (apart : C → C → Prop)
    (admits : Server C D K E A → Event C → Prop) : Prop where
  refl : ∀ c h d, κ.rely c h d d
  trans : ∀ c h a b e, κ.rely c h a b → κ.rely c h b e → κ.rely c h a e
  symm : ∀ k h, conflicts k h = conflicts h k
  begins : ∀ S c, admits S (.arrive c) → κ.inv S.committed →
    κ.Sound c (program c) [] (fun d => d) S.committed
  sets_apart : ∀ S c i s, admits S (.arrive c) → S.session i = some s →
    apart s.call c ∧ apart c s.call
  finds : ∀ S i s, admits S (.turn i) → S.session i = some s → κ.finds s.call s.held S.committed
  respects : ∀ S i j s t a, admits S (.turn i) → i ≠ j → S.session i = some s →
    S.session j = some t → s.script = .commit a → Beside conflicts apart s t →
    κ.inv S.committed → κ.ensures s.call s.held a S.committed (s.pending S.committed) →
    κ.rely t.call t.held S.committed (s.pending S.committed)

/-- The state of a server whose transactions keep the contract. -/
structure Guarded (κ : Contract C D K E A) (conflicts : K → K → Bool) (apart : C → C → Prop)
    (S : Server C D K E A) : Prop where
  inv : κ.inv S.committed
  sound : ∀ i s, S.session i = some s → κ.Sound s.call s.script s.held s.pending S.committed
  beside : ∀ i j s t, i ≠ j → S.session i = some s → S.session j = some t →
    Beside conflicts apart s t
  history : ∀ e ∈ S.history, κ.Keeps e

section Rule

variable {κ : Contract C D K E A} {conflicts : K → K → Bool} {program : C → Script D K E A}
  {apart : C → C → Prop} {admits : Server C D K E A → Event C → Prop} {S : Server C D K E A}

theorem Guarded.set_none (h : Guarded κ conflicts apart S) {i : Nat} {s : Session C D K E A}
    (hs : S.session i = some s) {d : D} (hinv : κ.inv d)
    (hrely : ∀ j t, i ≠ j → S.session j = some t → κ.rely t.call t.held S.committed d)
    (htrans : ∀ c h a b e, κ.rely c h a b → κ.rely c h b e → κ.rely c h a e) {e : Ending C D E A}
    (he : κ.Keeps e) :
    Guarded κ conflicts apart ⟨d, S.sessions.set i none, S.history ++ [e]⟩ := by
  have hother : ∀ j t, (Server.mk d (S.sessions.set i none) (S.history ++ [e])).session j = some t →
      i ≠ j ∧ S.session j = some t := by
    intro j t ht
    rw [session_set hs] at ht
    by_cases hij : i = j
    · rw [if_pos hij] at ht
      cases ht
    · rw [if_neg hij] at ht
      exact ⟨hij, ht⟩
  refine ⟨hinv, ?_, ?_, ?_⟩
  · intro j t ht
    obtain ⟨hij, ht⟩ := hother j t ht
    exact (h.sound j t ht).stable htrans (hrely j t hij ht)
  · intro j k t u hjk ht hu
    exact h.beside j k t u hjk (hother j t ht).2 (hother k u hu).2
  · intro e' he'
    rcases mem_append.mp he' with he' | he'
    · exact h.history e' he'
    · rw [mem_singleton.mp he']
      exact he

theorem Guarded.arrive (hc : Cooperates κ conflicts program apart admits)
    (h : Guarded κ conflicts apart S) {c : C} (ha : admits S (.arrive c)) :
    Guarded κ conflicts apart (S.step conflicts program (.arrive c)) := by
  refine ⟨h.inv, ?_, ?_, h.history⟩
  · intro i s hs
    rcases session_arrive hs with hs | ⟨-, rfl⟩
    · exact h.sound i s hs
    · exact hc.begins S c ha h.inv
  · intro i j s t hij hs ht
    rcases session_arrive hs with hs | ⟨rfl, rfl⟩
    · rcases session_arrive ht with ht | ⟨rfl, rfl⟩
      · exact h.beside i j s t hij hs ht
      · exact ⟨(hc.sets_apart S c i s ha hs).1, fun _ _ l hl => absurd hl not_mem_nil⟩
    · rcases session_arrive ht with ht | ⟨rfl, rfl⟩
      · exact ⟨(hc.sets_apart S c j t ha ht).2, fun k hk => absurd hk not_mem_nil⟩
      · exact absurd rfl hij

theorem Guarded.turn (hc : Cooperates κ conflicts program apart admits)
    (h : Guarded κ conflicts apart S) {i : Nat} (ha : admits S (.turn i)) {s : Session C D K E A}
    (hs : S.session i = some s) :
    Guarded κ conflicts apart (S.turn conflicts i s) := by
  have hsound := h.sound i s hs
  have hfinds := hc.finds S i s ha hs
  unfold Server.turn
  cases hscript : s.script with
  | commit a =>
    rw [hscript] at hsound
    obtain ⟨hinv, hens⟩ := hsound S.committed (hc.refl _ _ _) h.inv hfinds
    refine h.set_none hs hinv ?_ hc.trans ⟨h.inv, hinv, s.held, hens⟩
    intro j t hij ht
    exact hc.respects S i j s t a ha hij hs ht hscript (h.beside i j s t hij hs ht) h.inv hens
  | raise e =>
    rw [hscript] at hsound
    exact h.set_none hs h.inv (fun _ _ _ _ => hc.refl _ _ _) hc.trans hsound
  | statement locks write next =>
    rw [hscript] at hsound
    dsimp only
    split
    · rename_i hgrant
      refine ⟨h.inv, ?_, ?_, h.history⟩
      · intro j t ht
        rw [session_set hs] at ht
        split at ht
        · cases ht
          exact hsound S.committed (hc.refl _ _ _) h.inv hfinds
        · exact h.sound j t ht
      · intro j k t u hjk ht hu
        rw [session_set hs] at ht hu
        split at ht
        · rename_i hij
          rw [if_neg (hij ▸ hjk)] at hu
          cases ht
          obtain ⟨hcalls, hold⟩ := h.beside i k s u (hij ▸ hjk) hs hu
          refine ⟨hcalls, fun l hl m hm => ?_⟩
          rcases mem_append.mp hl with hl | hl
          · exact clear_of_grantable hgrant hu (hij ▸ hjk) hl hm
          · exact hold l hl m hm
        · split at hu
          · rename_i hij hik
            cases hu
            obtain ⟨hcalls, hold⟩ := h.beside j i t s (Ne.symm hij) ht hs
            refine ⟨hcalls, fun l hl m hm => ?_⟩
            rcases mem_append.mp hm with hm | hm
            · rw [hc.symm]
              exact clear_of_grantable hgrant ht hij hm hl
            · exact hold l hl m hm
          · exact h.beside j k t u hjk ht hu
    · exact h

theorem Guarded.step (hc : Cooperates κ conflicts program apart admits)
    (h : Guarded κ conflicts apart S) {e : Event C} (ha : admits S e) :
    Guarded κ conflicts apart (S.step conflicts program e) := by
  cases e with
  | arrive c => exact h.arrive hc ha
  | turn i =>
    cases hs : S.session i with
    | none =>
      rw [Server.step, hs]
      exact h
    | some s =>
      rw [Server.step, hs]
      exact h.turn hc ha hs
  | abort i =>
    cases hs : S.session i with
    | none =>
      rw [Server.step, hs]
      exact h
    | some s =>
      rw [Server.step, hs]
      exact h.set_none hs h.inv (fun _ _ _ _ => hc.refl _ _ _) hc.trans
        (e := .aborted s.call) trivial

/-- Where no event cuts off a transaction of a kind, none of that kind has ended cut off. -/
theorem not_aborted {P : C → Prop}
    (ha : ∀ S i s, admits S (.abort i) → S.session i = some s → ¬ P s.call) {es : List (Event C)}
    (h : Along (Server.step conflicts program) admits S es)
    (hS : ∀ c, P c → Ending.aborted c ∉ S.history) {c : C} (hc : P c) :
    .aborted c ∉ (Library.run (Server.step conflicts program) S es).history := by
  refine Along.invariant (I := fun S => ∀ c, P c → Ending.aborted c ∉ S.history) ?_ h hS c hc
  intro S e hS hadm c hc
  cases e with
  | arrive _ => exact hS c hc
  | abort i =>
    rw [Server.step]
    cases hs : S.session i with
    | none => exact hS c hc
    | some s =>
      intro hmem
      rcases mem_append.mp hmem with hmem | hmem
      · exact hS c hc hmem
      · cases mem_singleton.mp hmem
        exact ha S i s hadm hs hc
  | turn i =>
    rw [Server.step]
    cases S.session i with
    | none => exact hS c hc
    | some s =>
      dsimp only
      unfold Server.turn
      split
      · simp [hS c hc]
      · simp [hS c hc]
      dsimp only
      split
      · exact hS c hc
      · exact hS c hc

/-- **The rule.**  In every run whose events are all admitted the invariant holds
of the committed rows, and every transaction ended as the contract says. -/
theorem Cooperates.guarded (hc : Cooperates κ conflicts program apart admits) {d : D}
    (hd : κ.inv d) {es : List (Event C)}
    (h : Along (Server.step conflicts program) admits (.fresh d) es) :
    Guarded κ conflicts apart (Library.run (Server.step conflicts program) (.fresh d) es) := by
  have hstep : ∀ (S : Server C D K E A) (e : Event C), Guarded κ conflicts apart S →
      admits S e → Guarded κ conflicts apart (S.step conflicts program e) :=
    fun S e hS ha => hS.step hc ha
  refine h.invariant hstep ?_
  refine ⟨hd, ?_, ?_, ?_⟩
  · intro i s hs
    cases hs
  · intro i j s t _ hs
    cases hs
  · intro e he
    cases he

end Rule

end Contract

export Contract (sound_select_bind sound_selectLocking_bind sound_execute_bind
  sound_execute_bind_of)

end Server

end Dealership.Library
