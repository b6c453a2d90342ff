import Dealership.Database.Checkout

/-!
# A transaction tells the truth

What the caller of `withTransaction` and the pool are promised, in every state that any order of
events can lead to, as long as two things hold.  An error that comes from elsewhere must not carry
a shape that this function takes for its own evidence, and a `ROLLBACK` that fails must be seen to
have lost the connection, or have ended the transaction all the same.  The first sits in the way
of a statement on another pooled client, whose backend is shut down under it.
-/

namespace Dealership.Database

open Library List

variable {s : Checkout} {err : Thrown}

/-- What a caller, the pool and whoever reads the log are promised. -/
structure Truthful (s : Checkout) : Prop where
  /-- It resolves only on an acknowledged commit. -/
  committed : s.outcome = some (.ok ()) → s.client.committed = true
  /-- Only a live client without a transaction goes back to the pool. -/
  clean : s.phase = .released → s.destroyed = false →
    s.client.alive = true ∧ s.client.inTransaction = false
  /-- A loss of this connection is logged once, and nothing else is logged as one. -/
  logged : s.phase = .released →
    s.log.countP LogLine.isLoss = if s.client.alive = true then 0 else 1
  /-- A loss known when a failing step is caught is what the caller is told. -/
  told : ∀ c ∈ s.caught, c.known = true → s.phase = .released ∧ s.rollbacks = 0 ∧
    ∃ pgCode, s.outcome = some (.error (.connectionLost pgCode))
  /-- An error from elsewhere leaves as itself, after a `ROLLBACK`, and the client is kept. -/
  elsewhere : ∀ c ∈ s.caught, c.elsewhere = true → c.known = false → s.rollbacks = 1 ∧
    (s.phase = .released → s.outcome = some (.error c.err) ∧
      (s.client.alive = true → s.destroyed = false))
  /-- The listener is on the client for exactly the checkout. -/
  listener : s.listening = true ↔ s.phase ≠ .released

/-- An error that is what it looks like: one from elsewhere does not say a session has ended, and
a `ROLLBACK` that fails says so, or has left the session without its transaction. -/
def Checkout.failsPlainly (s : Checkout) (err : Thrown) (origin : Origin) : Bool :=
  match s.phase with
  | .rollback _ =>
    let after := { s with client := s.client.after err origin }
    s.connectionLost.isSome || after.isLostOnThisClient err ||
      (after.client.alive && !after.client.inTransaction)
  | _ => origin ≠ .elsewhere || !isLostConnection err

def Checkout.plain (s : Checkout) : Turn → Bool
  | .fails err origin => s.failsPlainly err origin
  | .fulfils | .clientError _ | .lostWins | .resume => true

/-! ## The invariant -/

/-- What holds of the latch in every phase. -/
structure Latch (s : Checkout) : Prop where
  dead : s.connectionLost.isSome = true → s.client.alive = false
  taken : s.client.queryable = false → s.client.alive = false
  logged : s.log.countP LogLine.isLoss = if s.connectionLost.isSome = true then 1 else 0

/-- What holds while `BEGIN`, the body or `COMMIT` is awaited. -/
structure Racing (s : Checkout) : Prop where
  listening : s.listening = true
  rollbacks : s.rollbacks = 0
  caught : s.caught = none
  outcome : s.outcome = none
  able : (∀ err, s.settled ≠ some (.rejected err false)) →
    s.client.queryable = true ∨ s.connectionLost.isSome = true
  foreign : ∀ err, s.settled = some (.rejected err true) → isLostConnection err = false
  own : ∀ err, s.settled = some (.rejected err false) → isLostConnection err = true →
    s.client.alive = false
  acknowledged : s.phase = .commit → s.settled = some .fulfilled → s.client.committed = true ∧
    s.client.inTransaction = false ∧ (s.client.alive = true ∨ s.connectionLost.isSome = true)

/-- What holds while the `ROLLBACK` after `err` is awaited. -/
structure RollingBack (s : Checkout) (err : Thrown) : Prop where
  listening : s.listening = true
  rollbacks : s.rollbacks = 1
  caught : ∃ elsewhere, s.caught = some { err := err, elsewhere := elsewhere, known := false }
  outcome : s.outcome = none
  acknowledged : s.settled = some .fulfilled → s.client.inTransaction = false ∧
    (s.client.alive = true ∨ s.connectionLost.isSome = true)
  failed : ∀ e elsewhere, s.settled = some (.rejected e elsewhere) →
    (isLostConnection e = true → s.client.alive = false) ∧
      (s.connectionLost.isSome = true ∨ s.isLostOnThisClient e = true ∨
        s.client.alive = true ∧ s.client.inTransaction = false)

/-- What holds once the client has been released. -/
structure Released (s : Checkout) : Prop where
  listening : s.listening = false
  committed : s.outcome = some (.ok ()) → s.client.committed = true
  destroyed : s.destroyed = (s.connectionLost.isSome || !s.client.queryable)
  clean : s.destroyed = false → s.client.alive = true ∧ s.client.inTransaction = false
  lost : s.client.alive = false → s.connectionLost.isSome = true
  told : ∀ c ∈ s.caught, c.known = true → s.rollbacks = 0 ∧
    ∃ pgCode, s.outcome = some (.error (.connectionLost pgCode))
  elsewhere : ∀ c ∈ s.caught, c.elsewhere = true → c.known = false → s.rollbacks = 1 ∧
    s.outcome = some (.error c.err)

/-- What holds in the phase the function is in. -/
def InPhase (s : Checkout) : Prop :=
  match s.phase with
  | .begin_ | .body | .commit => Racing s
  | .rollback err => RollingBack s err
  | .released => Released s

theorem Phase.cases (p : Phase) : p.raced = true ∨ (∃ err, p = .rollback err) ∨ p = .released := by
  cases p with
  | begin_ | body | commit => exact .inl rfl
  | rollback err => exact .inr (.inl ⟨err, rfl⟩)
  | released => exact .inr (.inr rfl)

structure Sound (s : Checkout) : Prop where
  latch : Latch s
  phase : InPhase s

theorem Sound.racing (h : Sound s) (hp : s.phase.raced = true) : Racing s := by
  have hphase := h.phase
  unfold InPhase at hphase
  split at hphase
  case h_4 err he => rw [he] at hp; cases hp
  case h_5 he => rw [he] at hp; cases hp
  all_goals exact hphase

theorem Sound.rollingBack (h : Sound s) (hp : s.phase = .rollback err) : RollingBack s err := by
  have hphase := h.phase
  rw [InPhase, hp] at hphase
  exact hphase

theorem Sound.released (h : Sound s) (hp : s.phase = .released) : Released s := by
  have hphase := h.phase
  rw [InPhase, hp] at hphase
  exact hphase

theorem inPhase_of_racing (hp : s.phase.raced = true) (h : Racing s) : InPhase s := by
  unfold InPhase
  split
  case h_4 err he => rw [he] at hp; cases hp
  case h_5 he => rw [he] at hp; cases hp
  all_goals exact h

theorem inPhase_of_rollingBack (hp : s.phase = .rollback err) (h : RollingBack s err) :
    InPhase s := by
  rw [InPhase, hp]
  exact h

theorem inPhase_of_released (hp : s.phase = .released) (h : Released s) : InPhase s := by
  rw [InPhase, hp]
  exact h

theorem checkedOut_sound : Sound checkedOut where
  latch :=
    { dead := nofun
      taken := nofun
      logged := rfl }
  phase :=
    { listening := rfl
      rollbacks := rfl
      caught := rfl
      outcome := rfl
      able := fun _ => .inl rfl
      foreign := nofun
      own := nofun
      acknowledged := nofun }

/-! ## One turn -/

section Turns

variable {elsewhere : Bool} {origin : Origin}

theorem recordConnectionLost_eq (h : Latch s) (err : Thrown) :
    ∃ log pgCode, s.recordConnectionLost err =
      { s with log := log, connectionLost := some pgCode } ∧ log.countP LogLine.isLoss = 1 := by
  have hl := h.logged
  unfold Checkout.recordConnectionLost
  cases hc : s.connectionLost with
  | some pgCode =>
    rw [hc] at hl
    refine ⟨s.log, pgCode, ?_, hl⟩
    dsimp only
    rw [← hc]
  | none =>
    rw [hc] at hl
    refine ⟨_, _, rfl, ?_⟩
    rw [countP_append, hl]
    rfl

theorem release_sound {outcome : Except Thrown Unit} (latch : Latch s)
    (committed : outcome = .ok () → s.client.committed = true)
    (clean : s.connectionLost = none → s.client.alive = true ∧ s.client.inTransaction = false)
    (told : ∀ c ∈ s.caught, c.known = true → s.rollbacks = 0 ∧
      ∃ pgCode, outcome = .error (.connectionLost pgCode))
    (elsewhere : ∀ c ∈ s.caught, c.elsewhere = true → c.known = false → s.rollbacks = 1 ∧
      outcome = .error c.err) : Sound (s.release outcome) := by
  refine ⟨⟨latch.dead, latch.taken, latch.logged⟩, inPhase_of_released rfl ?_⟩
  refine ⟨rfl, ?_, rfl, ?_, ?_, ?_, ?_⟩
  · intro h
    exact committed (Option.some.inj h)
  · intro (h : (s.connectionLost.isSome || !s.client.queryable) = false)
    rw [Bool.or_eq_false_iff, Option.isSome_eq_false_iff, Option.isNone_iff_eq_none] at h
    exact clean h.1
  · intro (h : s.client.alive = false)
    change s.connectionLost.isSome = true
    cases hc : s.connectionLost with
    | some pgCode => rfl
    | none =>
      rw [(clean hc).1] at h
      cases h
  · intro c hc hk
    obtain ⟨hr, pgCode, ho⟩ := told c hc hk
    exact ⟨hr, pgCode, congrArg some ho⟩
  · intro c hc he hk
    obtain ⟨hr, ho⟩ := elsewhere c hc he hk
    exact ⟨hr, congrArg some ho⟩

/-- What a step of the race failed with counts as lost only when the connection is gone. -/
theorem Racing.dead_of_lost (h : Racing s) (latch : Latch s)
    (hs : s.settled = some (.rejected err elsewhere)) (hl : s.isLostOnThisClient err = true) :
    s.client.alive = false := by
  rw [Checkout.isLostOnThisClient, Bool.or_eq_true, Bool.and_eq_true, Bool.or_eq_true,
    Bool.not_eq_true'] at hl
  rcases hl with hshape | ⟨-, hlatched | htaken⟩
  · cases elsewhere with
    | true =>
      rw [h.foreign err hs] at hshape
      cases hshape
    | false => exact h.own err hs hshape
  · exact latch.dead hlatched
  · exact latch.taken htaken

theorem Racing.not_lost_elsewhere (h : Racing s) {lost : Bool}
    (hs : s.settled = some (.rejected err elsewhere)) (he : elsewhere = true)
    (hknown : (s.connectionLost.isSome || (!elsewhere && lost)) = false) :
    ¬ s.isLostOnThisClient err = true := by
  subst he
  rw [Bool.not_true, Bool.false_and, Bool.or_false] at hknown
  have hable : s.client.queryable = true ∨ s.connectionLost.isSome = true := by
    refine h.able fun e he => ?_
    rw [hs] at he
    cases he
  rw [hknown] at hable
  have hqueryable : s.client.queryable = true := hable.resolve_right Bool.false_ne_true
  rw [Checkout.isLostOnThisClient, h.foreign err hs, hknown, hqueryable]
  simp

/-- The `catch` tells a loss it knows of, and otherwise rolls back. -/
theorem caughtWith_sound (latch : Latch s) (h : Racing s)
    (hs : s.settled = some (.rejected err elsewhere)) : Sound (s.caughtWith err elsewhere) := by
  unfold Checkout.caughtWith
  dsimp only
  generalize hk : (s.connectionLost.isSome || (!elsewhere && s.isLostOnThisClient err)) = known
  set t := { s with caught := some { err := err, elsewhere := elsewhere, known := known } } with ht
  have latch' : Latch t := ⟨latch.dead, latch.taken, latch.logged⟩
  have hc : ∀ c ∈ t.caught, c = { err := err, elsewhere := elsewhere, known := known } :=
    fun c hc => (Option.some.inj hc).symm
  by_cases hlost : t.isLostOnThisClient err = true
  · obtain ⟨log, pgCode, heq, hlog⟩ := recordConnectionLost_eq latch' err
    rw [if_pos hlost, heq]
    refine release_sound ⟨?_, latch.taken, hlog⟩ nofun nofun ?_ ?_
    · exact fun _ => h.dead_of_lost latch hs hlost
    · intro c hmem _
      exact ⟨h.rollbacks, pgCode, rfl⟩
    · intro c hmem he hknown
      rw [hc c hmem] at he hknown
      exact absurd hlost (h.not_lost_elsewhere hs he (hk.trans hknown))
  · rw [if_neg hlost]
    have hlost : s.isLostOnThisClient err = false := Bool.eq_false_iff.mpr hlost
    split
    case h_1 pgCode hsome =>
      refine release_sound latch' nofun ?_ ?_ ?_
      · intro hnone
        rw [hnone] at hsome
        cases hsome
      · intro c hmem _
        exact ⟨h.rollbacks, pgCode, rfl⟩
      · intro c hmem he hknown
        have hsome : s.connectionLost = some pgCode := hsome
        rw [hc c hmem] at hknown
        rw [hsome] at hk
        exact absurd (hk.trans hknown) (by simp)
    case h_2 hnone =>
      have hnone : s.connectionLost = none := hnone
      rw [hnone, hlost, Bool.and_false] at hk
      refine ⟨⟨latch.dead, latch.taken, latch.logged⟩, inPhase_of_rollingBack rfl ?_⟩
      refine ⟨h.listening, ?_, ⟨elsewhere, ?_⟩, h.outcome, nofun, nofun⟩
      · exact congrArg (· + 1) h.rollbacks
      · have hunknown : known = false := hk.symm
        rw [ht, hunknown]

/-- A `ROLLBACK` that failed plainly has lost the connection, or left nothing to roll back. -/
theorem rollbackFailed_sound (latch : Latch s) {e : Thrown} (h : RollingBack s err)
    (hs : s.settled = some (.rejected e elsewhere)) :
    Sound ((s.rollbackFailed e).release (.error err)) := by
  obtain ⟨hown, hplain⟩ := h.failed e elsewhere hs
  obtain ⟨origin, hcaught⟩ := h.caught
  have hc : ∀ c ∈ s.caught, c = { err := err, elsewhere := origin, known := false } := by
    rw [hcaught]
    exact fun c hc => (Option.some.inj hc).symm
  have told : ∀ c ∈ s.caught, c.known = true → s.rollbacks = 0 ∧
      ∃ pgCode, (Except.error err : Except Thrown Unit) = .error (.connectionLost pgCode) := by
    intro c hmem hk
    rw [hc c hmem] at hk
    cases hk
  have kept : ∀ c ∈ s.caught, c.elsewhere = true → c.known = false → s.rollbacks = 1 ∧
      (Except.error err : Except Thrown Unit) = .error c.err := by
    intro c hmem _ _
    rw [hc c hmem]
    exact ⟨h.rollbacks, rfl⟩
  unfold Checkout.rollbackFailed
  by_cases hlost : s.isLostOnThisClient e = true
  · obtain ⟨log, pgCode, heq, hlog⟩ := recordConnectionLost_eq latch e
    rw [if_pos hlost, heq]
    refine release_sound ⟨fun _ => ?_, latch.taken, hlog⟩ nofun nofun told kept
    rw [Checkout.isLostOnThisClient, Bool.or_eq_true, Bool.and_eq_true, Bool.or_eq_true,
      Bool.not_eq_true'] at hlost
    rcases hlost with hshape | ⟨-, hlatched | htaken⟩
    · exact hown hshape
    · exact latch.dead hlatched
    · exact latch.taken htaken
  · rw [if_neg hlost]
    split
    case isTrue hlatched =>
      refine release_sound latch nofun ?_ told kept
      intro hnone
      rw [hnone] at hlatched
      cases hlatched
    case isFalse hlatched =>
      have hclean := (hplain.resolve_left hlatched).resolve_left hlost
      refine release_sound ⟨latch.dead, latch.taken, ?_⟩ nofun (fun _ => hclean) told kept
      rw [countP_append, latch.logged]
      rfl

theorem resume_sound (h : Sound s) : Sound s.resume := by
  unfold Checkout.resume
  split
  case h_1 hp hs =>
    have hr := h.racing (by rw [hp]; rfl)
    refine ⟨⟨h.latch.dead, h.latch.taken, h.latch.logged⟩, inPhase_of_racing rfl ?_⟩
    refine ⟨hr.listening, hr.rollbacks, hr.caught, hr.outcome, fun _ => hr.able ?_, nofun, nofun,
      nofun⟩
    rw [hs]
    nofun
  case h_2 hp hs =>
    have hr := h.racing (by rw [hp]; rfl)
    refine ⟨⟨h.latch.dead, h.latch.taken, h.latch.logged⟩, inPhase_of_racing rfl ?_⟩
    refine ⟨hr.listening, hr.rollbacks, hr.caught, hr.outcome, fun _ => hr.able ?_, nofun, nofun,
      nofun⟩
    rw [hs]
    nofun
  case h_3 hp hs =>
    have hr := h.racing (by rw [hp]; rfl)
    obtain ⟨hcommitted, hended, halive⟩ := hr.acknowledged hp hs
    refine release_sound h.latch (fun _ => hcommitted) ?_ ?_ ?_
    · intro hnone
      rw [hnone] at halive
      exact ⟨halive.resolve_right Bool.false_ne_true, hended⟩
    · rw [hr.caught]
      nofun
    · rw [hr.caught]
      nofun
  case h_4 err hp hs =>
    have hr := h.rollingBack hp
    obtain ⟨hended, halive⟩ := hr.acknowledged hs
    obtain ⟨origin, hcaught⟩ := hr.caught
    refine release_sound h.latch nofun ?_ ?_ ?_
    · intro hnone
      rw [hnone] at halive
      exact ⟨halive.resolve_right Bool.false_ne_true, hended⟩
    · rw [hcaught]
      rintro c ⟨⟩ hk
      cases hk
    · rw [hcaught]
      rintro c ⟨⟩ - -
      exact ⟨hr.rollbacks, rfl⟩
  case h_5 err e elsewhere hp hs => exact rollbackFailed_sound h.latch (h.rollingBack hp) hs
  case h_6 err elsewhere hp hs => exact caughtWith_sound h.latch (h.racing (by rw [hp]; rfl)) hs
  case h_7 err elsewhere hp hs => exact caughtWith_sound h.latch (h.racing (by rw [hp]; rfl)) hs
  case h_8 err elsewhere hp hs => exact caughtWith_sound h.latch (h.racing (by rw [hp]; rfl)) hs
  case h_9 => exact h

theorem fulfils_sound (h : Sound s) : Sound s.fulfils := by
  unfold Checkout.fulfils
  split
  case h_1 hp hs =>
    have hr := h.racing (by rw [hp]; rfl)
    unfold Checkout.acknowledge
    split
    case isFalse => exact h
    case isTrue halive =>
      refine ⟨⟨h.latch.dead, h.latch.taken, h.latch.logged⟩, inPhase_of_racing (by rw [hp]; rfl) ?_⟩
      refine ⟨hr.listening, hr.rollbacks, hr.caught, hr.outcome, fun _ => hr.able ?_, nofun, nofun,
        ?_⟩
      · rw [hs]
        nofun
      · intro hcommit
        rw [hp] at hcommit
        cases hcommit
  case h_2 hp hs =>
    have hr := h.racing (by rw [hp]; rfl)
    refine ⟨⟨h.latch.dead, h.latch.taken, h.latch.logged⟩, inPhase_of_racing (by rw [hp]; rfl) ?_⟩
    refine ⟨hr.listening, hr.rollbacks, hr.caught, hr.outcome, fun _ => hr.able ?_, nofun, nofun,
      ?_⟩
    · rw [hs]
      nofun
    · intro hcommit
      rw [hp] at hcommit
      cases hcommit
  case h_3 hp hs =>
    have hr := h.racing (by rw [hp]; rfl)
    unfold Checkout.acknowledge
    split
    case isFalse => exact h
    case isTrue halive =>
      refine ⟨⟨h.latch.dead, h.latch.taken, h.latch.logged⟩, inPhase_of_racing (by rw [hp]; rfl) ?_⟩
      refine ⟨hr.listening, hr.rollbacks, hr.caught, hr.outcome, fun _ => hr.able ?_, nofun, nofun,
        fun _ _ => ⟨rfl, rfl, .inl halive⟩⟩
      rw [hs]
      nofun
  case h_4 err hp hs =>
    have hr := h.rollingBack hp
    unfold Checkout.acknowledge
    split
    case isFalse => exact h
    case isTrue halive =>
      refine ⟨⟨h.latch.dead, h.latch.taken, h.latch.logged⟩, inPhase_of_rollingBack hp ?_⟩
      exact ⟨hr.listening, hr.rollbacks, hr.caught, hr.outcome, fun _ => ⟨rfl, .inl halive⟩, nofun⟩
  case h_5 => exact h

theorem after_dead {c : Client} (h : c.alive = false) (err : Thrown) (origin : Origin) :
    (c.after err origin).alive = false := by
  cases origin with
  | client severed taken ended =>
    rw [Client.after, h]
    rfl
  | elsewhere => exact h

theorem after_taken {c : Client} (h : c.queryable = false → c.alive = false)
    (ht : (c.after err origin).queryable = false) : (c.after err origin).alive = false := by
  cases origin with
  | client severed taken ended =>
    rw [Client.after, Bool.and_eq_false_iff, Bool.not_eq_false'] at ht
    rcases ht with hqueryable | htaken
    · exact after_dead (h hqueryable) err _
    · rw [Client.after, htaken]
      simp
  | elsewhere => exact h ht

theorem after_lost (c : Client) (ho : origin ≠ .elsewhere)
    (h : isLostConnection err = true) : (c.after err origin).alive = false := by
  cases origin with
  | client severed taken ended =>
    rw [Client.after, h]
    simp
  | elsewhere => exact absurd rfl ho

theorem failsPlainly_raced (hp : s.phase.raced = true) (err : Thrown) (origin : Origin) :
    s.failsPlainly err origin = (origin ≠ .elsewhere || !isLostConnection err) := by
  unfold Checkout.failsPlainly
  split
  case h_1 e he => rw [he] at hp; cases hp
  case h_2 => rfl

theorem failsPlainly_rollback {e : Thrown} (hp : s.phase = .rollback e) (err : Thrown)
    (origin : Origin) :
    s.failsPlainly err origin = (s.connectionLost.isSome ||
      { s with client := s.client.after err origin }.isLostOnThisClient err ||
        ((s.client.after err origin).alive && !(s.client.after err origin).inTransaction)) := by
  unfold Checkout.failsPlainly
  split
  case h_1 => rfl
  case h_2 hno => exact absurd hp (hno e)

theorem fails_sound (h : Sound s) (plain : s.failsPlainly err origin = true) :
    Sound (s.fails err origin) := by
  unfold Checkout.fails
  split
  case isFalse => exact h
  case isTrue hs =>
    obtain ⟨hidle, hmay⟩ := hs
    have latch : Latch { s with
        client := s.client.after err origin
        settled := some (.rejected err (origin = .elsewhere)) } :=
      ⟨fun hl => after_dead (h.latch.dead hl) err origin, after_taken h.latch.taken, h.latch.logged⟩
    rcases s.phase.cases with hp | ⟨e, he⟩ | hp
    · have hr := h.racing hp
      rw [failsPlainly_raced hp] at plain
      refine ⟨latch, inPhase_of_racing hp ?_⟩
      refine ⟨hr.listening, hr.rollbacks, hr.caught, hr.outcome, ?_, ?_, ?_, nofun⟩
      · intro hown
        cases origin with
        | client severed taken ended => exact absurd rfl (hown err)
        | elsewhere =>
          refine hr.able ?_
          rw [hidle]
          nofun
      · intro e he
        cases origin with
        | client severed taken ended => cases he
        | elsewhere =>
          cases he
          simpa using plain
      · intro e he hshape
        cases origin with
        | client severed taken ended =>
          cases he
          exact after_lost s.client nofun hshape
        | elsewhere => cases he
    · have hr := h.rollingBack he
      rw [failsPlainly_rollback he, Bool.or_eq_true, Bool.or_eq_true, Bool.and_eq_true,
        Bool.not_eq_true', or_assoc] at plain
      refine ⟨latch, inPhase_of_rollingBack he ?_⟩
      refine ⟨hr.listening, hr.rollbacks, hr.caught, hr.outcome, nofun, ?_⟩
      intro e' elsewhere he'
      cases he'
      refine ⟨fun hshape => ?_, plain⟩
      cases origin with
      | client severed taken ended => exact after_lost s.client nofun hshape
      | elsewhere =>
        rw [he] at hmay
        cases hmay
    · rw [hp] at hmay
      cases hmay

theorem clientError_sound (h : Sound s) (err : Thrown) : Sound (s.clientError err) := by
  unfold Checkout.clientError
  split
  case isFalse => exact h
  case isTrue hlistening =>
    obtain ⟨log, pgCode, heq, hlog⟩ := recordConnectionLost_eq h.latch err
    rw [heq]
    refine ⟨⟨fun _ => rfl, fun _ => rfl, hlog⟩, ?_⟩
    rcases s.phase.cases with hp | ⟨e, hp⟩ | hp
    · have hr := h.racing hp
      refine inPhase_of_racing hp ⟨hr.listening, hr.rollbacks, hr.caught, hr.outcome,
        fun _ => .inr rfl, hr.foreign, fun _ _ _ => rfl, ?_⟩
      intro hcommit hfulfilled
      obtain ⟨hcommitted, hended, -⟩ := hr.acknowledged hcommit hfulfilled
      exact ⟨hcommitted, hended, .inr rfl⟩
    · have hr := h.rollingBack hp
      refine inPhase_of_rollingBack hp ⟨hr.listening, hr.rollbacks, hr.caught, hr.outcome, ?_,
        fun _ _ _ => ⟨fun _ => rfl, .inl rfl⟩⟩
      intro hfulfilled
      exact ⟨(hr.acknowledged hfulfilled).1, .inr rfl⟩
    · rw [(h.released hp).listening] at hlistening
      cases hlistening

theorem lostWins_sound (h : Sound s) : Sound s.lostWins := by
  unfold Checkout.lostWins
  split
  case h_2 => exact h
  case h_1 pgCode hlatched =>
    split
    case isFalse => exact h
    case isTrue hs =>
      have hr := h.racing hs.2
      refine ⟨⟨h.latch.dead, h.latch.taken, h.latch.logged⟩, inPhase_of_racing hs.2 ?_⟩
      refine ⟨hr.listening, hr.rollbacks, hr.caught, hr.outcome, ?_, nofun, ?_, nofun⟩
      · intro _
        right
        rw [hlatched]
        rfl
      · intro err he hshape
        cases he
        rw [isLostConnection_connectionLost] at hshape
        cases hshape

theorem step_sound (h : Sound s) {t : Turn} (plain : s.plain t = true) : Sound (s.step t) := by
  cases t with
  | fulfils => exact fulfils_sound h
  | fails err origin => exact fails_sound h plain
  | clientError err => exact clientError_sound h err
  | lostWins => exact lostWins_sound h
  | resume => exact resume_sound h

end Turns

/-! ## Whole runs -/

theorem Sound.truthful (h : Sound s) : Truthful s := by
  rcases s.phase.cases with hp | ⟨err, hp⟩ | hp
  · have hr := h.racing hp
    have hphase : s.phase ≠ .released := fun he => by rw [he] at hp; cases hp
    refine ⟨?_, fun he => absurd he hphase, fun he => absurd he hphase, ?_, ?_,
      fun _ => hphase, fun _ => hr.listening⟩
    · rw [hr.outcome]
      nofun
    · rw [hr.caught]
      nofun
    · rw [hr.caught]
      nofun
  · have hr := h.rollingBack hp
    obtain ⟨elsewhere, hcaught⟩ := hr.caught
    have hphase : s.phase ≠ .released := fun he => by rw [he] at hp; cases hp
    refine ⟨?_, fun he => absurd he hphase, fun he => absurd he hphase, ?_,
      fun _ _ _ _ => ⟨hr.rollbacks, fun he => absurd he hphase⟩, fun _ => hphase,
      fun _ => hr.listening⟩
    · rw [hr.outcome]
      nofun
    · rw [hcaught]
      rintro c ⟨⟩ hk
      cases hk
  · have hr := h.released hp
    refine ⟨hr.committed, fun _ => hr.clean, fun _ => ?_, ?_, ?_, ?_⟩
    · rw [h.latch.logged]
      cases halive : s.client.alive with
      | false => rw [hr.lost halive]; rfl
      | true =>
        cases hl : s.connectionLost.isSome with
        | false => rfl
        | true =>
          rw [h.latch.dead hl] at halive
          cases halive
    · intro c hc hk
      exact ⟨hp, hr.told c hc hk⟩
    · intro c hc he hk
      obtain ⟨hrollbacks, houtcome⟩ := hr.elsewhere c hc he hk
      refine ⟨hrollbacks, fun _ => ⟨houtcome, fun halive => ?_⟩⟩
      rw [hr.destroyed, Bool.or_eq_false_iff, Bool.not_eq_false']
      constructor
      · refine Bool.eq_false_iff.mpr fun hl => ?_
        rw [h.latch.dead hl] at halive
        cases halive
      · by_contra hqueryable
        rw [h.latch.taken (Bool.eq_false_iff.mpr hqueryable)] at halive
        cases halive
    · rw [hr.listening, hp]
      simp

/-- A transaction whose errors are what they look like tells the truth, in whatever order its
steps settle, its client raises events and it resumes. -/
theorem transaction_tells_the_truth (ts : List Turn)
    (plain : Along Checkout.step (fun s t => s.plain t = true) checkedOut ts) :
    Truthful (run Checkout.step checkedOut ts) :=
  (plain.invariant (fun _ _ h ht => step_sound h ht) checkedOut_sound).truthful

/-- `BEGIN` is acknowledged; the body fails with an error from elsewhere. -/
def bodyFails (code message : String) : List Turn :=
  [.fulfils, .resume, .fails (.raw (some code) (some message)) .elsewhere, .resume]

/-- An outbound call whose socket is reset, and a `ROLLBACK` during which the connection dies. -/
theorem reset_socket_told_truthfully :
    Truthful (run Checkout.step checkedOut (bodyFails "ECONNRESET" "read ECONNRESET" ++
      [.fails (.raw none (some "Connection terminated unexpectedly")) (.client true false true),
        .resume])) :=
  transaction_tells_the_truth _ (by decide)

/-- A statement on another pooled client whose backend is shut down fails the body, and this
transaction takes it for the loss of its own connection. -/
theorem transaction_misled : ¬ ∀ ts : List Turn, Truthful (run Checkout.step checkedOut ts) := by
  intro h
  have elsewhere := (h (bodyFails "57P01"
    "terminating connection due to administrator command")).elsewhere _ rfl rfl rfl
  exact absurd elsewhere.1 (by decide)

end Dealership.Database
