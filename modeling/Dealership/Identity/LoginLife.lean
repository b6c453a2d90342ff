import Dealership.Identity.LoginRaces

/-!
# A login is spent once and ends once

Whatever callbacks, successes, failures and sweeps do, in whatever order, a login goes
from pending to consuming to succeeded, or from the first two to failed.  One callback
at most obtains it, in time and with every value it was opened with; any other that names
it while it is pending fails it, for its age or for the first value that does not match.
A callback that comes later leaves the row and is recorded as a replay.
-/

namespace Dealership.Identity

open Library List

variable {d : LoginStore} {t : LoginTransaction} {d' : LoginStore} {input : LoginClaim}

/-! ## The transitions -/

/-- Pending to consuming to succeeded; from the first two to failed. -/
def LoginStatus.next : LoginStatus → LoginStatus → Bool
  | .pending, .consuming | .consuming, .succeeded | .pending, .failed | .consuming, .failed => true
  | _, _ => false

/-- Every login is as it was or has made one transition, and those that are new are pending. -/
structure Onward (d d' : LoginStore) : Prop where
  moved : ∀ t ∈ d.transactions, t ∈ d'.transactions ∨ ∃ t' ∈ d'.transactions,
    t'.loginTxnId = t.loginTxnId ∧ t.status.next t'.status = true
  opened : ∀ t' ∈ d'.transactions, (∃ t ∈ d.transactions, t.loginTxnId = t'.loginTxnId) ∨
    t'.status = .pending

theorem Onward.refl (d : LoginStore) : Onward d d :=
  ⟨fun _ ht => .inl ht, fun t ht => .inl ⟨t, ht, rfl⟩⟩

theorem LoginStore.advance_onward (h : Recorded d) (ht : t ∈ d.transactions)
    {f : LoginTransaction → LoginTransaction} {e : LoginEvent}
    (hf : ∀ u : LoginTransaction, (f u).loginTxnId = u.loginTxnId)
    (hnext : t.status.next (f t).status = true) : Onward d (d.advance t.loginTxnId f e) := by
  constructor
  · intro u hu
    by_cases hut : u.loginTxnId = t.loginTxnId
    · refine .inr ⟨f u, mem_updateWhere_of_pos hu hut, hf u, ?_⟩
      rw [eq_of_key h.ids hu ht hut]
      exact hnext
    · exact .inl (mem_updateWhere_of_neg hu hut)
  · intro u' hu'
    rcases mem_advance hu' with ⟨hu, -⟩ | ⟨u, hu, -, rfl⟩
    · exact .inl ⟨u', hu, rfl⟩
    · exact .inl ⟨u, hu, (hf u).symm⟩

theorem LoginStatus.next_failed {s : LoginStatus} (h : s.live = true) : s.next .failed = true := by
  cases s with
  | pending => rfl
  | consuming => rfl
  | succeeded => cases h
  | failed => cases h

theorem LoginMoves.onward {held : List LoginLock} {c : LoginCall} {answer : LoginAnswer}
    (h : Recorded d) (hm : LoginMoves held c answer d d') : Onward d d' := by
  cases hm with
  | idles => exact .refl d
  | @starts w input s _ _ new =>
    refine ⟨fun t ht => .inl (mem_append_left _ ht), fun t ht => ?_⟩
    rcases mem_inserted ht with ht | rfl
    · exact .inl ⟨t, ht, rfl⟩
    · exact .inr rfl
  | replays => exact ⟨fun _ ht => .inl ht, fun t ht => .inl ⟨t, ht, rfl⟩⟩
  | claims _ found _ _ pending _ =>
    refine LoginStore.advance_onward h (loginTransaction_some found).1 (fun _ => rfl) ?_
    rw [pending]
    rfl
  | fails _ found live _ =>
    exact LoginStore.advance_onward h (loginTransaction_some found).1 (fun _ => rfl)
      (LoginStatus.next_failed live)
  | succeeds _ found completes =>
    simp only [AdmittedLoginIdentity.completes, Bool.and_eq_true, decide_eq_true_eq] at completes
    refine LoginStore.advance_onward h (loginTransaction_some found).1 (fun _ => rfl) ?_
    rw [completes.1.1.1.2]
    rfl

/-- A login that has left a state that nothing leads back to has left it for good. -/
theorem Onward.stays (h : Onward d d') {p : LoginStatus → Prop}
    (hp : ∀ s s', LoginStatus.next s s' = true → p s → p s') {x : String}
    (hx : ∃ t ∈ d.transactions, t.loginTxnId = x ∧ p t.status) :
    ∃ t ∈ d'.transactions, t.loginTxnId = x ∧ p t.status := by
  obtain ⟨t, ht, hid, hstatus⟩ := hx
  rcases h.moved t ht with ht' | ⟨t', ht', hid', hnext⟩
  · exact ⟨t, ht', hid, hstatus⟩
  · exact ⟨t', ht', hid'.trans hid, hp _ _ hnext hstatus⟩

/-! ## What a callback presents -/

/-- The five bindings of a login in the order in which they are compared, each with the
reason a mismatch is failed for and whether the callback presents what it requires. -/
def LoginClaim.bindings (input : LoginClaim) (t : LoginTransaction) :
    List (FailureReason × Bool) :=
  [(.callback_purpose_mismatch,
      input.purpose = t.purpose && input.presentedPurpose = some t.purpose.text),
    (.callback_state_mismatch, input.state.any fun v => sha256hex v = t.stateHash),
    (.callback_nonce_mismatch, input.nonce.any fun v => sha256hex v = t.nonceHash),
    (.callback_pkce_mismatch, input.codeVerifier.any fun v => sha256hex v = t.codeVerifierHash),
    (.callback_redirect_mismatch, input.redirectUri = t.redirectUri)]

/-- The callback presents all five. -/
def LoginClaim.Presents (input : LoginClaim) (t : LoginTransaction) : Prop :=
  ∀ b ∈ input.bindings t, b.2 = true

def LoginClaim.firstMismatch (input : LoginClaim) (t : LoginTransaction) : Option FailureReason :=
  ((input.bindings t).find? fun b => ! b.2).map (·.1)

theorem any_sha256hex {presented : Option String} {digest : String} :
    (presented.any fun v => decide (sha256hex v = digest)) =
      decide (presented.map sha256hex = some digest) := by
  cases presented with
  | none => rfl
  | some v => simp

/-- The comparisons fail a callback for the first binding it does not present. -/
theorem LoginClaim.mismatch_eq (input : LoginClaim) (t : LoginTransaction) :
    input.mismatch t = input.firstMismatch t := by
  unfold LoginClaim.mismatch LoginClaim.firstMismatch LoginClaim.bindings
  simp only [any_sha256hex]
  split
  · rename_i h
    rw [find?_cons_of_pos]
    · rfl
    · rcases h with h | h
      · simp [Ne.symm h]
      · simp [h]
  rename_i hpurpose
  rw [not_or, not_not, not_not] at hpurpose
  rw [find?_cons_of_neg (by simp [hpurpose.1, hpurpose.2])]
  split
  · rename_i h
    rw [find?_cons_of_pos (by simpa using h)]
    rfl
  rename_i hstate
  rw [find?_cons_of_neg (by simpa using hstate)]
  split
  · rename_i h
    rw [find?_cons_of_pos (by simpa using h)]
    rfl
  rename_i hnonce
  rw [find?_cons_of_neg (by simpa using hnonce)]
  split
  · rename_i h
    rw [find?_cons_of_pos (by simpa using h)]
    rfl
  rename_i hverifier
  rw [find?_cons_of_neg (by simpa using hverifier)]
  split
  · rename_i h
    rw [find?_cons_of_pos (by simpa using Ne.symm h)]
    rfl
  · rename_i h
    rw [find?_cons_of_neg (by simpa using (not_not.mp h).symm)]
    rfl

theorem LoginClaim.presents_iff : input.Presents t ↔ input.firstMismatch t = none := by
  rw [LoginClaim.firstMismatch, Option.map_eq_none_iff, find?_eq_none, LoginClaim.Presents]
  simp only [Bool.not_eq_true', Bool.not_eq_false]

/-! ## What a callback does -/

def FailedFor (x : String) (reason : FailureReason) (d : LoginStore) : Prop :=
  ∃ t ∈ d.transactions, t.loginTxnId = x ∧ t.status = .failed ∧ t.failureReason = some reason

/-- A callback that was answered, with the rows before and after.  It names a login by the
value of its handle, when the handle has one. -/
structure CallbackJudged (now : Int) (input : LoginClaim)
    (answer : Option LoginTransactionRecord) (d d' : LoginStore) : Prop where
  /-- It obtains a login only in time, and by presenting all five values. -/
  claims : ∀ r, answer = some r → ∃ t ∈ d.transactions, t.loginTxnId = input.named ∧
    t.status = .pending ∧ now < t.expiresAt ∧ input.Presents t ∧ r = mapRecord (t.claim now)
  /-- A pending login it does not match is failed for the first mismatch. -/
  mismatch : isUuid input.loginTxnId = true → ∀ t ∈ d.transactions, t.loginTxnId = input.named →
    t.status = .pending → now < t.expiresAt → ∀ reason, input.firstMismatch t = some reason →
      answer = none ∧ FailedFor t.loginTxnId reason d'
  /-- A pending login that is past its time is failed for that. -/
  expired : isUuid input.loginTxnId = true → ∀ t ∈ d.transactions, t.loginTxnId = input.named →
    t.status = .pending → t.expiresAt ≤ now → answer = none ∧ FailedFor t.loginTxnId .expired d'
  /-- A login that is not pending is left, and the replay recorded. -/
  replay : isUuid input.loginTxnId = true → ∀ t ∈ d.transactions, t.loginTxnId = input.named →
    t.status ≠ .pending → answer = none ∧
      d' = { d with events := d.events ++ [t.event .replayed (some t.status) none] }
  /-- A handle that names nothing changes nothing. -/
  unknown : (isUuid input.loginTxnId = true → NewLogin input.named d) → answer = none ∧ d' = d

theorem failedFor_advance (ht : t ∈ d.transactions) (now : Int) (reason : FailureReason)
    (e : LoginEvent) :
    FailedFor t.loginTxnId reason (d.advance t.loginTxnId (.fail now reason) e) :=
  ⟨t.fail now reason, mem_updateWhere_of_pos ht rfl, rfl, rfl, rfl⟩

theorem CallbackJudged.of_found {now : Int} {answer : Option LoginTransactionRecord}
    (h : Recorded d) (huuid : isUuid input.loginTxnId = true) (ht : t ∈ d.transactions)
    (hid : t.loginTxnId = input.named)
    (claims : ∀ r, answer = some r → t.status = .pending ∧ input.verdict now t = none ∧
      r = mapRecord (t.claim now))
    (fails : t.status = .pending → ∀ reason, input.verdict now t = some reason →
      answer = none ∧ FailedFor t.loginTxnId reason d')
    (replay : t.status ≠ .pending → answer = none ∧
      d' = { d with events := d.events ++ [t.event .replayed (some t.status) none] }) :
    CallbackJudged now input answer d d' := by
  have hsame : ∀ u ∈ d.transactions, u.loginTxnId = input.named → u = t := fun u hu hu' =>
    eq_of_key h.ids hu ht (hu'.trans hid.symm)
  constructor
  · intro r hr
    obtain ⟨hpending, hverdict, hrecord⟩ := claims r hr
    unfold LoginClaim.verdict at hverdict
    split at hverdict
    · cases hverdict
    rename_i hfresh
    rw [input.mismatch_eq] at hverdict
    exact ⟨t, ht, hid, hpending, Int.not_le.mp hfresh, LoginClaim.presents_iff.mpr hverdict,
      hrecord⟩
  · intro _ u hu hu' hpending hfresh reason hreason
    rw [hsame u hu hu'] at hpending hfresh hreason ⊢
    refine fails hpending reason ?_
    rw [LoginClaim.verdict, if_neg (Int.not_le.mpr hfresh), input.mismatch_eq, hreason]
  · intro _ u hu hu' hpending hexpired
    rw [hsame u hu hu'] at hpending hexpired ⊢
    refine fails hpending .expired ?_
    rw [LoginClaim.verdict, if_pos hexpired]
  · intro _ u hu hu' hspent
    rw [hsame u hu hu'] at hspent ⊢
    exact replay hspent
  · intro hnew
    exact absurd hid (hnew huuid t ht)

theorem LoginMoves.judged {held : List LoginLock} {now : Int}
    {answer : Option LoginTransactionRecord} (h : Recorded d)
    (hm : LoginMoves held (.claim now input) (.claim answer) d d') :
    CallbackJudged now input answer d d' := by
  generalize hc : LoginCall.claim now input = c at hm
  generalize ha : LoginAnswer.claim answer = a at hm
  cases hm with
  | idles idle unseen =>
    subst hc ha
    have hnone : answer = none := by
      cases answer with
      | none => rfl
      | some r => cases idle
    subst hnone
    have hnew : isUuid input.loginTxnId = true → NewLogin input.named d := fun huuid =>
      unseen _ (by rw [LoginCall.handle, if_pos huuid])
    exact ⟨fun _ hr => (by cases hr), fun huuid t ht hid => absurd hid (hnew huuid t ht),
      fun huuid t ht hid => absurd hid (hnew huuid t ht),
      fun huuid t ht hid => absurd hid (hnew huuid t ht), fun _ => ⟨rfl, rfl⟩⟩
  | starts => cases hc
  | replays uuid found spent =>
    cases hc
    cases ha
    obtain ⟨ht, hid⟩ := loginTransaction_some found
    exact .of_found h uuid ht hid (fun _ hr => by cases hr) (fun hpending => absurd hpending spent)
      fun _ => ⟨rfl, rfl⟩
  | claims _ found uuid named pending accepted =>
    cases hc
    cases ha
    refine .of_found h uuid (loginTransaction_some found).1 named ?_ ?_ ?_
    · intro r hr
      exact ⟨pending, accepted, (Option.some.inj hr).symm⟩
    · intro _ reason hreason
      rw [accepted] at hreason
      cases hreason
    · exact fun hspent => absurd pending hspent
  | fails _ found _ fails =>
    subst hc
    cases fails with
    | callback uuid named pending verdict =>
      cases ha
      have ht := (loginTransaction_some found).1
      refine .of_found h uuid ht named (fun _ hr => by cases hr) ?_ ?_
      · intro _ reason hreason
        rw [verdict] at hreason
        cases hreason
        exact ⟨rfl, failedFor_advance ht _ _ _⟩
      · exact fun hspent => absurd pending hspent
  | succeeds => cases hc

/-! ## Sweeps -/

/-- The login that an ending of a sweep's transaction has aged. -/
def agedBy : Ending LoginCall LoginStore Raise LoginAnswer → Option String
  | .committed (.age ..) (.aged id) _ _ => id
  | _ => none

def claimedBy : Ending LoginCall LoginStore Raise LoginAnswer → Option String
  | .committed (.claim ..) (.claim record) _ _ => record.map (·.loginTxnId)
  | _ => none

theorem sweepAnswers_length_le (sweep : Nat)
    (es : List (Ending LoginCall LoginStore Raise LoginAnswer)) :
    (sweepAnswers sweep es).length ≤ es.countP fun e => LoginCall.sweeps sweep e.call := by
  induction es with
  | nil => exact Nat.le_refl 0
  | cons e es ih =>
    rw [sweepAnswers, filterMap_cons, countP_cons, ← sweepAnswers]
    split
    · omega
    rename_i x hx
    have hsweeps : LoginCall.sweeps sweep e.call = true := by
      split at hx
      · rename_i s _ _ _ _ _
        rw [Ending.call, LoginCall.sweeps, decide_eq_true_eq]
        by_contra hs
        rw [if_neg hs] at hx
        cases hx
      · cases hx
    rw [if_pos hsweeps, length_cons]
    omega

theorem lt_of_continues {limit : Option Requested} {answers : List (Option String)}
    (h : expireStaleLoginTransactions limit answers = .ok .another) :
    ∃ n, sweepLimit limit = .ok n ∧ answers.length < n := by
  unfold expireStaleLoginTransactions at h
  split at h
  · cases h
  rename_i n hn
  refine ⟨n, hn, ?_⟩
  dsimp only at h
  split at h
  · cases h
  split at h
  · omega
  · cases h

/-- What a sweep may age: its limit, or nothing where the limit is refused. -/
def sweepBound (limit : Option Requested) : Nat := (sweepLimit limit).toOption.getD 0

theorem begun_sweeps_le (limits : Nat → Option Requested) (sweep : Nat) {db : LoginStore}
    {events : List (Event LoginCall)}
    (h : Along (Server.step LoginLock.conflicts LoginCall.program) (Called limits) (.fresh db)
      events) :
    begun (LoginCall.sweeps sweep)
        (run (Server.step LoginLock.conflicts LoginCall.program) (.fresh db) events) ≤
      sweepBound (limits sweep) := by
  refine begun_le ?_ h
  intro S c ha hc
  cases c with
  | age s now locked =>
    obtain ⟨-, hbegun, hcontinues⟩ := ha
    rw [LoginCall.sweeps, decide_eq_true_eq] at hc
    rw [hc] at hbegun hcontinues
    obtain ⟨n, hn, hlt⟩ := lt_of_continues hcontinues
    rw [hbegun, sweepBound, hn]
    exact hlt
  | start => cases hc
  | claim => cases hc
  | succeed => cases hc
  | fail => cases hc

/-! ## The life of a login -/

theorem logins_stay (p : LoginStatus → Prop)
    (hp : ∀ s s', LoginStatus.next s s' = true → p s → p s')
    (e : Ending LoginCall LoginStore Raise LoginAnswer) (d d' : LoginStore) (hleads : e.Leads d d')
    (hkeeps : logins.Keeps e) (x : String)
    (hx : ∃ t ∈ d.transactions, t.loginTxnId = x ∧ p t.status) :
    ∃ t ∈ d'.transactions, t.loginTxnId = x ∧ p t.status := by
  cases e with
  | committed c answer before after =>
    obtain ⟨rfl, rfl⟩ := hleads
    obtain ⟨hi, -, held, hmoves⟩ := hkeeps
    exact (LoginMoves.onward hi hmoves).stays hp hx
  | raised c error =>
    cases hleads
    exact hx
  | aborted c =>
    cases hleads
    exact hx

theorem spends_of_advance (h : Recorded d) (ht : t ∈ d.transactions)
    {f : LoginTransaction → LoginTransaction} (ev : LoginEvent)
    (hf : (f t).loginTxnId = t.loginTxnId) {p : LoginStatus → Prop} (hnot : ¬ p t.status)
    (hnow : p (f t).status) : (¬ ∃ u ∈ d.transactions, u.loginTxnId = t.loginTxnId ∧ p u.status) ∧
      ∃ u ∈ (d.advance t.loginTxnId f ev).transactions, u.loginTxnId = t.loginTxnId ∧
        p u.status := by
  constructor
  · rintro ⟨u, hu, hid, hp⟩
    rw [eq_of_key h.ids hu ht hid] at hp
    exact hnot hp
  · exact ⟨f t, mem_updateWhere_of_pos ht rfl, hf, hnow⟩

theorem logins_claim (e : Ending LoginCall LoginStore Raise LoginAnswer) (d d' : LoginStore)
    (hleads : e.Leads d d') (hkeeps : logins.Keeps e) (x : String) (hx : claimedBy e = some x) :
    (¬ ∃ t ∈ d.transactions, t.loginTxnId = x ∧ t.status ≠ .pending) ∧
      ∃ t ∈ d'.transactions, t.loginTxnId = x ∧ t.status ≠ .pending := by
  unfold claimedBy at hx
  split at hx
  · obtain ⟨rfl, rfl⟩ := hleads
    obtain ⟨hi, -, held, hmoves⟩ := hkeeps
    obtain ⟨r, rfl, rfl⟩ := Option.map_eq_some_iff.mp hx
    generalize ha : LoginAnswer.claim (some r) = a at hmoves
    cases hmoves with
    | idles idle =>
      subst ha
      cases idle
    | replays => cases ha
    | claims _ found _ _ pending _ =>
      cases ha
      refine spends_of_advance hi (loginTransaction_some found).1 _ rfl
        (p := fun s => s ≠ .pending) (fun hnot => hnot pending) ?_
      exact LoginStatus.noConfusion
    | fails _ _ _ fails =>
      cases fails
      cases ha
  · cases hx

theorem logins_age (e : Ending LoginCall LoginStore Raise LoginAnswer) (d d' : LoginStore)
    (hleads : e.Leads d d') (hkeeps : logins.Keeps e) (x : String) (hx : agedBy e = some x) :
    (¬ ∃ t ∈ d.transactions, t.loginTxnId = x ∧ t.status = .failed) ∧
      ∃ t ∈ d'.transactions, t.loginTxnId = x ∧ t.status = .failed := by
  unfold agedBy at hx
  split at hx
  · obtain ⟨rfl, rfl⟩ := hleads
    obtain ⟨hi, -, held, hmoves⟩ := hkeeps
    subst hx
    generalize ha : LoginAnswer.aged (some x) = a at hmoves
    cases hmoves with
    | idles idle =>
      subst ha
      cases idle
    | fails _ found live fails =>
      cases fails
      cases ha
      refine spends_of_advance hi (loginTransaction_some found).1 _ rfl
        (p := fun s => s = .failed) (fun hfailed => ?_) rfl
      rw [hfailed] at live
      cases live
  · cases hx

/-- What the logins say of themselves after a run of the server. -/
structure Lives (limits : Nat → Option Requested) (db : LoginStore) (S : LoginServer) : Prop where
  /-- The committed rows are what the transactions that committed have made of them. -/
  linked : Linked db S.history S.committed
  /-- A transaction moves logins along their transitions or not at all. -/
  moves : ∀ c answer d d', .committed c answer d d' ∈ S.history → Onward d d'
  /-- At most one callback obtains a login. -/
  single : (S.history.filterMap claimedBy).Nodup
  judged : ∀ now input answer d d',
    .committed (.claim now input) (.claim answer) d d' ∈ S.history →
      CallbackJudged now input answer d d'
  /-- The terminal events of every login are those its row calls for, at every commit. -/
  audited : Recorded S.committed ∧ ∀ c answer d d', .committed c answer d d' ∈ S.history →
    Recorded d ∧ Recorded d'
  /-- A sweep ages no more logins than it was asked to. -/
  bounded : ∀ sweep,
    ((sweepAnswers sweep S.history).filterMap id).length ≤ sweepBound (limits sweep)
  /-- No login is aged twice, by one sweep or by two. -/
  once : (S.history.filterMap agedBy).Nodup

/-- **A login is spent once and ends once.**  In every interleaving of callbacks,
successes, failures and sweeps, whatever they present and whenever they come. -/
theorem logins_live (limits : Nat → Option Requested) {db : LoginStore} (hdb : Recorded db)
    {events : List (Event LoginCall)}
    (h : Along (Server.step LoginLock.conflicts LoginCall.program) (Called limits) (.fresh db)
      events) :
    Lives limits db (run (Server.step LoginLock.conflicts LoginCall.program) (.fresh db)
      events) := by
  have hg := (logins_cooperates limits).guarded hdb h
  refine ⟨linked_run _ _ db events, ?_, ?_, ?_, ⟨hg.inv, ?_⟩, ?_, ?_⟩
  · intro c answer d d' he
    obtain ⟨hi, -, held, hmoves⟩ := hg.history _ he
    exact LoginMoves.onward hi hmoves
  · refine (logins_cooperates limits).once hdb
      (fun x d => ∃ t ∈ d.transactions, t.loginTxnId = x ∧ t.status ≠ .pending)
      (logins_stay (fun s => s ≠ .pending) fun s s' hnext _ => ?_) logins_claim h
    rintro rfl
    cases s <;> cases hnext
  · intro now input answer d d' he
    obtain ⟨hi, -, held, hmoves⟩ := hg.history _ he
    exact LoginMoves.judged hi hmoves
  · intro c answer d d' he
    obtain ⟨hi, hi', -⟩ := hg.history _ he
    exact ⟨hi, hi'⟩
  · intro sweep
    calc ((sweepAnswers sweep _).filterMap id).length
        ≤ (sweepAnswers sweep _).length := length_filterMap_le _ _
      _ ≤ _ := sweepAnswers_length_le sweep _
      _ ≤ _ := ended_le_begun _ _
      _ ≤ sweepBound (limits sweep) := begun_sweeps_le limits sweep h
  · refine (logins_cooperates limits).once hdb
      (fun x d => ∃ t ∈ d.transactions, t.loginTxnId = x ∧ t.status = .failed)
      (logins_stay (fun s => s = .failed) fun s s' hnext hs => ?_) logins_age h
    subst hs
    cases s' <;> cases hnext

/-! ## One browser -/

namespace OneBrowser

def first : String := "00000000-0000-4000-8000-000000000001"

def second : String := "00000000-0000-4000-8000-000000000002"

def callback : String := "https://dealer.example/auth/callback"

/-- A login is opened, with the secrets the server drew for it. -/
def opens (handle secret : String) : LoginCall :=
  .start ⟨0, secret, secret, secret, handle, true⟩
    ⟨.login, callback, none, none, none, none, none, none⟩

/-- The provider sends the browser back with a state. -/
def returns (now : Int) (handle state secret : String) : LoginCall :=
  .claim now ⟨handle, some state, .login, some "login", some secret, some secret, callback⟩

def admitted (handle : String) : LoginCall :=
  .succeed ⟨2, 2, true⟩ ⟨handle, some "tenant", "link", some "connection"⟩

/-- One login succeeds, and its callback comes again; the other is abandoned and swept. -/
def twoLogins : List (Event LoginCall) :=
  oneByOne 5 [opens first "a", opens second "b", returns 1 first "a" "a", admitted first,
    returns 3 first "a" "a", .age 0 700000000 []] 0

/-- The callback comes late, with another state. -/
def lateCallback : List (Event LoginCall) :=
  oneByOne 5 [opens first "a", returns 700000000 first "b" "a"] 0

/-- Every sweep is asked for one. -/
def limits : Nat → Option Requested := fun _ => some (.integer 1)

def store : LoginStore := ⟨[], []⟩

theorem store_recorded : Recorded store :=
  ⟨nodup_nil, forall_mem_nil _, forall_mem_nil _, forall_mem_nil _⟩

abbrev close : List (Event LoginCall) → LoginServer := served LoginLock.conflicts LoginCall.program store

end OneBrowser

open OneBrowser in
/-- One login succeeded, the other was aged. -/
theorem two_logins_live :
    (close twoLogins).committed.transactions.map (·.status) = [.succeeded, .failed] ∧
      Lives limits store (close twoLogins) :=
  ⟨by decide +kernel, logins_live limits store_recorded (by decide +kernel)⟩

/-- A callback that names a pending login, and does not match it, has left it failed for
the first mismatch. -/
def FailsForMismatch (e : Ending LoginCall LoginStore Raise LoginAnswer) : Prop :=
  match e with
  | .committed (.claim _ input) _ d d' =>
    isUuid input.loginTxnId = true → ∀ t ∈ d.transactions, t.loginTxnId = input.named →
      t.status = .pending → ∀ reason ∈ input.firstMismatch t, FailedFor t.loginTxnId reason d'
  | _ => True

instance (x : String) (reason : FailureReason) (d : LoginStore) :
    Decidable (FailedFor x reason d) :=
  inferInstanceAs (Decidable (∃ t ∈ d.transactions, _ ∧ _ ∧ _))

instance : ∀ e, Decidable (FailsForMismatch e)
  | .committed (.claim _ input) _ d _ =>
    inferInstanceAs (Decidable (_ → ∀ t ∈ d.transactions, _ → _ →
      ∀ reason ∈ input.firstMismatch t, FailedFor _ _ _))
  | .committed (.start ..) .. | .committed (.succeed ..) .. | .committed (.fail ..) ..
  | .committed (.age ..) .. | .raised .. | .aborted .. => .isTrue trivial

open OneBrowser in
/-- A callback that comes late is failed for its age, whatever else it does not match. -/
theorem late_mismatch_expires :
    ¬ ∀ events : List (Event LoginCall),
      Along (Server.step LoginLock.conflicts LoginCall.program) (Called limits) (.fresh store)
        events → ∀ e ∈ (close events).history, FailsForMismatch e := by
  intro h
  have hfails := h lateCallback (by decide +kernel)
  exact absurd hfails (by decide +kernel)

end Dealership.Identity
