import Dealership.Identity.LoginTransaction

/-!
# What a commit does to the logins

A commit opens a login, records a replay of one, or moves one: claimed by the callback
that presented every value it was opened with, succeeded as the identity it was claimed
for, or failed with a reason.  Each holds the row it moves, and writes its one audit
event with it.  So the terminal events of a login are those its row calls for.
-/

namespace Dealership.Identity

open Library List

variable {d : LoginStore} {x : String} {t : LoginTransaction}

/-! ## Moves -/

def LoginTransaction.event (t : LoginTransaction) (eventType : LoginEventType)
    (observedStatus : Option LoginStatus) (reason : Option FailureReason) : LoginEvent :=
  ⟨t.loginTxnId, t.tenantId.getD nilTenant, t.userLinkId, eventType, t.purpose, observedStatus,
    reason⟩

/-- A row rewritten, and the event that says so. -/
def LoginStore.advance (loginTxnId : String) (f : LoginTransaction → LoginTransaction)
    (e : LoginEvent) (d : LoginStore) : LoginStore :=
  { d.setRow loginTxnId f with events := d.events ++ [e] }

def NewLogin (loginTxnId : String) (d : LoginStore) : Prop :=
  ∀ t ∈ d.transactions, t.loginTxnId ≠ loginTxnId

/-- What a callback makes of the pending login it names: the reason it is failed for, if
it is not claimed. -/
def LoginClaim.verdict (now : Int) (input : LoginClaim) (t : LoginTransaction) :
    Option FailureReason :=
  if t.expiresAt ≤ now then some .expired else input.mismatch t

inductive Fails : LoginCall → LoginAnswer → LoginTransaction → FailureReason → Prop where
  | callback {now : Int} {input : LoginClaim} {t : LoginTransaction} {reason : FailureReason}
      (uuid : isUuid input.loginTxnId = true) (named : t.loginTxnId = input.named)
      (pending : t.status = .pending) (verdict : input.verdict now t = some reason) :
      Fails (.claim now input) (.claim none) t reason
  | reported {now : Int} {t : LoginTransaction} {reason : FailureReason} :
      Fails (.fail now t.loginTxnId reason) (.failure true) t reason
  | aged {sweep : Nat} {now : Int} {locked : List String} {t : LoginTransaction}
      (stale : t.expiresAt < now) :
      Fails (.age sweep now locked) (.aged (some t.loginTxnId)) t .expired

def LoginAnswer.idle : LoginAnswer → Bool
  | .claim none | .success false | .failure false | .aged none => true
  | _ => false

def LoginCall.handle : LoginCall → Option String
  | .claim _ input => if isUuid input.loginTxnId then some input.named else none
  | _ => none

def LoginCall.opens : LoginCall → Option String
  | .start w _ => some w.newLoginTxnId
  | _ => none

/-- What a commit that held `held` did to the logins. -/
inductive LoginMoves (held : List LoginLock) :
    LoginCall → LoginAnswer → LoginStore → LoginStore → Prop where
  | idles {c : LoginCall} {answer : LoginAnswer} {d : LoginStore} (idle : answer.idle = true)
      (unseen : ∀ x, c.handle = some x → NewLogin x d) : LoginMoves held c answer d d
  | starts {w : StartWorld} {input : StartInput} {s : StartedLoginTransaction} {d : LoginStore}
      (lock : .entry w.newLoginTxnId ∈ held) (new : NewLogin w.newLoginTxnId d) :
      LoginMoves held (.start w input) (.started s) d
        { transactions := d.transactions ++ [newLoginTransaction w input]
          events := d.events ++ [(newLoginTransaction w input).event .started none none] }
  | replays {now : Int} {input : LoginClaim} {t : LoginTransaction} {d : LoginStore}
      (uuid : isUuid input.loginTxnId = true) (found : loginTransaction input.named d = some t)
      (spent : t.status ≠ .pending) :
      LoginMoves held (.claim now input) (.claim none) d
        { d with events := d.events ++ [t.event .replayed (some t.status) none] }
  | claims {now : Int} {input : LoginClaim} {t : LoginTransaction} {d : LoginStore}
      (lock : .row t.loginTxnId ∈ held) (found : loginTransaction t.loginTxnId d = some t)
      (uuid : isUuid input.loginTxnId = true) (named : t.loginTxnId = input.named)
      (pending : t.status = .pending) (accepted : input.verdict now t = none) :
      LoginMoves held (.claim now input) (.claim (some (mapRecord (t.claim now)))) d
        (d.advance t.loginTxnId (.claim now) ((t.claim now).event .claimed none none))
  | fails {c : LoginCall} {answer : LoginAnswer} {instant : Int} {t : LoginTransaction}
      {reason : FailureReason} {d : LoginStore} (lock : .row t.loginTxnId ∈ held)
      (found : loginTransaction t.loginTxnId d = some t) (live : t.status.live = true)
      (fails : Fails c answer t reason) :
      LoginMoves held c answer d
        (d.advance t.loginTxnId (.fail instant reason) (t.event reason.eventType none (some reason)))
  | succeeds {w : SuccessWorld} {input : AdmittedLoginIdentity} {t : LoginTransaction}
      {d : LoginStore} (lock : .row t.loginTxnId ∈ held)
      (found : loginTransaction t.loginTxnId d = some t) (completes : input.completes w t = true) :
      LoginMoves held (.succeed w input) (.success true) d
        (d.advance t.loginTxnId (.succeed w.live input)
          ((t.succeed w.live input).event .succeeded none none))

/-! ## What the record says -/

/-- The terminal events a login has, in order, each with its reason. -/
def LoginStore.endings (loginTxnId : String) (d : LoginStore) :
    List (LoginEventType × Option FailureReason) :=
  (d.events.filter fun e => e.entityId = loginTxnId && e.eventType.terminal).map fun e =>
    (e.eventType, e.reason)

/-- The terminal events that its row calls for: one if it is terminal. -/
def LoginTransaction.due (t : LoginTransaction) : List (LoginEventType × Option FailureReason) :=
  match t.status with
  | .pending | .consuming => []
  | .succeeded => [(.succeeded, none)]
  | .failed => [((t.failureReason.map FailureReason.eventType).getD .failed, t.failureReason)]

/-- Ids are keys, a failed login has a reason and no other does, the terminal events of a
login are those its row calls for, and every event is about a login. -/
structure Recorded (d : LoginStore) : Prop where
  ids : (d.transactions.map (·.loginTxnId)).Nodup
  reasons : ∀ t ∈ d.transactions, t.status = .failed ↔ t.failureReason.isSome = true
  endings : ∀ t ∈ d.transactions, d.endings t.loginTxnId = t.due
  known : ∀ e ∈ d.events, ∃ t ∈ d.transactions, t.loginTxnId = e.entityId

theorem loginTransaction_some
    (h : loginTransaction x d = some t) : t ∈ d.transactions ∧ t.loginTxnId = x :=
  of_find?_eq_some h

theorem loginTransaction_none : loginTransaction x d = none ↔ NewLogin x d := by
  rw [loginTransaction, find?_eq_none]
  constructor
  · intro h t ht hid
    exact h t ht (decide_eq_true hid)
  · intro h t ht hid
    exact h t ht (of_decide_eq_true hid)

theorem Recorded.found (h : Recorded d) (ht : t ∈ d.transactions) :
    loginTransaction t.loginTxnId d = some t :=
  find?_eq_some_of_key h.ids ht

/-! ### Events -/

theorem endings_append (x : String) (e : LoginEvent) (d d' : LoginStore)
    (h : d'.events = d.events ++ [e]) :
    d'.endings x = d.endings x ++
      if e.entityId = x ∧ e.eventType.terminal = true then [(e.eventType, e.reason)] else [] := by
  rw [LoginStore.endings, h, filter_append, map_append, ← LoginStore.endings, filter_singleton]
  congr 1
  by_cases hx : e.entityId = x ∧ e.eventType.terminal = true
  · simp [hx.1, hx.2]
  · rw [if_neg hx]
    by_cases hid : e.entityId = x
    · have hnot : e.eventType.terminal = false := by
        rw [← Bool.not_eq_true]
        exact fun hterm => hx ⟨hid, hterm⟩
      simp [hid, hnot]
    · simp [hid]

theorem Recorded.endings_new (h : Recorded d) (hx : NewLogin x d) : d.endings x = [] := by
  rw [LoginStore.endings, map_eq_nil_iff, filter_eq_nil_iff]
  intro e he hterm
  obtain ⟨t, ht, hid⟩ := h.known e he
  rw [Bool.and_eq_true, decide_eq_true_eq] at hterm
  exact hx t ht (hid.trans hterm.1)

theorem mem_advance {f : LoginTransaction → LoginTransaction} {e : LoginEvent}
    {u : LoginTransaction} (hu : u ∈ (d.advance x f e).transactions) :
    (u ∈ d.transactions ∧ u.loginTxnId ≠ x) ∨ ∃ t ∈ d.transactions, t.loginTxnId = x ∧ u = f t :=
  updateWhere_cases hu

/-- Rewriting a live login and recording the event its new row calls for keeps the record. -/
theorem Recorded.advance (h : Recorded d) (ht : t ∈ d.transactions) (hlive : t.status.live = true)
    {f : LoginTransaction → LoginTransaction} {e : LoginEvent}
    (hid : ∀ u : LoginTransaction, (f u).loginTxnId = u.loginTxnId)
    (hreason : (f t).status = .failed ↔ (f t).failureReason.isSome = true)
    (hentity : e.entityId = t.loginTxnId)
    (hdue : (f t).due = if e.eventType.terminal then [(e.eventType, e.reason)] else []) :
    Recorded (d.advance t.loginTxnId f e) := by
  have hrow : ∀ u ∈ d.transactions, u.loginTxnId = t.loginTxnId → u = t :=
    fun u hu hut => eq_of_key h.ids hu ht hut
  have hnone : t.due = [] := by
    rw [LoginTransaction.due]
    cases hstatus : t.status with
    | pending => rfl
    | consuming => rfl
    | succeeded =>
      rw [hstatus] at hlive
      cases hlive
    | failed =>
      rw [hstatus] at hlive
      cases hlive
  have hids : ∀ x, (∃ u ∈ d.transactions, u.loginTxnId = x) →
      ∃ u ∈ (d.advance t.loginTxnId f e).transactions, u.loginTxnId = x := by
    rintro x ⟨u, hu, rfl⟩
    by_cases hut : u.loginTxnId = t.loginTxnId
    · exact ⟨f u, mem_updateWhere_of_pos hu hut, hid u⟩
    · exact ⟨u, mem_updateWhere_of_neg hu hut, rfl⟩
  constructor
  · change ((updateWhere _ _ _).map _).Nodup
    exact nodup_map_updateWhere h.ids fun u _ => hid u
  · intro u hu
    rcases mem_advance hu with ⟨hu, -⟩ | ⟨v, hv, hvt, rfl⟩
    · exact h.reasons u hu
    · rw [hrow v hv hvt]
      exact hreason
  · intro u hu
    rw [endings_append u.loginTxnId e d _ rfl]
    rcases mem_advance hu with ⟨hu, hne⟩ | ⟨v, hv, hvt, rfl⟩
    · rw [if_neg fun hx => hne (hx.1.symm.trans hentity), append_nil]
      exact h.endings u hu
    · rw [hrow v hv hvt, hid, h.endings t ht, hnone, nil_append, hdue, hentity]
      simp only [true_and]
  · intro e' he'
    rcases mem_inserted he' with he' | rfl
    · exact hids _ (h.known e' he')
    · rw [hentity]
      exact hids _ ⟨t, ht, rfl⟩

theorem Recorded.moves {held : List LoginLock} {c : LoginCall} {answer : LoginAnswer}
    {d' : LoginStore} (h : Recorded d) (hm : LoginMoves held c answer d d') : Recorded d' := by
  cases hm with
  | idles => exact h
  | @starts w input s _ _ new =>
    constructor
    · exact nodup_key_insert h.ids new
    · intro t ht
      rcases mem_inserted ht with ht | rfl
      · exact h.reasons t ht
      · exact ⟨nofun, nofun⟩
    · intro t ht
      rw [endings_append t.loginTxnId _ d _ rfl, if_neg fun hx => Bool.noConfusion hx.2, append_nil]
      rcases mem_inserted ht with ht | rfl
      · exact h.endings t ht
      · exact h.endings_new new
    · intro e he
      rcases mem_inserted he with he | rfl
      · obtain ⟨t, ht, hid⟩ := h.known e he
        exact ⟨t, mem_append_left _ ht, hid⟩
      · exact ⟨_, mem_append_right _ (mem_singleton_self _), rfl⟩
  | @replays _ _ t _ _ found _ =>
    refine ⟨h.ids, h.reasons, fun u hu => ?_, fun e he => ?_⟩
    · rw [endings_append u.loginTxnId _ d _ rfl, if_neg fun hx => Bool.noConfusion hx.2, append_nil]
      exact h.endings u hu
    · rcases mem_inserted he with he | rfl
      · exact h.known e he
      · exact ⟨t, (loginTransaction_some found).1, rfl⟩
  | @claims now _ t _ _ found _ _ pending _ =>
    obtain ⟨ht, -⟩ := loginTransaction_some found
    have hreason := h.reasons t ht
    rw [pending] at hreason
    refine h.advance ht (by rw [pending]; rfl) (fun _ => rfl) ?_ rfl rfl
    exact ⟨nofun, fun hsome => nomatch hreason.mpr hsome⟩
  | @fails _ _ _ t reason _ _ found live _ =>
    refine h.advance (loginTransaction_some found).1 live (fun _ => rfl)
      ⟨fun _ => rfl, fun _ => rfl⟩ rfl ?_
    rw [LoginTransaction.event]
    dsimp only
    unfold FailureReason.eventType
    split
    · rename_i hreason
      rw [hreason]
      rfl
    · rename_i hreason
      simp [LoginTransaction.due, LoginTransaction.fail, FailureReason.eventType, hreason,
        LoginEventType.terminal]
  | @succeeds w input t _ _ found completes =>
    obtain ⟨ht, -⟩ := loginTransaction_some found
    simp only [AdmittedLoginIdentity.completes, Bool.and_eq_true, decide_eq_true_eq] at completes
    obtain ⟨⟨⟨⟨hid, hstatus⟩, -⟩, -⟩, -⟩ := completes
    have hreason := h.reasons t ht
    rw [hstatus] at hreason
    refine h.advance ht (by rw [hstatus]; rfl) (fun _ => rfl) ?_ rfl rfl
    exact ⟨nofun, fun hsome => nomatch hreason.mpr hsome⟩

end Dealership.Identity
