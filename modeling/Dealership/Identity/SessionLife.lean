import Dealership.Identity.SessionRuns

/-!
# Revocation is final

What one event does to the sessions is one of four things: nothing, a move of some rows that
ends none of them, a revocation, or one new row.  A row that is revoked stays revoked with its
reason, and so no operation presents it as live again.
-/

namespace Dealership.Identity

open Library List

variable {d : Store} {now clock : Int} {newSessionId : String} {input : ResolveBearerSessionInput}
  {session : Option IdentitySession} {s : SessionRow} {d' : Store} {m : Service}

/-! ## Effects -/

/-- The audit rows that say a session ended. -/
def Store.endings (d : Store) (sessionId : String) : List SessionEvent :=
  d.events.filter fun e => e.fact.ends && decide (e.entityId = sessionId)

/-- A row as it was before, as far as its ending is concerned. -/
def SessionRow.SameEnding (s s' : SessionRow) : Prop :=
  s'.revokedAt = s.revokedAt ∧ s'.revokedReason = s.revokedReason ∧
    s'.authorizationVersion = s.authorizationVersion

/-- What a transaction that hands no credential on does to the sessions and to the trail of
their endings. -/
inductive Store.Effect (d d' : Store) : Prop where
  | keeps (sessions : d'.sessions = d.sessions) (endings : ∀ id, d'.endings id = d.endings id)
  | moves (p : SessionRow → Prop) (dec : DecidablePred p) (f : SessionRow → SessionRow)
      (sessions : d'.sessions = updateWhere p f d.sessions)
      (move : ∀ s ∈ d.sessions, p s → s.Move (f s) ∧ s.SameEnding (f s) ∧ s.Eased (f s))
      (endings : ∀ id, d'.endings id = d.endings id)
  | revokes (now : Int) (target : RevocationTarget) (reason : String)
      (actingUserLinkId : Option String) (rows : List SessionRow)
      (revoked : revokeSessionsWithin now target reason actingUserLinkId d = .ok (rows, d'))
  | inserts (row : SessionRow) (sessions : d'.sessions = d.sessions ++ [row])
      (newborn : row.Newborn) (endings : ∀ id, d'.endings id = d.endings id)

/-- What a claim or a rotation does: it ends nothing. -/
structure Store.Hands (d d' : Store) : Prop where
  row : ∀ s ∈ d.sessions, ∃ s' ∈ d'.sessions, s.Move s' ∧ s.SameEnding s'
  endings : ∀ id, d'.endings id = d.endings id

def Store.Changes (d d' : Store) : Prop := d.Effect d' ∨ d.Hands d'

theorem Store.Hands.of_update {p : SessionRow → Prop} [DecidablePred p]
    {f : SessionRow → SessionRow} (hsessions : d'.sessions = updateWhere p f d.sessions)
    (hmove : ∀ s ∈ d.sessions, p s → s.Move (f s) ∧ s.SameEnding (f s))
    (hendings : ∀ id, d'.endings id = d.endings id) : d.Hands d' where
  row := by
    intro s hs
    by_cases hp : p s
    · exact ⟨f s, hsessions ▸ mem_updateWhere_of_pos hs hp, hmove s hs hp⟩
    · exact ⟨s, hsessions ▸ mem_updateWhere_of_neg hs hp, .stay, rfl, rfl, rfl⟩
  endings := hendings

theorem endings_same {es : List SessionEvent} (he : d'.events = d.events ++ es)
    (h : ∀ e ∈ es, e.fact.ends = false) (id : String) : d'.endings id = d.endings id := by
  have hnone : es.filter (fun e => e.fact.ends && decide (e.entityId = id)) = [] := by
    rw [filter_eq_nil_iff]
    intro e hes hends
    rw [h e hes] at hends
    cases hends
  rw [Store.endings, he, filter_append, hnone, append_nil, Store.endings]

section Operations

variable {d' : Store}

theorem Store.Aside.effect (h : d.Aside d') : d.Effect d' :=
  .keeps h.sessions fun id => by rw [endings, endings, h.events]

theorem createSessionWithin_effect {sessionToken : String} {input : CreateSessionInput}
    {session : IdentitySession}
    (h : createSessionWithin now clock newSessionId sessionToken input d = .ok (session, d')) :
    d.Effect d' ∧ d'.Lawful ∧
      session = mapSession (newCookieSession now clock newSessionId sessionToken input) := by
  obtain ⟨rfl, rfl, hlawful⟩ := establish_eq_ok h
  refine ⟨.inserts _ rfl (newCookieSession_newborn now clock newSessionId sessionToken input)
    (endings_same rfl ?_), hlawful, rfl⟩
  intro e he
  rw [mem_singleton] at he
  rw [he]
  rfl

theorem touch_effect {hit : SessionRow → Prop} [DecidablePred hit]
    (hlive : ∀ s, hit s → s.revokedAt = none)
    (h : (d.write (Store.setSessions hit (SessionRow.touch now)) >>= fun d' =>
      pure ((d.sessions.find? fun s => hit s).map fun s => mapSession (s.touch now), d')) =
        .ok (session, d')) :
    d.Effect d' ∧ d'.Lawful ∧ ∀ found ∈ session, ∃ s ∈ d.sessions,
      s.revokedAt = none ∧ found.sessionId = s.sessionId := by
  obtain ⟨d₁, hwrite, h⟩ := bind_eq_ok.mp h
  cases h
  obtain ⟨hlawful, rfl⟩ := Store.write_eq_ok.mp hwrite
  refine ⟨.moves _ inferInstance _ rfl
    (fun s _ _ => ⟨.touch now, ⟨rfl, rfl, rfl⟩, .touch s now⟩) fun _ => rfl, hlawful, ?_⟩
  intro found hfound
  obtain ⟨s, hs, rfl⟩ := Option.map_eq_some_iff.mp hfound
  obtain ⟨hmem, hhit⟩ := of_find?_eq_some hs
  exact ⟨s, hmem, hlive s hhit, rfl⟩

theorem validateSessionToken_effect {sessionToken : String}
    (h : validateSessionToken now sessionToken d = .ok (session, d')) :
    d.Effect d' ∧ d'.Lawful ∧ ∀ found ∈ session, ∃ s ∈ d.sessions,
      s.revokedAt = none ∧ found.sessionId = s.sessionId :=
  touch_effect (fun _ hvalidates => hvalidates.2.1) h

theorem chainHolds_live (h : d.chainHolds now s = true) :
    s.revokedAt = none ∧ now < s.expiresAt := by
  simp only [Store.chainHolds, Bool.and_eq_true, decide_eq_true_eq] at h
  exact ⟨h.1.1.1, h.1.1.2⟩

theorem resolveBearerSession_effect (h : resolveBearerSession now input d = .ok (session, d')) :
    d.Effect d' ∧ d'.Lawful ∧ ∀ found ∈ session, ∃ s ∈ d.sessions,
      s.revokedAt = none ∧ found.sessionId = s.sessionId := by
  refine touch_effect (fun s hresolves => ?_) h
  have hchain := hresolves.2.2.2.2.2.2.2.2
  rw [Store.revalidates, Bool.and_eq_true] at hchain
  exact (chainHolds_live hchain.1).1

/-- An establishment inserts the row of the credential, or it leaves everything as it is. -/
theorem establishBearerSession_cases
    (h : establishBearerSession now newSessionId input d = .ok (session, d')) :
    (session = none ∧ d' = d) ∨
    (d.admitsBearer now input = true ∧
      (∀ s ∈ d.sessions, s.bearerKeyHash ≠ (newBearerSession now newSessionId input).bearerKeyHash) ∧
      session = some (mapSession (newBearerSession now newSessionId input)) ∧
      d.establish (newBearerSession now newSessionId input) =
        .ok (mapSession (newBearerSession now newSessionId input), d')) := by
  unfold establishBearerSession at h
  dsimp only at h
  split at h
  · cases h
    exact .inl ⟨rfl, rfl⟩
  rename_i hadmits
  obtain ⟨u, -, h⟩ := bind_eq_ok.mp h
  split at h
  · cases h
    exact .inl ⟨rfl, rfl⟩
  rename_i hfree
  obtain ⟨⟨created, d₁⟩, hestablish, h⟩ := bind_eq_ok.mp h
  cases h
  obtain ⟨rfl, -, -⟩ := establish_eq_ok hestablish
  refine .inr ⟨Bool.not_eq_false _ |>.mp hadmits, ?_, rfl, hestablish⟩
  simpa using hfree

theorem establishBearerSession_effect (hd : d.Lawful)
    (h : establishBearerSession now newSessionId input d = .ok (session, d')) :
    d.Effect d' ∧ d'.Lawful := by
  rcases establishBearerSession_cases h with ⟨-, rfl⟩ | ⟨-, -, -, h⟩
  · exact ⟨.keeps rfl fun _ => rfl, hd⟩
  · obtain ⟨-, rfl, hlawful⟩ := establish_eq_ok h
    refine ⟨.inserts _ rfl (newBearerSession_newborn now newSessionId input)
      (endings_same rfl ?_), hlawful⟩
    intro e he
    rw [mem_singleton] at he
    rw [he]
    rfl

theorem revokeSessionsWithin_effect {target : RevocationTarget} {reason : String}
    {acting : Option String} {rows : List SessionRow}
    (h : revokeSessionsWithin now target reason acting d = .ok (rows, d')) :
    d.Effect d' ∧ d'.Lawful := by
  refine ⟨.revokes now target reason acting rows h, ?_⟩
  obtain ⟨d₁, hwrite, h⟩ := bind_eq_ok.mp h
  obtain ⟨hlawful, -⟩ := Store.write_eq_ok.mp hwrite
  obtain ⟨-, rfl⟩ := Store.write_eq_ok.mp hwrite
  cases h
  exact hlawful.trail _ _ _

theorem startReauthentication_effect (hd : d.Lawful) {secrets : StepUpSecrets}
    {input : StartReauthenticationInput} {row : Option ReauthenticationRow}
    (h : startReauthentication now secrets input d = .ok (row, d')) :
    d.Effect d' ∧ d'.Lawful ∧ ∀ r ∈ row, ∃ s ∈ d.sessions,
      s.revokedAt = none ∧ r.sessionId = some s.sessionId := by
  unfold startReauthentication at h
  split at h
  · cases h
    exact ⟨.keeps rfl fun _ => rfl, hd, by simp⟩
  rename_i s hs
  dsimp only at h
  obtain ⟨_, -, h⟩ := bind_eq_ok.mp h
  obtain ⟨_, -, h⟩ := bind_eq_ok.mp h
  cases h
  obtain ⟨hmem, hderives⟩ := of_find?_eq_some hs
  refine ⟨.keeps rfl (endings_same rfl ?_), hd.trail _ _ _, ?_⟩
  · intro e he
    rw [mem_singleton] at he
    rw [he]
    rfl
  · intro r hr
    cases hr
    exact ⟨s, hmem, (chainHolds_live hderives.2.2.2.1).1, rfl⟩

theorem claimRefreshAttempt_closed (hd : d.Lawful) {newLeaseId : String}
    {input : RefreshProviderSessionInput} {outcome : RefreshSessionOutcome}
    (h : claimRefreshAttempt now clock newLeaseId input d = .ok (.closed outcome, d')) :
    d.Effect d' ∧ d'.Lawful ∧ ∀ found ∈ outcome.session?,
      ∃ s ∈ d.sessions, s.revokedAt = none ∧ found.sessionId = s.sessionId := by
  rcases claimRefreshAttempt_cases h with
    ⟨row, refreshToken, expiry, -, hclaim, -⟩ | ⟨outcome', hclaim, hsession, hd'⟩
  · cases hclaim
  cases hclaim
  have hfound : ∀ found ∈ outcome.session?,
      ∃ s ∈ d.sessions, s.revokedAt = none ∧ found.sessionId = s.sessionId := by
    intro found hf
    obtain ⟨row, hrow, rfl⟩ := hsession found hf
    obtain ⟨hmem, -, hlive, -⟩ := of_liveSession hrow
    exact ⟨row, hmem, hlive, rfl⟩
  rcases hd' with rfl | ⟨rows, hrows⟩
  · exact ⟨.keeps rfl fun _ => rfl, hd, hfound⟩
  · obtain ⟨heffect, hlawful⟩ := revokeSessionsWithin_effect hrows
    exact ⟨heffect, hlawful, hfound⟩

theorem claimRefreshAttempt_changes (hd : d.Lawful) {newLeaseId : String}
    {input : RefreshProviderSessionInput} {claim : RefreshClaim}
    (h : claimRefreshAttempt now clock newLeaseId input d = .ok (claim, d')) :
    d.Changes d' ∧ d'.Lawful := by
  rcases claimRefreshAttempt_cases h with
    ⟨row, refreshToken, expiry, -, rfl, -, -, rfl, hlawful⟩ | ⟨outcome, rfl, -, -⟩
  · refine ⟨.inr (.of_update rfl ?_ fun _ => rfl), hlawful⟩
    intro s _ hs
    refine ⟨.lease now (hashSessionToken refreshToken) newLeaseId expiry ?_, rfl, rfl, rfl⟩
    rw [hs.1]
    exact hs
  · obtain ⟨heffect, hlawful, -⟩ := claimRefreshAttempt_closed hd h
    exact ⟨.inl heffect, hlawful⟩

/-- The last phase of an attempt hands a token on only when it rotates, and then it answers
with the session it rotated. -/
theorem settleRefreshAttempt_changes (hd : d.Lawful) {input : RefreshProviderSessionInput}
    {leaseId refreshToken : String} {settlement : Settlement} {outcome : RefreshSessionOutcome}
    (h : settleRefreshAttempt now clock input leaseId refreshToken d settlement =
      .ok (outcome, d')) :
    (d.Effect d' ∨ d.Hands d' ∧ ∃ session count, outcome = .refreshed session count) ∧
      d'.Lawful ∧ ∀ found ∈ outcome.session?,
        ∃ s ∈ d.sessions, s.revokedAt = none ∧ found.sessionId = s.sessionId := by
  cases settlement with
  | revoke reason =>
    obtain ⟨rfl, rows, hrows⟩ := revokeWithin_eq_ok h
    obtain ⟨heffect, hlawful⟩ := revokeSessionsWithin_effect hrows
    exact ⟨.inl heffect, hlawful, by simp [RefreshSessionOutcome.session?]⟩
  | release =>
    obtain ⟨d₁, hrelease, h⟩ := bind_eq_ok.mp h
    cases h
    obtain ⟨hlawful, rfl⟩ := Store.write_eq_ok.mp hrelease
    refine ⟨.inl (.moves _ inferInstance _ rfl ?_ fun _ => rfl), hlawful,
      by simp [RefreshSessionOutcome.session?]⟩
    intro s _ hs
    exact ⟨.unlease leaseId hs.2, ⟨rfl, rfl, rfl⟩, .unlease s⟩
  | persist refreshed verified =>
    rcases persistRefreshedState_cases hd h with ⟨-, rfl, rfl⟩ |
      ⟨row, reason, rows, -, rfl, hrows⟩ |
      ⟨row, rotation, hrow, hrotation, -, happlies, rfl, ⟨facts, hfacts, rfl⟩, hlawful⟩
    · exact ⟨.inl (.keeps rfl fun _ => rfl), hd, by simp [RefreshSessionOutcome.session?]⟩
    · obtain ⟨heffect, hlawful⟩ := revokeSessionsWithin_effect hrows
      exact ⟨.inl heffect, hlawful, by simp [RefreshSessionOutcome.session?]⟩
    · obtain ⟨hmem, hid, hlive, -⟩ := of_liveSession hrow
      refine ⟨.inr ⟨.of_update (p := rotation.applies now) (f := rotation.apply now clock) rfl
        ?_ (endings_same rfl ?_), _, _, rfl⟩, hlawful.trail _ _ _, ?_⟩
      · intro s hs happ
        have hsame : s = row := eq_of_key hd.sessionKeys hs hmem (happ.1.trans happlies.1.symm)
        subst hsame
        refine ⟨.rotate now clock rotation happ ?_, rfl, rfl, rfl⟩
        rw [hrotation, rotationOf]
        split
        · rename_i hlater
          exact Int.le_of_lt hlater
        · exact Int.le_refl _
      · intro e he
        obtain ⟨fact, hfact, rfl⟩ := mem_map.mp he
        exact hfacts fact hfact
      · intro found hfound
        cases hfound
        exact ⟨row, hmem, hlive, rfl⟩

end Operations

/-! ## One event -/

/-- A session that is presented is none that has been revoked. -/
def Store.Presents (d : Store) (sessionId : String) : Prop :=
  ∀ s ∈ d.sessions, s.sessionId = sessionId → s.revokedAt = none

theorem Store.Lawful.presents (h : d.Lawful) {sessionId : String}
    (hlive : ∃ s ∈ d.sessions, s.revokedAt = none ∧ sessionId = s.sessionId) :
    d.Presents sessionId := by
  obtain ⟨s, hs, hrevoked, rfl⟩ := hlive
  intro s' hs' hid
  rw [eq_of_key h.sessionKeys hs' hs hid]
  exact hrevoked

theorem presents_of_inserted (h : d'.Lawful) (row : SessionRow)
    (hrow : d'.sessions = d.sessions ++ [row]) : d.Presents row.sessionId := by
  intro s hs hid
  have hkeys := h.sessionKeys
  rw [hrow, map_append, nodup_append] at hkeys
  exact absurd hid (hkeys.2.2 _ (mem_map.mpr ⟨s, hs, rfl⟩) _
    (mem_map.mpr ⟨row, mem_singleton.mpr rfl, rfl⟩))

/-- What an event did to the tables, and that it presented no revoked session. -/
structure Service.Stepped (R : Store → Store → Prop) (m m' : Service) (answer : Answer) : Prop where
  effect : R m.store m'.store
  lawful : m'.store.Lawful
  presents : ∀ found ∈ answer.session?, m.store.Presents found.sessionId
  builds : ∀ sessionId ∈ answer.stepUpOn?, m.store.Presents sessionId

namespace Service

variable {m : Service} {m' : Service}

theorem Stepped.of_store (hm : m.store.Lawful) (h : m'.store = m.store) {answer : Answer}
    (hs : answer.session? = none) (hb : answer.stepUpOn? = none) :
    m.Stepped Store.Effect m' answer :=
  ⟨.keeps (by rw [h]) fun _ => by rw [h], h ▸ hm, by simp [hs], by simp [hb]⟩

theorem Stepped.changes {answer : Answer}
    (h : m.Stepped Store.Effect m' answer) : m.Stepped Store.Changes m' answer :=
  ⟨.inl h.effect, h.lawful, h.presents, h.builds⟩

theorem perform_stepped (hm : m.store.Lawful) {α : Type} {r : Except Raise (α × Store)}
    {answer : α → Answer}
    (h : ∀ a d, r = .ok (a, d) → m.Stepped Store.Effect { m with store := d } (answer a)) :
    m.Stepped Store.Effect (m.perform r answer).1 (m.perform r answer).2 := by
  match r, h with
  | .ok (a, d), h => exact h a d rfl
  | .error raise, _ => exact .of_store hm rfl rfl rfl

theorem resolved_stepped (hm : m.store.Lawful)
    (h : resolveBearerSession now input m.store = .ok (session, d)) (hd : m'.store = d)
    {otherwise : BearerStage} (hotherwise : (Answer.bearer otherwise).session? = none) :
    m.Stepped Store.Effect m' (.bearer (session.elim otherwise fun s => .answered (.live s false))) := by
  obtain ⟨heffect, hlawful, hfound⟩ := resolveBearerSession_effect h
  refine ⟨hd ▸ heffect, hd ▸ hlawful, ?_, by simp [Answer.stepUpOn?]⟩
  intro found hpresented
  cases session with
  | none =>
    rw [Option.elim_none, hotherwise] at hpresented
    cases hpresented
  | some s =>
    cases hpresented
    exact hm.presents (hfound _ rfl)

theorem bearerStatement_stepped (hm : m.store.Lawful) {stage next : BearerStage}
    (hstage : ∀ outcome, stage ≠ .answered outcome)
    (h : resolveOrEstablishBearerSession now clock newSessionId input m.store stage =
      .ok (next, d)) (hd : m'.store = d) : m.Stepped Store.Effect m' (.bearer next) := by
  cases stage with
  | resolving =>
    obtain ⟨⟨session, d₁⟩, hresolved, h⟩ := bind_eq_ok.mp h
    cases h
    exact resolved_stepped hm hresolved hd rfl
  | classifying =>
    cases h
    refine .of_store hm hd ?_ ?_
    · cases classifyMissingBearerSession clock
        (bearerSessionKey input.toBearerSessionIdentity) m.store with
      | none => rfl
      | some refusal => rfl
    · rfl
  | establishing =>
    obtain ⟨⟨session, d₁⟩, hestablished, h⟩ := bind_eq_ok.mp h
    cases h
    obtain ⟨heffect, hlawful⟩ := establishBearerSession_effect hm hestablished
    refine ⟨hd ▸ heffect, hd ▸ hlawful, ?_, by simp [Answer.stepUpOn?]⟩
    intro found hpresented
    rcases establishBearerSession_cases hestablished with ⟨rfl, -⟩ | ⟨-, -, rfl, hrow⟩
    · cases hpresented
    · cases hpresented
      obtain ⟨-, rfl, -⟩ := establish_eq_ok hrow
      exact presents_of_inserted hlawful (newBearerSession now newSessionId input) rfl
  | resolvingAgain =>
    obtain ⟨⟨session, d₁⟩, hresolved, h⟩ := bind_eq_ok.mp h
    cases h
    exact resolved_stepped hm hresolved hd rfl
  | classifyingAgain =>
    cases h
    exact .of_store hm hd (by rfl) (by rfl)
  | answered outcome => exact absurd rfl (hstage outcome)

theorem bearerGoesOn_stepped (hm : m.store.Lawful) (callId : Nat) (now clock : Int)
    (newSessionId : String) :
    m.Stepped Store.Effect (m.bearerGoesOn callId now clock newSessionId).1
      (m.bearerGoesOn callId now clock newSessionId).2 := by
  unfold bearerGoesOn
  split
  · split
    · exact .of_store hm rfl rfl rfl
    · rename_i stage hstage
      split
      · rename_i h
        exact bearerStatement_stepped hm hstage h rfl
      · exact .of_store hm rfl rfl rfl
  · exact .of_store hm rfl rfl rfl

theorem claim_stepped (hm : m.store.Lawful) (now clock : Int) (newLeaseId : String)
    (input : RefreshProviderSessionInput) :
    m.Stepped Store.Changes (m.claim now clock newLeaseId input).1
      (m.claim now clock newLeaseId input).2 := by
  unfold claim
  split
  · exact (Stepped.of_store hm rfl rfl rfl).changes
  split
  · rename_i leaseId refreshToken d h
    obtain ⟨hchanges, hlawful⟩ := claimRefreshAttempt_changes hm h
    exact ⟨hchanges, hlawful, by simp [Answer.session?], by simp [Answer.stepUpOn?]⟩
  · rename_i outcome d h
    obtain ⟨heffect, hlawful, hfound⟩ := claimRefreshAttempt_closed hm h
    exact ⟨.inl heffect, hlawful,
      fun found hpresented => hm.presents (hfound found hpresented),
      by simp [Answer.stepUpOn?]⟩
  · exact (Stepped.of_store hm rfl rfl rfl).changes

theorem settle_stepped (hm : m.store.Lawful) (now clock : Int) (leaseId : String) :
    m.Stepped Store.Changes (m.settle now clock leaseId).1 (m.settle now clock leaseId).2 := by
  unfold settle
  split
  · split
    · split
      · rename_i outcome d h
        obtain ⟨hchanges, hlawful, hfound⟩ := settleRefreshAttempt_changes hm h
        exact ⟨hchanges.imp_right And.left, hlawful,
          fun found hpresented => hm.presents (hfound found hpresented),
          by simp [Answer.stepUpOn?]⟩
      · apply Stepped.changes
        apply Stepped.of_store hm
        · rfl
        · rfl
        · rfl
    all_goals exact (Stepped.of_store hm rfl rfl rfl).changes
  · exact (Stepped.of_store hm rfl rfl rfl).changes

theorem exchanged_store (m : Service) (leaseId : String) (exchange : Exchange) :
    (m.exchanged leaseId exchange).1.store = m.store ∧
      (m.exchanged leaseId exchange).2 = .nothing := by
  unfold exchanged
  split
  · split
    · exact ⟨rfl, rfl⟩
    · exact ⟨rfl, rfl⟩
  · exact ⟨rfl, rfl⟩

theorem step_effect (hm : m.store.Lawful) (e : Event) (he : e.refreshes = false) :
    m.Stepped Store.Effect (m.next e) (m.step e).2 := by
  cases e with
  | createSession now clock newSessionId sessionToken input =>
    refine perform_stepped hm fun session d h => ?_
    obtain ⟨heffect, hlawful, hsession⟩ := createSessionWithin_effect h
    obtain ⟨-, rfl, -⟩ := establish_eq_ok h
    refine ⟨heffect, hlawful, ?_, by simp [Answer.stepUpOn?]⟩
    intro found hpresented
    cases hpresented
    rw [hsession]
    exact presents_of_inserted hlawful
      (newCookieSession now clock newSessionId sessionToken input) rfl
  | validate now sessionToken =>
    refine perform_stepped hm fun session d h => ?_
    obtain ⟨heffect, hlawful, hfound⟩ := validateSessionToken_effect h
    exact ⟨heffect, hlawful, fun found hpresented => hm.presents (hfound found hpresented),
      by simp [Answer.stepUpOn?]⟩
  | revalidate now sessionId expectedIssuer =>
    refine ⟨.keeps rfl fun _ => rfl, hm, ?_, by simp [step, Answer.stepUpOn?]⟩
    intro found hpresented
    obtain ⟨s, hs, rfl⟩ := Option.map_eq_some_iff.mp hpresented
    obtain ⟨hmem, -, hrevalidates⟩ := of_find?_eq_some hs
    rw [Store.revalidates, Bool.and_eq_true] at hrevalidates
    exact hm.presents ⟨s, hmem, (chainHolds_live hrevalidates.1).1, rfl⟩
  | revoke now call =>
    refine perform_stepped hm fun count d h => ?_
    obtain ⟨rows, hrows⟩ := RevocationCall.call_eq_ok h
    obtain ⟨heffect, hlawful⟩ := revokeSessionsWithin_effect hrows
    exact ⟨heffect, hlawful, by simp [Answer.session?], by simp [Answer.stepUpOn?]⟩
  | bearerCalled callId input =>
    simp only [next, step, bearerCalled]
    split
    · exact .of_store hm rfl rfl rfl
    refine .of_store hm (by rfl) ?_ ?_
    · rw [BearerStage.first]
      split
      · rfl
      · rfl
    · rfl
  | bearerGoesOn callId now clock newSessionId =>
    exact bearerGoesOn_stepped hm callId now clock newSessionId
  | claim now clock newLeaseId input => cases he
  | exchanged leaseId exchange =>
    obtain ⟨hstore, hanswer⟩ := exchanged_store m leaseId exchange
    refine .of_store hm hstore ?_ ?_
    · rw [step, hanswer]
      rfl
    · rw [step, hanswer]
      rfl
  | settle now clock leaseId => cases he
  | startReauthentication now secrets input =>
    refine perform_stepped hm fun row d h => ?_
    obtain ⟨heffect, hlawful, hbuilt⟩ := startReauthentication_effect hm h
    refine ⟨heffect, hlawful, by simp [Answer.session?], ?_⟩
    intro sessionId hbuilds
    obtain ⟨r, rfl, hsession⟩ := Option.bind_eq_some_iff.mp hbuilds
    obtain ⟨s, hs, hlive, hrow⟩ := hbuilt r rfl
    rw [hrow] at hsession
    cases hsession
    exact hm.presents ⟨s, hs, hlive, rfl⟩
  | administer mutation =>
    refine perform_stepped hm fun version d h => ?_
    have haside := Mutation.aside hm h
    exact ⟨haside.effect, haside.lawful, by simp [Answer.session?], by simp [Answer.stepUpOn?]⟩

theorem step_stepped (hm : m.store.Lawful) (e : Event) :
    m.Stepped Store.Changes (m.next e) (m.step e).2 := by
  cases he : e.refreshes with
  | false => exact (step_effect hm e he).changes
  | true =>
    cases e with
    | claim now clock newLeaseId input => exact claim_stepped hm now clock newLeaseId input
    | settle now clock leaseId => exact settle_stepped hm now clock leaseId
    | createSession | validate | revalidate | revoke | bearerCalled | bearerGoesOn | exchanged
    | startReauthentication | administer => cases he

end Service

/-! ## What becomes of a row -/

/-- The trail of a session after a revocation: one more row if the session was among those
found. -/
theorem endings_revoked (hd : d.Lawful) {target : RevocationTarget} {reason : String}
    {acting : Option String} {rows : List SessionRow}
    (h : revokeSessionsWithin now target reason acting d = .ok (rows, d')) (hs : s ∈ d.sessions) :
    (target.finds now s → ∃ e, d'.endings s.sessionId = d.endings s.sessionId ++ [e]) ∧
      (¬ target.finds now s → d'.endings s.sessionId = d.endings s.sessionId) := by
  obtain ⟨rows', hrows, hok⟩ := revokeSessionsWithin_eq_ok hd now target reason acting
  rw [hok] at h
  cases h
  generalize revocationActor reason acting rows = actor
  have hown : (rows.map (revocationEvent reason actor)).filter
      (fun e => e.fact.ends && decide (e.entityId = s.sessionId)) =
      (([s].filter fun s => target.finds now s).map (SessionRow.revoke now reason acting)).map
        (revocationEvent reason actor) := by
    rw [filter_map, hrows, filter_map, filter_filter,
      ← filter_eq_singleton_of_key hd.sessionKeys hs, filter_filter]
    congr 2
    apply filter_congr
    intro r _
    rw [Bool.and_comm]
    rfl
  have hendings : Store.endings
      { d.setSessions (target.finds now) (SessionRow.revoke now reason acting) with
        events := d.events ++ rows.map (revocationEvent reason actor) } s.sessionId =
      d.endings s.sessionId ++
        (([s].filter fun s => target.finds now s).map (SessionRow.revoke now reason acting)).map
          (revocationEvent reason actor) := by
    rw [Store.endings, filter_append, hown, Store.endings]
  constructor
  · intro hfinds
    rw [hendings, filter_cons_of_pos (by simpa using hfinds)]
    exact ⟨_, rfl⟩
  · intro hfinds
    rw [hendings, filter_cons_of_neg (by simpa using hfinds)]
    exact append_nil _

/-- A session as it was, or ended by this step: one version further, with one audit row. -/
def EndsAtMostOnce (d d' : Store) (s s' : SessionRow) : Prop :=
  (s.SameEnding s' ∧ d'.endings s.sessionId = d.endings s.sessionId) ∨
    (s.revokedAt = none ∧ s'.revokedAt ≠ none ∧
      s'.authorizationVersion = s.authorizationVersion + 1 ∧
      ∃ e, d'.endings s.sessionId = d.endings s.sessionId ++ [e])

theorem Store.Effect.row (h : d.Effect d') (hd : d.Lawful) (hs : s ∈ d.sessions) :
    ∃ s' ∈ d'.sessions, s.Move s' ∧ EndsAtMostOnce d d' s s' := by
  cases h with
  | keeps sessions endings =>
    exact ⟨s, sessions ▸ hs, .stay, .inl ⟨⟨rfl, rfl, rfl⟩, endings _⟩⟩
  | moves p dec f sessions move endings =>
    by_cases hp : p s
    · obtain ⟨hmove, hsame, -⟩ := move s hs hp
      exact ⟨f s, sessions ▸ mem_updateWhere_of_pos hs hp, hmove, .inl ⟨hsame, endings _⟩⟩
    · exact ⟨s, sessions ▸ mem_updateWhere_of_neg hs hp, .stay, .inl ⟨⟨rfl, rfl, rfl⟩, endings _⟩⟩
  | revokes now target reason acting rows revoked =>
    obtain ⟨hfound, hmissed⟩ := endings_revoked hd revoked hs
    obtain ⟨rows', -, hok⟩ := revokeSessionsWithin_eq_ok hd now target reason acting
    rw [hok] at revoked
    cases revoked
    by_cases hp : target.finds now s
    · refine ⟨s.revoke now reason acting, mem_updateWhere_of_pos hs hp,
        .revoke now reason acting hp.2, .inr ⟨hp.2, ?_, rfl, hfound hp⟩⟩
      intro hnone
      cases hnone
    · exact ⟨s, mem_updateWhere_of_neg hs hp, .stay, .inl ⟨⟨rfl, rfl, rfl⟩, hmissed hp⟩⟩
  | inserts row sessions newborn endings =>
    exact ⟨s, sessions ▸ mem_append_left _ hs, .stay, .inl ⟨⟨rfl, rfl, rfl⟩, endings _⟩⟩
/-- Every session is still there after a step, moved. -/
theorem Store.Changes.row (h : d.Changes d') (hd : d.Lawful) (hs : s ∈ d.sessions) :
    ∃ s' ∈ d'.sessions, s.Move s' ∧ EndsAtMostOnce d d' s s' := by
  rcases h with h | h
  · exact h.row hd hs
  · obtain ⟨s', hs', hmove, hsame⟩ := h.row s hs
    exact ⟨s', hs', hmove, .inl ⟨hsame, h.endings _⟩⟩

structure SessionRow.Remains (s s' : SessionRow) : Prop where
  same : s.SameIdentity s'
  revokedAt : s'.revokedAt = s.revokedAt
  revokedReason : s'.revokedReason = s.revokedReason

theorem SessionRow.Remains.refl (s : SessionRow) : s.Remains s := ⟨.refl s, rfl, rfl⟩

theorem Service.next_remains (hm : m.store.Lawful) (hs : s ∈ m.store.sessions)
    (hrevoked : s.revokedAt ≠ none) (e : Event) :
    ∃ s' ∈ (m.next e).store.sessions, s.Remains s' := by
  obtain ⟨s', hs', hmove, hends⟩ := (m.step_stepped hm e).effect.row hm hs
  refine ⟨s', hs', hmove.sameIdentity, ?_, ?_⟩
  · rcases hends with ⟨hsame, -⟩ | ⟨hlive, -⟩
    · exact hsame.1
    · exact absurd hlive hrevoked
  · rcases hends with ⟨hsame, -⟩ | ⟨hlive, -⟩
    · exact hsame.2.1
    · exact absurd hlive hrevoked

theorem Service.run_lawful (hm : m.store.Lawful) (es : List Event) :
    (run Service.next m es).store.Lawful :=
  run_invariant (I := fun m : Service => m.store.Lawful)
    (fun _ e hm => (step_stepped hm e).lawful) hm es

theorem Service.run_remains (hm : m.store.Lawful) (hs : s ∈ m.store.sessions)
    (hrevoked : s.revokedAt ≠ none) (es : List Event) :
    ∃ s' ∈ (run Service.next m es).store.sessions, s.Remains s' := by
  induction es generalizing m s with
  | nil => exact ⟨s, hs, .refl s⟩
  | cons e es ih =>
    obtain ⟨s₁, hs₁, h₁⟩ := m.next_remains hm hs hrevoked e
    obtain ⟨s₂, hs₂, h₂⟩ := ih (step_stepped hm e).lawful hs₁ (h₁.revokedAt ▸ hrevoked)
    exact ⟨s₂, hs₂, h₁.same.trans h₂.same, h₂.revokedAt.trans h₁.revokedAt,
      h₂.revokedReason.trans h₁.revokedReason⟩

/-! ## The credential stays shut out -/

section Shut

variable {d' : Store}

theorem establishBearerSession_taken (hs : s ∈ d.sessions)
    (hkey : s.bearerKeyHash = some (bearerSessionKey input.toBearerSessionIdentity))
    (h : establishBearerSession now newSessionId input d = .ok (session, d')) :
    session = none ∧ d' = d := by
  rcases establishBearerSession_cases h with h | ⟨-, hfree, -, -⟩
  · exact h
  · exact absurd hkey (hfree s hs)

theorem resolveBearerSession_revoked (hd : d.Lawful) (hs : s ∈ d.sessions)
    (hrevoked : s.revokedAt ≠ none)
    (hkey : s.bearerKeyHash = some (bearerSessionKey input.toBearerSessionIdentity))
    (h : resolveBearerSession now input d = .ok (session, d')) : session = none := by
  obtain ⟨d₁, hwrite, h⟩ := bind_eq_ok.mp h
  cases h
  rw [Option.map_eq_none_iff, find?_eq_none]
  intro r hr hresolves
  have hresolves : d.resolves now input r := of_decide_eq_true hresolves
  have hsame : r = s := eq_of_nullable_key hd.bearerKeys hr hs hresolves.1 hkey
  subst hsame
  have hchain := hresolves.2.2.2.2.2.2.2.2
  rw [Store.revalidates, Bool.and_eq_true] at hchain
  exact hrevoked (chainHolds_live hchain.1).1

theorem bearerStatement_revoked (hd : d.Lawful) (hs : s ∈ d.sessions)
    (hrevoked : s.revokedAt ≠ none)
    (hkey : s.bearerKeyHash = some (bearerSessionKey input.toBearerSessionIdentity))
    {stage next : BearerStage} (hstage : ∀ outcome, stage ≠ .answered outcome)
    (h : resolveOrEstablishBearerSession now clock newSessionId input d stage = .ok (next, d'))
    (found : IdentitySession) (established : Bool) :
    next ≠ .answered (.live found established) := by
  cases stage with
  | resolving =>
    obtain ⟨⟨session, d₁⟩, hresolved, h⟩ := bind_eq_ok.mp h
    have hnone : session = none := resolveBearerSession_revoked hd hs hrevoked hkey hresolved
    subst hnone
    cases h
    simp
  | classifying =>
    cases h
    cases classifyMissingBearerSession clock (bearerSessionKey input.toBearerSessionIdentity) d with
    | none => simp
    | some refusal => simp
  | establishing =>
    obtain ⟨⟨session, d₁⟩, hestablished, h⟩ := bind_eq_ok.mp h
    have hnone : session = none := (establishBearerSession_taken hs hkey hestablished).1
    subst hnone
    cases h
    simp
  | resolvingAgain =>
    obtain ⟨⟨session, d₁⟩, hresolved, h⟩ := bind_eq_ok.mp h
    have hnone : session = none := resolveBearerSession_revoked hd hs hrevoked hkey hresolved
    subst hnone
    cases h
    simp
  | classifyingAgain =>
    cases h
    simp
  | answered outcome => exact absurd rfl (hstage outcome)

theorem revocation_of_nothing (hd : d.Lawful) (now : Int) (call : RevocationCall)
    (hnone : ∀ s ∈ d.sessions, ¬ call.target.finds now s) : call.call now d = .ok (0, d) := by
  have hrows : (d.sessions.filter fun s => call.target.finds now s) = [] := by
    rw [filter_eq_nil_iff]
    intro s hs
    simpa using hnone s hs
  have hsame : d.setSessions (call.target.finds now)
      (SessionRow.revoke now call.reason call.actingUserLinkId) = d := by
    rw [Store.setSessions, updateWhere_of_forall_not hnone]
  obtain ⟨rows, hr, hok⟩ :=
    revokeSessionsWithin_eq_ok hd now call.target call.reason call.actingUserLinkId
  rw [hrows, map_nil] at hr
  subst hr
  rw [hsame, map_nil, append_nil] at hok
  cases call with
  | byToken sessionToken reason acting =>
    exact bind_eq_ok.mpr ⟨(false, d), bind_eq_ok.mpr ⟨([], d), hok, rfl⟩, rfl⟩
  | forUserLink userLinkId reason acting => exact bind_eq_ok.mpr ⟨([], d), hok, rfl⟩
  | byId sessionId reason acting =>
    exact bind_eq_ok.mpr ⟨(false, d), bind_eq_ok.mpr ⟨([], d), hok, rfl⟩, rfl⟩
  | forIdentityBreach sessionId reason =>
    exact bind_eq_ok.mpr ⟨(false, d), bind_eq_ok.mpr ⟨([], d), hok, rfl⟩, rfl⟩

end Shut

/-! ## Revocation is final -/

structure Service.Ended (m : Service) (s : SessionRow) : Prop where
  /-- The row stands, revoked then and for that reason, and holds no credential. -/
  row : ∃ s' ∈ m.store.sessions, s'.sessionId = s.sessionId ∧ s'.revokedAt = s.revokedAt ∧
    s'.revokedReason = s.revokedReason ∧ s'.refreshTokenHash = none ∧
    s'.refreshStateSealed = none ∧ s'.refreshLeaseId = none
  /-- No operation answers with the session. -/
  notLive : ∀ e, ∀ found ∈ (m.step e).2.session?, found.sessionId ≠ s.sessionId
  /-- No step-up is built on it. -/
  noStepUp : ∀ e, (m.step e).2.stepUpOn? ≠ some s.sessionId
  /-- The seven facts of a bearer session establish nothing more. -/
  notEstablished : ∀ input : ResolveBearerSessionInput,
    s.bearerKeyHash = some (bearerSessionKey input.toBearerSessionIdentity) →
    ∀ now newSessionId session d',
      establishBearerSession now newSessionId input m.store = .ok (session, d') →
      session = none ∧ d' = m.store
  /-- No call under way for these facts, wherever it stands, goes on to a live session. -/
  notAdmitted : ∀ callId call, m.bearer callId = some call →
    s.bearerKeyHash = some (bearerSessionKey call.input.toBearerSessionIdentity) →
    ∀ now clock newSessionId found established,
      (m.step (.bearerGoesOn callId now clock newSessionId)).2 ≠
        .bearer (.answered (.live found established))

/-- A service whose tables hold what is left of a revoked session is done with it. -/
theorem SessionRow.Remains.ended (hm : m.store.Lawful) {s' : SessionRow}
    (hs' : s' ∈ m.store.sessions) (h : s.Remains s') (hrevoked : s.revokedAt ≠ none) :
    m.Ended s where
  row := by
    obtain ⟨hdigest, hsealed, hlease, -⟩ :=
      (hm.sessionChecked s' hs').destroyed (h.revokedAt ▸ hrevoked)
    exact ⟨s', hs', h.same.sessionId, h.revokedAt, h.revokedReason, hdigest, hsealed, hlease⟩
  notLive := by
    intro e found hfound hid
    have hlive := (m.step_stepped hm e).presents found hfound s'
      hs' (h.same.sessionId.trans hid.symm)
    exact hrevoked (h.revokedAt ▸ hlive)
  noStepUp := by
    intro e hbuilt
    have hlive := (m.step_stepped hm e).builds s.sessionId hbuilt s' hs' h.same.sessionId
    exact hrevoked (h.revokedAt ▸ hlive)
  notEstablished := by
    intro input hkey now newSessionId session d' hok
    exact establishBearerSession_taken hs' (h.same.bearerKeyHash.trans hkey) hok
  notAdmitted := by
    intro callId call hcall hkey now clock newSessionId found established
    simp only [Service.step, Service.bearerGoesOn, hcall]
    split
    · intro hanswer
      cases hanswer
    rename_i stage hstage
    split
    · rename_i next d hok
      intro hanswer
      exact bearerStatement_revoked hm hs' (h.revokedAt ▸ hrevoked)
        (h.same.bearerKeyHash.trans hkey) hstage hok found established
        (Answer.bearer.inj hanswer)
    · intro hanswer
      cases hanswer

/-- Once a session is revoked it stays so, whatever runs later; every event ends a session at
most once, one version further and with one audit row; and a revocation that finds nothing
writes nothing. -/
theorem revocation_final (m : Service) (hm : m.store.Lawful) (later : List Event) :
    (∀ s ∈ m.store.sessions, s.revokedAt ≠ none → (run Service.next m later).Ended s) ∧
    (∀ e, ∀ s ∈ (run Service.next m later).store.sessions,
      ∃ s' ∈ ((run Service.next m later).next e).store.sessions, s'.sessionId = s.sessionId ∧
        EndsAtMostOnce (run Service.next m later).store
          ((run Service.next m later).next e).store s s') ∧
    ∀ now call, (∀ s ∈ (run Service.next m later).store.sessions, ¬ call.target.finds now s) →
      (run Service.next m later).step (.revoke now call) =
        (run Service.next m later, .revoked 0) := by
  have hlawful := Service.run_lawful hm later
  refine ⟨?_, ?_, ?_⟩
  · intro s hs hrevoked
    obtain ⟨s', hs', hremains⟩ := Service.run_remains hm hs hrevoked later
    exact hremains.ended hlawful hs' hrevoked
  · intro e s hs
    obtain ⟨s', hs', hmove, hends⟩ := (Service.step_stepped hlawful e).effect.row hlawful hs
    exact ⟨s', hs', hmove.sameIdentity.sessionId, hends⟩
  · intro now call hnone
    rw [Service.step, revocation_of_nothing hlawful now call hnone]
    rfl

namespace Office

/-- One person of one tenant, signed in through one connection. -/
def store : Store where
  tenants := [⟨⟨"T", .active, ⟨0, none⟩⟩, 1⟩]
  connections :=
    [⟨⟨"C", some "T", false, none, none, none⟩, "workos", "org", "iss", true, ⟨0, none⟩, 1⟩]
  userLinks :=
    [⟨⟨"U", .dealership, some "T", .activated, ⟨0, none⟩⟩, "workos", "sub", some "C",
      some "org", some "iss", 1⟩]
  sessions := []
  stepUps := []
  events := []
  mutations := []

def bearer : ResolveBearerSessionInput :=
  ⟨⟨"iss", "sid", "org", "sub", some "T", "U", "C"⟩, 0, "iss", none⟩

/-- The credential is presented, its session is established, and the person logs out. -/
def loggedOut : Service :=
  run Service.next (.start store)
    [.bearerCalled 0 bearer, .bearerGoesOn 0 1000 1000 "S", .bearerGoesOn 0 1000 1000 "S",
      .bearerGoesOn 0 1000 1000 "S", .revoke 2000 (.byId "S" "logout" none)]

/-- The credential is presented again. -/
def again : List Event :=
  [.bearerCalled 1 bearer, .bearerGoesOn 1 3000 3000 "R", .bearerGoesOn 1 3000 3000 "R"]

end Office

/-- A logged out bearer session is ended for good, and presenting its credential again is
refused. -/
theorem logged_out_for_good :
    (∀ s ∈ Office.loggedOut.store.sessions, s.revokedAt ≠ none →
      (run Service.next Office.loggedOut Office.again).Ended s) ∧
    Office.loggedOut.store.sessions.map (fun s => (s.revokedAt, s.authorizationVersion)) =
      [(some 2000, 2)] ∧
    (run Service.next Office.loggedOut Office.again).bearers.map BearerCall.stage =
      [.answered (.live (mapSession (newBearerSession 1000 "S" Office.bearer)) true),
        .answered (.refused .revoked)] :=
  ⟨(revocation_final Office.loggedOut (by decide +kernel) Office.again).1, by decide +kernel,
    by decide +kernel⟩

end Dealership.Identity
