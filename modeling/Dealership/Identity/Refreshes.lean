import Dealership.Identity.Agreement

/-!
# Refreshing never forks a credential

The exchange with the provider happens outside any transaction, under a lease that may run out
while it lasts.  Every attempt remembers how often the credential had been rotated when it was
handed out, and that count orders the attempts of a session: the row's own count is never
behind an attempt's, it is ahead of every attempt that rotated, and while the two are equal the
row still holds the token the attempt was handed.
-/

namespace Dealership.Identity

open Library List

variable {a : Attempt} {s s' : SessionRow}

/-! ## Attempts -/

/-- The attempt replaced the credential it was handed. -/
def Attempt.rotated (a : Attempt) : Bool :=
  match a.stage with
  | .settled _ _ (.refreshed _ _) => true
  | .exchanging | .settling _ | .settled _ _ _ | .abandoned => false

/-- The attempt came back with an answer of the provider to persist, before the session had
expired. -/
def Attempt.persisted (a : Attempt) : Bool :=
  match a.stage with
  | .settled (.persist _ _) true _ => true
  | .exchanging | .settling _ | .settled _ _ _ | .abandoned => false

/-- The last phase of the attempt has not run. -/
def Attempt.pending (a : Attempt) : Prop :=
  a.stage = .exchanging ∨ ∃ settlement, a.stage = .settling settlement

theorem Attempt.pending.not_rotated (h : a.pending) : a.rotated = false := by
  rcases h with h | ⟨settlement, h⟩
  · simp [rotated, h]
  · simp [rotated, h]

/-- How often the credential of a session has been replaced. -/
def Service.rotations (m : Service) (sessionId : String) : Nat :=
  m.attempts.countP fun a => a.rotated && decide (a.input.sessionId = sessionId)

/-- What an attempt was handed, against the row it was handed it from as it stands now. -/
structure Attempt.Handed (a : Attempt) (s : SessionRow) : Prop where
  le : a.rotationCount ≤ s.refreshRotationCount
  spent : a.rotated = true → a.rotationCount < s.refreshRotationCount
  token : a.rotationCount = s.refreshRotationCount →
    ∀ sealed ∈ s.refreshStateSealed, sealed.refreshToken = a.refreshToken
  closed : a.persisted = true → a.rotated = false → s.revokedAt ≠ none

/-- Whose a credential is, over the tables and the calls under way. -/
structure Service.Custody (m : Service) : Prop where
  lawful : m.store.Lawful
  agrees : ∀ s ∈ m.store.sessions, s.Agrees
  leaseIds : (m.attempts.map Attempt.leaseId).Nodup
  known : ∀ a ∈ m.attempts, ∃ s ∈ m.store.sessions, s.sessionId = a.input.sessionId
  /-- A lease names an attempt that was handed what the row holds. -/
  holder : ∀ s ∈ m.store.sessions, ∀ leaseId ∈ s.refreshLeaseId, ∃ a ∈ m.attempts,
    a.leaseId = leaseId ∧ a.input.sessionId = s.sessionId ∧ a.rotationCount = s.refreshRotationCount
  handed : ∀ a ∈ m.attempts, ∀ s ∈ m.store.sessions, s.sessionId = a.input.sessionId → a.Handed s
  sameToken : ∀ a ∈ m.attempts, ∀ b ∈ m.attempts, a.input.sessionId = b.input.sessionId →
    a.rotationCount = b.rotationCount → a.refreshToken = b.refreshToken
  once : ∀ a ∈ m.attempts, ∀ b ∈ m.attempts, a.rotated = true → b.rotated = true →
    a.input.sessionId = b.input.sessionId → a.rotationCount = b.rotationCount → a = b
  counted : ∀ s ∈ m.store.sessions, s.refreshRotationCount = m.rotations s.sessionId

/-! ## The tables move -/

/-- A row after a step that hands nothing on was there and eased, or it is new. -/
theorem Store.Effect.origin {d d' : Store} (h : d.Effect d') (hd' : d'.Lawful)
    (hs' : s' ∈ d'.sessions) : (∃ s ∈ d.sessions, s.Eased s') ∨
      s'.Newborn ∧ ∀ s ∈ d.sessions, s.sessionId ≠ s'.sessionId := by
  cases h with
  | keeps sessions endings => exact .inl ⟨s', sessions ▸ hs', .refl s'⟩
  | moves p dec f sessions move endings =>
    rw [sessions] at hs'
    rcases updateWhere_cases hs' with ⟨hs, -⟩ | ⟨s, hs, hp, rfl⟩
    · exact .inl ⟨s', hs, .refl s'⟩
    · exact .inl ⟨s, hs, (move s hs hp).2.2⟩
  | revokes now target reason acting rows revoked =>
    obtain ⟨d₁, hwrite, h⟩ := bind_eq_ok.mp revoked
    obtain ⟨-, rfl⟩ := Store.write_eq_ok.mp hwrite
    cases h
    rcases updateWhere_cases hs' with ⟨hs, -⟩ | ⟨s, hs, hp, rfl⟩
    · exact .inl ⟨s', hs, .refl s'⟩
    · exact .inl ⟨s, hs, .revoke hp.2 now reason acting⟩
  | inserts row sessions newborn endings =>
    rw [sessions, mem_append, mem_singleton] at hs'
    rcases hs' with hs | rfl
    · exact .inl ⟨s', hs, .refl s'⟩
    · refine .inr ⟨newborn, ?_⟩
      intro s hs hid
      have hkeys := hd'.sessionKeys
      rw [sessions, map_append, nodup_append] at hkeys
      exact hkeys.2.2 _ (mem_map.mpr ⟨s, hs, rfl⟩) _
        (mem_map.mpr ⟨s', mem_singleton.mpr rfl, rfl⟩) hid

theorem SessionRow.Agrees.eased (h : s.Agrees) (he : s.Eased s') : s'.Agrees := by
  intro sealed hsealed
  rcases he.credential with ⟨hsame, hdigest⟩ | hnone
  · rw [hsame] at hsealed
    rw [hdigest]
    exact h sealed hsealed
  · rw [hnone] at hsealed
    cases hsealed

theorem Attempt.Handed.eased (h : a.Handed s) (he : s.Eased s') : a.Handed s' where
  le := by
    rw [he.rotationCount]
    exact h.le
  spent := by
    rw [he.rotationCount]
    exact h.spent
  token := by
    intro hcount sealed hsealed
    rw [he.rotationCount] at hcount
    rcases he.credential with ⟨hsame, -⟩ | hnone
    · rw [hsame] at hsealed
      exact h.token hcount sealed hsealed
    · rw [hnone] at hsealed
      cases hsealed
  closed := fun hpersisted hrotated => he.revoked (h.closed hpersisted hrotated)

namespace Service

variable {m : Service} {d' : Store} {leaseId : String} {stage : AttemptStage} {now : Int}
  {row : SessionRow} {clock : Int} {d : Store}

theorem rotations_eq_zero {sessionId : String}
    (h : ∀ a ∈ m.attempts, a.input.sessionId ≠ sessionId) : m.rotations sessionId = 0 := by
  rw [rotations, countP_eq_zero]
  intro a ha hrotated
  rw [Bool.and_eq_true, decide_eq_true_eq] at hrotated
  exact h a ha hrotated.2

theorem Custody.effect (h : m.Custody) (he : m.store.Effect d') (hd' : d'.Lawful)
    (bearers : List BearerCall) : Custody ⟨d', m.attempts, bearers⟩ where
  lawful := hd'
  agrees := by
    intro s' hs'
    rcases he.origin hd' hs' with ⟨s, hs, heased⟩ | ⟨hnew, -⟩
    · exact (h.agrees s hs).eased heased
    · exact hnew.agrees
  leaseIds := h.leaseIds
  known := by
    intro a ha
    obtain ⟨s, hs, hid⟩ := h.known a ha
    obtain ⟨s', hs', hmove, -⟩ := he.row h.lawful hs
    exact ⟨s', hs', hmove.sameIdentity.sessionId.trans hid⟩
  holder := by
    intro s' hs' leaseId hlease
    rcases he.origin hd' hs' with ⟨s, hs, heased⟩ | ⟨hnew, -⟩
    · rw [heased.same.sessionId, heased.rotationCount]
      rcases heased.lease with hsame | hnone
      · exact h.holder s hs leaseId (hsame ▸ hlease)
      · rw [hnone] at hlease
        cases hlease
    · rw [hnew.unleased] at hlease
      cases hlease
  handed := by
    intro a ha s' hs' hid
    rcases he.origin hd' hs' with ⟨s, hs, heased⟩ | ⟨-, hfresh⟩
    · exact (h.handed a ha s hs (heased.same.sessionId.symm.trans hid)).eased heased
    · obtain ⟨s, hs, hold⟩ := h.known a ha
      exact absurd (hold.trans hid.symm) (hfresh s hs)
  sameToken := h.sameToken
  once := h.once
  counted := by
    intro s' hs'
    rcases he.origin hd' hs' with ⟨s, hs, heased⟩ | ⟨hnew, hfresh⟩
    · rw [heased.same.sessionId, heased.rotationCount]
      exact h.counted s hs
    · rw [hnew.unrotated]
      refine (rotations_eq_zero (m := ⟨d', m.attempts, bearers⟩) ?_).symm
      intro a ha hid
      obtain ⟨s, hs, hold⟩ := h.known a ha
      exact hfresh s hs (hold.trans hid)

/-! ## An attempt goes on -/

theorem setStage_cases {a' : Attempt} (h : a' ∈ (m.setStage leaseId stage).attempts) :
    (a' ∈ m.attempts ∧ a'.leaseId ≠ leaseId) ∨
      ∃ a ∈ m.attempts, a.leaseId = leaseId ∧ a' = { a with stage := stage } :=
  updateWhere_cases h

theorem setStage_mem (stage : AttemptStage) (ha : a ∈ m.attempts)
    (hid : a.leaseId = leaseId) : { a with stage := stage } ∈ (m.setStage leaseId stage).attempts :=
  mem_updateWhere_of_pos ha hid

theorem setStage_leaseIds (h : m.Custody) (leaseId : String) (stage : AttemptStage) :
    ((m.setStage leaseId stage).attempts.map Attempt.leaseId).Nodup := by
  have hkeys : (m.setStage leaseId stage).attempts.map Attempt.leaseId =
      m.attempts.map Attempt.leaseId := map_updateWhere fun _ _ => rfl
  rw [hkeys]
  exact h.leaseIds

theorem setStage_rotations (h : m.Custody) (ha : a ∈ m.attempts) (hpending : a.pending)
    (stage : AttemptStage) (sessionId : String) :
    (m.setStage a.leaseId stage).rotations sessionId = m.rotations sessionId +
      (({ a with stage := stage } : Attempt).rotated &&
        decide (a.input.sessionId = sessionId)).toNat := by
  have hcount := countP_updateWhere_of_key h.leaseIds ha
    (p := fun b : Attempt => b.leaseId = a.leaseId) (fun _ => Iff.rfl)
    (fun b => { b with stage := stage })
    fun b => b.rotated && decide (b.input.sessionId = sessionId)
  simp only [hpending.not_rotated, Bool.false_and, Bool.toNat_false, Nat.add_zero] at hcount
  exact hcount

/-- An attempt that goes on without a rotation leaves the custody as it is; one that came back
with something to persist must have ended the session. -/
theorem Custody.setStage (h : m.Custody) (ha : a ∈ m.attempts) (hpending : a.pending)
    (hrotated : ({ a with stage := stage } : Attempt).rotated = false)
    (hclosed : ({ a with stage := stage } : Attempt).persisted = true →
      ∀ s ∈ m.store.sessions, s.sessionId = a.input.sessionId → s.revokedAt ≠ none) :
    (m.setStage a.leaseId stage).Custody := by
  have horigin : ∀ b' ∈ (m.setStage a.leaseId stage).attempts,
      b' ∈ m.attempts ∨ b' = { a with stage := stage } := by
    intro b' hb'
    rcases setStage_cases hb' with ⟨hb, -⟩ | ⟨b, hb, hid, rfl⟩
    · exact .inl hb
    · rw [eq_of_key h.leaseIds hb ha hid]
      exact .inr rfl
  exact {
    lawful := h.lawful
    agrees := h.agrees
    leaseIds := setStage_leaseIds h a.leaseId stage
    known := by
      intro b' hb'
      rcases horigin b' hb' with hb | rfl
      · exact h.known b' hb
      · exact h.known a ha
    holder := by
      intro s hs leaseId hlease
      obtain ⟨b, hb, hid, hsession, hcount⟩ := h.holder s hs leaseId hlease
      by_cases hown : b.leaseId = a.leaseId
      · exact ⟨{ b with stage := stage }, setStage_mem stage hb hown, hid, hsession, hcount⟩
      · exact ⟨b, mem_updateWhere_of_neg hb hown, hid, hsession, hcount⟩
    handed := by
      intro b' hb' s hs hid
      rcases horigin b' hb' with hb | rfl
      · exact h.handed b' hb s hs hid
      · obtain ⟨hle, -, htoken, -⟩ := h.handed a ha s hs hid
        refine ⟨hle, ?_, htoken, fun hpersisted _ => hclosed hpersisted s hs hid⟩
        intro hspent
        rw [hrotated] at hspent
        cases hspent
    sameToken := by
      intro b' hb' c' hc'
      rcases horigin b' hb' with hb | rfl
      · rcases horigin c' hc' with hc | rfl
        · exact h.sameToken b' hb c' hc
        · exact h.sameToken b' hb a ha
      · rcases horigin c' hc' with hc | rfl
        · exact h.sameToken a ha c' hc
        · exact fun _ _ => rfl
    once := by
      intro b' hb' c' hc' hb'rotated hc'rotated
      rcases horigin b' hb' with hb | rfl
      · rcases horigin c' hc' with hc | rfl
        · exact h.once b' hb c' hc hb'rotated hc'rotated
        · rw [hrotated] at hc'rotated
          cases hc'rotated
      · rw [hrotated] at hb'rotated
        cases hb'rotated
    counted := by
      intro s hs
      rw [setStage_rotations h ha hpending stage, hrotated]
      exact h.counted s hs }

/-! ## A claim -/

theorem Custody.claimed (h : m.Custody) {refreshToken : String} (hrow : row ∈ m.store.sessions)
    (hsealed : row.refreshStateSealed.map SealedState.refreshToken = some refreshToken)
    {presentedDigest : String} {leaseExpiresAt : Int}
    (hfresh : ∀ a ∈ m.attempts, a.leaseId ≠ leaseId) (input : RefreshProviderSessionInput)
    (hinput : input.sessionId = row.sessionId)
    (hlawful : (m.store.setSessions (SessionRow.claimable now row.sessionId presentedDigest)
      (SessionRow.lease leaseId leaseExpiresAt)).Lawful) :
    Custody ⟨m.store.setSessions (SessionRow.claimable now row.sessionId presentedDigest)
        (SessionRow.lease leaseId leaseExpiresAt),
      m.attempts ++ [⟨leaseId, input, refreshToken, row.refreshRotationCount, .exchanging⟩],
      m.bearers⟩ := by
  generalize hattempt : (⟨leaseId, input, refreshToken, row.refreshRotationCount,
    .exchanging⟩ : Attempt) = attempt
  have hnew : attempt.input.sessionId = row.sessionId ∧ attempt.refreshToken = refreshToken ∧
      attempt.rotationCount = row.refreshRotationCount ∧ attempt.leaseId = leaseId ∧
      attempt.rotated = false ∧ attempt.persisted = false := by
    subst hattempt
    exact ⟨hinput, rfl, rfl, rfl, rfl, rfl⟩
  obtain ⟨hsession, htoken, hcount, hlease, hrotated, hpersisted⟩ := hnew
  have horigin : ∀ s' ∈ (m.store.setSessions
      (SessionRow.claimable now row.sessionId presentedDigest)
      (SessionRow.lease leaseId leaseExpiresAt)).sessions, s' ∈ m.store.sessions ∨
        s' = row.lease leaseId leaseExpiresAt := by
    intro s' hs'
    rcases updateWhere_cases hs' with ⟨hs, -⟩ | ⟨s, hs, hp, rfl⟩
    · exact .inl hs
    · rw [eq_of_key h.lawful.sessionKeys hs hrow hp.1]
      exact .inr rfl
  have hhanded : ∀ a ∈ m.attempts, a.input.sessionId = row.sessionId →
      a.rotationCount = row.refreshRotationCount → a.refreshToken = refreshToken := by
    intro a ha hid hsame
    obtain ⟨sealed, hs, rfl⟩ := Option.map_eq_some_iff.mp hsealed
    exact ((h.handed a ha row hrow hid.symm).token hsame sealed hs).symm
  exact {
    lawful := hlawful
    agrees := by
      intro s' hs'
      rcases horigin s' hs' with hs | rfl
      · exact h.agrees s' hs
      · exact h.agrees row hrow
    leaseIds := by
      refine nodup_key_insert h.leaseIds ?_
      intro a ha
      rw [hlease]
      exact hfresh a ha
    known := by
      intro a ha
      have hmoved : ∀ s ∈ m.store.sessions, s.sessionId = a.input.sessionId →
          ∃ s' ∈ (m.store.setSessions (SessionRow.claimable now row.sessionId presentedDigest)
            (SessionRow.lease leaseId leaseExpiresAt)).sessions,
            s'.sessionId = a.input.sessionId := by
        intro s hs hid
        by_cases hp : SessionRow.claimable now row.sessionId presentedDigest s
        · exact ⟨_, mem_updateWhere_of_pos hs hp, hid⟩
        · exact ⟨s, mem_updateWhere_of_neg hs hp, hid⟩
      rcases mem_append.mp ha with ha | ha
      · obtain ⟨s, hs, hid⟩ := h.known a ha
        exact hmoved s hs hid
      · rw [mem_singleton] at ha
        exact hmoved row hrow (by rw [ha, hsession])
    holder := by
      intro s' hs' l hl
      rcases updateWhere_cases hs' with ⟨hs, -⟩ | ⟨s, hs, hp, rfl⟩
      · obtain ⟨a, ha, hrest⟩ := h.holder s' hs l hl
        exact ⟨a, mem_append_left _ ha, hrest⟩
      · cases hl
        rw [eq_of_key h.lawful.sessionKeys hs hrow hp.1]
        exact ⟨attempt, mem_append_right _ (mem_singleton.mpr rfl), hlease, hsession, hcount⟩
    handed := by
      intro a ha s' hs' hid
      rcases mem_inserted ha with ha | rfl
      · rcases horigin s' hs' with hs | rfl
        · exact h.handed a ha s' hs hid
        · obtain ⟨hle, hspent, htoken, hclosed⟩ := h.handed a ha row hrow hid
          exact ⟨hle, hspent, htoken, hclosed⟩
      · have hown : s'.refreshRotationCount = row.refreshRotationCount ∧
            s'.refreshStateSealed = row.refreshStateSealed := by
          rcases horigin s' hs' with hs | rfl
          · rw [eq_of_key h.lawful.sessionKeys hs hrow (hid.trans hsession)]
            exact ⟨rfl, rfl⟩
          · exact ⟨rfl, rfl⟩
        refine ⟨by omega, ?_, ?_, ?_⟩
        · intro hspent
          rw [hrotated] at hspent
          cases hspent
        · intro _ sealed hs
          rw [hown.2, Option.mem_def] at hs
          rw [hs, Option.map_some, Option.some.injEq] at hsealed
          rw [hsealed, htoken]
        · intro hclosed
          rw [hpersisted] at hclosed
          cases hclosed
    sameToken := by
      intro a ha b hb hid hsame
      rcases mem_append.mp ha with hold | hnew
      · rcases mem_append.mp hb with hold' | hnew
        · exact h.sameToken a hold b hold' hid hsame
        · rw [mem_singleton] at hnew
          rw [hnew] at hid hsame
          rw [hnew, htoken]
          exact hhanded a hold (hid.trans hsession) (hsame.trans hcount)
      · rw [mem_singleton] at hnew
        rw [hnew] at hid hsame
        rcases mem_append.mp hb with hold | hnew'
        · rw [hnew, htoken]
          exact (hhanded b hold (hid.symm.trans hsession) (hsame.symm.trans hcount)).symm
        · rw [mem_singleton] at hnew'
          rw [hnew, hnew']
    once := by
      intro a ha b hb harotated hbrotated
      rcases mem_append.mp ha with ha | ha
      · rcases mem_append.mp hb with hb | hb
        · exact h.once a ha b hb harotated hbrotated
        · rw [mem_singleton] at hb
          rw [hb, hrotated] at hbrotated
          cases hbrotated
      · rw [mem_singleton] at ha
        rw [ha, hrotated] at harotated
        cases harotated
    counted := by
      intro s' hs'
      have hnone : ∀ sessionId, (Service.mk (m.store.setSessions
          (SessionRow.claimable now row.sessionId presentedDigest)
          (SessionRow.lease leaseId leaseExpiresAt)) (m.attempts ++ [attempt])
          m.bearers).rotations sessionId = m.rotations sessionId := by
        intro sessionId
        rw [rotations, rotations, countP_append, countP_singleton, hrotated]
        rfl
      rw [hnone]
      rcases horigin s' hs' with hs | rfl
      · exact h.counted s' hs
      · exact h.counted row hrow }

/-! ## A rotation -/

/-- A rotation replaces the token its attempt was handed, and leaves every other attempt
behind. -/
theorem Custody.rotate (h : m.Custody) (ha : a ∈ m.attempts) (hpending : a.pending)
    (hrow : row ∈ m.store.sessions) {rotation : Rotation} (happlies : rotation.applies now row)
    (hlease : rotation.expectedLeaseId = a.leaseId)
    (hrotated : ({ a with stage := stage } : Attempt).rotated = true) {events : List SessionEvent}
    (hd' : d' = { m.store.setSessions (rotation.applies now) (rotation.apply now clock) with
      events := events })
    (hlawful : d'.Lawful) : Custody { m.setStage a.leaseId stage with store := d' } := by
  subst hd'
  obtain ⟨b, hb, hid, hsession, hcount⟩ := h.holder row hrow a.leaseId (hlease ▸ happlies.2.2.2.2)
  have hsame : b = a := eq_of_key h.leaseIds hb ha hid
  subst hsame
  have hlive : row.revokedAt = none := happlies.2.2.1
  have horigin : ∀ c' ∈ (m.setStage b.leaseId stage).attempts,
      (c' ∈ m.attempts ∧ c'.leaseId ≠ b.leaseId) ∨ c' = { b with stage := stage } := by
    intro c' hc'
    rcases setStage_cases hc' with hc | ⟨c, hc, hkey, rfl⟩
    · exact .inl hc
    · rw [eq_of_key h.leaseIds hc hb hkey]
      exact .inr rfl
  have hmoved : ∀ s' ∈ (m.store.setSessions (rotation.applies now)
      (rotation.apply now clock)).sessions,
      (s' ∈ m.store.sessions ∧ s'.sessionId ≠ row.sessionId) ∨
        s' = rotation.apply now clock row := by
    intro s' hs'
    rcases updateWhere_cases hs' with ⟨hs, hp⟩ | ⟨s, hs, hp, rfl⟩
    · refine .inl ⟨hs, fun hkey => hp ?_⟩
      rw [eq_of_key h.lawful.sessionKeys hs hrow hkey]
      exact happlies
    · rw [eq_of_key h.lawful.sessionKeys hs hrow (hp.1.trans happlies.1.symm)]
      exact .inr rfl
  exact {
    lawful := hlawful
    agrees := by
      intro s' hs'
      rcases hmoved s' hs' with ⟨hs, -⟩ | rfl
      · exact h.agrees s' hs
      · intro sealed hsealed
        cases hsealed
        rfl
    leaseIds := setStage_leaseIds h b.leaseId stage
    known := by
      intro c' hc'
      have hknown : ∀ c ∈ m.attempts, ∃ s' ∈ (m.store.setSessions (rotation.applies now)
          (rotation.apply now clock)).sessions, s'.sessionId = c.input.sessionId := by
        intro c hc
        obtain ⟨s, hs, hkey⟩ := h.known c hc
        by_cases hp : rotation.applies now s
        · exact ⟨_, mem_updateWhere_of_pos hs hp, hkey⟩
        · exact ⟨s, mem_updateWhere_of_neg hs hp, hkey⟩
      rcases horigin c' hc' with ⟨hc, -⟩ | rfl
      · exact hknown c' hc
      · exact hknown b hb
    holder := by
      intro s' hs' l hl
      rcases hmoved s' hs' with ⟨hs, -⟩ | rfl
      · obtain ⟨c, hc, hkey, hrest⟩ := h.holder s' hs l hl
        by_cases hown : c.leaseId = b.leaseId
        · exact ⟨{ c with stage := stage }, setStage_mem stage hc hown, hkey, hrest⟩
        · exact ⟨c, mem_updateWhere_of_neg hc hown, hkey, hrest⟩
      · cases hl
    handed := by
      intro c' hc' s' hs' hkey
      rcases hmoved s' hs' with ⟨hs, hother⟩ | rfl
      · rcases horigin c' hc' with ⟨hc, -⟩ | rfl
        · exact h.handed c' hc s' hs hkey
        · exact absurd (hkey.trans hsession) hother
      · rcases horigin c' hc' with ⟨hc, -⟩ | rfl
        · obtain ⟨hle, -, -, hclosed⟩ := h.handed c' hc row hrow hkey
          have hbehind : c'.rotationCount < row.refreshRotationCount + 1 := Nat.lt_succ_of_le hle
          refine ⟨Nat.le_of_lt hbehind, fun _ => hbehind, ?_, ?_⟩
          · intro heq
            exact absurd heq (Nat.ne_of_lt hbehind)
          · intro hpersisted hunrotated
            exact absurd hlive (hclosed hpersisted hunrotated)
        · have hbehind : b.rotationCount < row.refreshRotationCount + 1 := by omega
          refine ⟨Nat.le_of_lt hbehind, fun _ => hbehind, ?_, ?_⟩
          · intro heq
            exact absurd heq (Nat.ne_of_lt hbehind)
          · intro _ hunrotated
            rw [hrotated] at hunrotated
            cases hunrotated
    sameToken := by
      intro c' hc' e' he'
      rcases horigin c' hc' with ⟨hc, -⟩ | rfl
      · rcases horigin e' he' with ⟨he, -⟩ | rfl
        · exact h.sameToken c' hc e' he
        · exact h.sameToken c' hc b hb
      · rcases horigin e' he' with ⟨he, -⟩ | rfl
        · exact h.sameToken b hb e' he
        · exact fun _ _ => rfl
    once := by
      -- an attempt that rotated before was handed an earlier credential
      have hearlier : ∀ c ∈ m.attempts, c.rotated = true → c.input.sessionId = b.input.sessionId →
          c.rotationCount ≠ b.rotationCount := by
        intro c hc hspent hkey
        have hlt := (h.handed c hc row hrow (hsession.symm.trans hkey.symm)).spent hspent
        omega
      intro c' hc' e' he' hcrotated herotated hkey hcount'
      rcases horigin c' hc' with ⟨hc, -⟩ | rfl
      · rcases horigin e' he' with ⟨he, -⟩ | rfl
        · exact h.once c' hc e' he hcrotated herotated hkey hcount'
        · exact absurd hcount' (hearlier c' hc hcrotated hkey)
      · rcases horigin e' he' with ⟨he, -⟩ | rfl
        · exact absurd hcount'.symm (hearlier e' he herotated hkey.symm)
        · rfl
    counted := by
      intro s' hs'
      have hrotations := setStage_rotations h hb hpending stage s'.sessionId
      rw [hrotated, Bool.true_and] at hrotations
      refine Eq.trans ?_ hrotations.symm
      rcases hmoved s' hs' with ⟨hs, hother⟩ | rfl
      · rw [decide_eq_false (fun hkey => hother (hkey.symm.trans hsession))]
        exact h.counted s' hs
      · have hrow' : (rotation.apply now clock row).sessionId = row.sessionId := rfl
        rw [hrow', decide_eq_true hsession, ← h.counted row hrow]
        rfl }

/-! ## One event -/

theorem inTime_iff (hd : d.Lawful) (hs : s ∈ d.sessions) :
    d.inTime now s.sessionId = true ↔ now < s.expiresAt := by
  rw [Store.inTime, hd.session_of_mem hs, Option.any_some, decide_eq_true_eq]

/-- What a last phase that was let through leaves of the custody. -/
theorem Custody.settled (h : m.Custody) (ha : a ∈ m.attempts) {settlement : Settlement}
    (hstage : a.stage = .settling settlement) {outcome : RefreshSessionOutcome}
    (hok : settleRefreshAttempt now clock a.input a.leaseId a.refreshToken m.store settlement =
      .ok (outcome, d')) : Custody { m.setStage a.leaseId
        (.settled settlement (m.store.inTime now a.input.sessionId) outcome) with store := d' } := by
  have hpending : a.pending := .inr ⟨settlement, hstage⟩
  cases settlement with
  | revoke reason =>
    obtain ⟨rfl, rows, hrows⟩ := revokeWithin_eq_ok hok
    obtain ⟨heffect, hlawful⟩ := revokeSessionsWithin_effect hrows
    refine (h.effect heffect hlawful m.bearers).setStage ha hpending rfl ?_
    intro hpersisted
    cases hpersisted
  | release =>
    obtain ⟨d₁, hrelease, hok⟩ := bind_eq_ok.mp hok
    cases hok
    obtain ⟨hlawful, hd'⟩ := Store.write_eq_ok.mp hrelease
    have heffect : m.store.Effect d' := by
      rw [← hd']
      refine .moves _ inferInstance _ rfl ?_ fun _ => rfl
      intro s _ hs
      exact ⟨.unlease a.leaseId hs.2, ⟨rfl, rfl, rfl⟩, .unlease s⟩
    refine (h.effect heffect (hd' ▸ hlawful) m.bearers).setStage ha hpending rfl ?_
    intro hpersisted
    cases hpersisted
  | persist refreshed verified =>
    rcases persistRefreshedState_cases h.lawful hok with ⟨hnone, rfl, rfl⟩ |
      ⟨row, reason, rows, hrow, rfl, hrows⟩ |
      ⟨row, rotation, hrow, hrotation, -, happlies, rfl, ⟨facts, -, rfl⟩, hlawful⟩
    · refine h.setStage ha hpending rfl ?_
      intro hpersisted s hs hid
      have hinTime : m.store.inTime now a.input.sessionId = true := by
        cases hin : m.store.inTime now a.input.sessionId with
        | true => rfl
        | false =>
          rw [hin] at hpersisted
          cases hpersisted
      rw [← hid, inTime_iff h.lawful hs] at hinTime
      rcases liveSession_eq_none hnone hs hid with hrevoked | hexpired
      · exact hrevoked
      · exact absurd hinTime (Int.not_lt.mpr hexpired)
    · obtain ⟨heffect, hlawful⟩ := revokeSessionsWithin_effect hrows
      refine (h.effect heffect hlawful m.bearers).setStage ha hpending rfl ?_
      intro _ s hs hid
      obtain ⟨hmem, hkey, hlive, hunexpired⟩ := of_liveSession hrow
      obtain ⟨d₁, hwrite, hrest⟩ := bind_eq_ok.mp hrows
      obtain ⟨-, rfl⟩ := Store.write_eq_ok.mp hwrite
      cases hrest
      rcases updateWhere_cases hs with ⟨hold, hmissed⟩ | ⟨old, -, -, rfl⟩
      · refine fun hunrevoked => hmissed ⟨?_, hunrevoked⟩
        exact hid
      · intro hnone
        cases hnone
    · obtain ⟨hmem, -, -, -⟩ := of_liveSession hrow
      exact h.rotate ha hpending hmem happlies (by rw [hrotation, rotationOf]) rfl rfl
        (hlawful.trail _ _ _)

theorem settle_custody (h : m.Custody) (now clock : Int) (leaseId : String) :
    (m.settle now clock leaseId).1.Custody := by
  unfold settle
  split
  · rename_i a hattempt
    obtain ⟨ha, rfl⟩ := of_find?_eq_some hattempt
    split
    · rename_i settlement hstage
      split
      · rename_i outcome d hok
        exact h.settled ha hstage hok
      refine h.setStage ha (.inr ⟨settlement, hstage⟩) rfl ?_
      intro hpersisted
      cases hpersisted
    · exact h
    · exact h
    · exact h
  · exact h

theorem exchanged_custody (h : m.Custody) (leaseId : String) (exchange : Exchange) :
    (m.exchanged leaseId exchange).1.Custody := by
  unfold exchanged
  split
  · rename_i a hattempt
    obtain ⟨ha, rfl⟩ := of_find?_eq_some hattempt
    split
    · rename_i hstage
      refine h.setStage ha (.inl hstage) rfl ?_
      intro hpersisted
      cases hpersisted
    · exact h
  · exact h

theorem claim_custody (h : m.Custody) (now clock : Int) (newLeaseId : String)
    (input : RefreshProviderSessionInput) : (m.claim now clock newLeaseId input).1.Custody := by
  unfold claim
  split
  · exact h
  rename_i hfresh
  have hfresh : ∀ a ∈ m.attempts, a.leaseId ≠ newLeaseId := by simpa using hfresh
  split
  · rename_i leaseId refreshToken d hok
    rcases claimRefreshAttempt_cases hok with
      ⟨row, token, expiry, hrow, hclaim, hsealed, -, rfl, hlawful⟩ | ⟨outcome, hclaim, -, -⟩
    · cases hclaim
      obtain ⟨hmem, hid, -, -⟩ := of_liveSession hrow
      rw [← hid] at hlawful ⊢
      rw [h.lawful.session_of_mem hmem]
      exact h.claimed hmem hsealed hfresh input hid.symm hlawful
    · cases hclaim
  · rename_i outcome d hok
    obtain ⟨heffect, hlawful, -⟩ := claimRefreshAttempt_closed h.lawful hok
    exact h.effect heffect hlawful m.bearers
  · exact h

theorem perform_attempts {α : Type} (m : Service) (r : Except Raise (α × Store))
    (answer : α → Answer) : (m.perform r answer).1.attempts = m.attempts := by
  unfold perform
  split
  · rfl
  · rfl

theorem next_attempts (m : Service) {e : Event} (he : e.refreshes = false)
    (hexchanged : ∀ leaseId exchange, e ≠ .exchanged leaseId exchange) :
    (m.next e).attempts = m.attempts := by
  cases e with
  | createSession | validate | revoke | startReauthentication | administer =>
    exact perform_attempts m _ _
  | revalidate => rfl
  | bearerCalled callId input =>
    simp only [next, step, bearerCalled]
    split
    · rfl
    · rfl
  | bearerGoesOn callId now clock newSessionId =>
    simp only [next, step, bearerGoesOn]
    split
    · split
      · rfl
      · split
        · rfl
        · rfl
    · rfl
  | exchanged leaseId exchange => exact absurd rfl (hexchanged leaseId exchange)
  | claim | settle => cases he

theorem next_custody (h : m.Custody) (e : Event) : (m.next e).Custody := by
  by_cases hexchanged : ∃ leaseId exchange, e = .exchanged leaseId exchange
  · obtain ⟨leaseId, exchange, rfl⟩ := hexchanged
    exact exchanged_custody h leaseId exchange
  cases he : e.refreshes with
  | false =>
    have hstep := step_effect h.lawful e he
    have hattempts := next_attempts m he
      fun leaseId exchange heq => hexchanged ⟨leaseId, exchange, heq⟩
    have hcustody := h.effect hstep.effect hstep.lawful (m.next e).bearers
    rw [← hattempts] at hcustody
    exact hcustody
  | true =>
    cases e with
    | claim now clock newLeaseId input => exact claim_custody h now clock newLeaseId input
    | settle now clock leaseId => exact settle_custody h now clock leaseId
    | createSession | validate | revalidate | revoke | bearerCalled | bearerGoesOn | exchanged
    | startReauthentication | administer => cases he

theorem start_custody (hd : d.Lawful) (hnone : d.sessions = []) :
    (Service.start d).Custody := by
  refine ⟨hd, ?_, nodup_nil, ?_, ?_, ?_, ?_, ?_, ?_⟩
  · simp [start, hnone]
  · simp [start]
  · simp [start, hnone]
  · simp [start]
  · simp [start]
  · simp [start]
  · simp [start, hnone]

theorem run_custody (hd : d.Lawful) (hnone : d.sessions = []) (events : List Event) :
    (run Service.next (.start d) events).Custody :=
  run_invariant (I := Custody) (fun _ e h => next_custody h e) (start_custody hd hnone) events

/-! ## Who hands a credential on -/

theorem settleRefreshAttempt_rotates (hd : d.Lawful) {input : RefreshProviderSessionInput}
    {refreshToken : String} {settlement : Settlement} {outcome : RefreshSessionOutcome}
    (h : settleRefreshAttempt now clock input leaseId refreshToken d settlement =
      .ok (outcome, d')) :
    d.Effect d' ∨ ∃ refreshed verified row rotation,
      settlement = .persist refreshed verified ∧ row ∈ d.sessions ∧
        rotation = rotationOf input leaseId refreshToken row refreshed verified ∧
        rotation.applies now row ∧
        d'.sessions = updateWhere (rotation.applies now) (rotation.apply now clock) d.sessions := by
  cases settlement with
  | revoke reason =>
    rcases (settleRefreshAttempt_changes hd h).1 with heffect | ⟨-, session, count, houtcome⟩
    · exact .inl heffect
    · rw [(revokeWithin_eq_ok h).1] at houtcome
      cases houtcome
  | release =>
    rcases (settleRefreshAttempt_changes hd h).1 with heffect | ⟨-, session, count, houtcome⟩
    · exact .inl heffect
    · obtain ⟨d₁, -, h⟩ := bind_eq_ok.mp h
      cases h
      cases houtcome
  | persist refreshed verified =>
    rcases persistRefreshedState_cases hd h with ⟨-, -, rfl⟩ | ⟨row, reason, rows, -, -, hrows⟩ |
      ⟨row, rotation, hrow, hrotation, -, happlies, -, ⟨facts, -, rfl⟩, -⟩
    · exact .inl (.keeps rfl fun _ => rfl)
    · exact .inl (revokeSessionsWithin_effect hrows).1
    · exact .inr ⟨refreshed, verified, row, rotation, rfl, (of_liveSession hrow).1, hrotation,
        happlies, rfl⟩

/-- A row after an event holds a credential it did not hold before. -/
def HandedOn (s s' : SessionRow) : Prop :=
  s'.refreshRotationCount ≠ s.refreshRotationCount ∨
    s'.refreshStateSealed ≠ s.refreshStateSealed ∧ s'.refreshStateSealed ≠ none

theorem not_handedOn_of_eased (h : s.Eased s') : ¬ HandedOn s s' := by
  rintro (hcount | ⟨hother, hsome⟩)
  · exact hcount h.rotationCount
  · rcases h.credential with ⟨hsame, -⟩ | hnone
    · exact hother hsame
    · exact hsome hnone

/-- The event is the last phase of the attempt that holds the lease of the row, and what it
replaces is the token that attempt was handed. -/
def Rotates (m : Service) (e : Event) (s s' : SessionRow) : Prop :=
  ∃ a ∈ m.attempts, ∃ now clock refreshed verified, e = .settle now clock a.leaseId ∧
    a.stage = .settling (.persist refreshed verified) ∧
    s.refreshLeaseId = some a.leaseId ∧ s.sessionId = a.input.sessionId ∧
    s.refreshStateSealed.map SealedState.refreshToken = some a.refreshToken ∧
    s.refreshTokenHash = some (hashSessionToken a.refreshToken) ∧
    s'.refreshStateSealed.map SealedState.refreshToken = some refreshed.refreshToken ∧
    s'.refreshTokenHash = some (hashSessionToken refreshed.refreshToken) ∧
    s'.refreshRotationCount = s.refreshRotationCount + 1 ∧ s'.refreshLeaseId = none

theorem Custody.not_handedOn (h : m.Custody) (he : m.store.Effect d') (hd' : d'.Lawful)
    (hs : s ∈ m.store.sessions) (hs' : s' ∈ d'.sessions) (hid : s'.sessionId = s.sessionId) :
    ¬ HandedOn s s' := by
  rcases he.origin hd' hs' with ⟨r, hr, heased⟩ | ⟨-, hfresh⟩
  · rw [← eq_of_key h.lawful.sessionKeys hr hs (heased.same.sessionId.symm.trans hid)]
    exact not_handedOn_of_eased heased
  · exact absurd hid.symm (hfresh s hs)

theorem Custody.of_rotation (h : m.Custody) (ha : a ∈ m.attempts)
    {refreshed : ProviderRefreshResult} {verified : VerifiedAccessToken}
    (hstage : a.stage = .settling (.persist refreshed verified)) (hs : s ∈ m.store.sessions)
    {rotation : Rotation} (hrotation : rotation =
      rotationOf a.input a.leaseId a.refreshToken row refreshed verified)
    (happlies : rotation.applies now s) (clock : Int) :
    m.Rotates (.settle now clock a.leaseId) s (rotation.apply now clock s) := by
  subst hrotation
  obtain ⟨hsession, hdigest, -, -, hlease⟩ := happlies
  obtain ⟨b, hb, hid, -, hcount⟩ := h.holder s hs a.leaseId hlease
  have hsame : b = a := eq_of_key h.leaseIds hb ha hid
  subst hsame
  have hsealed : s.refreshStateSealed.map SealedState.refreshToken = some b.refreshToken := by
    obtain ⟨sealed, hs'⟩ := Option.isSome_iff_exists.mp
      ((h.lawful.sessionChecked s hs).leaseNeedsState (by rw [hlease]; rfl))
    rw [hs', Option.map_some, (h.handed b hb s hs hsession).token hcount sealed hs']
  exact ⟨b, hb, now, clock, refreshed, verified, rfl, hstage, hlease, hsession, hsealed, hdigest,
    rfl, rfl, rfl, rfl⟩

theorem Custody.rotates (h : m.Custody) (e : Event) (hs : s ∈ m.store.sessions)
    (hs' : s' ∈ (m.next e).store.sessions) (hid : s'.sessionId = s.sessionId)
    (hhanded : HandedOn s s') : m.Rotates e s s' := by
  have hnext := next_custody h e
  cases he : e.refreshes with
  | false =>
    exact absurd hhanded (h.not_handedOn (step_effect h.lawful e he).effect hnext.lawful hs hs' hid)
  | true =>
    cases e with
    | createSession | validate | revalidate | revoke | bearerCalled | bearerGoesOn | exchanged
    | startReauthentication | administer => cases he
    | claim now clock newLeaseId input =>
      exfalso
      simp only [next, step, claim] at hs'
      split at hs'
      · exact h.not_handedOn (.keeps rfl fun _ => rfl) h.lawful hs hs' hid hhanded
      split at hs'
      · rename_i leaseId refreshToken d hok
        rcases claimRefreshAttempt_cases hok with
          ⟨row, token, expiry, -, -, -, -, rfl, -⟩ | ⟨outcome, hclaim, -, -⟩
        · have hsame : s'.refreshRotationCount = s.refreshRotationCount ∧
              s'.refreshStateSealed = s.refreshStateSealed := by
            rcases updateWhere_cases hs' with ⟨hold, -⟩ | ⟨r, hr, -, rfl⟩
            · rw [eq_of_key h.lawful.sessionKeys hold hs hid]
              exact ⟨rfl, rfl⟩
            · rw [← eq_of_key h.lawful.sessionKeys hr hs hid]
              exact ⟨rfl, rfl⟩
          rcases hhanded with hcount | ⟨hother, -⟩
          · exact hcount hsame.1
          · exact hother hsame.2
        · cases hclaim
      · rename_i outcome d hok
        obtain ⟨heffect, hlawful, -⟩ := claimRefreshAttempt_closed h.lawful hok
        exact h.not_handedOn heffect hlawful hs hs' hid hhanded
      · exact h.not_handedOn (.keeps rfl fun _ => rfl) h.lawful hs hs' hid hhanded
    | settle now clock leaseId =>
      have hkept : s' ∉ m.store.sessions := fun hold =>
        h.not_handedOn (.keeps rfl fun _ => rfl) h.lawful hs hold hid hhanded
      simp only [next, step, settle] at hs'
      split at hs'
      · rename_i a hattempt
        obtain ⟨ha, rfl⟩ := of_find?_eq_some hattempt
        split at hs'
        · rename_i settlement hstage
          split at hs'
          · rename_i outcome d' hok
            rcases settleRefreshAttempt_rotates h.lawful hok with
              heffect | ⟨refreshed, verified, row, rotation, rfl, hrow, hrotation, happlies, hd'⟩
            · exact absurd hhanded (h.not_handedOn heffect
                (settleRefreshAttempt_changes h.lawful hok).2.1 hs hs' hid)
            · rw [hd'] at hs'
              rcases updateWhere_cases hs' with ⟨hold, -⟩ | ⟨r, hr, hp, rfl⟩
              · exact absurd hold hkept
              · have hsame : r = s := eq_of_key h.lawful.sessionKeys hr hs hid
                subst hsame
                exact h.of_rotation ha hstage hr hrotation hp clock
          · exact absurd hs' hkept
        · exact absurd hs' hkept
        · exact absurd hs' hkept
        · exact absurd hs' hkept
      · exact absurd hs' hkept

/-! ## A transient failure -/

theorem checked_unlease (h : s.Checked) : s.unlease.Checked where
  expires := h.expires
  versioned := h.versioned
  keyVersionPositive := h.keyVersionPositive
  hasDigest := h.hasDigest
  leasePaired := rfl
  leaseNeedsState := by
    intro hs
    cases hs
  revokedHoldsNone := h.revokedHoldsNone
  cookieKey := h.cookieKey
  bearerKey := h.bearerKey
  bearerHoldsNone := h.bearerHoldsNone
  bearerNoExpiry := h.bearerNoExpiry
  liveBound := h.liveBound

/-- What an attempt does whose exchange timed out or failed transiently: it is over, and the
rows that lose a lease are those of its own session that hold its own. -/
def released (m : Service) (now : Int) (a : Attempt) : Service :=
  { m.setStage a.leaseId (.settled .release (m.store.inTime now a.input.sessionId) .transient) with
    store := m.store.setSessions
      (fun s => s.sessionId = a.input.sessionId ∧ s.refreshLeaseId = some a.leaseId)
      SessionRow.unlease }

theorem Custody.attempt_eq (h : m.Custody) (ha : a ∈ m.attempts) : m.attempt a.leaseId = some a :=
  find?_eq_some_of_key h.leaseIds ha

theorem Custody.next_released (h : m.Custody) (ha : a ∈ m.attempts)
    (hstage : a.stage = .settling (Exchange.failed .transient).settlement) (now clock : Int) :
    m.next (.settle now clock a.leaseId) = m.released now a := by
  have hlawful : (m.store.setSessions
      (fun s => s.sessionId = a.input.sessionId ∧ s.refreshLeaseId = some a.leaseId)
      SessionRow.unlease).Lawful :=
    h.lawful.setSessions (fun s _ => (SessionRow.Eased.unlease s).same)
      fun s hs _ => checked_unlease (h.lawful.sessionChecked s hs)
  have hrelease := Store.write_eq_ok.mpr ⟨hlawful, rfl⟩
  simp only [next, step, settle, h.attempt_eq ha, hstage, Exchange.settlement,
    settleRefreshAttempt, releaseRefreshLease, hrelease]
  rfl

/-! ## Refreshing never forks a credential -/

/-- A session goes on as the same session, and it never lives longer nor forgets how recently
its user signed in. -/
structure Onward (s s' : SessionRow) : Prop where
  same : s.SameIdentity s'
  expiresAt : s'.expiresAt ≤ s.expiresAt
  authTime : s.authTime ≤ s'.authTime

theorem run_onward (h : m.Custody) (hs : s ∈ m.store.sessions) (later : List Event) :
    ∃ s' ∈ (run Service.next m later).store.sessions, Onward s s' := by
  induction later generalizing m s with
  | nil => exact ⟨s, hs, .refl s, Int.le_refl _, Int.le_refl _⟩
  | cons e later ih =>
    obtain ⟨s₁, hs₁, hmove, -⟩ := (step_stepped h.lawful e).effect.row h.lawful hs
    obtain ⟨s₂, hs₂, hsame, hexpiresAt, hauthTime⟩ := ih (next_custody h e) hs₁
    exact ⟨s₂, hs₂, hmove.sameIdentity.trans hsame, Int.le_trans hexpiresAt hmove.expiresAt_le,
      Int.le_trans hmove.le_authTime hauthTime⟩

structure Unforked (m : Service) : Prop where
  /-- The sealed token and the digest of a row denote one token. -/
  oneToken : ∀ s ∈ m.store.sessions, ∀ sealed ∈ s.refreshStateSealed,
    s.refreshTokenHash = some (hashSessionToken sealed.refreshToken)
  /-- A credential is replaced by the attempt that holds the lease of its row, and it is the one
  that attempt was handed. -/
  rotates : ∀ e, ∀ s ∈ m.store.sessions, ∀ s' ∈ (m.next e).store.sessions,
    s'.sessionId = s.sessionId → HandedOn s s' → m.Rotates e s s'
  /-- Attempts that were handed a credential between the same two rotations were handed the same
  token. -/
  sameToken : ∀ a ∈ m.attempts, ∀ b ∈ m.attempts, a.input.sessionId = b.input.sessionId →
    a.rotationCount = b.rotationCount → a.refreshToken = b.refreshToken
  /-- Two of them that come back with an answer while the session lasts end it. -/
  handedTwice : ∀ a ∈ m.attempts, ∀ b ∈ m.attempts, a ≠ b →
    a.input.sessionId = b.input.sessionId → a.rotationCount = b.rotationCount →
    a.persisted = true → b.persisted = true →
    ∀ s ∈ m.store.sessions, s.sessionId = a.input.sessionId → s.revokedAt ≠ none
  /-- An attempt that times out or fails transiently gives its own lease back. -/
  released : ∀ a ∈ m.attempts, a.stage = .settling (Exchange.failed .transient).settlement →
    ∀ now clock, m.next (.settle now clock a.leaseId) = m.released now a
  counted : ∀ s ∈ m.store.sessions, s.refreshRotationCount = m.rotations s.sessionId
  onward : ∀ later, ∀ s ∈ m.store.sessions,
    ∃ s' ∈ (run Service.next m later).store.sessions, Onward s s'

theorem Custody.unforked (h : m.Custody) : m.Unforked where
  oneToken := h.agrees
  rotates := fun e _ hs _ hs' => h.rotates e hs hs'
  sameToken := h.sameToken
  handedTwice := by
    intro a ha b hb hne hsession hcount hpersisted hpersisted' s hs hid
    cases hrotated : a.rotated with
    | false => exact (h.handed a ha s hs hid).closed hpersisted hrotated
    | true =>
      cases hrotated' : b.rotated with
      | false => exact (h.handed b hb s hs (hid.trans hsession)).closed hpersisted' hrotated'
      | true => exact absurd (h.once a ha b hb hrotated hrotated' hsession hcount) hne
  released := fun _ ha hstage now clock => h.next_released ha hstage now clock
  counted := h.counted
  onward := fun later _ hs => run_onward h hs later

end Service

/-- Whatever calls interleave, phase by phase, no credential is forked. -/
theorem refreshing_never_forks (d : Store) (hd : d.Lawful) (hnone : d.sessions = [])
    (events : List Event) : (run Service.next (.start d) events).Unforked :=
  (Service.run_custody hd hnone events).unforked

namespace Office

/-- The provider is slow: its lease runs out, another attempt is handed the same token and is
answered first. -/
def overtaken : List Event :=
  [.createSession 1000 1000 "S" "cookie" login,
    .claim 60000 60000 "L" (maintained.refresh 60000),
    .claim 90000 90000 "M" (maintained.refresh 90000),
    .exchanged "M" (.answered reply verified), .settle 91000 91000 "M",
    .exchanged "L" (.answered { reply with refreshToken := "third" } verified),
    .settle 92000 92000 "L"]

/-- Two attempts are handed the token shortly before the session expires, and both are answered
after it has. -/
def overdue : List Event :=
  [.createSession 1000 1000 "S" "cookie" login,
    .claim 3560000 3560000 "L" (maintained.refresh 3560000),
    .claim 3590000 3590000 "M" (maintained.refresh 3590000),
    .exchanged "M" (.answered reply verified), .settle 3602000 3602000 "M",
    .exchanged "L" (.answered { reply with refreshToken := "third" } verified),
    .settle 3603000 3603000 "L"]

/-- The provider answers with the token it was given, and the session is refreshed again. -/
def unchanged : List Event :=
  [.createSession 1000 1000 "S" "cookie" login,
    .claim 60000 60000 "L" (maintained.refresh 60000),
    .exchanged "L" (.answered { reply with refreshToken := "first" } verified),
    .settle 61000 61000 "L",
    .claim 880000 880000 "M" (maintained.refresh 880000),
    .exchanged "M" (.answered reply verified), .settle 881000 881000 "M"]

end Office

/-- The attempt came back with an answer to persist, in time or not. -/
def Attempt.answered (a : Attempt) : Bool :=
  match a.stage with
  | .settled (.persist _ _) _ _ => true
  | .exchanging | .settling _ | .settled _ _ _ | .abandoned => false

/-- Two attempts that were handed the same text and come back with an answer end the session. -/
def Service.AnsweredTwiceEnds (m : Service) : Prop :=
  ∀ a ∈ m.attempts, ∀ b ∈ m.attempts, a ≠ b → a.input.sessionId = b.input.sessionId →
    a.refreshToken = b.refreshToken → a.answered = true → b.answered = true →
    ∀ s ∈ m.store.sessions, s.sessionId = a.input.sessionId → s.revokedAt ≠ none

instance Service.instDecidableAnsweredTwiceEnds (m : Service) : Decidable m.AnsweredTwiceEnds := by
  unfold Service.AnsweredTwiceEnds
  refine @List.decidableBAll _ _ (fun a => @List.decidableBAll _ _ (fun b => ?_) _) _
  iterate 5 refine @instDecidableForall _ _ inferInstance ?_
  refine @List.decidableBAll _ _ (fun s => ?_) _
  exact @instDecidableForall _ _ inferInstance inferInstance

/-- An attempt answered after the session's expiry leaves it as it is, and a provider that
answers with the token it was given may be asked with it again. -/
theorem answered_twice_and_live :
    ¬ (run Service.next (.start Office.store) Office.overdue).AnsweredTwiceEnds ∧
      ¬ (run Service.next (.start Office.store) Office.unchanged).AnsweredTwiceEnds := by
  decide +kernel

/-- The overtaken attempt ends the session. -/
theorem overtaken_ends_the_session :
    (run Service.next (.start Office.store) Office.overtaken).Unforked ∧
      (run Service.next (.start Office.store) Office.overtaken).attempts.map
        (fun a => (a.leaseId, a.refreshToken, a.rotationCount, a.rotated, a.persisted)) =
          [("L", "first", 0, false, true), ("M", "first", 0, true, true)] ∧
      (run Service.next (.start Office.store) Office.overtaken).store.sessions.map
        (fun s => (s.revokedAt, s.refreshRotationCount)) = [(some 92000, 1)] :=
  ⟨refreshing_never_forks Office.store (by decide +kernel) rfl Office.overtaken,
    by decide +kernel, by decide +kernel⟩

end Dealership.Identity
