import Dealership.Identity.Refresh

/-!
# What an operation does to a session

A session row is touched, revoked, leased, given back or rotated, and it never changes whose
it is.  Each operation is such a move of the rows its statement finds, or it inserts a row, or
it leaves the tables as they are; what an operation answers is read off the rows it found.
-/

namespace Dealership.Identity

open Library List

variable {s : SessionRow}

/-! ## Moves of a row -/

/-- The columns no operation writes. -/
structure SessionRow.SameIdentity (s s' : SessionRow) : Prop where
  sessionId : s'.sessionId = s.sessionId
  tenantId : s'.tenantId = s.tenantId
  userLinkId : s'.userLinkId = s.userLinkId
  credentialKind : s'.credentialKind = s.credentialKind
  sessionTokenHash : s'.sessionTokenHash = s.sessionTokenHash
  bearerKeyHash : s'.bearerKeyHash = s.bearerKeyHash
  providerSessionId : s'.providerSessionId = s.providerSessionId
  connectionId : s'.connectionId = s.connectionId
  issuer : s'.issuer = s.issuer
  providerSubject : s'.providerSubject = s.providerSubject
  providerOrganizationId : s'.providerOrganizationId = s.providerOrganizationId
  issuedAt : s'.issuedAt = s.issuedAt

theorem SessionRow.SameIdentity.refl (s : SessionRow) : s.SameIdentity s :=
  ⟨rfl, rfl, rfl, rfl, rfl, rfl, rfl, rfl, rfl, rfl, rfl, rfl⟩

theorem SessionRow.SameIdentity.trans {a b c : SessionRow} (h : a.SameIdentity b)
    (k : b.SameIdentity c) : a.SameIdentity c :=
  ⟨k.sessionId.trans h.sessionId, k.tenantId.trans h.tenantId, k.userLinkId.trans h.userLinkId,
    k.credentialKind.trans h.credentialKind, k.sessionTokenHash.trans h.sessionTokenHash,
    k.bearerKeyHash.trans h.bearerKeyHash, k.providerSessionId.trans h.providerSessionId,
    k.connectionId.trans h.connectionId, k.issuer.trans h.issuer,
    k.providerSubject.trans h.providerSubject,
    k.providerOrganizationId.trans h.providerOrganizationId, k.issuedAt.trans h.issuedAt⟩

inductive SessionRow.Move (s : SessionRow) : SessionRow → Prop where
  | stay : s.Move s
  | touch (now : Int) : s.Move (s.touch now)
  | revoke (now : Int) (reason : String) (actingUserLinkId : Option String)
      (live : s.revokedAt = none) : s.Move (s.revoke now reason actingUserLinkId)
  | lease (now : Int) (presentedDigest leaseId : String) (leaseExpiresAt : Int)
      (claimable : s.claimable now s.sessionId presentedDigest) :
      s.Move (s.lease leaseId leaseExpiresAt)
  | unlease (leaseId : String) (held : s.refreshLeaseId = some leaseId) : s.Move s.unlease
  | rotate (now clock : Int) (rotation : Rotation) (applies : rotation.applies now s)
      (onward : s.authTime ≤ rotation.authTime) : s.Move (rotation.apply now clock s)

namespace SessionRow.Move

variable {s s' : SessionRow}

theorem sameIdentity (h : s.Move s') : s.SameIdentity s' := by
  cases h with
  | stay => exact .refl s
  | touch now => exact ⟨rfl, rfl, rfl, rfl, rfl, rfl, rfl, rfl, rfl, rfl, rfl, rfl⟩
  | revoke now reason acting live =>
    exact ⟨rfl, rfl, rfl, rfl, rfl, rfl, rfl, rfl, rfl, rfl, rfl, rfl⟩
  | lease now digest leaseId expiry claimable =>
    exact ⟨rfl, rfl, rfl, rfl, rfl, rfl, rfl, rfl, rfl, rfl, rfl, rfl⟩
  | unlease leaseId held => exact ⟨rfl, rfl, rfl, rfl, rfl, rfl, rfl, rfl, rfl, rfl, rfl, rfl⟩
  | rotate now clock rotation applies onward =>
    exact ⟨rfl, rfl, rfl, rfl, rfl, rfl, rfl, rfl, rfl, rfl, rfl, rfl⟩

theorem expiresAt_le (h : s.Move s') : s'.expiresAt ≤ s.expiresAt := by
  cases h with
  | rotate now clock rotation applies onward => exact Int.min_le_left _ _
  | stay | touch | revoke | lease | unlease => exact Int.le_refl _

/-- `auth_time` never moves back. -/
theorem le_authTime (h : s.Move s') : s.authTime ≤ s'.authTime := by
  cases h with
  | rotate now clock rotation applies onward => exact onward
  | stay | touch | revoke | lease | unlease => exact Int.le_refl _

end SessionRow.Move

/-- The sealed token and the digest beside it denote one token. -/
def SessionRow.Agrees (s : SessionRow) : Prop :=
  ∀ sealed ∈ s.refreshStateSealed, s.refreshTokenHash = some (hashSessionToken sealed.refreshToken)

/-- A change that hands no token on and no lease out: the credential stays or is destroyed, and
a lease stays or is given up. -/
structure SessionRow.Eased (s s' : SessionRow) : Prop where
  same : s.SameIdentity s'
  rotationCount : s'.refreshRotationCount = s.refreshRotationCount
  lease : s'.refreshLeaseId = s.refreshLeaseId ∨ s'.refreshLeaseId = none
  credential : (s'.refreshStateSealed = s.refreshStateSealed ∧
    s'.refreshTokenHash = s.refreshTokenHash) ∨ s'.refreshStateSealed = none
  revoked : s.revokedAt ≠ none → s'.revokedAt ≠ none

theorem SessionRow.Eased.refl (s : SessionRow) : s.Eased s :=
  ⟨.refl s, rfl, .inl rfl, .inl ⟨rfl, rfl⟩, id⟩

theorem SessionRow.Eased.touch (s : SessionRow) (now : Int) : s.Eased (s.touch now) :=
  ⟨(Move.touch now).sameIdentity, rfl, .inl rfl, .inl ⟨rfl, rfl⟩, id⟩

theorem SessionRow.Eased.unlease (s : SessionRow) : s.Eased s.unlease :=
  ⟨⟨rfl, rfl, rfl, rfl, rfl, rfl, rfl, rfl, rfl, rfl, rfl, rfl⟩, rfl, .inr rfl, .inl ⟨rfl, rfl⟩, id⟩

theorem SessionRow.Eased.revoke (live : s.revokedAt = none) (now : Int) (reason : String)
    (actingUserLinkId : Option String) :
    s.Eased (s.revoke now reason actingUserLinkId) :=
  ⟨(Move.revoke now reason actingUserLinkId live).sameIdentity, rfl, .inr rfl, .inr rfl,
    fun hrevoked => absurd live hrevoked⟩

/-- A row as an insert leaves it. -/
structure SessionRow.Newborn (s : SessionRow) : Prop where
  live : s.revokedAt = none
  unleased : s.refreshLeaseId = none
  unrotated : s.refreshRotationCount = 0
  agrees : s.Agrees

theorem newCookieSession_newborn (now clock : Int) (newSessionId sessionToken : String)
    (input : CreateSessionInput) :
    (newCookieSession now clock newSessionId sessionToken input).Newborn where
  live := rfl
  unleased := rfl
  unrotated := rfl
  agrees := by
    intro sealed hsealed
    simp only [newCookieSession] at hsealed ⊢
    split at hsealed
    · rename_i refreshToken cookiePassword hrefresh hpassword
      cases hsealed
      rw [hrefresh]
      rfl
    · cases hsealed

theorem newBearerSession_newborn (now : Int) (newSessionId : String)
    (input : ResolveBearerSessionInput) : (newBearerSession now newSessionId input).Newborn where
  live := rfl
  unleased := rfl
  unrotated := rfl
  agrees := by
    intro sealed hsealed
    cases hsealed

/-! ## The schema along a move -/

/-- A statement on the sessions keeps the schema when every row it writes passes its checks
and stays whose it is. -/
theorem Store.Lawful.setSessions {d : Store} (h : d.Lawful) {p : SessionRow → Prop}
    [DecidablePred p] {f : SessionRow → SessionRow} (hsame : ∀ s, p s → s.SameIdentity (f s))
    (hchecked : ∀ s ∈ d.sessions, p s → (f s).Checked) : (d.setSessions p f).Lawful where
  tenantKeys := h.tenantKeys
  platformKey := h.platformKey
  connectionKeys := h.connectionKeys
  connectionHomes := h.connectionHomes
  connectionActive := h.connectionActive
  connectionTenant := h.connectionTenant
  linkKeys := h.linkKeys
  linkPersons := h.linkPersons
  linkTenant := h.linkTenant
  linkBound := h.linkBound
  linkResolves := h.linkResolves
  sessionKeys := nodup_map_updateWhere h.sessionKeys fun s hs => (hsame s hs).sessionId
  sessionTokens := by
    rw [Store.setSessions, filterMap_updateWhere fun s hs => (hsame s hs).sessionTokenHash]
    exact h.sessionTokens
  bearerKeys := by
    rw [Store.setSessions, filterMap_updateWhere fun s hs => (hsame s hs).bearerKeyHash]
    exact h.bearerKeys
  sessionChecked := by
    intro s' hs'
    rcases updateWhere_cases hs' with ⟨hs, -⟩ | ⟨s, hs, hp, rfl⟩
    · exact h.sessionChecked s' hs
    · exact hchecked s hs hp
  sessionTenant := by
    intro s' hs'
    rcases updateWhere_cases hs' with ⟨hs, -⟩ | ⟨s, hs, hp, rfl⟩
    · exact h.sessionTenant s' hs
    · rw [(hsame s hp).tenantId]
      exact h.sessionTenant s hs
  sessionLink := by
    intro s' hs'
    rcases updateWhere_cases hs' with ⟨hs, -⟩ | ⟨s, hs, hp, rfl⟩
    · exact h.sessionLink s' hs
    · rw [(hsame s hp).userLinkId]
      exact h.sessionLink s hs
  sessionResolves := by
    intro s' hs'
    rcases updateWhere_cases hs' with ⟨hs, -⟩ | ⟨s, hs, hp, rfl⟩
    · exact h.sessionResolves s' hs
    · intro connectionId hc org ho issuer hi subject hp'
      rw [(hsame s hp).connectionId] at hc
      rw [(hsame s hp).providerOrganizationId] at ho
      rw [(hsame s hp).issuer] at hi
      rw [(hsame s hp).providerSubject] at hp'
      obtain ⟨ul, hul, hid, hrest⟩ :=
        h.sessionResolves s hs connectionId hc org ho issuer hi subject hp'
      refine ⟨ul, hul, hid.trans (hsame s hp).userLinkId.symm, ?_⟩
      rw [(hsame s hp).tenantId]
      exact hrest

theorem Store.Lawful.trail {d : Store} (h : d.Lawful) (stepUps : List ReauthenticationRow)
    (events : List SessionEvent) (mutations : List MutationRecord) :
    { d with stepUps := stepUps, events := events, mutations := mutations }.Lawful :=
  ⟨h.tenantKeys, h.platformKey, h.connectionKeys, h.connectionHomes, h.connectionActive,
    h.connectionTenant, h.linkKeys, h.linkPersons, h.linkTenant, h.linkBound, h.linkResolves,
    h.sessionKeys, h.sessionTokens, h.bearerKeys, h.sessionChecked, h.sessionTenant,
    h.sessionLink, h.sessionResolves⟩

theorem SessionRow.Checked.touch (h : s.Checked) (now : Int) : (s.touch now).Checked :=
  ⟨h.expires, h.versioned, h.keyVersionPositive, h.hasDigest, h.leasePaired, h.leaseNeedsState,
    h.revokedHoldsNone, h.cookieKey, h.bearerKey, h.bearerHoldsNone, h.bearerNoExpiry,
    h.liveBound⟩

theorem SessionRow.Checked.revoke (h : s.Checked) (now : Int) (reason : String)
    (actingUserLinkId : Option String) : (s.revoke now reason actingUserLinkId).Checked where
  expires := h.expires
  versioned := rfl
  keyVersionPositive := by
    intro v hv
    cases hv
  hasDigest := by
    intro hs
    cases hs
  leasePaired := rfl
  leaseNeedsState := by
    intro hs
    cases hs
  revokedHoldsNone := fun _ => ⟨rfl, rfl⟩
  cookieKey := h.cookieKey
  bearerKey := h.bearerKey
  bearerHoldsNone := fun _ => ⟨rfl, rfl⟩
  bearerNoExpiry := h.bearerNoExpiry
  liveBound := by
    intro hs
    cases hs

/-- A revoked row holds neither digest nor sealed state nor lease. -/
theorem SessionRow.Checked.destroyed (h : s.Checked) (hrevoked : s.revokedAt ≠ none) :
    s.refreshTokenHash = none ∧ s.refreshStateSealed = none ∧ s.refreshLeaseId = none ∧
      s.refreshLeaseExpiresAt = none := by
  obtain ⟨hdigest, hsealed⟩ := h.revokedHoldsNone (Option.isSome_iff_ne_none.mpr hrevoked)
  have hlease : s.refreshLeaseId = none := by
    cases hl : s.refreshLeaseId with
    | none => rfl
    | some l =>
      have hstate := h.leaseNeedsState (by rw [hl]; rfl)
      rw [hsealed] at hstate
      cases hstate
  have hexpiry : s.refreshLeaseExpiresAt = none := by
    have hpaired := h.leasePaired
    rw [hlease] at hpaired
    exact Option.isNone_iff_eq_none.mp hpaired.symm
  exact ⟨hdigest, hsealed, hlease, hexpiry⟩

/-! ## One operation each -/

section Operations

variable {d d' : Store} {now : Int} {sessionId : String} {clock : Int}

theorem revokeSessionsWithin_eq_ok (h : d.Lawful) (now : Int) (target : RevocationTarget)
    (reason : String) (actingUserLinkId : Option String) :
    ∃ rows, rows = (d.sessions.filter fun s => target.finds now s).map
        (SessionRow.revoke now reason actingUserLinkId) ∧
      revokeSessionsWithin now target reason actingUserLinkId d = .ok (rows,
        { d.setSessions (target.finds now) (SessionRow.revoke now reason actingUserLinkId) with
          events := d.events ++ rows.map (revocationEvent reason
            (revocationActor reason actingUserLinkId rows)) }) := by
  refine ⟨_, rfl, ?_⟩
  have hlawful : (d.setSessions (target.finds now)
      (SessionRow.revoke now reason actingUserLinkId)).Lawful :=
    h.setSessions
      (fun _ hs => (SessionRow.Move.revoke now reason actingUserLinkId hs.2).sameIdentity)
      fun s hs _ => (h.sessionChecked s hs).revoke now reason actingUserLinkId
  rw [revokeSessionsWithin, (Store.write_eq_ok (f := Store.setSessions (target.finds now)
    (SessionRow.revoke now reason actingUserLinkId))).mpr ⟨hlawful, rfl⟩]
  rfl

theorem write_touch (h : d.Lawful) (p : SessionRow → Prop) [DecidablePred p] (now : Int) :
    d.write (Store.setSessions p (SessionRow.touch now)) =
      .ok (d.setSessions p (SessionRow.touch now)) :=
  Store.write_eq_ok.mpr ⟨h.setSessions (fun _ _ => (SessionRow.Move.touch now).sameIdentity)
    fun s hs _ => (h.sessionChecked s hs).touch now, rfl⟩

theorem establish_eq_ok {row : SessionRow} {session : IdentitySession}
    (h : d.establish row = .ok (session, d')) :
    session = mapSession row ∧
      d' = { d with
        sessions := d.sessions ++ [row]
        events := d.events ++ [⟨row.sessionId, row.tenantId.getD nilTenant, some row.userLinkId,
          .established row.credentialKind row.refreshStateSealed.isSome row.expiresAt⟩] } ∧
      d'.Lawful := by
  unfold Store.establish at h
  obtain ⟨d₁, hwrite, h⟩ := bind_eq_ok.mp h
  obtain ⟨hlawful, rfl⟩ := Store.write_eq_ok.mp hwrite
  cases h
  exact ⟨rfl, rfl, hlawful.trail _ _ _⟩

theorem of_liveSession {row : SessionRow} (h : d.liveSession now sessionId = some row) :
    row ∈ d.sessions ∧ row.sessionId = sessionId ∧ row.revokedAt = none ∧ now < row.expiresAt :=
  of_find?_eq_some h

theorem liveSession_eq_none (hnone : d.liveSession now sessionId = none) {s : SessionRow}
    (hs : s ∈ d.sessions)
    (hid : s.sessionId = sessionId) : s.revokedAt ≠ none ∨ s.expiresAt ≤ now := by
  by_contra hlive
  simp only [not_or, not_not, Int.not_le] at hlive
  have hfound := find?_eq_none.mp hnone s hs
  simp [hid, hlive.1, hlive.2] at hfound

theorem claimRefreshAttempt_cases {newLeaseId : String} {input : RefreshProviderSessionInput}
    {claim : RefreshClaim}
    (h : claimRefreshAttempt now clock newLeaseId input d = .ok (claim, d')) :
    (∃ row refreshToken leaseExpiresAt, d.liveSession now input.sessionId = some row ∧
      claim = .claimed newLeaseId refreshToken ∧
      row.refreshStateSealed.map SealedState.refreshToken = some refreshToken ∧
      row.claimable now input.sessionId (hashSessionToken refreshToken) ∧
      d' = d.setSessions
        (SessionRow.claimable now input.sessionId (hashSessionToken refreshToken))
        (SessionRow.lease newLeaseId leaseExpiresAt) ∧ d'.Lawful) ∨
    ∃ outcome, claim = .closed outcome ∧
      (∀ session, outcome.session? = some session → ∃ row,
        d.liveSession now input.sessionId = some row ∧ session = mapSession row) ∧
      (d' = d ∨ ∃ rows, revokeSessionsWithin now (.sessionId input.sessionId)
        IdentityBreachReason.refreshReplayDetected.text none d = .ok (rows, d')) := by
  unfold claimRefreshAttempt at h
  split at h
  · cases h
    exact .inr ⟨_, rfl, by simp [RefreshSessionOutcome.session?], .inl rfl⟩
  rename_i row hrow
  have own : ∀ session, some (mapSession row) = some session → ∃ row,
      d.liveSession now input.sessionId = some row ∧ session = mapSession row :=
    fun session hs => ⟨row, hrow, (Option.some.inj hs).symm⟩
  split at h
  · cases h
    exact .inr ⟨_, rfl, own, .inl rfl⟩
  split at h
  · cases h
    exact .inr ⟨_, rfl, own, .inl rfl⟩
  split at h
  · cases h
    exact .inr ⟨_, rfl, by simp [RefreshSessionOutcome.session?], .inl rfl⟩
  rename_i sealed hsealed
  split at h
  · cases h
    exact .inr ⟨_, rfl, by simp [RefreshSessionOutcome.session?], .inl rfl⟩
  split at h
  · cases h
    exact .inr ⟨_, rfl, by simp [RefreshSessionOutcome.session?], .inl rfl⟩
  rename_i refreshToken hopen
  have htoken : sealed.refreshToken = refreshToken := by
    unfold openRefreshState at hopen
    split at hopen
    · exact Option.some.inj hopen
    · cases hopen
  split at h
  · obtain ⟨⟨outcome, d₁⟩, hrevoke, h⟩ := bind_eq_ok.mp h
    cases h
    obtain ⟨⟨rows, d₂⟩, hrows, hrevoke⟩ := bind_eq_ok.mp hrevoke
    cases hrevoke
    exact .inr ⟨_, rfl, by simp [RefreshSessionOutcome.session?], .inr ⟨rows, hrows⟩⟩
  split at h
  · rename_i hclaimable
    obtain ⟨d₁, hwrite, h⟩ := bind_eq_ok.mp h
    obtain ⟨hlawful, rfl⟩ := Store.write_eq_ok.mp hwrite
    cases h
    refine .inl ⟨row, refreshToken, _, hrow, rfl, ?_, hclaimable, rfl, hlawful⟩
    rw [hsealed, Option.map_some, htoken]
  · cases h
    exact .inr ⟨_, rfl, own, .inl rfl⟩

theorem rotateRefreshStateRow_cases {rotation : Rotation} {rotated : Option SessionRow}
    (h : rotateRefreshStateRow now clock rotation d = .ok (rotated, d')) :
    (rotated = none ∧ d' = d) ∨
    ∃ s ∈ d.sessions, rotation.applies now s ∧ rotated = some (rotation.apply now clock s) ∧
      d' = (d.setSessions (rotation.applies now) (rotation.apply now clock)).auditSession
        (rotation.apply now clock s) none (.refreshStateRotated
          (rotation.apply now clock s).refreshRotationCount s.credentialKind
          s.authorizationVersion) ∧
      (d.setSessions (rotation.applies now) (rotation.apply now clock)).Lawful := by
  unfold rotateRefreshStateRow at h
  split at h
  · cases h
    exact .inl ⟨rfl, rfl⟩
  rename_i s hs
  obtain ⟨d₁, hwrite, h⟩ := bind_eq_ok.mp h
  obtain ⟨hlawful, rfl⟩ := Store.write_eq_ok.mp hwrite
  cases h
  obtain ⟨hmem, happlies⟩ := of_find?_eq_some hs
  exact .inr ⟨s, hmem, happlies, rfl, rfl, hlawful⟩

theorem revokeWithin_eq_ok {reason : IdentityBreachReason} {outcome : RefreshSessionOutcome}
    (h : revokeWithin now sessionId reason d = .ok (outcome, d')) :
    outcome = .revoked reason ∧ ∃ rows,
      revokeSessionsWithin now (.sessionId sessionId) reason.text none d = .ok (rows, d') := by
  obtain ⟨⟨rows, d₁⟩, hrows, h⟩ := bind_eq_ok.mp h
  cases h
  exact ⟨rfl, rows, hrows⟩

/-- The last phase of an answered attempt finds no live session, or it revokes the session, or
it rotates the row whose lease is the attempt's own. -/
theorem persistRefreshedState_cases (hd : d.Lawful) {input : RefreshProviderSessionInput}
    {leaseId refreshToken : String} {refreshed : ProviderRefreshResult}
    {verified : VerifiedAccessToken} {outcome : RefreshSessionOutcome}
    (h : persistRefreshedState now clock input leaseId refreshToken refreshed verified d =
      .ok (outcome, d')) :
    (d.liveSession now input.sessionId = none ∧ outcome = .unavailable .noLiveSession ∧ d' = d) ∨
    (∃ row reason rows, d.liveSession now input.sessionId = some row ∧
      outcome = .revoked reason ∧
      revokeSessionsWithin now (.sessionId input.sessionId) reason.text none d = .ok (rows, d')) ∨
    ∃ row rotation, d.liveSession now input.sessionId = some row ∧
      rotation = rotationOf input leaseId refreshToken row refreshed verified ∧
      identityStillMatches now row input.expectedIssuer refreshed verified d = true ∧
      rotation.applies now row ∧
      outcome = .refreshed (mapSession (rotation.apply now clock row))
        (row.refreshRotationCount + 1) ∧
      (∃ facts : List SessionFact, (∀ fact ∈ facts, fact.ends = false) ∧
        d' = { d.setSessions (rotation.applies now) (rotation.apply now clock) with
          events := d.events ++ facts.map fun fact =>
            ⟨row.sessionId, row.tenantId.getD nilTenant, none, fact⟩ }) ∧
      (d.setSessions (rotation.applies now) (rotation.apply now clock)).Lawful := by
  unfold persistRefreshedState at h
  split at h
  · cases h
    rename_i hnone
    exact .inl ⟨hnone, rfl, rfl⟩
  rename_i row hrow
  split at h
  · obtain ⟨rfl, rows, hrows⟩ := revokeWithin_eq_ok h
    exact .inr (.inl ⟨row, _, rows, hrow, rfl, hrows⟩)
  rename_i hlease
  split at h
  · obtain ⟨rfl, rows, hrows⟩ := revokeWithin_eq_ok h
    exact .inr (.inl ⟨row, _, rows, hrow, rfl, hrows⟩)
  rename_i hmatches
  rw [Bool.not_eq_false] at hmatches
  obtain ⟨hmem, hid, -, -⟩ := of_liveSession hrow
  generalize hrotation : rotationOf input leaseId refreshToken row refreshed verified = rotation
    at h
  dsimp only at h
  obtain ⟨⟨rotated, d₁⟩, hrotated, hrest⟩ := bind_eq_ok.mp h
  rcases rotateRefreshStateRow_cases hrotated with ⟨rfl, rfl⟩ | ⟨s, hs, happlies, rfl, rfl, hlawful⟩
  · obtain ⟨rfl, rows, hrows⟩ := revokeWithin_eq_ok hrest
    exact .inr (.inl ⟨row, _, rows, hrow, rfl, hrows⟩)
  · have hsame : s = row := by
      refine eq_of_key hd.sessionKeys hs hmem ?_
      rw [happlies.1, hid, ← hrotation]
      rfl
    subst hsame
    cases hrest
    refine .inr (.inr ⟨s, rotation, hrow, hrotation.symm, hmatches, happlies, rfl,
      ⟨[.refreshStateRotated (s.refreshRotationCount + 1) s.credentialKind s.authorizationVersion,
        .refreshed (s.refreshRotationCount + 1) (decide (s.authTime < rotation.authTime)) true],
        ?_, ?_⟩, hlawful⟩)
    · intro fact hfact
      simp only [mem_cons, not_mem_nil, or_false] at hfact
      rcases hfact with rfl | rfl
      · rfl
      · rfl
    · simp only [Store.auditSession, append_assoc]
      rfl

end Operations

end Dealership.Identity
