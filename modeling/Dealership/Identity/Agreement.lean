import Dealership.Identity.SessionLife

/-!
# The identity chain, written three times

A revalidation, the guard of a bearer session and the last phase of a refresh each judge the
chain from a session to its tenant, and each writes it out anew.  The guard compares the link
and the connection with the facts it is given; the refresh compares neither the connection,
the issuer nor the organization of the link.  The foreign key from a session to its link makes
up for that: the link of a live session carries them.
-/

namespace Dealership.Identity

open Library List

variable {s : SessionRow} {now : Int} {input : ResolveBearerSessionInput} {d d' : Store}

@[simp] theorem sqlEq_some (a : String) (b : Option String) :
    sqlEq (some a) b = decide (some a = b) := rfl

theorem sqlEq_iff {a b : Option String} : sqlEq a b = true ↔ a.isSome = true ∧ a = b := by
  rw [sqlEq, Bool.and_eq_true, decide_eq_true_eq]

/-- A chain that holds behind a session holds behind it as long as the session is live and the
rows behind it are the same. -/
theorem revalidates_moved {s' : SessionRow} {expectedIssuer : String}
    (h : d.revalidates now expectedIssuer s = true) (hsame : s.SameIdentity s')
    (hlive : s'.revokedAt = none) (hunexpired : now < s'.expiresAt)
    (hlinks : d'.userLinks = d.userLinks) (hconnections : d'.connections = d.connections)
    (htenants : d'.tenants = d.tenants) : d'.revalidates now expectedIssuer s' = true := by
  have hlink : d'.link = d.link := by
    funext id
    rw [Store.link, Store.link, hlinks]
  have hconnection : d'.connection = d.connection := by
    funext id
    rw [Store.connection, Store.connection, hconnections]
  have htenant : d'.tenantEffective = d.tenantEffective := by
    funext t now
    rw [Store.tenantEffective, Store.tenantEffective]
    congr 1
    funext t
    rw [Store.tenant, Store.tenant, htenants]
  have hagrees : ∀ ul c, identityAgrees s' ul c now = identityAgrees s ul c now := by
    intro ul c
    rw [identityAgrees, identityAgrees, hsame.tenantId, hsame.providerSubject,
      hsame.connectionId, hsame.issuer, hsame.providerOrganizationId]
  simp only [Store.revalidates, Store.chainHolds, Bool.and_eq_true, decide_eq_true_eq] at h ⊢
  obtain ⟨⟨⟨-, hrows⟩, heffective⟩, hissuer⟩ := h
  simp only [hlink, hconnection, htenant, hagrees, hsame.userLinkId, hsame.connectionId,
    hsame.tenantId, hsame.issuer]
  exact ⟨⟨⟨⟨hlive, hunexpired⟩, hrows⟩, heffective⟩, hissuer⟩

theorem revalidateSessionIdentity_eq (hd : d.Lawful) (hs : s ∈ d.sessions) {expectedIssuer : String}
    (h : d.revalidates now expectedIssuer s = true) :
    revalidateSessionIdentity now s.sessionId expectedIssuer d = some (mapSession s) := by
  have hfound : d.sessions.find? (fun r => decide (r.sessionId = s.sessionId ∧
      d.revalidates now expectedIssuer r = true)) = some s := by
    refine find?_of_imp (hd.session_of_mem hs) (decide_eq_true ⟨rfl, h⟩) ?_
    intro r hr
    exact decide_eq_true (of_decide_eq_true hr).1
  rw [revalidateSessionIdentity]
  exact congrArg (Option.map mapSession) hfound

theorem resolveBearerSession_eq (hd : d.Lawful) (hs : s ∈ d.sessions) (h : d.resolves now input s) :
    ∃ d'', resolveBearerSession now input d = .ok (some (mapSession s), d'') := by
  have hfound : d.sessions.find? (fun r => decide (d.resolves now input r)) = some s := by
    refine find?_eq_some_of_unique hs (decide_eq_true h) ?_
    intro r hr hother
    exact eq_of_nullable_key hd.bearerKeys hr hs (of_decide_eq_true hother).1 h.1
  refine ⟨d.setSessions (d.resolves now input) (SessionRow.touch now), ?_⟩
  rw [resolveBearerSession, write_touch hd]
  refine bind_eq_ok.mpr ⟨_, rfl, ?_⟩
  rw [hfound]
  rfl

/-- On a live session the refresh sees the same chain as a revalidation: its link carries what
the refresh does not compare. -/
theorem factsMatch_eq_chainHolds (hd : d.Lawful) (hs : s ∈ d.sessions) (hlive : s.revokedAt = none)
    (hunexpired : now < s.expiresAt) : d.factsMatch now s = d.chainHolds now s := by
  obtain ⟨ul, hul, hid, htenant, hconnection, horg, hissuer, hsubject⟩ := hd.link_of_live hs hlive
  obtain ⟨hc, hi, hp, ho⟩ := (hd.sessionChecked s hs).liveBound hlive
  have hlink : d.link s.userLinkId = some ul := hid ▸ hd.link_of_mem hul
  have hconnectionEq : sqlEq ul.connectionId s.connectionId = true :=
    sqlEq_iff.mpr ⟨hconnection ▸ hc, hconnection⟩
  have hissuerEq : sqlEq ul.issuer s.issuer = true := sqlEq_iff.mpr ⟨hissuer ▸ hi, hissuer⟩
  have horgEq : sqlEq ul.providerOrganizationId s.providerOrganizationId = true :=
    sqlEq_iff.mpr ⟨horg ▸ ho, horg⟩
  rw [Store.factsMatch, Store.chainHolds, hlink, Bool.eq_iff_iff]
  cases s.connectionId.bind d.connection with
  | none => simp
  | some c =>
    simp only [Option.any_some, identityAgrees, hconnectionEq, hissuerEq, horgEq, sqlEq_some,
      Bool.and_eq_true, decide_eq_true_eq, htenant, hsubject, hlive, hunexpired]
    tauto

theorem identityStillMatches_eq (hd : d.Lawful) (hs : s ∈ d.sessions) (hlive : s.revokedAt = none)
    (hunexpired : now < s.expiresAt) (expectedIssuer : String) (refreshed : ProviderRefreshResult)
    (verified : VerifiedAccessToken) :
    identityStillMatches now s expectedIssuer refreshed verified d =
      (replyMatches s expectedIssuer refreshed verified && d.revalidates now expectedIssuer s) := by
  rw [identityStillMatches, factsMatch_eq_chainHolds hd hs hlive hunexpired, Store.revalidates]
  cases hreply : replyMatches s expectedIssuer refreshed verified with
  | false => rfl
  | true =>
    have hissuer : s.issuer = some expectedIssuer := by
      simp only [replyMatches, Bool.and_eq_true, decide_eq_true_eq] at hreply
      exact hreply.1.1.1.1.1.1.1.1.2
    rw [hissuer, decide_eq_true rfl, Bool.and_true]

/-- The facts a bearer credential and a session have in common. -/
structure ResolveBearerSessionInput.Names (input : ResolveBearerSessionInput) (s : SessionRow) :
    Prop where
  tenantId : s.tenantId = input.tenantId
  userLinkId : s.userLinkId = input.userLinkId
  connectionId : s.connectionId = some input.connectionId
  providerOrganizationId : s.providerOrganizationId = some input.providerOrganizationId
  providerSubject : s.providerSubject = some input.providerSubject

/-- The guard of a bearer session admits the facts of a live session of the configured issuer
exactly when it revalidates. -/
theorem admitsBearer_eq_of_issuer (h : input.Names s)
    (hissuer : s.issuer = some input.expectedIssuer) (hlive : s.revokedAt = none)
    (hunexpired : now < s.expiresAt) :
    d.admitsBearer now input = d.revalidates now input.expectedIssuer s := by
  rw [Store.admitsBearer, Store.revalidates, Store.chainHolds, h.tenantId, h.userLinkId,
    h.connectionId, hissuer, Bool.eq_iff_iff]
  cases d.link input.userLinkId with
  | none => simp
  | some ul =>
    by_cases hbound : ul.connectionId = some input.connectionId
    · simp only [Option.any_some, hbound, Option.bind_some]
      cases d.connection input.connectionId with
      | none => simp
      | some c =>
        simp only [Option.any_some, identityAgrees, h.tenantId, h.connectionId, hissuer,
          h.providerOrganizationId, h.providerSubject, sqlEq_some, sqlEq_iff,
          Bool.and_eq_true, decide_eq_true_eq, Option.some.injEq, hlive, hunexpired, hbound]
        constructor
        · rintro ⟨⟨⟨⟨⟨⟨⟨⟨⟨⟨h₁, h₂⟩, h₃⟩, -⟩, h₅⟩, h₆⟩, h₇⟩, h₈⟩, h₉⟩, h₁₀⟩, h₁₁⟩
          simp [h₁, h₂, h₃, h₅, h₆, h₇, h₈, h₉, h₁₀, h₁₁]
        · rintro ⟨⟨⟨-, ⟨⟨⟨⟨⟨⟨⟨⟨⟨h₁, h₂⟩, h₃⟩, -⟩, h₅⟩, h₆⟩, h₇⟩, h₈⟩, h₉⟩, h₁₀⟩⟩, h₁₁⟩, -⟩
          simp [h₁, h₂, h₃, h₅.2, h₆.2, h₇, h₈, h₉, h₁₀, h₁₁]
    · have hfirst : ((ul.connectionId.bind d.connection).any fun c =>
          ul.effective now && decide (ul.tenantId = input.tenantId) &&
            decide (ul.providerUserId = input.providerSubject) &&
            decide (ul.connectionId = some input.connectionId) &&
            decide (ul.issuer = some input.expectedIssuer) &&
            decide (ul.providerOrganizationId = some input.providerOrganizationId) &&
            c.effective now && decide (c.issuer = input.expectedIssuer) &&
            decide (c.providerOrganizationId = input.providerOrganizationId) &&
            decide (c.tenantId = input.tenantId)) = false := by
        cases ul.connectionId.bind d.connection with
        | none => rfl
        | some c => simp [hbound]
      have hsecond : (d.connection input.connectionId).any
          (fun c => identityAgrees s ul c now) = false := by
        cases d.connection input.connectionId with
        | none => rfl
        | some c =>
          have hne : sqlEq ul.connectionId s.connectionId = false := by
            rw [h.connectionId, sqlEq, decide_eq_false hbound, Bool.and_false]
          simp [identityAgrees, hne]
      simp [hfirst, hsecond]

/-- For a live session of the tables the issuer need not be known beforehand: its link has the
same. -/
theorem admitsBearer_eq_revalidates (hd : d.Lawful) (hs : s ∈ d.sessions) (h : input.Names s)
    (hlive : s.revokedAt = none) (hunexpired : now < s.expiresAt) :
    d.admitsBearer now input = d.revalidates now input.expectedIssuer s := by
  by_cases hissuer : s.issuer = some input.expectedIssuer
  · exact admitsBearer_eq_of_issuer h hissuer hlive hunexpired
  · obtain ⟨ul, hul, hid, -, -, -, hlinkIssuer, -⟩ := hd.link_of_live hs hlive
    have hlink : d.link input.userLinkId = some ul := by
      rw [← h.userLinkId, ← hid]
      exact hd.link_of_mem hul
    have hother : ul.issuer ≠ some input.expectedIssuer := hlinkIssuer ▸ hissuer
    rw [Store.revalidates, decide_eq_false hissuer, Bool.and_false, Store.admitsBearer, hlink,
      Option.any_some]
    cases ul.connectionId.bind d.connection with
    | none => rfl
    | some c => simp [hother]

/-! ## On one state -/

theorem revalidates_of_refreshed (hd : d.Lawful) {clock : Int} {input : RefreshProviderSessionInput}
    (httl : 0 < input.ttlSeconds) {leaseId refreshToken : String}
    {refreshed : ProviderRefreshResult} {verified : VerifiedAccessToken} {session : IdentitySession}
    {rotationCount : Nat}
    (h : persistRefreshedState now clock input leaseId refreshToken refreshed verified d =
      .ok (.refreshed session rotationCount, d')) :
    revalidateSessionIdentity now input.sessionId input.expectedIssuer d' = some session := by
  rcases persistRefreshedState_cases hd h with ⟨-, houtcome, -⟩ | ⟨_, _, _, -, houtcome, -⟩ |
    ⟨row, rotation, hrow, hrotation, hmatches, happlies, houtcome, ⟨facts, -, rfl⟩, hlawful⟩
  · cases houtcome
  · cases houtcome
  cases houtcome
  obtain ⟨hmem, hid, hlive, hunexpired⟩ := of_liveSession hrow
  rw [identityStillMatches_eq hd hmem hlive hunexpired, Bool.and_eq_true] at hmatches
  have hexpiry : now < (rotation.apply now clock row).expiresAt := by
    have hrest : rotation.ttlSeconds = input.ttlSeconds := by rw [hrotation, rotationOf]
    refine Int.lt_min.mpr ⟨hunexpired, ?_⟩
    omega
  have hsame : row.SameIdentity (rotation.apply now clock row) :=
    ⟨rfl, rfl, rfl, rfl, rfl, rfl, rfl, rfl, rfl, rfl, rfl, rfl⟩
  have hafter : rotation.apply now clock row ∈
      (d.setSessions (rotation.applies now) (rotation.apply now clock)).sessions :=
    mem_updateWhere_of_pos hmem happlies
  have hrevalidates : (d.setSessions (rotation.applies now)
      (rotation.apply now clock)).revalidates now input.expectedIssuer
        (rotation.apply now clock row) = true :=
    revalidates_moved hmatches.2 hsame hlive hexpiry rfl rfl rfl
  rw [← hid]
  exact revalidateSessionIdentity_eq hlawful hafter hrevalidates

/-- On the request path the time a refresh asks for is never over already. -/
theorem revalidates_of_maintained (hd : d.Lawful) {clock began : Int}
    {input : MaintainProviderSessionInput} {leaseId refreshToken : String}
    {refreshed : ProviderRefreshResult} {verified : VerifiedAccessToken} {session : IdentitySession}
    {rotationCount : Nat}
    (h : persistRefreshedState now clock (input.refresh began) leaseId refreshToken refreshed
      verified d = .ok (.refreshed session rotationCount, d')) :
    revalidateSessionIdentity now input.session.sessionId input.expectedIssuer d' = some session :=
  revalidates_of_refreshed hd (input.ttlSeconds_pos began) h

theorem resolves_of_established {newSessionId : String} {session : IdentitySession}
    (h : establishBearerSession now newSessionId input d = .ok (some session, d')) :
    ∃ d'', resolveBearerSession now input d' = .ok (some session, d'') := by
  rcases establishBearerSession_cases h with ⟨hnone, -⟩ | ⟨hadmits, -, hsession, hrow⟩
  · cases hnone
  cases hsession
  obtain ⟨-, hd', hlawful⟩ := establish_eq_ok hrow
  have hmem : newBearerSession now newSessionId input ∈ d'.sessions := by
    rw [hd']
    exact mem_append_right _ (mem_singleton.mpr rfl)
  have hunexpired : now < (newBearerSession now newSessionId input).expiresAt :=
    (hlawful.sessionChecked _ hmem).expires
  rw [admitsBearer_eq_of_issuer (s := newBearerSession now newSessionId input)
    ⟨rfl, rfl, rfl, rfl, rfl⟩ rfl rfl hunexpired] at hadmits
  refine resolveBearerSession_eq hlawful hmem ⟨rfl, rfl, rfl, rfl, rfl, rfl, rfl, rfl, ?_⟩
  exact revalidates_moved hadmits (.refl _) rfl hunexpired (by rw [hd']) (by rw [hd']) (by rw [hd'])

/-- In every state the owned mutations and the operations on sessions lead to: what a refresh
has just accepted revalidates, what has just been established resolves, and the three
predicates judge the chain behind a live session alike. -/
theorem refresh_accepts_what_revalidates (d : Store) (hd : d.Lawful) (events : List Event) :
    (∀ now clock input leaseId refreshToken refreshed verified session rotationCount d',
      0 < input.ttlSeconds →
      persistRefreshedState now clock input leaseId refreshToken refreshed verified
        (run Service.next (.start d) events).store = .ok (.refreshed session rotationCount, d') →
      revalidateSessionIdentity now input.sessionId input.expectedIssuer d' = some session) ∧
    (∀ now newSessionId input session d',
      establishBearerSession now newSessionId input
        (run Service.next (.start d) events).store = .ok (some session, d') →
      ∃ d'', resolveBearerSession now input d' = .ok (some session, d'')) ∧
    ∀ now, ∀ s ∈ (run Service.next (.start d) events).store.sessions, s.revokedAt = none →
      now < s.expiresAt →
      (∀ expectedIssuer refreshed verified,
        identityStillMatches now s expectedIssuer refreshed verified
            (run Service.next (.start d) events).store =
          (replyMatches s expectedIssuer refreshed verified &&
            (run Service.next (.start d) events).store.revalidates now expectedIssuer s)) ∧
      ∀ input : ResolveBearerSessionInput, input.Names s →
        (run Service.next (.start d) events).store.admitsBearer now input =
          (run Service.next (.start d) events).store.revalidates now input.expectedIssuer s := by
  have hlawful : (run Service.next (.start d) events).store.Lawful :=
    Service.run_lawful (m := .start d) hd events
  refine ⟨?_, ?_, ?_⟩
  · intro now clock input leaseId refreshToken refreshed verified session rotationCount d' httl h
    exact revalidates_of_refreshed hlawful httl h
  · intro now newSessionId input session d' h
    exact resolves_of_established h
  · intro now s hs hlive hunexpired
    refine ⟨?_, ?_⟩
    · intro expectedIssuer refreshed verified
      exact identityStillMatches_eq hlawful hs hlive hunexpired expectedIssuer refreshed verified
    · intro input hnames
      exact admitsBearer_eq_revalidates hlawful hs hnames hlive hunexpired

namespace Office

def login : CreateSessionInput where
  tenantId := some "T"
  userLinkId := "U"
  providerSessionId := some "sid"
  authTime := 500
  ttlSeconds := 3600
  connectionId := some "C"
  issuer := some "iss"
  providerSubject := some "sub"
  providerOrganizationId := some "org"
  refreshToken := some "first"
  cookiePassword := some "password"
  refreshStateKeyVersion := none
  providerAccessTokenExpiresAt := some 100000

/-- A request that finds its access token about to expire. -/
def maintained : MaintainProviderSessionInput where
  session := mapSession (newCookieSession 1000 1000 "S" "cookie" login)
  cookiePassword := "password"
  expectedIssuer := "iss"
  leewaySeconds := none
  providerTimeoutMs := none

/-- The provider answers as the same person, with a new token. -/
def reply : ProviderRefreshResult :=
  ⟨"access", "second", "sub", some "sid", some "org", ⟨false, false⟩⟩

def verified : VerifiedAccessToken := ⟨"sub", "sid", "org", 500, 900000, ⟨false, false⟩⟩

/-- The login, and a refresh up to its last phase. -/
def exchanged : List Event :=
  [.createSession 1000 1000 "S" "cookie" login,
    .claim 60000 60000 "L" (maintained.refresh 60000), .exchanged "L" (.answered reply verified)]

/-- What the last phase answers, and the tables it leaves. -/
def refreshed : Except Raise (RefreshSessionOutcome × Store) :=
  persistRefreshedState 61000 61000 (maintained.refresh 60000) "L" "first" reply verified
    (run Service.next (.start store) exchanged).store

def rotated : SessionRow :=
  (rotationOf (maintained.refresh 60000) "L" "first"
    (newCookieSession 1000 1000 "S" "cookie" login) reply verified).apply 61000 61000
    (newCookieSession 1000 1000 "S" "cookie" login)

def after : Store := committed store refreshed

end Office

/-- A refresh on the request path, and the session it leaves. -/
theorem maintained_session_revalidates :
    Office.refreshed = .ok (.refreshed (mapSession Office.rotated) 1, Office.after) ∧
    revalidateSessionIdentity 61000 "S" "iss" Office.after = some (mapSession Office.rotated) :=
  have hrefreshed : Office.refreshed =
      .ok (.refreshed (mapSession Office.rotated) 1, Office.after) := by decide +kernel
  ⟨hrefreshed,
    (refresh_accepts_what_revalidates Office.store (by decide +kernel) Office.exchanged).1 61000
      61000 (Office.maintained.refresh 60000) "L" "first" Office.reply Office.verified
      (mapSession Office.rotated) 1 Office.after
      (Office.maintained.ttlSeconds_pos 60000) hrefreshed⟩

end Dealership.Identity
