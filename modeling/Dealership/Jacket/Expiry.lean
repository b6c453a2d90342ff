import Dealership.Jacket.Lockstep

/-!
# Where a ceremony expires

The sweep compares `expires_at` with the clock in the database, at its precision.
`signWithin` compares two texts: the instant of the view, which lost its fraction
on the way through a `Date`, and the six digits of the database's clock.  The two
boundaries are up to a second apart, on either side.
-/

namespace Dealership.Jacket

open Library List

/-- The first instant `signWithin` takes for expired: a millisecond into the second
`expires_at` falls in. -/
def expiryAsRead (expiresAt : Int) : Int := expiresAt / 1000000 * 1000000 + 1000

theorem expiredAt_iff {c : Ceremony} {t : Int} (hexpires : FourDigitYear c.expires_at)
    (ht : FourDigitYear t) : expiredAt c t = true ↔ expiryAsRead c.expires_at ≤ t :=
  jsLe_isoOfDate_toCharMicros hexpires ht

/-- A request passes every check that comes after the clock's. -/
def SignInput.Passes (input : SignInput) (db : Cabinet) (signer : Signer) (c : Ceremony)
    (p : Package) : Prop :=
  input.intentStatement = INTENT_STATEMENT ∧
    digestsEqual input.packageSha256 c.bound_package_sha256.text = true ∧
    p.package_sha256 = some c.bound_package_sha256 ∧ waitingOn db signer c = []

section Refusal

variable {input : SignInput} {db : Cabinet} {signer : Signer} {c : Ceremony} {p : Package} {t : Int}

theorem refusal_eq_none_iff : input.refusal db signer c p t = none ↔
    expiredAt c t = false ∧ input.Passes db signer c p := by
  rw [SignInput.refusal, SignInput.Passes]
  split
  · rename_i hexpired
    simp [hexpired]
  rename_i hexpired
  split
  · rename_i hintent
    simp [hintent]
  rename_i hintent
  split
  · rename_i hsha
    constructor
    · intro h
      cases h
    · rintro ⟨-, -, hdigest, hpackage, -⟩
      rcases hsha with hsha | hsha
      · exact absurd hdigest hsha
      · exact absurd hpackage hsha
  · rename_i hsha
    rw [not_or, not_not, not_not] at hsha
    split
    · rename_i hwait
      simp [hwait]
    rename_i hwait
    simp only [true_iff]
    exact ⟨Bool.not_eq_true _ ▸ hexpired, not_not.mp hintent, hsha.1, hsha.2, not_not.mp hwait⟩

theorem refusal_eq_expired_iff : input.refusal db signer c p t = some .expired ↔
    expiredAt c t = true := by
  rw [SignInput.refusal]
  split
  · rename_i hexpired
    simp [hexpired]
  rename_i hexpired
  rw [iff_false_right hexpired]
  split
  · simp
  split
  · simp
  · split <;> simp

theorem refusal_ne_signed {view : Signer} {c' : Ceremony} {p' : Package} {completed : Bool} :
    input.refusal db signer c p t ≠ some (.signed view c' p' completed) := by
  rw [SignInput.refusal]
  split
  · simp
  split
  · simp
  split
  · simp
  · split <;> simp

end Refusal

/-! ## A signature that is admitted is written -/

section Writing

variable {db : Cabinet}

theorem oneLivePerJacket_of_oneStanding {ps : List Package} (hnodup : ps.Nodup)
    (h : OneStanding ps) : oneLivePerJacket ps = true := by
  refine decide_eq_true ((hnodup.filter _).map_on ?_)
  intro p hp q hq hj
  rw [mem_filter] at hp hq
  exact h p hp.1 q hq.1 hj (standing_of_live hp.2) (standing_of_live hq.2)

theorem updatePackages_ok (hkeys : (db.jacket_packages.map (·.key)).Nodup)
    (hone : OneStanding db.jacket_packages) {hit : Package → Bool} {f : Package → Package}
    (hkey : ∀ k, (f k).key = k.key)
    (hlive : ∀ k ∈ db.jacket_packages, hit k = true → k.state.live = true) :
    updatePackages hit f db = .ok (db.setPackages hit f) := by
  have hnodup : (db.setPackages hit f).jacket_packages.Nodup := by
    have hafter : ((db.setPackages hit f).jacket_packages.map (·.key)).Nodup :=
      nodup_map_updateWhere hkeys fun k _ => hkey k
    exact hafter.of_map
  have hstanding : OneStanding (db.setPackages hit f).jacket_packages :=
    hone.updateWhere (fun k => (Prod.mk.inj (hkey k)).2)
      fun k hk hh _ => standing_of_live (hlive k hk hh)
  have hfreeze : ((db.jacket_packages.filter hit).all fun k =>
      freezeAllows k.state (f k).state) = true := by
    rw [all_eq_true]
    intro k hk
    rw [mem_filter] at hk
    exact freezeAllows_of_live (hlive k hk.1 hk.2) _
  rw [updatePackages, hfreeze, oneLivePerJacket_of_oneStanding hnodup hstanding]
  rfl

theorem updatePackages_signed (hdb : Coherent db) {p : Package} (hp : p ∈ db.jacket_packages)
    (hsignable : p.state.signable = true) {d : Cabinet}
    (hd : d.jacket_packages = db.jacket_packages) {hit : Package → Bool} {target : PackageState}
    (hhit : ∀ k, hit k = true → k.package_id = p.package_id) :
    updatePackages hit (Package.moved target none) d =
      .ok (d.setPackages hit (Package.moved target none)) := by
  refine updatePackages_ok ?_ ?_ (fun _ => rfl) ?_
  · rw [hd]
    exact hdb.keyed.packages.of_map
  · rw [hd]
    exact hdb.oneStanding
  · rw [hd]
    intro k hk hh
    rw [hdb.keyed.package_unique hk hp (hhit k hh)]
    exact live_of_signable hsignable

theorem writeSignature_ok (hdb : Coherent db) {signer : Signer} {c : Ceremony} {p : Package}
    (hp : p ∈ db.jacket_packages) (hsignable : p.state.signable = true) (t : Int)
    (lane : EventLane) (actor : Option String) : ∃ view c' p' completed d,
    writeSignature db signer c p t lane actor = .ok (.signed view c' p' completed, d) := by
  have hrecord : ∀ d : Cabinet, d.jacket_packages = db.jacket_packages →
      ∃ d', recordSignature c p t d = .ok d' := by
    intro d hd
    rw [recordSignature]
    split
    · refine ⟨_, bind_eq_ok.mpr ⟨_, updatePackages_signed hdb hp hsignable ?_ ?_, rfl⟩⟩
      · exact hd
      · exact fun k hk => of_decide_eq_true hk
    · rw [recordProgress]
      refine ⟨_, updatePackages_signed hdb hp hsignable ?_ ?_⟩
      · exact hd
      · exact fun k hk => of_decide_eq_true (Bool.and_eq_true_iff.mp hk).1
  obtain ⟨d', hd'⟩ := hrecord ((db.updateSigner signer.signer_id
    (Signer.sign t (signatureOf c signer t))).recordCeremonyEventWithin
      (signerEvent signer "signer.signed" lane actor)) rfl
  exact ⟨_, _, _, _, d', bind_eq_ok.mpr ⟨d', hd', rfl⟩⟩

end Writing

/-! ## The boundary -/

/-- The sweep's boundary, `expires_at <= t`, is the one a signature at `t` is held to. -/
structure OneBoundary (w : JacketWorld) (db : Cabinet) (signer : Signer) (input : SignInput)
    (lane : EventLane) (actor : Option String) (now : String) (c : Ceremony) (t : Int) : Prop where
  /-- A signature is recorded at `t` only before the ceremony is due. -/
  recorded : ∀ view c' p' completed d, signWithin w db signer input lane actor now =
    .ok (.signed view c' p' completed, d) → c.due t = false
  /-- Expiry is answered at `t` only when the ceremony is due. -/
  expired : ∀ d, signWithin w db signer input lane actor now = .ok (.expired, d) → c.due t = true

theorem due_iff {c : Ceremony} (hopen : c.state.isOpen = true) {t : Int} :
    c.due t = true ↔ c.expires_at ≤ t := by
  simp [Ceremony.due, hopen]

section Boundary

variable {w : JacketWorld} {db : Cabinet} {signer : Signer} (input : SignInput) (lane : EventLane)
  (actor : Option String) {now : String} {c : Ceremony} {p : Package} {callerNow t : Int}
  (hctx : signContext db signer = .ok (c, p)) (hcast : w.cast now = .ok callerNow)
  (ht : signingInstant w.now signer.consented_at callerNow = t)
include hctx hcast ht

/-- A signature is recorded exactly when the clock and the other checks let it through. -/
theorem signWithin_records_iff (hdb : Coherent db) :
    (∃ view c' p' completed d, signWithin w db signer input lane actor now =
      .ok (.signed view c' p' completed, d)) ↔
    expiredAt c t = false ∧ input.Passes db signer c p := by
  obtain ⟨-, -, hp, -, hsignable, -⟩ := of_signContext_eq_ok hctx
  rw [← refusal_eq_none_iff, signWithin_eq hctx hcast ht]
  constructor
  · rintro ⟨view, c', p', completed, d, h⟩
    split at h
    · rename_i hrefusal
      cases h
      exact absurd hrefusal refusal_ne_signed
    · rename_i hnone
      exact hnone
  · intro hnone
    rw [hnone]
    exact writeSignature_ok hdb hp.1 hsignable t lane actor

theorem signWithin_expires_iff :
    (∃ d, signWithin w db signer input lane actor now = .ok (.expired, d)) ↔
      expiredAt c t = true := by
  have hrefusal : input.refusal db signer c p t = some .expired ↔ expiredAt c t = true :=
    refusal_eq_expired_iff
  rw [← hrefusal, signWithin_eq hctx hcast ht]
  constructor
  · rintro ⟨d, h⟩
    split at h
    · rename_i hanswer
      cases h
      exact hanswer
    · obtain ⟨d', -, h⟩ := bind_eq_ok.mp h
      cases h
  · intro h
    rw [h]
    exact ⟨db, rfl⟩

/-- The two boundaries agree on a signature at `t` when `t` is on one side of both, or
when it is past the sweep's and something else than the clock refuses it. -/
theorem oneBoundary_iff (hdb : Coherent db) (hexpires : FourDigitYear c.expires_at)
    (hyear : FourDigitYear t) : OneBoundary w db signer input lane actor now c t ↔
      (c.expires_at ≤ t ↔ expiryAsRead c.expires_at ≤ t) ∨
        c.expires_at ≤ t ∧ ¬ input.Passes db signer c p := by
  obtain ⟨-, -, -, hopen, -, -⟩ := of_signContext_eq_ok hctx
  have hrecords := signWithin_records_iff input lane actor hctx hcast ht hdb
  have hexpired := signWithin_expires_iff input lane actor hctx hcast ht
  rw [expiredAt_iff hexpires hyear] at hexpired
  rw [← Bool.not_eq_true, expiredAt_iff hexpires hyear] at hrecords
  have hboundary : OneBoundary w db signer input lane actor now c t ↔
      (¬ expiryAsRead c.expires_at ≤ t ∧ input.Passes db signer c p → ¬ c.expires_at ≤ t) ∧
        (expiryAsRead c.expires_at ≤ t → c.expires_at ≤ t) := by
    rw [← hrecords, ← hexpired, ← due_iff hopen, Bool.not_eq_true]
    constructor
    · intro h
      refine ⟨?_, ?_⟩
      · rintro ⟨view, c', p', completed, d, hsigned⟩
        exact h.recorded view c' p' completed d hsigned
      · rintro ⟨d, hanswer⟩
        exact h.expired d hanswer
    · rintro ⟨hbefore, hafter⟩
      exact
        { recorded := fun view c' p' completed d h => hbefore ⟨view, c', p', completed, d, h⟩
          expired := fun d h => hafter ⟨d, h⟩ }
  rw [hboundary]
  tauto

end Boundary

theorem coherent_consented {w : JacketWorld} {calls : List Call} {signer view : Signer}
    (hs : signer ∈ (history calls).ceremony_signers) {version : String} {lane : EventLane}
    {actor : Option String} {db : Cabinet}
    (h : consentWithin w (history calls) signer version lane actor = (.ok view, db)) :
    Coherent db := by
  rcases consentWithin_cases (w := w) hs version lane actor with ⟨hsame, -⟩ | ⟨-, -, hmove, -⟩
  · rw [h] at hsame
    obtain rfl : db = history calls := hsame
    exact history_coherent calls
  · rw [h] at hmove
    exact hmove.coherent (history_coherent calls)

namespace CashDeal

/-- A request made two weeks after the package was sent, when both clocks read the
instant the ceremony expires. -/
def lastDay : JacketWorld :=
  { world 1789430400000000 with
    clock := "2026-09-15T00:00:00.000Z"
    timestamptz := fun text =>
      if text = "2026-09-15T00:00:00.000Z" then some 1789430400000000 else none }

theorem cast_lastDay : lastDay.cast "2026-09-15T00:00:00.000Z" = .ok 1789430400000000 := by
  simp [JacketWorld.cast, lastDay, pure, Except.pure]

theorem exists_readyToSign (w : JacketWorld) : ∃ signer db c p,
    consentWithin w (history (customerSigned 1788220860000000 1788220920000000)) representative
      CONSENT_TEXT_VERSION .staff (some manager) = (.ok signer, db) ∧ Coherent db ∧
    signContext db signer = .ok (c, p) ∧ signer.consented_at = some w.now ∧
    c.expires_at = 1789430400000000 ∧ (intent sentSha256).Passes db signer c p := by
  obtain ⟨f, env, pf, bl, docs, ev, hhalf⟩ :=
    history_customerSigned (by decide : midnight ≤ 1788220920000000 ∧
      (1788220860000000 : Int) ≤ 1788220920000000) (by decide +kernel)
  have hs : representative ∈
      (history (customerSigned 1788220860000000 1788220920000000)).ceremony_signers := by
    rw [hhalf]
    exact mem_cons_of_mem _ mem_cons_self
  have hcoherent : ∀ view db, consentWithin w
      (history (customerSigned 1788220860000000 1788220920000000)) representative
      CONSENT_TEXT_VERSION .staff (some manager) = (.ok view, db) → Coherent db :=
    fun _ _ h => coherent_consented hs h
  rw [hhalf] at hcoherent ⊢
  exact ⟨_, _, _, _, rfl, hcoherent _ _ rfl, rfl, rfl, rfl, rfl, digestsEqual_self _, rfl, rfl⟩

end CashDeal

/-- A representative who signs three minutes after midnight, two weeks before the ceremony
expires, is on the same side of both boundaries. -/
theorem oneBoundary_firstDay : ∃ signer db c p,
    consentWithin (CashDeal.world 1788220980000000)
      (history (CashDeal.customerSigned 1788220860000000 1788220920000000)) CashDeal.representative
      CONSENT_TEXT_VERSION .staff (some CashDeal.manager) = (.ok signer, db) ∧
    signContext db signer = .ok (c, p) ∧
    OneBoundary (CashDeal.world 1788220980000000) db signer (CashDeal.intent CashDeal.sentSha256)
      .staff (some CashDeal.manager) CashDeal.clock c 1788220980000000 := by
  obtain ⟨signer, db, c, p, hconsent, hdb, hctx, hconsented, hexpires, -⟩ :=
    CashDeal.exists_readyToSign (CashDeal.world 1788220980000000)
  have hinstant : signingInstant (CashDeal.world 1788220980000000).now signer.consented_at
      CashDeal.midnight = 1788220980000000 := by
    rw [hconsented]
    rfl
  refine ⟨signer, db, c, p, hconsent, hctx,
    (oneBoundary_iff _ _ _ hctx (CashDeal.cast_clock _) hinstant hdb ?_ (by decide)).mpr (.inl ?_)⟩
  · rw [hexpires]
    decide
  · rw [hexpires]
    decide

/-- The representative signs at the very instant the ceremony expires: the sweep would
expire it, and the signature is recorded. -/
theorem not_oneBoundary_lastDay : ∃ signer db c p,
    consentWithin CashDeal.lastDay
      (history (CashDeal.customerSigned 1788220860000000 1788220920000000)) CashDeal.representative
      CONSENT_TEXT_VERSION .staff (some CashDeal.manager) = (.ok signer, db) ∧
    signContext db signer = .ok (c, p) ∧ c.expires_at = 1789430400000000 ∧
    ¬ OneBoundary CashDeal.lastDay db signer (CashDeal.intent CashDeal.sentSha256) .staff
      (some CashDeal.manager) "2026-09-15T00:00:00.000Z" c 1789430400000000 := by
  obtain ⟨signer, db, c, p, hconsent, hdb, hctx, hconsented, hexpires, hpasses⟩ :=
    CashDeal.exists_readyToSign CashDeal.lastDay
  refine ⟨signer, db, c, p, hconsent, hctx, hexpires, ?_⟩
  have hinstant : signingInstant CashDeal.lastDay.now signer.consented_at 1789430400000000 =
      1789430400000000 := by
    rw [hconsented]
    rfl
  have hlive : expiredAt c 1789430400000000 = false := by
    rw [expiredAt, hexpires]
    decide +kernel
  obtain ⟨view, c', p', completed, d, hsigned⟩ := (signWithin_records_iff
    (CashDeal.intent CashDeal.sentSha256) .staff (some CashDeal.manager) hctx CashDeal.cast_lastDay
    hinstant hdb).mpr ⟨hlive, hpasses⟩
  intro h
  have hnotDue := h.recorded view c' p' completed d hsigned
  obtain ⟨-, -, -, hopen, -, -⟩ := of_signContext_eq_ok hctx
  have hdue : c.due 1789430400000000 = true := (due_iff hopen).mpr (by rw [hexpires])
  rw [hdue] at hnotDue
  cases hnotDue

end Dealership.Jacket
