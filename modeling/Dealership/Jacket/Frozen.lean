import Dealership.Jacket.Lockstep

/-!
# Closed ceremonies

What is on file for a ceremony is its row, its signers, its package and the events
its signers left.  The signers' entry points look at the ceremony before they write,
each in its own way, and write only to an open one; `openSignerSession` does not
look.  So what is on file for a closed ceremony stays as it is as long as nobody
looks into it for the first time.
-/

namespace Dealership.Jacket

open Library List

/-- The states a ceremony does not come back from. -/
def CeremonyState.closed : CeremonyState → Bool
  | .completed | .declined | .expired | .voided => true
  | .created | .sent | .in_progress => false

structure CeremonyFile where
  ceremonies : List Ceremony
  signers : List Signer
  packages : List Package
  signerEvents : List CeremonyEvent

def Cabinet.fileOf (db : Cabinet) (c : Ceremony) : CeremonyFile where
  ceremonies := db.signing_ceremonies.filter fun r => r.ceremony_id = c.ceremony_id
  signers := db.ceremony_signers.filter fun s => s.ceremony_id = c.ceremony_id
  packages := db.jacket_packages.filter fun p => p.package_id = c.package_id
  signerEvents := db.ceremony_events.filter fun e =>
    e.ceremony_id = c.ceremony_id ∧ e.lane = .signer

def Call.reachesCeremonies : Call → Bool
  | .openSignerSession .. | .consentToElectronicRecords .. | .signAsCustomer ..
  | .signAsDealerRepresentative .. | .declineAsCustomer .. | .sendPackage ..
  | .expireDueCeremoniesForTenant .. => true
  | _ => false

/-- Nobody looks for the first time into a ceremony that is closed. -/
def LooksWhileOpen (db : Cabinet) : Call → Prop
  | .openSignerSession w token now => ∀ s, laneSigner w db token now = .ok s →
      s.viewed_at = none → (s.state = .pending ∨ s.state = .invited) →
      ∀ c ∈ db.signing_ceremonies, c.ceremony_id = s.ceremony_id → c.state.closed = false
  | _ => True

/-! ## Statements -/

theorem filter_append_left {ρ : Type} {p : ρ → Bool} {new : List ρ} (t : List ρ)
    (h : ∀ r ∈ new, p r ≠ true) : (t ++ new).filter p = t.filter p := by
  rw [filter_append, filter_eq_nil_iff.mpr h, append_nil]

section Statements

variable {db : Cabinet} {c : Ceremony}

theorem fileOf_updateSigners {hit : Signer → Bool} {f : Signer → Signer}
    (hkey : ∀ s, (f s).ceremony_id = s.ceremony_id)
    (hmiss : ∀ s ∈ db.ceremony_signers, hit s = true → s.ceremony_id ≠ c.ceremony_id) :
    (db.updateSigners hit f).fileOf c = db.fileOf c := by
  exact congrArg (fun ss => { db.fileOf c with signers := ss }) (filter_key_updateWhere hmiss hkey)

theorem fileOf_updateCeremony {ceremonyId : String} {f : Ceremony → Ceremony}
    (hkey : ∀ r, (f r).ceremony_id = r.ceremony_id) (hne : ceremonyId ≠ c.ceremony_id) :
    (db.updateCeremonies (fun r => r.ceremony_id = ceremonyId) f).fileOf c = db.fileOf c := by
  have hmiss : ∀ r ∈ db.signing_ceremonies, decide (r.ceremony_id = ceremonyId) = true →
      r.ceremony_id ≠ c.ceremony_id := fun r _ hh => of_decide_eq_true hh ▸ hne
  exact congrArg (fun cs => { db.fileOf c with ceremonies := cs })
    (filter_key_updateWhere hmiss hkey)

theorem fileOf_setPackages {hit : Package → Bool} {f : Package → Package}
    (hkey : ∀ p, (f p).package_id = p.package_id)
    (hmiss : ∀ p ∈ db.jacket_packages, hit p = true → p.package_id ≠ c.package_id) :
    (db.setPackages hit f).fileOf c = db.fileOf c := by
  exact congrArg (fun ps => { db.fileOf c with packages := ps }) (filter_key_updateWhere hmiss hkey)

theorem fileOf_updatePackages {hit : Package → Bool} {f : Package → Package} {db' : Cabinet}
    (h : updatePackages hit f db = .ok db') (hkey : ∀ p, (f p).package_id = p.package_id)
    (hmiss : ∀ p, hit p = true → p.package_id ≠ c.package_id) : db'.fileOf c = db.fileOf c := by
  obtain rfl := updatePackages_eq_ok h
  exact fileOf_setPackages hkey fun p _ => hmiss p

theorem fileOf_event {e : CeremonyEvent}
    (h : ¬ (e.ceremony_id = c.ceremony_id ∧ e.lane = .signer)) :
    (db.recordCeremonyEventWithin e).fileOf c = db.fileOf c := by
  refine congrArg (fun ev => { db.fileOf c with signerEvents := ev })
    (filter_append_left db.ceremony_events (forall_mem_singleton.mpr ?_))
  rw [ne_eq, decide_eq_true_iff]
  exact h

end Statements

/-! ## Commands -/

section Commands

variable {db db' : Cabinet} {w : JacketWorld} {c : Ceremony} (hdb : Coherent db)
  (hc : c ∈ db.signing_ceremonies) (hclosed : c.state.closed = true) {out : SignOutcome}
  {now : String}

theorem not_isOpen_of_closed {state : CeremonyState} (h : state.closed = true) :
    state.isOpen ≠ true := by
  cases state <;> first | exact Bool.false_ne_true | cases h

include hdb in
theorem hit_elsewhere {s : Signer} (hs : s ∈ db.ceremony_signers)
    (hne : s.ceremony_id ≠ c.ceremony_id) : ∀ r ∈ db.ceremony_signers,
    decide (r.signer_id = s.signer_id) = true → r.ceremony_id ≠ c.ceremony_id := by
  intro r hr hh
  rw [hdb.keyed.signer_unique hr hs (of_decide_eq_true hh)]
  exact hne

include hdb in
theorem openSignerSession_fileOf {token : String}
    (hlook : ∀ s, laneSigner w db token now = .ok s → s.viewed_at = none →
      (s.state = .pending ∨ s.state = .invited) → s.ceremony_id ≠ c.ceremony_id) :
    (openSignerSession w db token now).2.fileOf c = db.fileOf c := by
  rw [openSignerSession]
  split
  · rfl
  · rfl
  rename_i signer hsigner
  dsimp only
  rw [viewWithin]
  split
  · rename_i hfirst
    have hne := hlook signer hsigner hfirst.1 hfirst.2
    calc _ = (db.updateSigner signer.signer_id (Signer.looked w.now)).fileOf c :=
          fileOf_event fun he => hne he.1
      _ = db.fileOf c := fileOf_updateSigners (fun _ => rfl)
          (hit_elsewhere hdb (mem_of_laneSigner hsigner) hne)
  · rfl

include hdb hc hclosed

theorem open_elsewhere {r : Ceremony} (hr : r ∈ db.signing_ceremonies)
    (hopen : r.state.isOpen = true) :
    r.ceremony_id ≠ c.ceremony_id ∧ r.package_id ≠ c.package_id := by
  constructor
  · intro he
    rw [hdb.keyed.ceremony_unique hr hc he] at hopen
    exact not_isOpen_of_closed hclosed hopen
  · intro he
    rw [hdb.keyed.ceremony_unique_of_package hr hc he] at hopen
    exact not_isOpen_of_closed hclosed hopen

theorem consentWithin_fileOf {signer : Signer} (hs : signer ∈ db.ceremony_signers)
    (version : String) (lane : EventLane) (actor : Option String) :
    (consentWithin w db signer version lane actor).2.fileOf c = db.fileOf c := by
  rw [consentWithin]
  split
  · rfl
  rename_i hnone
  obtain ⟨-, r, hr, hid, hopen⟩ := of_consentRefusal_eq_none hnone
  have hne : signer.ceremony_id ≠ c.ceremony_id := by
    rw [← hid]
    exact (open_elsewhere hdb hc hclosed hr hopen).1
  calc _ = (db.updateSigner signer.signer_id (Signer.agreed version w.now)).fileOf c :=
        fileOf_event fun he => hne he.1
    _ = db.fileOf c := fileOf_updateSigners (fun _ => rfl) (hit_elsewhere hdb hs hne)

theorem consentToElectronicRecords_fileOf {token version : String} :
    (consentToElectronicRecords w db token version now).2.fileOf c = db.fileOf c := by
  rw [consentToElectronicRecords]
  split
  · rfl
  · rfl
  rename_i signer hsigner
  have hfile := consentWithin_fileOf (w := w) hdb hc hclosed (mem_of_laneSigner hsigner) version
    .signer none
  generalize consentWithin w db signer version .signer none = out at hfile ⊢
  obtain ⟨_ | _ | _ | _ | _, _⟩ := out <;> exact hfile

omit hdb hc hclosed in
theorem recordSignature_fileOf {d : Cabinet} {r : Ceremony} {p : Package} {instant : Int}
    (h : recordSignature r p instant d = .ok db') (hceremony : r.ceremony_id ≠ c.ceremony_id)
    (hpackage : p.package_id ≠ c.package_id) : db'.fileOf c = d.fileOf c := by
  rw [recordSignature] at h
  split at h
  · obtain ⟨d', hd', h⟩ := bind_eq_ok.mp h
    cases h
    have hmiss : ∀ k : Package, decide (k.package_id = p.package_id) = true →
        k.package_id ≠ c.package_id := fun k hk => of_decide_eq_true hk ▸ hpackage
    calc _ = d'.fileOf c := fileOf_event fun he => hceremony he.1
      _ = _ := fileOf_updatePackages hd' (fun _ => rfl) hmiss
      _ = d.fileOf c := fileOf_updateCeremony (fun _ => rfl) hceremony
  · rw [recordProgress] at h
    have hmiss : ∀ k : Package, (decide (k.package_id = p.package_id) && decide (k.state = .sent)) =
        true → k.package_id ≠ c.package_id := fun k hk =>
      of_decide_eq_true (Bool.and_eq_true_iff.mp hk).1 ▸ hpackage
    calc db'.fileOf c = _ := fileOf_updatePackages h (fun _ => rfl) hmiss
      _ = d.fileOf c := fileOf_updateCeremony (fun _ => rfl) hceremony

theorem signWithin_fileOf {signer : Signer} (hs : signer ∈ db.ceremony_signers) {input : SignInput}
    {lane : EventLane} {actor : Option String}
    (h : signWithin w db signer input lane actor now = .ok (out, db')) :
    db'.fileOf c = db.fileOf c := by
  rcases signWithin_eq_ok h with rfl | ⟨r, p, _, hctx, -, -, h⟩
  · rfl
  · obtain ⟨-, hr, hp, hopen, -, -⟩ := of_signContext_eq_ok hctx
    obtain ⟨hceremony, hpackage⟩ := open_elsewhere hdb hc hclosed hr.1 hopen
    have hne : signer.ceremony_id ≠ c.ceremony_id := hr.2 ▸ hceremony
    obtain ⟨d, hd, h⟩ := bind_eq_ok.mp h
    cases h
    calc db'.fileOf c = _ := recordSignature_fileOf hd hceremony (hp.2 ▸ hpackage)
      _ = _ := fileOf_event fun he => hne he.1
      _ = db.fileOf c := fileOf_updateSigners (fun _ => rfl) (hit_elsewhere hdb hs hne)

theorem signAsCustomer_fileOf {token : String} {input : SignInput}
    (h : signAsCustomer w db token input now = .ok (out, db')) : db'.fileOf c = db.fileOf c := by
  rcases signAsCustomer_eq_ok h with rfl | ⟨signer, hsigner, h⟩
  · rfl
  · exact signWithin_fileOf hdb hc hclosed (mem_of_laneSigner hsigner) h

theorem signAsDealerRepresentative_fileOf {input : DealerInput}
    (h : signAsDealerRepresentative w db input = .ok (out, db')) : db'.fileOf c = db.fileOf c := by
  obtain ⟨actor, -, hrun⟩ := bind_eq_ok.mp h
  split at hrun
  · cases hrun
    rfl
  rename_i signer hsigner
  have hmem : signer ∈ db.ceremony_signers := (of_find?_eq_some hsigner).1
  have hfile := consentWithin_fileOf (w := w) hdb hc hclosed hmem input.consentTextVersion .staff
    (some actor)
  have hcases := consentWithin_cases (w := w) hmem input.consentTextVersion .staff (some actor)
  generalize consentWithin w db signer input.consentTextVersion .staff (some actor) = consented
    at hrun hfile hcases
  obtain ⟨answer, d⟩ := consented
  cases answer with
  | ok view =>
    have hd : Coherent d ∧ c ∈ d.signing_ceremonies ∧ view ∈ d.ceremony_signers := by
      rcases hcases with ⟨hsame, hview⟩ | ⟨hok, -, hmove, hrows, hceremonies⟩
      · obtain rfl : d = db := hsame
        rw [hview view rfl]
        exact ⟨hdb, hc, hmem⟩
      · obtain rfl : view = signer.agreed input.consentTextVersion w.now := by
          injection hok
        refine ⟨hmove.coherent hdb, hceremonies ▸ hc, ?_⟩
        rw [hrows]
        exact mem_updateWhere_of_pos hmem (decide_eq_true rfl)
    exact (signWithin_fileOf hd.1 hd.2.1 hclosed hd.2.2 hrun).trans hfile
  | not_found | expired | closed _ | invalid _ =>
    cases hrun
    exact hfile

theorem declineAsCustomer_fileOf {token reason : String} {out : DeclineOutcome}
    (h : declineAsCustomer w db token reason now = .ok (out, db')) :
    db'.fileOf c = db.fileOf c := by
  rcases declineAsCustomer_eq_ok h with rfl | ⟨signer, r, p, hsigner, hctx, rfl⟩
  · rfl
  · obtain ⟨-, hr, hp, hopen⟩ := of_declineContext_eq_ok hctx
    obtain ⟨hceremony, hpackage⟩ := open_elsewhere hdb hc hclosed hr.1 hopen
    have hne : signer.ceremony_id ≠ c.ceremony_id := hr.2 ▸ hceremony
    have hmiss : ∀ k : Package, (decide (k.package_id = p.package_id) && k.state.signable) =
        true → k.package_id ≠ c.package_id := fun k hk =>
      of_decide_eq_true (Bool.and_eq_true_iff.mp hk).1 ▸ hp ▸ hpackage
    refine Eq.trans (fileOf_event fun he => hne he.1) ?_
    refine Eq.trans (fileOf_setPackages (fun _ => rfl) fun k _ => hmiss k) ?_
    refine Eq.trans (fileOf_updateCeremony (fun _ => rfl) hceremony) ?_
    exact fileOf_updateSigners (fun _ => rfl) (hit_elsewhere hdb (mem_of_laneSigner hsigner) hne)

theorem expireDueCeremoniesForTenant_fileOf {limit n : Nat}
    (h : expireDueCeremoniesForTenant w db now limit = .ok (n, db')) :
    db'.fileOf c = db.fileOf c := by
  refine expireDueCeremoniesForTenant_induction (R := fun d d' => d'.fileOf c = d.fileOf c) hdb
    (fun _ => rfl) (fun h h' => h'.trans h) ?_ h
  intro d d' row hrow _ hopen hturn
  obtain ⟨hceremony, hpackage⟩ := open_elsewhere hdb hc hclosed hrow hopen
  have hmiss : ∀ k : Package, (decide (k.package_id = row.package_id) && k.state.signable) =
      true → k.package_id ≠ c.package_id := fun k hk =>
    of_decide_eq_true (Bool.and_eq_true_iff.mp hk).1 ▸ hpackage
  have hsigners : ∀ s : Signer, (decide (s.ceremony_id = row.ceremony_id) && s.state.outstanding) =
      true → s.ceremony_id ≠ c.ceremony_id := fun s hs =>
    of_decide_eq_true (Bool.and_eq_true_iff.mp hs).1 ▸ hceremony
  rw [expireCeremony_eq_ok hturn]
  refine Eq.trans (fileOf_event fun he => hceremony he.1) ?_
  refine Eq.trans (fileOf_setPackages (fun _ => rfl) fun k _ => hmiss k) ?_
  refine Eq.trans (fileOf_updateSigners (fun _ => rfl) fun s _ => hsigners s) ?_
  exact fileOf_updateCeremony (fun _ => rfl) hceremony

omit hclosed in
theorem sendPackage_fileOf {input : SendInput} {out : SendOutcome}
    (h : sendPackage w db input = .ok (out, db')) : db'.fileOf c = db.fileOf c := by
  rcases sendPackage_eq_ok h with ⟨rfl, -⟩ | ⟨pkg, -, -, new, signers, hit, actor, -, hsends⟩
  · rfl
  have hceremony : new.ceremony_id ≠ c.ceremony_id := fun he => hsends.fresh c hc he.symm
  have hceremonies : ∀ r ∈ [new], decide (r.ceremony_id = c.ceremony_id) ≠ true :=
    forall_mem_singleton.mpr (by simpa using hceremony)
  have hsigners : ∀ s ∈ signers, decide (s.ceremony_id = c.ceremony_id) ≠ true := by
    intro s hs
    rw [(hsends.invited s hs).1]
    simpa using hceremony
  have hevents : ∀ e ∈ ⟨new.ceremony_id, none, "ceremony.created", .staff, some actor⟩ ::
      signers.map invitationEvent,
      decide (e.ceremony_id = c.ceremony_id ∧ e.lane = .signer) ≠ true := by
    -- the staff and the system wrote them
    intro e he
    rw [ne_eq, decide_eq_true_iff]
    rcases mem_cons.mp he with rfl | he
    · exact fun hlane => nomatch hlane.2
    · obtain ⟨s, -, rfl⟩ := mem_map.mp he
      exact fun hlane => nomatch hlane.2
  have hpackages : (updateWhere (fun k => hit k = true) (Package.moved .sent none)
      db.jacket_packages).filter (fun p => p.package_id = c.package_id) =
      db.jacket_packages.filter fun p => p.package_id = c.package_id := by
    refine filter_key_updateWhere fun p _ hh he => ?_
    exact hsends.first c hc (he.symm.trans ((hsends.ready p hh).1.trans hsends.ofPackage.symm))
  rw [hsends.after, Cabinet.fileOf, filter_append_left _ hceremonies,
    filter_append_left _ hsigners, filter_append_left _ hevents, hpackages]
  rfl

omit hdb hc hclosed in
theorem committed_fileOf {α : Type} {r : Except Raise (α × Cabinet)}
    (h : ∀ out after, r = .ok (out, after) → after.fileOf c = db.fileOf c) :
    (committed db r).fileOf c = db.fileOf c :=
  committed_induction (P := fun d : Cabinet => d.fileOf c = db.fileOf c) rfl h

/-- A call that reaches ceremonies leaves the file of a closed one as it is, unless it
looks into it for the first time. -/
theorem step_fileOf {call : Call} (hcall : call.reachesCeremonies = true)
    (hlook : LooksWhileOpen db call) : (step db call).fileOf c = db.fileOf c := by
  cases call with
  | openSignerSession w token now =>
    refine openSignerSession_fileOf hdb fun s hs hunviewed hearly he => ?_
    have hopen := hlook s hs hunviewed hearly c hc he.symm
    rw [hclosed] at hopen
    cases hopen
  | consentToElectronicRecords w token version now =>
    exact consentToElectronicRecords_fileOf hdb hc hclosed
  | signAsCustomer w token input now =>
    exact committed_fileOf fun _ _ h => signAsCustomer_fileOf hdb hc hclosed h
  | signAsDealerRepresentative w input =>
    exact committed_fileOf fun _ _ h => signAsDealerRepresentative_fileOf hdb hc hclosed h
  | declineAsCustomer w token reason now =>
    exact committed_fileOf fun _ _ h => declineAsCustomer_fileOf hdb hc hclosed h
  | sendPackage w input =>
    exact committed_fileOf fun _ _ h => sendPackage_fileOf hdb hc h
  | expireDueCeremoniesForTenant w now limit =>
    exact committed_fileOf fun _ _ h =>
      expireDueCeremoniesForTenant_fileOf hdb hc hclosed h
  | openJacket | satisfyWithEvidence | waiveRequirement | assemblePackage | markReviewReady
  | reviewPackage | voidPackage | voidJacket => cases hcall

end Commands

/-- What is on file for a closed ceremony stays as it is. -/
theorem closed_frozen {calls more : List Call} {c : Ceremony}
    (hc : c ∈ (history calls).signing_ceremonies) (hclosed : c.state.closed = true)
    (hcalls : ∀ call ∈ more, call.reachesCeremonies = true)
    (h : Along step LooksWhileOpen (history calls) more) :
    (run step (history calls) more).fileOf c = (history calls).fileOf c := by
  have hdb := history_coherent calls
  generalize history calls = db at hc h hdb ⊢
  induction more generalizing db with
  | nil => rfl
  | cons call more ih =>
    have hfile := step_fileOf hdb hc hclosed (hcalls call mem_cons_self) h.1
    have hafter : c ∈ ((step db call).fileOf c).ceremonies := by
      rw [hfile]
      exact mem_filter.mpr ⟨hc, decide_eq_true rfl⟩
    rw [run_cons, ← hfile]
    exact ih (fun call hcall => hcalls call (mem_cons_of_mem _ hcall)) _
      (mem_of_mem_filter hafter) h.2 (step_coherent hdb call)

namespace CashDeal

/-- The package is voided before the customer opened their link. -/
def voidedUnopened : List Call :=
  opening ++ [.voidPackage (world 1788220980000000) ⟨⟨manager, packageId, 4⟩, "changed their mind"⟩]

theorem history_voidedUnopened : ∃ p c pf bl docs ev,
    history voidedUnopened = rows (jacket .open 2) p c customer representative pf bl docs ev ∧
      c.ceremony_id = ceremonyId ∧ c.state = .voided := by
  obtain ⟨f, sha, env, pf, bl, docs, ev, hopening⟩ := opening_sent
  rw [history, voidedUnopened, run_append, ← history, hopening, run_cons, run_nil]
  exact ⟨_, _, _, _, _, _, rfl, rfl, rfl⟩

/-- The customer's link after the package was voided, and the sweep. -/
def afterVoided : List Call :=
  [ .openSignerSession (world 1788221040000000) link clock,
    .consentToElectronicRecords (world 1788221040000000) link CONSENT_TEXT_VERSION clock,
    .expireDueCeremoniesForTenant (world 1788221040000000) clock 10 ]

end CashDeal

/-- The customer who had signed before the package was voided looks again. -/
theorem closed_frozen_afterVoided : ∃ c ∈ (history CashDeal.voidedHalfSigned).signing_ceremonies,
    c.state = .voided ∧
    (run step (history CashDeal.voidedHalfSigned) CashDeal.afterVoided).fileOf c =
      (history CashDeal.voidedHalfSigned).fileOf c := by
  obtain ⟨p, c, s, pf, bl, docs, ev, hrows, -, hvoided, -, hsigned⟩ :=
    CashDeal.history_voidedHalfSigned
  have hc : c ∈ (history CashDeal.voidedHalfSigned).signing_ceremonies := by
    rw [hrows]
    exact mem_cons_self
  refine ⟨c, hc, hvoided, closed_frozen hc (by rw [hvoided]; rfl) (by decide) ⟨?_, trivial, trivial,
    trivial⟩⟩
  intro r hr hunviewed hearly
  -- only the customer has a link, and the customer has signed
  obtain ⟨hmem, hlane⟩ := of_laneSigner hr
  rw [hrows] at hmem
  rcases mem_cons.mp hmem with rfl | hmem
  · rw [hsigned] at hearly
    rcases hearly with h | h <;> cases h
  · rw [mem_singleton.mp hmem] at hlane
    cases hlane

/-- The customer opens their link for the first time after the package was voided. -/
theorem not_frozen_voidedUnopened : ∃ c ∈ (history CashDeal.voidedUnopened).signing_ceremonies,
    c.state.closed = true ∧
    (run step (history CashDeal.voidedUnopened)
      [.openSignerSession (CashDeal.world 1788221040000000) CashDeal.link CashDeal.clock]).fileOf c ≠
      (history CashDeal.voidedUnopened).fileOf c := by
  obtain ⟨p, c, pf, bl, docs, ev, hrows, hid, hvoided⟩ := CashDeal.history_voidedUnopened
  have hlive : tokenExpired CashDeal.customer CashDeal.clock = false := by decide +kernel
  rw [hrows]
  refine ⟨c, mem_cons_self, by rw [hvoided]; rfl, ?_⟩
  have hlook : run step (CashDeal.rows (CashDeal.jacket .open 2) p c CashDeal.customer
      CashDeal.representative pf bl docs ev)
      [.openSignerSession (CashDeal.world 1788221040000000) CashDeal.link CashDeal.clock] =
      CashDeal.rows (CashDeal.jacket .open 2) p c (CashDeal.customer.looked 1788221040000000)
        CashDeal.representative pf bl docs
        (ev ++ [signerEvent CashDeal.customer "signer.viewed" .signer none]) := by
    rw [run_cons, run_nil, step, openSignerSession,
      CashDeal.laneSigner_link pf bl docs ev 1788221040000000 _ _ _ CashDeal.customer rfl rfl hlive]
    rfl
  rw [hlook]
  intro hsame
  have hmem : CashDeal.customer.looked 1788221040000000 ∈ ((CashDeal.rows (CashDeal.jacket .open 2)
      p c CashDeal.customer CashDeal.representative pf bl docs ev).fileOf c).signers := by
    rw [← hsame]
    exact mem_filter.mpr ⟨mem_cons_self, decide_eq_true hid.symm⟩
  have hrow : CashDeal.customer.looked 1788221040000000 ∈
      [CashDeal.customer, CashDeal.representative] := (mem_filter.mp hmem).1
  rcases mem_cons.mp hrow with h | h
  · exact SignerState.noConfusion (congrArg Signer.state h)
  · exact SignerState.noConfusion (congrArg Signer.state (mem_singleton.mp h))

end Dealership.Jacket
