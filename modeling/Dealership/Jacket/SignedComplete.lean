import Dealership.Jacket.Lockstep

/-!
# A jacket that says it is signed

The last signature completes the ceremony, the package and the jacket together.
The next version supersedes a completed package and opens the jacket again, unless
one of its documents does not render: that branch writes a voided version, leaves
the package superseded and does not touch the state of the jacket.

So a jacket that says it is signed is signed as long as no signed jacket is
assembled again into a version that fails to render.
-/

namespace Dealership.Jacket

open Library List

/-- The jacket has a completed package whose ceremony is completed. -/
def Finished (packages : List Package) (ceremonies : List Ceremony) (jacketId : String) : Prop :=
  ∃ p ∈ packages, p.jacket_id = jacketId ∧ p.state = .signed_complete ∧
    ∃ c ∈ ceremonies, c.package_id = p.package_id ∧ c.state = .completed

def SignedIsSigned (db : Cabinet) : Prop :=
  ∀ j ∈ db.deal_jackets, j.state = .signed_complete →
    Finished db.jacket_packages db.signing_ceremonies j.jacket_id

/-- A signed jacket is not assembled again into a version that fails to render. -/
def RendersWhenSigned (db : Cabinet) : Call → Prop
  | .assemblePackage w input => ∀ j a, input.Writes w db j a → j.state = .signed_complete →
      a.failed = false
  | _ => True

section Statements

variable {ps : List Package} {cs : List Ceremony} {jacketId : String}

theorem Finished.updateWhere (h : Finished ps cs jacketId) {hp : Package → Prop} [DecidablePred hp]
    {hc : Ceremony → Prop} [DecidablePred hc] {fp : Package → Package} {fc : Ceremony → Ceremony}
    (hpst : ∀ k ∈ ps, hp k → k.jacket_id = jacketId → k.state = .signed_complete →
      (fp k).key = k.key ∧ (fp k).state = .signed_complete)
    (hcst : ∀ c ∈ cs, hc c → c.state ≠ .completed) :
    Finished (updateWhere hp fp ps) (updateWhere hc fc cs) jacketId := by
  obtain ⟨p, hpm, hj, hst, c, hcm, hid, hcompleted⟩ := h
  have hcmem : c ∈ Library.updateWhere hc fc cs :=
    mem_updateWhere_of_neg hcm fun hh => hcst c hcm hh hcompleted
  by_cases hh : hp p
  · obtain ⟨hkey, hst'⟩ := hpst p hpm hh hj hst
    refine ⟨fp p, mem_updateWhere_of_pos hpm hh, ?_, hst', c, hcmem, ?_, hcompleted⟩
    · exact (congrArg Prod.snd hkey).trans hj
    · exact hid.trans (congrArg Prod.fst hkey).symm
  · exact ⟨p, mem_updateWhere_of_neg hpm hh, hj, hst, c, hcmem, hid, hcompleted⟩

theorem Finished.updatePackages (h : Finished ps cs jacketId) {hp : Package → Prop}
    [DecidablePred hp] {fp : Package → Package}
    (hpst : ∀ k ∈ ps, hp k → k.state ≠ .signed_complete) :
    Finished (Library.updateWhere hp fp ps) cs jacketId := by
  obtain ⟨p, hpm, hj, hst, hc⟩ := h
  exact ⟨p, mem_updateWhere_of_neg hpm fun hh => hpst p hpm hh hst, hj, hst, hc⟩

theorem Finished.append_package (h : Finished ps cs jacketId) (p : Package) :
    Finished (ps ++ [p]) cs jacketId := by
  obtain ⟨k, hk, hj, hst, hc⟩ := h
  exact ⟨k, mem_append_left _ hk, hj, hst, hc⟩

theorem Finished.append_ceremony (h : Finished ps cs jacketId) (c : Ceremony) :
    Finished ps (cs ++ [c]) jacketId := by
  obtain ⟨p, hp, hj, hst, r, hr, hid, hcompleted⟩ := h
  exact ⟨p, hp, hj, hst, r, mem_append_left _ hr, hid, hcompleted⟩

end Statements

/-- The version that steps aside belongs to its own jacket. -/
theorem Finished.retired {db : Cabinet} (hdb : Coherent db) {jacketId otherId : String}
    {predecessor : Option Package} (reason : Option String)
    (hpred : IsPredecessor db otherId predecessor) (hne : jacketId ≠ otherId)
    (h : Finished db.jacket_packages db.signing_ceremonies jacketId) :
    Finished (retired predecessor reason db.jacket_packages)
      (retiredCeremonies predecessor db.signing_ceremonies) jacketId := by
  refine h.updateWhere (fun k hk hhit hj _ => ?_) fun c _ hhit hcompleted => ?_
  · exact absurd (hj.symm.trans (standing_of_predecessor hdb hpred hk hhit).2) hne
  · have hunfinished := hhit.2
    rw [hcompleted] at hunfinished
    exact Bool.false_ne_true hunfinished

theorem ne_completed_of_isOpen {s : CeremonyState} (h : s.isOpen = true) : s ≠ .completed := by
  rintro rfl
  exact Bool.false_ne_true h

theorem ne_signedComplete_of_signable {s : PackageState} (h : s.signable = true) :
    s ≠ .signed_complete := by
  rintro rfl
  exact Bool.false_ne_true h

theorem ne_signedComplete_of_live {s : PackageState} (h : s.live = true) :
    s ≠ .signed_complete := by
  rintro rfl
  exact Bool.false_ne_true h

section Moves

variable {db : Cabinet} (hdb : Coherent db) (h : SignedIsSigned db)
include hdb h

theorem SignedIsSigned.version {j : DealJacket} {predecessor : Option Package}
    {reason : Option String} {p : Package} {f : DealJacket → DealJacket} {items pf bl docs ev}
    (hpred : IsPredecessor db j.jacket_id predecessor)
    (hf : ∀ r ∈ db.deal_jackets, r.jacket_id = j.jacket_id → (f r).state ≠ .signed_complete) :
    SignedIsSigned
      ⟨updateWhere (fun r => r.jacket_id = j.jacket_id) f db.deal_jackets, items,
        retired predecessor reason db.jacket_packages ++ [p], pf, bl, docs,
        retiredCeremonies predecessor db.signing_ceremonies, db.ceremony_signers, ev⟩ := by
  intro r' hr' hsigned
  rcases updateWhere_cases hr' with ⟨hr, hne⟩ | ⟨r, hr, hid, rfl⟩
  · exact ((h r' hr hsigned).retired hdb reason hpred hne).append_package p
  · exact absurd hsigned (hf r hr hid)

theorem SignedIsSigned.together {c : Ceremony} {hit : Package → Prop} [DecidablePred hit]
    {fp : Package → Package} {fc : Ceremony → Ceremony} (hc : c ∈ db.signing_ceremonies)
    (hopen : c.state.isOpen = true)
    (hhit : ∀ k ∈ db.jacket_packages, hit k → k.state ≠ .signed_complete) :
    ∀ j ∈ db.deal_jackets, j.state = .signed_complete →
      Finished (updateWhere hit fp db.jacket_packages)
        (updateWhere (fun r => decide (r.ceremony_id = c.ceremony_id) = true) fc
          db.signing_ceremonies) j.jacket_id := by
  intro j hj hsigned
  refine (h j hj hsigned).updateWhere (fun k hk hh _ hst => absurd hst (hhit k hk hh)) ?_
  intro r hr hid
  rw [hdb.keyed.ceremony_unique hr hc (of_decide_eq_true hid)]
  exact ne_completed_of_isOpen hopen

theorem SignedIsSigned.completed {s : Signer} {c : Ceremony} {p : Package} {instant : Int}
    {sha256 : Digest} {pf bl ev} (sg : Signable db s c p instant) :
    SignedIsSigned
      ⟨updateWhere (fun j => j.jacket_id = c.jacket_id) (DealJacket.moved .signed_complete)
          db.deal_jackets,
        db.jacket_checklist_items,
        updateWhere (fun k => decide (k.package_id = p.package_id) = true)
          (Package.moved .signed_complete none) db.jacket_packages, pf, bl, db.package_documents,
        updateWhere (fun r => decide (r.ceremony_id = c.ceremony_id) = true)
          (Ceremony.completedAt instant sha256) db.signing_ceremonies,
        signersAfter db s c instant, ev⟩ := by
  intro j' hj' hsigned
  rcases updateWhere_cases hj' with ⟨hj, -⟩ | ⟨j, -, hid, rfl⟩
  · refine SignedIsSigned.together hdb h sg.ceremony sg.isOpen (fun k hk hh => ?_) j' hj hsigned
    exact ne_signedComplete_of_signable (signable_of_isOpen hdb sg.ceremony sg.isOpen hk
      ((of_decide_eq_true hh).trans sg.ofPackage))
  · obtain ⟨k, hk, hkid, hkj⟩ := hdb.keyed.exists_package sg.ceremony
    refine ⟨Package.moved .signed_complete none k, mem_updateWhere_of_pos hk ?_,
      hkj.trans hid.symm, rfl, Ceremony.completedAt instant sha256 c,
      mem_updateWhere_of_pos sg.ceremony (decide_eq_true rfl), hkid.symm, rfl⟩
    exact decide_eq_true (hkid.trans sg.ofPackage.symm)

end Moves

theorem Move.signedIsSigned {db db' : Cabinet} {l : Label} (hdb : Coherent db)
    (h : SignedIsSigned db) (m : Move db l db')
    (hl : ∀ j, l = .failed j → j.state ≠ .signed_complete) : SignedIsSigned db' := by
  cases m with
  | opened j items pf bl ev fresh isOpen kept =>
    intro r hr hsigned
    rcases mem_inserted hr with hr | rfl
    · exact h r hr hsigned
    · rw [isOpen] at hsigned
      cases hsigned
  | evidenced | waived | viewed | consented => exact h
  | failed j predecessor reason p bump pf bl ev jacket ofJacket stands fresh isVoided bumped =>
    refine SignedIsSigned.version hdb h stands fun r hr hid => ?_
    rw [(bumped r).2, hdb.keyed.jacket_unique hr jacket hid]
    exact hl j rfl
  | assembled j predecessor reason p documents items pf bl ev jacket ofJacket stands =>
    exact SignedIsSigned.version hdb h stands fun _ _ _ => JacketState.noConfusion
  | readied hit pf bl ev draft =>
    intro j hj hsigned
    refine (h j hj hsigned).updatePackages fun k hk hh hst => ?_
    rw [draft k hk hh] at hst
    cases hst
  | reviewed hit actor now =>
    intro j hj hsigned
    obtain ⟨k, hk, hkj, hst, hceremony⟩ := h j hj hsigned
    by_cases hh : hit k = true
    · exact ⟨k.stamped actor now, mem_updateWhere_of_pos hk hh, hkj, hst, hceremony⟩
    · exact ⟨k, mem_updateWhere_of_neg hk hh, hkj, hst, hceremony⟩
  | sent p hit c signers pf bl ev package hits ready =>
    intro j hj hsigned
    refine ((h j hj hsigned).updatePackages fun k hk hh hst => ?_).append_ceremony c
    rw [(ready k hk hh).2] at hst
    cases hst
  | progressed s c p instant pf bl ev signable more =>
    refine SignedIsSigned.together hdb h signable.ceremony signable.isOpen fun k _ hh => ?_
    rw [Bool.and_eq_true, decide_eq_true_iff, decide_eq_true_iff] at hh
    rw [hh.2]
    exact PackageState.noConfusion
  | completed s c p instant sha256 pf bl ev signable last certified =>
    exact SignedIsSigned.completed hdb h signable
  | declined s c p reason now pf bl ev signer ceremony ofCeremony ofPackage isOpen unsigned =>
    refine SignedIsSigned.together hdb h ceremony isOpen fun k _ hh => ?_
    exact ne_signedComplete_of_signable (Bool.and_eq_true_iff.mp hh).2
  | voidedPackage p hit reason pf bl ev package hits isLive =>
    intro j hj hsigned
    refine (h j hj hsigned).updateWhere (fun k hk hh _ hst => ?_) fun c _ hh hcompleted => ?_
    · exact absurd hst (ne_signedComplete_of_live (isLive k hk hh).2)
    · have hunfinished := (Bool.and_eq_true_iff.mp hh).2
      rw [hcompleted] at hunfinished
      exact Bool.false_ne_true hunfinished
  | voidedJacket jacketId pf bl ev =>
    intro j' hj' hsigned
    rcases updateWhere_cases hj' with ⟨hj, -⟩ | ⟨j, -, -, rfl⟩
    · exact h j' hj hsigned
    · cases hsigned
  | expired c reason pf bl ev ceremony isOpen =>
    refine SignedIsSigned.together hdb h ceremony isOpen fun k _ hh => ?_
    exact ne_signedComplete_of_signable (Bool.and_eq_true_iff.mp hh).2

/-- In every history whose assemblies of signed jackets render, a jacket that says
it is signed is signed. -/
theorem signedIsSigned_of_renders {calls : List Call}
    (h : Along step RendersWhenSigned Cabinet.empty calls) : SignedIsSigned (history calls) := by
  refine history_invariant (fun j hj => absurd hj not_mem_nil) ?_ h
  intro db call a l b hc ha hi hl hm
  refine hm.signedIsSigned ha hi fun j hj hsigned => ?_
  rw [hj] at hl
  obtain ⟨-, w, input, asm, rfl, hwrites, hfailed⟩ := hl
  rw [hc j asm hwrites hsigned] at hfailed
  exact Bool.false_ne_true hfailed

namespace CashDeal

def signedDeal : List Call := bothSigned 1788220860000000 1788220920000000 1788220980000000

/-- The template is no longer in force when the jacket is assembled again. -/
def afterwards (now : Int) : JacketWorld :=
  { world now with
    configuration := ⟨[{ buyersOrder with effective_to := some midnight }],
      [orderRequired, insuranceRequired],
      [⟨"6a000000-0000-4000-8004-000000000001", "deal_jacket_documents", 1, 0, none⟩]⟩
    newPackageId := "6a000000-0000-4000-8000-00000000000e" }

/-- A new version of the signed deal, which does not render. -/
def reassembled : List Call :=
  signedDeal ++ [.assemblePackage (afterwards 1788221040000000) ⟨manager, jacketId, 3⟩]

theorem step_reassemble (f sha : Digest) (env : String) (pf : List (String × AssembledField))
    (bl : List Blob) (docs : List PackageDocument) (ev : List CeremonyEvent)
    (consented signed now : Int) (signature signature' cert : Digest) : ∃ p q pf' cs ss,
    step (fullySigned f sha env pf bl docs ev consented signed now signature signature' cert)
      (.assemblePackage (afterwards 1788221040000000) ⟨manager, jacketId, 3⟩) =
      ⟨[jacket .signed_complete 4], items, [p, q], pf', bl, docs, cs, ss, ev⟩ ∧
      p.state = .superseded ∧ q.state = .voided := by
  have hwrite := assemblePackage_eq (afterwards 1788221040000000)
    (fullySigned f sha env pf bl docs ev consented signed now signature signature' cert)
    ⟨manager, jacketId, 3⟩ requireActor_manager rfl rfl rfl (cast_clock 1788221040000000) rfl rfl rfl
  rw [step, hwrite]
  exact ⟨_, _, _, _, _, rfl, rfl, rfl⟩

theorem history_reassembled : ∃ p q pf bl docs cs ss ev,
    history reassembled =
      ⟨[jacket .signed_complete 4], items, [p, q], pf, bl, docs, cs, ss, ev⟩ ∧
      p.state = .superseded ∧ q.state = .voided := by
  obtain ⟨f, env, pf, bl, docs, ev, cert, hsigned⟩ := history_bothSigned
    (by decide : midnight ≤ 1788220920000000 ∧ (1788220860000000 : Int) ≤ 1788220920000000)
    (by decide : midnight ≤ 1788220980000000) (by decide +kernel) (by decide +kernel)
  obtain ⟨p, q, pf', cs, ss, hstep, hp, hq⟩ := step_reassemble f sentSha256 env pf bl docs ev
    1788220860000000 1788220920000000 1788220980000000 _ _ cert
  refine ⟨p, q, pf', bl, docs, cs, ss, ev, ?_, hp, hq⟩
  rw [history, reassembled, run_append, signedDeal, ← history, hsigned, run_cons, run_nil, hstep]

end CashDeal

/-- A signed jacket assembled again into a version that does not render: it says it
is signed, and its packages are superseded and voided. -/
theorem not_signedIsSigned_of_reassembled : ¬ SignedIsSigned (history CashDeal.reassembled) := by
  obtain ⟨p, q, pf, bl, docs, cs, ss, ev, hrows, hp, hq⟩ := CashDeal.history_reassembled
  rw [hrows]
  intro h
  obtain ⟨k, hk, -, hst, -⟩ := h _ mem_cons_self rfl
  rcases mem_cons.mp hk with rfl | hk
  · rw [hp] at hst
    cases hst
  · rw [mem_singleton.mp hk, hq] at hst
    cases hst

/-- The deal signed by both is assembled once, before anything is signed. -/
theorem signedIsSigned_signedDeal : SignedIsSigned (history CashDeal.signedDeal) := by
  refine signedIsSigned_of_renders ⟨trivial, ?_, trivial, trivial, trivial, trivial, trivial, trivial⟩
  rintro j a ⟨actor, _, _, _, _, -, hjacket, -⟩ hsigned
  have hrows : (step Cabinet.empty (.openJacket (CashDeal.world CashDeal.midnight) CashDeal.manager
      CashDeal.scenario.desking_case_id)).deal_jackets = [CashDeal.jacket .open 1] := rfl
  have hmem := (of_requireJacketWithin hjacket).1
  rw [hrows, mem_singleton] at hmem
  rw [hmem] at hsigned
  cases hsigned

end Dealership.Jacket
