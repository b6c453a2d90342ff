import Dealership.Jacket.Lockstep

/-!
# The instants of a ceremony

A signature is recorded at the latest of three instants: the start of its
transaction, the signer's consent and the caller's clock.  None of them is another
signer's.  A transaction that started first and waited for the earlier signer's lock
signs at an instant before the signature it waited for; and a consent is recorded at
the start of its own transaction, whenever the first look was.

So the instants of a completed ceremony are in order when every consent is recorded
no earlier than the look it follows, and every signature no earlier than those the
ceremony already has.
-/

namespace Dealership.Jacket

open Library List

/-- The latest signature of a ceremony is its instant of completion. -/
def CompletedAtLast (ss : List Signer) (c : Ceremony) : Prop :=
  ∃ completed, c.completed_at = some completed ∧
    (∃ s ∈ ss, s.ceremony_id = c.ceremony_id ∧ s.signed_at = some completed) ∧
    ∀ s ∈ ss, s.ceremony_id = c.ceremony_id → ∀ t, s.signed_at = some t → t ≤ completed

/-- The instants of a ceremony are ordered as the ceremony is. -/
structure InOrder (db : Cabinet) (c : Ceremony) : Prop where
  /-- Each signer viewed, consented, confirmed and signed, in this order. -/
  each : ∀ s ∈ db.ceremony_signers, s.ceremony_id = c.ceremony_id →
    ∃ viewed consented confirmed signed, s.viewed_at = some viewed ∧
      s.consented_at = some consented ∧ s.intent_confirmed_at = some confirmed ∧
      s.signed_at = some signed ∧ viewed ≤ consented ∧ consented ≤ confirmed ∧ confirmed ≤ signed
  /-- The signers signed in the order of the ceremony. -/
  between : ∀ r ∈ db.ceremony_signers, ∀ s ∈ db.ceremony_signers, r.ceremony_id = c.ceremony_id →
    s.ceremony_id = c.ceremony_id → r.signing_order < s.signing_order →
    ∀ t u, r.signed_at = some t → s.signed_at = some u → t ≤ u
  /-- The ceremony was completed at the last signature. -/
  last : CompletedAtLast db.ceremony_signers c

/-- A consent is recorded no earlier than the look it follows, and a signature no
earlier than those its open ceremony has. -/
def ClocksAgree (db : Cabinet) (call : Call) : Prop :=
  ∀ c ∈ db.signing_ceremonies, c.state.isOpen = true →
    (∀ s t, call.Consents db s t → c.ceremony_id = s.ceremony_id →
      ∀ viewed, s.viewed_at = some viewed → viewed ≤ t) ∧
    (∀ s t, call.Signs db s t → c.ceremony_id = s.ceremony_id →
      ∀ r ∈ db.ceremony_signers, r.ceremony_id = s.ceremony_id →
        ∀ signed, r.signed_at = some signed → signed ≤ t)

/-- What the instants recorded so far say. -/
structure Timed (cs : List Ceremony) (ss : List Signer) : Prop where
  viewed : ∀ s ∈ ss, ∀ t, s.consented_at = some t → ∃ v, s.viewed_at = some v ∧ v ≤ t
  signed : ∀ s ∈ ss, s.state = .signed → ∃ c t, s.consented_at = some c ∧
    s.intent_confirmed_at = some t ∧ s.signed_at = some t ∧ c ≤ t
  turns : ∀ r ∈ ss, ∀ s ∈ ss, r.ceremony_id = s.ceremony_id → r.signing_order < s.signing_order →
    s.state = .signed → r.state = .signed
  ordered : ∀ r ∈ ss, ∀ s ∈ ss, r.ceremony_id = s.ceremony_id → r.signing_order < s.signing_order →
    s.state = .signed → ∀ t u, r.signed_at = some t → s.signed_at = some u → t ≤ u
  completed : ∀ c ∈ cs, c.state = .completed → CompletedAtLast ss c

namespace Timed

variable {cs : List Ceremony} {ss : List Signer} (h : Timed cs ss)
include h

theorem ceremonies {cs' : List Ceremony}
    (hcs : ∀ c ∈ cs', c.state = .completed → c ∈ cs) : Timed cs' ss :=
  { h with completed := fun c hc hst => h.completed c (hcs c hc hst) hst }

theorem moved {hit : Ceremony → Prop} [DecidablePred hit] {target : CeremonyState}
    (htarget : target ≠ .completed) : Timed (updateWhere hit (Ceremony.moved target) cs) ss := by
  refine h.ceremonies fun c hc hst => ?_
  rcases updateWhere_cases hc with ⟨hc, -⟩ | ⟨r, -, -, rfl⟩
  · exact hc
  · exact absurd hst htarget

theorem signers {hit : Signer → Prop} [DecidablePred hit] {f : Signer → Signer}
    (hkey : ∀ s, (f s).ceremony_id = s.ceremony_id ∧ (f s).signing_order = s.signing_order ∧
      (f s).signed_at = s.signed_at)
    (hst : ∀ s ∈ ss, hit s → s.state ≠ .signed ∧ (f s).state ≠ .signed)
    (hviewed : ∀ s ∈ ss, hit s → ∀ t, (f s).consented_at = some t →
      ∃ v, (f s).viewed_at = some v ∧ v ≤ t)
    (htallied : TalliedUp cs ss) : Timed cs (updateWhere hit f ss) := by
  have hsigned : ∀ s' ∈ updateWhere hit f ss, s'.state = .signed → s' ∈ ss ∧ ¬ hit s' := by
    intro s' hs' hst'
    rcases updateWhere_cases hs' with hs | ⟨s, hs, hh, rfl⟩
    · exact hs
    · exact absurd hst' (hst s hs hh).2
  have hback : ∀ r' ∈ updateWhere hit f ss, ∃ r ∈ ss, r.ceremony_id = r'.ceremony_id ∧
      r.signing_order = r'.signing_order ∧ r.signed_at = r'.signed_at ∧
      (r' = r ∨ r.state ≠ .signed) := by
    intro r' hr'
    rcases updateWhere_cases hr' with ⟨hr, -⟩ | ⟨r, hr, hh, rfl⟩
    · exact ⟨r', hr, rfl, rfl, rfl, .inl rfl⟩
    · exact ⟨r, hr, (hkey r).1.symm, (hkey r).2.1.symm, (hkey r).2.2.symm, .inr (hst r hr hh).1⟩
  constructor
  · intro s' hs' t ht
    rcases updateWhere_cases hs' with ⟨hs, -⟩ | ⟨s, hs, hh, rfl⟩
    · exact h.viewed s' hs t ht
    · exact hviewed s hs hh t ht
  · intro s' hs' hst'
    exact h.signed s' (hsigned s' hs' hst').1 hst'
  · intro r' hr' s' hs' hid hlt hst'
    obtain ⟨r, hr, hrid, hrlt, -, hsame | hunsigned⟩ := hback r' hr'
    · rw [hsame] at hid hlt ⊢
      exact h.turns r hr s' (hsigned s' hs' hst').1 hid hlt hst'
    · rw [← hrid] at hid
      rw [← hrlt] at hlt
      exact absurd (h.turns r hr s' (hsigned s' hs' hst').1 hid hlt hst') hunsigned
  · intro r' hr' s' hs' hid hlt hst' t u ht hu
    obtain ⟨r, hr, hrid, hrlt, hrat, -⟩ := hback r' hr'
    rw [← hrid] at hid
    rw [← hrlt] at hlt
    rw [← hrat] at ht
    exact h.ordered r hr s' (hsigned s' hs' hst').1 hid hlt hst' t u ht hu
  · intro c hc hcompleted
    obtain ⟨m, hm, ⟨s, hs, hsid, hsat⟩, hmax⟩ := h.completed c hc hcompleted
    -- everybody of a completed ceremony has signed, so nobody of it moves
    have htally := htallied c hc
    rw [hcompleted] at htally
    have hmiss : ∀ r ∈ ss, r.ceremony_id = c.ceremony_id → ¬ hit r := fun r hr hid hh =>
      htally.2 ⟨r, hr, hid, (hst r hr hh).1⟩
    refine ⟨m, hm, ⟨s, mem_updateWhere_of_neg hs (hmiss s hs hsid), hsid, hsat⟩, ?_⟩
    intro r' hr' hid t ht
    obtain ⟨r, hr, hrid, -, hrat, -⟩ := hback r' hr'
    exact hmax r hr (hrid.trans hid) t (hrat.trans ht)

theorem append {c : Ceremony} {new : List Signer} (hsent : c.state = .sent)
    (hnew : ∀ s ∈ new, s.ceremony_id = c.ceremony_id ∧ s.state = .invited ∧ s.consented_at = none)
    (hothers : ∀ s ∈ ss, s.ceremony_id ≠ c.ceremony_id) : Timed (cs ++ [c]) (ss ++ new) := by
  have hsigned : ∀ s ∈ ss ++ new, s.state = .signed → s ∈ ss := by
    intro s hs hst
    rcases mem_append.mp hs with hs | hs
    · exact hs
    · rw [(hnew s hs).2.1] at hst
      cases hst
  have hold : ∀ r ∈ ss ++ new, ∀ s ∈ ss, r.ceremony_id = s.ceremony_id → r ∈ ss := by
    intro r hr s hs hid
    rcases mem_append.mp hr with hr | hr
    · exact hr
    · exact absurd (hid.symm.trans (hnew r hr).1) (hothers s hs)
  constructor
  · intro s hs t ht
    rcases mem_append.mp hs with hs | hs
    · exact h.viewed s hs t ht
    · rw [(hnew s hs).2.2] at ht
      cases ht
  · intro s hs hst
    exact h.signed s (hsigned s hs hst) hst
  · intro r hr s hs hid hlt hst
    have hs' := hsigned s hs hst
    exact h.turns r (hold r hr s hs' hid) s hs' hid hlt hst
  · intro r hr s hs hid hlt hst
    have hs' := hsigned s hs hst
    exact h.ordered r (hold r hr s hs' hid) s hs' hid hlt hst
  · intro d hd hcompleted
    rcases mem_inserted hd with hd | rfl
    · obtain ⟨m, hm, ⟨s, hs, hsid, hsat⟩, hmax⟩ := h.completed d hd hcompleted
      refine ⟨m, hm, ⟨s, mem_append_left _ hs, hsid, hsat⟩, fun r hr hid t ht => ?_⟩
      exact hmax r (hold r hr s hs (hid.trans hsid.symm)) hid t ht
    · rw [hsent] at hcompleted
      cases hcompleted

end Timed

section Signing

variable {db : Cabinet} (hdb : Coherent db)
  (h : Timed db.signing_ceremonies db.ceremony_signers) {s : Signer} {c : Ceremony} {p : Package}
  {instant : Int} (sg : Signable db s c p instant)
  (hclock : ∀ r ∈ db.ceremony_signers, r.ceremony_id = s.ceremony_id →
    ∀ t, r.signed_at = some t → t ≤ instant)
include hdb sg

theorem signersAfter_cases {r' : Signer} (hr' : r' ∈ signersAfter db s c instant) :
    (r' ∈ db.ceremony_signers ∧ r'.signer_id ≠ s.signer_id) ∨
      r' = Signer.sign instant (signatureOf c s instant) s := by
  rcases updateWhere_cases hr' with ⟨hr, hmiss⟩ | ⟨r, hr, hid, rfl⟩
  · exact .inl ⟨hr, by simpa using hmiss⟩
  · rw [hdb.keyed.signer_unique hr sg.signer (of_decide_eq_true hid)]
    exact .inr rfl

include hclock

theorem le_of_signersAfter {r' : Signer} (hr' : r' ∈ signersAfter db s c instant)
    (hid : r'.ceremony_id = s.ceremony_id) {t : Int} (ht : r'.signed_at = some t) : t ≤ instant := by
  rcases signersAfter_cases hdb sg hr' with ⟨hr, -⟩ | rfl
  · exact hclock r' hr hid t ht
  · exact (Option.some.inj ht).symm.le

include h

theorem Timed.sign : Timed db.signing_ceremonies (signersAfter db s c instant) := by
  constructor
  · intro r' hr' t ht
    rcases signersAfter_cases hdb sg hr' with ⟨hr, -⟩ | rfl
    · exact h.viewed r' hr t ht
    · exact h.viewed s sg.signer t ht
  · intro r' hr' hst
    rcases signersAfter_cases hdb sg hr' with ⟨hr, -⟩ | rfl
    · exact h.signed r' hr hst
    · obtain ⟨t, ht, hle⟩ := sg.consented
      exact ⟨t, instant, ht, rfl, rfl, hle⟩
  · intro r' hr' s' hs' hid hlt hst
    rcases signersAfter_cases hdb sg hr' with ⟨hr, -⟩ | rfl
    · rcases signersAfter_cases hdb sg hs' with ⟨hs, -⟩ | rfl
      · exact h.turns r' hr s' hs hid hlt hst
      · exact sg.turn r' hr hid hlt
    · rfl
  · intro r' hr' s' hs' hid hlt hst t u ht hu
    rcases signersAfter_cases hdb sg hs' with ⟨hs, -⟩ | rfl
    · rcases signersAfter_cases hdb sg hr' with ⟨hr, -⟩ | rfl
      · exact h.ordered r' hr s' hs hid hlt hst t u ht hu
      · -- a later signer has not signed before this one
        exact absurd (h.turns s sg.signer s' hs hid hlt hst) sg.unsigned
    · rw [← Option.some.inj hu]
      exact le_of_signersAfter hdb sg hclock hr' hid ht
  · intro d hd hcompleted
    obtain ⟨m, hm, ⟨r, hr, hrid, hrat⟩, hmax⟩ := h.completed d hd hcompleted
    have hne : d.ceremony_id ≠ s.ceremony_id := by
      intro he
      obtain rfl := hdb.keyed.ceremony_unique hd sg.ceremony (he.trans sg.ofCeremony.symm)
      have hopen := sg.isOpen
      rw [hcompleted] at hopen
      exact Bool.false_ne_true hopen
    have hmiss : ¬ decide (r.signer_id = s.signer_id) = true := by
      intro he
      rw [hdb.keyed.signer_unique hr sg.signer (of_decide_eq_true he)] at hrid
      exact hne hrid.symm
    refine ⟨m, hm, ⟨r, mem_updateWhere_of_neg hr hmiss, hrid, hrat⟩, fun r' hr' hid t ht => ?_⟩
    rcases signersAfter_cases hdb sg hr' with ⟨hr', -⟩ | rfl
    · exact hmax r' hr' hid t ht
    · exact absurd hid.symm hne

theorem Timed.complete (sha256 : Digest) :
    Timed (updateWhere (fun r => decide (r.ceremony_id = c.ceremony_id) = true)
      (Ceremony.completedAt instant sha256) db.signing_ceremonies)
      (signersAfter db s c instant) := by
  refine { Timed.sign hdb h sg hclock with completed := fun d hd hcompleted => ?_ }
  rcases updateWhere_cases hd with ⟨hd, -⟩ | ⟨r, hr, hid, rfl⟩
  · exact (Timed.sign hdb h sg hclock).completed d hd hcompleted
  · obtain rfl := hdb.keyed.ceremony_unique hr sg.ceremony (of_decide_eq_true hid)
    refine ⟨instant, rfl, ⟨_, mem_updateWhere_of_pos sg.signer (decide_eq_true rfl),
      sg.ofCeremony.symm, rfl⟩, fun r' hr' hid t ht => ?_⟩
    exact le_of_signersAfter hdb sg hclock hr' (hid.trans sg.ofCeremony) ht

end Signing

theorem Move.timed {db db' : Cabinet} {l : Label} (hdb : Coherent db)
    (h : Timed db.signing_ceremonies db.ceremony_signers) (m : Move db l db')
    (hconsented : ∀ s now, l = .consented s now → ∀ v, s.viewed_at = some v → v ≤ now)
    (hsigned : ∀ s instant, l = .signed s instant → ∀ r ∈ db.ceremony_signers,
      r.ceremony_id = s.ceremony_id → ∀ t, r.signed_at = some t → t ≤ instant) :
    Timed db'.signing_ceremonies db'.ceremony_signers := by
  cases m with
  | opened | evidenced | waived | readied | reviewed | voidedJacket => exact h
  | failed | assembled => exact h.moved CeremonyState.noConfusion
  | sent p hit c signers pf bl ev package hits ready first fresh ofPackage ofJacket isSent someone
      keys invited =>
      refine h.append isSent (fun s hs => ?_) fun s hs hsc => ?_
      · exact ⟨(invited s hs).1, (invited s hs).2.1, (invited s hs).2.2.2⟩
      · obtain ⟨r, hr, hrs⟩ := hdb.keyed.exists_ceremony hs
        exact fresh r hr (hrs.trans hsc)
  | viewed s now pf bl ev signer unviewed early =>
    refine h.signers (f := Signer.looked now) (fun _ => ⟨rfl, rfl, rfl⟩) (fun r hr hh => ?_)
      (fun r hr hh t ht => ?_) hdb.tallied
    · refine ⟨?_, SignerState.noConfusion⟩
      rw [hdb.keyed.signer_unique hr signer (of_decide_eq_true hh)]
      rcases early with he | he <;> rw [he] <;> exact SignerState.noConfusion
    · -- who has not looked has not consented
      obtain ⟨v, hv, -⟩ := h.viewed r hr t ht
      rw [hdb.keyed.signer_unique hr signer (of_decide_eq_true hh), unviewed] at hv
      cases hv
  | consented s now version c pf bl ev signer ceremony ofCeremony isOpen unconsented =>
    refine h.signers (f := Signer.agreed version now) (fun _ => ⟨rfl, rfl, rfl⟩) (fun r hr hh => ?_)
      (fun r hr hh t ht => ?_) hdb.tallied
    · refine ⟨?_, SignerState.noConfusion⟩
      obtain rfl := hdb.keyed.signer_unique hr signer (of_decide_eq_true hh)
      intro hst
      have hsome := hdb.consented r hr hst
      rw [unconsented] at hsome
      exact Bool.false_ne_true hsome
    · obtain rfl := hdb.keyed.signer_unique hr signer (of_decide_eq_true hh)
      obtain rfl := Option.some.inj ht
      cases hv : r.viewed_at with
      | none => exact ⟨now, by rw [Signer.agreed, hv]; rfl, le_refl now⟩
      | some v => exact ⟨v, by rw [Signer.agreed, hv]; rfl, hconsented r now rfl v hv⟩
  | progressed s c p instant pf bl ev signable more =>
    exact (Timed.sign hdb h signable (hsigned s instant rfl)).moved CeremonyState.noConfusion
  | completed s c p instant sha256 pf bl ev signable last certified =>
    exact Timed.complete hdb h signable (hsigned s instant rfl) sha256
  | declined s c p reason now pf bl ev signer ceremony ofCeremony ofPackage isOpen unsigned =>
    refine (h.signers (f := Signer.refuse reason now) (fun _ => ⟨rfl, rfl, rfl⟩) (fun r hr hh => ?_)
      (fun r hr hh t ht => h.viewed r hr t ht) hdb.tallied).moved CeremonyState.noConfusion
    obtain rfl := hdb.keyed.signer_unique hr signer (of_decide_eq_true hh)
    exact ⟨unsigned, SignerState.noConfusion⟩
  | voidedPackage => exact h.moved CeremonyState.noConfusion
  | expired c reason pf bl ev ceremony isOpen =>
    refine (h.signers (f := Signer.moved .expired) (fun _ => ⟨rfl, rfl, rfl⟩) (fun r hr hh => ?_)
      (fun r hr hh t ht => h.viewed r hr t ht) hdb.tallied).moved CeremonyState.noConfusion
    refine ⟨?_, SignerState.noConfusion⟩
    intro hst
    rw [hst, Bool.and_eq_true] at hh
    exact Bool.false_ne_true hh.2

theorem Move.exists_signable {db db' : Cabinet} {s : Signer} {instant : Int}
    (m : Move db (.signed s instant) db') : ∃ c p, Signable db s c p instant := by
  cases m with
  | progressed _ c p _ _ _ _ signable => exact ⟨c, p, signable⟩
  | completed _ c p _ _ _ _ _ signable => exact ⟨c, p, signable⟩

theorem history_timed {calls : List Call} (h : Along step ClocksAgree Cabinet.empty calls) :
    Timed (history calls).signing_ceremonies (history calls).ceremony_signers := by
  refine history_invariant (I := fun d => Timed d.signing_ceremonies d.ceremony_signers) ?_ ?_ h
  · constructor <;> intro x hx <;> exact absurd hx not_mem_nil
  · intro db call a l b hc ha hi hl hm
    refine hm.timed ha hi (fun s now hlabel => ?_) fun s instant hlabel => ?_
    · subst hlabel
      obtain ⟨rfl, hconsents⟩ := hl
      cases hm with
      | consented _ _ version c pf bl ev signer ceremony ofCeremony isOpen unconsented =>
        exact (hc c ceremony isOpen).1 s now hconsents ofCeremony
    · subst hlabel
      obtain ⟨hceremonies, hrows, r, hsigns, hid⟩ := hl
      obtain ⟨c, p, sg⟩ := hm.exists_signable
      intro q hq hqid t ht
      have hpair : (q.ceremony_id, q.signed_at) ∈
          db.ceremony_signers.map (fun r => (r.ceremony_id, r.signed_at)) := by
        rw [← hrows]
        exact mem_map.mpr ⟨q, hq, rfl⟩
      obtain ⟨k, hk, hkey⟩ := mem_map.mp hpair
      obtain ⟨hkid, hkat⟩ := Prod.mk.inj hkey
      exact (hc c (hceremonies ▸ sg.ceremony) sg.isOpen).2 r instant hsigns
        (sg.ofCeremony.trans hid.symm) k hk (hkid.trans (hqid.trans hid.symm)) t (hkat.trans ht)

/-- The instants of every completed ceremony are in order after a history whose
clocks agree. -/
theorem completed_inOrder {calls : List Call} (h : Along step ClocksAgree Cabinet.empty calls)
    {c : Ceremony} (hc : c ∈ (history calls).signing_ceremonies) (hcompleted : c.state = .completed) :
    InOrder (history calls) c := by
  have htimed := history_timed h
  have hall : AllSigned (history calls).ceremony_signers c.ceremony_id :=
    ((history_coherent calls).inStep.completed c hc).mp hcompleted
  constructor
  · intro s hs hid
    obtain ⟨consented, signed, hconsented, hintent, hsigned, hle⟩ :=
      htimed.signed s hs (hall s hs hid)
    obtain ⟨viewed, hviewed, hle'⟩ := htimed.viewed s hs consented hconsented
    exact ⟨viewed, consented, signed, signed, hviewed, hconsented, hintent, hsigned, hle', hle,
      le_refl signed⟩
  · intro r hr s hs hrid hsid hlt t u ht hu
    exact htimed.ordered r hr s hs (hrid.trans hsid.symm) hlt (hall s hs hsid) t u ht hu
  · exact htimed.completed c hc hcompleted

namespace CashDeal

theorem clocksAgree_bothSigned : Along step ClocksAgree Cabinet.empty
    (bothSigned 1788220860000000 1788220920000000 1788220980000000) := by
  have hsilent : ∀ db call, (∀ s t, ¬ Call.Consents db s t call) → (∀ s t, ¬ Call.Signs db s t call) →
      ClocksAgree db call := fun db call hconsents hsigns c _ _ =>
    ⟨fun s t h => absurd h (hconsents s t), fun s t h => absurd h (hsigns s t)⟩
  obtain ⟨f, sha, env, pf, bl, docs, ev, hopening⟩ := opening_sent
  obtain ⟨ev₁, hconsent⟩ := step_consent f sha env pf bl docs ev 1788220860000000
  obtain ⟨f', env', pf', bl', docs', ev', hhalf⟩ := history_customerSigned
    (by decide : midnight ≤ 1788220920000000 ∧ (1788220860000000 : Int) ≤ 1788220920000000)
    (by decide +kernel)
  rw [bothSigned, along_append]
  refine ⟨?_, ?_, trivial⟩
  · rw [customerSigned, along_append, ← history, hopening]
    refine ⟨⟨?_, ?_, ?_, ?_, trivial⟩, ?_, ?_, trivial⟩
    iterate 4 exact hsilent _ _ (fun _ _ => id) fun _ _ => id
    · intro c _ _
      refine ⟨fun s t hs _ v hv => ?_, fun _ _ hs => hs.elim⟩
      have hmem := mem_of_laneSigner hs.1
      rcases mem_pair.mp hmem with rfl | rfl <;> cases hv
    · rw [hconsent]
      intro c _ _
      refine ⟨fun _ _ hs => hs.elim, fun s t hs _ r hr _ u hu => ?_⟩
      rcases mem_pair.mp hr with rfl | rfl <;> cases hu
  · rw [← history, hhalf]
    intro c _ _
    refine ⟨fun s t hs _ v hv => ?_, fun s t hs _ r hr _ u hu => ?_⟩
    · have hmem := (of_find?_eq_some hs.1).1
      rw [hs.2.2]
      rcases mem_pair.mp hmem with rfl | rfl
      · cases hv
        decide
      · cases hv
    · obtain ⟨-, -, callerNow, -, rfl⟩ := hs
      have hnow : 1788220980000000 ≤ signingInstant 1788220980000000 s.consented_at callerNow :=
        Int.le_trans (Int.le_max_left _ _) (Int.le_max_left _ _)
      rcases mem_pair.mp hr with rfl | rfl
      · cases hu
        exact Int.le_trans (by decide) hnow
      · cases hu

end CashDeal

theorem completed_inOrder_bothSigned : ∃ c ∈ (history (CashDeal.bothSigned 1788220860000000
    1788220920000000 1788220980000000)).signing_ceremonies, c.state = .completed ∧
      InOrder (history (CashDeal.bothSigned 1788220860000000 1788220920000000 1788220980000000))
        c := by
  have hcompleted : ∃ c ∈ (history (CashDeal.bothSigned 1788220860000000 1788220920000000
      1788220980000000)).signing_ceremonies, c.state = .completed := by
    obtain ⟨f, env, pf, bl, docs, ev, cert, hrows⟩ := CashDeal.history_bothSigned
      (by decide : CashDeal.midnight ≤ 1788220920000000 ∧
        (1788220860000000 : Int) ≤ 1788220920000000)
      (by decide : CashDeal.midnight ≤ 1788220980000000) (by decide +kernel) (by decide +kernel)
    rw [hrows]
    exact ⟨_, mem_cons_self, rfl⟩
  obtain ⟨c, hc, hst⟩ := hcompleted
  exact ⟨c, hc, hst, completed_inOrder CashDeal.clocksAgree_bothSigned hc hst⟩

/-- The customer signs at two minutes past; the representative's transaction started
a minute and a half past, and waited. -/
theorem not_inOrder_of_waiting : ∃ c ∈ (history (CashDeal.bothSigned 1788220860000000
    1788220920000000 1788220890000000)).signing_ceremonies, c.state = .completed ∧
      ¬ InOrder (history (CashDeal.bothSigned 1788220860000000 1788220920000000 1788220890000000))
        c := by
  obtain ⟨f, env, pf, bl, docs, ev, cert, hrows⟩ := CashDeal.history_bothSigned
    (by decide : CashDeal.midnight ≤ 1788220920000000 ∧ (1788220860000000 : Int) ≤ 1788220920000000)
    (by decide : CashDeal.midnight ≤ 1788220890000000) (by decide +kernel) (by decide +kernel)
  rw [hrows]
  refine ⟨_, mem_cons_self, rfl, fun h => ?_⟩
  have hle := h.between _ mem_cons_self _ (mem_cons_of_mem _ mem_cons_self) rfl rfl
    (show 1 < 3 by decide) 1788220920000000 1788220890000000 rfl rfl
  exact absurd hle (by decide)

end Dealership.Jacket
