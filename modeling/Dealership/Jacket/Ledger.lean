import Dealership.Jacket.SignedComplete
import Dealership.Jacket.Story

/-!
# The ledger of events and its instants

An event of a ceremony carries the instant it occurred at.  `recordCeremonyEventWithin` writes the
wall clock; `voidCeremonyOfPackageWithin` names no instant, and its row gets the default of the
column, the start of the transaction.

A call under way has started, reads the wall clock once for each event it records, and commits.  An
event of a ceremony is recorded under the ceremony's row lock, so every call that recorded one
before has committed by then; only the first look is recorded before the ceremony is locked.
-/

namespace Dealership.Jacket

open Library List

/-- The start of the call's transaction, `NOW()`. -/
def Call.now : Call → Int
  | .openJacket w .. | .satisfyWithEvidence w _ | .waiveRequirement w _ | .assemblePackage w _
  | .markReviewReady w _ | .reviewPackage w _ | .sendPackage w _ | .openSignerSession w ..
  | .consentToElectronicRecords w .. | .signAsCustomer w .. | .signAsDealerRepresentative w _
  | .declineAsCustomer w .. | .voidPackage w _ | .voidJacket w _
  | .expireDueCeremoniesForTenant w .. => w.now

/-- A call with what the wall clock said: at each of its events, in the order it wrote them, and at
its commit. -/
structure TimedCall where
  call : Call
  clock : List Int
  committed_at : Int

/-- `clock_timestamp()` at the call's event number `k`. -/
def TimedCall.reading (t : TimedCall) (k : Nat) : Int := t.clock.getD k t.committed_at

/-- `occurred_at` of an event, and the commit that made it visible. -/
structure Stamp where
  occurred_at : Int
  committed_at : Int

/-- The `INSERT` of the void leaves `occurred_at` to its default, `NOW()`. -/
def TimedCall.stamp (t : TimedCall) (e : CeremonyEvent) (k : Nat) : Stamp where
  occurred_at := if e.event_type = "ceremony.voided" then t.call.now else t.reading k
  committed_at := t.committed_at

/-- The rows, and the instants of `ceremony_events` row by row. -/
structure Ledger where
  cabinet : Cabinet
  stamps : List Stamp

namespace Ledger

variable {l : Ledger} {t : TimedCall}

def empty : Ledger := ⟨Cabinet.empty, []⟩

/-- The events with their instants, in commit order. -/
def rows (l : Ledger) : List (CeremonyEvent × Stamp) := l.cabinet.ceremony_events.zip l.stamps

def written (l : Ledger) (t : TimedCall) : List CeremonyEvent :=
  (Jacket.step l.cabinet t.call).ceremony_events.drop l.cabinet.ceremony_events.length

def step (l : Ledger) (t : TimedCall) : Ledger where
  cabinet := Jacket.step l.cabinet t.call
  stamps := l.stamps ++ (l.written t).zipIdx.map fun e => t.stamp e.1 e.2

def Past (l : Ledger) (ceremonyId : String) (instant : Int) : Prop :=
  ∀ r ∈ l.rows, r.1.ceremony_id = ceremonyId → r.2.occurred_at ≤ instant

/-- What the clock and the locks see to: a call reads the clock from its start to its commit, and
an event that is recorded under its ceremony's lock is recorded after the commits of the calls that
recorded one before. -/
structure Clocked (l : Ledger) (t : TimedCall) : Prop where
  onward : (t.call.now :: (t.clock ++ [t.committed_at])).Pairwise (· ≤ ·)
  locked : ∀ e ∈ (l.written t).zipIdx, e.1.event_type ≠ "signer.viewed" →
    ∀ r ∈ l.rows, r.1.ceremony_id = e.1.ceremony_id → r.2.committed_at ≤ t.reading e.2

/-- No version supersedes one whose ceremony is still going; a void starts no earlier than the last
event of the ceremony it voids; a first look is into a ceremony that is not closed, and no earlier
than its last event. -/
def Explains (l : Ledger) (t : TimedCall) : Prop :=
  KeepsStory l.cabinet t.call ∧
    match t.call with
    | .voidPackage w input => ∀ c ∈ l.cabinet.signing_ceremonies,
        c.package_id = input.packageId → c.state.closed = false → l.Past c.ceremony_id w.now
    | .voidJacket w input => ∀ p ∈ l.cabinet.jacket_packages, p.jacket_id = input.jacketId →
        p.state.live = true → ∀ c ∈ l.cabinet.signing_ceremonies,
        c.package_id = p.package_id → c.state.closed = false → l.Past c.ceremony_id w.now
    | .openSignerSession w token now => ∀ s, laneSigner w l.cabinet token now = .ok s →
        s.viewed_at = none → (s.state = .pending ∨ s.state = .invited) →
        l.Past s.ceremony_id (t.reading 0)
    | _ => True

def rowsOf (l : Ledger) (ceremonyId : String) : List (CeremonyEvent × Stamp) :=
  l.rows.filter fun r => r.1.ceremony_id = ceremonyId

/-- The events of every ceremony tell its state, end with the one that closed it, and are in the
order of their instants. -/
structure ExplainsStates (l : Ledger) : Prop where
  tells : ∀ c ∈ l.cabinet.signing_ceremonies, Tells l.cabinet.ceremony_events c
  ordered : ∀ ceremonyId, ((l.rowsOf ceremonyId).map (·.2.occurred_at)).Pairwise (· ≤ ·)

/-! ## The clock -/

namespace Clocked

variable {l : Ledger} {t : TimedCall} (h : l.Clocked t)
include h

theorem started (k : Nat) : t.call.now ≤ t.reading k := by
  have hstart := (pairwise_cons.mp h.onward).1
  rw [TimedCall.reading, getD_eq_getElem?_getD]
  by_cases hk : k < t.clock.length
  · rw [getElem?_eq_getElem hk]
    exact hstart _ (mem_append_left _ (getElem_mem hk))
  · rw [getElem?_eq_none (Nat.not_lt.mp hk)]
    exact hstart _ (mem_append_right _ (mem_singleton_self _))

theorem reading_le (k : Nat) : t.reading k ≤ t.committed_at := by
  have honward := (pairwise_cons.mp h.onward).2
  have hend := (pairwise_append.mp honward).2.2
  rw [TimedCall.reading, getD_eq_getElem?_getD]
  by_cases hk : k < t.clock.length
  · rw [getElem?_eq_getElem hk]
    exact hend _ (getElem_mem hk) _ (mem_singleton_self _)
  · rw [getElem?_eq_none (Nat.not_lt.mp hk)]
    exact Int.le_refl _

theorem reading_mono {j k : Nat} (hjk : j < k) : t.reading j ≤ t.reading k := by
  by_cases hk : k < t.clock.length
  · have honward := (pairwise_cons.mp h.onward).2
    have hclock := pairwise_iff_getElem.mp (pairwise_append.mp honward).1
    rw [TimedCall.reading, TimedCall.reading, getD_eq_getElem?_getD,
      getD_eq_getElem?_getD, getElem?_eq_getElem hk,
      getElem?_eq_getElem (Nat.lt_trans hjk hk)]
    exact hclock j k _ hk hjk
  · have hend : t.reading k = t.committed_at := by
      rw [TimedCall.reading, getD_eq_getElem?_getD, getElem?_eq_none (Nat.not_lt.mp hk)]
      rfl
    rw [hend]
    exact h.reading_le j

theorem stamp_le (e : CeremonyEvent) (k : Nat) :
    (t.stamp e k).occurred_at ≤ (t.stamp e k).committed_at := by
  rw [TimedCall.stamp]
  dsimp only
  split
  · exact Int.le_trans (h.started 0) (h.reading_le 0)
  · exact h.reading_le k

end Clocked

theorem Clocked.after_all (onward : (t.call.now :: (t.clock ++ [t.committed_at])).Pairwise (· ≤ ·))
    (h : ∀ r ∈ l.rows, r.2.committed_at ≤ t.call.now) : l.Clocked t := by
  refine ⟨onward, fun e _ _ r hr _ => Int.le_trans (h r hr) ?_⟩
  have hstart := (pairwise_cons.mp onward).1
  rw [TimedCall.reading, getD_eq_getElem?_getD]
  by_cases hk : e.2 < t.clock.length
  · rw [getElem?_eq_getElem hk]
    exact hstart _ (mem_append_left _ (getElem_mem hk))
  · rw [getElem?_eq_none (Nat.not_lt.mp hk)]
    exact hstart _ (mem_append_right _ (mem_singleton_self _))

/-! ## One call -/

/-- What holds of the ledger between calls. -/
structure Sound (l : Ledger) : Prop where
  coherent : Coherent l.cabinet
  told : Told l.cabinet.signing_ceremonies l.cabinet.ceremony_events
  aligned : l.cabinet.ceremony_events.length = l.stamps.length
  settled : ∀ r ∈ l.rows, r.2.occurred_at ≤ r.2.committed_at
  ordered : l.rows.Pairwise fun a b =>
    a.1.ceremony_id = b.1.ceremony_id → a.2.occurred_at ≤ b.2.occurred_at

theorem Sound.empty : Sound Ledger.empty where
  coherent := Coherent.empty
  told := Told.nil
  aligned := rfl
  settled := fun _ hr => absurd hr not_mem_nil
  ordered := List.Pairwise.nil

theorem voids_or_not {db : Cabinet} {call : Call} {new : List CeremonyEvent}
    (h : ∀ e ∈ new, call.Records db e) :
    (∀ e ∈ new, e.event_type = "ceremony.voided") ∨
      ∀ e ∈ new, e.event_type ≠ "ceremony.voided" := by
  cases call with
  | voidPackage w input => exact .inl fun e he => (h e he).1
  | voidJacket w input =>
    refine .inl fun e he => ?_
    obtain ⟨p, -, -, -, hvoids⟩ := h e he
    exact hvoids.1
  | openSignerSession w token now =>
    refine .inr fun e he hv => ?_
    rw [(h e he).1] at hv
    exact absurd hv (by decide)
  | openJacket | satisfyWithEvidence | waiveRequirement | assemblePackage | markReviewReady
  | reviewPackage | sendPackage | consentToElectronicRecords | signAsCustomer
  | signAsDealerRepresentative | declineAsCustomer | expireDueCeremoniesForTenant =>
    exact .inr fun e he => (h e he).1

theorem stamp_past {e : CeremonyEvent} {k : Nat} (hl : l.Sound) (hclocked : l.Clocked t)
    (hexplains : l.Explains t) (hwritten : (e, k) ∈ (l.written t).zipIdx)
    (hrecords : t.call.Records l.cabinet e) {r : CeremonyEvent × Stamp} (hr : r ∈ l.rows)
    (hid : r.1.ceremony_id = e.ceremony_id) : r.2.occurred_at ≤ (t.stamp e k).occurred_at := by
  obtain ⟨call, clock, committed⟩ := t
  have ordinary : Ordinary e →
      r.2.occurred_at ≤ (TimedCall.stamp ⟨call, clock, committed⟩ e k).occurred_at := by
    rintro ⟨hvoided, hviewed⟩
    rw [TimedCall.stamp]
    dsimp only
    rw [if_neg hvoided]
    exact Int.le_trans (hl.settled r hr) (hclocked.locked (e, k) hwritten hviewed r hr hid)
  cases call with
  | voidPackage w input =>
    obtain ⟨htype, c, hc, hpackage, hgoing, hce⟩ := hrecords
    rw [TimedCall.stamp]
    dsimp only
    rw [if_pos htype]
    exact hexplains.2 c hc hpackage hgoing r hr (hid.trans hce.symm)
  | voidJacket w input =>
    obtain ⟨p, hp, hjacket, hlive, htype, c, hc, hpackage, hgoing, hce⟩ := hrecords
    rw [TimedCall.stamp]
    dsimp only
    rw [if_pos htype]
    exact hexplains.2 p hp hjacket hlive c hc hpackage hgoing r hr (hid.trans hce.symm)
  | openSignerSession w token now =>
    obtain ⟨htype, s, hs, hunviewed, hearly, hse⟩ := hrecords
    rw [TimedCall.stamp]
    dsimp only
    rw [if_neg (by rw [htype]; decide)]
    refine Int.le_trans (hexplains.2 s hs hunviewed hearly r hr (hid.trans hse)) ?_
    rcases Nat.eq_zero_or_pos k with rfl | hk
    · exact Int.le_refl _
    · exact hclocked.reading_mono hk
  | openJacket | satisfyWithEvidence | waiveRequirement | assemblePackage | markReviewReady
  | reviewPackage | sendPackage | consentToElectronicRecords | signAsCustomer
  | signAsDealerRepresentative | declineAsCustomer | expireDueCeremoniesForTenant =>
    exact ordinary hrecords

theorem rows_step {new : List CeremonyEvent}
    (haligned : l.cabinet.ceremony_events.length = l.stamps.length)
    (hevents : (Jacket.step l.cabinet t.call).ceremony_events = l.cabinet.ceremony_events ++ new) :
    l.written t = new ∧
      (l.step t).rows = l.rows ++ new.zipIdx.map fun e => (e.1, t.stamp e.1 e.2) := by
  have hwritten : l.written t = new := by rw [written, hevents, drop_left]
  refine ⟨hwritten, ?_⟩
  have hnew : new.zip (new.zipIdx.map fun e => t.stamp e.1 e.2) =
      new.zipIdx.map fun e => (e.1, t.stamp e.1 e.2) := by
    have hzip : (new.zipIdx.map Prod.fst).zip (new.zipIdx.map fun e => t.stamp e.1 e.2) =
        new.zipIdx.map fun e => (e.1, t.stamp e.1 e.2) := zip_map'
    rwa [zipIdx_map_fst] at hzip
  rw [rows, step, hevents, hwritten, zip_append haligned, hnew]
  rfl

theorem Sound.step (h : l.Sound) (hclocked : l.Clocked t)
    (hexplains : l.Explains t) : (l.step t).Sound := by
  obtain ⟨new, hevents, hrecords, hchapters⟩ := step_tale h.coherent hexplains.1
  obtain ⟨hwritten, hrows⟩ := rows_step h.aligned hevents
  refine ⟨step_coherent h.coherent t.call, ?_, ?_, ?_, ?_⟩
  · show Told _ (Jacket.step l.cabinet t.call).ceremony_events
    rw [hevents]
    exact hchapters.told h.told
  · show (Jacket.step l.cabinet t.call).ceremony_events.length = (l.stamps ++ _).length
    rw [hevents, length_append, length_append, h.aligned, length_map, length_zipIdx, hwritten]
  · intro r hr
    rw [hrows] at hr
    rcases mem_append.mp hr with hr | hr
    · exact h.settled r hr
    · obtain ⟨e, -, rfl⟩ := mem_map.mp hr
      exact hclocked.stamp_le e.1 e.2
  · rw [hrows]
    refine pairwise_append.mpr ⟨h.ordered, ?_, ?_⟩
    · rw [pairwise_map, pairwise_iff_getElem]
      intro j k hj hk hjk _
      have hkind := voids_or_not hrecords
      simp only [getElem_zipIdx, TimedCall.stamp, Nat.zero_add]
      rw [length_zipIdx] at hj hk
      rcases hkind with hvoids | hnot
      · rw [if_pos (hvoids _ (getElem_mem hj)), if_pos (hvoids _ (getElem_mem hk))]
      · rw [if_neg (hnot _ (getElem_mem hj)), if_neg (hnot _ (getElem_mem hk))]
        exact hclocked.reading_mono hjk
    · intro r hr r' hr' hid
      obtain ⟨e, he, rfl⟩ := mem_map.mp hr'
      exact stamp_past h hclocked hexplains (hwritten ▸ he)
        (hrecords e.1 (fst_mem_of_mem_zipIdx he)) hr hid

theorem Sound.explains (h : l.Sound) : l.ExplainsStates where
  tells := h.told.tells
  ordered := by
    intro ceremonyId
    rw [rowsOf, pairwise_map]
    refine List.Pairwise.imp_of_mem ?_ (h.ordered.filter _)
    intro a b ha hb hab
    rw [mem_filter, decide_eq_true_iff] at ha hb
    exact hab (ha.2.trans hb.2.symm)

/-- The history of every ceremony explains its state, in every run whose calls read one clock and
wait for each other's locks, and in which no version supersedes one whose ceremony is still going,
no void starts before an event of the ceremony it voids, and no first look comes late. -/
theorem history_explains_states (calls : List TimedCall)
    (h : Along Ledger.step (fun l t => l.Clocked t ∧ l.Explains t) Ledger.empty calls) :
    (run Ledger.step Ledger.empty calls).ExplainsStates := by
  have hsound : (run Ledger.step Ledger.empty calls).Sound :=
    Along.invariant (I := Ledger.Sound) (fun _ _ hl ht => hl.step ht.1 ht.2) h Sound.empty
  exact hsound.explains

end Ledger

namespace CashDeal

/-- The deal is opened, assembled, marked ready and sent, all in the first instant of the day. -/
def sending : List TimedCall :=
  [ ⟨.openJacket (world midnight) manager scenario.desking_case_id, [], midnight⟩,
    ⟨.assemblePackage (world midnight) ⟨manager, jacketId, 1⟩, [], midnight⟩,
    ⟨.markReviewReady (world midnight) ⟨manager, packageId, 2⟩, [], midnight⟩,
    ⟨.sendPackage (world midnight) ⟨⟨manager, packageId, 3⟩, none⟩,
      [midnight, midnight, midnight], midnight⟩ ]

/-- The manager voids the package three minutes later. -/
def voiding : TimedCall :=
  ⟨.voidPackage (world 1788220980000000) ⟨⟨manager, packageId, 4⟩, "changed their mind"⟩, [],
    1788220980000000⟩

/-- Or assembles the jacket again, when its template is no longer in force. -/
def superseding : TimedCall :=
  ⟨.assemblePackage (afterwards 1788220980000000) ⟨manager, jacketId, 2⟩, [], 1788220980000000⟩

theorem sending_clocked : Along Ledger.step (fun l t => l.Clocked t ∧ l.Explains t) Ledger.empty
    sending := by
  refine ⟨⟨.after_all (by decide) ?_, trivial, trivial⟩, ⟨.after_all (by decide) ?_, ?_, trivial⟩,
    ⟨.after_all (by decide) ?_, trivial, trivial⟩, ⟨.after_all (by decide) ?_, trivial, trivial⟩,
    trivial⟩
  · exact fun r hr => absurd hr not_mem_nil
  · exact fun r hr => absurd hr not_mem_nil
  · exact fun j a _ p _ c hc _ => absurd hc not_mem_nil
  · exact fun r hr => absurd hr not_mem_nil
  · exact fun r hr => absurd hr not_mem_nil

theorem sent_rows : ∀ r ∈ (run Ledger.step Ledger.empty sending).rows,
    r.2.occurred_at ≤ midnight ∧ r.2.committed_at ≤ midnight := by
  have hall : (run Ledger.step Ledger.empty sending).rows.all (fun r =>
      decide (r.2.occurred_at ≤ midnight ∧ r.2.committed_at ≤ midnight)) = true := by
    decide +kernel
  exact fun r hr => of_decide_eq_true (all_eq_true.mp hall r hr)

theorem superseded_rows : ∃ c ∈ (run Ledger.step Ledger.empty (sending ++ [superseding])
      ).cabinet.signing_ceremonies, c.state = .voided ∧ c.ceremony_id = ceremonyId ∧
    (run Ledger.step Ledger.empty (sending ++ [superseding])).cabinet.ceremony_events =
      (history opening).ceremony_events := by
  have hcabinet : (run Ledger.step Ledger.empty sending).cabinet = history opening := rfl
  obtain ⟨f, sha, env, pf, bl, docs, ev, hopening⟩ := opening_sent
  have hwrite := assemblePackage_eq (afterwards 1788220980000000)
    (rows (jacket .open 2) (package f sha) (ceremony sha env) customer representative pf bl docs ev)
    ⟨manager, jacketId, 2⟩ requireActor_manager rfl rfl rfl (cast_clock 1788220980000000) rfl rfl
    rfl
  rw [run_append, run_cons, run_nil]
  show ∃ c ∈ (step (run Ledger.step Ledger.empty sending).cabinet superseding.call
    ).signing_ceremonies, _ ∧ _ ∧ (step (run Ledger.step Ledger.empty sending).cabinet
      superseding.call).ceremony_events = _
  rw [hcabinet, hopening, superseding, step, hwrite]
  exact ⟨_, mem_cons_self, rfl, rfl, rfl⟩

end CashDeal

/-- The deal is sent and voided. -/
theorem history_explains_states_voided :
    (run Ledger.step Ledger.empty (CashDeal.sending ++ [CashDeal.voiding])).ExplainsStates := by
  refine Ledger.history_explains_states _ (along_append.mpr ⟨CashDeal.sending_clocked, ⟨?_, ?_⟩,
    trivial⟩)
  · refine .after_all (by decide) fun r hr => Int.le_trans (CashDeal.sent_rows r hr).2 ?_
    decide
  · refine ⟨trivial, fun c _ _ _ r hr _ => Int.le_trans (CashDeal.sent_rows r hr).1 ?_⟩
    decide

/-- The deal is sent, and the sent version is superseded: the clock and the locks are as they
should be, the ceremony is voided, and its events still say it was sent. -/
theorem history_of_superseded :
    Along Ledger.step (fun l t => l.Clocked t) Ledger.empty
        (CashDeal.sending ++ [CashDeal.superseding]) ∧
      ¬ (run Ledger.step Ledger.empty (CashDeal.sending ++ [CashDeal.superseding])
        ).ExplainsStates := by
  constructor
  · refine along_append.mpr ⟨?_, .after_all (by decide) fun r hr => ?_, trivial⟩
    · obtain ⟨⟨h₁, -⟩, ⟨h₂, -⟩, ⟨h₃, -⟩, ⟨h₄, -⟩, -⟩ := CashDeal.sending_clocked
      exact ⟨h₁, h₂, h₃, h₄, trivial⟩
    · exact Int.le_trans (CashDeal.sent_rows r hr).2 (by decide)
  · intro h
    obtain ⟨c, hc, hvoided, hid, hevents⟩ := CashDeal.superseded_rows
    have htells := (h.tells c hc).state
    rw [hevents, hvoided, hid] at htells
    have htold : (storyOf (history CashDeal.opening).ceremony_events CashDeal.ceremonyId).foldl told
        none = some .sent := by decide +kernel
    rw [htold] at htells
    cases htells

end Dealership.Jacket
