import Dealership.Crm.Credit

/-!
# Attribution, under interleaving

Runs are computed while leads come in and touches are recorded.  A run reads the leads
of its window once and the touches of each lead once, each read a statement of its
own; it relies on the touch ledger to grow only at its end (`Grown`), and on the entry
of the unique index it has taken to stay its own.

From these the account of every run follows, and that one run stands for a rooftop, a
model and a window.
-/

namespace Dealership.Crm

open Library List

variable {held : List LedgerLock} {more : List LedgerLock} {ids : List String} {r : AttributionRun}

/-! ## Calls -/

/-- A call on the floor, an assignment, or an attribution run. -/
inductive LedgerCall where
  | floor (call : FloorCall)
  | assignLead (w : CrmWorld) (input : AssignInput)
  | computeAttribution (w : AttributionWorld) (input : AttributionInput)

inductive LedgerAnswer where
  | floor (answer : FloorAnswer)
  | assigned (outcome : AssignOutcome)
  | attributed (outcome : AttributionOutcome)

def CreditLedger.leadRows : Lens CreditLedger Pipeline where
  get := (·.pipeline)
  set := fun p db => { db with pipeline := p }
  get_set := fun _ _ => rfl
  set_get := fun _ => rfl
  set_set := fun _ _ _ => rfl

def LedgerCall.program (createdAt : String → Int) : LedgerCall → LedgerWork LedgerAnswer
  | .floor call => do
    pure (.floor (← call.program.zoom CreditLedger.leadRows LedgerLock.crm fun e => e))
  | .assignLead w input => do
    pure (.assigned (← (Crm.assignLead w input).zoom CreditLedger.leadRows LedgerLock.crm
      fun e => e))
  | .computeAttribution w input => do
    pure (.attributed (← Crm.computeAttribution createdAt w input))

/-! ## The contract -/

/-- The locks of the CRM among these. -/
def crmLocks (held : List LedgerLock) : List Lock :=
  held.filterMap fun k => match k with
    | .crm lock => some lock
    | .run _ _ => none

theorem mem_crmLocks {k : Lock} : k ∈ crmLocks held ↔ LedgerLock.crm k ∈ held := by
  rw [crmLocks, mem_filterMap]
  constructor
  · rintro ⟨l, hl, hlock⟩
    cases l with
    | crm lock =>
      cases hlock
      exact hl
    | run id mode => cases hlock
  · intro hk
    exact ⟨.crm k, hk, rfl⟩

theorem crmLocks_map (held : List Lock) : crmLocks (held.map LedgerLock.crm) = held := by
  rw [crmLocks, filterMap_map]
  exact filterMap_some

/-- The touch ledger holds, every run is accounted for, and one stands for a rooftop, a
model and a window. -/
structure Accounted (createdAt : String → Int) (db : CreditLedger) : Prop where
  touched : Touched db.pipeline
  runs : (db.attribution_runs.map (·.attribution_run_id)).Nodup
  owned : ∀ a ∈ db.lead_attributions, ∃ r ∈ db.attribution_runs,
    r.attribution_run_id = a.attribution_run_id
  current : ∀ rooftop model start finish,
    ∀ q ∈ db.attribution_runs, q.stands rooftop model start finish →
      ∀ r ∈ db.attribution_runs, r.stands rooftop model start finish → q = r
  credited : ∀ r ∈ db.attribution_runs, ∃ considered,
    Credited createdAt r considered (creditsOf r.attribution_run_id db) db.pipeline ∧
      r.leads_considered = considered.length ∧
      r.touches_credited = (creditsOf r.attribution_run_id db).length

def currentEntry (rooftop : String) (model : AttributionModel) (start finish : Int) :
    LedgerLock :=
  .crm (.index "uq_attribution_runs_current" (windowText rooftop model start finish))

def runEntry (runId : String) : LedgerLock := .crm (.index "attribution_runs_pkey" runId)

/-- What a transaction relies on under the locks it holds. -/
structure Settled (held : List LedgerLock) (db db' : CreditLedger) : Prop where
  grown : Grown (crmLocks held) db.pipeline db'.pipeline
  fresh : ∀ x, runEntry x ∈ held → (∀ r ∈ db.attribution_runs, r.attribution_run_id ≠ x) →
    ∀ r ∈ db'.attribution_runs, r.attribution_run_id ≠ x
  standing : ∀ rooftop model start finish, currentEntry rooftop model start finish ∈ held →
    ∀ r ∈ db'.attribution_runs, r.stands rooftop model start finish →
      ∃ q ∈ db.attribution_runs, q.attribution_run_id = r.attribution_run_id ∧
        q.stands rooftop model start finish

/-- What a transaction that held `held` may have committed. -/
structure Settles (held : List LedgerLock) (db db' : CreditLedger) : Prop where
  grows : Grows (crmLocks held) db.pipeline db'.pipeline
  runs : ∀ r ∈ db'.attribution_runs,
    (∃ q ∈ db.attribution_runs, q.attribution_run_id = r.attribution_run_id ∧
      ∀ rooftop model start finish, r.stands rooftop model start finish →
        q.stands rooftop model start finish) ∨
    runEntry r.attribution_run_id ∈ held ∧
      currentEntry r.rooftop_id r.model r.window_start r.window_end ∈ held

def Recorded (answer : LedgerAnswer) (db' : CreditLedger) : Prop :=
  ∀ run, answer = .attributed (.computed run) → run ∈ db'.attribution_runs ∧ run.state = .computed

theorem Settled.refl (held : List LedgerLock) (db : CreditLedger) : Settled held db db :=
  ⟨.refl _ _, fun _ _ h => h, fun _ _ _ _ _ r hr h => ⟨r, hr, rfl, h⟩⟩

theorem Settled.trans {a b c : CreditLedger} (hab : Settled held a b) (hbc : Settled held b c) :
    Settled held a c := by
  refine ⟨hab.grown.trans hbc.grown, fun x hx h => hbc.fresh x hx (hab.fresh x hx h), ?_⟩
  intro rooftop model start finish hlock r hr hstands
  obtain ⟨q, hq, hid, hstands⟩ := hbc.standing _ _ _ _ hlock r hr hstands
  obtain ⟨p, hp, hid', hstands⟩ := hab.standing _ _ _ _ hlock q hq hstands
  exact ⟨p, hp, hid'.trans hid, hstands⟩

theorem crmLocks_mono (hsub : ∀ k ∈ held, k ∈ more) : ∀ k ∈ crmLocks held, k ∈ crmLocks more :=
  fun _ hk => mem_crmLocks.mpr (hsub _ (mem_crmLocks.mp hk))

theorem Settled.mono {a b : CreditLedger} (hsub : ∀ k ∈ held, k ∈ more)
    (h : Settled more a b) : Settled held a b :=
  ⟨h.grown.mono (crmLocks_mono hsub), fun x hx => h.fresh x (hsub _ hx),
    fun rooftop model start finish hlock => h.standing rooftop model start finish (hsub _ hlock)⟩

theorem Settles.settled {db db' : CreditLedger} (h : Settles held db db')
    (hclear : ∀ k ∈ held, ∀ l ∈ more, k.conflicts l = false) : Settled more db db' := by
  refine ⟨h.grows.grown fun k hk l hl => ?_, fun x hx hfresh r hr hid => ?_,
    fun rooftop model start finish hlock r hr hstands => ?_⟩
  · exact hclear _ (mem_crmLocks.mp hk) _ (mem_crmLocks.mp hl)
  · rcases h.runs r hr with ⟨q, hq, hidq, -⟩ | ⟨hmine, -⟩
    · exact hfresh q hq (hidq.trans hid)
    · have hconflict := hclear _ hmine _ hx
      simp [runEntry, LedgerLock.conflicts, Lock.conflicts, hid] at hconflict
  · rcases h.runs r hr with ⟨q, hq, hidq, hstood⟩ | ⟨-, hmine⟩
    · exact ⟨q, hq, hidq, hstood _ _ _ _ hstands⟩
    · obtain ⟨rfl, rfl, rfl, rfl, -⟩ := hstands
      have hconflict := hclear _ hmine _ hlock
      simp [currentEntry, LedgerLock.conflicts, Lock.conflicts] at hconflict

def credit (createdAt : String → Int) :
    Contract LedgerCall CreditLedger LedgerLock Raise LedgerAnswer where
  inv := Accounted createdAt
  rely := fun _ held db db' => Settled held db db'
  finds := fun _ _ _ => True
  ensures := fun _ held answer db db' => Settles held db db' ∧ Recorded answer db'
  mayRaise := fun _ _ => True

instance {x : String → Int} {c : LedgerCall} : (credit x).Tolerant c := ⟨fun _ => trivial⟩

/-! ## What is no run -/

section Floor

variable {createdAt : String → Int} {db : CreditLedger} {p : Pipeline}

theorem Accounted.set_pipeline {held : List Lock} (h : Accounted createdAt db) (hp : Touched p)
    (hgrows : Grows held db.pipeline p) : Accounted createdAt { db with pipeline := p } := by
  refine ⟨hp, h.runs, h.owned, h.current, fun r hr => ?_⟩
  obtain ⟨considered, hcredited, hcounts⟩ := h.credited r hr
  obtain ⟨ts, htouches, -⟩ := hgrows.touches
  exact ⟨considered, hcredited.grown hgrows.leads ⟨ts, htouches.symm⟩, hcounts⟩

theorem zoom_sound {A : Type} {call : LedgerCall} {s : Work A} {g : A → LedgerAnswer}
    (hg : ∀ a run, g a ≠ .attributed (.computed run))
    (h : (history A).Sound () s [] (fun p => p) db.pipeline) :
    (credit createdAt).Sound call
      (s.zoom CreditLedger.leadRows LedgerLock.crm (fun e => e) >>= fun a => pure (g a))
      [] (fun d => d) db := by
  have hzoom : (credit createdAt).Sound call
      (s.zoom CreditLedger.leadRows LedgerLock.crm (fun e => e) >>= fun a => pure (g a))
      (([] : List Lock).map LedgerLock.crm) (CreditLedger.leadRows.modify fun p => p) db := by
    refine Contract.Sound.zoom (μ := history A) (m := ()) (ℓ := CreditLedger.leadRows)
      (fun _ hd => Accounted.touched hd) (fun held d d' hr => ?_) (fun _ _ _ => trivial)
      (fun _ _ => trivial) (fun held b f d hd hkeeps hgrows => ?_) h
    · have hgrown := hr.grown
      rwa [crmLocks_map] at hgrown
    · refine ⟨hd.set_pipeline hkeeps hgrows, ⟨?_, fun r hr => .inl ⟨r, hr, rfl, ?_⟩⟩, ?_⟩
      · rw [crmLocks_map]
        exact hgrows
      · exact fun _ _ _ _ h => h
      · exact fun run hrun => absurd hrun (hg b run)
  rwa [Lens.modify_id] at hzoom

end Floor

/-! ## A run -/

/-- What a run writes, wherever it is committed: the runs it supersedes and its own, and
its credit at the end of the ledger. -/
def laid (runs : List AttributionRun → List AttributionRun) (rows : List LeadAttribution)
    (db : CreditLedger) : CreditLedger :=
  { db with
    attribution_runs := runs db.attribution_runs
    lead_attributions := db.lead_attributions ++ rows }

def succeeded (ids : List String) (run : AttributionRun) (runs : List AttributionRun) :
    List AttributionRun :=
  updateWhere (fun r : AttributionRun => r.attribution_run_id ∈ ids) AttributionRun.supersede runs ++
    [run]

/-- The entries of a new run are its own, and whatever stands in its place is among the
runs it supersedes. -/
structure Reserved (ids : List String) (run : AttributionRun) (held : List LedgerLock)
    (db : CreditLedger) : Prop where
  entry : runEntry run.attribution_run_id ∈ held
  current : currentEntry run.rooftop_id run.model run.window_start run.window_end ∈ held
  fresh : ∀ r ∈ db.attribution_runs, r.attribution_run_id ≠ run.attribution_run_id
  closed : ∀ r ∈ db.attribution_runs,
    r.stands run.rooftop_id run.model run.window_start run.window_end → r.attribution_run_id ∈ ids

theorem Reserved.settled {run : AttributionRun} {db db' : CreditLedger}
    (h : Reserved ids run held db) (hr : Settled held db db')
    (hsub : ∀ k ∈ held, k ∈ more) : Reserved ids run more db' := by
  refine ⟨hsub _ h.entry, hsub _ h.current, hr.fresh _ h.entry h.fresh, fun r hr' hstands => ?_⟩
  obtain ⟨q, hq, hid, hstood⟩ := hr.standing _ _ _ _ h.current r hr' hstands
  exact hid ▸ h.closed q hq hstood

theorem Grows.refl (held : List Lock) (db : Pipeline) : Grows held db db :=
  ⟨fun l hl => ⟨l, hl, rfl⟩, fun l hl => .inl ⟨l, hl, rfl⟩, [], (append_nil _).symm,
    forall_mem_nil _⟩

theorem not_stands_supersede {rooftop : String} {model : AttributionModel}
    {start finish : Int} : ¬ r.supersede.stands rooftop model start finish :=
  fun h => AttributionRunState.noConfusion h.2.2.2.2

theorem stands_of_superseded {runs : List AttributionRun} {rooftop : String}
    {model : AttributionModel} {start finish : Int}
    (hr : r ∈ updateWhere (fun r : AttributionRun => r.attribution_run_id ∈ ids)
      AttributionRun.supersede runs) (hstands : r.stands rooftop model start finish) :
    r ∈ runs ∧ r.attribution_run_id ∉ ids := by
  rcases updateWhere_cases hr with ⟨hr, hids⟩ | ⟨q, -, -, rfl⟩
  · exact ⟨hr, hids⟩
  · exact absurd hstands not_stands_supersede

theorem superseded_id {runs : List AttributionRun}
    (hr : r ∈ updateWhere (fun r : AttributionRun => r.attribution_run_id ∈ ids)
      AttributionRun.supersede runs) :
    ∃ q ∈ runs, q.attribution_run_id = r.attribution_run_id ∧ (r = q ∨ r = q.supersede) := by
  rcases updateWhere_cases hr with ⟨hr, -⟩ | ⟨q, hq, -, rfl⟩
  · exact ⟨r, hr, rfl, .inl rfl⟩
  · exact ⟨q, hq, rfl, .inr rfl⟩

section Commit

variable {createdAt : String → Int} {ids : List String} {run : AttributionRun} {db : CreditLedger}
  {considered : List (String × Nat)} {rows : List LeadAttribution}

/-- The last statement finds its own row alone. -/
theorem finish_succeeded (h : Reserved ids run held db) (n m : Nat) :
    updateWhere (fun r : AttributionRun => r.attribution_run_id = run.attribution_run_id)
        (AttributionRun.finish n m) (succeeded ids run db.attribution_runs) =
      succeeded ids (run.finish n m) db.attribution_runs := by
  have hothers : ∀ r ∈ updateWhere (fun r : AttributionRun => r.attribution_run_id ∈ ids)
      AttributionRun.supersede db.attribution_runs,
        ¬ r.attribution_run_id = run.attribution_run_id := by
    intro r hr hid
    obtain ⟨q, hq, hqid, -⟩ := superseded_id hr
    exact h.fresh q hq (hqid.trans hid)
  have hkeep := updateWhere_of_forall_not (f := AttributionRun.finish n m) hothers
  unfold updateWhere at hkeep
  unfold succeeded updateWhere
  rw [map_append, hkeep, map_singleton, if_pos rfl]

theorem Credited.runId (h : Credited createdAt run considered rows db.pipeline)
    {a : LeadAttribution} (ha : a ∈ rows) : a.attribution_run_id = run.attribution_run_id := by
  rw [h.rows] at ha
  obtain ⟨c, -, ha⟩ := mem_flatMap.mp ha
  obtain ⟨_, -, -, rfl⟩ := mem_creditRows.mp ha
  rfl

theorem creditsOf_laid (h : Credited createdAt run considered rows db.pipeline) (x : String)
    (runs : List AttributionRun → List AttributionRun) :
    creditsOf x (laid runs rows db) =
      creditsOf x db ++ if x = run.attribution_run_id then rows else [] := by
  rw [creditsOf, laid, filter_append, creditsOf]
  congr 1
  split
  · rename_i hx
    exact filter_eq_self.mpr fun a ha => decide_eq_true ((h.runId ha).trans hx.symm)
  rename_i hx
  refine filter_eq_nil_iff.mpr fun a ha hax => hx ?_
  exact (of_decide_eq_true hax).symm.trans (h.runId ha)

theorem commits_run (hdb : Accounted createdAt db) (h : Reserved ids run held db)
    (hcredited : Credited createdAt run considered rows db.pipeline) :
    let db' := laid (succeeded ids (run.finish considered.length rows.length)) rows db
    Accounted createdAt db' ∧ Settles held db db' ∧
      run.finish considered.length rows.length ∈ db'.attribution_runs := by
  intro db'
  have hmem : ∀ r ∈ db'.attribution_runs,
      r ∈ updateWhere (fun r : AttributionRun => r.attribution_run_id ∈ ids)
        AttributionRun.supersede db.attribution_runs ∨
      r = run.finish considered.length rows.length := by
    intro r hr
    rcases mem_inserted hr with hr | rfl
    · exact .inl hr
    · exact .inr rfl
  have hown : run.finish considered.length rows.length ∈ db'.attribution_runs :=
    mem_append_right _ (mem_singleton_self _)
  have hnone : creditsOf run.attribution_run_id db = [] := by
    refine filter_eq_nil_iff.mpr fun a ha hax => ?_
    obtain ⟨r, hr, hid⟩ := hdb.owned a ha
    exact h.fresh r hr (hid.trans (of_decide_eq_true hax))
  refine ⟨⟨hdb.touched, ?_, ?_, ?_, ?_⟩, ⟨.refl _ _, ?_⟩, hown⟩
  · refine nodup_key_insert ?_ fun r hr hid => ?_
    · exact nodup_map_updateWhere hdb.runs fun _ _ => rfl
    · obtain ⟨q, hq, hqid, -⟩ := superseded_id hr
      exact h.fresh q hq (hqid.trans hid)
  · intro a ha
    rcases mem_append.mp ha with ha | ha
    · obtain ⟨r, hr, hid⟩ := hdb.owned a ha
      by_cases hin : r.attribution_run_id ∈ ids
      · exact ⟨_, mem_append_left _ (mem_updateWhere_of_pos hr hin), hid⟩
      · exact ⟨_, mem_append_left _ (mem_updateWhere_of_neg hr hin), hid⟩
    · exact ⟨_, hown, (hcredited.runId ha).symm⟩
  · intro rooftop model start finish q hq hqs r hr hrs
    rcases hmem q hq with hq | rfl
    · obtain ⟨hq, hqids⟩ := stands_of_superseded hq hqs
      rcases hmem r hr with hr | rfl
      · obtain ⟨hr, -⟩ := stands_of_superseded hr hrs
        exact hdb.current _ _ _ _ q hq hqs r hr hrs
      · obtain ⟨rfl, rfl, rfl, rfl, -⟩ := hrs
        exact absurd (h.closed q hq hqs) hqids
    · rcases hmem r hr with hr | rfl
      · obtain ⟨hr, hrids⟩ := stands_of_superseded hr hrs
        obtain ⟨rfl, rfl, rfl, rfl, -⟩ := hqs
        exact absurd (h.closed r hr hrs) hrids
      · rfl
  · intro r hr
    rcases hmem r hr with hr | rfl
    · obtain ⟨q, hq, hid, hrq⟩ := superseded_id hr
      obtain ⟨considered', hcredited', hleads, htouches⟩ := hdb.credited q hq
      have hsame : creditsOf r.attribution_run_id db' = creditsOf q.attribution_run_id db := by
        rw [creditsOf_laid hcredited, ← hid, if_neg (h.fresh q hq), append_nil]
      rw [hsame]
      rcases hrq with rfl | rfl
      · exact ⟨considered', hcredited', hleads, htouches⟩
      · exact ⟨considered', ⟨hcredited'.apart, hcredited'.inWindow, hcredited'.seen,
          hcredited'.rows⟩, hleads, htouches⟩
    · have hsame : creditsOf run.attribution_run_id db' = rows := by
        rw [creditsOf_laid hcredited, if_pos rfl, hnone, nil_append]
      refine ⟨considered, ⟨hcredited.apart, hcredited.inWindow, hcredited.seen, ?_⟩, rfl, ?_⟩
      · exact hsame.trans hcredited.rows
      · exact congrArg List.length hsame.symm
  · intro r hr
    rcases hmem r hr with hr | rfl
    · obtain ⟨q, hq, hid, hrq⟩ := superseded_id hr
      refine .inl ⟨q, hq, hid, fun rooftop model start finish hstands => ?_⟩
      rcases hrq with rfl | rfl
      · exact hstands
      · exact absurd hstands not_stands_supersede
    · exact .inr ⟨h.entry, h.current⟩

end Commit

/-! ## Soundness -/

section Sound

variable {createdAt : String → Int} {call : LedgerCall} {db : CreditLedger}
  {runs : List AttributionRun → List AttributionRun} {rows : List LeadAttribution}

abbrev attributing (createdAt : String → Int) :
    Contract LedgerCall CreditLedger LedgerLock Raise AttributionOutcome :=
  (credit createdAt).onAnswers LedgerAnswer.attributed

theorem creditTouches_sound {runId leadId : String} {weighted : List (LeadSourceTouch × Nat)}
    {credited : Nat} {g : Nat → LedgerWork AttributionOutcome}
    (h : ∀ d more, (∀ k ∈ held, k ∈ more) → Settled held db d →
      (attributing createdAt).Sound call
        (g (credited + (creditRows runId leadId weighted).length)) more
        (laid runs (rows ++ creditRows runId leadId weighted)) d) :
    (attributing createdAt).Sound call (creditTouches runId leadId weighted credited >>= g) held
      (laid runs rows) db := by
  induction weighted generalizing rows credited held db with
  | nil =>
    have hdone := h db held (fun _ hk => hk) (.refl _ _)
    rwa [creditRows, filter_nil, map_nil, append_nil] at hdone
  | cons p weighted ih =>
    obtain ⟨t, weight⟩ := p
    unfold creditTouches
    split
    · rename_i hzero
      refine ih fun d more hsub hr => ?_
      have hrest := h d more hsub hr
      rwa [creditRows, filter_cons_of_neg (by simp [hzero])] at hrest
    · rename_i hweight
      rw [Script.bind_assoc]
      refine sound_execute_bind fun d₁ more₁ hsub₁ _ hr₁ _ _ _ => ?_
      have hpending : (fun x => { laid runs rows x with
          lead_attributions := (laid runs rows x).lead_attributions ++
            [creditFor runId leadId t weight] }) =
          laid runs (rows ++ [creditFor runId leadId t weight]) := by
        funext x
        rw [laid, laid, append_assoc]
      change (attributing createdAt).Sound call _ more₁ (fun x => { laid runs rows x with
          lead_attributions := (laid runs rows x).lead_attributions ++
            [creditFor runId leadId t weight] }) d₁
      rw [hpending]
      refine ih fun d more hsub hr => ?_
      have hrest := h d more (fun k hk => hsub k (hsub₁ k hk)) (hr₁.trans (hr.mono hsub₁))
      rw [creditRows, filter_cons_of_pos (by simp [hweight]), map_cons, length_cons] at hrest
      rw [append_assoc, Nat.add_assoc, Nat.add_comm 1]
      exact hrest

theorem Touched.touchesInOrder {p : Pipeline} (h : Touched p) (x : String) :
    touchesInOrder x p = touchesOf x p := by
  refine List.Pairwise.insertionSort_eq ?_
  have hsorted : ((touchesOf x p).map (·.touch_seq)).Pairwise (· < ·) := by
    rw [h.numbered]
    exact pairwise_lt_range' 1
  exact (pairwise_map.mp hsorted).imp Nat.le_of_lt

theorem creditLeads_sound {run : AttributionRun} {leads : List String}
    (done : List (String × Nat)) {g : Nat → LedgerWork AttributionOutcome}
    (hdone : Credited createdAt run done rows db.pipeline)
    (hleads : (done.map Prod.fst ++ leads).Nodup)
    (hwindow : ∀ x ∈ leads, (∃ l ∈ db.pipeline.leads, l.place = (x, run.rooftop_id)) ∧
      run.window_start ≤ createdAt x ∧ createdAt x < run.window_end)
    (h : ∀ d more considered rows', (∀ k ∈ held, k ∈ more) → Settled held db d →
      considered.length = done.length + leads.length →
        Credited createdAt run considered rows' d.pipeline →
          (attributing createdAt).Sound call (g rows'.length) more (laid runs rows') d) :
    (attributing createdAt).Sound call (creditLeads run leads rows.length >>= g) held
      (laid runs rows) db := by
  induction leads generalizing done rows held db with
  | nil => exact h db held done rows (fun _ hk => hk) (.refl _ _) rfl hdone
  | cons x leads ih =>
    unfold creditLeads
    rw [Script.bind_assoc]
    refine sound_select_bind fun d₁ hr₁ hi₁ _ => ?_
    change (attributing createdAt).Sound call
      ((creditTouches _ x ((Crm.touchesInOrder x d₁.pipeline).zip
        (attributionWeights run.model (Crm.touchesInOrder x d₁.pipeline).length)) rows.length >>=
          fun credited => creditLeads run leads credited) >>= g) held (laid runs rows) d₁
    rw [hi₁.touched.touchesInOrder, Script.bind_assoc]
    refine creditTouches_sound fun d₂ more hsub hr₂ => ?_
    rw [← length_append]
    have hd₂ := hr₁.trans hr₂
    obtain ⟨⟨l, hl, hplace⟩, htimes⟩ := hwindow x mem_cons_self
    obtain ⟨l₁, hl₁, hplace₁⟩ := hr₁.grown.leads l hl
    have hsome : touchesOf x d₁.pipeline ≠ [] := by
      have hid : l₁.lead_id = x := congrArg Prod.fst (hplace₁.trans hplace)
      exact hid ▸ hi₁.touched.each l₁ hl₁
    have hfresh : x ∉ done.map Prod.fst :=
      fun hx => (nodup_append.mp hleads).2.2 x hx x mem_cons_self rfl
    -- The lead is considered with the touches that were there when it was read.
    have hmore : Credited createdAt run (done ++ [(x, (touchesOf x d₁.pipeline).length)])
        (rows ++ splitRows run.model run.attribution_run_id x (touchesOf x d₁.pipeline))
        d₁.pipeline := by
      have hbefore := hdone.grown hr₁.grown.leads hr₁.grown.touches
      refine ⟨?_, fun c hc => ?_, fun c hc => ?_, ?_⟩
      · rw [map_append, map_singleton]
        refine nodup_append.mpr ⟨hdone.apart, nodup_singleton _, ?_⟩
        rintro a ha b hb rfl
        rw [mem_singleton.mp hb] at ha
        exact hfresh ha
      · rcases mem_inserted hc with hc | rfl
        · exact hbefore.inWindow c hc
        · exact ⟨⟨l₁, hl₁, hplace₁.trans hplace⟩, htimes⟩
      · rcases mem_inserted hc with hc | rfl
        · exact hbefore.seen c hc
        · exact ⟨length_pos_iff.mpr hsome, Nat.le_refl _⟩
      · rw [flatMap_append, flatMap_singleton, take_length, ← hbefore.rows]
    refine ih _ (hmore.grown hr₂.grown.leads hr₂.grown.touches) ?_ (fun y hy => ?_) ?_
    · rwa [map_append, map_singleton, append_assoc, singleton_append]
    · obtain ⟨⟨k, hk, hkplace⟩, hktimes⟩ := hwindow y (mem_cons_of_mem x hy)
      obtain ⟨k', hk', hkplace'⟩ := hd₂.grown.leads k hk
      exact ⟨⟨k', hk', hkplace'.trans hkplace⟩, hktimes⟩
    · intro d more' considered rows' hsub' hr hlength hcredited
      refine h d more' considered rows' (fun k hk => hsub' k (hsub k hk))
        (hd₂.trans (hr.mono hsub)) ?_ hcredited
      rw [hlength, length_append, length_singleton, length_cons]
      omega

theorem leadsInWindow_spec (createdAt : String → Int) (run : AttributionRun) {p : Pipeline}
    (hp : Touched p) :
    (leadsInWindow createdAt run p).Nodup ∧ ∀ x ∈ leadsInWindow createdAt run p,
      (∃ l ∈ p.leads, l.place = (x, run.rooftop_id)) ∧
        run.window_start ≤ createdAt x ∧ createdAt x < run.window_end := by
  unfold leadsInWindow
  refine ⟨(perm_insertionSort _ _).nodup_iff.mpr (hp.leads.sublist (filter_sublist.map _)),
    fun x hx => ?_⟩
  rw [mem_insertionSort] at hx
  obtain ⟨l, hl, rfl⟩ := mem_map.mp hx
  simp only [mem_filter, Bool.and_eq_true, decide_eq_true_eq] at hl
  obtain ⟨hl, ⟨hrooftop, hstart⟩, hfinish⟩ := hl
  exact ⟨⟨l, hl, by rw [Lead.place, hrooftop]⟩, hstart, hfinish⟩

theorem reserved_of_accepted {ids : List String} {run : AttributionRun} {w : AttributionWorld}
    (hentry : runEntry run.attribution_run_id ∈ held)
    (hcurrent : currentEntry run.rooftop_id run.model run.window_start run.window_end ∈ held)
    (haccepted : (((updateWhere (fun r : AttributionRun => r.attribution_run_id ∈ ids)
        AttributionRun.supersede db.attribution_runs).all fun q =>
          decide (q.attribution_run_id ≠ run.attribution_run_id) &&
          decide (¬ q.stands run.rooftop_id run.model run.window_start run.window_end)) &&
        decide (run.window_start < run.window_end) && w.rooftopExists run.rooftop_id) = true) :
    Reserved ids run held db := by
  simp only [Bool.and_eq_true, all_eq_true, decide_eq_true_eq] at haccepted
  obtain ⟨⟨hfree, -⟩, -⟩ := haccepted
  refine ⟨hentry, hcurrent, fun r hr hid => ?_, fun r hr hstands => ?_⟩
  · by_cases hin : r.attribution_run_id ∈ ids
    · exact (hfree _ (mem_updateWhere_of_pos hr hin)).1 hid
    · exact (hfree _ (mem_updateWhere_of_neg hr hin)).1 hid
  · by_contra hin
    exact (hfree _ (mem_updateWhere_of_neg hr hin)).2 hstands

/-- A run that is begun beside others records credit that is accounted for. -/
theorem computeAttribution_sound (w : AttributionWorld) (input : AttributionInput) :
    (attributing createdAt).Sound call (computeAttribution createdAt w input) []
      (fun d => d) db := by
  have hinvalid : ∀ error, (attributing createdAt).Sound call
      (pure (.invalid error)) [] (fun d => d) db := by
    intro error d _ hi _
    refine ⟨hi, ⟨.refl _ _, fun r hr => .inl ⟨r, hr, rfl, fun _ _ _ _ h => h⟩⟩, ?_⟩
    intro run hrun
    cases hrun
  unfold computeAttribution
  split
  · exact hinvalid _
  rename_i model _
  split
  · rename_i start finish _ _
    split
    · exact hinvalid _
    rename_i hwindow
    unfold actorOnLedger
    split
    · refine sound_execute_bind fun d₁ held₁ _ _ _ _ _ _ => ?_
      generalize standingRuns input.rooftopId model start finish d₁ = ids
      dsimp only
      generalize hrun : newRun w input.rooftopId model start finish = run
      refine sound_execute_bind fun d₂ held₂ _ hlocks₂ _ hi₂ _ haccepted => ?_
      have hreserved : Reserved ids run held₂ d₂ :=
        reserved_of_accepted (hlocks₂ _ mem_cons_self)
          (hlocks₂ _ (mem_cons_of_mem _ mem_cons_self)) haccepted
      have hpending : (fun x : CreditLedger =>
          { x with attribution_runs := succeeded ids run x.attribution_runs }) =
            laid (succeeded ids run) [] := by
        funext x
        rw [laid, append_nil]
      change (attributing createdAt).Sound call _ held₂ (fun x : CreditLedger =>
        { x with attribution_runs := succeeded ids run x.attribution_runs }) d₂
      rw [hpending]
      refine sound_select_bind fun d₃ hr₃ hi₃ _ => ?_
      obtain ⟨hnodup, hleads⟩ := leadsInWindow_spec createdAt run hi₃.touched
      change (attributing createdAt).Sound call
        (creditLeads run (leadsInWindow createdAt run d₃.pipeline) ([] : List LeadAttribution).length
          >>= _) held₂ _ d₃
      refine creditLeads_sound [] ⟨nodup_nil, forall_mem_nil _,
        forall_mem_nil _, rfl⟩ hnodup hleads fun d₄ held₄ considered rows hsub₄ hr₄ hlength
          hcredited => ?_
      refine sound_execute_bind fun d₅ held₅ hsub₅ _ hr₅ _ _ _ => ?_
      intro d hr hi _
      -- What the last statement has done to the rows, at the commit.
      have hrest : Settled held₄ d₄ d := hr₅.trans (hr.mono hsub₅)
      have hreserved' := (hreserved.settled (hr₃.trans hr₄) hsub₄).settled hrest hsub₅
      have hcredited' := hcredited.grown hrest.grown.leads hrest.grown.touches
      have hcount : (leadsInWindow createdAt run (laid (succeeded ids run) [] d₃).pipeline).length =
          considered.length := by
        rw [hlength, length_nil, Nat.zero_add]
        rfl
      have hrows : { laid (succeeded ids run) rows d with
          attribution_runs := updateWhere
            (fun r : AttributionRun => r.attribution_run_id = run.attribution_run_id)
            (AttributionRun.finish considered.length rows.length)
            (laid (succeeded ids run) rows d).attribution_runs } =
          laid (succeeded ids (run.finish considered.length rows.length)) rows d := by
        simp only [laid, finish_succeeded hreserved']
      obtain ⟨haccounted, hsettles, hmem⟩ := commits_run hi hreserved' hcredited'
      rw [← hrows] at haccounted hsettles hmem
      rw [hcount]
      refine ⟨haccounted, hsettles, fun r hr => ?_⟩
      cases hr
      refine ⟨hmem, ?_⟩
      rw [← hrun]
      rfl
    · trivial
  · exact hinvalid _

end Sound

/-! ## Side by side -/

section Ledger

variable {createdAt : String → Int}

theorem LedgerCall.program_sound (call : LedgerCall) (db : CreditLedger) :
    (credit createdAt).Sound call (call.program createdAt) [] (fun d => d) db := by
  cases call with
  | floor call =>
    refine zoom_sound (fun a run h => ?_) (call.program_history db.pipeline)
    cases h
  | assignLead w input =>
    refine zoom_sound (fun a run h => ?_) (keeps_sound (keeps_assignLead input) .refl)
    cases h
  | computeAttribution w input => exact (computeAttribution_sound w input).of_onAnswers

theorem credit_cooperates : (credit createdAt).Cooperates LedgerLock.conflicts
    (LedgerCall.program createdAt) (fun _ _ => True) (fun _ _ => True) where
  refl := fun _ _ _ => .refl _ _
  trans := fun _ _ _ _ _ => .trans
  symm := LedgerLock.conflicts_symm
  begins := fun S c _ _ => c.program_sound S.committed
  sets_apart := fun _ _ _ _ _ _ => ⟨trivial, trivial⟩
  finds := fun _ _ _ _ _ => trivial
  respects := fun _ _ _ _ _ _ _ _ _ _ _ hbeside _ hensures => hensures.1.settled hbeside.2

theorem Accounted.conserves {db : CreditLedger} (h : Accounted createdAt db) {r : AttributionRun}
    (hr : r ∈ db.attribution_runs) : ∃ considered, Conserves createdAt db r considered := by
  obtain ⟨considered, hcredited, hleads, htouches⟩ := h.credited r hr
  exact ⟨_, hcredited.conserves h.touched hleads htouches⟩

/-- **Attribution conserves credit.**  In every interleaving of captures, moves of leads,
assignments and runs: the weights of each lead a run considered sum to ten thousand,
its counts are what they say, a linear split falls by at most a point, and one run
stands for a rooftop, a model and a window. -/
theorem attribution_conserves_credit {db : CreditLedger} (hdb : Accounted createdAt db)
    (events : List (Event LedgerCall)) :
    let S := run (Server.step LedgerLock.conflicts (LedgerCall.program createdAt)) (.fresh db) events
    (∀ r ∈ S.committed.attribution_runs, ∃ considered,
      Conserves createdAt S.committed r considered) ∧
    (∀ rooftop model start finish, (S.committed.attribution_runs.filter fun r =>
      r.stands rooftop model start finish).length ≤ 1) ∧
    ∀ w input r before after,
      .committed (.computeAttribution w input) (.attributed (.computed r)) before after ∈ S.history →
        r ∈ after.attribution_runs ∧ r.state = .computed ∧
          ∃ considered, Conserves createdAt after r considered := by
  intro S
  have hg : Contract.Guarded (credit createdAt) LedgerLock.conflicts (fun _ _ => True) S :=
    credit_cooperates.guarded hdb (Along.always (fun _ _ => trivial) _ _)
  have hinv : Accounted createdAt S.committed := hg.inv
  refine ⟨fun r hr => hinv.conserves hr, fun rooftop model start finish => ?_, ?_⟩
  · refine length_le_one_of_forall_eq ?_ fun q hq r hr => ?_
    · exact hinv.runs.of_map.sublist filter_sublist
    · obtain ⟨hq, hqs⟩ := mem_filter.mp hq
      obtain ⟨hr, hrs⟩ := mem_filter.mp hr
      exact hinv.current _ _ _ _ q hq (of_decide_eq_true hqs) r hr (of_decide_eq_true hrs)
  · intro w input r before after hmem
    obtain ⟨-, hafter, held, -, hrecorded⟩ := hg.history _ hmem
    obtain ⟨hr, hstate⟩ := hrecorded r rfl
    exact ⟨hr, hstate, hafter.conserves hr⟩

theorem Accounted.quiet (parties : List Party) (sources : List LeadSource)
    (queues : List LeadQueue) (policies : List LeadSlaPolicy) :
    Accounted createdAt ⟨.quiet parties sources queues policies, [], []⟩ :=
  ⟨⟨nodup_nil, nodup_nil, forall_mem_nil _, fun _ => rfl⟩, nodup_nil,
    forall_mem_nil _, fun _ _ _ _ => forall_mem_nil _, forall_mem_nil _⟩

end Ledger

/-! ## Ada comes back -/

namespace WalkIn

def ledger : CreditLedger := ⟨rows, [], []⟩

/-- Ada comes in on the second of the window. -/
def cameAt (leadId : String) : Int := if leadId = world.newLeadId then 2 else 0

def again : FloorCall :=
  .captureLead .ascii { world with newTouchId := "0c000000-0000-4000-8000-0000000000f7" }
    { visit with intakeKey := "desk-2" }

theorem ledger_accounted : Accounted cameAt ledger := .quiet _ _ _ _

def linearRun : LedgerCall :=
  .computeAttribution ⟨world.access, world.rooftopExists, "run-1"⟩
    ⟨clerk, "main street", "linear", some 1, some 3⟩

/-- She comes in, a run begins, and she comes again before it has looked at her. -/
def twice : List (Event LedgerCall) :=
  .arrive (.floor (.captureLead .ascii world visit)) :: List.replicate 12 (.turn 0) ++
    .arrive linearRun :: List.replicate 3 (.turn 1) ++
    .arrive (.floor again) :: List.replicate 12 (.turn 2) ++ List.replicate 8 (.turn 1)

end WalkIn

/-- Ada's two touches get half each. -/
theorem ada_conserves_credit :
    let S := run (Server.step LedgerLock.conflicts (LedgerCall.program WalkIn.cameAt))
      (.fresh WalkIn.ledger) WalkIn.twice
    (S.committed.lead_attributions.map (·.weight_bp) = [5000, 5000] ∧ S.history.length = 3) ∧
    (∀ r ∈ S.committed.attribution_runs, ∃ considered,
      Conserves WalkIn.cameAt S.committed r considered) ∧
    (∀ rooftop model start finish, (S.committed.attribution_runs.filter fun r =>
      r.stands rooftop model start finish).length ≤ 1) ∧
    ∀ w input r before after,
      .committed (.computeAttribution w input) (.attributed (.computed r)) before after ∈ S.history →
        r ∈ after.attribution_runs ∧ r.state = .computed ∧
          ∃ considered, Conserves WalkIn.cameAt after r considered :=
  ⟨by decide +kernel, attribution_conserves_credit WalkIn.ledger_accounted WalkIn.twice⟩

end Dealership.Crm
