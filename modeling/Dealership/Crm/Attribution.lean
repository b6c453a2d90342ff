import Dealership.Crm.Leads
import Dealership.Library.Zoom
import Mathlib.Algebra.GroupWithZero.Nat

/-!
# Attribution

A run credits the touches of the leads that came in at a rooftop during a window.
The weights are whole basis points, the touches are taken in the order of their
sequence, and a new run supersedes the run that stood for the same rooftop, model and
window.  Revenue is not available, and a run says so.

The run reads one lead after another, each with a statement of its own, so later
reads may see touches that earlier ones did not.
-/

namespace Dealership.Crm

open Library List

/-! ## The split -/

inductive AttributionModel where
  | first_touch | last_touch | linear
deriving DecidableEq

def AttributionModel.text : AttributionModel → String
  | .first_touch => "first_touch"
  | .last_touch => "last_touch"
  | .linear => "linear"

/-- `ATTRIBUTION_MODELS.includes`. -/
def AttributionModel.ofText (s : String) : Option AttributionModel :=
  [.first_touch, .last_touch, .linear].find? fun m : AttributionModel => m.text = s

/-- The split, as pure arithmetic: the remainder of a linear split goes to the earliest
touches, one basis point each. -/
def attributionWeights (model : AttributionModel) (touchCount : Nat) : List Nat :=
  if touchCount = 0 then []
  else match model with
    | .first_touch => 10000 :: List.replicate (touchCount - 1) 0
    | .last_touch => List.replicate (touchCount - 1) 0 ++ [10000]
    | .linear =>
      let base := 10000 / touchCount
      let remainder := 10000 - base * touchCount
      (List.range touchCount).map fun i => base + if i < remainder then 1 else 0

@[simp] theorem attributionWeights_length (model : AttributionModel) (n : Nat) :
    (attributionWeights model n).length = n := by
  unfold attributionWeights
  split
  · rename_i h
    exact h.symm
  cases model with
  | first_touch =>
    rw [length_cons, length_replicate]
    omega
  | last_touch =>
    rw [length_append, length_replicate, length_singleton]
    omega
  | linear => rw [length_map, length_range]

/-- One point each for the first `r` of `n`, over a base. -/
theorem sum_range_base (base n r : Nat) (h : r ≤ n) :
    ((List.range n).map fun i => base + if i < r then 1 else 0).sum = base * n + r := by
  induction n generalizing r with
  | zero =>
    rw [Nat.le_zero.mp h]
    rfl
  | succ n ih =>
    rw [range_succ, map_append, sum_append, map_singleton, sum_singleton]
    rcases Nat.lt_or_ge n r with hr | hr
    · have hsum := ih n le_rfl
      have hr' : r = n + 1 := Nat.le_antisymm h hr
      have hcongr : ((List.range n).map fun i => base + if i < r then 1 else 0) =
          (List.range n).map fun i => base + if i < n then 1 else 0 := by
        refine map_congr_left fun i hi => ?_
        have hi := mem_range.mp hi
        rw [if_pos hi, if_pos (hi.trans hr)]
      rw [hcongr, hsum, if_pos hr, Nat.mul_succ, hr']
      omega
    · rw [ih r hr, if_neg (Nat.not_lt.mpr hr), Nat.mul_succ]
      omega

/-- The split conserves credit: of any number of touches. -/
theorem attributionWeights_sum (model : AttributionModel) {n : Nat} (h : 0 < n) :
    (attributionWeights model n).sum = 10000 := by
  unfold attributionWeights
  rw [if_neg h.ne']
  cases model with
  | first_touch => simp
  | last_touch => simp
  | linear =>
    dsimp only
    have hmod := Nat.div_add_mod 10000 n
    have hlt := Nat.mod_lt 10000 h
    have hcomm := Nat.mul_comm n (10000 / n)
    rw [sum_range_base]
    · omega
    · omega

theorem attributionWeights_linear_get {n i v : Nat}
    (h : (attributionWeights .linear n)[i]? = some v) :
    v = 10000 / n + if i < 10000 - 10000 / n * n then 1 else 0 := by
  unfold attributionWeights at h
  split at h
  · rw [getElem?_nil] at h
    cases h
  rw [getElem?_map, Option.map_eq_some_iff] at h
  obtain ⟨k, hk, rfl⟩ := h
  obtain ⟨hi, hk⟩ := List.getElem?_eq_some_iff.mp hk
  rw [getElem_range] at hk
  rw [hk]

/-- A linear split gives each touch no less than the next, and nobody two points more
than another. -/
theorem attributionWeights_linear {n i j v w : Nat} (hij : i ≤ j)
    (hi : (attributionWeights .linear n)[i]? = some v)
    (hj : (attributionWeights .linear n)[j]? = some w) : w ≤ v ∧ v ≤ w + 1 := by
  rw [attributionWeights_linear_get hi, attributionWeights_linear_get hj]
  split <;> split <;> omega

/-! ## Rows -/

inductive AttributionRunState where
  | computed | superseded
deriving DecidableEq

inductive RevenueStatus where
  | NOT_YET_AVAILABLE | AVAILABLE

/-- A row of `attribution_runs`. -/
structure AttributionRun where
  attribution_run_id : String
  rooftop_id : String
  model : AttributionModel
  window_start : Int
  window_end : Int
  state : AttributionRunState
  leads_considered : Nat
  touches_credited : Nat
  revenue_status : RevenueStatus
  attributed_revenue_cents : Option Int
  authorization_version : Nat

/-- A row of `lead_attributions`. -/
structure LeadAttribution where
  attribution_run_id : String
  lead_id : String
  touch_id : String
  lead_source_id : String
  campaign_version_id : Option String
  weight_bp : Nat

structure CreditLedger where
  pipeline : Pipeline
  attribution_runs : List AttributionRun
  lead_attributions : List LeadAttribution

/-- A lock of the CRM, or a row of `attribution_runs`. -/
inductive LedgerLock where
  | crm (lock : Lock)
  | run (attributionRunId : String) (mode : RowLock)

def LedgerLock.conflicts : LedgerLock → LedgerLock → Bool
  | .crm k, .crm l => k.conflicts l
  | .run a m, .run b n => a = b && m.conflicts n
  | _, _ => false

theorem LedgerLock.conflicts_symm (k l : LedgerLock) : k.conflicts l = l.conflicts k := by
  cases k <;> cases l <;>
    simp only [LedgerLock.conflicts, Lock.conflicts_symm, RowLock.conflicts_symm, eq_comm]

abbrev LedgerWork := Script CreditLedger LedgerLock Raise

/-! ## A run -/

/-- What a run finds around it. -/
structure AttributionWorld where
  access : Access
  rooftopExists : String → Bool
  newAttributionRunId : String

structure AttributionInput where
  actingUserLinkId : String
  rooftopId : String
  model : String
  /-- `none` for a text that is no date. -/
  windowStart : Option Int
  windowEnd : Option Int

inductive AttributionOutcome where
  | computed (run : AttributionRun)
  | invalid (error : String)

/-- The rooftop, the model and the window of a run, and that it is the current one. -/
def AttributionRun.stands (rooftopId : String) (model : AttributionModel) (start finish : Int)
    (r : AttributionRun) : Prop :=
  r.rooftop_id = rooftopId ∧ r.model = model ∧ r.window_start = start ∧ r.window_end = finish ∧
    r.state = .computed

instance (rooftopId : String) (model : AttributionModel) (start finish : Int) :
    DecidablePred (AttributionRun.stands rooftopId model start finish) :=
  fun _ => inferInstanceAs (Decidable (_ ∧ _ ∧ _ ∧ _ ∧ _))

/-- The entry of `uq_attribution_runs_current`. -/
def windowText (rooftopId : String) (model : AttributionModel) (start finish : Int) : String :=
  rooftopId ++ ":" ++ model.text ++ ":" ++ toString start ++ ":" ++ toString finish

/-- The runs that the supersession finds. -/
def standingRuns (rooftopId : String) (model : AttributionModel) (start finish : Int)
    (db : CreditLedger) : List String :=
  (db.attribution_runs.filter fun r => r.stands rooftopId model start finish).map
    (·.attribution_run_id)

def AttributionRun.supersede (r : AttributionRun) : AttributionRun :=
  { r with state := .superseded, authorization_version := r.authorization_version + 1 }

/-- `UPDATE attribution_runs SET state = 'superseded'`, of the rows the statement sees. -/
def supersedeRuns (rooftopId : String) (model : AttributionModel) (start finish : Int) :
    LedgerWork Unit :=
  Script.execute
    (fun v => (standingRuns rooftopId model start finish v).map fun id => .run id .noKeyUpdate)
    (fun _ => true) (.database "attribution_runs")
    (fun v db =>
      { db with
        attribution_runs := updateWhere
          (fun r : AttributionRun =>
            r.attribution_run_id ∈ standingRuns rooftopId model start finish v)
          AttributionRun.supersede db.attribution_runs })
    fun _ => ()

/-- The row of a new run, with the defaults of its columns. -/
def newRun (w : AttributionWorld) (rooftopId : String) (model : AttributionModel)
    (start finish : Int) : AttributionRun where
  attribution_run_id := w.newAttributionRunId
  rooftop_id := rooftopId
  model := model
  window_start := start
  window_end := finish
  state := .computed
  leads_considered := 0
  touches_credited := 0
  revenue_status := .NOT_YET_AVAILABLE
  attributed_revenue_cents := none
  authorization_version := 1

/-- `INSERT INTO attribution_runs`, with `uq_attribution_runs_current`. -/
def insertRun (w : AttributionWorld) (r : AttributionRun) : LedgerWork Unit :=
  Script.execute
    (fun _ => [.crm (.index "attribution_runs_pkey" r.attribution_run_id),
      .crm (.index "uq_attribution_runs_current"
        (windowText r.rooftop_id r.model r.window_start r.window_end))])
    (fun v => (v.attribution_runs.all fun q => q.attribution_run_id ≠ r.attribution_run_id &&
        ¬ q.stands r.rooftop_id r.model r.window_start r.window_end) &&
      decide (r.window_start < r.window_end) && w.rooftopExists r.rooftop_id)
    (.database "attribution_runs")
    (fun _ db => { db with attribution_runs := db.attribution_runs ++ [r] })
    fun _ => ()

/-- The leads in scope, `ORDER BY lead_id`.  `createdAt` is the column `created_at` of
`leads`, by id: the insert fills it and no statement writes it. -/
def leadsInWindow (createdAt : String → Int) (r : AttributionRun) (db : Pipeline) :
    List String :=
  ((db.leads.filter fun l => l.rooftop_id = r.rooftop_id &&
      r.window_start ≤ createdAt l.lead_id && createdAt l.lead_id < r.window_end).map
    (·.lead_id)).insertionSort (· ≤ ·)

/-- The touches of a lead, `ORDER BY touch_seq`. -/
def touchesInOrder (leadId : String) (db : Pipeline) : List LeadSourceTouch :=
  (db.lead_source_touches.filter fun t => t.lead_id = leadId).insertionSort
    fun s t => s.touch_seq ≤ t.touch_seq

/-- `INSERT INTO lead_attributions`. -/
def insertCredit (a : LeadAttribution) : LedgerWork Unit :=
  Script.execute
    (fun _ => [.crm (.index "lead_attributions"
        (a.attribution_run_id ++ ":" ++ a.lead_id ++ ":" ++ a.touch_id)),
      .crm (.lead a.lead_id .keyShare), .run a.attribution_run_id .keyShare])
    (fun v => (v.lead_attributions.all fun b => ¬ (b.attribution_run_id = a.attribution_run_id ∧
        b.lead_id = a.lead_id ∧ b.touch_id = a.touch_id)) && decide (a.weight_bp ≤ 10000))
    (.database "lead_attributions")
    (fun _ db => { db with lead_attributions := db.lead_attributions ++ [a] })
    fun _ => ()

def creditFor (runId leadId : String) (t : LeadSourceTouch) (weight : Nat) : LeadAttribution where
  attribution_run_id := runId
  lead_id := leadId
  touch_id := t.touch_id
  lead_source_id := t.lead_source_id
  campaign_version_id := t.campaign_version_id
  weight_bp := weight

/-- The touches of one lead, each with its weight: a weight of zero is no row. -/
def creditTouches (runId leadId : String) :
    List (LeadSourceTouch × Nat) → Nat → LedgerWork Nat
  | [], credited => pure credited
  | (t, weight) :: rest, credited =>
    if weight = 0 then creditTouches runId leadId rest credited
    else do
      insertCredit (creditFor runId leadId t weight)
      creditTouches runId leadId rest (credited + 1)

def creditLeads (r : AttributionRun) : List String → Nat → LedgerWork Nat
  | [], credited => pure credited
  | leadId :: leads, credited => do
    let touches ← Script.select fun db : CreditLedger => touchesInOrder leadId db.pipeline
    let credited ← creditTouches r.attribution_run_id leadId
      (touches.zip (attributionWeights r.model touches.length)) credited
    creditLeads r leads credited

def AttributionRun.finish (leadsConsidered touchesCredited : Nat) (r : AttributionRun) :
    AttributionRun :=
  { r with leads_considered := leadsConsidered, touches_credited := touchesCredited }

/-- `UPDATE attribution_runs SET leads_considered = $3, touches_credited = $4`. -/
def finishRun (runId : String) (leadsConsidered touchesCredited : Nat) : LedgerWork Unit :=
  Script.execute (fun _ => [.run runId .noKeyUpdate]) (fun _ => true)
    (.database "attribution_runs")
    (fun _ db =>
      { db with
        attribution_runs := updateWhere
          (fun r : AttributionRun => r.attribution_run_id = runId)
          (AttributionRun.finish leadsConsidered touchesCredited) db.attribution_runs })
    fun _ => ()

def actorOnLedger (w : AttributionWorld) (actingUserLinkId : String) : LedgerWork String :=
  match requireActor w.access actingUserLinkId with
  | .ok actor => pure actor
  | .error e => .raise e

/-- Computes one run and supersedes any previous run for the same rooftop, model and
window. -/
def computeAttribution (createdAt : String → Int) (w : AttributionWorld)
    (input : AttributionInput) : LedgerWork AttributionOutcome :=
  match AttributionModel.ofText input.model with
  | none => pure (.invalid ("unknown attribution model " ++ input.model))
  | some model =>
    match input.windowStart, input.windowEnd with
    | some start, some finish =>
      if finish ≤ start then pure (.invalid "a window ends after it starts")
      else do
        let _ ← actorOnLedger w input.actingUserLinkId
        supersedeRuns input.rooftopId model start finish
        let run := newRun w input.rooftopId model start finish
        insertRun w run
        let leads ← Script.select fun db : CreditLedger =>
          leadsInWindow createdAt run db.pipeline
        let credited ← creditLeads run leads 0
        finishRun run.attribution_run_id leads.length credited
        pure (.computed (run.finish leads.length credited))
    | _, _ => pure (.invalid "a window ends after it starts")

end Dealership.Crm
