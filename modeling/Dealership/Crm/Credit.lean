import Dealership.Crm.Attribution
import Dealership.Crm.TouchHistory

/-!
# Credit is conserved

A run gives every lead it considers ten thousand basis points, no more and no less,
however many touches the lead has and however many more are recorded meanwhile.

The credit of a lead is the split of a beginning of its touch history: of as many
touches as there were when the run looked (`Credited`).  The history only grows at its
end, so this stays true of a run for ever, and every figure is read off it.
-/

namespace Dealership.Crm

open Library List

variable {considered : List (String × Nat)} {a : LeadAttribution} {touches : List LeadSourceTouch}
  {leadId : String}

/-! ## The rows of a split -/

def creditRows (runId leadId : String) (weighted : List (LeadSourceTouch × Nat)) :
    List LeadAttribution :=
  (weighted.filter fun p => p.2 ≠ 0).map fun p => creditFor runId leadId p.1 p.2

def splitRows (model : AttributionModel) (runId leadId : String)
    (touches : List LeadSourceTouch) : List LeadAttribution :=
  creditRows runId leadId (touches.zip (attributionWeights model touches.length))

theorem mem_creditRows {runId : String}
    {weighted : List (LeadSourceTouch × Nat)} : a ∈ creditRows runId leadId weighted ↔
      ∃ p ∈ weighted, p.2 ≠ 0 ∧ a = creditFor runId leadId p.1 p.2 := by
  rw [creditRows, mem_map]
  constructor
  · rintro ⟨p, hp, rfl⟩
    rw [mem_filter, decide_eq_true_eq] at hp
    exact ⟨p, hp.1, hp.2, rfl⟩
  · rintro ⟨p, hp, hne, rfl⟩
    exact ⟨p, mem_filter.mpr ⟨hp, decide_eq_true hne⟩, rfl⟩

theorem creditRows_sum (runId leadId : String) (weighted : List (LeadSourceTouch × Nat)) :
    ((creditRows runId leadId weighted).map (·.weight_bp)).sum = (weighted.map Prod.snd).sum := by
  induction weighted with
  | nil => rfl
  | cons p weighted ih =>
    by_cases hp : p.2 = 0
    · rw [creditRows, filter_cons_of_neg (by simp [hp]), map_cons, sum_cons, hp, Nat.zero_add]
      exact ih
    · rw [creditRows, filter_cons_of_pos (by simp [hp]), map_cons, map_cons,
        map_cons, sum_cons, sum_cons]
      exact congrArg (p.2 + ·) ih

theorem splitRows_sum (model : AttributionModel) (runId leadId : String) (h : touches ≠ []) :
    ((splitRows model runId leadId touches).map (·.weight_bp)).sum = 10000 := by
  rw [splitRows, creditRows_sum, map_snd_zip (by simp),
    attributionWeights_sum _ (length_pos_iff.mpr h)]

theorem mem_splitRows {model : AttributionModel} {runId : String}
    (h : a ∈ splitRows model runId leadId touches) :
    ∃ (i : Nat) (t : LeadSourceTouch), touches[i]? = some t ∧ a = creditFor runId leadId t a.weight_bp ∧
      (attributionWeights model touches.length)[i]? = some a.weight_bp := by
  obtain ⟨p, hp, -, rfl⟩ := mem_creditRows.mp h
  obtain ⟨i, hi⟩ := mem_iff_getElem?.mp hp
  obtain ⟨ht, hw⟩ := getElem?_zip_eq_some.mp hi
  exact ⟨i, p.1, ht, rfl, hw⟩

theorem splitRows_linear {runId : String} (hseq : (touches.map (·.touch_seq)).Pairwise (· < ·))
    {b : LeadAttribution} (ha : a ∈ splitRows .linear runId leadId touches)
    (hb : b ∈ splitRows .linear runId leadId touches) :
    ∃ s ∈ touches, ∃ t ∈ touches, s.touch_id = a.touch_id ∧ t.touch_id = b.touch_id ∧
      (s.touch_seq ≤ t.touch_seq → b.weight_bp ≤ a.weight_bp ∧ a.weight_bp ≤ b.weight_bp + 1) := by
  obtain ⟨i, s, hs, hsa, hwa⟩ := mem_splitRows ha
  obtain ⟨j, t, ht, htb, hwb⟩ := mem_splitRows hb
  refine ⟨s, mem_of_getElem? hs, t, mem_of_getElem? ht, by rw [hsa]; rfl,
    by rw [htb]; rfl, fun hle => attributionWeights_linear ?_ hwa hwb⟩
  by_contra hji
  have hji : j < i := Nat.lt_of_not_le hji
  obtain ⟨hi, rfl⟩ := List.getElem?_eq_some_iff.mp hs
  obtain ⟨hj, rfl⟩ := List.getElem?_eq_some_iff.mp ht
  have hlt := pairwise_iff_getElem.mp hseq j i (by simpa using hj) (by simpa using hi) hji
  rw [getElem_map, getElem_map] at hlt
  exact absurd hle (Nat.not_le.mpr hlt)

/-! ## Runs that are accounted for -/

def creditsOf (runId : String) (db : CreditLedger) : List LeadAttribution :=
  db.lead_attributions.filter fun a => a.attribution_run_id = runId

/-- The leads considered, each with the number of its touches that were there, and the
credit given for them. -/
structure Credited (createdAt : String → Int) (r : AttributionRun)
    (considered : List (String × Nat)) (rows : List LeadAttribution) (db : Pipeline) : Prop where
  apart : (considered.map Prod.fst).Nodup
  inWindow : ∀ c ∈ considered, (∃ l ∈ db.leads, l.place = (c.1, r.rooftop_id)) ∧
    r.window_start ≤ createdAt c.1 ∧ createdAt c.1 < r.window_end
  seen : ∀ c ∈ considered, 0 < c.2 ∧ c.2 ≤ (touchesOf c.1 db).length
  rows : rows = considered.flatMap fun c =>
    splitRows r.model r.attribution_run_id c.1 ((touchesOf c.1 db).take c.2)

theorem touchesOf_grows {db db' : Pipeline}
    (h : db.lead_source_touches <+: db'.lead_source_touches) (x : String) :
    touchesOf x db <+: touchesOf x db' := h.filter _

theorem Credited.grown {createdAt : String → Int} {r : AttributionRun} {rows : List LeadAttribution}
    {db db' : Pipeline} (h : Credited createdAt r considered rows db)
    (hleads : ∀ l ∈ db.leads, ∃ l' ∈ db'.leads, l'.place = l.place)
    (htouches : db.lead_source_touches <+: db'.lead_source_touches) :
    Credited createdAt r considered rows db' := by
  refine ⟨h.apart, fun c hc => ⟨?_, (h.inWindow c hc).2⟩, fun c hc => ⟨(h.seen c hc).1,
    (h.seen c hc).2.trans (touchesOf_grows htouches c.1).length_le⟩, ?_⟩
  · obtain ⟨l, hl, hplace⟩ := (h.inWindow c hc).1
    obtain ⟨l', hl', hplace'⟩ := hleads l hl
    exact ⟨l', hl', hplace'.trans hplace⟩
  · rw [h.rows]
    refine flatMap_congr fun c hc => ?_
    obtain ⟨more, hmore⟩ := touchesOf_grows htouches c.1
    rw [← hmore, take_append_of_le_length (h.seen c hc).2]

/-- What a run has credited: of each lead considered, the weights sum to ten
thousand, and the counts are what they say. -/
structure Conserves (createdAt : String → Int) (db : CreditLedger) (r : AttributionRun)
    (considered : List String) : Prop where
  apart : considered.Nodup
  counted : r.leads_considered = considered.length
  inWindow : ∀ x ∈ considered,
    (∃ l ∈ db.pipeline.leads, l.lead_id = x ∧ l.rooftop_id = r.rooftop_id) ∧
      r.window_start ≤ createdAt x ∧ createdAt x < r.window_end
  only : ∀ a ∈ creditsOf r.attribution_run_id db, a.lead_id ∈ considered ∧
    ∃ t ∈ touchesOf a.lead_id db.pipeline, t.touch_id = a.touch_id
  each : ∀ x ∈ considered,
    (((creditsOf r.attribution_run_id db).filter fun a => a.lead_id = x).map
      (·.weight_bp)).sum = 10000
  total : ((creditsOf r.attribution_run_id db).map (·.weight_bp)).sum = 10000 * r.leads_considered
  credited : r.touches_credited = (creditsOf r.attribution_run_id db).length
  linear : r.model = .linear →
    ∀ a ∈ creditsOf r.attribution_run_id db, ∀ b ∈ creditsOf r.attribution_run_id db,
      a.lead_id = b.lead_id → ∀ s ∈ db.pipeline.lead_source_touches,
        ∀ t ∈ db.pipeline.lead_source_touches, s.touch_id = a.touch_id → t.touch_id = b.touch_id →
          s.touch_seq ≤ t.touch_seq → b.weight_bp ≤ a.weight_bp ∧ a.weight_bp ≤ b.weight_bp + 1

theorem mem_splitRows_take {model : AttributionModel} {runId : String} {n : Nat} {db : Pipeline}
    (h : a ∈ splitRows model runId leadId ((touchesOf leadId db).take n)) :
    a.lead_id = leadId ∧ ∃ t ∈ touchesOf leadId db, t.touch_id = a.touch_id := by
  obtain ⟨i, t, ht, hrow, -⟩ := mem_splitRows h
  refine ⟨by rw [hrow]; rfl, t, mem_of_mem_take (mem_of_getElem? ht), ?_⟩
  rw [hrow]
  rfl

theorem filter_flatMap_of_apart
    {f : String × Nat →
    List LeadAttribution}
    (h : (considered.map Prod.fst).Nodup) (hf : ∀ c ∈ considered, ∀ a ∈ f c, a.lead_id = c.1)
    {c : String × Nat} (hc : c ∈ considered) :
    (considered.flatMap f).filter (fun a => a.lead_id = c.1) = f c := by
  induction considered with
  | nil => cases hc
  | cons b considered ih =>
    rw [map_cons, nodup_cons] at h
    have hrest : ∀ d ∈ considered, ∀ a ∈ f d, a.lead_id = d.1 :=
      fun d hd => hf d (mem_cons_of_mem b hd)
    rw [flatMap_cons, filter_append]
    rcases mem_cons.mp hc with rfl | hc
    · have hall : (f c).filter (fun a => decide (a.lead_id = c.1)) = f c :=
        filter_eq_self.mpr fun a ha => decide_eq_true (hf c mem_cons_self a ha)
      have hnone : (considered.flatMap f).filter (fun a => decide (a.lead_id = c.1)) = [] := by
        refine filter_eq_nil_iff.mpr fun a ha hlead => ?_
        obtain ⟨d, hd, had⟩ := mem_flatMap.mp ha
        exact h.1 (mem_map.mpr ⟨d, hd, (hrest d hd a had).symm.trans (of_decide_eq_true hlead)⟩)
      rw [hall, hnone, append_nil]
    · have hne : b.1 ≠ c.1 := fun heq => h.1 (mem_map.mpr ⟨c, hc, heq.symm⟩)
      have hnone : (f b).filter (fun a => decide (a.lead_id = c.1)) = [] := by
        refine filter_eq_nil_iff.mpr fun a ha hlead => ?_
        exact hne ((hf b mem_cons_self a ha).symm.trans (of_decide_eq_true hlead))
      rw [hnone, nil_append]
      exact ih h.2 hrest hc

theorem sum_flatMap_of_each {n : Nat} {f : String × Nat → List LeadAttribution}
    (h : ∀ c ∈ considered, ((f c).map (·.weight_bp)).sum = n) :
    ((considered.flatMap f).map (·.weight_bp)).sum = n * considered.length := by
  induction considered with
  | nil => rfl
  | cons c considered ih =>
    rw [flatMap_cons, map_append, sum_append, h c mem_cons_self,
      ih fun d hd => h d (mem_cons_of_mem c hd), length_cons, Nat.mul_succ,
      Nat.add_comm]

theorem Credited.conserves {createdAt : String → Int} {r : AttributionRun} {db : CreditLedger}
    (ht : Touched db.pipeline)
    (h : Credited createdAt r considered (creditsOf r.attribution_run_id db) db.pipeline)
    (hleads : r.leads_considered = considered.length)
    (htouches : r.touches_credited = (creditsOf r.attribution_run_id db).length) :
    Conserves createdAt db r (considered.map Prod.fst) := by
  have hof : ∀ c ∈ considered, ∀ a ∈ splitRows r.model r.attribution_run_id c.1
      ((touchesOf c.1 db.pipeline).take c.2), a.lead_id = c.1 :=
    fun c _ a ha => (mem_splitRows_take ha).1
  have hsum : ∀ c ∈ considered, ((splitRows r.model r.attribution_run_id c.1
      ((touchesOf c.1 db.pipeline).take c.2)).map (·.weight_bp)).sum = 10000 := by
    intro c hc
    refine splitRows_sum _ _ _ (ne_nil_of_length_pos ?_)
    rw [length_take]
    exact Nat.lt_min.mpr ⟨(h.seen c hc).1, (h.seen c hc).1.trans_le (h.seen c hc).2⟩
  have hmem : ∀ a ∈ creditsOf r.attribution_run_id db, ∃ c ∈ considered,
      a ∈ splitRows r.model r.attribution_run_id c.1 ((touchesOf c.1 db.pipeline).take c.2) := by
    intro a ha
    rw [h.rows] at ha
    exact mem_flatMap.mp ha
  refine ⟨h.apart, by rw [hleads, length_map], ?_, ?_, ?_, ?_, htouches, ?_⟩
  · intro x hx
    obtain ⟨c, hc, rfl⟩ := mem_map.mp hx
    obtain ⟨⟨l, hl, hplace⟩, hwindow⟩ := h.inWindow c hc
    exact ⟨⟨l, hl, congrArg Prod.fst hplace, congrArg Prod.snd hplace⟩, hwindow⟩
  · intro a ha
    obtain ⟨c, hc, hrow⟩ := hmem a ha
    obtain ⟨hlead, t, htouch, hid⟩ := mem_splitRows_take hrow
    exact ⟨mem_map.mpr ⟨c, hc, hlead.symm⟩, t, hlead.symm ▸ htouch, hid⟩
  · intro x hx
    obtain ⟨c, hc, rfl⟩ := mem_map.mp hx
    rw [h.rows, filter_flatMap_of_apart h.apart hof hc, hsum c hc]
  · rw [h.rows, hleads]
    exact sum_flatMap_of_each hsum
  · intro hmodel a ha b hb hsame s hs t htt hsid htid hle
    obtain ⟨c, hc, ha⟩ := hmem a ha
    obtain ⟨d, hd, hb⟩ := hmem b hb
    have hcd : c = d := by
      refine inj_on_of_nodup_map h.apart hc hd ?_
      rw [← hof c hc a ha, ← hof d hd b hb, hsame]
    subst hcd
    rw [hmodel] at ha hb
    have hsorted : (((touchesOf c.1 db.pipeline).take c.2).map (·.touch_seq)).Pairwise (· < ·) := by
      rw [map_take, ht.numbered]
      exact (pairwise_lt_range' 1).sublist (take_sublist _ _)
    obtain ⟨s', hs', t', ht', hsid', htid', hweights⟩ := splitRows_linear hsorted ha hb
    have hin : ∀ u ∈ (touchesOf c.1 db.pipeline).take c.2, u ∈ db.pipeline.lead_source_touches :=
      fun u hu => (mem_touchesOf.mp (mem_of_mem_take hu)).1
    rw [eq_of_key ht.touches hs (hin s' hs') (hsid.trans hsid'.symm),
      eq_of_key ht.touches htt (hin t' ht') (htid.trans htid'.symm)] at hle
    exact hweights hle

end Dealership.Crm
