import Dealership.Crm.Activities
import Dealership.Crm.Routing

/-!
# The life of a lead

Whatever the CRM does to a lead, in whatever order it commits, the lead's status
events are one trail from `new` to where it is, the two final states are final, the
handoff row says who was handed over, an escalation is the stamp of one, and the
first response is the first.

Seven operations write these columns, and between them they do six things
(`Moved`): leave them alone, bring in a lead, edit one, move one along, hand one
over, raise an alarm about one.  What a lead is closed *with* is the caller's word,
so the one thing that is not kept by design is the disposition of a handoff: it is
kept by callers who do not close a lead as handed over.
-/

namespace Dealership.Crm

open Library List

variable {x : String} {db db' : Pipeline} {cur : Lead}

/-! ## What is kept -/

/-- The status events of a lead, in the order they were written. -/
def historyOf (leadId : String) (db : Pipeline) : List LeadStatusEvent :=
  db.lead_status_events.filter fun e => e.lead_id = leadId

/-- The tables about a lead tell one story. -/
structure Coherent (db : Pipeline) : Prop where
  ids : (db.leads.map (·.lead_id)).Nodup
  /-- The status events are one chain from `new` to the state of the lead. -/
  chain : ∀ l ∈ db.leads,
    Trail (·.from_state) (·.to_state) .new (historyOf l.lead_id db) l.lifecycle_state
  /-- There is a handoff exactly when the lead is handed off. -/
  handed : ∀ l ∈ db.leads,
    (∃ h ∈ db.lead_handoffs, h.lead_id = l.lead_id) ↔ l.lifecycle_state = .handed_off
  /-- The lead is handed off exactly when its disposition says so. -/
  disposed : ∀ l ∈ db.leads, l.lifecycle_state = .handed_off ↔ l.disposition = some .handed_to_sales
  /-- There is a first-response escalation exactly when the lead carries its stamp. -/
  escalated : ∀ l ∈ db.leads,
    (∃ e ∈ db.lead_escalations, e.lead_id = l.lead_id ∧ e.level = .first_response) ↔
      l.escalated_at.isSome = true
  events_known : ∀ e ∈ db.lead_status_events, ∃ l ∈ db.leads, l.lead_id = e.lead_id
  handoffs_known : ∀ h ∈ db.lead_handoffs, ∃ l ∈ db.leads, l.lead_id = h.lead_id
  escalations_known : ∀ e ∈ db.lead_escalations, ∃ l ∈ db.leads, l.lead_id = e.lead_id

/-- Every lead is still there; a finished one is where it was, and a first response
is the one it had. -/
def Persists (db db' : Pipeline) : Prop :=
  ∀ l ∈ db.leads, ∃ l' ∈ db'.leads, l'.lead_id = l.lead_id ∧
    (l.lifecycle_state.finished = true → l'.lifecycle_state = l.lifecycle_state) ∧
    ∀ t, l.first_response_at = some t → l'.first_response_at = some t

theorem Persists.refl (db : Pipeline) : Persists db db :=
  fun l hl => ⟨l, hl, rfl, fun _ => rfl, fun _ h => h⟩

theorem Persists.trans {a b c : Pipeline} (hab : Persists a b) (hbc : Persists b c) :
    Persists a c := by
  intro l hl
  obtain ⟨m, hm, hid, hfin, hfirst⟩ := hab l hl
  obtain ⟨n, hn, hid', hfin', hfirst'⟩ := hbc m hm
  refine ⟨n, hn, hid'.trans hid, ?_, fun t ht => hfirst' t (hfirst t ht)⟩
  intro h
  have hstate := hfin h
  rw [← hstate] at h
  rw [hfin' h, hstate]

/-! ## What an operation does -/

/-- The tables this is about: leads, status events, handoffs and escalations. -/
structure SameElse (db db' : Pipeline) : Prop where
  events : db'.lead_status_events = db.lead_status_events
  handoffs : db'.lead_handoffs = db.lead_handoffs
  escalations : db'.lead_escalations = db.lead_escalations

theorem SameElse.refl (db : Pipeline) : SameElse db db := ⟨rfl, rfl, rfl⟩

theorem SameElse.trans {a b c : Pipeline} (hab : SameElse a b) (hbc : SameElse b c) :
    SameElse a c :=
  ⟨hbc.events.trans hab.events, hbc.handoffs.trans hab.handoffs,
    hbc.escalations.trans hab.escalations⟩

/-- None of these tables is written. -/
def LeavesLeads (db db' : Pipeline) : Prop := SameElse db db' ∧ db'.leads = db.leads

theorem LeavesLeads.refl (db : Pipeline) : LeavesLeads db db := ⟨.refl db, rfl⟩

theorem LeavesLeads.trans (a b c : Pipeline) (hab : LeavesLeads a b) (hbc : LeavesLeads b c) :
    LeavesLeads a c := ⟨hab.1.trans hbc.1, hbc.2.trans hab.2⟩

inductive Moved (db db' : Pipeline) : Prop where
  | untouched (same : SameElse db db') (leads : db'.leads = db.leads)
  | arrived (l : Lead) (same : SameElse db db') (leads : db'.leads = db.leads ++ [l])
      (fresh : ∀ k ∈ db.leads, k.lead_id ≠ l.lead_id) (state : l.lifecycle_state = .new)
      (disposition : l.disposition = none) (escalated : l.escalated_at = none)
  | edited (cur : Lead) (f : Lead → Lead) (same : SameElse db db') (mem : cur ∈ db.leads)
      (leads : db'.leads = updateWhere (fun l => l = cur) f db.leads)
      (id : (f cur).lead_id = cur.lead_id) (state : (f cur).lifecycle_state = cur.lifecycle_state)
      (disposition : (f cur).disposition = cur.disposition)
      (escalated : (f cur).escalated_at = cur.escalated_at)
      (first : ∀ t, cur.first_response_at = some t → (f cur).first_response_at = some t)
  | advanced (cur : Lead) (f : Lead → Lead) (e : LeadStatusEvent) (mem : cur ∈ db.leads)
      (unfinished : cur.lifecycle_state.finished = false)
      (leads : db'.leads = updateWhere (fun l => l = cur) f db.leads)
      (id : (f cur).lead_id = cur.lead_id)
      (state : (f cur).lifecycle_state ≠ .handed_off)
      (disposition : (f cur).disposition ≠ some .handed_to_sales)
      (escalated : (f cur).escalated_at = cur.escalated_at)
      (first : (f cur).first_response_at = cur.first_response_at)
      (events : db'.lead_status_events = db.lead_status_events ++ [e])
      (event : e.lead_id = cur.lead_id ∧ e.from_state = cur.lifecycle_state ∧
        e.to_state = (f cur).lifecycle_state)
      (handoffs : db'.lead_handoffs = db.lead_handoffs)
      (escalations : db'.lead_escalations = db.lead_escalations)
  | handedOver (cur : Lead) (f : Lead → Lead) (e : LeadStatusEvent) (h : LeadHandoff)
      (mem : cur ∈ db.leads) (unfinished : cur.lifecycle_state.finished = false)
      (leads : db'.leads = updateWhere (fun l => l = cur) f db.leads)
      (id : (f cur).lead_id = cur.lead_id)
      (state : (f cur).lifecycle_state = .handed_off)
      (disposition : (f cur).disposition = some .handed_to_sales)
      (escalated : (f cur).escalated_at = cur.escalated_at)
      (first : (f cur).first_response_at = cur.first_response_at)
      (events : db'.lead_status_events = db.lead_status_events ++ [e])
      (event : e.lead_id = cur.lead_id ∧ e.from_state = cur.lifecycle_state ∧
        e.to_state = .handed_off)
      (handoffs : db'.lead_handoffs = db.lead_handoffs ++ [h]) (handed : h.lead_id = cur.lead_id)
      (escalations : db'.lead_escalations = db.lead_escalations)
  | raised (cur : Lead) (f : Lead → Lead) (e : LeadEscalation) (mem : cur ∈ db.leads)
      (leads : db'.leads = updateWhere (fun l => l = cur) f db.leads)
      (id : (f cur).lead_id = cur.lead_id) (state : (f cur).lifecycle_state = cur.lifecycle_state)
      (disposition : (f cur).disposition = cur.disposition)
      (escalated : (f cur).escalated_at.isSome = true)
      (first : (f cur).first_response_at = cur.first_response_at)
      (events : db'.lead_status_events = db.lead_status_events)
      (handoffs : db'.lead_handoffs = db.lead_handoffs)
      (escalations : db'.lead_escalations = db.lead_escalations ++ [e])
      (escalation : e.lead_id = cur.lead_id ∧ e.level = .first_response)

/-! ## What a step keeps -/

section Row

variable {f : Lead → Lead}

theorem edited_cases (hids : (db.leads.map (·.lead_id)).Nodup) (hcur : cur ∈ db.leads) {l : Lead}
    (hl : l ∈ updateWhere (fun l => l = cur) f db.leads) :
    l = f cur ∨ l ∈ db.leads ∧ l.lead_id ≠ cur.lead_id := by
  rcases updateWhere_cases hl with ⟨hmem, hne⟩ | ⟨_, _, rfl, rfl⟩
  · exact .inr ⟨hmem, fun h => hne (eq_of_key hids hmem hcur h)⟩
  · exact .inl rfl

theorem edited_ids (hid : (f cur).lead_id = cur.lead_id) :
    (updateWhere (fun l => l = cur) f db.leads).map (·.lead_id) = db.leads.map (·.lead_id) :=
  map_updateWhere fun _ h => by rw [h, hid]

theorem edited_known (hid : (f cur).lead_id = cur.lead_id) (h : ∃ l ∈ db.leads, l.lead_id = x) :
    ∃ l ∈ updateWhere (fun l => l = cur) f db.leads, l.lead_id = x := by
  obtain ⟨l, hl, rfl⟩ := h
  by_cases hlc : l = cur
  · exact ⟨f l, mem_updateWhere_of_pos hl hlc, by rw [hlc, hid]⟩
  · exact ⟨l, mem_updateWhere_of_neg hl hlc, rfl⟩

theorem historyOf_append {es : List LeadStatusEvent} {y : String}
    (h : db'.lead_status_events = db.lead_status_events ++ es) (hes : ∀ e ∈ es, e.lead_id = x) :
    historyOf y db' = historyOf y db ++ if x = y then es else [] := by
  rw [historyOf, historyOf, h, filter_append]
  congr 1
  split
  · rename_i hxy
    exact filter_eq_self.mpr fun e he => by simp [hes e he, hxy]
  · rename_i hxy
    exact filter_eq_nil_iff.mpr fun e he => by simp [hes e he, hxy]

/-- New rows about one lead are no rows about another. -/
theorem exists_mem_append_of_ne {α : Type} {xs ys : List α} {p : α → Prop} (h : ∀ y ∈ ys, ¬ p y) :
    (∃ x ∈ xs ++ ys, p x) ↔ ∃ x ∈ xs, p x := by
  constructor
  · rintro ⟨x, hx, hp⟩
    rcases mem_append.mp hx with hx | hx
    · exact ⟨x, hx, hp⟩
    · exact absurd hp (h x hx)
  · rintro ⟨x, hx, hp⟩
    exact ⟨x, mem_append_left _ hx, hp⟩

end Row

/-- One lead is rewritten, and rows about it are added: its own story decides. -/
theorem Coherent.rewritten (h : Coherent db) {f : Lead → Lead} (es : List LeadStatusEvent)
    (hs : List LeadHandoff) (gs : List LeadEscalation) (mem : cur ∈ db.leads)
    (leads : db'.leads = updateWhere (fun l => l = cur) f db.leads)
    (id : (f cur).lead_id = cur.lead_id)
    (events : db'.lead_status_events = db.lead_status_events ++ es)
    (handoffs : db'.lead_handoffs = db.lead_handoffs ++ hs)
    (escalations : db'.lead_escalations = db.lead_escalations ++ gs)
    (hes : ∀ e ∈ es, e.lead_id = cur.lead_id) (hhs : ∀ g ∈ hs, g.lead_id = cur.lead_id)
    (hgs : ∀ g ∈ gs, g.lead_id = cur.lead_id)
    (chain : Trail (·.from_state) (·.to_state) .new (historyOf cur.lead_id db ++ es)
      (f cur).lifecycle_state)
    (handed : (∃ g ∈ db.lead_handoffs ++ hs, g.lead_id = cur.lead_id) ↔
      (f cur).lifecycle_state = .handed_off)
    (disposed : (f cur).lifecycle_state = .handed_off ↔ (f cur).disposition = some .handed_to_sales)
    (escalated : (∃ g ∈ db.lead_escalations ++ gs,
      g.lead_id = cur.lead_id ∧ g.level = .first_response) ↔
        (f cur).escalated_at.isSome = true) : Coherent db' := by
  have hcases : ∀ l ∈ db'.leads, l = f cur ∨ l ∈ db.leads ∧ l.lead_id ≠ cur.lead_id :=
    fun l hl => edited_cases h.ids mem (leads ▸ hl)
  refine ⟨?_, ?_, ?_, ?_, ?_, ?_, ?_, ?_⟩
  · rw [leads, edited_ids id]
    exact h.ids
  · intro l hl
    rw [historyOf_append events hes]
    rcases hcases l hl with rfl | ⟨hl, hne⟩
    · rw [id, if_pos rfl]
      exact chain
    · rw [if_neg (Ne.symm hne), append_nil]
      exact h.chain l hl
  · intro l hl
    rw [handoffs]
    rcases hcases l hl with rfl | ⟨hl, hne⟩
    · rw [id]
      exact handed
    · rw [exists_mem_append_of_ne fun g hg hgl => hne (hgl.symm.trans (hhs g hg))]
      exact h.handed l hl
  · intro l hl
    rcases hcases l hl with rfl | ⟨hl, -⟩
    · exact disposed
    · exact h.disposed l hl
  · intro l hl
    rw [escalations]
    rcases hcases l hl with rfl | ⟨hl, hne⟩
    · rw [id]
      exact escalated
    · rw [exists_mem_append_of_ne fun g hg hgl => hne (hgl.1.symm.trans (hgs g hg))]
      exact h.escalated l hl
  · rw [events, leads]
    intro e he
    rcases mem_append.mp he with he | he
    · exact edited_known id (h.events_known e he)
    · exact edited_known id ⟨cur, mem, (hes e he).symm⟩
  · rw [handoffs, leads]
    intro g hg
    rcases mem_append.mp hg with hg | hg
    · exact edited_known id (h.handoffs_known g hg)
    · exact edited_known id ⟨cur, mem, (hhs g hg).symm⟩
  · rw [escalations, leads]
    intro g hg
    rcases mem_append.mp hg with hg | hg
    · exact edited_known id (h.escalations_known g hg)
    · exact edited_known id ⟨cur, mem, (hgs g hg).symm⟩

theorem Coherent.arrived (h : Coherent db) {l : Lead} (same : SameElse db db')
    (leads : db'.leads = db.leads ++ [l]) (fresh : ∀ k ∈ db.leads, k.lead_id ≠ l.lead_id)
    (state : l.lifecycle_state = .new) (disposition : l.disposition = none)
    (escalated : l.escalated_at = none) : Coherent db' := by
  have hknown : ∀ {x : String}, (∃ k ∈ db.leads, k.lead_id = x) → ∃ k ∈ db'.leads, k.lead_id = x :=
    fun ⟨k, hk, hx⟩ => ⟨k, leads ▸ mem_append_left _ hk, hx⟩
  have hnone : ∀ {x : String}, (∃ k ∈ db.leads, k.lead_id = x) → x ≠ l.lead_id :=
    fun ⟨k, hk, hx⟩ => hx ▸ fresh k hk
  refine ⟨?_, ?_, ?_, ?_, ?_, ?_, ?_, ?_⟩
  · rw [leads]
    exact nodup_key_insert h.ids fresh
  · intro k hk
    rw [historyOf, same.events]
    rcases mem_inserted (leads ▸ hk) with hk | rfl
    · exact h.chain k hk
    · rw [state, filter_eq_nil_iff.mpr]
      · rfl
      · intro e he
        simpa using hnone (h.events_known e he)
  · intro k hk
    rw [same.handoffs]
    rcases mem_inserted (leads ▸ hk) with hk | rfl
    · exact h.handed k hk
    · rw [state]
      exact ⟨fun ⟨g, hg, hgl⟩ => absurd hgl (hnone (h.handoffs_known g hg)), nofun⟩
  · intro k hk
    rcases mem_inserted (leads ▸ hk) with hk | rfl
    · exact h.disposed k hk
    · rw [state, disposition]
      exact ⟨nofun, nofun⟩
  · intro k hk
    rw [same.escalations]
    rcases mem_inserted (leads ▸ hk) with hk | rfl
    · exact h.escalated k hk
    · rw [escalated]
      exact ⟨fun ⟨e, he, hel, _⟩ => absurd hel (hnone (h.escalations_known e he)), nofun⟩
  · intro e he
    exact hknown (h.events_known e (same.events ▸ he))
  · intro g hg
    exact hknown (h.handoffs_known g (same.handoffs ▸ hg))
  · intro e he
    exact hknown (h.escalations_known e (same.escalations ▸ he))

/-- **What one step keeps.** -/
theorem Moved.coherent (m : Moved db db') (h : Coherent db) : Coherent db' := by
  cases m with
  | untouched same leads =>
    obtain ⟨events, handoffs, escalations⟩ := same
    refine ⟨leads ▸ h.ids, ?_, ?_, ?_, ?_, ?_, ?_, ?_⟩
    · intro l hl
      rw [historyOf, events]
      exact h.chain l (leads ▸ hl)
    · intro l hl
      rw [handoffs]
      exact h.handed l (leads ▸ hl)
    · exact fun l hl => h.disposed l (leads ▸ hl)
    · intro l hl
      rw [escalations]
      exact h.escalated l (leads ▸ hl)
    · rw [events, leads]
      exact h.events_known
    · rw [handoffs, leads]
      exact h.handoffs_known
    · rw [escalations, leads]
      exact h.escalations_known
  | arrived l same leads fresh state disposition escalated =>
    exact h.arrived same leads fresh state disposition escalated
  | edited cur f same mem leads id state disposition escalated first =>
    refine h.rewritten [] [] [] mem leads id ?_ ?_ ?_
      (forall_mem_nil _) (forall_mem_nil _) (forall_mem_nil _) ?_ ?_ ?_ ?_
    · rw [same.events, append_nil]
    · rw [same.handoffs, append_nil]
    · rw [same.escalations, append_nil]
    · rw [append_nil, state]
      exact h.chain cur mem
    · rw [append_nil, state]
      exact h.handed cur mem
    · rw [state, disposition]
      exact h.disposed cur mem
    · rw [append_nil, escalated]
      exact h.escalated cur mem
  | advanced cur f e mem unfinished leads id state disposition escalated first events event handoffs
      escalations =>
      obtain ⟨heid, hefrom, heto⟩ := event
      have hcur : cur.lifecycle_state ≠ .handed_off := by
        intro hc
        rw [hc] at unfinished
        cases unfinished
      refine h.rewritten [e] [] [] mem leads id events ?_ ?_ ?_
        (forall_mem_nil _) (forall_mem_nil _) ?_ ?_ ?_ ?_
      · rw [handoffs, append_nil]
      · rw [escalations, append_nil]
      · exact fun k hk => mem_singleton.mp hk ▸ heid
      · rw [← heto]
        exact (h.chain cur mem).concat hefrom
      · rw [append_nil, h.handed cur mem]
        exact ⟨fun hc => absurd hc hcur, fun hc => absurd hc state⟩
      · exact ⟨fun hc => absurd hc state, fun hc => absurd hc disposition⟩
      · rw [append_nil, escalated]
        exact h.escalated cur mem
  | handedOver cur f e g mem unfinished leads id state disposition escalated first events event
      handoffs handed escalations =>
      obtain ⟨heid, hefrom, heto⟩ := event
      refine h.rewritten [e] [g] [] mem leads id events handoffs ?_ ?_ ?_
        (forall_mem_nil _) ?_ ?_ ?_ ?_
      · rw [escalations, append_nil]
      · exact fun k hk => mem_singleton.mp hk ▸ heid
      · exact fun k hk => mem_singleton.mp hk ▸ handed
      · rw [state, ← heto]
        exact (h.chain cur mem).concat hefrom
      · exact ⟨fun _ => state, fun _ => ⟨g, mem_append_right _ mem_cons_self, handed⟩⟩
      · exact ⟨fun _ => disposition, fun _ => state⟩
      · rw [append_nil, escalated]
        exact h.escalated cur mem
  | raised cur f e mem leads id state disposition escalated first events handoffs escalations
      escalation =>
      refine h.rewritten [] [] [e] mem leads id ?_ ?_ escalations
        (forall_mem_nil _) (forall_mem_nil _) ?_ ?_ ?_ ?_ ?_
      · rw [events, append_nil]
      · rw [handoffs, append_nil]
      · exact fun k hk => mem_singleton.mp hk ▸ escalation.1
      · rw [append_nil, state]
        exact h.chain cur mem
      · rw [append_nil, state]
        exact h.handed cur mem
      · rw [state, disposition]
        exact h.disposed cur mem
      · exact ⟨fun _ => escalated, fun _ =>
          ⟨e, mem_append_right _ mem_cons_self, escalation⟩⟩

theorem Persists.rewritten {f : Lead → Lead}
    (leads : db'.leads = updateWhere (fun l => l = cur) f db.leads)
    (id : (f cur).lead_id = cur.lead_id)
    (state : cur.lifecycle_state.finished = true → (f cur).lifecycle_state = cur.lifecycle_state)
    (first : ∀ t, cur.first_response_at = some t → (f cur).first_response_at = some t) :
    Persists db db' := by
  intro l hl
  rw [leads]
  by_cases hlc : l = cur
  · subst hlc
    exact ⟨f l, mem_updateWhere_of_pos hl rfl, id, state, first⟩
  · exact ⟨l, mem_updateWhere_of_neg hl hlc, rfl, fun _ => rfl, fun _ h => h⟩

theorem Moved.persists (m : Moved db db') : Persists db db' := by
  cases m with
  | untouched same leads =>
    intro l hl
    exact ⟨l, leads ▸ hl, rfl, fun _ => rfl, fun _ h => h⟩
  | arrived k same leads =>
    intro l hl
    exact ⟨l, leads ▸ mem_append_left _ hl, rfl, fun _ => rfl, fun _ h => h⟩
  | edited cur f same mem leads id state disposition escalated first =>
    exact .rewritten leads id (fun _ => state) first
  | advanced cur f e mem unfinished leads id state disposition escalated first =>
    refine .rewritten leads id (fun h => ?_) fun t ht => first.trans ht
    rw [unfinished] at h
    cases h
  | handedOver cur f e g mem unfinished leads id state disposition escalated first =>
    refine .rewritten leads id (fun h => ?_) fun t ht => first.trans ht
    rw [unfinished] at h
    cases h
  | raised cur f e mem leads id state disposition escalated first =>
    exact .rewritten leads id (fun _ => state) fun t ht => first.trans ht

/-! ## What each operation does -/

section Reads

theorem Moved.refl (db : Pipeline) : Moved db db := .untouched (.refl db) rfl

theorem readLead_eq_some (h : readLead x db = some cur) : cur ∈ db.leads ∧ cur.lead_id = x := by
  refine ⟨mem_of_find?_eq_some h, ?_⟩
  simpa using find?_some h

/-- A statement on the row of one lead rewrites that lead, when the lead meets the
rest of its condition. -/
theorem updateWhere_lead (hids : (db.leads.map (·.lead_id)).Nodup) (hcur : readLead x db = some cur)
    {p : Lead → Prop} [DecidablePred p] (hp : p cur) (f : Lead → Lead) :
    updateWhere (fun l => l.lead_id = x ∧ p l) f db.leads =
      updateWhere (fun l => l = cur) f db.leads := by
  obtain ⟨hmem, hid⟩ := readLead_eq_some hcur
  refine updateWhere_congr fun l hl => ⟨fun h => ?_, fun h => ?_⟩
  · exact eq_of_key hids hl hmem (h.1.trans hid.symm)
  · rw [h]
    exact ⟨hid, hp⟩

theorem updateWhere_lead_of_not (hids : (db.leads.map (·.lead_id)).Nodup)
    (hcur : readLead x db = some cur) {p : Lead → Prop} [DecidablePred p] (hp : ¬ p cur)
    (f : Lead → Lead) : updateWhere (fun l => l.lead_id = x ∧ p l) f db.leads = db.leads := by
  obtain ⟨hmem, hid⟩ := readLead_eq_some hcur
  refine updateWhere_of_forall_not fun l hl h => hp ?_
  exact eq_of_key hids hl hmem (h.1.trans hid.symm) ▸ h.2

theorem find?_lead (hids : (db.leads.map (·.lead_id)).Nodup) (hcur : readLead x db = some cur)
    {p : Lead → Bool} (hp : p cur = true) :
    (db.leads.find? fun l => l.lead_id = x && p l) = some cur := by
  obtain ⟨hmem, hid⟩ := readLead_eq_some hcur
  have hsome : (db.leads.find? fun l => l.lead_id = x && p l).isSome = true :=
    find?_isSome.mpr ⟨cur, hmem, by simp [hid, hp]⟩
  obtain ⟨l, hl⟩ := Option.isSome_iff_exists.mp hsome
  have hlx : l.lead_id = x := by
    have hcond := find?_some hl
    simp only [Bool.and_eq_true, decide_eq_true_eq] at hcond
    exact hcond.1
  rw [hl, eq_of_key hids (mem_of_find?_eq_some hl) hmem (hlx.trans hid.symm)]

theorem run_updateLead (hids : (db.leads.map (·.lead_id)).Nodup) (hcur : readLead x db = some cur)
    {version : Nat} (hversion : cur.authorization_version = version) (f : Lead → Lead) :
    (updateLead x version f).run db =
      .ok (some (f cur), { db with leads := updateWhere (fun l => l = cur) f db.leads }) := by
  refine run_execute_eq_ok.mpr ⟨rfl, ?_, ?_⟩
  · rw [find?_lead hids hcur (p := fun l => l.authorization_version = version) (by simp [hversion])]
    rfl
  · rw [updateWhere_lead hids hcur (p := fun l => l.authorization_version = version) hversion]

end Reads

theorem unfinished_of_legal {s t : LeadState} (h : s ∈ legalTransitions t) : t.finished = false := by
  revert h
  cases t <;> simp [legalTransitions, LeadState.finished]

section Operations

variable {w : CrmWorld} {input : AssignInput}

theorem transitionLead_moved (hids : (db.leads.map (·.lead_id)).Nodup) {who : String}
    {toState : LeadState} {version : Nat} {disposition : Option LeadDisposition}
    {note : Option String} {out : LeadTransitionOutcome}
    (h : (transitionLead w who x toState version disposition note).run db = .ok (out, db'))
    (honest : ∀ l ∈ db.leads, l.lead_id = x → l.authorization_version = version →
      l.lifecycle_state.finished = false →
      ¬ (toState = .closed ∧ disposition = some .handed_to_sales)) : Moved db db' := by
  unfold transitionLead at h
  obtain ⟨actor, -, h⟩ := run_actorWithin h
  rw [run_bind_of_eq_ok (run_selectLocking _ _ _)] at h
  cases hcur : readLead x db with
  | none =>
    rw [hcur] at h
    cases h
    exact .refl _
  | some cur =>
    rw [hcur] at h
    obtain ⟨hmem, hid⟩ := readLead_eq_some hcur
    dsimp only at h
    split at h
    · cases h
      exact .refl _
    rename_i hversion
    rw [not_not] at hversion
    subst hversion
    split at h
    · cases h
      exact .refl _
    rename_i hallowed
    rw [not_not] at hallowed
    split at h
    · cases h
      exact .refl _
    split at h
    · cases h
      exact .refl _
    rename_i hnot_handed
    rw [run_bind_of_eq_ok (run_updateLead hids hcur rfl _)] at h
    obtain ⟨-, h⟩ := run_execute_bind h
    cases h
    have hunfinished := unfinished_of_legal hallowed
    refine .advanced cur _ _ hmem hunfinished rfl rfl hnot_handed ?_ rfl rfl rfl
      ⟨hid.symm, rfl, rfl⟩ rfl rfl
    intro hdisposition
    dsimp only at hdisposition
    split at hdisposition
    · rename_i hterminal
      exact honest cur hmem hid rfl hunfinished ⟨of_decide_eq_true hterminal, hdisposition⟩
    · cases hdisposition

theorem handOffLead_moved (hids : (db.leads.map (·.lead_id)).Nodup) {who handedTo : String}
    {version : Nat} {out : HandoffOutcome}
    (h : (handOffLead w who x version handedTo).run db = .ok (out, db')) : Moved db db' := by
  unfold handOffLead at h
  obtain ⟨actor, -, h⟩ := run_actorWithin h
  rw [run_bind_of_eq_ok (run_selectLocking _ _ _)] at h
  cases hcur : readLead x db with
  | none =>
    rw [hcur] at h
    cases h
    exact .refl _
  | some cur =>
    rw [hcur] at h
    obtain ⟨hmem, hid⟩ := readLead_eq_some hcur
    rw [run_bind_of_eq_ok (run_select _ _)] at h
    split at h
    · cases h
      exact .refl _
    split at h
    · cases h
      exact .refl _
    rename_i hversion
    rw [not_not] at hversion
    subst hversion
    split at h
    · cases h
      exact .refl _
    rename_i hallowed
    rw [not_not] at hallowed
    rw [run_bind_of_eq_ok (run_updateLead hids hcur rfl _)] at h
    obtain ⟨-, h⟩ := run_execute_bind h
    obtain ⟨-, h⟩ := run_execute_bind h
    cases h
    have hunfinished := unfinished_of_legal hallowed
    exact .handedOver cur _ _ _ hmem hunfinished rfl rfl rfl rfl rfl rfl rfl
      ⟨hid.symm, rfl, rfl⟩ rfl hid.symm rfl

def AssignInput.row (input : AssignInput) (cur : Lead) : LeadAssignment where
  lead_id := input.leadId
  from_user_link_id := cur.owner_user_link_id
  to_user_link_id := input.toUserLinkId
  queue_id := input.queueId
  reason := input.reason
  note := input.note
  assigned_by_user_link_id := input.actingUserLinkId

def AssignInput.events (input : AssignInput) (cur : Lead) : List LeadStatusEvent :=
  if cur.lifecycle_state = .new ∧ input.toUserLinkId ≠ none then
    [⟨cur.lead_id, .new, .working, none, none, input.actingUserLinkId⟩]
  else []

/-- The rows after an assignment. -/
def AssignInput.placed (input : AssignInput) (cur : Lead) (db : Pipeline) : Pipeline :=
  { db with
    leads := updateWhere (fun l => l = cur) (Lead.assign input.toUserLinkId input.queueId) db.leads
    lead_assignments := db.lead_assignments ++ [input.row cur]
    lead_status_events := db.lead_status_events ++ input.events cur }

/-- What an assignment that goes through has found. -/
structure Placeable (w : CrmWorld) (input : AssignInput) (db : Pipeline) (cur : Lead) : Prop where
  named : ¬ (input.toUserLinkId = none ∧ input.queueId = none)
  actor : w.access.knows input.actingUserLinkId = true
  current : readLead input.leadId db = some cur
  unfinished : cur.lifecycle_state.finished = false
  version : cur.authorization_version = input.expectedVersion
  moves : ¬ (cur.owner_user_link_id = input.toUserLinkId ∧ cur.queue_id = input.queueId)
  admitted : assignmentRefusal w input cur db = none
  accepted : (input.row cur).accepted w = true

theorem run_recordWorking (input : AssignInput) (d : Pipeline) :
    (recordWorking input.actingUserLinkId cur
        (Lead.assign input.toUserLinkId input.queueId cur)).run d =
      .ok ((), { d with lead_status_events := d.lead_status_events ++ input.events cur }) := by
  have hworks : cur.lifecycle_state = .new ∧
      (Lead.assign input.toUserLinkId input.queueId cur).lifecycle_state = .working ↔
        cur.lifecycle_state = .new ∧ input.toUserLinkId ≠ none := by
    refine and_congr_right fun hnew => ?_
    simp [Lead.assign, hnew]
  rw [recordWorking, AssignInput.events]
  by_cases h : cur.lifecycle_state = .new ∧ input.toUserLinkId ≠ none
  · rw [if_pos (hworks.mpr h), if_pos h]
    rfl
  · rw [if_neg (mt hworks.mp h), if_neg h, append_nil]
    rfl

theorem assignmentRefusal_ne_assigned (lead : Lead) :
    assignmentRefusal w input cur db ≠ some (.assigned lead) := by
  unfold assignmentRefusal
  split
  · nofun
  rw [ne_eq, Option.bind_eq_some_iff]
  rintro ⟨queueId, -, h⟩
  split at h
  · cases h
  split at h
  · cases h
  · cases h

theorem assignLead_cases (hids : (db.leads.map (·.lead_id)).Nodup) {out : AssignOutcome}
    (h : (assignLead w input).run db = .ok (out, db')) :
    (db' = db ∧ ∀ lead, out ≠ .assigned lead) ∨
      ∃ cur, Placeable w input db cur ∧ db' = input.placed cur db ∧
        out = .assigned (Lead.assign input.toUserLinkId input.queueId cur) := by
  unfold assignLead at h
  split at h
  · cases h
    exact .inl ⟨rfl, fun _ => nofun⟩
  rename_i hnamed
  obtain ⟨actor, hwho, h⟩ := run_actorWithin h
  obtain rfl := requireActor_eq_ok hwho
  rw [run_bind_of_eq_ok (run_selectLocking _ _ _)] at h
  cases hcur : readLead input.leadId db with
  | none =>
    rw [hcur] at h
    cases h
    exact .inl ⟨rfl, fun _ => nofun⟩
  | some cur =>
    rw [hcur] at h
    dsimp only at h
    split at h
    · cases h
      exact .inl ⟨rfl, fun _ => nofun⟩
    rename_i hunfinished
    rw [Bool.not_eq_true] at hunfinished
    split at h
    · cases h
      exact .inl ⟨rfl, fun _ => nofun⟩
    rename_i hversion
    rw [not_not] at hversion
    split at h
    · cases h
      exact .inl ⟨rfl, fun _ => nofun⟩
    rename_i hmoves
    rw [run_bind_of_eq_ok (run_select _ _)] at h
    cases hrefused : assignmentRefusal w input cur db with
    | some refusal =>
      rw [hrefused] at h
      cases h
      exact .inl ⟨rfl, fun lead he => assignmentRefusal_ne_assigned lead (he ▸ hrefused)⟩
    | none =>
      rw [hrefused] at h
      dsimp only at h
      rw [run_bind_of_eq_ok (run_updateLead hids hcur hversion _)] at h
      rw [run_bind_of_eq_ok (run_recordWorking input _)] at h
      obtain ⟨haccepted, h⟩ := run_execute_bind h
      cases h
      exact .inr ⟨cur, ⟨hnamed, knows_of_requireActor hwho, hcur, hunfinished, hversion, hmoves,
        hrefused, haccepted⟩, rfl, rfl⟩

theorem assignLead_moved (hc : Coherent db) {out : AssignOutcome}
    (h : (assignLead w input).run db = .ok (out, db')) : Moved db db' := by
  rcases assignLead_cases hc.ids h with ⟨rfl, -⟩ | ⟨cur, hplaceable, rfl, -⟩
  · exact .refl _
  obtain ⟨hmem, -⟩ := readLead_eq_some hplaceable.current
  have hunfinished := hplaceable.unfinished
  by_cases hnew : cur.lifecycle_state = .new ∧ input.toUserLinkId ≠ none
  · have hstate : (Lead.assign input.toUserLinkId input.queueId cur).lifecycle_state = .working :=
      if_pos hnew
    have hdisposition : cur.disposition ≠ some .handed_to_sales := by
      rw [Ne, ← hc.disposed cur hmem, hnew.1]
      nofun
    refine .advanced cur _ ⟨cur.lead_id, .new, .working, none, none, input.actingUserLinkId⟩ hmem
      hunfinished rfl rfl ?_ hdisposition rfl rfl ?_ ⟨rfl, hnew.1.symm, hstate.symm⟩ rfl rfl
    · rw [hstate]
      nofun
    · rw [AssignInput.placed, AssignInput.events, if_pos hnew]
  · refine .edited cur _ ⟨?_, rfl, rfl⟩ hmem rfl rfl (if_neg hnew) rfl rfl fun _ h => h
    rw [AssignInput.placed, AssignInput.events, if_neg hnew, append_nil]

theorem scheduleAppointmentWithin_moved (hc : Coherent db) {input : AppointmentInput}
    {out : AppointmentOutcome}
    (h : (scheduleAppointmentWithin w input).run db = .ok (out, db')) : Moved db db' := by
  have hids := hc.ids
  unfold scheduleAppointmentWithin at h
  split at h
  rotate_left
  · cases h
    exact .refl _
  split at h
  · cases h
    exact .refl _
  obtain ⟨actor, -, h⟩ := run_actorWithin h
  rw [run_bind_of_eq_ok (run_selectLocking _ _ _)] at h
  cases hcur : readLead input.leadId db with
  | none =>
    rw [hcur] at h
    cases h
    exact .refl _
  | some cur =>
    rw [hcur] at h
    obtain ⟨hmem, hid⟩ := readLead_eq_some hcur
    dsimp only at h
    split at h
    · cases h
      exact .refl _
    rename_i hunfinished
    rw [Bool.not_eq_true] at hunfinished
    obtain ⟨-, h⟩ := run_execute_bind h
    obtain ⟨-, h⟩ := run_execute_bind h
    obtain ⟨-, h⟩ := run_execute_bind h
    dsimp only at h
    by_cases hadv : cur.lifecycle_state.advances = true
    · rw [find?_lead hids hcur (p := fun l => l.lifecycle_state.advances) hadv,
        updateWhere_lead hids hcur (p := fun l => l.lifecycle_state.advances = true) hadv] at h
      obtain ⟨-, h⟩ := run_execute_bind h
      cases h
      refine .advanced cur _ _ hmem hunfinished rfl rfl ?_ ?_ rfl rfl rfl
        ⟨hid.symm, rfl, rfl⟩ rfl rfl
      · nofun
      · rw [Ne, ← hc.disposed cur hmem]
        intro hstate
        rw [hstate] at hunfinished
        cases hunfinished
    · rw [updateWhere_lead_of_not hids hcur (p := fun l => l.lifecycle_state.advances = true)
        hadv] at h
      split at h
      · cases h
        exact .untouched ⟨rfl, rfl, rfl⟩ rfl
      rename_i hsome
      obtain ⟨l, hl, -⟩ := Option.map_eq_some_iff.mp hsome
      have hcond := find?_some hl
      simp only [Bool.and_eq_true, decide_eq_true_eq] at hcond
      have hlc := eq_of_key hids (mem_of_find?_eq_some hl) hmem (hcond.1.trans hid.symm)
      exact absurd (hlc ▸ hcond.2) hadv

theorem stampFirstResponseWithin_moved {mid : Pipeline} (hmid : LeavesLeads db mid)
    (hids : (db.leads.map (·.lead_id)).Nodup) {u : Unit}
    (h : (stampFirstResponseWithin w x).run mid = .ok (u, db')) : Moved db db' := by
  obtain ⟨-, -, rfl⟩ := run_execute_eq_ok.mp h
  obtain ⟨⟨hevents, hhandoffs, hescalations⟩, hleads⟩ := hmid
  have hstamped := congrArg (updateWhere
    (fun l : Lead => l.lead_id = x ∧ l.first_response_at = none)
      fun l => { l with first_response_at := some w.now }) hleads
  cases hcur : readLead x db with
  | none =>
    refine .untouched ⟨hevents, hhandoffs, hescalations⟩
      (hstamped.trans (updateWhere_of_forall_not fun l hl hx => ?_))
    have hnone := find?_eq_none.mp hcur l hl
    simp only [decide_eq_true_eq] at hnone
    exact hnone hx.1
  | some cur =>
    obtain ⟨hmem, hid⟩ := readLead_eq_some hcur
    by_cases hfirst : cur.first_response_at = none
    · refine .edited cur _ ⟨hevents, hhandoffs, hescalations⟩ hmem
        (hstamped.trans (updateWhere_lead hids hcur
          (p := fun l => l.first_response_at = none) hfirst _)) rfl rfl rfl rfl fun t ht => ?_
      rw [hfirst] at ht
      cases ht
    · exact .untouched ⟨hevents, hhandoffs, hescalations⟩
        (hstamped.trans (updateWhere_lead_of_not hids hcur
          (p := fun l => l.first_response_at = none) hfirst _))

theorem logActivityWithin_moved (hids : (db.leads.map (·.lead_id)).Nodup) {input : ActivityInput}
    {out : ActivityOutcome} (h : (logActivityWithin w input).run db = .ok (out, db')) :
    Moved db db' := by
  unfold logActivityWithin at h
  split at h
  · cases h
    exact .refl _
  obtain ⟨actor, -, h⟩ := run_actorWithin h
  rw [readLifecycleState, run_bind_of_eq_ok (run_selectLocking _ _ _)] at h
  split at h
  · cases h
    exact .refl _
  split at h
  · cases h
    exact .refl _
  obtain ⟨-, h⟩ := run_execute_bind h
  split at h
  · obtain ⟨_, _, hstamp, h⟩ := run_bind_eq_ok.mp h
    rw [run_bind_of_eq_ok (run_select _ _)] at h
    cases h
    refine stampFirstResponseWithin_moved ?_ hids hstamp
    exact ⟨⟨rfl, rfl, rfl⟩, rfl⟩
  · rw [run_bind_of_eq_ok (run_select _ _)] at h
    cases h
    exact .untouched ⟨rfl, rfl, rfl⟩ rfl

/-! ### Capture -/

section Capture

variable {casing : Casing} {input : LeadCaptureInput}

/-- Customers come to be known and intakes are recorded; nothing else changes. -/
def Aside (db db' : Pipeline) : Prop :=
  ∃ parties intakes, db' = { db with parties := parties, lead_intakes := intakes }

theorem Aside.refl (db : Pipeline) : Aside db db := ⟨db.parties, db.lead_intakes, rfl⟩

theorem Aside.trans (a b c : Pipeline) (hab : Aside a b) (hbc : Aside b c) : Aside a c := by
  obtain ⟨ps, is, rfl⟩ := hab
  obtain ⟨qs, js, rfl⟩ := hbc
  exact ⟨qs, js, rfl⟩

theorem Aside.leavesLeads (a b : Pipeline) (h : Aside a b) : LeavesLeads a b := by
  obtain ⟨ps, is, rfl⟩ := h
  exact ⟨⟨rfl, rfl, rfl⟩, rfl⟩

theorem writes_actorWithin {R : Pipeline → Pipeline → Prop} (who : String) :
    (actorWithin w who).Writes R := by
  unfold actorWithin
  split
  · exact writes_pure _
  · exact writes_raise _

theorem writes_recordIntake (i : LeadIntake) : (recordIntake i).Writes Aside :=
  writes_execute (fun _ d => ⟨d.parties, _, rfl⟩) _ _ _ _

theorem writes_lockAll (ks : List Lock) : (lockAll ks).Writes Aside := by
  induction ks with
  | nil => exact writes_pure _
  | cons k ks ih => exact (writes_selectLocking .refl _ _).bind fun _ => ih

theorem writes_insertParty (p : Party) : (insertParty casing p).Writes Aside := by
  refine ⟨fun v d => ?_, fun v => ?_⟩
  · dsimp only
    split
    · exact .refl d
    · exact ⟨_, d.lead_intakes, rfl⟩
  · dsimp only
    split
    · trivial
    · split <;> trivial

theorem writes_createPartyWithin (who : String) (partyType : PartyType) (d : PartyDetails)
    (allowDuplicate : Bool) :
    (createPartyWithin casing w who partyType d allowDuplicate).Writes Aside := by
  unfold createPartyWithin
  split
  · exact writes_pure _
  dsimp only
  refine writes_unless (writes_unless ?_)
  refine (writes_actorWithin who).bind fun _ => (writes_lockAll _).bind fun _ =>
    (writes_select .refl _).bind fun _ => ?_
  refine writes_unless ?_
  refine (writes_insertParty _).bind fun written => ?_
  split
  · exact writes_pure _
  · exact (writes_select .refl _).bind fun _ => writes_pure _

theorem writes_resolveParty (actor : String) :
    (resolveParty casing w input actor).Writes Aside := by
  unfold resolveParty
  split
  · exact (writes_select .refl _).bind fun _ => writes_pure _
  · exact writes_pure _
  split
  · exact writes_pure _
  · refine (writes_createPartyWithin _ _ _ _).bind fun created => ?_
    split <;> exact writes_pure _

theorem writes_replayIntake (prior : LeadIntake) : (replayIntake prior).Writes Aside := by
  unfold replayIntake
  split
  · exact writes_pure _
  · refine (writes_select .refl _).bind fun found => ?_
    split <;> exact writes_pure _

theorem writes_recordSourceTouchWithin (x source : String) (campaign : Option String)
    (channel : IntakeChannel) (first : Bool) :
    (recordSourceTouchWithin w x source campaign channel first).Writes LeavesLeads := by
  unfold recordSourceTouchWithin
  refine (writes_selectLocking .refl _ _).bind fun _ => ?_
  exact writes_execute (fun _ _ => ⟨⟨rfl, rfl, rfl⟩, rfl⟩) _ _ _ _

theorem writes_joinOpenLead (actor key source party : String) (lead : Lead) :
    (joinOpenLead casing w input actor key source party lead).Writes LeavesLeads := by
  unfold joinOpenLead
  exact (writes_recordSourceTouchWithin _ _ _ _ _).bind fun _ =>
    ((writes_recordIntake _).mono Aside.leavesLeads).bind fun _ => writes_pure _

theorem Moved.of_writes {α : Type} {s : Work α} (hs : s.Writes LeavesLeads) {mid : Pipeline}
    (hmid : LeavesLeads db mid) {a : α} (h : s.run mid = .ok (a, db')) : Moved db db' :=
  have hsame := hmid.trans _ _ _ (hs.run .refl .trans h)
  .untouched hsame.1 hsame.2

theorem createLead_moved {mid : Pipeline} (hmid : LeavesLeads db mid)
    {actor key source party : String} {out : LeadCaptureOutcome}
    (h : (createLead casing w input actor key source party).run mid = .ok (out, db')) :
    Moved db db' := by
  unfold createLead at h
  rw [run_bind_of_eq_ok (run_select _ _)] at h
  obtain ⟨haccepted, h⟩ := run_execute_bind h
  have hrest := Script.Writes.run .refl .trans
    ((writes_recordSourceTouchWithin _ _ _ _ _).bind fun _ =>
      ((writes_recordIntake _).mono Aside.leavesLeads).bind fun _ => writes_pure _) h
  have hsame : SameElse mid db' := ⟨hrest.1.events, hrest.1.handoffs, hrest.1.escalations⟩
  refine .arrived (newLead w input party source _) (hmid.1.trans hsame) (hmid.2 ▸ hrest.2)
    (fun k hk => ?_) rfl rfl rfl
  unfold Lead.insertable at haccepted
  rw [hmid.2] at haccepted
  simp only [Bool.and_eq_true, all_eq_true, decide_eq_true_eq] at haccepted
  exact haccepted.1.1.1.1 k hk

theorem captureLeadWithin_moved {out : LeadCaptureOutcome}
    (h : (captureLeadWithin casing w input).run db = .ok (out, db')) : Moved db db' := by
  unfold captureLeadWithin at h
  dsimp only at h
  split at h
  · cases h
    exact .refl _
  split at h
  · cases h
    exact .refl _
  obtain ⟨actor, -, h⟩ := run_actorWithin h
  rw [run_bind_of_eq_ok (run_selectLocking _ _ _)] at h
  split at h
  · exact .of_writes ((writes_replayIntake _).mono Aside.leavesLeads) (.refl db) h
  unfold captureFresh at h
  rw [run_bind_of_eq_ok (run_select _ _)] at h
  split at h
  · cases h
    exact .refl _
  obtain ⟨resolved, mid, hresolved, h⟩ := run_bind_eq_ok.mp h
  have hmid := Aside.leavesLeads _ _ ((writes_resolveParty actor).run .refl .trans hresolved)
  split at h
  · exact .of_writes (((writes_recordIntake _).bind fun _ => writes_pure _).mono
      Aside.leavesLeads) hmid h
  unfold decideOnInterest at h
  rw [run_bind_of_eq_ok (run_selectLocking _ _ _)] at h
  rw [run_bind_of_eq_ok (run_selectLocking _ _ _)] at h
  split at h
  · exact .of_writes (writes_joinOpenLead _ _ _ _ _) hmid h
  · exact createLead_moved hmid h

end Capture

/-! ### The sweep -/

theorem escalate_moved (hc : Coherent db) {l : Lead}
    (hl : ∃ k ∈ db.leads, k.lead_id = l.lead_id) : Moved db (escalate w db l) := by
  obtain ⟨k, hk, hid⟩ := hl
  unfold escalate
  split
  · exact .refl _
  rename_i hnone
  have hclear : k.escalated_at = none := by
    rw [← Option.not_isSome_iff_eq_none, ← hc.escalated k hk]
    rintro ⟨e, he, heid, hlevel⟩
    exact hnone (any_eq_true.mpr ⟨e, he, by simp [heid, hid, hlevel]⟩)
  refine .raised k (fun k => { k with escalated_at := some w.now }) _ hk ?_ rfl rfl rfl rfl rfl rfl
    rfl rfl ⟨hid.symm, rfl⟩
  refine updateWhere_congr fun m hm => ⟨fun h => ?_, fun h => ?_⟩
  · exact eq_of_key hc.ids hm hk (h.1.trans hid.symm)
  · rw [h]
    exact ⟨hid, hclear⟩

theorem escalations_coherent (hc : Coherent db) {due : List Lead}
    (hdue : ∀ l ∈ due, ∃ k ∈ db.leads, k.lead_id = l.lead_id) :
    Coherent (due.foldl (escalate w) db) ∧ Persists db (due.foldl (escalate w) db) := by
  induction due generalizing db with
  | nil => exact ⟨hc, .refl db⟩
  | cons l due ih =>
    have hstep := escalate_moved (w := w) hc (hdue l mem_cons_self)
    have hrest : ∀ m ∈ due, ∃ k ∈ (escalate w db l).leads, k.lead_id = m.lead_id := by
      intro m hm
      obtain ⟨k, hk, hid⟩ := hdue m (mem_cons_of_mem l hm)
      obtain ⟨k', hk', hid', -⟩ := hstep.persists k hk
      exact ⟨k', hk', hid'.trans hid⟩
    obtain ⟨hcoherent, hpersists⟩ := ih (hstep.coherent hc) hrest
    exact ⟨hcoherent, hstep.persists.trans hpersists⟩

theorem mem_claimOverdue {held : List String} {limit : Nat} {l : Lead}
    (h : l ∈ claimOverdue w held limit db) : l ∈ db.leads := by
  have hsorted := mem_of_mem_take h
  rw [mem_insertionSort] at hsorted
  exact (mem_filter.mp hsorted).1

end Operations

/-! ## Runs -/

/-- A command that works on leads, in its own transaction. -/
inductive LeadCall where
  | captureLead (casing : Casing) (w : CrmWorld) (input : LeadCaptureInput)
  | assignLead (w : CrmWorld) (input : AssignInput)
  | transitionLead (w : CrmWorld) (actingUserLinkId leadId : String) (toState : LeadState)
      (expectedVersion : Nat) (disposition : Option LeadDisposition) (note : Option String)
  | scheduleAppointment (w : CrmWorld) (input : AppointmentInput)
  | logActivity (w : CrmWorld) (input : ActivityInput)
  | handOffLead (w : CrmWorld) (actingUserLinkId leadId : String) (expectedVersion : Nat)
      (handedToUserLinkId : String)
  | runEscalationSweep (w : CrmWorld) (heldByOthers : List String) (limit : Nat)

/-- The rows after a command commits, or is rolled back. -/
def LeadCall.step (db : Pipeline) : LeadCall → Pipeline
  | .captureLead casing w input => committed db ((captureLeadWithin casing w input).run db)
  | .assignLead w input => committed db ((Crm.assignLead w input).run db)
  | .transitionLead w who leadId toState version disposition note =>
    committed db ((Crm.transitionLead w who leadId toState version disposition note).run db)
  | .scheduleAppointment w input => committed db ((scheduleAppointmentWithin w input).run db)
  | .logActivity w input => committed db ((logActivityWithin w input).run db)
  | .handOffLead w who leadId version handedTo =>
    committed db ((Crm.handOffLead w who leadId version handedTo).run db)
  | .runEscalationSweep w held limit => (Crm.runEscalationSweep w held limit db).2

/-- A lead still in the CRM's hands is closed as handed to sales. -/
def ClosesAsHanded (db : Pipeline) : LeadCall → Prop
  | .transitionLead _ _ leadId toState version disposition _ =>
    toState = .closed ∧ disposition = some .handed_to_sales ∧
      ∃ l ∈ db.leads, l.lead_id = leadId ∧ l.authorization_version = version ∧
        l.lifecycle_state.finished = false
  | _ => False

theorem LeadCall.step_keeps {call : LeadCall} (hc : Coherent db) (h : ¬ ClosesAsHanded db call) :
    Coherent (call.step db) ∧ Persists db (call.step db) := by
  have hmoved : ∀ {α : Type} {r : Except Raise (α × Pipeline)},
      (∀ out db', r = .ok (out, db') → Moved db db') →
        Coherent (committed db r) ∧ Persists db (committed db r) :=
    fun hr => committed_induction (P := fun d => Coherent d ∧ Persists db d) ⟨hc, .refl db⟩
      fun out db' hok => ⟨(hr out db' hok).coherent hc, (hr out db' hok).persists⟩
  cases call with
  | captureLead casing w input => exact hmoved fun _ _ hok => captureLeadWithin_moved hok
  | assignLead w input => exact hmoved fun _ _ hok => assignLead_moved hc hok
  | transitionLead w who leadId toState version disposition note =>
    refine hmoved fun _ _ hok => transitionLead_moved hc.ids hok ?_
    rintro l hl hid hversion hopen ⟨hclosed, hhanded⟩
    exact h ⟨hclosed, hhanded, l, hl, hid, hversion, hopen⟩
  | scheduleAppointment w input => exact hmoved fun _ _ hok => scheduleAppointmentWithin_moved hc hok
  | logActivity w input => exact hmoved fun _ _ hok => logActivityWithin_moved hc.ids hok
  | handOffLead w who leadId version handedTo =>
    exact hmoved fun _ _ hok => handOffLead_moved hc.ids hok
  | runEscalationSweep w held limit =>
    exact escalations_coherent hc fun l hl => ⟨l, mem_claimOverdue hl, rfl⟩

theorem Coherent.quiet (parties : List Party) (sources : List LeadSource)
    (queues : List LeadQueue) (policies : List LeadSlaPolicy) :
    Coherent (.quiet parties sources queues policies) :=
  ⟨nodup_nil, forall_mem_nil _, forall_mem_nil _, forall_mem_nil _,
    forall_mem_nil _, forall_mem_nil _, forall_mem_nil _, forall_mem_nil _⟩

/-- **The life of a lead.**  In every run in which nobody closes a lead as handed
over, the tables tell one story of each lead at every point, and between any two
points a finished lead stays where it is and a first response stays the first. -/
theorem leads_coherent_of_run (parties : List Party) (sources : List LeadSource)
    (queues : List LeadQueue) (policies : List LeadSlaPolicy) (earlier later : List LeadCall)
    (h : Along LeadCall.step (fun db call => ¬ ClosesAsHanded db call)
      (.quiet parties sources queues policies) (earlier ++ later)) :
    Coherent (run LeadCall.step (.quiet parties sources queues policies) earlier) ∧
      Persists (run LeadCall.step (.quiet parties sources queues policies) earlier)
        (run LeadCall.step (.quiet parties sources queues policies) (earlier ++ later)) := by
  obtain ⟨hearlier, hlater⟩ := along_append.mp h
  have hcoherent : Coherent (run LeadCall.step (.quiet parties sources queues policies) earlier) :=
    hearlier.invariant (fun _ _ hs hcall => (LeadCall.step_keeps hs hcall).1) (.quiet ..)
  refine ⟨hcoherent, ?_⟩
  rw [run_append]
  refine (hlater.invariant (I := fun d => Coherent d ∧
    Persists (run LeadCall.step (.quiet parties sources queues policies) earlier) d) ?_
      ⟨hcoherent, .refl _⟩).2
  intro d call hd hcall
  obtain ⟨hstep, hpersists⟩ := LeadCall.step_keeps hd.1 hcall
  exact ⟨hstep, hd.2.trans hpersists⟩

/-! ## A customer who walks in -/

namespace WalkIn

def clerk : String := "0c000000-0000-4000-8000-000000000001"

def ada : Party where
  party_id := "0c000000-0000-4000-8000-00000000000a"
  party_type := .person
  display_name := "Ada"
  given_name := some "Ada"
  family_name := none
  organization_name := none
  email := some "ada@example.com"
  phone := none
  status := .active
  contact_sharing_override := false
  authorization_version := 1

def street : LeadSource := ⟨"0c000000-0000-4000-8000-00000000000b", "walk_in", true⟩

/-- The dealership before anybody walked in. -/
def rows : Pipeline := .quiet [ada] [street] [] []

def world : CrmWorld where
  access := { userLinkExists := fun u => u = clerk, reaches := fun u _ => u = clerk }
  now := 1788134400000000
  rooftopExists := fun r => r = "main street" || r = "airport"
  stockItemExists := fun _ => false
  vehicleExists := fun _ => false
  campaignVersionExists := fun _ => false
  newPartyId := "0c000000-0000-4000-8000-0000000000f1"
  newLeadId := "0c000000-0000-4000-8000-0000000000f2"
  newTouchId := "0c000000-0000-4000-8000-0000000000f3"
  newHandoffId := "0c000000-0000-4000-8000-0000000000f4"
  newActivityId := "0c000000-0000-4000-8000-0000000000f5"
  newAppointmentId := "0c000000-0000-4000-8000-0000000000f6"

def visit : LeadCaptureInput where
  actingUserLinkId := clerk
  rooftopId := "main street"
  intakeKey := "desk-1"
  channel := .manual
  sourceCode := "walk_in"
  partyId := some ada.party_id
  party := none
  interestStockItemId := none
  interestVehicleId := none
  campaignVersionId := none
  payload := none

def call : ActivityInput where
  actingUserLinkId := clerk
  leadId := world.newLeadId
  kind := .call
  direction := some .outbound
  subject := "called back"
  body := none
  dueAt := none
  assignedToUserLinkId := none

def sold : List LeadCall :=
  [ .captureLead .ascii world visit,
    .logActivity world call,
    .transitionLead world clerk world.newLeadId .working 1 none none,
    .transitionLead world clerk world.newLeadId .qualified 2 none none,
    .handOffLead world clerk world.newLeadId 3 clerk ]

/-- Ada's lead is closed with the disposition of a handoff. -/
def closedAsHanded : List LeadCall :=
  [ .captureLead .ascii world visit,
    .transitionLead world clerk world.newLeadId .closed 1 (some .handed_to_sales) none ]

end WalkIn

/-- The life of a lead that is handed over. -/
theorem leads_coherent_of_sold :
    (run LeadCall.step WalkIn.rows WalkIn.sold).lead_handoffs.length = 1 ∧
      Coherent (run LeadCall.step WalkIn.rows (WalkIn.sold.take 2)) ∧
      Persists (run LeadCall.step WalkIn.rows (WalkIn.sold.take 2))
        (run LeadCall.step WalkIn.rows (WalkIn.sold.take 2 ++ WalkIn.sold.drop 2)) :=
  ⟨by decide +kernel,
    leads_coherent_of_run [WalkIn.ada] [WalkIn.street] [] [] (WalkIn.sold.take 2)
      (WalkIn.sold.drop 2) ⟨id, id, fun h => absurd h.1 (by decide),
        fun h => absurd h.1 (by decide), id, trivial⟩⟩

/-- A lead closed with the disposition of a handoff was never handed off. -/
theorem not_handed_off_of_closedAsHanded :
    ¬ ∀ (parties : List Party) (sources : List LeadSource) (queues : List LeadQueue)
      (policies : List LeadSlaPolicy) (calls : List LeadCall),
      ∀ l ∈ (run LeadCall.step (.quiet parties sources queues policies) calls).leads,
        l.lifecycle_state = .handed_off ↔ l.disposition = some .handed_to_sales := by
  intro h
  have hclosed : ∃ l ∈ (run LeadCall.step WalkIn.rows WalkIn.closedAsHanded).leads,
      l.lifecycle_state = .closed ∧ l.disposition = some .handed_to_sales := by
    decide +kernel
  obtain ⟨l, hl, hstate, hdisposition⟩ := hclosed
  have hhanded := (h [WalkIn.ada] [WalkIn.street] [] [] WalkIn.closedAsHanded l hl).mpr hdisposition
  rw [hstate] at hhanded
  cases hhanded

end Dealership.Crm
