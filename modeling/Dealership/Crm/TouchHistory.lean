import Dealership.Crm.FinishedLeads

/-!
# The touch ledger

Every lead has a touch, and the touches of a lead are numbered from one without a gap
in the order in which they were committed.  No operation of the floor loses a touch
or writes one again; only a capture adds one, under the lock of its lead, and a new
lead is never committed without its first.

Attribution reads this ledger while captures go on, so what it may count on is said
here: leads stay where they are, and the ledger only grows at its end.
-/

namespace Dealership.Crm

open Library List

variable {ls : List Lead} {ts : List LeadSourceTouch} {db : Pipeline} {held : List Lock}

/-- The touches of a lead, in the order in which they were committed. -/
def touchesOf (leadId : String) (db : Pipeline) : List LeadSourceTouch :=
  db.lead_source_touches.filter fun t => t.lead_id = leadId

theorem mem_touchesOf {x : String} {t : LeadSourceTouch} :
    t ∈ touchesOf x db ↔ t ∈ db.lead_source_touches ∧ t.lead_id = x := by
  rw [touchesOf, mem_filter, decide_eq_true_eq]

/-- A ledger that holds. -/
structure Touched (db : Pipeline) : Prop where
  leads : (db.leads.map (·.lead_id)).Nodup
  touches : (db.lead_source_touches.map (·.touch_id)).Nodup
  each : ∀ l ∈ db.leads, touchesOf l.lead_id db ≠ []
  numbered : ∀ x, (touchesOf x db).map (·.touch_seq) = List.range' 1 (touchesOf x db).length

/-- The next position in a numbered history is one past its length. -/
theorem foldl_max_range' (n m : Nat) : (List.range' 1 n).foldl max m = max m n := by
  induction n generalizing m with
  | zero => simp
  | succ n ih =>
    rw [range'_concat, foldl_append, ih]
    simp only [foldl_cons, foldl_nil]
    omega

theorem Touched.nextTouchSeq (h : Touched db) (x : String) :
    nextTouchSeq x db = (touchesOf x db).length + 1 := by
  have hseq := h.numbered x
  rw [touchesOf] at hseq
  rw [Crm.nextTouchSeq, hseq, foldl_max_range', Nat.zero_max, touchesOf]

/-! ## What the operations of the floor may do -/

/-- What identifies a lead and never changes. -/
def Lead.place (l : Lead) : String × String := (l.lead_id, l.rooftop_id)

/-- New leads and new touches, and nothing lost. -/
structure Adds (ls : List Lead) (ts : List LeadSourceTouch) (db db' : Pipeline) : Prop where
  leads : db'.leads.map Lead.place = db.leads.map Lead.place ++ ls.map Lead.place
  touches : db'.lead_source_touches = db.lead_source_touches ++ ts

/-- The leads stay where they are, and so does the ledger. -/
abbrev KeepsHistory : Pipeline → Pipeline → Prop := Adds [] []

theorem KeepsHistory.refl (db : Pipeline) : KeepsHistory db db :=
  ⟨(append_nil _).symm, (append_nil _).symm⟩

theorem Adds.trans {ks : List Lead} {us : List LeadSourceTouch} {a b c : Pipeline}
    (hab : Adds ls ts a b) (hbc : Adds ks us b c) : Adds (ls ++ ks) (ts ++ us) a c := by
  refine ⟨?_, ?_⟩
  · rw [hbc.leads, hab.leads, map_append, append_assoc]
  · rw [hbc.touches, hab.touches, append_assoc]

theorem KeepsHistory.trans (a b c : Pipeline) (hab : KeepsHistory a b) (hbc : KeepsHistory b c) :
    KeepsHistory a c := Adds.trans hab hbc

theorem KeepsHistory.of_eq {db' : Pipeline} (hleads : db'.leads = db.leads)
    (htouches : db'.lead_source_touches = db.lead_source_touches) : KeepsHistory db db' :=
  ⟨by rw [hleads, map_nil, append_nil], by rw [htouches, append_nil]⟩

theorem KeepsHistory.of_edit {p : Lead → Prop} [DecidablePred p] {f : Lead → Lead}
    (hf : ∀ l, p l → (f l).place = l.place) :
    KeepsHistory db { db with leads := updateWhere p f db.leads } := by
  refine ⟨?_, (append_nil _).symm⟩
  rw [map_nil, append_nil, map_updateWhere]
  exact hf

/-- What is known of the rows while a transaction holds `held`. -/
structure Grown (held : List Lock) (db db' : Pipeline) : Prop where
  leads : ∀ l ∈ db.leads, ∃ l' ∈ db'.leads, l'.place = l.place
  touches : db.lead_source_touches <+: db'.lead_source_touches
  locked : ∀ x, Lock.lead x .forUpdate ∈ held → touchesOf x db' = touchesOf x db
  lead_fresh : ∀ x, Lock.index "leads_pkey" x ∈ held → (∀ l ∈ db.leads, l.lead_id ≠ x) →
    ∀ l ∈ db'.leads, l.lead_id ≠ x
  touch_fresh : ∀ x, Lock.index "lead_source_touches_pkey" x ∈ held →
    (∀ t ∈ db.lead_source_touches, t.touch_id ≠ x) → ∀ t ∈ db'.lead_source_touches, t.touch_id ≠ x

/-- What a transaction that held `held` may have committed. -/
structure Grows (held : List Lock) (db db' : Pipeline) : Prop where
  leads : ∀ l ∈ db.leads, ∃ l' ∈ db'.leads, l'.place = l.place
  lead_new : ∀ l' ∈ db'.leads, (∃ l ∈ db.leads, l.lead_id = l'.lead_id) ∨
    Lock.index "leads_pkey" l'.lead_id ∈ held
  touches : ∃ ts, db'.lead_source_touches = db.lead_source_touches ++ ts ∧
    ∀ t ∈ ts, Lock.lead t.lead_id .forUpdate ∈ held ∧
      Lock.index "lead_source_touches_pkey" t.touch_id ∈ held

theorem Grown.refl (held : List Lock) (db : Pipeline) : Grown held db db :=
  ⟨fun l hl => ⟨l, hl, rfl⟩, prefix_rfl, fun _ _ => rfl, fun _ _ h => h, fun _ _ h => h⟩

theorem Grown.trans {a b c : Pipeline} (hab : Grown held a b)
    (hbc : Grown held b c) : Grown held a c := by
  refine ⟨fun l hl => ?_, hab.touches.trans hbc.touches,
    fun x hx => (hbc.locked x hx).trans (hab.locked x hx),
    fun x hx h => hbc.lead_fresh x hx (hab.lead_fresh x hx h),
    fun x hx h => hbc.touch_fresh x hx (hab.touch_fresh x hx h)⟩
  obtain ⟨k, hk, hplace⟩ := hab.leads l hl
  obtain ⟨j, hj, hplace'⟩ := hbc.leads k hk
  exact ⟨j, hj, hplace'.trans hplace⟩

theorem Grown.mono {more : List Lock} {a b : Pipeline} (hsub : ∀ k ∈ held, k ∈ more)
    (h : Grown more a b) : Grown held a b :=
  ⟨h.leads, h.touches, fun x hx => h.locked x (hsub _ hx),
    fun x hx => h.lead_fresh x (hsub _ hx), fun x hx => h.touch_fresh x (hsub _ hx)⟩

theorem Grows.grown {more : List Lock} {db' : Pipeline} (h : Grows held db db')
    (hclear : ∀ k ∈ held, ∀ l ∈ more, k.conflicts l = false) : Grown more db db' := by
  obtain ⟨ts, htouches, hts⟩ := h.touches
  refine ⟨h.leads, ⟨ts, htouches.symm⟩, fun x hx => ?_, fun x hx hfresh l' hl' hid => ?_,
    fun x hx hfresh t ht hid => ?_⟩
  · rw [touchesOf, htouches]
    refine filter_append_of_ne fun t ht htx => ?_
    have hconflict := hclear _ (hts t ht).1 _ hx
    simp [Lock.conflicts, RowLock.conflicts, htx] at hconflict
  · rcases h.lead_new l' hl' with ⟨l, hl, hidl⟩ | hmine
    · exact hfresh l hl (hidl.trans hid)
    · have hconflict := hclear _ hmine _ hx
      simp [Lock.conflicts, hid] at hconflict
  · rw [htouches] at ht
    rcases mem_append.mp ht with ht | ht
    · exact hfresh t ht hid
    · have hconflict := hclear _ (hts t ht).2 _ hx
      simp [Lock.conflicts, hid] at hconflict

/-- The contract of the ledger, on a transaction of the floor. -/
def history (A : Type) : Contract Unit Pipeline Lock Raise A where
  inv := Touched
  rely := fun _ held db db' => Grown held db db'
  finds := fun _ _ _ => True
  ensures := fun _ held _ db db' => Grows held db db'
  mayRaise := fun _ _ => True

instance {A : Type} : (history A).Tolerant () := ⟨fun _ => trivial⟩

theorem history_regular (A : Type) : (history A).Regular () :=
  ⟨fun _ _ => .refl _ _, fun _ _ _ _ => .trans, fun _ _ _ _ => .mono⟩

/-! ## What keeps the ledger -/

section Keeps

variable {held : List Lock} {db db' : Pipeline}

theorem Adds.mem_leads (h : Adds ls ts db db') {l : Lead} (hl : l ∈ db'.leads) :
    (∃ k ∈ db.leads, k.place = l.place) ∨ ∃ k ∈ ls, k.place = l.place := by
  have hmem := mem_map_of_mem (f := Lead.place) hl
  rw [h.leads] at hmem
  rcases mem_append.mp hmem with hmem | hmem
  · exact .inl (mem_map.mp hmem)
  · exact .inr (mem_map.mp hmem)

theorem Adds.stays (h : Adds ls ts db db') :
    ∀ l ∈ db.leads, ∃ l' ∈ db'.leads, l'.place = l.place := by
  intro l hl
  have hmem : l.place ∈ db'.leads.map Lead.place := by
    rw [h.leads]
    exact mem_append_left _ (mem_map_of_mem hl)
  exact mem_map.mp hmem

theorem Adds.leadIds (h : Adds ls ts db db') :
    db'.leads.map (·.lead_id) = db.leads.map (·.lead_id) ++ ls.map (·.lead_id) := by
  have hfst := congrArg (List.map Prod.fst) h.leads
  rw [map_append, map_map, map_map, map_map] at hfst
  exact hfst

theorem place_id {k l : Lead} (h : k.place = l.place) : k.lead_id = l.lead_id :=
  congrArg Prod.fst h

/-- A new lead with its first touch, or none and a further touch, or nothing at all. -/
structure Extends (held : List Lock) (ls : List Lead) (ts : List LeadSourceTouch)
    (db : Pipeline) : Prop where
  leads : (ls.map (·.lead_id)).Nodup
  lead_fresh : ∀ l ∈ ls, (∀ k ∈ db.leads, k.lead_id ≠ l.lead_id) ∧
    Lock.index "leads_pkey" l.lead_id ∈ held
  touches : (ts.map (·.touch_id)).Nodup
  touch_fresh : ∀ t ∈ ts, (∀ u ∈ db.lead_source_touches, u.touch_id ≠ t.touch_id) ∧
    Lock.index "lead_source_touches_pkey" t.touch_id ∈ held ∧ Lock.lead t.lead_id .forUpdate ∈ held
  first : ∀ l ∈ ls, ∃ t ∈ ts, t.lead_id = l.lead_id
  numbered : ∀ x, (ts.filter fun t => t.lead_id = x).map (·.touch_seq) =
    List.range' ((touchesOf x db).length + 1) (ts.filter fun t => t.lead_id = x).length

theorem Extends.nothing : Extends held [] [] db :=
  ⟨nodup_nil, forall_mem_nil _, nodup_nil, forall_mem_nil _, forall_mem_nil _, fun _ => rfl⟩

theorem Touched.extend (h : Touched db) (hadds : Adds ls ts db db') (hext : Extends held ls ts db) :
    Touched db' ∧ Grows held db db' := by
  have hof : ∀ x, touchesOf x db' = touchesOf x db ++ ts.filter fun t => t.lead_id = x := by
    intro x
    rw [touchesOf, hadds.touches, filter_append, touchesOf]
  refine ⟨⟨?_, ?_, ?_, ?_⟩, hadds.stays, ?_, ts, hadds.touches, fun t ht => ?_⟩
  · rw [hadds.leadIds, nodup_append]
    refine ⟨h.leads, hext.leads, ?_⟩
    intro a ha b hb
    obtain ⟨k, hk, rfl⟩ := mem_map.mp ha
    obtain ⟨l, hl, rfl⟩ := mem_map.mp hb
    exact (hext.lead_fresh l hl).1 k hk
  · rw [hadds.touches, map_append, nodup_append]
    refine ⟨h.touches, hext.touches, ?_⟩
    intro a ha b hb
    obtain ⟨u, hu, rfl⟩ := mem_map.mp ha
    obtain ⟨t, ht, rfl⟩ := mem_map.mp hb
    exact (hext.touch_fresh t ht).1 u hu
  · intro l hl
    rw [hof]
    rcases hadds.mem_leads hl with ⟨k, hk, hplace⟩ | ⟨k, hk, hplace⟩
    · rw [← place_id hplace]
      exact append_ne_nil_of_left_ne_nil (h.each k hk) _
    · obtain ⟨t, ht, hlead⟩ := hext.first k hk
      refine append_ne_nil_of_right_ne_nil _ (ne_nil_of_mem (a := t) ?_)
      exact mem_filter.mpr ⟨ht, decide_eq_true (hlead.trans (place_id hplace))⟩
  · intro x
    rw [hof, map_append, length_append, h.numbered, hext.numbered, Nat.add_comm _ 1]
    exact range'_append_1
  · intro l hl
    rcases hadds.mem_leads hl with ⟨k, hk, hplace⟩ | ⟨k, hk, hplace⟩
    · exact .inl ⟨k, hk, place_id hplace⟩
    · exact .inr (place_id hplace ▸ (hext.lead_fresh k hk).2)
  · exact ⟨(hext.touch_fresh t ht).2.2, (hext.touch_fresh t ht).2.1⟩

end Keeps

/-! ## Operations that add no touch -/

section Writes

variable {w : CrmWorld} {α : Type}

theorem Aside.keepsHistory (a b : Pipeline) (h : Aside a b) : KeepsHistory a b := by
  obtain ⟨ps, is, rfl⟩ := h
  exact .of_eq rfl rfl

theorem keeps_select (f : Pipeline → α) :
    (Script.select f : Work α).Writes KeepsHistory := writes_select .refl f

theorem keeps_selectLocking (locks : Pipeline → List Lock) (f : Pipeline → α) :
    (Script.selectLocking locks f : Work α).Writes KeepsHistory :=
  writes_selectLocking .refl locks f

theorem keeps_execute {locks : Pipeline → List Lock} {accepts : Pipeline → Bool} {e : Raise}
    {write : Pipeline → Pipeline → Pipeline} {returning : Pipeline → α}
    (hleads : ∀ v d, (write v d).leads = d.leads)
    (htouches : ∀ v d, (write v d).lead_source_touches = d.lead_source_touches) :
    (Script.execute locks accepts e write returning : Work α).Writes KeepsHistory :=
  writes_execute (fun v d => .of_eq (hleads v d) (htouches v d)) _ _ _ _

variable (x : String)

theorem keeps_updateLead (version : Nat) {f : Lead → Lead}
    (hf : ∀ l, (f l).place = l.place) : (updateLead x version f).Writes KeepsHistory :=
  writes_execute (fun _ _ => .of_edit fun l _ => hf l) _ _ _ _

theorem keeps_insertStatusEvent (e : LeadStatusEvent) :
    (insertStatusEvent e).Writes KeepsHistory := keeps_execute (fun _ _ => rfl) fun _ _ => rfl

theorem keeps_insertActivity (a : LeadActivity) : (insertActivity w a).Writes KeepsHistory :=
  keeps_execute (fun _ _ => rfl) fun _ _ => rfl

theorem keeps_updateActivity (version : Nat) (f : LeadActivity → LeadActivity) :
    (updateActivity x version f).Writes KeepsHistory :=
  keeps_execute (fun _ _ => rfl) fun _ _ => rfl

theorem keeps_insertAppointment (a : Appointment) : (insertAppointment w a).Writes KeepsHistory :=
  keeps_execute (fun _ _ => rfl) fun _ _ => rfl

theorem keeps_advanceToAppointment : (advanceToAppointment x).Writes KeepsHistory :=
  writes_execute (fun _ _ => .of_edit fun _ _ => rfl) _ _ _ _

theorem keeps_insertHandoff (h : LeadHandoff) : (insertHandoff w h).Writes KeepsHistory :=
  keeps_execute (fun _ _ => rfl) fun _ _ => rfl

theorem keeps_insertAssignment (a : LeadAssignment) :
    (insertAssignment w a).Writes KeepsHistory := keeps_execute (fun _ _ => rfl) fun _ _ => rfl

theorem keeps_stampFirstResponseWithin :
    (stampFirstResponseWithin w x).Writes KeepsHistory :=
  writes_execute (fun _ _ => .of_edit fun _ _ => rfl) _ _ _ _

theorem keeps_logActivityWithin (input : ActivityInput) :
    (logActivityWithin w input).Writes KeepsHistory := by
  unfold logActivityWithin
  split
  · exact writes_pure _
  refine (writes_actorWithin _).bind fun _ => (keeps_selectLocking _ _).bind fun state => ?_
  split
  · exact writes_pure _
  refine writes_unless ?_
  refine (keeps_insertActivity _).bind fun _ => ?_
  split
  · exact (keeps_stampFirstResponseWithin _).bind fun _ =>
      (keeps_select _).bind fun _ => writes_pure _
  · exact (keeps_select _).bind fun _ => writes_pure _

theorem keeps_closeActivity (who x activityId : String) (version : Nat) (ending : ActivityEnd) :
    (closeActivity w who x activityId version ending).Writes KeepsHistory := by
  unfold closeActivity
  refine (writes_actorWithin _).bind fun _ => (keeps_selectLocking _ _).bind fun existing => ?_
  split
  · exact writes_pure _
  refine writes_unless ?_
  refine (keeps_selectLocking _ _).bind fun state => ?_
  split
  · exact writes_raise _
  refine writes_unless (writes_unless (writes_unless ?_))
  refine (keeps_updateActivity _ _ _).bind fun written => ?_
  split <;> exact writes_pure _

theorem keeps_scheduleAppointmentWithin (input : AppointmentInput) :
    (scheduleAppointmentWithin w input).Writes KeepsHistory := by
  unfold scheduleAppointmentWithin
  split
  · split
    · exact writes_pure _
    refine (writes_actorWithin _).bind fun _ => (keeps_selectLocking _ _).bind fun found => ?_
    split
    · exact writes_pure _
    refine writes_unless ?_
    refine (keeps_insertAppointment _).bind fun _ => Script.Writes.bind ?_ fun _ =>
      (keeps_advanceToAppointment _).bind fun advanced => ?_
    · exact keeps_execute (fun _ _ => rfl) fun _ _ => rfl
    split
    · exact writes_pure _
    · exact (keeps_insertStatusEvent _).bind fun _ => writes_pure _
  · exact writes_pure _

theorem keeps_transitionLead (who x : String) (toState : LeadState) (version : Nat)
    (disposition : Option LeadDisposition) (note : Option String) :
    (transitionLead w who x toState version disposition note).Writes KeepsHistory := by
  unfold transitionLead
  refine (writes_actorWithin _).bind fun _ => (keeps_selectLocking _ _).bind fun found => ?_
  split
  · exact writes_pure _
  dsimp only
  refine writes_unless ?_
  refine writes_unless ?_
  refine writes_unless ?_
  refine writes_unless ?_
  refine Script.Writes.bind (keeps_updateLead _ _ ?_) fun written => ?_
  · exact fun _ => rfl
  split
  · exact writes_pure _
  · exact (keeps_insertStatusEvent _).bind fun _ => writes_pure _

theorem keeps_handOffLead (who x : String) (version : Nat) (handedTo : String) :
    (handOffLead w who x version handedTo).Writes KeepsHistory := by
  unfold handOffLead
  refine (writes_actorWithin _).bind fun _ => (keeps_selectLocking _ _).bind fun found => ?_
  split
  · exact writes_pure _
  refine (keeps_select _).bind fun prior => ?_
  split
  · exact writes_pure _
  refine writes_unless (writes_unless ?_)
  refine Script.Writes.bind (keeps_updateLead _ _ ?_) fun written => ?_
  · exact fun _ => rfl
  split
  · exact writes_pure _
  · exact (keeps_insertHandoff _).bind fun _ => (keeps_insertStatusEvent _).bind fun _ => writes_pure _

theorem keeps_assignLead (input : AssignInput) : (assignLead w input).Writes KeepsHistory := by
  unfold assignLead
  refine writes_unless ?_
  refine (writes_actorWithin _).bind fun _ => (keeps_selectLocking _ _).bind fun found => ?_
  split
  · exact writes_pure _
  refine writes_unless (writes_unless (writes_unless ?_))
  refine (keeps_select _).bind fun refusal => ?_
  split
  · exact writes_pure _
  refine Script.Writes.bind (keeps_updateLead _ _ ?_) fun written => ?_
  · exact fun _ => rfl
  split
  · exact writes_pure _
  refine Script.Writes.bind ?_ fun _ =>
    (keeps_insertAssignment _).bind fun _ => writes_pure _
  unfold recordWorking
  split
  · exact keeps_insertStatusEvent _
  · exact writes_pure _

end Writes

/-! ## Soundness -/

section Sound

variable {held : List Lock} {pending : Pipeline → Pipeline} {db : Pipeline} {A : Type}

theorem sound_extension {a : A} (hp : ∀ x, Adds ls ts x (pending x))
    (h : ∀ d, Grown held db d → Touched d → Extends held ls ts d) :
    (history A).Sound () (pure a) held pending db :=
  fun d hr hi _ => hi.extend (hp d) (h d hr hi)

theorem sound_of_keeps (ls : List Lead) (ts : List LeadSourceTouch) {s : Work A}
    (hs : s.Writes KeepsHistory) (hp : ∀ x, Adds ls ts x (pending x))
    (h : ∀ more d, (∀ k ∈ held, k ∈ more) → Grown held db d → Touched d →
      Extends more ls ts d) : (history A).Sound () s held pending db := by
  induction s generalizing held pending db with
  | commit a => exact sound_extension hp fun d hr hi => h held d (fun _ hk => hk) hr hi
  | raise e => trivial
  | statement locks write next ih =>
    intro d hr _ _
    have hsub : ∀ k ∈ held, k ∈ locks (pending d) ++ held := fun k hk => mem_append_right _ hk
    refine ih (pending d) (hs.2 _) (fun x => ?_) fun more d' hmore hr' hi' => ?_
    · have hadds := (hp x).trans (hs.1 (pending d) (pending x))
      rwa [append_nil, append_nil] at hadds
    · exact h more d' (fun k hk => hmore k (hsub k hk)) (hr.trans (hr'.mono hsub)) hi'

theorem keeps_sound {s : Work A} (hs : s.Writes KeepsHistory)
    (hp : ∀ x, KeepsHistory x (pending x)) : (history A).Sound () s held pending db :=
  sound_of_keeps [] [] hs hp fun _ _ _ _ _ => .nothing

theorem recordSourceTouchWithin_sound {w : CrmWorld} {x source : String}
    {campaign : Option String} {channel : IntakeChannel} {first : Bool} (ls : List Lead)
    {f : Unit → Work A} (hf : (f ()).Writes KeepsHistory) (hp : ∀ y, Adds ls [] y (pending y))
    (hids : (ls.map (·.lead_id)).Nodup) (hfirst : ∀ l ∈ ls, l.lead_id = x)
    (hfresh : ∀ l ∈ ls, (∀ k ∈ db.leads, k.lead_id ≠ l.lead_id) ∧
      Lock.index "leads_pkey" l.lead_id ∈ held) :
    (history A).Sound () (recordSourceTouchWithin w x source campaign channel first >>= f)
      held pending db := by
  unfold recordSourceTouchWithin
  rw [Script.bind_assoc]
  refine sound_selectLocking_bind fun d₁ more₁ hsub₁ hlocks₁ hr₁ _ _ => ?_
  have hlock : Lock.lead x .forUpdate ∈ more₁ := hlocks₁ _ mem_cons_self
  refine sound_execute_bind fun d₂ more₂ hsub₂ hlocks₂ hr₂ hi₂ _ haccepted => ?_
  have hkey : Lock.index "lead_source_touches_pkey" w.newTouchId ∈ more₂ := hlocks₂ _ mem_cons_self
  have htouches : ∀ y, (pending y).lead_source_touches = y.lead_source_touches := fun y => by
    rw [(hp y).touches, append_nil]
  rw [Bool.and_eq_true, all_eq_true, htouches] at haccepted
  have hnew : ∀ u ∈ d₂.lead_source_touches, u.touch_id ≠ w.newTouchId :=
    fun u hu => of_decide_eq_true (haccepted.1 u hu)
  have hseq : nextTouchSeq x (pending d₂) = (touchesOf x d₂).length + 1 := by
    rw [← hi₂.nextTouchSeq, nextTouchSeq, htouches, nextTouchSeq]
  rw [hseq]
  refine sound_of_keeps ls
    [⟨w.newTouchId, x, source, campaign, (touchesOf x d₂).length + 1, channel, first⟩]
    hf (fun y => ?_) fun more d₃ hmore hr₃ hi₃ => ?_
  · have hadds := hp y
    exact ⟨hadds.leads, by rw [htouches]⟩
  · have hsame : touchesOf x d₃ = touchesOf x d₂ := hr₃.locked x (hsub₂ _ hlock)
    refine ⟨hids, fun l hl => ⟨?_, hmore _ (hsub₂ _ (hsub₁ _ (hfresh l hl).2))⟩,
      nodup_singleton _, fun t ht => ?_, fun l hl => ⟨_, mem_singleton_self _,
        (hfirst l hl).symm⟩, fun y => ?_⟩
    · have hgrown := hr₁.trans ((hr₂.trans (hr₃.mono hsub₂)).mono hsub₁)
      exact hgrown.lead_fresh _ (hfresh l hl).2 (hfresh l hl).1
    · rw [mem_singleton.mp ht]
      exact ⟨hr₃.touch_fresh _ hkey hnew, hmore _ hkey, hmore _ (hsub₂ _ hlock)⟩
    · rw [filter_singleton]
      by_cases hy : x = y
      · subst hy
        simp [hsame]
      · simp [hy]

section Capture

variable {casing : Casing} {w : CrmWorld} {input : LeadCaptureInput}
  {actor intakeKey sourceId partyId : String}

theorem keeps_recordIntake (i : LeadIntake) : (recordIntake i).Writes KeepsHistory :=
  (writes_recordIntake i).mono Aside.keepsHistory

theorem joinOpenLead_history {lead : Lead} (hp : ∀ x, KeepsHistory x (pending x)) :
    (history LeadCaptureOutcome).Sound ()
      (joinOpenLead casing w input actor intakeKey sourceId partyId lead) held pending db := by
  unfold joinOpenLead
  refine recordSourceTouchWithin_sound [] ?_ hp nodup_nil (forall_mem_nil _) (forall_mem_nil _)
  exact (keeps_recordIntake _).bind fun _ => writes_pure _

theorem createLead_history (hp : ∀ x, KeepsHistory x (pending x)) :
    (history LeadCaptureOutcome).Sound ()
      (createLead casing w input actor intakeKey sourceId partyId) held pending db := by
  unfold createLead
  refine sound_select_bind fun d₁ _ _ _ => ?_
  refine sound_execute_bind fun d₂ more hsub hlocks hr₂ hi₂ _ haccepted => ?_
  generalize hlead : newLead w input partyId sourceId _ = lead at haccepted hlocks
  have hfree : ∀ k ∈ (pending d₂).leads, k.lead_id ≠ lead.lead_id := by
    unfold Lead.insertable at haccepted
    simp only [Bool.and_eq_true, all_eq_true, decide_eq_true_eq] at haccepted
    exact haccepted.1.1.1.1
  refine recordSourceTouchWithin_sound [lead] ?_ (fun y => ?_) (nodup_singleton _)
    (fun l hl => by rw [mem_singleton.mp hl]) fun l hl => ?_
  · exact (keeps_recordIntake _).bind fun _ => writes_pure _
  · have hnew : Adds [lead] [] (pending y)
        { pending y with leads := (pending y).leads ++ [lead] } :=
      ⟨map_append, (append_nil _).symm⟩
    exact Adds.trans (hp y) hnew
  · rw [mem_singleton.mp hl]
    refine ⟨fun k hk hid => ?_, hlocks _ mem_cons_self⟩
    obtain ⟨k', hk', hplace⟩ := (hp d₂).stays k hk
    exact hfree k' hk' ((place_id hplace).trans hid)

/-- A capture commits a lead with its first touch, a further touch, or neither. -/
theorem captureLeadWithin_history (hp : ∀ x, KeepsHistory x (pending x)) :
    (history LeadCaptureOutcome).Sound () (captureLeadWithin casing w input) held pending db := by
  have hnothing : ∀ {held : List Lock} {pending : Pipeline → Pipeline} {db : Pipeline}
      {a : LeadCaptureOutcome}, (∀ x, KeepsHistory x (pending x)) →
        (history LeadCaptureOutcome).Sound () (pure a) held pending db :=
    fun hp => keeps_sound (writes_pure _) hp
  unfold captureLeadWithin
  dsimp only
  split
  · exact hnothing hp
  split
  · exact hnothing hp
  refine .bind_of_writes KeepsHistory.trans (history_regular _) (fun _ => trivial)
    (writes_actorWithin _) hp fun actor held pending d _ hp _ => ?_
  refine sound_selectLocking_bind fun d held _ _ _ _ _ => ?_
  split
  · exact keeps_sound ((writes_replayIntake _).mono Aside.keepsHistory) hp
  unfold captureFresh
  refine sound_select_bind fun d _ _ _ => ?_
  split
  · exact hnothing hp
  refine .bind_of_writes KeepsHistory.trans (history_regular _) (fun _ => trivial)
    ((writes_resolveParty actor).mono Aside.keepsHistory) hp
    fun resolved held pending d _ hp _ => ?_
  cases resolved with
  | invalid error =>
    exact keeps_sound ((keeps_recordIntake _).bind fun _ => writes_pure _) hp
  | party partyId =>
    dsimp only
    unfold decideOnInterest
    refine sound_selectLocking_bind fun d held _ _ _ _ _ => ?_
    refine sound_selectLocking_bind fun d held _ _ _ _ _ => ?_
    split
    · exact joinOpenLead_history hp
    · exact createLead_history hp

end Capture

theorem FloorCall.program_history (call : FloorCall) (db : Pipeline) :
    (history FloorAnswer).Sound () call.program [] (fun d => d) db := by
  cases call with
  | captureLead casing w input =>
    exact Contract.Sound.of_onAnswers (captureLeadWithin_history KeepsHistory.refl)
  | logActivity w input =>
    exact keeps_sound ((keeps_logActivityWithin input).bind fun _ => writes_pure _) .refl
  | closeActivity w who leadId activityId version ending =>
    exact keeps_sound ((keeps_closeActivity who leadId activityId version ending).bind
      fun _ => writes_pure _) .refl
  | scheduleAppointment w input =>
    exact keeps_sound ((keeps_scheduleAppointmentWithin input).bind fun _ => writes_pure _) .refl
  | transitionLead w who leadId toState version disposition note =>
    exact keeps_sound ((keeps_transitionLead who leadId toState version disposition note).bind
      fun _ => writes_pure _) .refl
  | handOffLead w who leadId version handedTo =>
    exact keeps_sound ((keeps_handOffLead who leadId version handedTo).bind
      fun _ => writes_pure _) .refl

end Sound

end Dealership.Crm
