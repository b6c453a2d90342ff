import Dealership.Crm.Lifecycle

/-!
# Finished leads, under interleaving

Six operations write about a lead while others close it or hand it over.  Some
lock the lead before they look at its state; three look first and write later: an
activity is logged, one is closed, and an enquiry joins an open lead, each on the
word of a read that locks nothing.

Every transaction promises the others where its writes stay (`Within`), and relies
on them for what it has locked or read to stand (`Steady`).  A plain read is relied
on like a lock: that is what the source does, and it is true in exactly the runs in
which nobody finishes a lead that somebody else has read so.
-/

namespace Dealership.Crm

open Library List

variable {x : String} {held : List Lock}

/-! ## The operations, as programs -/

inductive FloorCall where
  | captureLead (casing : Casing) (w : CrmWorld) (input : LeadCaptureInput)
  | logActivity (w : CrmWorld) (input : ActivityInput)
  | closeActivity (w : CrmWorld) (actingUserLinkId leadId activityId : String)
      (expectedVersion : Nat) (ending : ActivityEnd)
  | scheduleAppointment (w : CrmWorld) (input : AppointmentInput)
  | transitionLead (w : CrmWorld) (actingUserLinkId leadId : String) (toState : LeadState)
      (expectedVersion : Nat) (disposition : Option LeadDisposition) (note : Option String)
  | handOffLead (w : CrmWorld) (actingUserLinkId leadId : String) (expectedVersion : Nat)
      (handedToUserLinkId : String)

inductive FloorAnswer where
  | captured (outcome : LeadCaptureOutcome)
  | logged (outcome : ActivityOutcome)
  | activityClosed (outcome : ActivityCloseOutcome)
  | scheduled (outcome : AppointmentOutcome)
  | transitioned (outcome : LeadTransitionOutcome)
  | handedOff (outcome : HandoffOutcome)

def FloorCall.program : FloorCall → Work FloorAnswer
  | .captureLead casing w input => do pure (.captured (← captureLeadWithin casing w input))
  | .logActivity w input => do pure (.logged (← logActivityWithin w input))
  | .closeActivity w who leadId activityId version ending => do
    pure (.activityClosed (← Crm.closeActivity w who leadId activityId version ending))
  | .scheduleAppointment w input => do pure (.scheduled (← scheduleAppointmentWithin w input))
  | .transitionLead w who leadId toState version disposition note => do
    pure (.transitioned (← Crm.transitionLead w who leadId toState version disposition note))
  | .handOffLead w who leadId version handedTo => do
    pure (.handedOff (← Crm.handOffLead w who leadId version handedTo))

/-! ## Finished, and joined -/

structure Keyed (db : Pipeline) : Prop where
  leads : (db.leads.map (·.lead_id)).Nodup
  activities : (db.lead_activities.map (·.activity_id)).Nodup

structure SameWorkOn (leadId : String) (db db' : Pipeline) : Prop where
  activities : (db'.lead_activities.filter fun a => a.lead_id = leadId) =
    db.lead_activities.filter fun a => a.lead_id = leadId
  touches : (db'.lead_source_touches.filter fun t => t.lead_id = leadId) =
    db.lead_source_touches.filter fun t => t.lead_id = leadId
  appointments : (db'.appointments.filter fun a => a.lead_id = leadId) =
    db.appointments.filter fun a => a.lead_id = leadId

/-- A commit leaves the finished leads and the work on them as they are. -/
def LeavesFinished (before after : Pipeline) : Prop :=
  ∀ l ∈ before.leads, l.lifecycle_state.finished = true →
    l ∈ after.leads ∧ SameWorkOn l.lead_id before after

/-- A capture that answers it has joined a lead has put its touch on an open one. -/
def JoinsOpen (answer : FloorAnswer) (before after : Pipeline) : Prop :=
  ∀ lead party, answer = .captured (.merged_into_existing lead party false) →
    (∃ l ∈ before.leads, l.lead_id = lead.lead_id ∧ l.lifecycle_state.finished = false) ∧
      ∃ t : LeadSourceTouch, t.lead_id = lead.lead_id ∧
        after.lead_source_touches = before.lead_source_touches ++ [t]

def FloorCall.Finishes (l : Lead) : FloorCall → Prop
  | .transitionLead _ _ leadId toState version disposition _ =>
    leadId = l.lead_id ∧ version = l.authorization_version ∧ toState = .closed ∧ disposition ≠ none
  | .handOffLead _ _ leadId version _ =>
    leadId = l.lead_id ∧ version = l.authorization_version ∧
      .handed_off ∈ legalTransitions l.lifecycle_state
  | _ => False

/-- Nobody commits the end of an open lead while another transaction is under way
that has read it open and not locked it. -/
def FinishesUnread (S : Server FloorCall Pipeline Lock Raise FloorAnswer) :
    Event FloorCall → Prop
  | .turn i => ∀ s, S.session i = some s → (∃ a, s.script = .commit a) →
      ∀ l ∈ S.committed.leads, l.lifecycle_state.finished = false → s.call.Finishes l →
        ∀ j t, i ≠ j → S.session j = some t → Lock.lead l.lead_id .read ∉ t.held
  | _ => True

/-! ## The contract -/

/-- What a transaction relies on under the locks it holds, plain reads of open leads
among them. -/
structure Steady (held : List Lock) (db db' : Pipeline) : Prop where
  unfinished : ∀ l ∈ db.leads, l.lifecycle_state.finished = false →
    (∃ m, Lock.lead l.lead_id m ∈ held) →
      ∃ l' ∈ db'.leads, l'.lead_id = l.lead_id ∧ l'.lifecycle_state.finished = false
  row : ∀ l ∈ db.leads, Lock.lead l.lead_id .forUpdate ∈ held → l ∈ db'.leads
  lead_fresh : ∀ x, Lock.index "leads_pkey" x ∈ held → (∀ l ∈ db.leads, l.lead_id ≠ x) →
    ∀ l ∈ db'.leads, l.lead_id ≠ x
  activity : ∀ a ∈ db.lead_activities, ∃ a' ∈ db'.lead_activities,
    a'.activity_id = a.activity_id ∧ a'.lead_id = a.lead_id
  activity_fresh : ∀ x, Lock.index "lead_activities_pkey" x ∈ held →
    (∀ a ∈ db.lead_activities, a.activity_id ≠ x) → ∀ a ∈ db'.lead_activities, a.activity_id ≠ x

/-- Where the writes of a transaction stay. -/
structure Within (call : FloorCall) (held : List Lock) (db db' : Pipeline) : Prop where
  lead : ∀ l ∈ db.leads, ∃ l' ∈ db'.leads, l'.lead_id = l.lead_id ∧
    (l' = l ∨ l.lifecycle_state.finished = false ∧ Lock.lead l.lead_id .noKeyUpdate ∈ held) ∧
    (l.lifecycle_state.finished = false → l'.lifecycle_state.finished = true →
      call.Finishes l ∧ Lock.lead l.lead_id .forUpdate ∈ held)
  lead_new : ∀ l' ∈ db'.leads, (∃ l ∈ db.leads, l.lead_id = l'.lead_id) ∨
    Lock.index "leads_pkey" l'.lead_id ∈ held
  activity : ∀ a ∈ db.lead_activities, ∃ a' ∈ db'.lead_activities,
    a'.activity_id = a.activity_id ∧ a'.lead_id = a.lead_id
  activity_new : ∀ a' ∈ db'.lead_activities,
    (∃ a ∈ db.lead_activities, a.activity_id = a'.activity_id) ∨
      Lock.index "lead_activities_pkey" a'.activity_id ∈ held
  work : ∀ l ∈ db.leads, l.lifecycle_state.finished = true → SameWorkOn l.lead_id db db'

def floor : Contract FloorCall Pipeline Lock Raise FloorAnswer where
  inv := Keyed
  rely := fun _ held db db' => Steady held db db'
  finds := fun _ _ _ => True
  ensures := fun call held answer db db' => Within call held db db' ∧ JoinsOpen answer db db'
  mayRaise := fun _ _ => True

instance {c : FloorCall} : floor.Tolerant c := ⟨fun _ => trivial⟩

theorem Steady.refl (held : List Lock) (db : Pipeline) : Steady held db db :=
  ⟨fun l hl h _ => ⟨l, hl, rfl, h⟩, fun _ hl _ => hl, fun _ _ h => h,
    fun a ha => ⟨a, ha, rfl, rfl⟩, fun _ _ h => h⟩

theorem Steady.trans {a b c : Pipeline} (hab : Steady held a b)
    (hbc : Steady held b c) : Steady held a c := by
  refine ⟨?_, ?_, ?_, ?_, ?_⟩
  · intro l hl hopen ⟨m, hm⟩
    obtain ⟨k, hk, hid, hkopen⟩ := hab.unfinished l hl hopen ⟨m, hm⟩
    obtain ⟨j, hj, hid', hjopen⟩ := hbc.unfinished k hk hkopen ⟨m, hid ▸ hm⟩
    exact ⟨j, hj, hid'.trans hid, hjopen⟩
  · exact fun l hl hlock => hbc.row l (hab.row l hl hlock) hlock
  · exact fun x hx h => hbc.lead_fresh x hx (hab.lead_fresh x hx h)
  · intro r hr
    obtain ⟨s, hs, hid, hlead⟩ := hab.activity r hr
    obtain ⟨t, ht, hid', hlead'⟩ := hbc.activity s hs
    exact ⟨t, ht, hid'.trans hid, hlead'.trans hlead⟩
  · exact fun x hx h => hbc.activity_fresh x hx (hab.activity_fresh x hx h)

theorem Steady.mono {more : List Lock} {a b : Pipeline} (hsub : ∀ k ∈ held, k ∈ more)
    (h : Steady more a b) : Steady held a b :=
  ⟨fun l hl hopen ⟨m, hm⟩ => h.unfinished l hl hopen ⟨m, hsub _ hm⟩,
    fun l hl hlock => h.row l hl (hsub _ hlock),
    fun x hx => h.lead_fresh x (hsub _ hx), h.activity,
    fun x hx => h.activity_fresh x (hsub _ hx)⟩

theorem floor_regular (call : FloorCall) : floor.Regular call :=
  ⟨fun _ _ => .refl _ _, fun _ _ _ _ => .trans, fun _ _ _ _ => .mono⟩

/-- What one transaction writes is within what another relies on, when neither waits
for the other and a plain read of the other's is not of a lead the first finishes. -/
theorem Within.steady {call : FloorCall} {more : List Lock} {db db' : Pipeline}
    (h : Within call held db db') (hclear : ∀ k ∈ held, ∀ l ∈ more, k.conflicts l = false)
    (hread : ∀ l ∈ db.leads, l.lifecycle_state.finished = false → call.Finishes l →
      Lock.lead l.lead_id .read ∉ more) : Steady more db db' := by
  refine ⟨?_, ?_, ?_, h.activity, ?_⟩
  · intro l hl hopen ⟨m, hm⟩
    obtain ⟨l', hl', hid, -, hfinish⟩ := h.lead l hl
    refine ⟨l', hl', hid, ?_⟩
    by_contra hfinished
    rw [Bool.not_eq_false] at hfinished
    obtain ⟨hcall, hlock⟩ := hfinish hopen hfinished
    cases m with
    | read => exact hread l hl hopen hcall hm
    | keyShare | noKeyUpdate | forUpdate =>
      have hconflict := hclear _ hlock _ hm
      simp [Lock.conflicts, RowLock.conflicts] at hconflict
  · intro l hl hlock
    obtain ⟨l', hl', -, rfl | ⟨-, hmine⟩, -⟩ := h.lead l hl
    · exact hl'
    · have hconflict := hclear _ hmine _ hlock
      simp [Lock.conflicts, RowLock.conflicts] at hconflict
  · intro x hx hfresh l' hl' hid
    rcases h.lead_new l' hl' with ⟨l, hl, hidl⟩ | hmine
    · exact hfresh l hl (hidl.trans hid)
    · have hconflict := hclear _ hmine _ hx
      simp [Lock.conflicts, hid] at hconflict
  · intro x hx hfresh a' ha' hid
    rcases h.activity_new a' ha' with ⟨a, ha, hida⟩ | hmine
    · exact hfresh a ha (hida.trans hid)
    · have hconflict := hclear _ hmine _ hx
      simp [Lock.conflicts, hid] at hconflict

/-! ## Where writes stay -/

section Shapes

variable {call : FloorCall} {held : List Lock} {db db' : Pipeline}

/-- A transaction that leaves the leads and the work alone. -/
structure SameWork (db db' : Pipeline) : Prop where
  leads : db'.leads = db.leads
  activities : db'.lead_activities = db.lead_activities
  touches : db'.lead_source_touches = db.lead_source_touches
  appointments : db'.appointments = db.appointments

theorem SameWork.refl (db : Pipeline) : SameWork db db := ⟨rfl, rfl, rfl, rfl⟩

theorem SameWork.trans (a b c : Pipeline) (hab : SameWork a b) (hbc : SameWork b c) :
    SameWork a c :=
  ⟨hbc.leads.trans hab.leads, hbc.activities.trans hab.activities, hbc.touches.trans hab.touches,
    hbc.appointments.trans hab.appointments⟩

theorem Within.of_same (h : SameWork db db') : Within call held db db' := by
  refine ⟨?_, ?_, ?_, ?_, ?_⟩
  · intro l hl
    refine ⟨l, h.leads ▸ hl, rfl, .inl rfl, fun hopen hfinished => ?_⟩
    rw [hopen] at hfinished
    cases hfinished
  · exact fun l hl => .inl ⟨l, h.leads ▸ hl, rfl⟩
  · exact fun a ha => ⟨a, h.activities ▸ ha, rfl, rfl⟩
  · exact fun a ha => .inl ⟨a, h.activities ▸ ha, rfl⟩
  · intro l _ _
    exact ⟨by rw [h.activities], by rw [h.touches], by rw [h.appointments]⟩

theorem Keyed.of_same (hk : Keyed db) (h : SameWork db db') : Keyed db' :=
  ⟨h.leads ▸ hk.leads, h.activities ▸ hk.activities⟩

theorem filter_append_of_ne {α : Type} {xs ys : List α} {p : α → Prop} [DecidablePred p]
    (h : ∀ y ∈ ys, ¬ p y) : (xs ++ ys).filter (fun x => p x) = xs.filter fun x => p x := by
  have hnone : ys.filter (fun x => p x) = [] :=
    filter_eq_nil_iff.mpr fun y hy => by simpa using h y hy
  rw [filter_append, hnone, append_nil]

/-- A transaction that works on one lead, open at its commit: it may edit the lead
and add rows about it. -/
theorem Within.about {p : Lead → Prop} [DecidablePred p] {f : Lead → Lead} (as : List LeadActivity)
    (ts : List LeadSourceTouch) (bs : List Appointment)
    (hopen : ∀ l ∈ db.leads, l.lead_id = x → l.lifecycle_state.finished = false)
    (leads : db'.leads = updateWhere p f db.leads) (only : ∀ l, p l → l.lead_id = x)
    (id : ∀ l, (f l).lead_id = l.lead_id)
    (lock : ∀ l ∈ db.leads, p l → Lock.lead x .noKeyUpdate ∈ held)
    (finish : ∀ l ∈ db.leads, p l → (f l).lifecycle_state.finished = true →
      call.Finishes l ∧ Lock.lead x .forUpdate ∈ held)
    (activities : db'.lead_activities = db.lead_activities ++ as)
    (has : ∀ a ∈ as, a.lead_id = x ∧ Lock.index "lead_activities_pkey" a.activity_id ∈ held)
    (touches : db'.lead_source_touches = db.lead_source_touches ++ ts)
    (hts : ∀ t ∈ ts, t.lead_id = x) (appointments : db'.appointments = db.appointments ++ bs)
    (hbs : ∀ b ∈ bs, b.lead_id = x) : Within call held db db' := by
  refine ⟨?_, ?_, ?_, ?_, ?_⟩
  · intro l hl
    rw [leads]
    by_cases hp : p l
    · have hx := only l hp
      refine ⟨f l, mem_updateWhere_of_pos hl hp, id l, .inr ⟨hopen l hl hx, hx ▸ lock l hl hp⟩, ?_⟩
      intro _ hfinished
      exact hx.symm ▸ finish l hl hp hfinished
    · refine ⟨l, mem_updateWhere_of_neg hl hp, rfl, .inl rfl, fun h h' => ?_⟩
      rw [h] at h'
      cases h'
  · intro l' hl'
    rw [leads] at hl'
    rcases updateWhere_cases hl' with ⟨hl, -⟩ | ⟨l, hl, -, rfl⟩
    · exact .inl ⟨l', hl, rfl⟩
    · exact .inl ⟨l, hl, (id l).symm⟩
  · exact fun a ha => ⟨a, activities ▸ mem_append_left _ ha, rfl, rfl⟩
  · intro a ha
    rw [activities] at ha
    rcases mem_append.mp ha with ha | ha
    · exact .inl ⟨a, ha, rfl⟩
    · exact .inr (has a ha).2
  · intro l hl hfinished
    have hne : l.lead_id ≠ x := by
      intro hx
      rw [hopen l hl hx] at hfinished
      cases hfinished
    refine ⟨?_, ?_, ?_⟩
    · rw [activities]
      exact filter_append_of_ne fun a ha h => hne (h.symm.trans (has a ha).1)
    · rw [touches]
      exact filter_append_of_ne fun t ht h => hne (h.symm.trans (hts t ht))
    · rw [appointments]
      exact filter_append_of_ne fun b hb h => hne (h.symm.trans (hbs b hb))

end Shapes

/-! ## What stands while a transaction is under way -/

section Stands

variable {held more : List Lock} {db db' : Pipeline} {cur : Lead}

/-- The lead is open, and that it is has been read or locked. -/
structure OpenUnder (x : String) (held : List Lock) (db : Pipeline) : Prop where
  seen : ∃ m, Lock.lead x m ∈ held
  found : ∃ l ∈ db.leads, l.lead_id = x ∧ l.lifecycle_state.finished = false

theorem OpenUnder.steady (h : OpenUnder x held db) (hs : Steady held db db')
    (hsub : ∀ k ∈ held, k ∈ more) : OpenUnder x more db' := by
  obtain ⟨⟨m, hm⟩, l, hl, rfl, hopen⟩ := h
  obtain ⟨l', hl', hid, hopen'⟩ := hs.unfinished l hl hopen ⟨m, hm⟩
  exact ⟨⟨m, hsub _ hm⟩, l', hl', hid, hopen'⟩

theorem OpenUnder.all (h : OpenUnder x held db) (hk : Keyed db) :
    ∀ l ∈ db.leads, l.lead_id = x → l.lifecycle_state.finished = false := by
  obtain ⟨-, k, hk', hid, hopen⟩ := h
  intro l hl hlx
  rw [eq_of_key hk.leads hl hk' (hlx.trans hid.symm)]
  exact hopen

/-- The lead is locked and stands as it was read. -/
structure RowUnder (cur : Lead) (held : List Lock) (db : Pipeline) : Prop where
  locked : Lock.lead cur.lead_id .forUpdate ∈ held
  found : cur ∈ db.leads

theorem RowUnder.steady (h : RowUnder cur held db) (hs : Steady held db db')
    (hsub : ∀ k ∈ held, k ∈ more) : RowUnder cur more db' :=
  ⟨hsub _ h.locked, hs.row cur h.found h.locked⟩

theorem RowUnder.eq (h : RowUnder cur held db) (hk : Keyed db) {l : Lead} (hl : l ∈ db.leads)
    (hid : l.lead_id = cur.lead_id) : l = cur :=
  eq_of_key hk.leads hl h.found hid

theorem RowUnder.readLead (h : RowUnder cur held db) (hk : Keyed db) :
    Crm.readLead cur.lead_id db = some cur :=
  find?_eq_some_of_key hk.leads h.found

theorem RowUnder.openUnder (h : RowUnder cur held db)
    (hopen : cur.lifecycle_state.finished = false) : OpenUnder cur.lead_id held db :=
  ⟨⟨_, h.locked⟩, cur, h.found, rfl, hopen⟩

structure ActivityFree (x : String) (held : List Lock) (db : Pipeline) : Prop where
  locked : Lock.index "lead_activities_pkey" x ∈ held
  free : ∀ a ∈ db.lead_activities, a.activity_id ≠ x

theorem ActivityFree.steady (h : ActivityFree x held db) (hs : Steady held db db')
    (hsub : ∀ k ∈ held, k ∈ more) : ActivityFree x more db' :=
  ⟨hsub _ h.locked, hs.activity_fresh x h.locked h.free⟩

/-- The entry of a new lead is locked and free. -/
structure LeadFree (x : String) (held : List Lock) (db : Pipeline) : Prop where
  locked : Lock.index "leads_pkey" x ∈ held
  free : ∀ l ∈ db.leads, l.lead_id ≠ x

theorem LeadFree.steady (h : LeadFree x held db) (hs : Steady held db db')
    (hsub : ∀ k ∈ held, k ∈ more) : LeadFree x more db' :=
  ⟨hsub _ h.locked, hs.lead_fresh x h.locked h.free⟩

end Stands

/-! ## The operations keep the contract -/

section Sound

variable {call : FloorCall} {held : List Lock} {pending : Pipeline → Pipeline} {db : Pipeline}
  {w : CrmWorld} {α : Type} {g : α → FloorAnswer}

theorem Aside.sameWork (a b : Pipeline) (h : Aside a b) : SameWork a b := by
  obtain ⟨ps, is, rfl⟩ := h
  exact ⟨rfl, rfl, rfl, rfl⟩

theorem joinsOpen_of_ne {answer : FloorAnswer} (h : ∀ o, answer ≠ .captured o)
    (before after : Pipeline) : JoinsOpen answer before after :=
  fun _ _ hanswer => absurd hanswer (h _)

theorem sound_nothing {a : α} (hp : ∀ x, SameWork x (pending x)) (ha : ∀ x y, JoinsOpen (g a) x y) :
    (floor.onAnswers g).Sound call (pure a) held pending db := by
  intro d _ hd _
  exact ⟨hd.of_same (hp d), .of_same (hp d), ha d (pending d)⟩

theorem sound_actor {who : String} {f : String → Work α} (hp : ∀ x, SameWork x (pending x))
    (h : ∀ actor held pending d, (∀ x, SameWork x (pending x)) →
      (floor.onAnswers g).Sound call (f actor) held pending d) :
    (floor.onAnswers g).Sound call (actorWithin w who >>= f) held pending db :=
  .bind_of_writes SameWork.trans (floor_regular call).onAnswers (fun _ => trivial)
    (writes_actorWithin who) hp fun actor held' pending' d' _ hp' _ => h actor held' pending' d' hp'

theorem readLead_same (h : SameWork db (pending db)) : readLead x (pending db) = readLead x db := by
  rw [readLead, readLead, h.leads]

section Statements

variable {α β : Type} {g : α → FloorAnswer} {k : β → Work α}

theorem sound_select {f : Pipeline → β} (h : ∀ d, Steady held db d → Keyed d →
      (floor.onAnswers g).Sound call (k (f (pending d))) held pending d) :
    (floor.onAnswers g).Sound call (Script.select f >>= k) held pending db :=
  sound_select_bind fun d hr hd _ => h d hr hd

theorem sound_selectLocking {locks : Pipeline → List Lock} {f : Pipeline → β}
    (h : ∀ d more, (∀ l ∈ held, l ∈ more) → (∀ l ∈ locks (pending d), l ∈ more) →
      Steady held db d → Keyed d →
        (floor.onAnswers g).Sound call (k (f (pending d))) more pending d) :
    (floor.onAnswers g).Sound call (Script.selectLocking locks f >>= k) held pending db :=
  sound_selectLocking_bind fun d more hsub hlocks hr hd _ => h d more hsub hlocks hr hd

theorem sound_execute {locks : Pipeline → List Lock} {accepts : Pipeline → Bool} {e : Raise}
    {write : Pipeline → Pipeline → Pipeline} {returning : Pipeline → β}
    (h : ∀ d more, (∀ l ∈ held, l ∈ more) → (∀ l ∈ locks (pending d), l ∈ more) →
      Steady held db d → Keyed d → accepts (pending d) = true →
        (floor.onAnswers g).Sound call (k (returning (pending d))) more
          (fun x => write (pending d) (pending x)) d) :
    (floor.onAnswers g).Sound call (Script.execute locks accepts e write returning >>= k) held
      pending db :=
  sound_execute_bind fun d more hsub hlocks hr hd _ =>
    h d more hsub hlocks hr hd

end Statements

theorem sound_readLifecycleState {f : Option LeadState → Work α} (hp : ∀ y, SameWork y (pending y))
    (h : ∀ o more d, (∀ k ∈ held, k ∈ more) → Steady held db d →
      (∀ state, o = some state → state.finished = false → OpenUnder x more d) →
        (floor.onAnswers g).Sound call (f o) more pending d) :
    (floor.onAnswers g).Sound call (readLifecycleState x >>= f) held pending db := by
  unfold readLifecycleState
  refine sound_selectLocking fun d more hsub hlocks hr hk => ?_
  refine h _ more d hsub hr ?_
  rw [readLead_same (hp d)]
  intro state hstate hopen
  obtain ⟨cur, hcur, rfl⟩ := Option.map_eq_some_iff.mp hstate
  obtain ⟨hmem, hid⟩ := readLead_eq_some hcur
  refine ⟨⟨.read, hlocks _ ?_⟩, cur, hmem, hid, hopen⟩
  rw [readLead_same (hp d), hcur, if_pos (by simp [hopen])]
  exact mem_singleton_self _

/-- An edit by a condition that no row meets edits nothing. -/
theorem updateWhere_false (f : Lead → Lead) (ls : List Lead) :
    updateWhere (fun _ => False) f ls = ls :=
  updateWhere_of_forall_not fun _ _ => id

theorem commits_activity {d d' : Pipeline} {a : LeadActivity} {p : Lead → Prop} [DecidablePred p]
    (hk : Keyed d) (hseen : OpenUnder a.lead_id held d) (hfree : ActivityFree a.activity_id held d)
    (leads : d'.leads = updateWhere p (fun l => { l with first_response_at := some w.now }) d.leads)
    (only : ∀ l, p l → l.lead_id = a.lead_id)
    (lock : ∀ l, p l → Lock.lead a.lead_id .noKeyUpdate ∈ held)
    (activities : d'.lead_activities = d.lead_activities ++ [a])
    (touches : d'.lead_source_touches = d.lead_source_touches)
    (appointments : d'.appointments = d.appointments) :
    Keyed d' ∧ Within call held d d' := by
  have hopen := hseen.all hk
  refine ⟨⟨?_, ?_⟩, ?_⟩
  · rw [leads]
    exact nodup_map_updateWhere hk.leads fun _ _ => rfl
  · rw [activities]
    exact nodup_key_insert hk.activities hfree.free
  · refine .about [a] [] [] hopen leads only (fun _ => rfl) (fun l _ => lock l) ?_
      activities ?_ ?_ (forall_mem_nil _) ?_ (forall_mem_nil _)
    · intro l hl hp hfinished
      rw [hopen l hl (only l hp)] at hfinished
      cases hfinished
    · intro b hb
      rw [mem_singleton.mp hb]
      exact ⟨rfl, hfree.locked⟩
    · rw [touches, append_nil]
    · rw [appointments, append_nil]

theorem logActivityWithin_sound (input : ActivityInput) (hp : ∀ x, SameWork x (pending x)) :
    (floor.onAnswers .logged).Sound call (logActivityWithin w input) held pending db := by
  have hanswer : ∀ (o : ActivityOutcome) (x y : Pipeline), JoinsOpen (.logged o) x y :=
    fun o => joinsOpen_of_ne fun o' h => by cases h
  unfold logActivityWithin
  split
  · exact sound_nothing hp (hanswer _)
  refine sound_actor hp fun _ held pending d hp => ?_
  refine sound_readLifecycleState hp fun o held d _ _ hseen => ?_
  cases o with
  | none => exact sound_nothing hp (hanswer _)
  | some state =>
    dsimp only
    split
    · exact sound_nothing hp (hanswer _)
    rename_i hopen
    have hseen := hseen state rfl (Bool.not_eq_true _ ▸ hopen)
    refine sound_execute fun d held hsub hlocks hr hk haccepted => ?_
    replace hseen := hseen.steady hr hsub
    simp only [Bool.and_eq_true, all_eq_true, decide_eq_true_eq, (hp d).activities]
      at haccepted
    have hfree : ActivityFree w.newActivityId held d := ⟨hlocks _ mem_cons_self, haccepted.1.1.1⟩
    split
    · refine sound_execute fun d held hsub hlocks hr hk _ => ?_
      replace hseen := hseen.steady hr hsub
      replace hfree := hfree.steady hr hsub
      refine sound_select fun d hr hk => ?_
      replace hseen := hseen.steady hr fun _ h => h
      replace hfree := hfree.steady hr fun _ h => h
      intro e hr hk _
      replace hseen := hseen.steady hr fun _ h => h
      replace hfree := hfree.steady hr fun _ h => h
      have hlead : Lock.lead input.leadId .noKeyUpdate ∈ held := hlocks _ mem_cons_self
      refine and_assoc.mp ⟨commits_activity (a := newActivity w input) (w := w)
        (p := fun l => l.lead_id = input.leadId ∧ l.first_response_at = none)
        hk hseen hfree ?_ (fun _ h => h.1) (fun _ _ => hlead) ?_ (hp e).touches
        (hp e).appointments, hanswer _ _ _⟩
      · exact congrArg (updateWhere _ _) (hp e).leads
      · exact congrArg (· ++ [newActivity w input]) (hp e).activities
    · refine sound_select fun d hr hk => ?_
      replace hseen := hseen.steady hr fun _ h => h
      replace hfree := hfree.steady hr fun _ h => h
      intro e hr hk _
      replace hseen := hseen.steady hr fun _ h => h
      replace hfree := hfree.steady hr fun _ h => h
      refine and_assoc.mp ⟨commits_activity (a := newActivity w input) (w := w)
        (p := fun _ => False) hk hseen hfree ?_ (fun _ h => h.elim) (fun _ h => h.elim) ?_
        (hp e).touches (hp e).appointments, hanswer _ _ _⟩
      · exact (hp e).leads.trans (updateWhere_false _ _).symm
      · exact congrArg (· ++ [newActivity w input]) (hp e).activities

theorem commits_change {d d' : Pipeline} {p : LeadActivity → Prop} [DecidablePred p]
    {f : LeadActivity → LeadActivity} (hk : Keyed d)
    (hopen : ∀ l ∈ d.leads, l.lead_id = x → l.lifecycle_state.finished = false)
    (only : ∀ a ∈ d.lead_activities, p a → a.lead_id = x)
    (id : ∀ a, (f a).activity_id = a.activity_id) (lead : ∀ a, (f a).lead_id = a.lead_id)
    (leads : d'.leads = d.leads)
    (activities : d'.lead_activities = updateWhere p f d.lead_activities)
    (touches : d'.lead_source_touches = d.lead_source_touches)
    (appointments : d'.appointments = d.appointments) : Keyed d' ∧ Within call held d d' := by
  refine ⟨⟨?_, ?_⟩, ?_, ?_, ?_, ?_, ?_⟩
  · rw [leads]
    exact hk.leads
  · rw [activities]
    exact nodup_map_updateWhere hk.activities fun a _ => id a
  · intro l hl
    refine ⟨l, leads ▸ hl, rfl, .inl rfl, fun h h' => ?_⟩
    rw [h] at h'
    cases h'
  · exact fun l hl => .inl ⟨l, leads ▸ hl, rfl⟩
  · intro a ha
    rw [activities]
    by_cases hp : p a
    · exact ⟨f a, mem_updateWhere_of_pos ha hp, id a, lead a⟩
    · exact ⟨a, mem_updateWhere_of_neg ha hp, rfl, rfl⟩
  · intro a ha
    rw [activities] at ha
    rcases updateWhere_cases ha with ⟨ha, -⟩ | ⟨b, hb, -, rfl⟩
    · exact .inl ⟨a, ha, rfl⟩
    · exact .inl ⟨b, hb, (id b).symm⟩
  · intro l hl hfinished
    have hne : l.lead_id ≠ x := by
      intro hx
      rw [hopen l hl hx] at hfinished
      cases hfinished
    refine ⟨?_, by rw [touches], by rw [appointments]⟩
    rw [activities]
    exact filter_key_updateWhere (fun a ha hp => only a ha hp ▸ Ne.symm hne) lead

theorem closeActivity_sound (who leadId activityId : String) (version : Nat)
    (ending : ActivityEnd) (hp : ∀ x, SameWork x (pending x)) :
    (floor.onAnswers .activityClosed).Sound call
      (closeActivity w who leadId activityId version ending) held pending db := by
  have hanswer : ∀ (o : ActivityCloseOutcome) (x y : Pipeline), JoinsOpen (.activityClosed o) x y :=
    fun o => joinsOpen_of_ne fun o' h => by cases h
  unfold closeActivity
  refine sound_actor hp fun _ held pending d hp => ?_
  refine sound_selectLocking fun d held _ _ hr hk => ?_
  rw [(hp d).activities]
  cases hfound : d.lead_activities.find? fun a => a.activity_id = activityId with
  | none => exact sound_nothing hp (hanswer _)
  | some current =>
    dsimp only
    split
    · exact sound_nothing hp (hanswer _)
    refine sound_readLifecycleState hp fun o held d' _ hr hseen => ?_
    obtain ⟨hmem, hid⟩ := of_find?_eq_some hfound
    obtain ⟨current', hmem', hid', hlead'⟩ := hr.activity current hmem
    cases o with
    | none => trivial
    | some state =>
      dsimp only
      split
      · exact sound_nothing hp (hanswer _)
      rename_i hopen
      have hseen := hseen state rfl (Bool.not_eq_true _ ▸ hopen)
      split
      · exact sound_nothing hp (hanswer _)
      split
      · exact sound_nothing hp (hanswer _)
      refine sound_execute fun d held hsub _ hr hk _ => ?_
      replace hseen := hseen.steady hr hsub
      obtain ⟨c, hc, hcid, hclead⟩ := hr.activity current' hmem'
      have hcommit : ∀ o, (floor.onAnswers .activityClosed).Sound call
          (pure o : Work ActivityCloseOutcome) held
          (fun x => { pending x with
            lead_activities := updateWhere
              (fun a : LeadActivity => a.activity_id = activityId ∧
                a.authorization_version = version)
              (LeadActivity.close w ending) (pending x).lead_activities }) d := by
        intro o e hr hk _
        replace hseen := hseen.steady hr fun _ h => h
        obtain ⟨b, hb, hbid, hblead⟩ := hr.activity c hc
        -- Whatever row carries the id belongs to the lead that was found open.
        have hrow : ∀ a ∈ e.lead_activities, a.activity_id = activityId →
            a.lead_id = current.lead_id := by
          intro a ha haid
          have hab : a = b := eq_of_key hk.activities ha hb (by rw [haid, hbid, hcid, hid', hid])
          rw [hab, hblead, hclead, hlead']
        refine and_assoc.mp ⟨commits_change (p := fun a => a.activity_id = activityId ∧
          a.authorization_version = version) (f := LeadActivity.close w ending) hk
          (hseen.all hk) (fun a ha hp => hrow a ha hp.1) (fun _ => rfl) (fun _ => rfl)
          (hp e).leads ?_ (hp e).touches (hp e).appointments, hanswer _ _ _⟩
        exact congrArg (updateWhere _ _) (hp e).activities
      split
      · exact hcommit _
      · exact hcommit _

theorem sound_commitsRow {a : α} {cur : Lead} {p : Lead → Prop} [DecidablePred p] {f : Lead → Lead}
    (bs : List Appointment) (hrow : RowUnder cur held db)
    (hopen : cur.lifecycle_state.finished = false)
    (lock : Lock.lead cur.lead_id .noKeyUpdate ∈ held) (id : ∀ l, (f l).lead_id = l.lead_id)
    (finish : p cur → (f cur).lifecycle_state.finished = true → call.Finishes cur)
    (leads : ∀ d, (pending d).leads =
      updateWhere (fun l => l.lead_id = cur.lead_id ∧ p l) f d.leads)
    (activities : ∀ d, (pending d).lead_activities = d.lead_activities)
    (touches : ∀ d, (pending d).lead_source_touches = d.lead_source_touches)
    (appointments : ∀ d, (pending d).appointments = d.appointments ++ bs)
    (hbs : ∀ b ∈ bs, b.lead_id = cur.lead_id) (ha : ∀ x y, JoinsOpen (g a) x y) :
    (floor.onAnswers g).Sound call (pure a) held pending db := by
  intro d hr hk _
  replace hrow := hrow.steady hr fun _ h => h
  have hall := (hrow.openUnder hopen).all hk
  refine ⟨⟨?_, activities d ▸ hk.activities⟩, ?_, ha _ _⟩
  · rw [leads]
    exact nodup_map_updateWhere hk.leads fun l _ => id l
  · refine .about [] [] bs hall (leads d) (fun _ h => h.1) id (fun _ _ _ => lock) ?_ ?_
      (forall_mem_nil _) ?_ (forall_mem_nil _) (appointments d) hbs
    · intro l hl hp hfinished
      obtain rfl := hrow.eq hk hl hp.1
      exact ⟨finish hp.2 hfinished, hrow.locked⟩
    · rw [activities, append_nil]
    · rw [touches, append_nil]

theorem sound_lockLead {f : Option Lead → Work α} (hp : ∀ y, SameWork y (pending y))
    (h : ∀ o more d, Keyed d → (∀ cur, o = some cur → cur.lead_id = x ∧ RowUnder cur more d) →
      (floor.onAnswers g).Sound call (f o) more pending d) : (floor.onAnswers g).Sound call
      (Script.selectLocking (fun _ => [Lock.lead x .forUpdate]) (readLead x) >>= f) held pending
      db := by
  refine sound_selectLocking fun d more hsub hlocks hr hk => h _ more d hk ?_
  rw [readLead_same (hp d)]
  intro cur hcur
  obtain ⟨hmem, rfl⟩ := readLead_eq_some hcur
  exact ⟨rfl, hlocks _ mem_cons_self, hmem⟩

theorem updateLead_sound {cur : Lead} {f : Lead → Lead} {k : Option Lead → Work α}
    (hp : ∀ y, SameWork y (pending y)) (hrow : RowUnder cur held db)
    (h : ∀ d more, Lock.lead cur.lead_id .noKeyUpdate ∈ more → RowUnder cur more d →
      (floor.onAnswers g).Sound call (k (some (f cur))) more (fun y => { pending y with
        leads := updateWhere (fun l : Lead => l.lead_id = cur.lead_id ∧
          l.authorization_version = cur.authorization_version) f (pending y).leads }) d) :
    (floor.onAnswers g).Sound call
      (updateLead cur.lead_id cur.authorization_version f >>= k) held pending db := by
  refine sound_execute fun d more hsub hlocks hr hk _ => ?_
  replace hrow := hrow.steady hr hsub
  rw [(hp d).leads, find?_lead hk.leads (hrow.readLead hk)
    (p := fun l => l.authorization_version = cur.authorization_version) (by simp)]
  exact h d more (hlocks _ mem_cons_self) hrow

theorem transitionLead_sound (who x : String) (toState : LeadState) (version : Nat)
    (disposition : Option LeadDisposition) (note : Option String)
    (hcall : ∀ l : Lead, l.lead_id = x → l.authorization_version = version → toState = .closed →
      disposition ≠ none → call.Finishes l) (hp : ∀ y, SameWork y (pending y)) :
    (floor.onAnswers .transitioned).Sound call
      (transitionLead w who x toState version disposition note) held pending db := by
  have hanswer : ∀ (o : LeadTransitionOutcome) (x y : Pipeline), JoinsOpen (.transitioned o) x y :=
    fun o => joinsOpen_of_ne fun o' h => by cases h
  unfold transitionLead
  refine sound_actor hp fun actor held pending d hp => ?_
  refine sound_lockLead hp fun o held d _ hfound => ?_
  cases o with
  | none => exact sound_nothing hp (hanswer _)
  | some cur =>
    obtain ⟨rfl, hrow⟩ := hfound cur rfl
    dsimp only
    split
    · exact sound_nothing hp (hanswer _)
    rename_i hversion
    rw [not_not] at hversion
    subst hversion
    split
    · exact sound_nothing hp (hanswer _)
    rename_i hallowed
    rw [not_not] at hallowed
    split
    · exact sound_nothing hp (hanswer _)
    rename_i hreason
    split
    · exact sound_nothing hp (hanswer _)
    rename_i hnot_handed
    refine updateLead_sound hp hrow fun d held hlock hrow => ?_
    refine sound_execute fun d held hsub _ hr hk _ => ?_
    refine sound_commitsRow
      (p := fun l => l.authorization_version = cur.authorization_version) []
      (hrow.steady hr hsub) (unfinished_of_legal hallowed) (hsub _ hlock) ?_ ?_
      (fun e => congrArg (updateWhere _ _) (hp e).leads) (fun e => (hp e).activities)
      (fun e => (hp e).touches) (fun e => (hp e).appointments.trans (append_nil _).symm)
      (forall_mem_nil _) (hanswer _)
    · exact fun _ => rfl
    · intro _ hfinished
      have hclosed : toState = .closed := by
        dsimp only at hfinished
        revert hallowed hfinished hnot_handed
        cases toState <;> simp [LeadState.finished]
      refine hcall cur rfl rfl hclosed ?_
      simpa [hclosed] using hreason

theorem handOffLead_sound (who x : String) (version : Nat) (handedTo : String)
    (hcall : ∀ l : Lead, l.lead_id = x → l.authorization_version = version →
      .handed_off ∈ legalTransitions l.lifecycle_state → call.Finishes l)
    (hp : ∀ y, SameWork y (pending y)) :
    (floor.onAnswers .handedOff).Sound call (handOffLead w who x version handedTo) held pending
      db := by
  have hanswer : ∀ (o : HandoffOutcome) (x y : Pipeline), JoinsOpen (.handedOff o) x y :=
    fun o => joinsOpen_of_ne fun o' h => by cases h
  unfold handOffLead
  refine sound_actor hp fun actor held pending d hp => ?_
  refine sound_lockLead hp fun o held d _ hfound => ?_
  cases o with
  | none => exact sound_nothing hp (hanswer _)
  | some cur =>
    obtain ⟨rfl, hrow⟩ := hfound cur rfl
    refine sound_select fun d hr hk => ?_
    replace hrow := hrow.steady hr fun _ h => h
    split
    · exact sound_nothing hp (hanswer _)
    split
    · exact sound_nothing hp (hanswer _)
    rename_i hversion
    rw [not_not] at hversion
    subst hversion
    split
    · exact sound_nothing hp (hanswer _)
    rename_i hallowed
    rw [not_not] at hallowed
    refine updateLead_sound hp hrow fun d held hlock hrow => ?_
    refine sound_execute fun d held hsub _ hr hk _ => ?_
    replace hrow := hrow.steady hr hsub
    replace hlock := hsub _ hlock
    refine sound_execute fun d held hsub _ hr hk _ => ?_
    refine sound_commitsRow
      (p := fun l => l.authorization_version = cur.authorization_version) []
      (hrow.steady hr hsub) (unfinished_of_legal hallowed) (hsub _ hlock) ?_ ?_
      (fun e => congrArg (updateWhere _ _) (hp e).leads) (fun e => (hp e).activities)
      (fun e => (hp e).touches) (fun e => (hp e).appointments.trans (append_nil _).symm)
      (forall_mem_nil _) (hanswer _)
    · exact fun _ => rfl
    · exact fun _ _ => hcall cur rfl rfl hallowed

theorem scheduleAppointmentWithin_sound (input : AppointmentInput)
    (hp : ∀ y, SameWork y (pending y)) :
    (floor.onAnswers .scheduled).Sound call (scheduleAppointmentWithin w input) held pending
      db := by
  have hanswer : ∀ (o : AppointmentOutcome) (x y : Pipeline), JoinsOpen (.scheduled o) x y :=
    fun o => joinsOpen_of_ne fun o' h => by cases h
  unfold scheduleAppointmentWithin
  split
  rotate_left
  · exact sound_nothing hp (hanswer _)
  split
  · exact sound_nothing hp (hanswer _)
  refine sound_actor hp fun actor held pending d hp => ?_
  refine sound_lockLead hp fun o held d _ hfound => ?_
  cases o with
  | none => exact sound_nothing hp (hanswer _)
  | some cur =>
    obtain ⟨hid, hrow⟩ := hfound cur rfl
    dsimp only
    split
    · exact sound_nothing hp (hanswer _)
    rename_i hopen
    rw [Bool.not_eq_true] at hopen
    refine sound_execute fun d held hsub _ hr hk _ => ?_
    replace hrow := hrow.steady hr hsub
    refine sound_execute fun d held hsub _ hr hk _ => ?_
    replace hrow := hrow.steady hr hsub
    refine sound_execute fun d held hsub hlocks hr hk _ => ?_
    replace hrow := hrow.steady hr hsub
    have hlock : Lock.lead cur.lead_id .noKeyUpdate ∈ held := hid ▸ hlocks _ mem_cons_self
    split
    on_goal 2 =>
      refine sound_execute fun d held hsub _ hr hk _ => ?_
      replace hrow := hrow.steady hr hsub
      replace hlock := hsub _ hlock
    all_goals
      refine sound_commitsRow (p := fun l => l.lifecycle_state.advances = true)
        (f := fun l => { l with
          lifecycle_state := .appointment_set
          authorization_version := l.authorization_version + 1 })
        [newAppointment w input cur _ _] hrow hopen hlock (fun _ => rfl) ?_ ?_
        (fun e => (hp e).activities) (fun e => (hp e).touches)
        (fun e => congrArg (· ++ [_]) (hp e).appointments) ?_ (hanswer _)
      · exact fun _ hfinished => by cases hfinished
      · rw [hid]
        exact fun e => congrArg (updateWhere _ _) (hp e).leads
      · exact fun b hb => (mem_singleton.mp hb) ▸ hid.symm

/-! ### Capture -/

variable {casing : Casing} {input : LeadCaptureInput}

theorem replayIntake_sound (prior : LeadIntake) (hp : ∀ y, SameWork y (pending y)) :
    (floor.onAnswers .captured).Sound call (replayIntake prior) held pending db := by
  unfold replayIntake
  split
  · exact sound_nothing hp fun _ _ _ _ h => by cases h
  refine sound_select fun d _ _ => ?_
  split
  · exact sound_nothing hp fun _ _ _ _ h => by cases h
  · exact sound_nothing hp fun _ _ _ _ h => by cases h

/-- A touch is put on a lead that was read open and has only been locked since. -/
theorem joinOpenLead_sound {actor key source party : String} {lead : Lead}
    (hp : ∀ y, SameWork y (pending y)) (hseen : OpenUnder lead.lead_id held db) :
    (floor.onAnswers .captured).Sound call
      (joinOpenLead casing w input actor key source party lead) held pending db := by
  unfold joinOpenLead recordSourceTouchWithin
  rw [Script.bind_assoc]
  refine sound_selectLocking fun d held hsub _ hr hk => ?_
  replace hseen := hseen.steady hr hsub
  refine sound_execute fun d held hsub _ hr hk _ => ?_
  replace hseen := hseen.steady hr hsub
  refine sound_execute fun d' held hsub _ hr hk _ => ?_
  replace hseen := hseen.steady hr hsub
  intro e hr hk _
  replace hseen := hseen.steady hr fun _ h => h
  generalize htouch : LeadSourceTouch.mk w.newTouchId lead.lead_id source input.campaignVersionId
    (nextTouchSeq lead.lead_id (pending d)) input.channel false = touch
  have hlead : touch.lead_id = lead.lead_id := by rw [← htouch]
  have htouches : ((pending e).lead_source_touches ++ [touch]) = e.lead_source_touches ++ [touch] :=
    congrArg (· ++ [touch]) (hp e).touches
  refine ⟨⟨?_, ?_⟩, ?_, ?_⟩
  · exact (hp e).leads.symm ▸ hk.leads
  · exact (hp e).activities.symm ▸ hk.activities
  · refine .about (p := fun _ => False) (f := fun l => l) [] [touch] [] (hseen.all hk) ?_
      (fun _ h => h.elim) (fun _ => rfl) (fun _ _ h => h.elim) (fun _ _ h => h.elim) ?_
      (forall_mem_nil _) htouches ?_ ?_ (forall_mem_nil _)
    · exact (hp e).leads.trans (updateWhere_false _ _).symm
    · exact (hp e).activities.trans (append_nil _).symm
    · exact fun t ht => mem_singleton.mp ht ▸ hlead
    · exact (hp e).appointments.trans (append_nil _).symm
  · intro lead' party' hanswer
    cases hanswer
    exact ⟨hseen.found, touch, hlead, htouches⟩

theorem commits_arrival {d d' : Pipeline} {l : Lead} {t : LeadSourceTouch} (hk : Keyed d)
    (hfree : LeadFree l.lead_id held d) (leads : d'.leads = d.leads ++ [l])
    (activities : d'.lead_activities = d.lead_activities)
    (touches : d'.lead_source_touches = d.lead_source_touches ++ [t])
    (htouch : t.lead_id = l.lead_id) (appointments : d'.appointments = d.appointments) :
    Keyed d' ∧ Within call held d d' := by
  refine ⟨⟨?_, activities ▸ hk.activities⟩, ?_, ?_, ?_, ?_, ?_⟩
  · rw [leads]
    exact nodup_key_insert hk.leads hfree.free
  · intro k hmem
    refine ⟨k, leads ▸ mem_append_left _ hmem, rfl, .inl rfl, fun h h' => ?_⟩
    rw [h] at h'
    cases h'
  · intro k hmem
    rw [leads] at hmem
    rcases mem_inserted hmem with hmem | rfl
    · exact .inl ⟨k, hmem, rfl⟩
    · exact .inr (hfree.locked)
  · exact fun a ha => ⟨a, activities ▸ ha, rfl, rfl⟩
  · exact fun a ha => .inl ⟨a, activities ▸ ha, rfl⟩
  · intro k hmem _
    refine ⟨by rw [activities], ?_, by rw [appointments]⟩
    rw [touches]
    refine filter_append_of_ne fun s hs h => hfree.free k hmem ?_
    rw [← h, mem_singleton.mp hs, htouch]

theorem createLead_sound {actor key source party : String} (hp : ∀ y, SameWork y (pending y)) :
    (floor.onAnswers .captured).Sound call
      (createLead casing w input actor key source party) held pending db := by
  unfold createLead recordSourceTouchWithin
  refine sound_select fun d hr hk => ?_
  refine sound_execute fun d held hsub hlocks hr hk haccepted => ?_
  rw [Script.bind_assoc]
  generalize hnew : newLead w input party source _ = new at haccepted hlocks ⊢
  simp only [Lead.insertable, Bool.and_eq_true, all_eq_true, decide_eq_true_eq,
    (hp d).leads] at haccepted
  have hfree : LeadFree new.lead_id held d := ⟨hlocks _ mem_cons_self, haccepted.1.1.1.1⟩
  refine sound_selectLocking fun d held hsub _ hr hk => ?_
  replace hfree := hfree.steady hr hsub
  refine sound_execute fun d held hsub _ hr hk _ => ?_
  replace hfree := hfree.steady hr hsub
  refine sound_execute fun d' held hsub _ hr hk _ => ?_
  replace hfree := hfree.steady hr hsub
  intro e hr hk _
  replace hfree := hfree.steady hr fun _ h => h
  refine and_assoc.mp ⟨commits_arrival hk hfree (congrArg (· ++ [new]) (hp e).leads)
    (hp e).activities (congrArg (· ++ [_]) (hp e).touches) rfl (hp e).appointments, ?_⟩
  exact fun _ _ h => by cases h

theorem captureLeadWithin_sound (hp : ∀ y, SameWork y (pending y)) :
    (floor.onAnswers .captured).Sound call (captureLeadWithin casing w input) held pending db := by
  have hinvalid : ∀ (error : String) (x y : Pipeline), JoinsOpen (.captured (.invalid error)) x y :=
    fun _ _ _ _ _ h => by cases h
  unfold captureLeadWithin
  dsimp only
  split
  · exact sound_nothing hp (hinvalid _)
  split
  · exact sound_nothing hp (hinvalid _)
  refine sound_actor hp fun actor held pending d hp => ?_
  refine sound_selectLocking fun d held _ _ _ _ => ?_
  split
  · exact replayIntake_sound _ hp
  unfold captureFresh
  refine sound_select fun d _ _ => ?_
  split
  · exact sound_nothing hp (hinvalid _)
  refine .bind_of_writes SameWork.trans (floor_regular call).onAnswers (fun _ => trivial)
    ((writes_resolveParty actor).mono Aside.sameWork) hp fun resolved held pending d _ hp _ => ?_
  cases resolved with
  | invalid error =>
    refine sound_execute fun d held _ _ _ _ _ => ?_
    exact sound_nothing (fun x => (hp x).trans _ _ _ ⟨rfl, rfl, rfl, rfl⟩) (hinvalid error)
  | party partyId =>
    dsimp only
    unfold decideOnInterest
    refine sound_selectLocking fun d held _ _ _ _ => ?_
    refine sound_selectLocking fun d held _ hlocks _ _ => ?_
    cases hfound : openLeadOn input.rooftopId partyId
        (interestKeyOf input.interestStockItemId input.interestVehicleId) (pending d) with
    | none => exact createLead_sound hp
    | some lead =>
      have hmem := mem_of_find?_eq_some hfound
      have hopen := find?_some hfound
      simp only [Bool.and_eq_true, decide_eq_true_eq, Bool.not_eq_true] at hopen
      refine joinOpenLead_sound hp ⟨⟨.read, hlocks _ ?_⟩, lead, ?_, rfl, hopen.2⟩
      · rw [hfound]
        exact mem_singleton_self _
      · rwa [(hp d).leads] at hmem

end Sound

/-! ## The floor -/

theorem program_sound (call : FloorCall) (db : Pipeline) :
    floor.Sound call call.program [] (fun d => d) db := by
  have hp : ∀ x : Pipeline, SameWork x x := SameWork.refl
  cases call with
  | captureLead casing w input => exact (captureLeadWithin_sound hp).of_onAnswers
  | logActivity w input => exact (logActivityWithin_sound input hp).of_onAnswers
  | closeActivity w who leadId activityId version ending =>
    exact (closeActivity_sound who leadId activityId version ending hp).of_onAnswers
  | scheduleAppointment w input => exact (scheduleAppointmentWithin_sound input hp).of_onAnswers
  | transitionLead w who leadId toState version disposition note =>
    refine (transitionLead_sound who leadId toState version disposition note ?_ hp).of_onAnswers
    exact fun l hid hversion hclosed hwhy => ⟨hid.symm, hversion.symm, hclosed, hwhy⟩
  | handOffLead w who leadId version handedTo =>
    refine (handOffLead_sound who leadId version handedTo ?_ hp).of_onAnswers
    exact fun l hid hversion hready => ⟨hid.symm, hversion.symm, hready⟩

theorem floor_cooperates : floor.Cooperates Lock.conflicts FloorCall.program (fun _ _ => True)
    FinishesUnread where
  refl := fun _ _ _ => .refl _ _
  trans := fun _ _ _ _ _ => .trans
  symm := Lock.conflicts_symm
  begins := fun S c _ _ => program_sound c S.committed
  sets_apart := fun _ _ _ _ _ _ => ⟨trivial, trivial⟩
  finds := fun _ _ _ _ _ => trivial
  respects := by
    intro S i j s t a hadmits hij hs ht hcommit hbeside _ hensures
    refine hensures.1.steady hbeside.2 fun l hl hopen hfinishes => ?_
    exact hadmits s hs ⟨a, hcommit⟩ l hl hopen hfinishes j t hij ht

theorem Within.leavesFinished {call : FloorCall} {db db' : Pipeline}
    (h : Within call held db db') : LeavesFinished db db' := by
  intro l hl hfinished
  obtain ⟨l', hl', -, rfl | ⟨hopen, -⟩, -⟩ := h.lead l hl
  · exact ⟨hl', h.work l' hl hfinished⟩
  · rw [hopen] at hfinished
    cases hfinished

/-- **Finished leads take no further work.**  In every interleaving in which nobody
commits the end of an open lead that another transaction has read and not locked,
every commit leaves the finished leads, their activities, touches and appointments as
they are, and every enquiry that joins a lead joins an open one. -/
theorem finished_leads_take_no_work {db : Pipeline} (hdb : Keyed db)
    {events : List (Event FloorCall)}
    (h : Along (Server.step Lock.conflicts FloorCall.program) FinishesUnread (.fresh db) events) :
    ∀ call answer before after, .committed call answer before after ∈
        (run (Server.step Lock.conflicts FloorCall.program) (.fresh db) events).history →
      LeavesFinished before after ∧ JoinsOpen answer before after := by
  intro call answer before after hmem
  obtain ⟨-, -, held, hwithin, hjoins⟩ := (floor_cooperates.guarded hdb h).history _ hmem
  exact ⟨hwithin.leavesFinished, hjoins⟩

/-! ## Ada, again -/

instance (l : Lead) : ∀ call : FloorCall, Decidable (call.Finishes l)
  | .transitionLead _ _ _ _ _ _ _ | .handOffLead _ _ _ _ _ => inferInstanceAs (Decidable (_ ∧ _))
  | .captureLead _ _ _ | .logActivity _ _ | .closeActivity _ _ _ _ _ _
  | .scheduleAppointment _ _ => inferInstanceAs (Decidable False)

instance (S : Server FloorCall Pipeline Lock Raise FloorAnswer) :
    ∀ e, Decidable (FinishesUnread S e)
  | .turn i => decidable_of_iff (∀ s ∈ S.session i, ∀ l ∈ S.committed.leads,
      ∀ p ∈ S.sessions.zipIdx, ∀ t ∈ p.1, ¬ (s.script.commits = true ∧
        l.lifecycle_state.finished = false ∧ s.call.Finishes l ∧ i ≠ p.2 ∧
          Lock.lead l.lead_id .read ∈ t.held)) (by
      constructor
      · intro h s hs hcommit l hl hopen hfinishes j t hij ht hheld
        have hget : S.sessions[j]? = some (some t) := Option.join_eq_some_iff.mp ht
        exact h s hs l hl (some t, j) (mk_mem_zipIdx_iff_getElem?.mpr hget) t rfl
          ⟨Script.commits_iff.mpr hcommit, hopen, hfinishes, hij, hheld⟩
      · rintro h s hs l hl ⟨o, j⟩ hp t rfl ⟨hcommit, hopen, hfinishes, hij, hheld⟩
        exact h s hs (Script.commits_iff.mp hcommit) l hl hopen hfinishes j t hij
          (Option.join_eq_some_iff.mpr (mk_mem_zipIdx_iff_getElem?.mp hp)) hheld)
  | .arrive _ | .abort _ => .isTrue trivial

namespace WalkIn

/-- Ada's lead is open. -/
def met : Pipeline := run LeadCall.step rows [.captureLead .ascii world visit]

theorem met_keyed : Keyed met := ⟨by decide +kernel, by decide +kernel⟩

def closing : FloorCall :=
  .transitionLead world clerk world.newLeadId .closed 1 (some .no_contact) none

/-- Ada comes back, at a desk of her own. -/
def comesBack : FloorCall :=
  .captureLead .ascii { world with newTouchId := "0c000000-0000-4000-8000-0000000000f7" }
    { visit with intakeKey := "desk-2" }

/-- The second enquiry finds the lead open, the lead is closed, and the enquiry joins it. -/
def lost : List (Event FloorCall) :=
  .arrive comesBack :: List.replicate 5 (.turn 0) ++
    .arrive closing :: List.replicate 4 (.turn 1) ++ List.replicate 4 (.turn 0)

def booking : FloorCall :=
  .scheduleAppointment world ⟨clerk, world.newLeadId, .showroom_visit, some 1788220800000000,
    some 1788224400000000, none, none⟩

/-- Ada comes back and joins her lead.  While it is being closed an appointment is to be booked,
which waits for the lead; afterwards somebody has called her. -/
def day : List (Event FloorCall) :=
  .arrive comesBack :: List.replicate 9 (.turn 0) ++
    [.arrive closing, .turn 1, .turn 1, .arrive booking, .turn 2, .turn 2] ++
      List.replicate 3 (.turn 1) ++ List.replicate 3 (.turn 2) ++
        .arrive (.logActivity world call) :: List.replicate 4 (.turn 3)

end WalkIn

def touchesFinished : Ending FloorCall Pipeline Raise FloorAnswer → Bool
  | .committed _ _ before after => before.leads.any fun l => l.lifecycle_state.finished &&
      (after.lead_source_touches.filter fun t => t.lead_id = l.lead_id).length ≠
        (before.lead_source_touches.filter fun t => t.lead_id = l.lead_id).length
  | _ => false

/-- The lead that an answer says was joined, or why the call was turned away. -/
def WalkIn.told : Ending FloorCall Pipeline Raise FloorAnswer → Option String
  | .committed _ (.captured (.merged_into_existing lead _ _)) _ _ => some lead.lead_id
  | .committed _ (.scheduled (.invalid error)) _ _ => some error
  | .committed _ (.logged (.invalid error)) _ _ => some error
  | _ => none

/-- A day on which the lead is joined and closed: every finished lead is left as it is, and the
work that comes too late is turned away. -/
theorem closing_takes_no_work :
    (run (Server.step Lock.conflicts FloorCall.program) (.fresh WalkIn.met)
        WalkIn.day).history.map WalkIn.told =
      [some WalkIn.world.newLeadId, none, some "a closed lead takes no appointments",
        some "a closed lead takes no further activity"] ∧
      ∀ call answer before after, .committed call answer before after ∈
          (run (Server.step Lock.conflicts FloorCall.program) (.fresh WalkIn.met)
            WalkIn.day).history →
        LeavesFinished before after ∧ JoinsOpen answer before after :=
  ⟨by decide +kernel, finished_leads_take_no_work WalkIn.met_keyed (by decide +kernel)⟩

/-- An enquiry disappears into a lead that was closed after it was found open. -/
theorem enquiry_joins_closed_lead :
    ¬ ∀ (db : Pipeline) (_ : Keyed db) (events : List (Event FloorCall)) (call : FloorCall)
      (answer : FloorAnswer) (before after : Pipeline), .committed call answer before after ∈
          (run (Server.step Lock.conflicts FloorCall.program) (.fresh db) events).history →
        LeavesFinished before after ∧ JoinsOpen answer before after := by
  intro h
  have hlost : (run (Server.step Lock.conflicts FloorCall.program) (.fresh WalkIn.met)
      WalkIn.lost).history.any touchesFinished = true := by
    decide +kernel
  obtain ⟨e, he, htouches⟩ := any_eq_true.mp hlost
  cases e with
  | committed call answer before after =>
    obtain ⟨l, hl, hbad⟩ := any_eq_true.mp htouches
    simp only [Bool.and_eq_true, decide_eq_true_eq] at hbad
    have hleaves := (h WalkIn.met WalkIn.met_keyed WalkIn.lost call answer before after he).1
    exact hbad.2 (congrArg List.length (hleaves l hl hbad.1).2.touches)
  | raised call error => cases htouches
  | aborted call => cases htouches

end Dealership.Crm
