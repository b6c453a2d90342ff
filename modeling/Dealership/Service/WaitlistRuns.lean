import Dealership.Library.Census
import Dealership.Service.WaitlistMoves

/-!
# Booked once, and only while it is open

The waitlist with everybody at it.  A vehicle has one open entry at a location; an entry that
is scheduled has the one appointment that was made from it; and an entry that is closed stays
as it is, so that no two bookings are made from one.
-/

namespace Dealership.Service

open Library List
open Inventory (LotLock)
open Sales (Locked)

variable {held : List LotLock} {c : WaitlistCall} {answer : WaitlistAnswer} {more : List LotLock}
  {d : Shop}

/-! ## The contract -/

/-- What others may have done since, to whoever holds `held`. -/
structure ListKept (held : List LotLock) (d d' : Shop) : Prop where
  entries : ∀ e ∈ d.service_waitlist_entries,
    Locked held "service_waitlist_entries" e.waitlist_entry_id → e ∈ d'.service_waitlist_entries
  entryKeys : ∀ id, .index "service_waitlist_entries_pkey" id ∈ held →
    (∀ e ∈ d.service_waitlist_entries, e.waitlist_entry_id ≠ id) →
      ∀ e ∈ d'.service_waitlist_entries, e.waitlist_entry_id ≠ id
  free : ∀ locationId vehicleId, waitingEntry locationId vehicleId ∈ held →
    openEntries locationId vehicleId d = [] → openEntries locationId vehicleId d' = []
  appointmentKeys : ∀ id, .index "service_appointments_pkey" id ∈ held →
    (∀ a ∈ d.service_appointments, a.appointment_id ≠ id) →
      ∀ a ∈ d'.service_appointments, a.appointment_id ≠ id

theorem ListKept.refl (held : List LotLock) (d : Shop) : ListKept held d d where
  entries := fun _ he _ => he
  entryKeys := fun _ _ h => h
  free := fun _ _ _ h => h
  appointmentKeys := fun _ _ h => h

theorem ListKept.trans {a b e : Shop} (hab : ListKept held a b) (hbe : ListKept held b e) :
    ListKept held a e where
  entries := fun x hx hlock => hbe.entries x (hab.entries x hx hlock) hlock
  entryKeys := fun id hkey h => hbe.entryKeys id hkey (hab.entryKeys id hkey h)
  free := fun l v hkey h => hbe.free l v hkey (hab.free l v hkey h)
  appointmentKeys := fun id hkey h => hbe.appointmentKeys id hkey (hab.appointmentKeys id hkey h)

theorem ListKept.mono (hsub : ∀ k ∈ held, k ∈ more) {a b : Shop}
    (h : ListKept more a b) : ListKept held a b where
  entries := fun x hx hlock => h.entries x hx (hlock.mono hsub)
  entryKeys := fun id hkey => h.entryKeys id (hsub _ hkey)
  free := fun l v hkey => h.free l v (hsub _ hkey)
  appointmentKeys := fun id hkey => h.appointmentKeys id (hsub _ hkey)

theorem ListKept.of_moves (hd : WaitlistSound d)
    (hclear : ∀ k ∈ held, ∀ l ∈ more, k.conflicts l = false) {e : WaitlistEntry}
    (lock : Locked held "service_waitlist_entries" e.waitlist_entry_id)
    (he : e ∈ d.service_waitlist_entries) (hopen : e.isOpen = true)
    {f : WaitlistEntry → WaitlistEntry} (hid : ∀ x, (f x).waitlist_entry_id = x.waitlist_entry_id)
    (hloc : ∀ x, (f x).location_id = x.location_id)
    (hveh : ∀ x, (f x).mdm_vehicle_id = x.mdm_vehicle_id) :
    ListKept more d (d.setEntries e.waitlist_entry_id f) where
  entries := by
    intro x hx hlock
    refine mem_updateWhere_of_neg hx fun heq => ?_
    exact lock.not_both hclear (heq ▸ hlock)
  entryKeys := by
    intro id _ hfree x hx
    rcases updateWhere_cases hx with ⟨hx, -⟩ | ⟨y, hy, -, rfl⟩
    · exact hfree x hx
    · rw [hid]
      exact hfree y hy
  free := by
    intro locationId vehicleId _ hfree
    have hclosed := openEntries_eq_nil.mp hfree
    refine openEntries_eq_nil.mpr fun x hx hl hv => ?_
    rcases updateWhere_cases hx with ⟨hx, -⟩ | ⟨y, hy, heq, rfl⟩
    · exact hclosed x hx hl hv
    · obtain rfl := eq_of_key hd.entries hy he heq
      rw [hclosed y hy ((hloc y).symm.trans hl) ((hveh y).symm.trans hv)] at hopen
      cases hopen
  appointmentKeys := fun _ _ h => h

theorem WaitlistMoves.kept {d' : Shop} (hm : WaitlistMoves held c answer d d')
    (hd : WaitlistSound d)
    (hclear : ∀ k ∈ held, ∀ l ∈ more, k.conflicts l = false) : ListKept more d d' := by
  have hrefl := ListKept.refl more d
  cases hm with
  | @creates w input e _ key fresh waits free location vehicle waiting unnamed =>
    refine { hrefl with entries := ?_, entryKeys := ?_, free := ?_ }
    · exact fun x hx _ => mem_append_left _ hx
    · intro id hkey hfree x hx
      rcases mem_inserted hx with hx | rfl
      · exact hfree x hx
      · rintro rfl
        exact index_not_both hclear key hkey
    · intro locationId vehicleId hkey hfree
      refine openEntries_eq_nil.mpr fun x hx hl hv => ?_
      rcases mem_inserted hx with hx | rfl
      · exact openEntries_eq_nil.mp hfree x hx hl hv
      · subst hl hv
        exact absurd hkey (index_not_both hclear waits)
  | offers lock found isOpen =>
    exact .of_moves hd hclear lock found isOpen (fun _ => rfl) (fun _ => rfl) fun _ => rfl
  | expires lock found isOpen _ =>
    exact .of_moves hd hclear lock found isOpen (fun _ => rfl) (fun _ => rfl) fun _ => rfl
  | @books w e input start finish _ lock found isOpen lapsed key fresh =>
    have hmoved := ListKept.of_moves (f := scheduledAs w.newId) hd hclear lock found isOpen
      (fun _ => rfl) (fun _ => rfl) fun _ => rfl
    refine { entries := hmoved.entries, entryKeys := hmoved.entryKeys, free := hmoved.free,
             appointmentKeys := ?_ }
    intro id hkey hfree a ha
    rcases mem_inserted ha with ha | rfl
    · exact hfree a ha
    · rintro rfl
      exact index_not_both hclear key hkey
  | cancels lock found isOpen =>
    exact .of_moves hd hclear lock found isOpen (fun _ => rfl) (fun _ => rfl) fun _ => rfl

/-- A create refuses a request that is not in order, and one whose vehicle waits already. -/
def WaitlistCall.mayRaise : WaitlistCall → ServiceError → Prop
  | .createWaitlistEntry .., error => error.kind = .validation ∨ error = waitlistEntryExists
  | _, _ => True

/-- The contract of a call, or of a part of one whose answer is read off a `B`. -/
def waitlist {B : Type} (read : B → WaitlistAnswer) :
    Contract WaitlistCall Shop LotLock ServiceError B where
  inv := WaitlistSound
  rely := fun _ => ListKept
  finds := fun _ _ _ => True
  ensures := fun c held b d d' => WaitlistMoves held c (read b) d d'
  mayRaise := WaitlistCall.mayRaise

section Tolerant

variable {B : Type} {read : B → WaitlistAnswer} {waitlistEntryId : String}

instance {input : OfferInput} :
    (waitlist read).Tolerant (.offerWaitlistSlot waitlistEntryId input) := ⟨fun _ => trivial⟩

instance {w : ServiceWorld} {input : ConversionInput} :
    (waitlist read).Tolerant (.convertWaitlistEntry w waitlistEntryId input) := ⟨fun _ => trivial⟩

instance : (waitlist read).Tolerant (.cancelWaitlistEntry waitlistEntryId) := ⟨fun _ => trivial⟩

end Tolerant

section Sound

variable {d : Shop}

theorem waitlist_commits {B : Type} {read : B → WaitlistAnswer} {pending : Shop → Shop} {b : B}
    (h : ∀ d', ListKept held d d' → WaitlistSound d' →
      WaitlistMoves held c (read b) d' (pending d')) :
    (waitlist read).Sound c (pure b) held pending d := by
  intro d' hr hi _
  have hmoves := h d' hr hi
  exact ⟨hmoves.waitlistSound hi, hmoves⟩

theorem assertWaitlistEntry_sound {B : Type} {read : B → WaitlistAnswer}
    [hκ : (waitlist read).Tolerant c] {waitlistEntryId : String} {k : WaitlistEntry → ServiceWork B}
    (h : ∀ e d' held, e.waitlist_entry_id = waitlistEntryId →
      Locked held "service_waitlist_entries" waitlistEntryId →
      e ∈ d'.service_waitlist_entries → e.isOpen = true →
        (waitlist read).Sound c (k e) held (fun x => x) d') : (waitlist read).Sound c
      (assertWaitlistEntry waitlistEntryId >>= fun e => assertWaitlistOpen e >>= fun _ => k e)
      [] (fun x => x) d := by
  unfold assertWaitlistEntry
  rw [Script.bind_assoc]
  refine requireUuid_sound ?_
  rw [Script.bind_assoc]
  refine sound_selectLocking_bind fun d' more _ hlocks _ _ _ => ?_
  cases hfound : d'.service_waitlist_entries.find? fun e =>
      e.waitlist_entry_id = waitlistEntryId with
  | none => exact hκ.raises _
  | some e =>
    obtain ⟨hmem, hid⟩ := of_find?_eq_some hfound
    unfold assertWaitlistOpen
    refine insist_sound fun hopen => ?_
    exact h e d' more hid (.inl (hlocks _ mem_cons_self)) hmem hopen

theorem offerWaitlistSlot_sound (waitlistEntryId : String) (input : OfferInput) :
    (waitlist fun _ : WaitlistEntry => .done).Sound (.offerWaitlistSlot waitlistEntryId input)
      (offerWaitlistSlot waitlistEntryId input) [] (fun x => x) d := by
  unfold offerWaitlistSlot
  refine optionalTimestamp_refuses (fun _ _ => trivial) fun given => ?_
  refine insist_sound fun _ => ?_
  refine assertWaitlistEntry_sound fun e d₁ held₁ hid hlock he hopen => ?_
  subst hid
  refine store_sound fun d₂ held₂ hsub₂ _ hr₂ _ _ => ?_
  refine waitlist_commits fun d₃ hr₃ _ => ?_
  have hs := hr₂.trans (hr₃.mono hsub₂)
  exact .offers (hlock.mono hsub₂) (hs.entries e he hlock) hopen

theorem cancelWaitlistEntry_sound (waitlistEntryId : String) :
    (waitlist fun _ : WaitlistEntry => .done).Sound (.cancelWaitlistEntry waitlistEntryId)
      (cancelWaitlistEntry waitlistEntryId) [] (fun x => x) d := by
  unfold cancelWaitlistEntry
  refine assertWaitlistEntry_sound fun e d₁ held₁ hid hlock he hopen => ?_
  subst hid
  refine store_sound fun d₂ held₂ hsub₂ _ hr₂ _ _ => ?_
  refine waitlist_commits fun d₃ hr₃ _ => ?_
  have hs := hr₂.trans (hr₃.mono hsub₂)
  exact .cancels (hlock.mono hsub₂) (hs.entries e he hlock) hopen

theorem convertWaitlistEntry_sound (w : ServiceWorld) (waitlistEntryId : String)
    (input : ConversionInput) :
    (waitlist Conversion.answer).Sound (.convertWaitlistEntry w waitlistEntryId input)
      (convertWaitlistEntry w waitlistEntryId input) [] (fun x => x) d := by
  unfold convertWaitlistEntry
  refine requireTimestamp_refuses (fun _ _ => trivial) fun start => ?_
  refine optionalTimestamp_refuses (fun _ _ => trivial) fun finish => ?_
  refine assertWaitlistEntry_sound fun e d₁ held₁ hid hlock he hopen => ?_
  subst hid
  by_cases hlapsed : e.lapsed input.clock = true
  · rw [if_pos hlapsed]
    refine store_sound fun d₂ held₂ hsub₂ _ hr₂ _ _ => ?_
    refine waitlist_commits fun d₃ hr₃ _ => ?_
    have hs := hr₂.trans (hr₃.mono hsub₂)
    exact .expires (hlock.mono hsub₂) (hs.entries e he hlock) hopen hlapsed
  · rw [if_neg hlapsed]
    unfold insertAppointment
    refine sound_execute_bind fun d₂ held₂ hsub₂ hlocks₂ hr₂ _ _ hfree => ?_
    have hkey : .index "service_appointments_pkey" w.newId ∈ held₂ := hlocks₂ _ mem_cons_self
    have hfresh : ∀ a ∈ d₂.service_appointments, a.appointment_id ≠ w.newId :=
      fun a ha => of_decide_eq_true (all_eq_true.mp hfree a ha)
    refine store_sound fun d₃ held₃ hsub₃ _ hr₃ _ _ => ?_
    refine waitlist_commits fun d₄ hr₄ _ => ?_
    have hlast := hr₃.trans (hr₄.mono hsub₃)
    have hs := hr₂.trans (hlast.mono hsub₂)
    exact .books ((hlock.mono hsub₂).mono hsub₃) (hs.entries e he hlock) hopen
      (Bool.eq_false_iff.mpr hlapsed) (hsub₃ _ hkey) (hlast.appointmentKeys _ hkey hfresh)

theorem createWaitlistEntry_sound (w : ServiceWorld) (input : WaitlistInput) :
    (waitlist fun _ : WaitlistEntry => .done).Sound (.createWaitlistEntry w input)
      (createWaitlistEntry w input) [] (fun x => x) d := by
  have hv : ∀ e : ServiceError, e.kind = .validation →
      (waitlist fun _ : WaitlistEntry => .done).mayRaise (.createWaitlistEntry w input) e :=
    fun _ => .inl
  have hexists : WaitlistCall.mayRaise (.createWaitlistEntry w input) waitlistEntryExists :=
    .inr rfl
  unfold createWaitlistEntry
  refine requireUuid_refuses hv (requireUuid_refuses hv (requireUuid_refuses hv ?_))
  refine requireTimestamp_refuses hv fun start => optionalTimestamp_refuses hv fun finish => ?_
  refine insist_refuses (hv _ rfl) fun _ => requireConcerns_refuses hv fun concerns => ?_
  refine requireOneOf_refuses hv fun priority => requireOneOf_refuses hv fun channel => ?_
  refine requireOneOf_refuses hv fun language => insist_refuses (hv _ rfl) fun _ => ?_
  refine sound_select_bind fun d₁ _ _ _ => ?_
  refine insist_refuses hexists fun _ => ?_
  unfold insertEntry
  refine sound_execute_bind_of ?_ fun _ _ _ _ _ => hexists
  intro d₂ held₂ _ hlocks₂ _ _ _ haccepts
  rw [Bool.and_eq_true, List.isEmpty_iff] at haccepts
  have hkey : .index "service_waitlist_entries_pkey" w.newId ∈ held₂ := hlocks₂ _ mem_cons_self
  have hwaits : waitingEntry input.location_id input.mdm_vehicle_id ∈ held₂ :=
    hlocks₂ _ (mem_cons_of_mem _ mem_cons_self)
  have hfresh : ∀ e ∈ d₂.service_waitlist_entries, e.waitlist_entry_id ≠ w.newId :=
    fun e he => of_decide_eq_true (all_eq_true.mp haccepts.1 e he)
  refine waitlist_commits fun d₃ hr₃ _ => ?_
  exact .creates hkey (hr₃.entryKeys _ hkey hfresh) hwaits (hr₃.free _ _ hwaits haccepts.2)
    rfl rfl rfl rfl

theorem WaitlistCall.program_sound (c : WaitlistCall) :
    (waitlist id).Sound c c.program [] (fun x => x) d := by
  cases c with
  | createWaitlistEntry w input =>
    exact Contract.Sound.of_onAnswers (createWaitlistEntry_sound w input)
  | offerWaitlistSlot waitlistEntryId input =>
    exact Contract.Sound.of_onAnswers (offerWaitlistSlot_sound waitlistEntryId input)
  | convertWaitlistEntry w waitlistEntryId input =>
    exact Contract.Sound.of_onAnswers (convertWaitlistEntry_sound w waitlistEntryId input)
  | cancelWaitlistEntry waitlistEntryId =>
    exact Contract.Sound.of_onAnswers (cancelWaitlistEntry_sound waitlistEntryId)

end Sound

theorem waitlist_cooperates :
    (waitlist id).Cooperates LotLock.conflicts WaitlistCall.program (fun _ _ => True)
      fun _ _ => True where
  refl := fun _ => .refl
  trans := fun _ _ _ _ _ => .trans
  symm := LotLock.conflicts_symm
  begins := fun _ c _ _ => c.program_sound
  sets_apart := fun _ _ _ _ _ _ => ⟨trivial, trivial⟩
  finds := fun _ _ _ _ _ => trivial
  respects := fun _ _ _ _ _ _ _ _ _ _ _ hbeside hi hmoves => hmoves.kept hi hbeside.2

/-! ## What a run leaves -/

/-- Entries that are scheduled, canceled or expired are left as they are. -/
def StaysOff : WaitlistEnding → Prop
  | .committed _ _ before after =>
    ∀ e ∈ before.service_waitlist_entries, e.isOpen = false → e ∈ after.service_waitlist_entries
  | _ => True

/-- A create is not committed where the vehicle waits already, and one that is refused for more
than its request is answered that it does. -/
def OnceOnTheList : WaitlistEnding → Prop
  | .committed (.createWaitlistEntry _ input) _ before _ =>
    openEntries input.location_id input.mdm_vehicle_id before = []
  | .raised (.createWaitlistEntry ..) error =>
    error.kind = .validation ∨ error = waitlistEntryExists
  | _ => True

/-- A conversion books an open entry whose offer has not lapsed; or it is refused and has
closed an entry whose offer has.  Nothing else makes an appointment. -/
def ConvertsDuly : WaitlistEnding → Prop
  | .committed (.convertWaitlistEntry w waitlistEntryId input) answer before after =>
    ∃ e ∈ before.service_waitlist_entries, e.waitlist_entry_id = waitlistEntryId ∧
      e.isOpen = true ∧ match answer with
        | .done => e.lapsed input.clock = false ∧ ∃ start finish,
            after = before.booked waitlistEntryId (bookingOf w.newId start finish e)
        | .offerExpired => e.lapsed input.clock = true ∧
            after = before.setEntries waitlistEntryId expiredEntry
  | .committed _ _ before after => after.service_appointments = before.service_appointments
  | _ => True

def convertedEntry : WaitlistEnding → Option String
  | .committed (.convertWaitlistEntry _ waitlistEntryId _) .done _ _ => some waitlistEntryId
  | _ => none

/-- An entry was scheduled when the run began. -/
def ScheduledIn (d : Shop) (waitlistEntryId : String) : Prop :=
  ∃ e ∈ d.service_waitlist_entries, e.waitlist_entry_id = waitlistEntryId ∧ e.status = .scheduled

/-- A vehicle waits once at a location; an entry is scheduled exactly when it has been booked,
which it is once, as the one appointment it names; and a refusal changes nothing, or closes an
entry whose offer has lapsed. -/
structure BooksOnce (d : Shop) (S : WaitlistServer) : Prop where
  alone : OnePerVehicle S.committed
  creates : ∀ e ∈ S.history, OnceOnTheList e
  closed : ∀ e ∈ S.history, StaysOff e
  scheduled : ∀ e ∈ S.committed.service_waitlist_entries, e.status = .scheduled ↔
    ∃ a ∈ S.committed.service_appointments, BookedFor e a ∧
      ∀ b ∈ S.committed.service_appointments, BookedFor e b → b = a
  made : ∀ a ∈ S.committed.service_appointments, a.source = .waitlist →
    ∃ e ∈ S.committed.service_waitlist_entries, BookedFor e a ∧
      ∀ f ∈ S.committed.service_waitlist_entries, BookedFor f a → f = e
  converts : ∀ e ∈ S.history, ConvertsDuly e
  once : (S.history.filterMap convertedEntry).Nodup
  booked : ∀ e ∈ S.committed.service_waitlist_entries, e.status = .scheduled ↔
    ScheduledIn d e.waitlist_entry_id ∨ e.waitlist_entry_id ∈ S.history.filterMap convertedEntry
  linked : Linked d S.history S.committed

theorem WaitlistMoves.onceOnTheList {d' : Shop} (hm : WaitlistMoves held c answer d d') :
    OnceOnTheList (.committed c answer d d') := by
  cases hm with
  | creates _ _ _ free location vehicle _ _ =>
    rw [location, vehicle] at free
    exact free
  | offers _ _ _ | expires _ _ _ _ | books _ _ _ _ _ _ | cancels _ _ _ => exact trivial

theorem WaitlistMoves.convertsDuly {d' : Shop} (hm : WaitlistMoves held c answer d d') :
    ConvertsDuly (.committed c answer d d') := by
  cases hm with
  | creates _ _ _ _ _ _ _ _ | offers _ _ _ | cancels _ _ _ => exact rfl
  | expires _ found isOpen lapsed => exact ⟨_, found, rfl, isOpen, lapsed, rfl⟩
  | books _ found isOpen lapsed _ _ => exact ⟨_, found, rfl, isOpen, lapsed, _, _, rfl⟩

def OffTheList (waitlistEntryId : String) (d : Shop) : Prop :=
  ∃ e ∈ d.service_waitlist_entries, e.waitlist_entry_id = waitlistEntryId ∧ e.isOpen = false

theorem WaitlistMoves.offTheList {d' : Shop} (hm : WaitlistMoves held c answer d d')
    (hd : WaitlistSound d) {id : String} (h : OffTheList id d) : OffTheList id d' := by
  obtain ⟨e, he, hid, hclosed⟩ := h
  exact ⟨e, hm.closed_stays hd he hclosed, hid, hclosed⟩

/-- A booking finds its entry open and leaves it closed. -/
theorem WaitlistMoves.marks {d' : Shop} (hm : WaitlistMoves held c answer d d')
    (hd : WaitlistSound d) {id : String}
    (hmark : convertedEntry (.committed c answer d d') = some id) :
    ¬ OffTheList id d ∧ OffTheList id d' := by
  cases hm with
  | creates _ _ _ _ _ _ _ _ | offers _ _ _ | expires _ _ _ _ | cancels _ _ _ => cases hmark
  | @books w e input start finish _ lock found isOpen lapsed key fresh =>
    cases hmark
    constructor
    · rintro ⟨f, hf, heq, hclosed⟩
      rw [eq_of_key hd.entries hf found heq, isOpen] at hclosed
      cases hclosed
    · exact ⟨scheduledAs w.newId e, mem_updateWhere_of_pos found rfl, rfl, rfl⟩

theorem WaitlistMoves.scheduledIn {d' : Shop} (hm : WaitlistMoves held c answer d d')
    (hd : WaitlistSound d) (id : String) :
    ScheduledIn d' id ↔ ScheduledIn d id ∨ convertedEntry (.committed c answer d d') = some id := by
  -- What was scheduled is closed, and stays.
  have hstays : ScheduledIn d id → ScheduledIn d' id := by
    rintro ⟨e, he, hid, hs⟩
    refine ⟨e, hm.closed_stays hd he ?_, hid, hs⟩
    rw [WaitlistEntry.isOpen, hs]
    rfl
  have hmoved : ∀ {e : WaitlistEntry} {f : WaitlistEntry → WaitlistEntry},
      (∀ x, (f x).status ≠ .scheduled) →
      ScheduledIn (d.setEntries e.waitlist_entry_id f) id → ScheduledIn d id := by
    rintro e f hf ⟨x, hx, hid, hs⟩
    rcases updateWhere_cases hx with ⟨hx, -⟩ | ⟨y, -, -, rfl⟩
    · exact ⟨x, hx, hid, hs⟩
    · exact absurd hs (hf y)
  refine ⟨fun h => ?_, fun h => h.elim hstays fun hmark => ?_⟩
  · cases hm with
    | creates _ _ _ _ _ _ waiting _ =>
      obtain ⟨x, hx, hid, hs⟩ := h
      rcases mem_inserted hx with hx | rfl
      · exact .inl ⟨x, hx, hid, hs⟩
      · rw [waiting] at hs
        cases hs
    | offers _ _ _ => exact .inl (hmoved (f := offeredUntil _) (fun _ h => by cases h) h)
    | expires _ _ _ _ => exact .inl (hmoved (f := expiredEntry) (fun _ h => by cases h) h)
    | cancels _ _ _ => exact .inl (hmoved (f := canceledEntry) (fun _ h => by cases h) h)
    | @books w e input start finish _ lock found isOpen lapsed key fresh =>
      obtain ⟨x, hx, hid, hs⟩ := h
      rcases updateWhere_cases hx with ⟨hx, -⟩ | ⟨y, -, heq, rfl⟩
      · exact .inl ⟨x, hx, hid, hs⟩
      · exact .inr (congrArg some (heq.symm.trans hid))
  · cases hm with
    | creates _ _ _ _ _ _ _ _ | offers _ _ _ | expires _ _ _ _ | cancels _ _ _ => cases hmark
    | @books w e input start finish _ lock found isOpen lapsed key fresh =>
      cases hmark
      exact ⟨scheduledAs w.newId e, mem_updateWhere_of_pos found rfl, rfl, rfl⟩

theorem scheduledIn_iff (hd : WaitlistSound d) {e : WaitlistEntry}
    (he : e ∈ d.service_waitlist_entries) :
    ScheduledIn d e.waitlist_entry_id ↔ e.status = .scheduled := by
  constructor
  · rintro ⟨f, hf, hid, hs⟩
    rwa [eq_of_key hd.entries hf he hid] at hs
  · exact fun hs => ⟨e, he, rfl, hs⟩

/-- **A waitlist entry books once, and only while it is open.**  In every interleaving of the
calls that work with the waitlist. -/
theorem waitlist_books_once {d : Shop} (hd : WaitlistSound d)
    (events : List (Event WaitlistCall)) :
    BooksOnce d (run (Server.step LotLock.conflicts WaitlistCall.program) (.fresh d) events) := by
  have halong : Along (Server.step LotLock.conflicts WaitlistCall.program) (fun _ _ => True)
      (.fresh d) events := Along.always (fun _ _ => trivial) _ _
  have hg := waitlist_cooperates.guarded hd halong
  have hsound : WaitlistSound (run (Server.step LotLock.conflicts WaitlistCall.program)
    (.fresh d) events).committed := hg.inv
  have hbooked := waitlist_cooperates.account (I := fun es d' => ∀ id, ScheduledIn d' id ↔
    ScheduledIn d id ∨ id ∈ es.filterMap convertedEntry) hd (fun _ => by simp) ?_ halong
  · refine ⟨hsound.alone, fun e he => ?_, fun e he => ?_, fun e he => hsound.scheduled_iff he,
      fun a ha => hsound.made_for_one ha, fun e he => ?_, ?_, fun e he => ?_,
      linked_run _ _ d events⟩
    · refine (hg.history e he).cases (fun _ _ _ _ _ _ hm => hm.onceOnTheList) ?_ fun _ => trivial
      rintro (_ | _ | _ | _) error hraised
      · exact hraised
      · exact trivial
      · exact trivial
      · exact trivial
    · exact (hg.history e he).cases (fun _ _ _ _ _ hi hm _ hx => hm.closed_stays hi hx)
        (fun _ _ _ => trivial) fun _ => trivial
    · exact (hg.history e he).cases (fun _ _ _ _ _ _ hm => hm.convertsDuly)
        (fun _ _ _ => trivial) fun _ => trivial
    · refine waitlist_cooperates.once hd OffTheList ?_ ?_ halong
      · intro e a b hleads hkeeps id
        exact hkeeps.leads (P := fun _ a b => OffTheList id a → OffTheList id b) hleads
          (fun _ _ _ _ _ hi hm => hm.offTheList hi) (fun _ _ _ _ h => h) fun _ _ h => h
      · intro e a b hleads hkeeps id
        exact hkeeps.leads (P := fun e a b => convertedEntry e = some id →
            ¬ OffTheList id a ∧ OffTheList id b) hleads
          (fun _ _ _ _ _ hi hm => hm.marks hi) (fun _ _ _ _ h => nomatch h) fun _ _ h => nomatch h
    · exact (scheduledIn_iff hsound he).symm.trans (hbooked _)
  · intro es e a b hI hleads hkeeps id
    have hone : ScheduledIn b id ↔ ScheduledIn a id ∨ convertedEntry e = some id :=
      hkeeps.leads (P := fun e a b => ScheduledIn b id ↔ ScheduledIn a id ∨
          convertedEntry e = some id) hleads (fun _ _ _ _ _ hi hm => hm.scheduledIn hi id)
        (fun _ _ _ _ => by simp [convertedEntry]) fun _ _ => by simp [convertedEntry]
    rw [hone, hI, filterMap_append, mem_append, or_assoc]
    simp [mem_filterMap]

/-! ## A morning at the counter -/

namespace Counter

def location : String := uuid "1"

def customer : String := uuid "2"

def sedan : String := uuid "3"

def truck : String := uuid "4"

def world (id : String) : ServiceWorld := ⟨"advisor", [.service_advisor], 0, id, id, fun s => s⟩

def shop : Shop := Shop.opening "t" [] [] [] []

theorem shop_sound : WaitlistSound shop :=
  ⟨nodup_nil, nodup_nil, forall_mem_nil _, forall_mem_nil _,
    forall_mem_nil _, forall_mem_nil _, forall_mem_nil _⟩

abbrev serve : List (Event WaitlistCall) → WaitlistServer :=
  served LotLock.conflicts WaitlistCall.program shop

def wait (id vehicleId : String) : WaitlistCall :=
  .createWaitlistEntry (world id) ⟨location, customer, vehicleId, some 500, none,
    some (some ["brakes"]), none, some (some .phone), none, none⟩

/-- Two are asked for the sedan at once; its slot is booked, that of the truck comes too late,
and nobody takes the sedan off the list afterwards. -/
def morning : List (Event WaitlistCall) :=
  [.arrive (wait (uuid "5") sedan), .arrive (wait (uuid "6") sedan), .turn 0, .turn 1, .turn 0,
    .turn 1, .turn 0, .turn 1, .turn 1] ++
  oneByOne 5 [wait (uuid "7") truck, .offerWaitlistSlot (uuid "5") ⟨none, 0⟩,
    .offerWaitlistSlot (uuid "7") ⟨some (some 100), 0⟩,
    .convertWaitlistEntry (world (uuid "8")) (uuid "5") ⟨some 600, none, 200⟩,
    .convertWaitlistEntry (world (uuid "9")) (uuid "7") ⟨some 600, none, 200⟩,
    .cancelWaitlistEntry (uuid "5")] 2

end Counter

open Counter in
/-- One of the two waits, and is booked; the truck's offer is over. -/
theorem morning_books_once :
    (serve morning).committed.service_waitlist_entries.map WaitlistEntry.status =
        [.scheduled, .expired] ∧
      (serve morning).committed.service_appointments.map ServiceAppointment.appointment_id =
        [uuid "8"] ∧
      BooksOnce shop (serve morning) :=
  ⟨by decide +kernel, by decide +kernel, waitlist_books_once shop_sound morning⟩

end Dealership.Service
