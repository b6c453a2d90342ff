import Dealership.Jacket.Frozen

/-!
# What a ceremony's events tell

Six of the events of `ceremony_events` say what became of the ceremony; the others leave its state
as it was.  Folded in the order they were written, the events of a ceremony tell a state, and the
chapters below are the ways in which the commands carry a ceremony on together with its events.

Superseding a version is not among them: it voids the ceremony and writes no event.
-/

namespace Dealership.Jacket

open Library List

variable {new : List CeremonyEvent} {now : String} {t : String}

/-- The state a ceremony is in after an event, given the state it was in. -/
def told (state : Option CeremonyState) (event_type : String) : Option CeremonyState :=
  if event_type = "ceremony.created" then some .sent
  else if event_type = "signer.signed" then some .in_progress
  else if event_type = "ceremony.completed" then some .completed
  else if event_type = "signer.declined" then some .declined
  else if event_type = "ceremony.expired" then some .expired
  else if event_type = "ceremony.voided" then some .voided
  else state

def closes (event_type : String) : Bool :=
  event_type ∈ ["ceremony.completed", "signer.declined", "ceremony.expired", "ceremony.voided"]

def silent (event_type : String) : Bool :=
  event_type ∉ ["ceremony.created", "signer.signed"] && !closes event_type

/-- The events of a ceremony, in the order they were written. -/
def storyOf (events : List CeremonyEvent) (ceremonyId : String) : List String :=
  (events.filter fun e => e.ceremony_id = ceremonyId).map (·.event_type)

/-- The events of the ceremony tell its state, and none follows the one that closed it. -/
structure Tells (events : List CeremonyEvent) (c : Ceremony) : Prop where
  state : (storyOf events c.ceremony_id).foldl told none = some c.state
  last : ∀ t ∈ (storyOf events c.ceremony_id).dropLast, closes t = false

theorem told_silent (h : silent t = true) (state : Option CeremonyState) :
    told state t = state := by
  simp only [silent, closes, mem_cons, not_mem_nil, or_false, not_or,
    Bool.and_eq_true, decide_eq_true_iff, Bool.not_eq_true', decide_eq_false_iff_not] at h
  obtain ⟨⟨hcreated, hsigned⟩, hcompleted, hdeclined, hexpired, hvoided⟩ := h
  rw [told, if_neg hcreated, if_neg hsigned, if_neg hcompleted, if_neg hdeclined, if_neg hexpired,
    if_neg hvoided]

theorem closed_of_closes (h : closes t = true) (state : Option CeremonyState) :
    ∃ s, told state t = some s ∧ s.closed = true := by
  simp only [closes, mem_cons, not_mem_nil, or_false, decide_eq_true_iff] at h
  rcases h with rfl | rfl | rfl | rfl
  · exact ⟨.completed, rfl, rfl⟩
  · exact ⟨.declined, rfl, rfl⟩
  · exact ⟨.expired, rfl, rfl⟩
  · exact ⟨.voided, rfl, rfl⟩

theorem storyOf_append (events new : List CeremonyEvent) (ceremonyId : String) :
    storyOf (events ++ new) ceremonyId = storyOf events ceremonyId ++ storyOf new ceremonyId := by
  rw [storyOf, filter_append, map_append]
  rfl

theorem storyOf_own {ceremonyId : String} (h : ∀ e ∈ new, e.ceremony_id = ceremonyId) :
    storyOf new ceremonyId = new.map (·.event_type) := by
  rw [storyOf, filter_eq_self.mpr fun e he => decide_eq_true (h e he)]

theorem storyOf_other {ceremonyId : String} (h : ∀ e ∈ new, e.ceremony_id ≠ ceremonyId) :
    storyOf new ceremonyId = [] := by
  rw [storyOf, filter_eq_nil_iff.mpr fun e he => by simpa using h e he, map_nil]

namespace Tells

variable {events : List CeremonyEvent} {c c' : Ceremony}

theorem going (h : Tells events c) (hgoing : c.state.closed = false) :
    ∀ t ∈ storyOf events c.ceremony_id, closes t = false := by
  obtain ⟨hstate, hlast⟩ := h
  generalize storyOf events c.ceremony_id = story at hstate hlast ⊢
  rcases eq_nil_or_concat story with rfl | ⟨front, t, rfl⟩
  · exact fun t ht => absurd ht not_mem_nil
  · rw [concat_eq_append] at hstate hlast ⊢
    rw [foldl_append, foldl_cons, foldl_nil] at hstate
    rw [dropLast_concat] at hlast
    intro u hu
    rcases mem_inserted hu with hu | rfl
    · exact hlast u hu
    · rw [← Bool.not_eq_true]
      intro hcloses
      obtain ⟨s, hs, hclosed⟩ := closed_of_closes hcloses (front.foldl told none)
      rw [hs] at hstate
      rw [Option.some.inj hstate, hgoing] at hclosed
      exact Bool.false_ne_true hclosed

theorem other (h : Tells events c) (hnew : ∀ e ∈ new, e.ceremony_id ≠ c.ceremony_id) :
    Tells (events ++ new) c := by
  have : storyOf (events ++ new) c.ceremony_id = storyOf events c.ceremony_id := by
    rw [storyOf_append, storyOf_other hnew, append_nil]
  constructor
  · rw [this]
    exact h.state
  · rw [this]
    exact h.last

theorem goOn (h : Tells events c) (hgoing : c.state.closed = false)
    (hnew : ∀ e ∈ new, e.ceremony_id = c.ceremony_id) (hid : c'.ceremony_id = c.ceremony_id)
    (hstate : (new.map (·.event_type)).foldl told (some c.state) = some c'.state)
    (hlast : ∀ t ∈ (new.map (·.event_type)).dropLast, closes t = false) :
    Tells (events ++ new) c' := by
  have hstory : storyOf (events ++ new) c'.ceremony_id =
      storyOf events c.ceremony_id ++ new.map (·.event_type) := by
    rw [storyOf_append, hid, storyOf_own hnew]
  constructor
  · rw [hstory, foldl_append, h.state]
    exact hstate
  · rw [hstory]
    rcases eq_nil_or_concat (new.map (·.event_type)) with hnil | ⟨front, t, hcat⟩
    · rw [hnil, append_nil]
      exact h.last
    · rw [hcat, concat_eq_append] at hlast ⊢
      rw [dropLast_concat] at hlast
      rw [← append_assoc, dropLast_concat]
      intro u hu
      rcases mem_append.mp hu with hu | hu
      · exact h.going hgoing u hu
      · exact hlast u hu

end Tells

/-! ## Chapters -/

inductive Chapter : List Ceremony → List CeremonyEvent → List Ceremony → Prop
  /-- Something is noted of a ceremony that is not closed. -/
  | noted (cs : List Ceremony) (c : Ceremony) (e : CeremonyEvent) (ceremony : c ∈ cs)
      (going : c.state.closed = false) (entry : e.ceremony_id = c.ceremony_id)
      (isSilent : silent e.event_type = true) : Chapter cs [e] cs
  /-- A ceremony is created, and its signers are invited. -/
  | created (cs : List Ceremony) (c : Ceremony) (e : CeremonyEvent)
      (invitations : List CeremonyEvent)
      (fresh : ∀ r ∈ cs, r.ceremony_id ≠ c.ceremony_id)
      (first : ∀ r ∈ cs, r.package_id ≠ c.package_id) (isSent : c.state = .sent)
      (entry : e.ceremony_id = c.ceremony_id) (outcome : e.event_type = "ceremony.created")
      (entries : ∀ i ∈ invitations, i.ceremony_id = c.ceremony_id ∧ silent i.event_type = true) :
      Chapter cs (e :: invitations) (cs ++ [c])
  /-- A ceremony that is not closed moves, and its events say where to. -/
  | moved (cs : List Ceremony) (c : Ceremony) (hit : Ceremony → Bool) (f : Ceremony → Ceremony)
      (entries : List CeremonyEvent) (ceremony : c ∈ cs) (going : c.state.closed = false)
      (hits : ∀ r ∈ cs, hit r = true ↔ r.ceremony_id = c.ceremony_id)
      (keeps : ∀ r, (f r).ceremony_id = r.ceremony_id ∧ (f r).package_id = r.package_id)
      (own : ∀ e ∈ entries, e.ceremony_id = c.ceremony_id)
      (outcome : (entries.map (·.event_type)).foldl told (some c.state) = some (f c).state)
      (last : ∀ t ∈ (entries.map (·.event_type)).dropLast, closes t = false) :
      Chapter cs entries (updateWhere (fun r => hit r = true) f cs)

structure Told (cs : List Ceremony) (events : List CeremonyEvent) : Prop where
  ids : (cs.map (·.ceremony_id)).Nodup
  packages : (cs.map (·.package_id)).Nodup
  tells : ∀ c ∈ cs, Tells events c
  known : ∀ e ∈ events, ∃ c ∈ cs, c.ceremony_id = e.ceremony_id

theorem Told.nil : Told [] [] where
  ids := nodup_nil
  packages := nodup_nil
  tells := fun _ hc => absurd hc not_mem_nil
  known := fun _ he => absurd he not_mem_nil

theorem Chapter.told {cs cs' : List Ceremony} {events : List CeremonyEvent} (h : Chapter cs new cs')
    (ht : Told cs events) : Told cs' (events ++ new) := by
  cases h with
  | noted c e ceremony going entry isSilent =>
    refine ⟨ht.ids, ht.packages, fun r hr => ?_, fun i hi => ?_⟩
    · by_cases hrc : r.ceremony_id = c.ceremony_id
      · obtain rfl := eq_of_key ht.ids hr ceremony hrc
        refine (ht.tells r hr).goOn going (forall_mem_singleton.mpr entry) rfl ?_ ?_
        · exact told_silent isSilent _
        · exact fun t htm => absurd htm not_mem_nil
      · refine (ht.tells r hr).other (forall_mem_singleton.mpr ?_)
        exact fun he => hrc (he.symm.trans entry)
    · rcases mem_inserted hi with hi | rfl
      · exact ht.known i hi
      · exact ⟨c, ceremony, entry.symm⟩
  | created c e invitations fresh first isSent entry outcome entries =>
    have own : ∀ i ∈ e :: invitations, i.ceremony_id = c.ceremony_id :=
      forall_mem_cons.mpr ⟨entry, fun i hi => (entries i hi).1⟩
    have unheard : storyOf events c.ceremony_id = [] := by
      refine storyOf_other fun i hi hic => ?_
      obtain ⟨r, hr, hri⟩ := ht.known i hi
      exact fresh r hr (hri.trans hic)
    have quiet : ∀ (is : List CeremonyEvent) (s : Option CeremonyState),
        (∀ i ∈ is, silent i.event_type = true) →
        (is.map (·.event_type)).foldl Jacket.told s = s := by
      intro is s hs
      induction is with
      | nil => rfl
      | cons i is ih =>
        obtain ⟨hi, his⟩ := forall_mem_cons.mp hs
        rw [map_cons, foldl_cons, told_silent hi]
        exact ih his
    refine ⟨nodup_key_insert ht.ids fresh, nodup_key_insert ht.packages first, fun r hr => ?_,
      fun i hi => ?_⟩
    · rcases mem_inserted hr with hr | rfl
      · exact (ht.tells r hr).other fun i hi hic => fresh r hr (hic.symm.trans (own i hi))
      · constructor
        · rw [storyOf_append, unheard, storyOf_own own, nil_append, map_cons,
            foldl_cons, outcome, quiet invitations _ fun i hi => (entries i hi).2, isSent]
          rfl
        · rw [storyOf_append, unheard, storyOf_own own, nil_append, map_cons, outcome]
          intro t htm
          rcases mem_cons.mp (dropLast_subset _ htm) with rfl | htm
          · rfl
          · obtain ⟨i, hi, rfl⟩ := mem_map.mp htm
            have := (entries i hi).2
            rw [silent, Bool.and_eq_true, Bool.not_eq_true'] at this
            exact this.2
    · rcases mem_append.mp hi with hi | hi
      · obtain ⟨r, hr, hri⟩ := ht.known i hi
        exact ⟨r, mem_append_left _ hr, hri⟩
      · exact ⟨c, mem_append_right _ (mem_singleton_self c), (own i hi).symm⟩
  | moved c hit f _ ceremony going hits keeps own outcome last =>
    refine ⟨?_, ?_, fun r' hr' => ?_, fun i hi => ?_⟩
    · exact nodup_map_updateWhere ht.ids fun r _ => (keeps r).1
    · exact nodup_map_updateWhere ht.packages fun r _ => (keeps r).2
    · rcases updateWhere_cases hr' with ⟨hr, hmiss⟩ | ⟨r, hr, hhit, rfl⟩
      · refine (ht.tells r' hr).other fun i hi hic => hmiss ((hits r' hr).mpr ?_)
        exact hic.symm.trans (own i hi)
      · obtain rfl := eq_of_key ht.ids hr ceremony ((hits r hr).mp hhit)
        exact (ht.tells r hr).goOn going own (keeps r).1 outcome last
    · have back : ∀ r ∈ cs, ∃ r' ∈ updateWhere (fun r => hit r = true) f cs,
          r'.ceremony_id = r.ceremony_id := by
        intro r hr
        by_cases hh : hit r = true
        · exact ⟨f r, mem_updateWhere_of_pos hr hh, (keeps r).1⟩
        · exact ⟨r, mem_updateWhere_of_neg hr hh, rfl⟩
      rcases mem_append.mp hi with hi | hi
      · obtain ⟨r, hr, hri⟩ := ht.known i hi
        obtain ⟨r', hr', hid⟩ := back r hr
        exact ⟨r', hr', hid.trans hri⟩
      · obtain ⟨r', hr', hid⟩ := back c ceremony
        exact ⟨r', hr', hid.trans (own i hi).symm⟩

inductive Chapters : List Ceremony → List CeremonyEvent → List Ceremony → Prop
  | nil (cs : List Ceremony) : Chapters cs [] cs
  | snoc {cs cs' cs'' : List Ceremony} {new more : List CeremonyEvent} (h : Chapters cs new cs')
      (next : Chapter cs' more cs'') : Chapters cs (new ++ more) cs''

theorem Chapters.append {cs cs' cs'' : List Ceremony} {more : List CeremonyEvent}
    (h : Chapters cs new cs') (h' : Chapters cs' more cs'') : Chapters cs (new ++ more) cs'' := by
  induction h' with
  | nil => rwa [append_nil]
  | snoc _ next ih =>
    rw [← append_assoc]
    exact ih.snoc next

theorem Chapters.told {cs cs' : List Ceremony} {events : List CeremonyEvent}
    (h : Chapters cs new cs') (ht : Told cs events) : Told cs' (events ++ new) := by
  induction h with
  | nil => rwa [append_nil]
  | snoc _ next ih =>
    rw [← append_assoc]
    exact next.told ih

/-- A command wrote chapters, and only events with the property. -/
def Tale (Q : CeremonyEvent → Prop) (db db' : Cabinet) : Prop :=
  ∃ new, db'.ceremony_events = db.ceremony_events ++ new ∧ (∀ e ∈ new, Q e) ∧
    Chapters db.signing_ceremonies new db'.signing_ceremonies

namespace Tale

variable {Q : CeremonyEvent → Prop} {db db' db'' : Cabinet}

theorem same (hevents : db'.ceremony_events = db.ceremony_events)
    (hceremonies : db'.signing_ceremonies = db.signing_ceremonies) : Tale Q db db' :=
  ⟨[], by rw [hevents, append_nil], fun _ he => absurd he not_mem_nil, hceremonies ▸ .nil _⟩

theorem refl (db : Cabinet) : Tale Q db db := same rfl rfl

theorem trans (h : Tale Q db db') (h' : Tale Q db' db'') : Tale Q db db'' := by
  obtain ⟨new, hevents, hnew, hchapters⟩ := h
  obtain ⟨more, hevents', hmore, hchapters'⟩ := h'
  refine ⟨new ++ more, by rw [hevents', hevents, append_assoc], fun e he => ?_,
    hchapters.append hchapters'⟩
  exact (mem_append.mp he).elim (hnew e) (hmore e)

theorem chapter (new : List CeremonyEvent)
    (hevents : db'.ceremony_events = db.ceremony_events ++ new)
    (hnew : ∀ e ∈ new, Q e)
    (h : Chapter db.signing_ceremonies new db'.signing_ceremonies) : Tale Q db db' :=
  ⟨new, hevents, hnew, by simpa using (Chapters.nil _).snoc h⟩

theorem mono {R : CeremonyEvent → Prop} (h : Tale Q db db') (hQ : ∀ e, Q e → R e) :
    Tale R db db' := by
  obtain ⟨new, hevents, hnew, hchapters⟩ := h
  exact ⟨new, hevents, fun e he => hQ e (hnew e he), hchapters⟩

end Tale

theorem closed_eq_not_unfinished (s : CeremonyState) : s.closed = !s.unfinished := by
  cases s <;> rfl

theorem going_of_isOpen {s : CeremonyState} (h : s.isOpen = true) : s.closed = false := by
  cases s <;> first | rfl | exact absurd h Bool.false_ne_true

/-! ## What each command writes -/

/-- Neither a first look nor a void. -/
def Ordinary (e : CeremonyEvent) : Prop :=
  e.event_type ≠ "ceremony.voided" ∧ e.event_type ≠ "signer.viewed"

theorem ordinary_signerEvent (s : Signer) (h : t ≠ "ceremony.voided" ∧ t ≠ "signer.viewed")
    (lane : EventLane) (actor : Option String) :
    Ordinary (signerEvent s t lane actor) := h

theorem ordinary_mk (h : t ≠ "ceremony.voided" ∧ t ≠ "signer.viewed") (ceremonyId : String)
    (lane : EventLane) (actor : Option String) :
    Ordinary ⟨ceremonyId, none, t, lane, actor⟩ := h

section Commands

variable {Q : CeremonyEvent → Prop} {db db' : Cabinet} {w : JacketWorld} {out : SignOutcome}
  {token : String}

theorem openJacketWithin_tale {actor caseId : String} {out : OpenJacketOutcome}
    (h : openJacketWithin w db actor caseId = .ok (out, db')) : Tale Q db db' := by
  rcases openJacketWithin_eq_ok h with ⟨rfl, -⟩ | ⟨_, _, _, -, -, -, -, hresolve⟩
  · exact .refl _
  · obtain ⟨items, rfl, -⟩ := resolveChecklist_eq_ok hresolve
    exact .same rfl rfl

theorem satisfyWithEvidence_tale {input : SatisfyInput} {out : ChecklistOutcome}
    (h : satisfyWithEvidence w db input = .ok (out, db')) : Tale Q db db' := by
  rcases satisfyWithEvidence_eq_ok h with rfl | ⟨_, -, -, rfl⟩
  · exact .refl _
  · exact .same rfl rfl

theorem waiveRequirement_tale {input : WaiveInput} {out : ChecklistOutcome}
    (h : waiveRequirement w db input = .ok (out, db')) : Tale Q db db' := by
  rcases waiveRequirement_eq_ok h with rfl | ⟨_, _, -, -, rfl⟩
  · exact .refl _
  · exact .same rfl rfl

theorem writePackage_tale {actor : String} {jacket : DealJacket} {a : Assembly}
    (hclosed : ∀ p ∈ a.predecessor, ∀ c ∈ db.signing_ceremonies, c.package_id = p.package_id →
      c.state.closed = true) {out : AssembleOutcome}
    (h : writePackage w actor jacket a db = .ok (out, db')) : Tale Q db db' := by
  have hstays : retiredCeremonies a.predecessor db.signing_ceremonies = db.signing_ceremonies := by
    refine updateWhere_of_forall_not fun c hc hh => ?_
    obtain ⟨p, hp, hid⟩ := Option.map_eq_some_iff.mp hh.1.symm
    have := hclosed p hp c hc hid.symm
    rw [closed_eq_not_unfinished, hh.2] at this
    exact Bool.false_ne_true this
  obtain ⟨_, -, ⟨-, -, rfl⟩ | ⟨-, _, _, -, hstored, -, rfl⟩⟩ := writePackage_eq_ok h
  · exact .same rfl hstays
  · obtain ⟨items, bl, rfl, -⟩ := storeDocuments_eq_ok hstored
    exact .same rfl hstays

theorem assemblePackage_tale {input : AssembleInput}
    (hclosed : ∀ j a, input.Writes w db j a → ∀ p ∈ a.predecessor, ∀ c ∈ db.signing_ceremonies,
      c.package_id = p.package_id → c.state.closed = true) {out : AssembleOutcome}
    (h : assemblePackage w db input = .ok (out, db')) : Tale Q db db' := by
  rcases assemblePackage_eq_ok h with rfl | ⟨_, jacket, a, -, hwrites, h⟩
  · exact .refl _
  · exact writePackage_tale (hclosed jacket a hwrites) h

theorem markReviewReady_tale {input : PackageInput} {out : MoveOutcome}
    (h : markReviewReady w db input = .ok (out, db')) : Tale Q db db' := by
  rcases markReviewReady_eq_ok h with rfl | ⟨_, -, _, -, -, rfl⟩
  · exact .refl _
  · exact .same rfl rfl

theorem reviewPackage_tale {input : PackageInput} {out : MoveOutcome}
    (h : reviewPackage w db input = .ok (out, db')) : Tale Q db db' := by
  rcases reviewPackage_eq_ok h with rfl | ⟨_, _, rfl⟩
  · exact .refl _
  · exact .same rfl rfl

theorem invitationEvent_quiet (s : Signer) : (invitationEvent s).ceremony_id = s.ceremony_id ∧
    silent (invitationEvent s).event_type = true ∧ Ordinary (invitationEvent s) := by
  rw [Ordinary, invitationEvent]
  dsimp only
  split
  · exact ⟨rfl, rfl, by decide⟩
  · exact ⟨rfl, rfl, by decide⟩

theorem sendPackage_tale {input : SendInput} {out : SendOutcome}
    (h : sendPackage w db input = .ok (out, db')) : Tale Ordinary db db' := by
  rcases sendPackage_eq_ok h with ⟨rfl, -⟩ | ⟨_, -, -, c, signers, _, actor, -, hsends⟩
  · exact .refl _
  have hinvitations : ∀ i ∈ signers.map invitationEvent, i.ceremony_id = c.ceremony_id ∧
      silent i.event_type = true ∧ Ordinary i := by
    intro i hi
    obtain ⟨s, hs, rfl⟩ := mem_map.mp hi
    obtain ⟨hid, hsilent, hordinary⟩ := invitationEvent_quiet s
    exact ⟨hid.trans (hsends.invited s hs).1, hsilent, hordinary⟩
  rw [hsends.after]
  refine .chapter (⟨c.ceremony_id, none, "ceremony.created", .staff, some actor⟩ ::
    signers.map invitationEvent) rfl ?_ ?_
  · exact forall_mem_cons.mpr ⟨ordinary_mk (by decide) _ _ _, fun i hi => (hinvitations i hi).2.2⟩
  · exact .created _ _ _ _ hsends.fresh hsends.first hsends.isSent rfl rfl
      fun i hi => ⟨(hinvitations i hi).1, (hinvitations i hi).2.1⟩

theorem openSignerSession_tale (hdb : Coherent db)
    (hlooks : LooksWhileOpen db (.openSignerSession w token now)) :
    Tale (fun e => e.event_type = "signer.viewed" ∧ ∃ s, laneSigner w db token now = .ok s ∧
        s.viewed_at = none ∧ (s.state = .pending ∨ s.state = .invited) ∧
        e.ceremony_id = s.ceremony_id)
      db (openSignerSession w db token now).2 := by
  rw [openSignerSession]
  split
  · exact .refl _
  · exact .refl _
  rename_i signer hsigner
  dsimp only
  rw [viewWithin]
  split
  · rename_i hfirst
    obtain ⟨c, hc, hid⟩ := hdb.keyed.exists_ceremony (mem_of_laneSigner hsigner)
    refine .chapter [signerEvent signer "signer.viewed" .signer none] rfl ?_ ?_
    · exact forall_mem_singleton.mpr ⟨rfl, signer, hsigner, hfirst.1, hfirst.2, rfl⟩
    · exact .noted _ c _ hc (hlooks signer hsigner hfirst.1 hfirst.2 c hc hid) hid.symm rfl
  · exact .refl _

theorem consentWithin_tale (signer : Signer) (version : String) (lane : EventLane)
    (actor : Option String) :
    Tale Ordinary db (consentWithin w db signer version lane actor).2 := by
  rw [consentWithin]
  split
  · exact .refl _
  rename_i hnone
  obtain ⟨-, c, hc, hid, hopen⟩ := of_consentRefusal_eq_none hnone
  refine .chapter [signerEvent signer "signer.consented" lane actor] rfl ?_ ?_
  · exact forall_mem_singleton.mpr (ordinary_signerEvent signer (by decide) lane actor)
  · exact .noted _ c _ hc (going_of_isOpen hopen) hid.symm rfl

theorem consentToElectronicRecords_tale {version : String} :
    Tale Ordinary db (consentToElectronicRecords w db token version now).2 := by
  rw [consentToElectronicRecords]
  split
  · exact .refl _
  · exact .refl _
  rename_i signer hsigner
  have htale : Tale Ordinary db (consentWithin w db signer version .signer none).2 :=
    consentWithin_tale signer version .signer none
  generalize consentWithin w db signer version .signer none = out at htale ⊢
  obtain ⟨_ | _ | _ | _ | _, _⟩ := out <;> exact htale

theorem writeSignature_tale {signer : Signer} {c : Ceremony} {p : Package} {instant : Int}
    (hc : c ∈ db.signing_ceremonies) (hid : c.ceremony_id = signer.ceremony_id)
    (hopen : c.state.isOpen = true) {lane : EventLane} {actor : Option String}
    (h : writeSignature db signer c p instant lane actor = .ok (out, db')) :
    Tale Ordinary db db' := by
  have hits : ∀ r ∈ db.signing_ceremonies,
      decide (r.ceremony_id = c.ceremony_id) = true ↔ r.ceremony_id = c.ceremony_id :=
    fun r _ => decide_eq_true_iff
  have hsigned : Ordinary (signerEvent signer "signer.signed" lane actor) :=
    ordinary_signerEvent signer (by decide) lane actor
  obtain ⟨d, hd, h⟩ := bind_eq_ok.mp h
  cases h
  rw [recordSignature] at hd
  split at hd
  · obtain ⟨d, hd', hd⟩ := bind_eq_ok.mp hd
    cases hd
    obtain rfl := updatePackages_eq_ok hd'
    refine .chapter [signerEvent signer "signer.signed" lane actor,
      ⟨c.ceremony_id, none, "ceremony.completed", .system, none⟩] ?_ ?_ ?_
    · exact append_assoc _ _ _
    · exact forall_mem_cons.mpr ⟨hsigned, forall_mem_singleton.mpr (ordinary_mk (by decide) _ _ _)⟩
    · exact .moved _ c _ _ _ hc (going_of_isOpen hopen) hits (fun _ => ⟨rfl, rfl⟩)
        (by simp [signerEvent, hid]) rfl (by simp [signerEvent]; rfl)
  · obtain rfl := updatePackages_eq_ok hd
    refine .chapter [signerEvent signer "signer.signed" lane actor] rfl
      (forall_mem_singleton.mpr hsigned) ?_
    exact .moved _ c _ _ _ hc (going_of_isOpen hopen) hits (fun _ => ⟨rfl, rfl⟩)
      (forall_mem_singleton.mpr hid.symm) rfl fun t ht => absurd ht not_mem_nil

theorem signWithin_tale {signer : Signer} {input : SignInput} {lane : EventLane}
    {actor : Option String}
    (h : signWithin w db signer input lane actor now = .ok (out, db')) : Tale Ordinary db db' := by
  rcases signWithin_eq_ok h with rfl | ⟨c, p, _, hctx, -, -, h⟩
  · exact .refl _
  · obtain ⟨-, hc, -, hopen, -⟩ := of_signContext_eq_ok hctx
    exact writeSignature_tale hc.1 hc.2 hopen h

theorem signAsCustomer_tale {input : SignInput}
    (h : signAsCustomer w db token input now = .ok (out, db')) : Tale Ordinary db db' := by
  rcases signAsCustomer_eq_ok h with rfl | ⟨_, -, h⟩
  · exact .refl _
  · exact signWithin_tale h

theorem signAsDealerRepresentative_tale {input : DealerInput}
    (h : signAsDealerRepresentative w db input = .ok (out, db')) : Tale Ordinary db db' := by
  obtain ⟨actor, -, h⟩ := bind_eq_ok.mp h
  split at h
  · cases h
    exact .refl _
  rename_i signer hsigner
  have htale : Tale Ordinary db
      (consentWithin w db signer input.consentTextVersion .staff (some actor)).2 :=
    consentWithin_tale signer input.consentTextVersion .staff (some actor)
  generalize consentWithin w db signer input.consentTextVersion .staff (some actor) = consented
    at htale h
  obtain ⟨_ | _ | _ | _ | _, d⟩ := consented
  · exact htale.trans (signWithin_tale h)
  all_goals
    cases h
    exact htale

theorem declineAsCustomer_tale {reason : String} {out : DeclineOutcome}
    (h : declineAsCustomer w db token reason now = .ok (out, db')) : Tale Ordinary db db' := by
  rcases declineAsCustomer_eq_ok h with rfl | ⟨signer, c, p, -, hctx, rfl⟩
  · exact .refl _
  · obtain ⟨-, hc, -, hopen⟩ := of_declineContext_eq_ok hctx
    refine .chapter [signerEvent signer "signer.declined" .signer none] rfl ?_ ?_
    · exact forall_mem_singleton.mpr (ordinary_signerEvent signer (by decide) _ _)
    · exact .moved _ c _ _ _ hc.1 (going_of_isOpen hopen) (fun r _ => decide_eq_true_iff)
        (fun _ => ⟨rfl, rfl⟩) (forall_mem_singleton.mpr hc.2.symm) rfl
        fun t ht => absurd ht not_mem_nil

def Voids (db : Cabinet) (packageId : String) (e : CeremonyEvent) : Prop :=
  e.event_type = "ceremony.voided" ∧ ∃ c ∈ db.signing_ceremonies, c.package_id = packageId ∧
    c.state.closed = false ∧ c.ceremony_id = e.ceremony_id

theorem voidCeremonyOfPackageWithin_tale (hdb : Coherent db) {d : Cabinet} (packageId : String)
    (hevents : d.ceremony_events = db.ceremony_events)
    (hceremonies : d.signing_ceremonies = db.signing_ceremonies) :
    Tale (Voids db packageId) db (voidCeremonyOfPackageWithin packageId d) := by
  rw [voidCeremonyOfPackageWithin]
  split
  · exact .same hevents hceremonies
  rename_i c hfind
  rw [hceremonies] at hfind
  have hc := mem_of_find?_eq_some hfind
  have hhit := find?_some hfind
  obtain ⟨hpackage, hunfinished⟩ := Bool.and_eq_true_iff.mp hhit
  have hgoing : c.state.closed = false := by rw [closed_eq_not_unfinished, hunfinished]; rfl
  refine .chapter [⟨c.ceremony_id, none, "ceremony.voided", .staff, none⟩] ?_ ?_ ?_
  · exact congrArg (· ++ [_]) hevents
  · exact forall_mem_singleton.mpr ⟨rfl, c, hc, of_decide_eq_true hpackage, hgoing, rfl⟩
  · show Chapter _ _ (updateWhere _ _ d.signing_ceremonies)
    rw [hceremonies]
    refine .moved _ c _ _ _ hc hgoing (fun r hr => ⟨fun hh => ?_, fun hid => ?_⟩)
      (fun _ => ⟨rfl, rfl⟩) (forall_mem_singleton.mpr rfl) rfl
      fun t ht => absurd ht not_mem_nil
    · have := of_decide_eq_true (Bool.and_eq_true_iff.mp hh).1
      exact congrArg _ (hdb.keyed.ceremony_unique_of_package hr hc
        (this.trans (of_decide_eq_true hpackage).symm))
    · obtain rfl := hdb.keyed.ceremony_unique hr hc hid
      exact hhit

theorem voidPackage_tale (hdb : Coherent db) {input : VoidPackageInput} {out : MoveOutcome}
    (h : voidPackage w db input = .ok (out, db')) :
    Tale (Voids db input.packageId) db db' := by
  rcases voidPackage_eq_ok h with rfl | ⟨p, -, _, _, hid, -, -, rfl⟩
  · exact .refl _
  · rw [← hid]
    exact voidCeremonyOfPackageWithin_tale hdb p.package_id rfl rfl

def VoidsAny (db : Cabinet) (jacketId : String) (e : CeremonyEvent) : Prop :=
  ∃ p ∈ db.jacket_packages, p.jacket_id = jacketId ∧ p.state.live = true ∧ Voids db p.package_id e

theorem voidJacket_tale (hdb : Coherent db) {input : VoidJacketInput} {out : JacketMoveOutcome}
    (h : voidJacket w db input = .ok (out, db')) : Tale (VoidsAny db input.jacketId) db db' := by
  rcases voidJacket_eq_ok h with ⟨rfl, -⟩ | ⟨jacket, -, d, hjacket, -, -, hd, rfl⟩
  · exact .refl _
  · refine (show Tale _ db d from ?_).trans (.same rfl rfl)
    rcases live_cases hdb jacket.jacket_id with hnil | ⟨p, hp, hlive, hone⟩
    · rw [hnil] at hd
      cases hd
      exact .refl _
    · have hin : p ∈ db.jacket_packages.filter fun p =>
          p.jacket_id = jacket.jacket_id && p.state.live := by
        rw [hone]
        exact mem_singleton_self p
      have hjid : p.jacket_id = input.jacketId := by
        rw [mem_filter, Bool.and_eq_true, decide_eq_true_iff] at hin
        exact hin.2.1.trans hjacket
      rw [hone, foldlM_cons] at hd
      obtain ⟨d', hd', hd⟩ := bind_eq_ok.mp hd
      cases hd
      obtain ⟨after, hafter, hd'⟩ := bind_eq_ok.mp hd'
      refine Tale.mono (Q := Voids db p.package_id) ?_ fun e he => ⟨p, hp, hjid, hlive, he⟩
      obtain ⟨hit, -, ⟨rfl, -⟩ | ⟨rfl, -⟩⟩ := movePackageWithin_eq_ok hafter
      · cases hd'
        exact voidCeremonyOfPackageWithin_tale hdb p.package_id rfl rfl
      · cases hd'
        exact voidCeremonyOfPackageWithin_tale hdb p.package_id rfl rfl

theorem expireDueCeremoniesForTenant_tale (hdb : Coherent db) {limit n : Nat}
    (h : expireDueCeremoniesForTenant w db now limit = .ok (n, db')) : Tale Ordinary db db' := by
  refine expireDueCeremoniesForTenant_induction hdb Tale.refl Tale.trans ?_ h
  intro d d' row _ hrow hopen hturn
  rw [expireCeremony_eq_ok hturn]
  refine .chapter [⟨row.ceremony_id, none, "ceremony.expired", .system, none⟩] rfl
    (forall_mem_singleton.mpr (ordinary_mk (by decide) _ _ _)) ?_
  exact .moved _ row _ _ _ hrow (going_of_isOpen hopen) (fun r _ => decide_eq_true_iff)
    (fun _ => ⟨rfl, rfl⟩) (forall_mem_singleton.mpr rfl) rfl
    fun t ht => absurd ht not_mem_nil

end Commands

/-! ## Every call -/

/-- What a call may write into the ledger. -/
def Call.Records (db : Cabinet) (e : CeremonyEvent) : Call → Prop
  | .openSignerSession w token now => e.event_type = "signer.viewed" ∧
      ∃ s, laneSigner w db token now = .ok s ∧ s.viewed_at = none ∧
        (s.state = .pending ∨ s.state = .invited) ∧ e.ceremony_id = s.ceremony_id
  | .voidPackage _ input => Voids db input.packageId e
  | .voidJacket _ input => VoidsAny db input.jacketId e
  | _ => Ordinary e

/-- No version supersedes one whose ceremony is still going, and nobody looks for the first time
into a ceremony that is closed. -/
def KeepsStory (db : Cabinet) : Call → Prop
  | .assemblePackage w input => ∀ j a, input.Writes w db j a → ∀ p ∈ a.predecessor,
      ∀ c ∈ db.signing_ceremonies, c.package_id = p.package_id → c.state.closed = true
  | call => LooksWhileOpen db call

theorem committed_tale {α : Type} {Q : CeremonyEvent → Prop} {db : Cabinet}
    {r : Except Raise (α × Cabinet)} (h : ∀ out db', r = .ok (out, db') → Tale Q db db') :
    Tale Q db (committed db r) :=
  committed_induction (P := Tale Q db) (.refl db) h

theorem step_tale {db : Cabinet} (hdb : Coherent db) {call : Call} (h : KeepsStory db call) :
    Tale (fun e => call.Records db e) db (step db call) := by
  cases call with
  | openJacket w actor caseId => exact committed_tale fun _ _ => openJacketWithin_tale
  | satisfyWithEvidence w input => exact committed_tale fun _ _ => satisfyWithEvidence_tale
  | waiveRequirement w input => exact committed_tale fun _ _ => waiveRequirement_tale
  | assemblePackage w input => exact committed_tale fun _ _ => assemblePackage_tale h
  | markReviewReady w input => exact committed_tale fun _ _ => markReviewReady_tale
  | reviewPackage w input => exact committed_tale fun _ _ => reviewPackage_tale
  | sendPackage w input => exact committed_tale fun _ _ => sendPackage_tale
  | openSignerSession w token now => exact openSignerSession_tale hdb h
  | consentToElectronicRecords w token version now => exact consentToElectronicRecords_tale
  | signAsCustomer w token input now => exact committed_tale fun _ _ => signAsCustomer_tale
  | signAsDealerRepresentative w input =>
    exact committed_tale fun _ _ => signAsDealerRepresentative_tale
  | declineAsCustomer w token reason now => exact committed_tale fun _ _ => declineAsCustomer_tale
  | voidPackage w input => exact committed_tale fun _ _ => voidPackage_tale hdb
  | voidJacket w input => exact committed_tale fun _ _ => voidJacket_tale hdb
  | expireDueCeremoniesForTenant w now limit =>
    exact committed_tale fun _ _ => expireDueCeremoniesForTenant_tale hdb

end Dealership.Jacket
