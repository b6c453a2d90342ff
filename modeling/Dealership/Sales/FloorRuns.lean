import Dealership.Sales.FloorTurns

/-!
# The floor does not leak people

All calls together: while whoever takes a customer on is the one who greeted them, and no
two calls that have read the end of one line overlap, a person is busy exactly when a
visit is in their hands, no turn is taken twice, and no two people share a place.
-/

namespace Dealership.Sales

open Library List
open Inventory (LotLock)

variable {d : Showroom} {e : FloorRotation} {held : List LotLock}

/-! ## Each call keeps the contract -/

variable (w : SalesWorld)

theorem joinFloor_sound (input : SeatInput) (d : Showroom) :
    (turns.onAnswers .rotation).Sound (.join w input) (joinFloor w input) [] (fun x => x) d := by
  unfold joinFloor
  refine sound_actorOnFloor ?_
  split
  · exact sound_stays rfl
  split
  · exact sound_stays rfl
  refine sound_select_bind fun d₁ _ _ _ => ?_
  split
  · exact sound_stays rfl
  refine sound_selectLocking_bind fun d₂ held₂ _ hlocks₂ _ _ _ => ?_
  have hmark : placeMark input.rooftopId ∈ held₂ := hlocks₂ _ mem_cons_self
  refine sound_execute_bind fun d₃ held₃ hsub₃ hlocks₃ hr₃ _ _ hfits => ?_
  have hentries : ∀ k ∈ (newcomer w input.rooftopId input.userLinkId
      (backOfLine input.rooftopId d₂)).entries, k ∈ held₃ := hlocks₃
  refine sound_turns fun d' hr _ _ => ?_
  refine .joins (hsub₃ _ hmark) hentries (hr.seats _ hentries hfits) rfl ?_ rfl rfl rfl
  exact ((hr.line _ (hsub₃ _ hmark)).trans (hr₃.line _ hmark)).symm

theorem entryOf_some {r u : String} (h : entryOf r u d = some e) :
    e ∈ d.floor_rotations ∧ e.rooftop_id = r ∧ e.user_link_id = u := by
  have hcond := find?_some h
  rw [Bool.and_eq_true, decide_eq_true_eq, decide_eq_true_eq] at hcond
  exact ⟨mem_of_find?_eq_some h, hcond⟩

theorem entryOf_eq_some (h : Staffed d)
    (he : e ∈ d.floor_rotations) : entryOf e.rooftop_id e.user_link_id d = some e := by
  have hfind := find?_eq_some_of_key h.seats he
  refine find?_of_imp hfind (by simp) fun f hf => ?_
  rw [Bool.and_eq_true, decide_eq_true_eq, decide_eq_true_eq] at hf
  rw [decide_eq_true_eq, FloorRotation.seat, FloorRotation.seat, hf.1, hf.2]

theorem releaseToFloor_sound (input : SeatInput) (d : Showroom) :
    (turns.onAnswers .release).Sound (.release w input) (releaseToFloor w input) [] (fun x => x)
      d := by
  unfold releaseToFloor
  refine sound_actorOnFloor ?_
  split
  · exact sound_stays rfl
  refine sound_execute_bind fun d₁ held₁ _ hlocks₁ _ _ _ _ => ?_
  cases hentry : entryOf input.rooftopId input.userLinkId d₁ with
  | none => exact sound_stays rfl
  | some e =>
    rw [hentry] at hlocks₁
    obtain ⟨he, hrooftop, huser⟩ := entryOf_some hentry
    have hlock : Locked held₁ "floor_rotations" e.rotation_id := .inr (hlocks₁ _ mem_cons_self)
    refine sound_turns fun d' hr _ hf => ?_
    refine .frees hlock (hr.rotations e he hlock) (fun v hv hholds => ?_) rfl rfl rfl
    refine hf v hv hholds.1 (hholds.2.1.trans hrooftop) ?_
    rw [← huser]
    exact hholds.2.2

theorem checkIn_sound (input : CheckInInput) (d : Showroom) :
    (turns.onAnswers .arrival).Sound (.checkIn w input) (checkIn w input) [] (fun x => x) d := by
  unfold checkIn
  refine sound_actorOnFloor ?_
  split
  · exact sound_stays rfl
  refine sound_selectLocking_bind fun d₁ held₁ _ _ _ _ _ => ?_
  refine sound_select_bind fun d₂ _ _ _ => ?_
  split
  · exact sound_stays rfl
  refine sound_select_bind fun d₃ _ _ _ => ?_
  split
  · exact sound_stays rfl
  refine sound_select_bind fun d₄ _ _ _ => ?_
  split
  · exact sound_stays rfl
  refine Contract.Sound.bind_of_writes SameFloor.trans turns_regular (fun _ => trivial)
    ((writes_keepAppointment w input.actingUserLinkId input).mono fun _ _ h => ?_)
    (fun _ => ⟨rfl, rfl⟩) ?_
  · rw [h]
    exact ⟨rfl, rfl⟩
  intro refusal held₅ pending₅ d₅ _ hpending₅ _
  cases refusal with
  | some refusal => exact sound_turns fun d' _ _ _ => .stays (hpending₅ d').1 (hpending₅ d').2 rfl
  | none =>
    refine sound_execute_bind fun d₆ held₆ _ hlocks₆ _ _ _ hfits => ?_
    have hfits₆ : (arrival w input).fits d₆ = true := by
      rw [ShowroomVisit.fits, (hpending₅ d₆).2] at hfits
      exact hfits
    have harrives : ∀ {b : CheckInOutcome} {more : List LotLock} {d₇ : Showroom}
        {pending : Showroom → Showroom}, (∀ k ∈ held₆, k ∈ more) →
        Undisturbed held₆ d₆ d₇ →
        (∀ x, (pending x).floor_rotations = x.floor_rotations ∧
          (pending x).showroom_visits = x.showroom_visits ++ [arrival w input]) →
        (turns.onAnswers .arrival).Sound (.checkIn w input) (pure b) more pending d₇ := by
      intro b more d₇ pending hsub hr₇ hpending
      refine sound_turns fun d' hr _ _ => ?_
      have hfits' := hr.arrivals _ (fun k hk => hsub _ (hlocks₆ k hk))
        (hr₇.arrivals _ hlocks₆ hfits₆)
      exact .comes (fun k hk => hsub _ (hlocks₆ k hk)) hfits' rfl rfl (hpending d').1
        (hpending d').2 rfl
    refine sound_visitEvent fun d₇ held₇ hsub₇ hr₇ => ?_
    split
    · refine sound_visitEvent fun d₈ held₈ hsub₈ hr₈ => ?_
      refine harrives (fun k hk => hsub₈ k (hsub₇ k hk)) (hr₇.trans (hr₈.mono hsub₇)) ?_
      intro x
      exact ⟨(hpending₅ x).1, congrArg (· ++ [arrival w input]) (hpending₅ x).2⟩
    · refine harrives hsub₇ hr₇ fun x => ?_
      exact ⟨(hpending₅ x).1, congrArg (· ++ [arrival w input]) (hpending₅ x).2⟩

theorem recordGreeting_sound {w : SalesWorld} {actor : String} {locked : List String}
    {input : GreetInput} {v : ShowroomVisit} {fromRotation : Bool} {place : Nat}
    (hmark : placeMark e.rooftop_id ∈ held) (hplace : place = backOfLine e.rooftop_id d)
    (hturn : Locked held "floor_rotations" e.rotation_id) (he : e ∈ d.floor_rotations)
    (hfree : e.status = .available) (hlock : Locked held "showroom_visits" v.visit_id)
    (hv : v ∈ d.showroom_visits) (hstate : v.state = .arrived)
    (hrooftop : v.rooftop_id = e.rooftop_id) (hid : v.visit_id = input.visitId)
    (hversion : v.authorization_version = input.expectedVersion) :
    (turns.onAnswers .greeting).Sound (.greet w locked input)
      (recordGreeting w actor input v e.user_link_id fromRotation) held
      (fun x => x.setRotation e.rotation_id (.taken w.now place)) d := by
  unfold recordGreeting
  rw [← hid, ← hversion]
  refine sound_updateVisit (fun _ hi => hi.visits)
    (fun _ hr => hr.visits v hv hlock) (fun _ => rfl) fun d₁ held₁ hsub₁ hr₁ _ _ hv₁ => ?_
  refine sound_visitEvent fun d₂ held₂ hsub₂ hr₂ => ?_
  refine sound_turns fun d' hr _ _ => ?_
  have hr' := hr₁.trans ((hr₂.trans (hr.mono hsub₂)).mono hsub₁)
  have hsub : ∀ k ∈ held, k ∈ held₂ := fun k hk => hsub₂ k (hsub₁ k hk)
  rw [hplace, ← hr'.line _ hmark]
  exact .greets (hsub _ hmark) (hturn.mono hsub) (hr'.rotations e he hturn) hfree
    (hlock.mono hsub) (hr'.visits v hv hlock) hstate hrooftop rfl rfl

theorem greetVisit_sound (locked : List String) (input : GreetInput) (d : Showroom) :
    (turns.onAnswers .greeting).Sound (.greet w locked input) (greetVisit w locked input) []
      (fun x => x) d := by
  unfold greetVisit
  refine sound_actorOnFloor ?_
  refine sound_selectLocking_bind fun d₁ held₁ _ hlocks₁ _ _ _ => ?_
  cases hfound : findVisit input.visitId d₁ with
  | none => exact sound_stays rfl
  | some v =>
    obtain ⟨hv, hid⟩ := findVisit_some hfound
    have hlock : Locked held₁ "showroom_visits" v.visit_id := by
      rw [hid]
      exact .inl (hlocks₁ _ mem_cons_self)
    dsimp only
    split
    · exact sound_stays rfl
    rename_i hstate
    split
    · exact sound_stays rfl
    rename_i hversion
    rw [not_not] at hstate hversion
    -- From the turn on, it does not matter whose it is.
    have hgreets : ∀ {e : FloorRotation} {d' : Showroom} {more : List LotLock}
        {fromRotation : Bool}, (∀ k ∈ held₁, k ∈ more) → Undisturbed held₁ d₁ d' →
        Locked more "floor_rotations" e.rotation_id → e ∈ d'.floor_rotations →
        e.rooftop_id = v.rooftop_id → e.status = .available →
        (turns.onAnswers .greeting).Sound (.greet w locked input)
          (moveToBack w v.rooftop_id e.rotation_id >>= fun _ =>
            recordGreeting w input.actingUserLinkId input v e.user_link_id fromRotation) more
          (fun x => x) d' := by
      intro e d' more fromRotation hsub hr hturn he hrooftop hfree
      rw [← hrooftop]
      refine sound_moveToBack hturn he fun d₂ held₂ hsub₂ hmark hr₂ he₂ => ?_
      exact recordGreeting_sound hmark rfl (hturn.mono hsub₂) he₂ hfree
        ((hlock.mono hsub).mono hsub₂) ((hr.trans (hr₂.mono hsub)).visits v hv hlock) hstate
        hrooftop.symm hid hversion
    split
    · rw [takeNextTurn, Script.bind_assoc]
      refine sound_select_bind fun d₂ hr₂ _ _ => ?_
      rw [Script.bind_assoc]
      refine sound_lockFirstFree rfl (fun _ _ => sound_stays rfl) ?_
      intro e d₃ held₃ hsub₃ hr₃ hturn he hrooftop hfree
      dsimp only
      rw [Script.bind_assoc]
      exact hgreets hsub₃ (hr₂.trans hr₃) hturn he hrooftop hfree
    · rename_i greeter _
      split
      · exact sound_stays rfl
      rw [claimNamedTurn, Script.bind_assoc]
      refine sound_selectLocking_bind fun d₂ held₂ hsub₂ hlocks₂ hr₂ _ _ => ?_
      cases hentry : entryOf v.rooftop_id greeter d₂ with
      | none => exact sound_stays rfl
      | some e =>
        rw [hentry] at hlocks₂
        obtain ⟨he, hrooftop, huser⟩ := entryOf_some hentry
        dsimp only
        split
        · exact sound_stays rfl
        rename_i hfree
        rw [not_not] at hfree
        rw [Script.bind_assoc, ← huser]
        exact hgreets hsub₂ hr₂ (.inl (hlocks₂ _ mem_cons_self)) he hrooftop hfree

theorem acceptVisit_sound (input : VisitInput) (d : Showroom) :
    (turns.onAnswers .acceptance).Sound (.accept w input) (acceptVisit w input) [] (fun x => x)
      d := by
  unfold acceptVisit
  refine sound_actorOnFloor ?_
  refine sound_selectLocking_bind fun d₁ held₁ _ hlocks₁ _ _ _ => ?_
  cases hfound : findVisit input.visitId d₁ with
  | none => exact sound_stays rfl
  | some v =>
    obtain ⟨hv, hid⟩ := findVisit_some hfound
    have hrow : LotLock.row "showroom_visits" input.visitId .forUpdate ∈ held₁ :=
      hlocks₁ _ mem_cons_self
    have hlock : Locked held₁ "showroom_visits" v.visit_id := by
      rw [hid]
      exact .inl hrow
    dsimp only
    split
    · exact sound_stays rfl
    split
    · exact sound_stays rfl
    rename_i hdeparted
    split
    · exact sound_stays rfl
    rename_i harrived
    split
    · exact sound_stays rfl
    rename_i haccepted
    split
    · exact sound_stays rfl
    rename_i hversion
    split
    · exact sound_stays rfl
    rename_i hreaches
    rw [not_not] at haccepted hversion hreaches
    have hin : v.inHands = true := by
      rw [ShowroomVisit.inHands]
      cases hs : v.state with
      | arrived => exact absurd hs harrived
      | departed => exact absurd hs hdeparted
      | greeted => rfl
      | with_salesperson => rfl
    rw [← hid, ← hversion]
    refine sound_updateVisit (fun _ hi => hi.visits)
      (fun _ hr => hr.visits v hv hlock) (fun _ => rfl) fun d₂ held₂ hsub₂ hr₂ _ hf₂ hv₂ => ?_
    have hgreeter := hf₂ hrow v hv₂ hid hin haccepted hversion hreaches
    have hhands : v.hands = some input.actingUserLinkId := by
      rw [ShowroomVisit.hands, haccepted, hgreeter]
      rfl
    refine sound_visitEvent fun d₃ held₃ hsub₃ hr₃ => ?_
    refine sound_turns fun d' hr _ _ => ?_
    have hv' := ((hr₃.trans (hr.mono hsub₃)).mono hsub₂).visits v hv₂ hlock
    exact .takesOn ((hlock.mono hsub₂).mono hsub₃) hv' hin hhands rfl rfl rfl

theorem departVisit_sound (input : VisitInput) (note : Option String) (d : Showroom) :
    (turns.onAnswers .departure).Sound (.depart w input note) (departVisit w input note) []
      (fun x => x) d := by
  unfold departVisit
  refine sound_actorOnFloor ?_
  refine sound_selectLocking_bind fun d₁ held₁ _ hlocks₁ _ _ _ => ?_
  cases hfound : findVisit input.visitId d₁ with
  | none => exact sound_stays rfl
  | some v =>
    obtain ⟨hv, hid⟩ := findVisit_some hfound
    have hlock : Locked held₁ "showroom_visits" v.visit_id := by
      rw [hid]
      exact .inl (hlocks₁ _ mem_cons_self)
    dsimp only
    split
    · exact sound_stays rfl
    rename_i hdeparted
    split
    · exact sound_stays rfl
    rename_i hversion
    rw [not_not] at hversion
    refine sound_select_bind fun d₂ hr₂ _ _ => ?_
    split
    · exact sound_stays rfl
    rw [← hid, ← hversion]
    have hv₂ := hr₂.visits v hv hlock
    refine sound_updateVisit (fun _ hi => hi.visits)
      (fun _ hr => hr.visits v hv₂ hlock) (fun _ => rfl) ?_
    intro d₃ held₃ hsub₃ hr₃ hi₃ _ hv₃
    refine sound_visitEvent fun d₄ held₄ hsub₄ hr₄ => ?_
    have hlock₄ := (hlock.mono hsub₃).mono hsub₄
    have hv₄ := (hr₄.mono hsub₃).visits v hv₃ hlock
    cases hin : v.inHands with
    | false =>
      have harrived : v.state = .arrived := by
        rw [ShowroomVisit.inHands] at hin
        cases hs : v.state with
        | arrived => rfl
        | departed => exact absurd hs hdeparted
        | greeted => rw [hs] at hin; cases hin
        | with_salesperson => rw [hs] at hin; cases hin
      have hhands : (v.left w.now).hands = none := hi₃.arrivals v hv₃ harrived
      dsimp only
      rw [hhands]
      refine sound_turns fun d' hr _ _ => ?_
      exact .leaves hlock₄ (hr.visits v hv₄ hlock₄) hin rfl rfl rfl
    | true =>
      obtain ⟨f, -, -, hholds⟩ := hi₃.handed v hv₃ hin
      have hhands : (v.left w.now).hands = some f.user_link_id := hholds.2.2
      dsimp only
      rw [hhands]
      unfold release updateRotation
      rw [Script.bind_assoc]
      refine sound_execute_bind fun d₅ held₅ hsub₅ hlocks₅ hr₅ hi₅ _ _ => ?_
      have hv₅ := hr₅.visits v hv₄ hlock₄
      -- The floor has had them busy since the greeting.
      obtain ⟨e, he, hstatus, heholds⟩ := hi₅.handed v hv₅ hin
      have huser : e.user_link_id = f.user_link_id :=
        Option.some.inj (heholds.2.2.symm.trans hholds.2.2)
      have hentry : busyEntry (v.left w.now).rooftop_id f.user_link_id d₅ = some e := by
        rw [busyEntry, ← huser]
        change (entryOf v.rooftop_id e.user_link_id d₅).filter _ = some e
        rw [heholds.2.1, entryOf_eq_some hi₅ he, Option.filter_some]
        exact if_pos (decide_eq_true hstatus)
      have hbusy : ∀ written : List VisitEvent,
          busyEntry (v.left w.now).rooftop_id f.user_link_id
            { d₅.setVisit v.visit_id (.left w.now) with visit_events := written } = some e :=
        fun _ => hentry
      rw [hbusy] at hlocks₅
      have hturn : Locked held₅ "floor_rotations" e.rotation_id := .inr (hlocks₅ _ mem_cons_self)
      rw [hbusy]
      refine sound_turns fun d' hr _ _ => ?_
      exact .departs (hlock₄.mono hsub₅) (hr.visits v hv₅ (hlock₄.mono hsub₅)) hturn
        (hr.rotations e he hturn) heholds rfl rfl rfl

theorem FloorCall.program_sound (c : FloorCall) (d : Showroom) :
    turns.Sound c c.program [] (fun x => x) d := by
  cases c with
  | join w input => exact .of_onAnswers (joinFloor_sound w input d)
  | release w input => exact .of_onAnswers (releaseToFloor_sound w input d)
  | checkIn w input => exact .of_onAnswers (checkIn_sound w input d)
  | greet w locked input => exact .of_onAnswers (greetVisit_sound w locked input d)
  | accept w input => exact .of_onAnswers (acceptVisit_sound w input d)
  | depart w input note => exact .of_onAnswers (departVisit_sound w input note d)

/-! ## Side by side -/

section Beside

variable {held more : List LotLock} {d d' : Showroom}

/-- Rows that keep their keys leave room for what found room. -/
theorem fits_of_keys {e : FloorRotation} (h : e.fits d = true)
    (hkeys : ∀ f' ∈ d'.floor_rotations, ∃ f ∈ d.floor_rotations,
      f'.rotation_id = f.rotation_id ∧ f'.seat = f.seat) : e.fits d' = true := by
  rw [FloorRotation.fits_iff] at h ⊢
  refine ⟨h.1, fun f' hf' => ?_⟩
  obtain ⟨f, hf, hid, hseat⟩ := hkeys f' hf'
  rw [hid, hseat]
  exact h.2 f hf

theorem visit_fits_of_keys {v : ShowroomVisit} (h : v.fits d = true)
    (hkeys : ∀ u' ∈ d'.showroom_visits, ∃ u ∈ d.showroom_visits, u'.visit_id = u.visit_id ∧
      u'.party_id = u.party_id ∧ (u.state = .departed → u'.state = .departed)) :
    v.fits d' = true := by
  rw [ShowroomVisit.fits_iff] at h ⊢
  refine ⟨h.1, fun u' hu' => ?_⟩
  obtain ⟨u, hu, hid, hparty, hstate⟩ := hkeys u' hu'
  rw [hid, hparty]
  exact ⟨(h.2 u hu).1, fun heq => hstate ((h.2 u hu).2 heq)⟩

theorem backOfLine_congr {r : String} (h : (d'.floor_rotations.filter fun e =>
    e.rooftop_id = r).map (·.position + 1) = (d.floor_rotations.filter fun e =>
      e.rooftop_id = r).map (·.position + 1)) : backOfLine r d' = backOfLine r d := by
  rw [backOfLine, backOfLine, h]

/-- Rewriting one entry, of which others may read the end of the line. -/
theorem undisturbed_setRotation (hclear : ∀ k ∈ held, ∀ l ∈ more, k.conflicts l = false)
    {x : String} {g : FloorRotation → FloorRotation} (hlock : Locked held "floor_rotations" x)
    (hid : ∀ f, (g f).rotation_id = f.rotation_id) (hseat : ∀ f, (g f).seat = f.seat)
    (hline : ∀ r, placeMark r ∈ more → backOfLine r (d.setRotation x g) = backOfLine r d) :
    Undisturbed more d (d.setRotation x g) where
  rotations := fun f hf hl => mem_updateWhere_of_neg hf fun heq =>
    hlock.not_both hclear (heq ▸ hl)
  visits := fun _ hv _ => hv
  line := hline
  seats := by
    intro e _ hfits
    refine fits_of_keys hfits fun f' hf' => ?_
    rcases updateWhere_cases hf' with ⟨hf, -⟩ | ⟨f, hf, -, rfl⟩
    · exact ⟨f', hf, rfl, rfl⟩
    · exact ⟨f, hf, hid f, hseat f⟩
  arrivals := fun _ _ h => h

theorem undisturbed_setVisit (hclear : ∀ k ∈ held, ∀ l ∈ more, k.conflicts l = false)
    {x : String} {g : ShowroomVisit → ShowroomVisit} (hlock : Locked held "showroom_visits" x)
    (hkeys : ∀ u ∈ d.showroom_visits, u.visit_id = x → (g u).visit_id = u.visit_id ∧
      (g u).party_id = u.party_id ∧ (u.state = .departed → (g u).state = .departed)) :
    Undisturbed more d (d.setVisit x g) where
  rotations := fun _ hf _ => hf
  visits := fun u hu hl => mem_updateWhere_of_neg hu fun heq =>
    hlock.not_both hclear (heq ▸ hl)
  line := fun _ _ => rfl
  seats := fun _ _ h => h
  arrivals := by
    intro v _ hfits
    refine visit_fits_of_keys hfits fun u' hu' => ?_
    rcases updateWhere_cases hu' with ⟨hu, -⟩ | ⟨u, hu, hid, rfl⟩
    · exact ⟨u', hu, rfl, rfl, fun h => h⟩
    · exact ⟨u, hu, hkeys u hu hid⟩

theorem backOfLine_freed (r x : String) : backOfLine r (d.setRotation x .freed) =
    backOfLine r d := by
  apply backOfLine_congr
  have hrooftop : ∀ e : FloorRotation, decide (e.freed.rooftop_id = r) =
      decide (e.rooftop_id = r) := fun _ => rfl
  have hposition : ∀ e : FloorRotation, e.rotation_id = x →
      e.freed.position + 1 = e.position + 1 := fun _ _ => rfl
  rw [Showroom.setRotation, filter_updateWhere_comm hrooftop, map_updateWhere hposition]

theorem backOfLine_taken (h : Staffed d) {e : FloorRotation} (he : e ∈ d.floor_rotations)
    {r : String} (hr : e.rooftop_id ≠ r) (now : Int) (place : Nat) :
    backOfLine r (d.setRotation e.rotation_id (.taken now place)) = backOfLine r d := by
  apply backOfLine_congr
  refine congrArg (List.map _) (filter_key_updateWhere fun f hf hid => ?_)
  rw [eq_of_key h.rotations hf he hid]
  exact hr

/-- What one commit does is within what another call relies on that has not read the same
end of a line. -/
theorem FloorMoves.undisturbed {c : FloorCall} {answer : FloorAnswer} (h : Staffed d)
    (hm : FloorMoves held c answer d d')
    (hclear : ∀ k ∈ held, ∀ l ∈ more, k.conflicts l = false)
    (hmarks : ∀ r, placeMark r ∈ held → placeMark r ∉ more) : Undisturbed more d d' := by
  have hcongr : ∀ {m : Showroom}, Undisturbed more d m →
      d'.floor_rotations = m.floor_rotations → d'.showroom_visits = m.showroom_visits →
        Undisturbed more d d' := by
    intro m hu hrotations hvisits
    refine ⟨?_, ?_, ?_, ?_, ?_⟩
    · rw [hrotations]
      exact hu.rotations
    · rw [hvisits]
      exact hu.visits
    · intro r hr
      rw [backOfLine, hrotations]
      exact hu.line r hr
    · intro e he hfits
      have hm := hu.seats e he hfits
      rw [FloorRotation.fits] at hm ⊢
      rw [hrotations]
      exact hm
    · intro v hv hfits
      have hm := hu.arrivals v hv hfits
      rw [ShowroomVisit.fits] at hm ⊢
      rw [hvisits]
      exact hm
  cases hm with
  | stays rotations visits => exact hcongr (.refl more d) rotations visits
  | @joins _ e _ _ mark entries _ _ _ rotations visits =>
    refine hcongr (m := { d with floor_rotations := d.floor_rotations ++ [e] }) ?_ rotations visits
    refine ⟨fun f hf _ => mem_append_left _ hf, fun _ hv _ => hv, fun r hr => ?_,
      fun f hf hfits => ?_, fun _ _ hfits => hfits⟩
    · have hne : e.rooftop_id ≠ r := by
        rintro rfl
        exact hmarks _ mark hr
      refine backOfLine_congr ?_
      rw [filter_append, filter_cons_of_neg (by simpa using hne), filter_nil, append_nil]
    · rw [FloorRotation.fits_iff] at hfits ⊢
      refine ⟨hfits.1, fun f' hf' => ?_⟩
      rcases mem_inserted hf' with hf' | rfl
      · exact hfits.2 f' hf'
      · constructor
        · intro heq
          refine absurd (hclear _ (entries _ mem_cons_self) _ (hf _ mem_cons_self)) ?_
          simp [LotLock.conflicts, heq]
        · intro heq
          obtain ⟨hrooftop, huser⟩ := Prod.mk.inj heq
          refine absurd (hclear _ (entries _ (mem_cons_of_mem _ mem_cons_self)) _
            (hf _ (mem_cons_of_mem _ mem_cons_self))) ?_
          simp [seatEntry, LotLock.conflicts, hrooftop, huser]
  | @comes _ v _ _ entries _ _ _ rotations visits =>
    refine hcongr (m := { d with showroom_visits := d.showroom_visits ++ [v] }) ?_ rotations visits
    refine ⟨fun _ hf _ => hf, fun u hu _ => mem_append_left _ hu, fun _ _ => rfl,
      fun _ _ hfits => hfits, fun u hu hfits => ?_⟩
    rw [ShowroomVisit.fits_iff] at hfits ⊢
    refine ⟨hfits.1, fun u' hu' => ?_⟩
    rcases mem_inserted hu' with hu' | rfl
    · exact hfits.2 u' hu'
    · constructor
      · intro heq
        refine absurd (hclear _ (entries _ mem_cons_self) _ (hu _ mem_cons_self)) ?_
        simp [LotLock.conflicts, heq]
      · intro heq
        refine absurd (hclear _ (entries _ (mem_cons_of_mem _ mem_cons_self)) _
          (hu _ (mem_cons_of_mem _ mem_cons_self))) ?_
        simp [activeEntry, LotLock.conflicts, heq]
  | frees lock _ _ rotations visits =>
    refine hcongr ?_ rotations visits
    exact undisturbed_setRotation hclear lock (fun _ => rfl) (fun _ => rfl) fun r _ =>
      backOfLine_freed r _
  | @greets e v now _ _ _ mark turn free _ lock found state _ rotations visits =>
    have hturn : Undisturbed more d (d.setRotation e.rotation_id
        (.taken now (backOfLine e.rooftop_id d))) := by
      refine undisturbed_setRotation hclear turn (fun _ => rfl) (fun _ => rfl) fun r hr => ?_
      refine backOfLine_taken h free ?_ _ _
      rintro rfl
      exact hmarks _ mark hr
    refine hcongr (hturn.trans (undisturbed_setVisit hclear lock ?_)) rotations visits
    intro u hu hid
    rw [eq_of_key h.visits hu found hid, state]
    exact ⟨rfl, rfl, fun h => by cases h⟩
  | @takesOn _ v now actor _ _ lock found state _ rotations visits =>
    refine hcongr (undisturbed_setVisit (g := .accepted now actor) hclear lock ?_) rotations visits
    intro u hu hid
    rw [eq_of_key h.visits hu found hid]
    refine ⟨rfl, rfl, fun hdeparted => ?_⟩
    rw [ShowroomVisit.inHands, hdeparted] at state
    cases state
  | leaves lock _ _ rotations visits =>
    refine hcongr (undisturbed_setVisit hclear lock ?_) rotations visits
    exact fun _ _ _ => ⟨rfl, rfl, fun _ => rfl⟩
  | @departs _ e v now _ _ lock _ turn _ _ rotations visits =>
    have hvisit : Undisturbed more d (d.setVisit v.visit_id (.left now)) :=
      undisturbed_setVisit hclear lock fun _ _ _ => ⟨rfl, rfl, fun _ => rfl⟩
    refine hcongr (m := (d.setVisit v.visit_id (.left now)).setRotation e.rotation_id .freed)
      (hvisit.trans ?_) rotations visits
    exact undisturbed_setRotation hclear turn (fun _ => rfl) (fun _ => rfl) fun r _ =>
      backOfLine_freed r _

end Beside

def isPlaceMark : LotLock → Bool
  | .row "floor_rotations.position" _ .read => true
  | _ => false

theorem isPlaceMark_placeMark (r : String) : isPlaceMark (placeMark r) = true := rfl

abbrev FloorSession := Session FloorCall Showroom LotLock Raise FloorAnswer

/-- The two have not both read the end of one line. -/
def PassesBy (s t : FloorSession) : Prop := ∀ k ∈ s.held, isPlaceMark k = true → k ∉ t.held

instance (s t : FloorSession) : Decidable (PassesBy s t) :=
  inferInstanceAs (Decidable (∀ k ∈ s.held, isPlaceMark k = true → k ∉ t.held))

/-- A release is asked for people with no visit in hand, a customer is taken on by whoever
greeted them, and a call that has read the end of a line takes no turn while another one
that has read it is under way. -/
def Attended (S : FloorServer) : Event FloorCall → Prop
  | .turn i => ∀ s ∈ S.session i, s.call.Finds s.held S.committed ∧
      ∀ j < S.sessions.length, j ≠ i → ∀ t ∈ S.session j, PassesBy s t
  | .arrive _ | .abort _ => True

instance (S : FloorServer) : ∀ e, Decidable (Attended S e)
  | .turn i => inferInstanceAs (Decidable (∀ s ∈ S.session i, s.call.Finds s.held S.committed ∧
      ∀ j < S.sessions.length, j ≠ i → ∀ t ∈ S.session j, PassesBy s t))
  | .arrive _ | .abort _ => .isTrue trivial

theorem turns_cooperates :
    turns.Cooperates LotLock.conflicts FloorCall.program (fun _ _ => True) Attended where
  refl := fun _ => Undisturbed.refl
  trans := fun _ _ _ _ _ => .trans
  symm := LotLock.conflicts_symm
  begins := fun S c _ _ => c.program_sound S.committed
  sets_apart := fun _ _ _ _ _ _ => ⟨trivial, trivial⟩
  finds := fun _ _ s ha hs => (ha s hs).1
  respects := by
    intro S i j s t a ha hij hs ht _ hbeside hi hmoves
    refine FloorMoves.undisturbed hi hmoves hbeside.2 fun r hr => ?_
    exact (ha s hs).2 j (lt_of_session ht) (Ne.symm hij) t ht _ hr (isPlaceMark_placeMark r)

/-! ## What the floor comes to -/

/-- The turn a greeting took: an entry of the rotation, at its version. -/
def turnTaken : FloorEnding → Option (String × Nat)
  | .committed _ answer before _ => answer.greeted.bind fun (visit, greeter) =>
    (entryOf visit.rooftop_id greeter before).map fun e =>
      (e.rotation_id, e.authorization_version)
  | _ => none

/-- Whoever is greeted is greeted by somebody who was free and is busy from then on. -/
def TookTurn : FloorEnding → Prop
  | .committed _ answer before after => ∀ g ∈ answer.greeted,
      (∃ e, entryOf g.1.rooftop_id g.2 before = some e ∧ e.status = .available) ∧
        ∃ e ∈ after.floor_rotations, e.Holds g.1 ∧ e.status = .with_customer
  | _ => True

/-- A person is busy exactly when a visit is in their hands, every greeting takes a turn, no
two take the same, and nobody of a rooftop shares a place. -/
structure LeaksNobody (S : FloorServer) : Prop where
  busy : ∀ e ∈ S.committed.floor_rotations,
    e.status = .with_customer ↔ ∃ v ∈ S.committed.showroom_visits, e.Holds v
  turns : ∀ e ∈ S.history, TookTurn e
  once : (S.history.filterMap turnTaken).Nodup
  places : ∀ rooftopId, ((S.committed.floor_rotations.filter fun e =>
    e.rooftop_id = rooftopId).map (·.position)).Nodup

theorem FloorMoves.grows {c : FloorCall} {answer : FloorAnswer} {d' : Showroom}
    (hm : FloorMoves held c answer d d') :
    ∀ e ∈ d.floor_rotations, ∃ e' ∈ d'.floor_rotations, e'.rotation_id = e.rotation_id ∧
      e.authorization_version ≤ e'.authorization_version := by
  have hrewrites : ∀ {x : String} {g : FloorRotation → FloorRotation},
      (∀ f, (g f).rotation_id = f.rotation_id) →
      (∀ f, f.authorization_version ≤ (g f).authorization_version) →
      ∀ e ∈ d.floor_rotations, ∃ e' ∈ (d.setRotation x g).floor_rotations,
        e'.rotation_id = e.rotation_id ∧ e.authorization_version ≤ e'.authorization_version := by
    intro x g hid hversion e he
    by_cases hx : e.rotation_id = x
    · exact ⟨g e, mem_updateWhere_of_pos he hx, hid e, hversion e⟩
    · exact ⟨e, mem_updateWhere_of_neg he hx, rfl, Nat.le_refl _⟩
  cases hm with
  | stays rotations | comes _ _ _ _ rotations | takesOn _ _ _ _ rotations
  | leaves _ _ _ rotations =>
    rw [rotations]
    exact fun e he => ⟨e, he, rfl, Nat.le_refl _⟩
  | joins _ _ _ _ _ rotations =>
    rw [rotations]
    exact fun e he => ⟨e, mem_append_left _ he, rfl, Nat.le_refl _⟩
  | frees _ _ _ rotations | departs _ _ _ _ _ rotations =>
    rw [rotations]
    exact hrewrites (fun _ => rfl) fun _ => Nat.le_succ _
  | greets _ _ _ _ _ _ _ _ rotations =>
    rw [rotations]
    exact hrewrites (fun _ => rfl) fun _ => Nat.le_succ _

theorem FloorMoves.turn {c : FloorCall} {answer : FloorAnswer} {d' : Showroom} (h : Staffed d)
    (hm : FloorMoves held c answer d d') :
    TookTurn (.committed c answer d d') ∧
      ∀ x n, turnTaken (.committed c answer d d') = some (x, n) →
        (∃ e ∈ d.floor_rotations, e.rotation_id = x ∧ e.authorization_version = n) ∧
          ∃ e' ∈ d'.floor_rotations, e'.rotation_id = x ∧ n < e'.authorization_version := by
  have hquiet : answer.greeted = none → TookTurn (.committed c answer d d') ∧
      ∀ x n, turnTaken (.committed c answer d d') = some (x, n) →
        (∃ e ∈ d.floor_rotations, e.rotation_id = x ∧ e.authorization_version = n) ∧
          ∃ e' ∈ d'.floor_rotations, e'.rotation_id = x ∧ n < e'.authorization_version := by
    intro hnone
    constructor
    · intro g hg
      rw [hnone] at hg
      cases hg
    · intro x n hturn
      rw [turnTaken, hnone] at hturn
      cases hturn
  cases hm with
  | stays _ _ quiet | joins _ _ _ _ _ _ _ quiet | comes _ _ _ _ _ _ quiet
  | frees _ _ _ _ _ quiet | takesOn _ _ _ _ _ _ quiet | leaves _ _ _ _ _ quiet
  | departs _ _ _ _ _ _ _ quiet => exact hquiet quiet
  | @greets e v now fromRotation _ _ mark turn free status lock found state rooftop rotations
      visits =>
      have hentry : entryOf (v.greeted now e.user_link_id).rooftop_id e.user_link_id d =
          some e := by
        change entryOf v.rooftop_id e.user_link_id d = some e
        rw [rooftop]
        exact entryOf_eq_some h free
      have htaken : e.taken now (backOfLine e.rooftop_id d) ∈ d'.floor_rotations := by
        rw [rotations]
        exact (mem_setRotation h free).mpr (.inl rfl)
      have hhands : (v.greeted now e.user_link_id).hands = some e.user_link_id := by
        have hnone := h.arrivals v found state
        rw [ShowroomVisit.hands, Option.or_eq_none_iff] at hnone
        change v.accepted_by_user_link_id.or (some e.user_link_id) = _
        rw [hnone.1, Option.none_or]
      constructor
      · intro g hg
        cases hg
        exact ⟨⟨e, hentry, status⟩, _, htaken, ⟨rfl, rooftop, hhands⟩, rfl⟩
      · intro x n hturn
        have hturn' : (entryOf (v.greeted now e.user_link_id).rooftop_id e.user_link_id d).map
            (fun f : FloorRotation => (f.rotation_id, f.authorization_version)) = some (x, n) :=
          hturn
        rw [hentry] at hturn'
        cases hturn'
        exact ⟨⟨e, free, rfl, rfl⟩, _, htaken, rfl, Nat.lt_succ_self _⟩

/-- **The floor does not leak people.**  From a floor in order, in every interleaving in
which whoever takes a customer on greeted them, releases are asked for people with no
visit in hand, and no two calls that have read the end of one line overlap. -/
theorem floor_leaks_nobody {db : Showroom} (hdb : Staffed db) {events : List (Event FloorCall)}
    (h : Along (Server.step LotLock.conflicts FloorCall.program) Attended (.fresh db) events) :
    LeaksNobody (run (Server.step LotLock.conflicts FloorCall.program) (.fresh db) events) := by
  have hg := turns_cooperates.guarded hdb h
  have haccount := turns_cooperates.account
    (I := fun es d => (∀ e ∈ es, TookTurn e) ∧ (es.filterMap turnTaken).Nodup ∧
      ∀ p ∈ es.filterMap turnTaken, ∃ e ∈ d.floor_rotations,
        e.rotation_id = p.1 ∧ p.2 < e.authorization_version) hdb
    ⟨forall_mem_nil _, nodup_nil, forall_mem_nil _⟩ ?_ h
  · refine ⟨fun e he => ⟨hg.inv.busy e he, ?_⟩, haccount.1, haccount.2.1, fun r => ?_⟩
    · rintro ⟨v, hv, hholds⟩
      exact hg.inv.status_of_holds he hv hholds
    · refine List.Nodup.map_on ?_ ((hg.inv.rotations.of_map _).filter _)
      intro e he f hf heq
      simp only [mem_filter, decide_eq_true_eq] at he hf
      refine eq_of_key hg.inv.places he.1 hf.1 ?_
      rw [FloorRotation.place, FloorRotation.place, he.2, hf.2, heq]
  · intro es e d d' hes hleads hkeeps
    obtain ⟨htook, hnodup, hpassed⟩ := hes
    cases e with
    | raised c | aborted c =>
      cases hleads
      simp only [filterMap_append, filterMap_cons, turnTaken, filterMap_nil, append_nil]
      refine ⟨fun e' he' => ?_, hnodup, hpassed⟩
      rcases mem_inserted he' with he' | rfl
      · exact htook e' he'
      · trivial
    | committed c answer before after =>
      obtain ⟨rfl, rfl⟩ := hleads
      obtain ⟨hi, -, held, hmoves⟩ := hkeeps
      obtain ⟨hturn, htaken⟩ := FloorMoves.turn hi hmoves
      have hpassed' : ∀ p ∈ es.filterMap turnTaken, ∃ e ∈ d'.floor_rotations,
          e.rotation_id = p.1 ∧ p.2 < e.authorization_version := by
        intro p hp
        obtain ⟨f, hf, hid, hlt⟩ := hpassed p hp
        obtain ⟨f', hf', hid', hle⟩ := FloorMoves.grows hmoves f hf
        exact ⟨f', hf', hid'.trans hid, Nat.lt_of_lt_of_le hlt hle⟩
      refine ⟨fun e' he' => ?_, ?_⟩
      · rcases mem_inserted he' with he' | rfl
        · exact htook e' he'
        · exact hturn
      rw [filterMap_append]
      cases hthis : turnTaken (.committed c answer d d') with
      | none =>
        rw [filterMap_cons_none hthis, filterMap_nil, append_nil]
        exact ⟨hnodup, hpassed'⟩
      | some p =>
        obtain ⟨x, n⟩ := p
        obtain ⟨⟨f, hf, hfid, hfn⟩, f', hf', hfid', hlt⟩ := htaken x n hthis
        rw [filterMap_cons_some hthis, filterMap_nil]
        constructor
        · refine nodup_append.mpr ⟨hnodup, nodup_singleton _, ?_⟩
          intro p hp q hq heq
          rw [mem_singleton] at hq
          obtain ⟨f₀, hf₀, hid₀, hlt₀⟩ := hpassed p hp
          rw [heq, hq] at hid₀ hlt₀
          have hsame := eq_of_key hi.rotations hf₀ hf (hid₀.trans hfid.symm)
          rw [hsame, hfn] at hlt₀
          exact Nat.lt_irrefl _ hlt₀
        · intro p hp
          rcases mem_inserted hp with hp | rfl
          · exact hpassed' p hp
          · exact ⟨f', hf', hfid', hlt⟩

/-! ## A Saturday -/

namespace Saturday

def ana := "c0000000-0000-4000-8000-000000000001"

def bo := "c0000000-0000-4000-8000-000000000002"

def world (id : String) : SalesWorld :=
  ⟨⟨fun _ => true, fun _ _ => true⟩, 0, id, "e" ++ id⟩

def customer (id : String) : Crm.Party :=
  ⟨id, .person, "Ada", some "Ada", some "Ray", none, none, none, .active, true, 1⟩

def morning : Showroom := .quiet [customer "p", customer "q"] [] [] ⟨[], [], [], [], []⟩

theorem morning_staffed : Staffed morning :=
  ⟨nodup_nil, nodup_nil, nodup_nil, nodup_nil, forall_mem_nil _,
    forall_mem_nil _, forall_mem_nil _, forall_mem_nil _⟩

abbrev serve : List (Event FloorCall) → FloorServer :=
  served LotLock.conflicts FloorCall.program morning

def opening : List FloorCall :=
  [.join (world "1") ⟨ana, "r", ana⟩, .join (world "2") ⟨ana, "r", bo⟩,
    .checkIn (world "3") ⟨ana, "r", "p", none, none⟩, .greet (world "4") [] ⟨ana, "3", 1, none⟩]

/-- A customer is greeted, taken on and gone, while another one is greeted by name. -/
def quietDay : List (Event FloorCall) :=
  oneByOne 8 (opening ++ [.accept (world "5") ⟨ana, "3", 2⟩,
    .checkIn (world "6") ⟨ana, "r", "q", none, none⟩,
    .greet (world "7") [] ⟨ana, "6", 1, some bo⟩, .depart (world "8") ⟨ana, "3", 3⟩ none]) 0

/-- Ana greets the customer and Bo takes them on. -/
def otherHands : List (Event FloorCall) :=
  oneByOne 8 (opening ++ [.accept (world "5") ⟨bo, "3", 2⟩]) 0

/-- Two people join at once. -/
def bothLast : List (Event FloorCall) :=
  [.arrive (.join (world "1") ⟨ana, "r", ana⟩), .arrive (.join (world "2") ⟨ana, "r", bo⟩)] ++
    (List.replicate 4 [.turn 0, .turn 1]).flatten

end Saturday

open Saturday in
/-- Ana is free again, and Bo is with a customer. -/
theorem quiet_day_leaks_nobody :
    (serve quietDay).committed.floor_rotations.map (fun e => (e.user_link_id, e.position,
        e.status)) = [(ana, 2, .available), (bo, 3, .with_customer)] ∧
      LeaksNobody (serve quietDay) :=
  ⟨by decide +kernel, floor_leaks_nobody morning_staffed (by decide +kernel)⟩

open Saturday in
/-- Whoever greets a customer that somebody else takes on stays busy with nobody, and two
who join at once share a place. -/
theorem other_hands_and_shared_places :
    ¬ LeaksNobody (serve otherHands) ∧ ¬ LeaksNobody (serve bothLast) :=
  ⟨fun h => absurd h.busy (by decide +kernel), fun h => absurd (h.places "r") (by decide +kernel)⟩

end Dealership.Sales
