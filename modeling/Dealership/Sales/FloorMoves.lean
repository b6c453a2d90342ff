import Dealership.Sales.VisitParts

/-!
# What the floor knows of its people

An entry of the rotation is busy when a visit is in the hands of its person.  A greeting
puts a visit into somebody's hands and makes their entry busy at once, a departure undoes
both, and whoever takes a customer on is the one who greeted them.  Places are drawn from
the end of the line, so nobody shares one.
-/

namespace Dealership.Sales

open Library List
open Inventory (LotLock)

variable {e : FloorRotation} {v : ShowroomVisit} {d : Showroom}

/-! ## Calls -/

inductive FloorCall where
  | join (w : SalesWorld) (input : SeatInput)
  | release (w : SalesWorld) (input : SeatInput)
  | checkIn (w : SalesWorld) (input : CheckInInput)
  | greet (w : SalesWorld) (locked : List String) (input : GreetInput)
  | accept (w : SalesWorld) (input : VisitInput)
  | depart (w : SalesWorld) (input : VisitInput) (note : Option String)

inductive FloorAnswer where
  | rotation (outcome : RotationOutcome)
  | release (outcome : ReleaseOutcome)
  | arrival (outcome : CheckInOutcome)
  | greeting (outcome : GreetOutcome)
  | acceptance (outcome : VisitAcceptOutcome)
  | departure (outcome : VisitCloseOutcome)

def FloorCall.program : FloorCall → SalesWork FloorAnswer
  | .join w input => joinFloor w input >>= fun outcome => pure (.rotation outcome)
  | .release w input => releaseToFloor w input >>= fun outcome => pure (.release outcome)
  | .checkIn w input => Sales.checkIn w input >>= fun outcome => pure (.arrival outcome)
  | .greet w locked input => greetVisit w locked input >>= fun outcome => pure (.greeting outcome)
  | .accept w input => acceptVisit w input >>= fun outcome => pure (.acceptance outcome)
  | .depart w input note => departVisit w input note >>= fun outcome => pure (.departure outcome)

abbrev FloorServer := Server FloorCall Showroom LotLock Raise FloorAnswer

abbrev FloorEnding := Ending FloorCall Showroom Raise FloorAnswer

def FloorAnswer.greeted : FloorAnswer → Option (ShowroomVisit × String)
  | .greeting (.greeted visit greetedBy _) => some (visit, greetedBy)
  | _ => none

/-! ## In whose hands -/

def ShowroomVisit.inHands (v : ShowroomVisit) : Bool :=
  v.state = .greeted || v.state = .with_salesperson

/-- The visit is at the rooftop of the entry and in the hands of its person. -/
def FloorRotation.Holds (e : FloorRotation) (v : ShowroomVisit) : Prop :=
  v.inHands = true ∧ v.rooftop_id = e.rooftop_id ∧ v.hands = some e.user_link_id

instance (e : FloorRotation) (v : ShowroomVisit) : Decidable (e.Holds v) :=
  inferInstanceAs (Decidable (_ ∧ _ ∧ _))

def FloorRotation.seat (e : FloorRotation) : String × String := (e.rooftop_id, e.user_link_id)

def FloorRotation.place (e : FloorRotation) : String × Nat := (e.rooftop_id, e.position)

theorem FloorRotation.place_freed (e : FloorRotation) : e.freed.place = e.place := rfl

theorem FloorRotation.Holds.seat_eq {f : FloorRotation} (he : e.Holds v) (hf : f.Holds v) :
    e.seat = f.seat := by
  rw [FloorRotation.seat, FloorRotation.seat, ← he.2.1, ← hf.2.1,
    Option.some.inj (he.2.2.symm.trans hf.2.2)]

theorem FloorRotation.fits_iff : e.fits d = true ↔ e.position ≤ maxInteger ∧
      ∀ f ∈ d.floor_rotations, f.rotation_id ≠ e.rotation_id ∧ f.seat ≠ e.seat := by
  simp only [FloorRotation.fits, FloorRotation.seat, Bool.and_eq_true, decide_eq_true_eq,
    all_eq_true, Bool.not_eq_true', Bool.and_eq_false_iff, decide_eq_false_iff_not, ne_eq,
    Prod.mk.injEq, not_and_or]

theorem ShowroomVisit.fits_iff :
    v.fits d = true ↔ v.valid = true ∧ ∀ u ∈ d.showroom_visits,
      u.visit_id ≠ v.visit_id ∧ (u.party_id = v.party_id → u.state = .departed) := by
  simp only [ShowroomVisit.fits, Bool.and_eq_true, decide_eq_true_eq, all_eq_true,
    Bool.not_eq_true', Bool.and_eq_false_iff, decide_eq_false_iff_not, ne_eq, not_not,
    imp_iff_not_or]

/-- Keys are keys, places too, whoever is busy has a visit in hand, a visit in hand has
somebody busy with it, and nobody has two. -/
structure Staffed (d : Showroom) : Prop where
  rotations : (d.floor_rotations.map (·.rotation_id)).Nodup
  seats : (d.floor_rotations.map (·.seat)).Nodup
  places : (d.floor_rotations.map (·.place)).Nodup
  visits : (d.showroom_visits.map (·.visit_id)).Nodup
  arrivals : ∀ v ∈ d.showroom_visits, v.state = .arrived → v.hands = none
  busy : ∀ e ∈ d.floor_rotations, e.status = .with_customer → ∃ v ∈ d.showroom_visits, e.Holds v
  handed : ∀ v ∈ d.showroom_visits, v.inHands = true →
    ∃ e ∈ d.floor_rotations, e.status = .with_customer ∧ e.Holds v
  one : ∀ e ∈ d.floor_rotations, ∀ u ∈ d.showroom_visits, ∀ v ∈ d.showroom_visits,
    e.Holds u → e.Holds v → u = v

theorem Staffed.status_of_holds (h : Staffed d) (he : e ∈ d.floor_rotations)
    (hv : v ∈ d.showroom_visits) (hholds : e.Holds v) : e.status = .with_customer := by
  obtain ⟨f, hf, hstatus, hfholds⟩ := h.handed v hv hholds.1
  rw [eq_of_key h.seats he hf (hholds.seat_eq hfholds)]
  exact hstatus

/-! ## Places -/

theorem lt_backOfLine (he : e ∈ d.floor_rotations) : e.position < backOfLine e.rooftop_id d := by
  have hmem : e.position + 1 ∈ (d.floor_rotations.filter fun f =>
      f.rooftop_id = e.rooftop_id).map (·.position + 1) :=
    mem_map.mpr ⟨e, mem_filter.mpr ⟨he, decide_eq_true rfl⟩, rfl⟩
  rw [backOfLine]
  generalize (d.floor_rotations.filter fun f =>
    f.rooftop_id = e.rooftop_id).map (·.position + 1) = places at hmem ⊢
  induction places with
  | nil => cases hmem
  | cons p ps ih =>
    rw [foldr_cons]
    rcases mem_cons.mp hmem with rfl | hmem
    · exact Nat.lt_of_succ_le (Nat.le_max_left _ _)
    · exact Nat.lt_of_lt_of_le (ih hmem) (Nat.le_max_right _ _)

theorem place_ne_backOfLine {f : FloorRotation} (he : e ∈ d.floor_rotations)
    (hplace : f.position = backOfLine f.rooftop_id d) : e.place ≠ f.place := by
  intro heq
  obtain ⟨hrooftop, hposition⟩ := Prod.mk.inj heq
  have hlt := lt_backOfLine he
  rw [hrooftop, ← hplace, hposition] at hlt
  exact Nat.lt_irrefl _ hlt

/-! ## What a commit does -/

/-- What a commit that held `held` did to the rotation and to the visits. -/
inductive FloorMoves (held : List LotLock) :
    FloorCall → FloorAnswer → Showroom → Showroom → Prop where
  | stays {c : FloorCall} {answer : FloorAnswer} {d d' : Showroom}
      (rotations : d'.floor_rotations = d.floor_rotations)
      (visits : d'.showroom_visits = d.showroom_visits) (quiet : answer.greeted = none) :
      FloorMoves held c answer d d'
  | joins {c : FloorCall} {answer : FloorAnswer} {e : FloorRotation} {d d' : Showroom}
      (mark : placeMark e.rooftop_id ∈ held) (entries : ∀ k ∈ e.entries, k ∈ held)
      (fits : e.fits d = true) (status : e.status = .available)
      (place : e.position = backOfLine e.rooftop_id d)
      (rotations : d'.floor_rotations = d.floor_rotations ++ [e])
      (visits : d'.showroom_visits = d.showroom_visits) (quiet : answer.greeted = none) :
      FloorMoves held c answer d d'
  | comes {c : FloorCall} {answer : FloorAnswer} {v : ShowroomVisit} {d d' : Showroom}
      (entries : ∀ k ∈ v.entries, k ∈ held) (fits : v.fits d = true) (state : v.state = .arrived)
      (hands : v.hands = none) (rotations : d'.floor_rotations = d.floor_rotations)
      (visits : d'.showroom_visits = d.showroom_visits ++ [v]) (quiet : answer.greeted = none) :
      FloorMoves held c answer d d'
  | frees {c : FloorCall} {answer : FloorAnswer} {e : FloorRotation} {d d' : Showroom}
      (lock : Locked held "floor_rotations" e.rotation_id) (found : e ∈ d.floor_rotations)
      (idle : ∀ v ∈ d.showroom_visits, ¬ e.Holds v)
      (rotations : d'.floor_rotations = (d.setRotation e.rotation_id .freed).floor_rotations)
      (visits : d'.showroom_visits = d.showroom_visits) (quiet : answer.greeted = none) :
      FloorMoves held c answer d d'
  | greets {c : FloorCall} {e : FloorRotation} {v : ShowroomVisit} {now : Int}
      {fromRotation : Bool} {d d' : Showroom}
      (mark : placeMark e.rooftop_id ∈ held)
      (turn : Locked held "floor_rotations" e.rotation_id) (free : e ∈ d.floor_rotations)
      (status : e.status = .available)
      (lock : Locked held "showroom_visits" v.visit_id) (found : v ∈ d.showroom_visits)
      (state : v.state = .arrived) (rooftop : v.rooftop_id = e.rooftop_id)
      (rotations : d'.floor_rotations = (d.setRotation e.rotation_id
        (.taken now (backOfLine e.rooftop_id d))).floor_rotations)
      (visits : d'.showroom_visits =
        (d.setVisit v.visit_id (.greeted now e.user_link_id)).showroom_visits) :
      FloorMoves held c
        (.greeting (.greeted (v.greeted now e.user_link_id) e.user_link_id fromRotation)) d d'
  | takesOn {c : FloorCall} {answer : FloorAnswer} {v : ShowroomVisit} {now : Int}
      {actor : String} {d d' : Showroom}
      (lock : Locked held "showroom_visits" v.visit_id) (found : v ∈ d.showroom_visits)
      (state : v.inHands = true) (hands : v.hands = some actor)
      (rotations : d'.floor_rotations = d.floor_rotations)
      (visits : d'.showroom_visits = (d.setVisit v.visit_id (.accepted now actor)).showroom_visits)
      (quiet : answer.greeted = none) :
      FloorMoves held c answer d d'
  | leaves {c : FloorCall} {answer : FloorAnswer} {v : ShowroomVisit} {now : Int}
      {d d' : Showroom} (lock : Locked held "showroom_visits" v.visit_id)
      (found : v ∈ d.showroom_visits) (state : v.inHands = false)
      (rotations : d'.floor_rotations = d.floor_rotations)
      (visits : d'.showroom_visits = (d.setVisit v.visit_id (.left now)).showroom_visits)
      (quiet : answer.greeted = none) :
      FloorMoves held c answer d d'
  | departs {c : FloorCall} {answer : FloorAnswer} {e : FloorRotation} {v : ShowroomVisit}
      {now : Int} {d d' : Showroom} (lock : Locked held "showroom_visits" v.visit_id)
      (found : v ∈ d.showroom_visits) (turn : Locked held "floor_rotations" e.rotation_id)
      (entry : e ∈ d.floor_rotations) (holds : e.Holds v)
      (rotations : d'.floor_rotations = (d.setRotation e.rotation_id .freed).floor_rotations)
      (visits : d'.showroom_visits = (d.setVisit v.visit_id (.left now)).showroom_visits)
      (quiet : answer.greeted = none) :
      FloorMoves held c answer d d'

/-! ## One entry, one visit -/

section Rows

variable {d : Showroom} {f : FloorRotation} {u : ShowroomVisit}

theorem mem_setRotation (h : Staffed d) (he : e ∈ d.floor_rotations)
    {g : FloorRotation → FloorRotation} :
    f ∈ (d.setRotation e.rotation_id g).floor_rotations ↔
      f = g e ∨ (f ∈ d.floor_rotations ∧ f ≠ e) := by
  rw [Showroom.setRotation, mem_updateWhere_key h.rotations he fun _ => Iff.rfl, or_comm]
  refine or_congr_right (and_congr_right fun hf => not_congr ⟨eq_of_key h.rotations hf he, ?_⟩)
  exact congrArg _

theorem mem_setVisit (h : Staffed d) (hv : v ∈ d.showroom_visits)
    {g : ShowroomVisit → ShowroomVisit} :
    u ∈ (d.setVisit v.visit_id g).showroom_visits ↔ u = g v ∨ (u ∈ d.showroom_visits ∧ u ≠ v) := by
  rw [Showroom.setVisit, mem_updateWhere_key h.visits hv fun _ => Iff.rfl, or_comm]
  refine or_congr_right (and_congr_right fun hu => not_congr ⟨eq_of_key h.visits hu hv, ?_⟩)
  exact congrArg _

theorem not_holds_of_not_inHands (h : v.inHands = false) : ¬ e.Holds v := by
  rintro ⟨hin, -⟩
  rw [h] at hin
  cases hin

theorem ShowroomVisit.inHands_of_state (h : v.state = .arrived) : v.inHands = false := by
  rw [ShowroomVisit.inHands, h]
  rfl

theorem FloorRotation.holds_accepted {now : Int} {actor : String} (hin : v.inHands = true)
    (hhands : v.hands = some actor) : e.Holds (v.accepted now actor) ↔ e.Holds v := by
  have hactor : (v.accepted now actor).hands = v.hands := hhands.symm
  rw [FloorRotation.Holds, FloorRotation.Holds, hactor, hin]
  exact Iff.rfl

theorem ShowroomVisit.inHands_left {now : Int} : (v.left now).inHands = false := rfl

end Rows

/-! ## Each move keeps the floor staffed -/

section Moves

variable {d d' : Showroom} {now : Int}

theorem Staffed.congr (h : Staffed d) (hrotations : d'.floor_rotations = d.floor_rotations)
    (hvisits : d'.showroom_visits = d.showroom_visits) : Staffed d' := by
  obtain ⟨h1, h2, h3, h4, h5, h6, h7, h8⟩ := h
  constructor <;> simp only [hrotations, hvisits] <;> assumption

/-- An entry is rewritten, and keeps its person and its rooftop. -/
theorem Staffed.rotation_keys (h : Staffed d) {g : FloorRotation → FloorRotation}
    (hid : ∀ f, (g f).rotation_id = f.rotation_id) (hseat : ∀ f, (g f).seat = f.seat) :
    ((d.setRotation e.rotation_id g).floor_rotations.map (·.rotation_id)).Nodup ∧
      ((d.setRotation e.rotation_id g).floor_rotations.map (·.seat)).Nodup := by
  constructor
  · exact nodup_map_updateWhere h.rotations fun f _ => hid f
  · exact nodup_map_updateWhere h.seats fun f _ => hseat f

theorem Staffed.visit_keys (h : Staffed d) {g : ShowroomVisit → ShowroomVisit}
    (hid : ∀ u, (g u).visit_id = u.visit_id) :
    ((d.setVisit v.visit_id g).showroom_visits.map (·.visit_id)).Nodup :=
  nodup_map_updateWhere h.visits fun u _ => hid u

theorem Staffed.joins (h : Staffed d) (hfits : e.fits d = true) (hstatus : e.status = .available)
    (hplace : e.position = backOfLine e.rooftop_id d)
    (hrotations : d'.floor_rotations = d.floor_rotations ++ [e])
    (hvisits : d'.showroom_visits = d.showroom_visits) : Staffed d' := by
  have hnew := (FloorRotation.fits_iff.mp hfits).2
  constructor
  · rw [hrotations]
    exact nodup_key_insert h.rotations fun f hf => (hnew f hf).1
  · rw [hrotations]
    exact nodup_key_insert h.seats fun f hf => (hnew f hf).2
  · rw [hrotations]
    exact nodup_key_insert h.places fun f hf => place_ne_backOfLine hf hplace
  · rw [hvisits]
    exact h.visits
  · rw [hvisits]
    exact h.arrivals
  · rw [hrotations, hvisits]
    intro f hf hbusy
    rcases mem_inserted hf with hf | rfl
    · exact h.busy f hf hbusy
    · rw [hstatus] at hbusy
      cases hbusy
  · rw [hrotations, hvisits]
    intro v hv hin
    obtain ⟨f, hf, hheld⟩ := h.handed v hv hin
    exact ⟨f, mem_append_left _ hf, hheld⟩
  · rw [hrotations, hvisits]
    intro f hf u hu v hv hfu hfv
    rcases mem_append.mp hf with hf | hf
    · exact h.one f hf u hu v hv hfu hfv
    · obtain ⟨f', hf', -, hholds⟩ := h.handed u hu hfu.1
      rw [mem_singleton.mp hf] at hfu
      exact absurd (hholds.seat_eq hfu) (hnew f' hf').2

theorem Staffed.comes (h : Staffed d) (hfits : v.fits d = true) (hstate : v.state = .arrived)
    (hhands : v.hands = none) (hrotations : d'.floor_rotations = d.floor_rotations)
    (hvisits : d'.showroom_visits = d.showroom_visits ++ [v]) : Staffed d' := by
  have hnot : ∀ e : FloorRotation, ¬ e.Holds v := fun _ =>
    not_holds_of_not_inHands (ShowroomVisit.inHands_of_state hstate)
  have hold : ∀ u ∈ d'.showroom_visits, u.inHands = true → u ∈ d.showroom_visits := by
    rw [hvisits]
    intro u hu hin
    rcases mem_inserted hu with hu | rfl
    · exact hu
    · rw [ShowroomVisit.inHands_of_state hstate] at hin
      cases hin
  constructor
  · rw [hrotations]
    exact h.rotations
  · rw [hrotations]
    exact h.seats
  · rw [hrotations]
    exact h.places
  · rw [hvisits]
    exact nodup_key_insert h.visits fun u hu => ((ShowroomVisit.fits_iff.mp hfits).2 u hu).1
  · rw [hvisits]
    intro u hu harrived
    rcases mem_inserted hu with hu | rfl
    · exact h.arrivals u hu harrived
    · exact hhands
  · rw [hrotations, hvisits]
    intro e he hbusy
    obtain ⟨u, hu, hholds⟩ := h.busy e he hbusy
    exact ⟨u, mem_append_left _ hu, hholds⟩
  · rw [hrotations]
    exact fun u hu hin => h.handed u (hold u hu hin) hin
  · rw [hrotations]
    exact fun e he u hu x hx hu' hx' =>
      h.one e he u (hold u hu hu'.1) x (hold x hx hx'.1) hu' hx'

theorem Staffed.frees (h : Staffed d) (he : e ∈ d.floor_rotations)
    (hidle : ∀ v ∈ d.showroom_visits, ¬ e.Holds v) :
    Staffed (d.setRotation e.rotation_id .freed) := by
  obtain ⟨hids, hseats⟩ := h.rotation_keys (e := e) (g := .freed) (fun _ => rfl) fun _ => rfl
  refine ⟨hids, hseats, ?_, h.visits, h.arrivals, ?_, ?_, ?_⟩
  · exact nodup_map_updateWhere h.places fun f _ => FloorRotation.place_freed f
  · intro f hf hbusy
    rcases (mem_setRotation h he).mp hf with rfl | ⟨hf, -⟩
    · cases hbusy
    · exact h.busy f hf hbusy
  · intro v hv hin
    obtain ⟨f, hf, hstatus, hholds⟩ := h.handed v hv hin
    refine ⟨f, (mem_setRotation h he).mpr (.inr ⟨hf, ?_⟩), hstatus, hholds⟩
    rintro rfl
    exact hidle v hv hholds
  · intro f hf u hu v hv hfu hfv
    rcases (mem_setRotation h he).mp hf with rfl | ⟨hf, -⟩
    · exact absurd hfu (hidle u hu)
    · exact h.one f hf u hu v hv hfu hfv

theorem Staffed.greets (h : Staffed d) (he : e ∈ d.floor_rotations) (hfree : e.status = .available)
    (hv : v ∈ d.showroom_visits) (hstate : v.state = .arrived)
    (hrooftop : v.rooftop_id = e.rooftop_id) :
    Staffed ((d.setRotation e.rotation_id (.taken now (backOfLine e.rooftop_id d))).setVisit
      v.visit_id (.greeted now e.user_link_id)) := by
  have hidle : ∀ u ∈ d.showroom_visits, ¬ e.Holds u := by
    intro u hu hholds
    have hbusy := h.status_of_holds he hu hholds
    rw [hfree] at hbusy
    cases hbusy
  have hnot : ∀ f : FloorRotation, ¬ f.Holds v := fun _ =>
    not_holds_of_not_inHands (ShowroomVisit.inHands_of_state hstate)
  have hhands : (v.greeted now e.user_link_id).hands = some e.user_link_id := by
    have hnone := h.arrivals v hv hstate
    rw [ShowroomVisit.hands, Option.or_eq_none_iff] at hnone
    rw [ShowroomVisit.hands]
    change v.accepted_by_user_link_id.or (some e.user_link_id) = _
    rw [hnone.1, Option.none_or]
  have hholds : ∀ f : FloorRotation, f.seat = e.seat → f.Holds (v.greeted now e.user_link_id) := by
    intro f hseat
    obtain ⟨hr, hu⟩ := Prod.mk.inj hseat
    exact ⟨rfl, hrooftop.trans hr.symm, hu ▸ hhands⟩
  have hseat : ∀ f : FloorRotation, f.Holds (v.greeted now e.user_link_id) → f.seat = e.seat :=
    fun f hf => hf.seat_eq (hholds e rfl)
  -- Both sides of the move, row by row.
  have hrot : ∀ f : FloorRotation, f ∈ ((d.setRotation e.rotation_id
      (.taken now (backOfLine e.rooftop_id d))).setVisit v.visit_id
        (.greeted now e.user_link_id)).floor_rotations ↔
      f = e.taken now (backOfLine e.rooftop_id d) ∨ (f ∈ d.floor_rotations ∧ f ≠ e) :=
    fun f => mem_setRotation h he
  have hvis : ∀ u : ShowroomVisit, u ∈ ((d.setRotation e.rotation_id
      (.taken now (backOfLine e.rooftop_id d))).setVisit v.visit_id
        (.greeted now e.user_link_id)).showroom_visits ↔
      u = v.greeted now e.user_link_id ∨ (u ∈ d.showroom_visits ∧ u ≠ v) :=
    fun u => mem_setVisit h hv
  obtain ⟨hids, hseats⟩ := h.rotation_keys (e := e)
    (g := .taken now (backOfLine e.rooftop_id d)) (fun _ => rfl) fun _ => rfl
  refine ⟨hids, hseats, ?_, h.visit_keys fun _ => rfl, ?_, ?_, ?_, ?_⟩
  · refine nodup_key_updateWhere h.places ?_ ?_
    · intro f hf g hg hfid hgid
      exact eq_of_key h.rotations hf hg (hfid.trans hgid.symm)
    · intro f hf hid g hg
      rw [eq_of_key h.rotations hf he hid]
      exact place_ne_backOfLine hg rfl
  · intro u hu harrived
    rcases (hvis u).mp hu with rfl | ⟨hu, -⟩
    · cases harrived
    · exact h.arrivals u hu harrived
  · intro f hf hbusy
    rcases (hrot f).mp hf with rfl | ⟨hf, -⟩
    · exact ⟨_, (hvis _).mpr (.inl rfl), hholds _ rfl⟩
    · obtain ⟨u, hu, hfu⟩ := h.busy f hf hbusy
      refine ⟨u, (hvis u).mpr (.inr ⟨hu, ?_⟩), hfu⟩
      rintro rfl
      exact hnot f hfu
  · intro u hu hin
    rcases (hvis u).mp hu with rfl | ⟨hu, -⟩
    · exact ⟨_, (hrot _).mpr (.inl rfl), rfl, hholds _ rfl⟩
    · obtain ⟨f, hf, hstatus, hfu⟩ := h.handed u hu hin
      refine ⟨f, (hrot f).mpr (.inr ⟨hf, fun heq => ?_⟩), hstatus, hfu⟩
      exact hidle u hu (heq ▸ hfu)
  · -- Nobody who is free holds a visit, so whoever holds the greeted one holds it alone.
    have hold : ∀ f ∈ d.floor_rotations, f ≠ e → ∀ x : ShowroomVisit, f.Holds x →
        x ∈ ((d.setRotation e.rotation_id (.taken now (backOfLine e.rooftop_id d))).setVisit
          v.visit_id (.greeted now e.user_link_id)).showroom_visits → x ∈ d.showroom_visits := by
      intro f hf hne x hfx hx
      rcases (hvis x).mp hx with rfl | ⟨hx, -⟩
      · exact absurd (eq_of_key h.seats hf he (hseat f hfx)) hne
      · exact hx
    have hown : ∀ x : ShowroomVisit, e.Holds x →
        x ∈ ((d.setRotation e.rotation_id (.taken now (backOfLine e.rooftop_id d))).setVisit
          v.visit_id (.greeted now e.user_link_id)).showroom_visits →
            x = v.greeted now e.user_link_id := by
      intro x hex hx
      rcases (hvis x).mp hx with rfl | ⟨hx, -⟩
      · rfl
      · exact absurd hex (hidle x hx)
    intro f hf u hu x hx hfu hfx
    rcases (hrot f).mp hf with rfl | ⟨hf, hne⟩
    · rw [hown u hfu hu, hown x hfx hx]
    · exact h.one f hf u (hold f hf hne u hfu hu) x (hold f hf hne x hfx hx) hfu hfx

theorem Staffed.takesOn (h : Staffed d) {actor : String} (hv : v ∈ d.showroom_visits)
    (hin : v.inHands = true) (hhands : v.hands = some actor) :
    Staffed (d.setVisit v.visit_id (.accepted now actor)) := by
  have hholds : ∀ e : FloorRotation, e.Holds (v.accepted now actor) ↔ e.Holds v := fun _ =>
    FloorRotation.holds_accepted hin hhands
  refine ⟨h.rotations, h.seats, h.places, h.visit_keys fun _ => rfl, ?_, ?_, ?_, ?_⟩
  · intro u hu harrived
    rcases (mem_setVisit h hv).mp hu with rfl | ⟨hu, -⟩
    · cases harrived
    · exact h.arrivals u hu harrived
  · intro e he hbusy
    obtain ⟨u, hu, heu⟩ := h.busy e he hbusy
    by_cases huv : u = v
    · exact ⟨_, (mem_setVisit h hv).mpr (.inl rfl), (hholds e).mpr (huv ▸ heu)⟩
    · exact ⟨u, (mem_setVisit h hv).mpr (.inr ⟨hu, huv⟩), heu⟩
  · intro u hu huin
    rcases (mem_setVisit h hv).mp hu with rfl | ⟨hu, -⟩
    · obtain ⟨e, he, hstatus, hev⟩ := h.handed v hv hin
      exact ⟨e, he, hstatus, (hholds e).mpr hev⟩
    · exact h.handed u hu huin
  · intro e he u hu x hx heu hex
    rcases (mem_setVisit h hv).mp hu with rfl | ⟨hu, huv⟩
    · rcases (mem_setVisit h hv).mp hx with rfl | ⟨hx, hxv⟩
      · rfl
      · exact absurd (h.one e he x hx v hv hex ((hholds e).mp heu)) hxv
    · rcases (mem_setVisit h hv).mp hx with rfl | ⟨hx, -⟩
      · exact absurd (h.one e he u hu v hv heu ((hholds e).mp hex)) huv
      · exact h.one e he u hu x hx heu hex

theorem Staffed.leaves (h : Staffed d) (hv : v ∈ d.showroom_visits)
    (hin : v.inHands = false) : Staffed (d.setVisit v.visit_id (.left now)) := by
  have hold : ∀ u ∈ (d.setVisit v.visit_id (.left now)).showroom_visits, u.inHands = true →
      u ∈ d.showroom_visits := by
    intro u hu huin
    rcases (mem_setVisit h hv).mp hu with rfl | ⟨hu, -⟩
    · rw [ShowroomVisit.inHands_left] at huin
      cases huin
    · exact hu
  refine ⟨h.rotations, h.seats, h.places, h.visit_keys fun _ => rfl, ?_, ?_, ?_, ?_⟩
  · intro u hu harrived
    rcases (mem_setVisit h hv).mp hu with rfl | ⟨hu, -⟩
    · cases harrived
    · exact h.arrivals u hu harrived
  · intro e he hbusy
    obtain ⟨u, hu, heu⟩ := h.busy e he hbusy
    refine ⟨u, (mem_setVisit h hv).mpr (.inr ⟨hu, ?_⟩), heu⟩
    rintro rfl
    exact not_holds_of_not_inHands hin heu
  · exact fun u hu huin => h.handed u (hold u hu huin) huin
  · exact fun e he u hu x hx heu hex =>
      h.one e he u (hold u hu heu.1) x (hold x hx hex.1) heu hex

theorem Staffed.departs (h : Staffed d) (hv : v ∈ d.showroom_visits) (he : e ∈ d.floor_rotations)
    (hholds : e.Holds v) :
    Staffed ((d.setVisit v.visit_id (.left now)).setRotation e.rotation_id .freed) := by
  have hvis : ∀ u : ShowroomVisit, u ∈ ((d.setVisit v.visit_id (.left now)).setRotation
      e.rotation_id .freed).showroom_visits ↔
      u = v.left now ∨ (u ∈ d.showroom_visits ∧ u ≠ v) := fun u => mem_setVisit h hv
  have hrot : ∀ f : FloorRotation, f ∈ ((d.setVisit v.visit_id (.left now)).setRotation
      e.rotation_id .freed).floor_rotations ↔
      f = e.freed ∨ (f ∈ d.floor_rotations ∧ f ≠ e) := fun f => mem_setRotation h he
  have hold : ∀ u : ShowroomVisit, u ∈ ((d.setVisit v.visit_id (.left now)).setRotation
      e.rotation_id .freed).showroom_visits → u.inHands = true → u ∈ d.showroom_visits ∧ u ≠ v := by
    intro u hu huin
    rcases (hvis u).mp hu with rfl | hu
    · rw [ShowroomVisit.inHands_left] at huin
      cases huin
    · exact hu
  obtain ⟨hids, hseats⟩ := h.rotation_keys (e := e) (g := .freed) (fun _ => rfl) fun _ => rfl
  refine ⟨hids, hseats, ?_, h.visit_keys fun _ => rfl, ?_, ?_, ?_, ?_⟩
  · exact nodup_map_updateWhere h.places fun f _ => FloorRotation.place_freed f
  · intro u hu harrived
    rcases (hvis u).mp hu with rfl | ⟨hu, -⟩
    · cases harrived
    · exact h.arrivals u hu harrived
  · intro f hf hbusy
    rcases (hrot f).mp hf with rfl | ⟨hf, hne⟩
    · cases hbusy
    · obtain ⟨u, hu, hfu⟩ := h.busy f hf hbusy
      refine ⟨u, (hvis u).mpr (.inr ⟨hu, fun heq => ?_⟩), hfu⟩
      exact hne (eq_of_key h.seats hf he ((heq ▸ hfu).seat_eq hholds))
  · intro u hu huin
    obtain ⟨hu, hne⟩ := hold u hu huin
    obtain ⟨f, hf, hstatus, hfu⟩ := h.handed u hu huin
    refine ⟨f, (hrot f).mpr (.inr ⟨hf, fun heq => ?_⟩), hstatus, hfu⟩
    exact hne (h.one e he u hu v hv (heq ▸ hfu) hholds)
  · intro f hf u hu x hx hfu hfx
    rcases (hrot f).mp hf with rfl | ⟨hf, -⟩
    · obtain ⟨hu, hne⟩ := hold u hu hfu.1
      exact absurd (h.one e he u hu v hv hfu hholds) hne
    · exact h.one f hf u (hold u hu hfu.1).1 x (hold x hx hfx.1).1 hfu hfx

/-- **Every move keeps the floor staffed.** -/
theorem Staffed.moves {held : List LotLock} {c : FloorCall} {answer : FloorAnswer}
    (h : Staffed d) (hm : FloorMoves held c answer d d') : Staffed d' := by
  cases hm with
  | stays rotations visits => exact h.congr rotations visits
  | joins _ _ fits status place rotations visits =>
    exact h.joins fits status place rotations visits
  | comes _ fits state hands rotations visits => exact h.comes fits state hands rotations visits
  | frees _ found idle rotations visits => exact (h.frees found idle).congr rotations visits
  | greets _ _ free status _ found state rooftop rotations visits =>
    exact (h.greets free status found state rooftop).congr rotations visits
  | takesOn _ found state hands rotations visits =>
    exact (h.takesOn found state hands).congr rotations visits
  | leaves _ found state rotations visits => exact (h.leaves found state).congr rotations visits
  | departs _ found _ entry holds rotations visits =>
    exact (h.departs found entry holds).congr rotations visits

end Moves

end Dealership.Sales
