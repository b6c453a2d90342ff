import Dealership.Sales.FloorMoves
import Dealership.Library.Chronicle

/-!
# Turns side by side

Each call, checked against what the others may commit between its statements.  A call
locks the visit before it judges it and the entry before it takes the turn, so both are
as it found them when it commits.  The end of the line it only reads: two calls that have
read it both go there.
-/

namespace Dealership.Sales

open Library List
open Inventory (LotLock)

/-! ## The contract -/

/-- What a transaction relies on: the entries and visits it has locked, the end of the line
it has read, and that the keys it is about to write stay free. -/
structure Undisturbed (held : List LotLock) (d d' : Showroom) : Prop where
  rotations : ∀ e ∈ d.floor_rotations, Locked held "floor_rotations" e.rotation_id →
    e ∈ d'.floor_rotations
  visits : ∀ v ∈ d.showroom_visits, Locked held "showroom_visits" v.visit_id →
    v ∈ d'.showroom_visits
  line : ∀ r, placeMark r ∈ held → backOfLine r d' = backOfLine r d
  seats : ∀ e : FloorRotation, (∀ k ∈ e.entries, k ∈ held) → e.fits d = true → e.fits d' = true
  arrivals : ∀ v : ShowroomVisit, (∀ k ∈ v.entries, k ∈ held) → v.fits d = true → v.fits d' = true

theorem Undisturbed.refl (held : List LotLock) (d : Showroom) : Undisturbed held d d :=
  ⟨fun _ h _ => h, fun _ h _ => h, fun _ _ => rfl, fun _ _ h => h, fun _ _ h => h⟩

theorem Undisturbed.trans {held : List LotLock} {a b e : Showroom} (hab : Undisturbed held a b)
    (hbe : Undisturbed held b e) : Undisturbed held a e where
  rotations := fun x hx hl => hbe.rotations x (hab.rotations x hx hl) hl
  visits := fun v hv hl => hbe.visits v (hab.visits v hv hl) hl
  line := fun r hr => (hbe.line r hr).trans (hab.line r hr)
  seats := fun x hx h => hbe.seats x hx (hab.seats x hx h)
  arrivals := fun v hv h => hbe.arrivals v hv (hab.arrivals v hv h)

theorem Undisturbed.mono {held more : List LotLock} (hsub : ∀ k ∈ held, k ∈ more)
    {a b : Showroom} (h : Undisturbed more a b) : Undisturbed held a b where
  rotations := fun e he hl => h.rotations e he (hl.mono hsub)
  visits := fun v hv hl => h.visits v hv (hl.mono hsub)
  line := fun r hr => h.line r (hsub _ hr)
  seats := fun e he => h.seats e fun k hk => hsub _ (he k hk)
  arrivals := fun v hv => h.arrivals v fun k hk => hsub _ (hv k hk)

/-- Whoever is released has no visit in hand, and whoever takes on a customer that is
theirs to take on is the one who greeted them. -/
def FloorCall.Finds (c : FloorCall) (held : List LotLock) (d : Showroom) : Prop :=
  match c with
  | .release _ input => ∀ v ∈ d.showroom_visits, v.inHands = true →
      v.rooftop_id = input.rooftopId → v.hands ≠ some input.userLinkId
  | .accept w input => LotLock.row "showroom_visits" input.visitId .forUpdate ∈ held →
      ∀ v ∈ d.showroom_visits, v.visit_id = input.visitId → v.inHands = true →
        v.accepted_by_user_link_id = none → v.authorization_version = input.expectedVersion →
          w.access.reaches input.actingUserLinkId v.rooftop_id = true →
            v.greeted_by_user_link_id = some input.actingUserLinkId
  | _ => True

instance FloorCall.decidableFinds :
    ∀ (c : FloorCall) (held : List LotLock) (d : Showroom), Decidable (c.Finds held d)
  | .release .., _, d => inferInstanceAs (Decidable (∀ v ∈ d.showroom_visits, _ → _ → _ ≠ _))
  | .accept .., _, d =>
    inferInstanceAs (Decidable (_ → ∀ v ∈ d.showroom_visits, _ → _ → _ → _ → _ → _))
  | .join .., _, _ | .checkIn .., _, _ | .greet .., _, _ | .depart .., _, _ => .isTrue trivial

def turns : Contract FloorCall Showroom LotLock Raise FloorAnswer where
  inv := Staffed
  rely := fun _ => Undisturbed
  finds := FloorCall.Finds
  ensures := fun c held answer d d' => FloorMoves held c answer d d'
  mayRaise := fun _ _ => True

instance {c : FloorCall} : turns.Tolerant c := ⟨fun _ => trivial⟩

/-! ## Parts of calls -/

section Parts

variable {B : Type} {g : B → FloorAnswer} {c : FloorCall} {held : List LotLock} {d : Showroom}
  {pending : Showroom → Showroom}

theorem turns_regular : (turns.onAnswers g).Regular c :=
  ⟨Undisturbed.refl, fun _ _ _ _ => .trans, fun _ _ _ _ hsub h => h.mono hsub⟩

theorem sound_turns {b : B}
    (h : ∀ d', Undisturbed held d d' → Staffed d' → c.Finds held d' →
      FloorMoves held c (g b) d' (pending d')) :
    (turns.onAnswers g).Sound c (pure b) held pending d := by
  intro d' hr hi hf
  have hmoves := h d' hr hi hf
  exact ⟨hi.moves hmoves, hmoves⟩

def SameFloor (d d' : Showroom) : Prop :=
  d'.floor_rotations = d.floor_rotations ∧ d'.showroom_visits = d.showroom_visits

theorem SameFloor.trans (a b e : Showroom) (hab : SameFloor a b) (hbe : SameFloor b e) :
    SameFloor a e :=
  ⟨hbe.1.trans hab.1, hbe.2.trans hab.2⟩

theorem sound_stays {b : B} (hquiet : (g b).greeted = none) :
    (turns.onAnswers g).Sound c (pure b) held (fun x => x) d :=
  sound_turns fun _ _ _ _ => .stays rfl rfl hquiet

theorem sound_lockFirstFree {r : String} {es : List FloorRotation}
    {k : Option FloorRotation → SalesWork B} (hpending : pending = fun x => x)
    (hnone : ∀ d' more, (turns.onAnswers g).Sound c (k none) more pending d')
    (hsome : ∀ e d' more, (∀ x ∈ held, x ∈ more) → Undisturbed held d d' →
      Locked more "floor_rotations" e.rotation_id → e ∈ d'.floor_rotations →
        e.rooftop_id = r → e.status = .available →
          (turns.onAnswers g).Sound c (k (some e)) more pending d') :
    (turns.onAnswers g).Sound c (lockFirstFree r es >>= k) held pending d := by
  subst hpending
  induction es generalizing held d with
  | nil => exact hnone d held
  | cons e es ih =>
    rw [lockFirstFree, Script.bind_assoc]
    refine sound_selectLocking_bind fun d₁ held₁ hsub hlocks hr hi _ => ?_
    cases hfound : (findRotation e.rotation_id d₁).filter fun f : FloorRotation =>
        f.rooftop_id = r && f.status = .available with
    | none =>
      refine ih fun f d' more hsub' hr' => ?_
      exact hsome f d' more (fun x hx => hsub' x (hsub x hx)) (hr.trans (hr'.mono hsub))
    | some f =>
      obtain ⟨hfind, hfree⟩ := Option.filter_eq_some_iff.mp hfound
      rw [Bool.and_eq_true, decide_eq_true_eq, decide_eq_true_eq] at hfree
      obtain ⟨hf, hid⟩ := of_find?_eq_some hfind
      refine hsome f d₁ held₁ hsub hr (.inl ?_) hf hfree.1 hfree.2
      rw [hid]
      exact hlocks _ mem_cons_self

theorem sound_moveToBack {w : SalesWorld} {e : FloorRotation} {k : Unit → SalesWork B}
    (hlock : Locked held "floor_rotations" e.rotation_id) (he : e ∈ d.floor_rotations)
    (h : ∀ d' more, (∀ x ∈ held, x ∈ more) → placeMark e.rooftop_id ∈ more →
      Undisturbed held d d' → e ∈ d'.floor_rotations →
        (turns.onAnswers g).Sound c (k ()) more
          (fun x => x.setRotation e.rotation_id (.taken w.now (backOfLine e.rooftop_id d'))) d') :
    (turns.onAnswers g).Sound c (moveToBack w e.rooftop_id e.rotation_id >>= k) held
      (fun x => x) d := by
  rw [moveToBack, Script.bind_assoc]
  refine sound_selectLocking_bind fun d₁ held₁ hsub₁ hlocks₁ hr₁ _ _ => ?_
  have hmark : placeMark e.rooftop_id ∈ held₁ := hlocks₁ _ mem_cons_self
  unfold updateRotation
  rw [Script.bind_assoc]
  refine sound_execute_bind fun d₂ held₂ hsub₂ _ hr₂ hi₂ _ _ => ?_
  have he₂ := hr₂.rotations e (hr₁.rotations e he hlock) (hlock.mono hsub₁)
  have hfind : findRotation e.rotation_id d₂ = some e := find?_eq_some_of_key hi₂.rotations he₂
  rw [hfind, ← hr₂.line _ hmark]
  exact h d₂ held₂ (fun x hx => hsub₂ x (hsub₁ x hx)) (hsub₂ _ hmark)
    (hr₁.trans (hr₂.mono hsub₁)) he₂

end Parts

end Dealership.Sales
