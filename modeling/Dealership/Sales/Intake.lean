import Dealership.Library.Chronicle
import Dealership.Sales.Opportunities

/-!
# Sales intake

Two calls of one handoff wait for each other, and so do two walk-ins of one customer at
one rooftop; the second of them is answered with what the first has opened.  A handoff
and a walk-in do not wait for each other, nor do two handoffs of one customer.  There
the unique index over open files refuses the second row, and the call raises.

So intake converges when no handoff is received while another file is open on its
customer, and no file comes in by a handoff while a walk-in of its customer is past the
question whether one is open.
-/

namespace Dealership.Sales

open Library List
open Inventory (LotLock)

variable {d : Showroom} {o : Opportunity} {held : List LotLock}

/-! ## Calls -/

inductive IntakeCall where
  | receiveHandoff (w : SalesWorld) (input : ReceiveInput)
  | openWalkIn (w : SalesWorld) (input : WalkInInput)

variable {c : IntakeCall}

inductive IntakeAnswer where
  | receipt (outcome : ReceiveOutcome)
  | walkIn (outcome : WalkInOutcome)

def IntakeCall.program : IntakeCall → SalesWork IntakeAnswer
  | .receiveHandoff w input => Sales.receiveHandoff w input >>= fun outcome => pure (.receipt outcome)
  | .openWalkIn w input => Sales.openWalkIn w input >>= fun outcome => pure (.walkIn outcome)

def IntakeCall.newId : IntakeCall → String
  | .receiveHandoff w _ | .openWalkIn w _ => w.newId

def IntakeCall.Attributable : IntakeCall → Prop
  | .receiveHandoff w input => w.access.knows input.actingUserLinkId = true
  | .openWalkIn w input => w.access.knows input.actingUserLinkId = true

instance : ∀ c : IntakeCall, Decidable c.Attributable
  | .receiveHandoff .. | .openWalkIn .. => inferInstanceAs (Decidable (_ = _))

abbrev IntakeServer := Server IntakeCall Showroom LotLock Raise IntakeAnswer

abbrev IntakeEnding := Ending IntakeCall Showroom Raise IntakeAnswer

/-! ## What the files say -/

def NewOpportunity (opportunityId : String) (d : Showroom) : Prop :=
  ∀ o ∈ d.opportunities, o.opportunity_id ≠ opportunityId

def NoneOpen (rooftopId partyId : String) (d : Showroom) : Prop :=
  ∀ o ∈ d.opportunities, ¬ o.openFor rooftopId partyId = true

def Receivable (handoffId : String) (h : Crm.LeadHandoff) (d : Showroom) : Prop :=
  seam handoffId d = some (h, .handed_off)

/-- Ids are keys, handoffs too, a row that names one came from it, and one file is open on
a customer at a rooftop. -/
structure Filed (d : Showroom) : Prop where
  ids : (d.opportunities.map (·.opportunity_id)).Nodup
  handoffs : ∀ o ∈ d.opportunities, ∀ p ∈ d.opportunities, o.handoff_id ≠ none →
    o.handoff_id = p.handoff_id → o = p
  origins : ∀ o ∈ d.opportunities, o.origin = .crm_handoff ↔ o.handoff_id ≠ none
  files : ∀ r c, ∀ o ∈ d.opportunities, ∀ p ∈ d.opportunities, o.openFor r c = true →
    p.openFor r c = true → o = p

theorem receivedFrom_some {x : String} (h : receivedFrom x d = some o) :
    o ∈ d.opportunities ∧ o.handoff_id = some x :=
  of_find?_eq_some h

theorem receivedFrom_none {x : String} :
    receivedFrom x d = none ↔ ∀ o ∈ d.opportunities, o.handoff_id ≠ some x := by
  rw [receivedFrom, find?_eq_none]
  constructor
  · intro h o ho hid
    exact h o ho (decide_eq_true hid)
  · intro h o ho hid
    exact h o ho (of_decide_eq_true hid)

theorem openFile_some {r c : String} (h : openFile r c d = some o) :
    o ∈ d.opportunities ∧ o.openFor r c = true :=
  ⟨mem_of_find?_eq_some h, find?_some h⟩

theorem openFile_none {r c : String} : openFile r c d = none ↔ NoneOpen r c d := by
  rw [openFile, find?_eq_none, NoneOpen]

theorem Opportunity.openFor_self (h : o.stage.terminal = false) :
    o.openFor o.rooftop_id o.party_id = true := by
  simp [Opportunity.openFor, h]

theorem Opportunity.of_openFor {r c : String} (h : o.openFor r c = true) :
    o.rooftop_id = r ∧ o.party_id = c := by
  simp only [Opportunity.openFor, Bool.and_eq_true, decide_eq_true_eq] at h
  exact h.1

theorem Opportunity.fits_of (hid : NewOpportunity o.opportunity_id d)
    (hopen : NoneOpen o.rooftop_id o.party_id d) : o.fits d = true := by
  refine all_eq_true.mpr fun p hp => ?_
  rw [Bool.and_eq_true, decide_eq_true_eq, Bool.not_eq_true', ← Bool.not_eq_true]
  exact ⟨hid p hp, hopen p hp⟩

theorem Filed.insert {d' : Showroom} (h : Filed d) (hid : NewOpportunity o.opportunity_id d)
    (hopen : NoneOpen o.rooftop_id o.party_id d)
    (hhandoff : ∀ x, o.handoff_id = some x → receivedFrom x d = none)
    (horigin : o.origin = .crm_handoff ↔ o.handoff_id ≠ none)
    (hd' : d'.opportunities = d.opportunities ++ [o]) : Filed d' := by
  have hother : ∀ p ∈ d.opportunities, p.handoff_id ≠ none → p.handoff_id ≠ o.handoff_id := by
    intro p hp hne heq
    obtain ⟨x, hx⟩ := Option.ne_none_iff_exists'.mp hne
    exact receivedFrom_none.mp (hhandoff x (heq ▸ hx)) p hp hx
  have hfile : ∀ r c, ∀ p ∈ d.opportunities, p.openFor r c = true → ¬ o.openFor r c = true := by
    intro r c p hp hpopen hoopen
    obtain ⟨hr, hc⟩ := Opportunity.of_openFor hoopen
    rw [← hr, ← hc] at hpopen
    exact hopen p hp hpopen
  constructor
  · rw [hd']
    exact nodup_key_insert h.ids hid
  · rw [hd']
    intro p hp q hq hne heq
    rcases mem_inserted hp with hp | rfl
    · rcases mem_append.mp hq with hq | hq
      · exact h.handoffs p hp q hq hne heq
      · rw [mem_singleton.mp hq] at heq
        exact absurd heq (hother p hp hne)
    · rcases mem_append.mp hq with hq | hq
      · exact absurd heq.symm (hother q hq (heq ▸ hne))
      · exact (mem_singleton.mp hq).symm
  · rw [hd']
    intro p hp
    rcases mem_inserted hp with hp | rfl
    · exact h.origins p hp
    · exact horigin
  · rw [hd']
    intro r c p hp q hq hpopen hqopen
    rcases mem_inserted hp with hp | rfl
    · rcases mem_append.mp hq with hq | hq
      · exact h.files r c p hp q hq hpopen hqopen
      · rw [mem_singleton.mp hq] at hqopen
        exact absurd hqopen (hfile r c p hp hpopen)
    · rcases mem_append.mp hq with hq | hq
      · exact absurd hpopen (hfile r c q hq hqopen)
      · exact (mem_singleton.mp hq).symm

/-! ## What a commit does -/

def IntakeCall.Says : IntakeCall → IntakeAnswer → Showroom → Prop
  | .receiveHandoff _ input, .receipt (.already_received o), d =>
    o ∈ d.opportunities ∧ o.handoff_id = some input.handoffId
  | .receiveHandoff _ input, .receipt .not_found, d => ∀ h, ¬ Receivable input.handoffId h d
  | .receiveHandoff _ input, .receipt (.invalid _), d => ∀ h, ¬ Receivable input.handoffId h d
  | .openWalkIn _ input, .walkIn (.already_open o), d =>
    o ∈ d.opportunities ∧ o.openFor input.rooftopId input.partyId = true
  | .openWalkIn .., .walkIn .not_found, _ => True
  | .openWalkIn .., .walkIn (.invalid _), _ => True
  | _, _, _ => False

/-- The customers, leads, handoffs and cars that intake reads are as they were. -/
structure SameAround (d d' : Showroom) : Prop where
  parties : d'.parties = d.parties
  leads : d'.leads = d.leads
  handoffs : d'.lead_handoffs = d.lead_handoffs
  lot : d'.lot = d.lot

theorem SameAround.refl (d : Showroom) : SameAround d d := ⟨rfl, rfl, rfl, rfl⟩

theorem SameAround.trans {a b c : Showroom} (hab : SameAround a b) (hbc : SameAround b c) :
    SameAround a c :=
  ⟨hbc.parties.trans hab.parties, hbc.leads.trans hab.leads, hbc.handoffs.trans hab.handoffs,
    hbc.lot.trans hab.lot⟩

structure Opens (held : List LotLock) (c : IntakeCall) (o : Opportunity) (d d' : Showroom) :
    Prop where
  id : o.opportunity_id = c.newId
  new : NewOpportunity o.opportunity_id d
  stage : o.stage = .received
  entry : openEntry o.rooftop_id o.party_id ∈ held
  free : NoneOpen o.rooftop_id o.party_id d
  opportunities : d'.opportunities = d.opportunities ++ [o]
  around : SameAround d d'

/-- What a commit that held `held` did to the files. -/
inductive Intakes (held : List LotLock) :
    IntakeCall → IntakeAnswer → Showroom → Showroom → Prop where
  | answers {c : IntakeCall} {answer : IntakeAnswer} {d : Showroom} (fact : c.Says answer d) :
      Intakes held c answer d d
  | receives {w : SalesWorld} {input : ReceiveInput} {o : Opportunity} {d d' : Showroom}
      (lock : intakeKey input.handoffId ∈ held)
      (handoff : o.handoff_id = some input.handoffId) (origin : o.origin = .crm_handoff)
      (first : receivedFrom input.handoffId d = none)
      (opens : Opens held (.receiveHandoff w input) o d d') :
      Intakes held (.receiveHandoff w input) (.receipt (.received o)) d d'
  | walksIn {w : SalesWorld} {input : WalkInInput} {o : Opportunity} {d d' : Showroom}
      (lock : walkInKey input.rooftopId input.partyId ∈ held)
      (customer : o.rooftop_id = input.rooftopId ∧ o.party_id = input.partyId)
      (handoff : o.handoff_id = none) (origin : o.origin = .walk_in)
      (opens : Opens held (.openWalkIn w input) o d d') :
      Intakes held (.openWalkIn w input) (.walkIn (.opened o)) d d'

theorem Filed.intakes {answer : IntakeAnswer} {d' : Showroom} (h : Filed d)
    (hi : Intakes held c answer d d') : Filed d' := by
  cases hi with
  | answers => exact h
  | @receives w input o _ _ _ handoff origin first opens =>
    refine h.insert opens.new opens.free (fun x hx => ?_) ?_ opens.opportunities
    · rw [handoff] at hx
      cases hx
      exact first
    · rw [handoff, origin]
      exact ⟨fun _ => nofun, fun _ => rfl⟩
  | @walksIn w input o _ _ _ _ handoff origin opens =>
    refine h.insert opens.new opens.free (fun x hx => ?_) ?_ opens.opportunities
    · rw [handoff] at hx
      cases hx
    · rw [handoff, origin]
      exact ⟨nofun, fun hne => absurd rfl hne⟩

/-! ## The contract of intake -/

/-- What a transaction relies on: that files stay, that its own id stays free, that its
handoff is not received and no walk-in of its customer opens a file while it holds their
advisory keys, and that no file is opened under an index entry it has taken. -/
structure Steady (c : IntakeCall) (held : List LotLock) (d d' : Showroom) : Prop where
  around : SameAround d d'
  kept : ∀ o ∈ d.opportunities, o ∈ d'.opportunities
  own : NewOpportunity c.newId d → NewOpportunity c.newId d'
  unreceived : ∀ x, intakeKey x ∈ held → receivedFrom x d = none → receivedFrom x d' = none
  walkIns : ∀ r c, walkInKey r c ∈ held → ∀ o ∈ d'.opportunities, o.openFor r c = true →
    o ∈ d.opportunities ∨ o.origin = .crm_handoff
  closed : ∀ r c, openEntry r c ∈ held → NoneOpen r c d → NoneOpen r c d'

theorem Steady.refl (c : IntakeCall) (held : List LotLock) (d : Showroom) : Steady c held d d :=
  ⟨.refl d, fun _ h => h, fun h => h, fun _ _ h => h, fun _ _ _ _ h _ => .inl h, fun _ _ _ h => h⟩

theorem Steady.trans {a b e : Showroom} (hab : Steady c held a b)
    (hbe : Steady c held b e) : Steady c held a e where
  around := hab.around.trans hbe.around
  kept := fun o ho => hbe.kept o (hab.kept o ho)
  own := fun h => hbe.own (hab.own h)
  unreceived := fun x hx h => hbe.unreceived x hx (hab.unreceived x hx h)
  walkIns := by
    intro r p hkey o ho hopen
    rcases hbe.walkIns r p hkey o ho hopen with ho | horigin
    · exact hab.walkIns r p hkey o ho hopen
    · exact .inr horigin
  closed := fun r p hr h => hbe.closed r p hr (hab.closed r p hr h)

theorem Steady.mono {more : List LotLock} (hsub : ∀ k ∈ held, k ∈ more) {a b : Showroom}
    (h : Steady c more a b) : Steady c held a b where
  around := h.around
  kept := h.kept
  own := h.own
  unreceived := fun x hx => h.unreceived x (hsub _ hx)
  walkIns := fun r p hkey => h.walkIns r p (hsub _ hkey)
  closed := fun r p hkey => h.closed r p (hsub _ hkey)

/-- A receipt finds no file open on its customer; a walk-in that has asked whether one is,
and has nothing else against it, finds none that came in by a handoff. -/
def IntakeCall.Finds (c : IntakeCall) (held : List LotLock) (d : Showroom) : Prop :=
  match c with
  | .receiveHandoff _ input =>
    receivedFrom input.handoffId d = none → ∀ s ∈ seam input.handoffId d,
      s.2 = .handed_off → openFile s.1.handed_snapshot.rooftop_id
        s.1.handed_snapshot.party_id d = none
  | .openWalkIn _ input =>
    footprint "parties" input.partyId ∈ held → refuseParty input.partyId d = none →
      refuseCar input.rooftopId input.interestStockItemId d = none →
        ∀ o ∈ d.opportunities, o.openFor input.rooftopId input.partyId = true → o.origin = .walk_in

instance : ∀ (c : IntakeCall) (held : List LotLock) (d : Showroom), Decidable (c.Finds held d)
  | .receiveHandoff .., _, d => inferInstanceAs (Decidable (_ → ∀ s ∈ seam _ d, _ → _))
  | .openWalkIn .., _, d => inferInstanceAs (Decidable (_ → _ → _ → ∀ o ∈ d.opportunities, _ → _))

def intake : Contract IntakeCall Showroom LotLock Raise IntakeAnswer where
  inv := Filed
  rely := Steady
  finds := IntakeCall.Finds
  ensures := fun c held answer d d' => Intakes held c answer d d'
  mayRaise := fun _ _ => False

end Dealership.Sales
