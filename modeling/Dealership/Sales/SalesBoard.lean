import Dealership.Library.Moments
import Dealership.Sales.Schema
import Mathlib.Algebra.BigOperators.Group.List.Lemmas
import Mathlib.Algebra.GroupWithZero.Nat
import Mathlib.Data.List.Sort

/-!
# The manager's board

One read of everything a sales manager runs a day on: eleven statements in one transaction, each
on what is committed when it runs.  The rows are those the statements read, with the foreign keys
their joins rest on; the clock is the start of the transaction, so it is one for all of them.

The board is a picture of one moment as long as what commits between two statements leaves the
figures alone that the moment is to have in common with the rest.
-/

namespace Dealership.Sales.Board

open Library List

/-! ## Rows -/

structure RooftopRow where
  rooftop_id : String
  name : String
  active : Bool

structure PartyRow where
  party_id : String
  display_name : String

structure StockRow where
  stock_item_id : String
  stock_number : String

inductive AppointmentState where
  | scheduled | confirmed | completed | cancelled | no_show
deriving DecidableEq

structure AppointmentRow where
  rooftop_id : String
  starts_at : Int
  state : AppointmentState
  cancelled_at : Option Int
  completed_at : Option Int

structure VisitRow where
  visit_id : String
  rooftop_id : String
  party_id : String
  opportunity_id : Option String
  state : VisitState
  arrived_at : Int
  greeted_at : Option Int
  departed_at : Option Int

structure RotationRow where
  rooftop_id : String
  status : RotationStatus

structure OpportunityRow where
  opportunity_id : String
  rooftop_id : String
  party_id : String
  owner_user_link_id : Option String
  stage : OpportunityStage
  disposition : Option OpportunityDisposition
  created_at : Int
  updated_at : Int

structure VehicleRow where
  opportunity_id : String
  status : VehicleInterestStatus

structure DemonstrationRow where
  rooftop_id : String
  opportunity_id : String
  stock_item_id : String
  visit_id : Option String
  state : DemonstrationState
  exception_kind : Option String
  issued_at : Int
  ended_at : Option Int

structure RoundRow where
  opportunity_id : String
  occurred_at : Int

inductive ActivityState where
  | open_ | completed | cancelled
deriving DecidableEq

structure ActivityRow where
  opportunity_id : String
  subject : String
  state : ActivityState
  due_at : Option Int

/-- What the board reads of a tenant, with the keys its joins rest on. -/
structure SalesDb where
  rooftops : List RooftopRow
  parties : List PartyRow
  stock_items : List StockRow
  appointments : List AppointmentRow
  showroom_visits : List VisitRow
  floor_rotations : List RotationRow
  opportunities : List OpportunityRow
  opportunity_vehicles : List VehicleRow
  demonstrations : List DemonstrationRow
  negotiation_rounds : List RoundRow
  /-- The opportunities of `manager_turnovers`. -/
  manager_turnovers : List String
  opportunity_activities : List ActivityRow
  party_key : (parties.map PartyRow.party_id).Nodup
  stock_key : (stock_items.map StockRow.stock_item_id).Nodup
  party_of : ∀ o ∈ opportunities, o.party_id ∈ parties.map PartyRow.party_id
  stock_of : ∀ x ∈ demonstrations, x.stock_item_id ∈ stock_items.map StockRow.stock_item_id

/-- The transaction of a board: its clock, and the calendar of its session. -/
structure BoardWorld where
  now : Int
  date : Int → Int

/-! ## The statements -/

def minute : Int := 60000000

def hour : Int := 60 * minute

/-- `EXTRACT(EPOCH FROM …) / 60.0`. -/
def minutes (micros : Int) : Rat := micros / minute

def hours (micros : Int) : Rat := micros / hour

/-- `PERCENTILE_CONT(0.5)`: the middle, or half way between the two middles. -/
def median (xs : List Rat) : Option Rat :=
  let sorted := xs.insertionSort fun x y => x ≤ y
  if sorted.isEmpty then none
  else some ((sorted.getD ((sorted.length - 1) / 2) 0 + sorted.getD (sorted.length / 2) 0) / 2)

/-- `MAX`. -/
def largest (xs : List Rat) : Option Rat :=
  xs.foldl (fun m x => some (m.elim x fun y => if y ≤ x then x else y)) none

/-- `COUNT(*) FILTER (WHERE …)`. -/
def count {A : Type} (p : A → Bool) (rows : List A) : Nat := rows.countP p

/-- `stage NOT IN ('ready_for_desking', 'lost')`. -/
def OpportunityRow.isOpen (o : OpportunityRow) : Bool :=
  o.stage ≠ .ready_for_desking && o.stage ≠ .lost

section Statements

variable (w : BoardWorld) (ids : List String)

/-- `t::date = NOW()::date`. -/
def BoardWorld.today (t : Int) : Bool := w.date t = w.date w.now

structure AppointmentFigures where
  expectedToday : Nat
  kept : Nat
  cancelled : Nat
  noShow : Nat
  stillExpected : Nat
deriving DecidableEq

def appointmentFigures (d : SalesDb) : AppointmentFigures :=
  let rows := d.appointments.filter fun a => a.rooftop_id ∈ ids
  { expectedToday := count (fun a => w.today a.starts_at) rows
    kept := count (fun a => a.state = .completed && a.completed_at.any w.today) rows
    cancelled := count (fun a => a.state = .cancelled && a.cancelled_at.any w.today) rows
    noShow := count (fun a => a.state = .no_show && w.today a.starts_at) rows
    stillExpected := count (fun a =>
      (a.state = .scheduled || a.state = .confirmed) && w.now ≤ a.starts_at) rows }

structure ShowroomFigures where
  waiting : Nat
  greeted : Nat
  withSalesperson : Nat
  departedToday : Nat
  medianWait : Option Rat
  longestWait : Option Rat
deriving DecidableEq

def showroomFigures (d : SalesDb) : ShowroomFigures :=
  let rows := d.showroom_visits.filter fun v => v.rooftop_id ∈ ids
  { waiting := count (fun v => v.state = .arrived) rows
    greeted := count (fun v => v.state = .greeted) rows
    withSalesperson := count (fun v => v.state = .with_salesperson) rows
    departedToday := count (fun v => v.state = .departed && v.departed_at.any w.today) rows
    medianWait := median ((rows.filter fun v => w.today v.arrived_at).map fun v =>
      minutes (v.greeted_at.getD w.now - v.arrived_at))
    longestWait := largest ((rows.filter fun v => v.state = .arrived).map fun v =>
      minutes (w.now - v.arrived_at)) }

structure FloorFigures where
  available : Nat
  withCustomer : Nat
  unavailable : Nat
deriving DecidableEq

def floorFigures (d : SalesDb) : FloorFigures :=
  let rows := d.floor_rotations.filter fun f => f.rooftop_id ∈ ids
  { available := count (fun f => f.status = .available) rows
    withCustomer := count (fun f => f.status = .with_customer) rows
    unavailable := count (fun f => f.status = .unavailable) rows }

structure PipelineFigures where
  isOpen : Nat
  unowned : Nat
  received : Nat
  inShowroom : Nat
  demonstrated : Nat
  negotiating : Nat
  followUp : Nat
  readyForDesking : Nat
  lost : Nat
  medianAge : Option Rat
  stalled : Nat
deriving DecidableEq

/-- The opportunities of the rooftops a board is asked for. -/
def opportunitiesOf (d : SalesDb) : List OpportunityRow :=
  d.opportunities.filter fun o => o.rooftop_id ∈ ids

def pipelineFigures (d : SalesDb) : PipelineFigures :=
  let rows := opportunitiesOf ids d
  { isOpen := count (fun o => o.isOpen) rows
    unowned := count (fun o => o.isOpen && o.owner_user_link_id.isNone) rows
    received := count (fun o => o.stage = .received) rows
    inShowroom := count (fun o => o.stage = .in_showroom) rows
    demonstrated := count (fun o => o.stage = .demonstrated) rows
    negotiating := count (fun o => o.stage = .negotiating) rows
    followUp := count (fun o => o.stage = .follow_up) rows
    readyForDesking := count (fun o => o.stage = .ready_for_desking) rows
    lost := count (fun o => o.stage = .lost) rows
    medianAge := median ((rows.filter fun o => o.isOpen).map fun o => hours (w.now - o.created_at))
    stalled := count (fun o => o.isOpen && o.updated_at < w.now - 24 * hour) rows }

/-- `JOIN opportunities o ON o.opportunity_id = …`, at the rooftops of the board. -/
def joined (opportunityId : String) (d : SalesDb) : List OpportunityRow :=
  (opportunitiesOf ids d).filter fun o => o.opportunity_id = opportunityId

structure VehicleFigures where
  selected : Nat
  shortlisted : Nat
deriving DecidableEq

def vehicleFigures (d : SalesDb) : VehicleFigures :=
  let rows := d.opportunity_vehicles.flatMap fun v =>
    ((joined ids v.opportunity_id d).filter fun o => o.isOpen).map fun _ => v
  { selected := count (fun v => v.status = .selected) rows
    shortlisted := rows.length }

structure DemonstrationFigures where
  activeNow : Nat
  issuedToday : Nat
  returnedToday : Nat
  cancelledToday : Nat
  exceptions : Nat
deriving DecidableEq

def demonstrationFigures (d : SalesDb) : DemonstrationFigures :=
  let rows := d.demonstrations.filter fun x => x.rooftop_id ∈ ids
  { activeNow := count (fun x => x.state = .issued || x.state = .in_progress) rows
    issuedToday := count (fun x => w.today x.issued_at) rows
    returnedToday := count (fun x => x.state = .returned && x.ended_at.any w.today) rows
    cancelledToday := count (fun x => x.state = .cancelled && x.ended_at.any w.today) rows
    exceptions := count (fun x => x.state = .exception) rows }

structure NegotiationFigures where
  roundsToday : Nat
  negotiating : Nat
  turnovers : Nat
deriving DecidableEq

def negotiationFigures (d : SalesDb) : NegotiationFigures where
  roundsToday := (d.negotiation_rounds.flatMap fun n => (joined ids n.opportunity_id d).filter
    fun _ => w.today n.occurred_at).length
  negotiating := count (fun o => o.stage = .negotiating) (opportunitiesOf ids d)
  turnovers := (d.manager_turnovers.flatMap fun t => joined ids t d).length

structure ActionFigures where
  isOpen : Nat
  overdue : Nat
  dueToday : Nat
deriving DecidableEq

def ActivityRow.isOpen (a : ActivityRow) : Bool := a.state = .open_

/-- `a.state = 'open' AND a.due_at < NOW()`. -/
def ActivityRow.overdue (a : ActivityRow) : Bool := a.isOpen && a.due_at.any fun t => t < w.now

def activitiesOf (d : SalesDb) : List ActivityRow :=
  d.opportunity_activities.flatMap fun a => (joined ids a.opportunity_id d).map fun _ => a

def actionFigures (d : SalesDb) : ActionFigures :=
  let rows := activitiesOf ids d
  { isOpen := count (fun a => a.isOpen) rows
    overdue := count (fun a => a.overdue w) rows
    dueToday := count (fun a => a.isOpen && a.due_at.any w.today) rows }

def dispositionText (x : Option OpportunityDisposition) : String :=
  (x.map OpportunityDisposition.text).getD "null"

structure LostReason where
  disposition : String
  count : Nat
deriving DecidableEq

/-- `GROUP BY disposition ORDER BY n DESC, disposition`. -/
def lostReasons (d : SalesDb) : List LostReason :=
  let lost := (opportunitiesOf ids d).filter fun o => o.stage = .lost
  let groups := (lost.map (·.disposition)).dedup.map fun x =>
    { disposition := dispositionText x
      count := count (fun o : OpportunityRow => o.disposition = x) lost : LostReason }
  groups.insertionSort fun x y =>
    y.count < x.count ∨ x.count = y.count ∧ jsLe x.disposition y.disposition = true

inductive ExceptionKind where
  | waiting_too_long | demonstration_overdue | demonstration_exception | unowned_opportunity
  | action_overdue
deriving DecidableEq

/-- A row a manager can act on. -/
structure ExceptionRow where
  kind : ExceptionKind
  detail : String
  opportunityId : Option String
  visitId : Option String
  since : Option Int
deriving DecidableEq

/-- `JOIN parties`. -/
def partiesOf (partyId : String) (d : SalesDb) : List PartyRow :=
  d.parties.filter fun p => p.party_id = partyId

/-- `JOIN stock_items`. -/
def stockOf (stockItemId : String) (d : SalesDb) : List StockRow :=
  d.stock_items.filter fun i => i.stock_item_id = stockItemId

def waitingTooLong (d : SalesDb) : List ExceptionRow :=
  (d.showroom_visits.filter fun v => v.rooftop_id ∈ ids && v.state = .arrived &&
    v.arrived_at < w.now - 15 * minute).flatMap fun v => (partiesOf v.party_id d).map fun p =>
      { kind := .waiting_too_long
        detail := p.display_name ++ " has been waiting"
        opportunityId := v.opportunity_id
        visitId := some v.visit_id
        since := some v.arrived_at }

def demonstrationOverdue (d : SalesDb) : List ExceptionRow :=
  (d.demonstrations.filter fun x => x.rooftop_id ∈ ids &&
    (x.state = .issued || x.state = .in_progress) &&
    x.issued_at < w.now - 2 * hour).flatMap fun x => (stockOf x.stock_item_id d).map fun si =>
      { kind := .demonstration_overdue
        detail := si.stock_number ++ " has been out a long time"
        opportunityId := some x.opportunity_id
        visitId := x.visit_id
        since := some x.issued_at }

def demonstrationException (d : SalesDb) : List ExceptionRow :=
  (d.demonstrations.filter fun x => x.rooftop_id ∈ ids && x.state = .exception).flatMap
    fun x => (stockOf x.stock_item_id d).map fun si =>
      { kind := .demonstration_exception
        detail := (x.exception_kind.map fun k => si.stock_number ++ ": " ++ k).getD "null"
        opportunityId := some x.opportunity_id
        visitId := x.visit_id
        since := x.ended_at }

def unownedOpportunity (d : SalesDb) : List ExceptionRow :=
  (d.opportunities.filter fun o => o.rooftop_id ∈ ids && o.isOpen &&
    o.owner_user_link_id.isNone).flatMap fun o => (partiesOf o.party_id d).map fun p =>
      { kind := .unowned_opportunity
        detail := p.display_name ++ " has nobody working them"
        opportunityId := some o.opportunity_id
        visitId := none
        since := some o.created_at }

def actionOverdue (d : SalesDb) : List ExceptionRow :=
  ((activitiesOf ids d).filter fun a => a.overdue w).map fun a =>
    { kind := .action_overdue
      detail := a.subject
      opportunityId := some a.opportunity_id
      visitId := none
      since := a.due_at }

/-- Ascending, and null last. -/
def sinceLe : Option Int → Option Int → Bool
  | some a, some b => a ≤ b
  | none, some _ => false
  | _, none => true

/-- The five kinds of exception, all of them. -/
def allExceptions (d : SalesDb) : List ExceptionRow :=
  waitingTooLong w ids d ++ demonstrationOverdue w ids d ++ demonstrationException ids d ++
    unownedOpportunity ids d ++ actionOverdue w ids d

/-- `ORDER BY since LIMIT 50`. -/
def exceptionRows (d : SalesDb) : List ExceptionRow :=
  ((allExceptions w ids d).insertionSort fun x y => sinceLe x.since y.since).take 50

structure BoardRooftop where
  rooftopId : String
  name : String
deriving DecidableEq

/-- `status = 'active'`, in the order of their names. -/
def boardRooftops (d : SalesDb) : List BoardRooftop :=
  ((d.rooftops.filter fun r => r.rooftop_id ∈ ids && r.active).insertionSort
    fun x y => jsLe x.name y.name).map fun r => { rooftopId := r.rooftop_id, name := r.name }

end Statements

/-! ## The board -/

structure NegotiationAnswer where
  roundsToday : Nat
  opportunitiesNegotiating : Nat
  turnovers : Nat

structure DispositionAnswer where
  readyForDesking : Nat
  lost : Nat
  lostReasons : List LostReason

/-- What a manager is answered; the money questions, which all answer one text, are left out. -/
structure SalesBoard where
  rooftops : List BoardRooftop
  appointments : AppointmentFigures
  showroom : ShowroomFigures
  floor : FloorFigures
  pipeline : PipelineFigures
  vehicles : VehicleFigures
  demonstrations : DemonstrationFigures
  negotiation : NegotiationAnswer
  nextActions : ActionFigures
  dispositions : DispositionAnswer
  exceptions : List ExceptionRow

section Board

variable (w : BoardWorld) (ids : List String)

def statements : Nat := 11

/-- `salesBoard`, of what each of its statements found committed. -/
def salesBoard : List SalesDb → Option SalesBoard
  | [d1, d2, d3, d4, d5, d6, d7, d8, d9, d10, d11] =>
    let pl := pipelineFigures w ids d5
    let n := negotiationFigures w ids d8
    some
      { rooftops := boardRooftops ids d1
        appointments := appointmentFigures w ids d2
        showroom := showroomFigures w ids d3
        floor := floorFigures ids d4
        pipeline := pl
        vehicles := vehicleFigures ids d6
        demonstrations := demonstrationFigures w ids d7
        negotiation :=
          { roundsToday := n.roundsToday
            opportunitiesNegotiating := n.negotiating
            turnovers := n.turnovers }
        nextActions := actionFigures w ids d9
        dispositions :=
          { readyForDesking := pl.readyForDesking
            lost := pl.lost
            lostReasons := lostReasons ids d10 }
        exceptions := exceptionRows w ids d11 }
  | _ => none

/-- The board of one committed state: every statement on it. -/
def boardAt (d : SalesDb) : Option SalesBoard :=
  salesBoard w ids (List.replicate statements d)

/-- The `i`-th statement, counted from nought, answers alike on two states. -/
def SameAnswer (i : Nat) (d e : SalesDb) : Prop :=
  match i with
  | 0 => boardRooftops ids d = boardRooftops ids e
  | 1 => appointmentFigures w ids d = appointmentFigures w ids e
  | 2 => showroomFigures w ids d = showroomFigures w ids e
  | 3 => floorFigures ids d = floorFigures ids e
  | 4 => pipelineFigures w ids d = pipelineFigures w ids e
  | 5 => vehicleFigures ids d = vehicleFigures ids e
  | 6 => demonstrationFigures w ids d = demonstrationFigures w ids e
  | 7 => negotiationFigures w ids d = negotiationFigures w ids e
  | 8 => actionFigures w ids d = actionFigures w ids e
  | 9 => lostReasons ids d = lostReasons ids e
  | 10 => exceptionRows w ids d = exceptionRows w ids e
  | _ => True

instance instDecidableSameAnswer :
    (i : Nat) → (d e : SalesDb) → Decidable (SameAnswer w ids i d e)
  | 0, d, e => inferInstanceAs (Decidable (boardRooftops ids d = boardRooftops ids e))
  | 1, d, e => inferInstanceAs (Decidable (appointmentFigures w ids d = appointmentFigures w ids e))
  | 2, d, e => inferInstanceAs (Decidable (showroomFigures w ids d = showroomFigures w ids e))
  | 3, d, e => inferInstanceAs (Decidable (floorFigures ids d = floorFigures ids e))
  | 4, d, e => inferInstanceAs (Decidable (pipelineFigures w ids d = pipelineFigures w ids e))
  | 5, d, e => inferInstanceAs (Decidable (vehicleFigures ids d = vehicleFigures ids e))
  | 6, d, e =>
    inferInstanceAs (Decidable (demonstrationFigures w ids d = demonstrationFigures w ids e))
  | 7, d, e => inferInstanceAs (Decidable (negotiationFigures w ids d = negotiationFigures w ids e))
  | 8, d, e => inferInstanceAs (Decidable (actionFigures w ids d = actionFigures w ids e))
  | 9, d, e => inferInstanceAs (Decidable (lostReasons ids d = lostReasons ids e))
  | 10, d, e => inferInstanceAs (Decidable (exceptionRows w ids d = exceptionRows w ids e))
  | _ + 11, _, _ => .isTrue trivial

/-- The figures that two statements compute each in its own way agree. -/
structure Coherent (b : SalesBoard) : Prop where
  stages : b.pipeline.isOpen = b.pipeline.received + b.pipeline.inShowroom +
    b.pipeline.demonstrated + b.pipeline.negotiating + b.pipeline.followUp
  lost : b.dispositions.lost = b.pipeline.lost
  reasons : (b.dispositions.lostReasons.map LostReason.count).sum = b.pipeline.lost
  negotiating : b.negotiation.opportunitiesNegotiating = b.pipeline.negotiating
  unowned : b.exceptions.length < 50 →
    count (fun x => x.kind = .unowned_opportunity) b.exceptions = b.pipeline.unowned
  overdue : b.exceptions.length < 50 →
    count (fun x => x.kind = .action_overdue) b.exceptions = b.nextActions.overdue
  exceptions : b.exceptions.length < 50 →
    count (fun x => x.kind = .demonstration_exception) b.exceptions = b.demonstrations.exceptions

/-! ## One state, one set of numbers -/

theorem count_isOpen (rows : List OpportunityRow) :
    count (fun o => o.isOpen) rows = count (fun o => o.stage = .received) rows +
      count (fun o => o.stage = .in_showroom) rows +
      count (fun o => o.stage = .demonstrated) rows +
      count (fun o => o.stage = .negotiating) rows +
      count (fun o => o.stage = .follow_up) rows := by
  induction rows with
  | nil => rfl
  | cons o rows ih =>
    simp only [count, countP_cons, OpportunityRow.isOpen] at ih ⊢
    rw [ih]
    cases o.stage <;> simp <;> omega

theorem sum_lostReasons (ids : List String) (d : SalesDb) :
    ((lostReasons ids d).map LostReason.count).sum = (pipelineFigures w ids d).lost := by
  have groups (lost : List OpportunityRow) :
      ((lost.map (·.disposition)).dedup.map fun x =>
        count (fun o : OpportunityRow => o.disposition = x) lost).sum = lost.length := by
    have h := sum_map_count_dedup_eq_length (lost.map fun o => o.disposition)
    rw [length_map] at h
    refine Eq.trans (congrArg List.sum (map_congr_left ?_)) h
    intro x _
    exact (countP_map (p := fun y => decide (y = x))).symm
  rw [lostReasons, ((perm_insertionSort _ _).map LostReason.count).sum_eq, map_map]
  exact (groups _).trans countP_eq_length_filter.symm

section Kinds

variable {ids} {d : SalesDb}

theorem count_kind {j : ExceptionKind} {rows : List ExceptionRow} (h : ∀ x ∈ rows, x.kind = j)
    (k : ExceptionKind) :
    count (fun x => x.kind = k) rows = if j = k then rows.length else 0 := by
  split
  case isTrue hk => exact countP_eq_length.mpr fun x hx => by simp [h x hx, hk]
  case isFalse hk => exact countP_eq_zero.mpr fun x hx => by simp [h x hx, hk]

theorem length_partiesOf {p : String}
    (hp : p ∈ d.parties.map PartyRow.party_id) : (partiesOf p d).length = 1 := by
  have h := count_eq_one_of_mem d.party_key hp
  rw [List.count, countP_map, countP_eq_length_filter] at h
  exact h

theorem length_stockOf {i : String}
    (hi : i ∈ d.stock_items.map StockRow.stock_item_id) : (stockOf i d).length = 1 := by
  have h := count_eq_one_of_mem d.stock_key hi
  rw [List.count, countP_map, countP_eq_length_filter] at h
  exact h

/-- A join over a foreign key keeps the number of rows. -/
theorem length_join {A B C : Type} {xs : List A} {f : A → List B} {g : A → B → C}
    (h : ∀ x ∈ xs, (f x).length = 1) :
    (xs.flatMap fun x => (f x).map (g x)).length = xs.length := by
  induction xs with
  | nil => rfl
  | cons x xs ih =>
    rw [flatMap_cons, length_append, length_map, h x mem_cons_self,
      ih fun y hy => h y (mem_cons_of_mem _ hy), length_cons]
    omega

/-- The rows of a join that all are of kind `j` count for that kind alone. -/
theorem count_join {A B : Type} {j : ExceptionKind} {xs : List A} {f : A → List B}
    {g : A → B → ExceptionRow} (h : ∀ a b, (g a b).kind = j) (k : ExceptionKind) :
    count (fun x => x.kind = k) (xs.flatMap fun a => (f a).map (g a)) =
      if j = k then (xs.flatMap fun a => (f a).map (g a)).length else 0 := by
  refine count_kind ?_ k
  intro x hx
  obtain ⟨a, -, hx⟩ := mem_flatMap.mp hx
  obtain ⟨b, -, rfl⟩ := mem_map.mp hx
  exact h a b

/-- With room left below the limit, every exception there is was listed. -/
theorem count_exceptionRows (k : ExceptionKind) (h : (exceptionRows w ids d).length < 50) :
    count (fun x => x.kind = k) (exceptionRows w ids d) =
      count (fun x => x.kind = k) (allExceptions w ids d) := by
  have hl : (allExceptions w ids d).length ≤ 50 := by
    rw [exceptionRows, length_take, length_insertionSort] at h
    omega
  rw [exceptionRows, take_of_length_le (by rwa [length_insertionSort])]
  exact (perm_insertionSort _ _).countP_eq _

theorem count_allExceptions (d : SalesDb) (k : ExceptionKind) :
    count (fun x => x.kind = k) (allExceptions w ids d) =
      (if ExceptionKind.waiting_too_long = k then (waitingTooLong w ids d).length else 0) +
      (if ExceptionKind.demonstration_overdue = k then (demonstrationOverdue w ids d).length
        else 0) +
      (if ExceptionKind.demonstration_exception = k then (demonstrationException ids d).length
        else 0) +
      (if ExceptionKind.unowned_opportunity = k then (unownedOpportunity ids d).length else 0) +
      (if ExceptionKind.action_overdue = k then (actionOverdue w ids d).length else 0) := by
  rw [allExceptions, count, countP_append, countP_append, countP_append, countP_append]
  have overdue : ∀ x ∈ actionOverdue w ids d, x.kind = .action_overdue := by
    intro x hx
    obtain ⟨a, -, rfl⟩ := mem_map.mp hx
    rfl
  refine congrArg₂ _ (congrArg₂ _ (congrArg₂ _ (congrArg₂ _ (count_join ?_ k) (count_join ?_ k))
    (count_join ?_ k)) (count_join ?_ k)) (count_kind overdue k)
  all_goals exact fun _ _ => rfl

theorem length_unownedOpportunity (d : SalesDb) :
    (unownedOpportunity ids d).length = (pipelineFigures w ids d).unowned := by
  have unowned : (pipelineFigures w ids d).unowned =
      ((opportunitiesOf ids d).filter fun o => o.isOpen && o.owner_user_link_id.isNone).length :=
    countP_eq_length_filter
  rw [unownedOpportunity, length_join fun o ho =>
    length_partiesOf (d.party_of o (mem_of_mem_filter ho)), unowned, opportunitiesOf,
    filter_filter]
  refine congrArg List.length (filter_congr fun o _ => ?_)
  rw [Bool.and_assoc, Bool.and_comm]

theorem length_demonstrationException (d : SalesDb) :
    (demonstrationException ids d).length = (demonstrationFigures w ids d).exceptions := by
  have exceptions : (demonstrationFigures w ids d).exceptions =
      ((d.demonstrations.filter fun x => x.rooftop_id ∈ ids).filter
        fun x => x.state = .exception).length := countP_eq_length_filter
  rw [demonstrationException, length_join fun x hx =>
    length_stockOf (d.stock_of x (mem_of_mem_filter hx)), exceptions, filter_filter]
  exact congrArg List.length (filter_congr fun x _ => Bool.and_comm _ _)

theorem length_actionOverdue (d : SalesDb) :
    (actionOverdue w ids d).length = (actionFigures w ids d).overdue := by
  rw [actionOverdue, length_map, ← countP_eq_length_filter]
  rfl

end Kinds

theorem boardAt_coherent {d : SalesDb} {b : SalesBoard} (h : boardAt w ids d = some b) :
    Coherent b := by
  cases h
  refine ⟨count_isOpen _, rfl, sum_lostReasons w ids d, rfl, ?_, ?_, ?_⟩
  · intro h
    rw [count_exceptionRows w _ h, count_allExceptions, length_unownedOpportunity w]
    simp
  · intro h
    rw [count_exceptionRows w _ h, count_allExceptions, length_actionOverdue]
    simp
  · intro h
    rw [count_exceptionRows w _ h, count_allExceptions, length_demonstrationException w]
    simp

/-! ## One moment -/

/-- There is one committed state every figure comes from, and the figures agree. -/
def OneMoment (committed : List SalesDb) (b : SalesBoard) : Prop :=
  (∃ d ∈ committed, boardAt w ids d = some b) ∧ Coherent b

theorem salesBoard_eq {m : SalesDb} {seen : List SalesDb} (hl : seen.length = statements)
    (h : ∀ i e, seen[i]? = some e → SameAnswer w ids i e m) :
    salesBoard w ids seen = boardAt w ids m := by
  match seen, hl with
  | [d1, d2, d3, d4, d5, d6, d7, d8, d9, d10, d11], _ =>
    have h1 : boardRooftops ids d1 = boardRooftops ids m := h 0 d1 rfl
    have h2 : appointmentFigures w ids d2 = appointmentFigures w ids m := h 1 d2 rfl
    have h3 : showroomFigures w ids d3 = showroomFigures w ids m := h 2 d3 rfl
    have h4 : floorFigures ids d4 = floorFigures ids m := h 3 d4 rfl
    have h5 : pipelineFigures w ids d5 = pipelineFigures w ids m := h 4 d5 rfl
    have h6 : vehicleFigures ids d6 = vehicleFigures ids m := h 5 d6 rfl
    have h7 : demonstrationFigures w ids d7 = demonstrationFigures w ids m := h 6 d7 rfl
    have h8 : negotiationFigures w ids d8 = negotiationFigures w ids m := h 7 d8 rfl
    have h9 : actionFigures w ids d9 = actionFigures w ids m := h 8 d9 rfl
    have h10 : lostReasons ids d10 = lostReasons ids m := h 9 d10 rfl
    have h11 : exceptionRows w ids d11 = exceptionRows w ids m := h 10 d11 rfl
    rw [boardAt, salesBoard, h1, h2, h3, h4, h5, h6, h7, h8, h9, h10, h11]
    rfl

theorem SameAnswer.refl (i : Nat) (d : SalesDb) : SameAnswer w ids i d d := by
  unfold SameAnswer
  split <;> trivial

theorem SameAnswer.symm (i : Nat) (d e : SalesDb) (h : SameAnswer w ids i d e) :
    SameAnswer w ids i e d := by
  unfold SameAnswer at h ⊢
  split at h <;> first | exact h.symm | trivial

theorem SameAnswer.trans (i : Nat) (d e f : SalesDb) (h : SameAnswer w ids i d e)
    (h' : SameAnswer w ids i e f) : SameAnswer w ids i d f := by
  unfold SameAnswer at h h' ⊢
  split at h <;> first | exact h.trans h' | trivial

/-- A board that nobody disturbs is one moment. -/
theorem salesBoard_at_one_moment (moment : Nat) (hm : moment < statements) (d : SalesDb)
    (ts : List (ReadTurn SalesDb))
    (quiet : Along (Reading.step statements) (Undisturbed (SameAnswer w ids) statements moment)
      (Reading.start d) ts)
    (done : (run (Reading.step statements) (Reading.start d) ts).seen.length = statements) :
    ∃ b, salesBoard w ids (run (Reading.step statements) (Reading.start d) ts).seen = some b ∧
      OneMoment w ids (run (Reading.step statements) (Reading.start d) ts).history b := by
  obtain ⟨m, hmem, same⟩ := read_at_one_moment (SameAnswer.refl w ids) (SameAnswer.symm w ids)
    (SameAnswer.trans w ids) hm quiet (Nat.le_of_eq done.symm)
  have board := salesBoard_eq w ids done same
  have some_ : ∃ b, boardAt w ids m = some b := ⟨_, rfl⟩
  obtain ⟨b, hb⟩ := some_
  exact ⟨b, board.trans hb, ⟨m, hmem, hb⟩, boardAt_coherent w ids hb⟩

end Board

/-! ## A Saturday

One customer is being negotiated with when a manager opens the board, and is lost to their credit
before the last of its statements has run. -/

namespace Saturday

def world : BoardWorld := { now := 48 * hour, date := fun t => t / (24 * hour) }

def opportunity (stage : OpportunityStage) (disposition : Option OpportunityDisposition)
    (updated : Int) : OpportunityRow where
  opportunity_id := "o"
  rooftop_id := "north"
  party_id := "p"
  owner_user_link_id := some "u"
  stage := stage
  disposition := disposition
  created_at := 24 * hour
  updated_at := updated

def showing (o : OpportunityRow) (ho : o.party_id = "p") : SalesDb where
  rooftops := [{ rooftop_id := "north", name := "North", active := true }]
  parties := [{ party_id := "p", display_name := "Pat" }]
  stock_items := []
  appointments := []
  showroom_visits := []
  floor_rotations := []
  opportunities := [o]
  opportunity_vehicles := []
  demonstrations := []
  negotiation_rounds := [{ opportunity_id := "o", occurred_at := 47 * hour }]
  manager_turnovers := []
  opportunity_activities := []
  party_key := nodup_singleton _
  stock_key := nodup_nil
  party_of := by
    rintro x (_ | _)
    · exact ho ▸ mem_singleton_self _
    · contradiction
  stock_of := nofun

def negotiating : SalesDb := showing (opportunity .negotiating none (47 * hour)) rfl

def lost : SalesDb := showing (opportunity .lost (some .lost_credit) (48 * hour + minute)) rfl

/-- The customer is lost after `n` of the statements. -/
def lostAfter (n : Nat) : List (ReadTurn SalesDb) :=
  List.replicate n .statement ++ .commit lost :: List.replicate (statements - n) .statement

end Saturday

open Saturday in
/-- A customer lost before the pipeline is counted is on the board as lost throughout. -/
theorem lost_before_count_at_one_moment :
    ∃ b, salesBoard world ["north"]
        (run (Reading.step statements) (Reading.start negotiating) (lostAfter 2)).seen = some b ∧
      OneMoment world ["north"]
        (run (Reading.step statements) (Reading.start negotiating) (lostAfter 2)).history b :=
  salesBoard_at_one_moment world ["north"] 4 (by decide) negotiating (lostAfter 2)
    (by decide +kernel) rfl

open Saturday in
/-- A customer lost between the pipeline and the reasons has a reason and is not lost. -/
theorem salesBoard_is_two_moments :
    ¬ ∀ (w : BoardWorld) (ids : List String) (d : SalesDb) (ts : List (ReadTurn SalesDb)),
      (run (Reading.step statements) (Reading.start d) ts).seen.length = statements →
      ∃ b, salesBoard w ids (run (Reading.step statements) (Reading.start d) ts).seen = some b ∧
        OneMoment w ids (run (Reading.step statements) (Reading.start d) ts).history b := by
  intro h
  obtain ⟨b, hb, -, coherent⟩ := h world ["north"] negotiating (lostAfter 9) rfl
  cases hb
  have reasons := coherent.reasons
  revert reasons
  decide +kernel

end Dealership.Sales.Board
