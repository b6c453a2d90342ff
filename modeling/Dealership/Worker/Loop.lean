import Dealership.Library.Run

/-!
# The periodic worker

A pass runs the registered jobs one after another and survives every one that fails.  The loop
arms a timer after each pass, `stop` clears it, and `main` closes the pool when the loop says that
it has stopped.

One turn of the event loop is one step: a job settles, a `tick` goes on past its pass, an armed
timer fires, a signal calls `stop`, or `main` goes on past `stopped`.  How long anything takes, and
in which order things come, is the run's to choose.
-/

namespace Dealership.Worker

open Library List

/-! ## The loop -/

/-- A `tick` and the `runAllJobsOnce` it waits for: the jobs that have not settled, the first of
them running, and the names of those that failed. -/
structure Pass where
  remaining : List String
  failed : List String

def Pass.settle (ok : Bool) (p : Pass) : Pass :=
  match p.remaining with
  | [] => p
  | job :: jobs => ⟨jobs, if ok then p.failed else p.failed ++ [job]⟩

/-- The variables of `startWorker`, the timers the event loop holds, and what has come of
`stopped`.  A timer that has fired is no longer armed, but `timer` still names it. -/
structure Loop where
  stopping : Bool
  timer : Option Nat
  ticks : List Pass
  armed : List Nat
  issued : Nat
  stopped : Bool
  poolClosed : Bool

variable {l : Loop}

/-- `startWorker`: the first tick is under way when it returns. -/
def startWorker (registry : List String) : Loop where
  stopping := false
  timer := none
  ticks := [⟨registry, []⟩]
  armed := []
  issued := 0
  stopped := false
  poolClosed := false

inductive Event where
  | settles (tick : Nat) (ok : Bool)
  | resumes (tick : Nat)
  | fires (timer : Nat)
  | stop
  | mainGoesOn

/-- What `tick` does once its pass is over. -/
def Loop.afterPass (l : Loop) : Loop :=
  if l.stopping then { l with stopped := true }
  else { l with timer := some l.issued, armed := l.armed ++ [l.issued], issued := l.issued + 1 }

/-- `stop`: a timer that is named is taken for one that is pending. -/
def Loop.stop (l : Loop) : Loop :=
  if l.stopping then l
  else
    match l.timer with
    | none => { l with stopping := true }
    | some timer =>
      { l with stopping := true, timer := none, armed := l.armed.erase timer, stopped := true }

def Loop.step (registry : List String) (l : Loop) : Event → Loop
  | .settles i ok => { l with ticks := l.ticks.modify i (Pass.settle ok) }
  | .resumes i =>
    if l.ticks[i]?.any fun p => p.remaining = [] then
      Loop.afterPass { l with ticks := l.ticks.eraseIdx i }
    else l
  | .fires timer =>
    if timer ∈ l.armed then
      { l with armed := l.armed.erase timer, ticks := l.ticks ++ [⟨registry, []⟩] }
    else l
  | .stop => l.stop
  | .mainGoesOn => if l.stopped then { l with poolClosed := true } else l

/-! ## What is asked of it -/

/-- A job is running. -/
def Loop.InFlight (l : Loop) : Prop := ∃ p ∈ l.ticks, p.remaining ≠ []

/-- Passes do not overlap, and the promise is resolved between passes, with no timer left to start
one, and as soon as the loop that was told to stop has no pass to wait for. -/
structure Orderly (registry : List String) (l : Loop) : Prop where
  apart : l.ticks.length ≤ 1
  quiet : l.stopped = true → ¬ l.InFlight ∧ l.armed = []
  final : l.stopped = true → ∀ timer, l.step registry (.fires timer) = l
  resolves : l.stopping = true → l.ticks = [] → l.stopped = true
  closed : l.poolClosed = true → ¬ l.InFlight

/-- The call that stops the loop does not come during a pass that a timer started: no timer has
been set yet, or no job is running. -/
def StopsBetween (l : Loop) (e : Event) : Prop :=
  e = .stop → l.stopping = true ∨ l.issued = 0 ∨ ¬ l.InFlight

/-! ## The phases of the loop -/

/-- The loop is in its first pass, waits for a timer, is in a later pass, or was told to stop and
has a pass or nothing left to finish. -/
inductive Phase : Loop → Prop
  | first (p : Pass) : Phase ⟨false, none, [p], [], 0, false, false⟩
  | waiting (n : Nat) : Phase ⟨false, some n, [], [n], n + 1, false, false⟩
  | later (p : Pass) (n : Nat) : Phase ⟨false, some n, [p], [], n + 1, false, false⟩
  | finishing (p : Pass) (issued : Nat) (stopped closed : Bool)
      (h : closed = true → stopped = true) :
      Phase ⟨true, none, [p], [], issued, stopped, closed⟩
  | ended (issued : Nat) (closed : Bool) : Phase ⟨true, none, [], [], issued, true, closed⟩

/-- A job that settles leaves one tick waiting where one waited. -/
theorem modify_tick (p : Pass) (i : Nat) (f : Pass → Pass) : ∃ q, [p].modify i f = [q] := by
  cases i with
  | zero => exact ⟨f p, rfl⟩
  | succ i => exact ⟨p, by rw [modify_succ_cons, modify_nil]⟩

theorem tick_resumes {p : Pass} {i : Nat} {P : Pass → Bool} (h : [p][i]?.any P = true) :
    i = 0 ∧ P p = true := by
  cases i with
  | zero => exact ⟨rfl, h⟩
  | succ i => cases h

theorem Phase.step (h : Phase l) (registry : List String) (e : Event) :
    Phase (l.step registry e) := by
  cases e with
  | settles i ok =>
    cases h with
    | first p =>
      obtain ⟨q, hq⟩ := modify_tick p i (Pass.settle ok)
      simpa only [Loop.step, hq] using .first q
    | waiting n => simpa only [Loop.step, modify_nil] using .waiting n
    | later p n =>
      obtain ⟨q, hq⟩ := modify_tick p i (Pass.settle ok)
      simpa only [Loop.step, hq] using .later q n
    | finishing p issued stopped closed h =>
      obtain ⟨q, hq⟩ := modify_tick p i (Pass.settle ok)
      simpa only [Loop.step, hq] using .finishing q issued stopped closed h
    | ended issued closed => simpa only [Loop.step, modify_nil] using .ended issued closed
  | resumes i =>
    rw [Loop.step]
    split
    · rename_i hdone
      cases h with
      | waiting n => cases hdone
      | ended issued closed => cases hdone
      | first p =>
        obtain ⟨rfl, -⟩ := tick_resumes hdone
        exact .waiting 0
      | later p n =>
        obtain ⟨rfl, -⟩ := tick_resumes hdone
        exact .waiting (n + 1)
      | finishing p issued stopped closed h =>
        obtain ⟨rfl, -⟩ := tick_resumes hdone
        exact .ended issued closed
    · exact h
  | fires timer =>
    rw [Loop.step]
    split
    · rename_i harmed
      cases h with
      | waiting n =>
        obtain rfl := mem_singleton.mp harmed
        simpa using Phase.later ⟨registry, []⟩ timer
      | first | later | finishing | ended => cases harmed
    · exact h
  | stop =>
    cases h with
    | first p => exact .finishing p 0 false false id
    | waiting n => simpa [Loop.step, Loop.stop] using Phase.ended (n + 1) false
    | later p n => exact .finishing p (n + 1) true false fun _ => rfl
    | finishing p issued stopped closed h => exact .finishing p issued stopped closed h
    | ended issued closed => exact .ended issued closed
  | mainGoesOn =>
    rw [Loop.step]
    split
    · rename_i hstopped
      cases h with
      | first | waiting | later => cases hstopped
      | finishing p issued stopped closed h =>
        exact .finishing p issued stopped true fun _ => hstopped
      | ended issued closed => exact .ended issued true
    · exact h

/-! ## Stopping between passes -/

/-- The part of the order that a call of `stop` can break. -/
def Between (l : Loop) : Prop := l.stopped = true → ¬ l.InFlight

theorem Phase.orderly_iff (h : Phase l) (registry : List String) :
    Orderly registry l ↔ Between l := by
  refine ⟨fun ho hs => (ho.quiet hs).1, fun hb => ?_⟩
  cases h with
  | first | waiting | later => exact ⟨by simp, nofun, nofun, nofun, nofun⟩
  | finishing p issued stopped closed h =>
    exact ⟨by simp, fun hs => ⟨hb hs, rfl⟩, fun _ _ => rfl, nofun, fun hc => hb (h hc)⟩
  | ended issued closed =>
    exact ⟨by simp, fun hs => ⟨hb hs, rfl⟩, fun _ _ => rfl, fun _ _ => rfl, fun _ => hb rfl⟩

theorem inFlight_of_modify {i : Nat} {ok : Bool}
    (h : Loop.InFlight { l with ticks := l.ticks.modify i (Pass.settle ok) }) : l.InFlight := by
  obtain ⟨q, hq, hne⟩ := h
  obtain ⟨j, hj, rfl⟩ := mem_iff_getElem.mp hq
  rw [length_modify] at hj
  rw [getElem_modify] at hne
  refine ⟨l.ticks[j], getElem_mem hj, fun hnil => hne ?_⟩
  split
  · rw [Pass.settle, hnil]
    exact hnil
  · exact hnil

/-- The loop that resolves its promise between passes goes on to do so exactly when it is not told
to stop in the middle of a pass that a timer started. -/
theorem Phase.between_step_iff (h : Phase l) (hb : Between l) (registry : List String)
    (e : Event) : Between (l.step registry e) ↔ StopsBetween l e := by
  cases e with
  | settles i ok =>
    exact ⟨fun _ => nofun, fun _ hs hin => hb hs (inFlight_of_modify hin)⟩
  | resumes i =>
    refine ⟨fun _ => nofun, fun _ => ?_⟩
    rw [Loop.step]
    split
    · rename_i hdone
      cases h with
      | waiting | ended => cases hdone
      | first p | later p n | finishing p =>
        obtain ⟨rfl, -⟩ := tick_resumes hdone
        rintro - ⟨q, hq, -⟩
        cases hq
    · exact hb
  | fires timer =>
    refine ⟨fun _ => nofun, fun _ => ?_⟩
    rw [Loop.step]
    split
    · rename_i harmed
      cases h with
      | waiting n => exact nofun
      | first | later | finishing | ended => cases harmed
    · exact hb
  | stop =>
    cases h with
    | first p => exact ⟨fun _ _ => .inr (.inl rfl), fun _ => nofun⟩
    | waiting n =>
      refine ⟨fun _ _ => .inr (.inr ?_), fun _ _ => ?_⟩ <;>
      · rintro ⟨q, hq, -⟩
        cases hq
    | later p n =>
      refine ⟨fun hstep _ => .inr (.inr (hstep rfl)), fun hstops _ hin => ?_⟩
      rcases hstops rfl with hs | hs | hs
      · cases hs
      · cases hs
      · exact hs hin
    | finishing | ended => exact ⟨fun _ _ => .inl rfl, fun _ => hb⟩
  | mainGoesOn =>
    refine ⟨fun _ => nofun, fun _ => ?_⟩
    rw [Loop.step]
    split
    · exact hb
    · exact hb

theorem Phase.run_orderly_iff (h : Phase l) (hb : Between l) (registry : List String)
    (es : List Event) :
    (∀ n, Orderly registry (run (Loop.step registry) l (es.take n))) ↔
      Along (Loop.step registry) StopsBetween l es := by
  induction es generalizing l with
  | nil =>
    refine ⟨fun _ => trivial, fun _ n => ?_⟩
    rw [take_nil]
    exact (h.orderly_iff registry).mpr hb
  | cons e es ih =>
    have hnext := h.step registry e
    rw [Along, ← h.between_step_iff hb registry e]
    constructor
    · intro horderly
      have hbnext := (hnext.orderly_iff registry).mp (horderly 1)
      exact ⟨hbnext, (ih hnext hbnext).mp fun n => horderly (n + 1)⟩
    · rintro ⟨hbnext, halong⟩ n
      cases n with
      | zero => exact (h.orderly_iff registry).mpr hb
      | succ n => exact (ih hnext hbnext).mpr halong n

/-- Whatever its jobs do and whenever it is told to stop, the worker stops between passes, in
exactly the runs in which the call that stops it does not come during a pass that a timer
started. -/
theorem worker_stops_between_passes_iff (registry : List String) (es : List Event) :
    (∀ n, Orderly registry (run (Loop.step registry) (startWorker registry) (es.take n))) ↔
      Along (Loop.step registry) StopsBetween (startWorker registry) es :=
  Phase.run_orderly_iff (.first _) nofun registry es

/-- The first timer has fired and its pass is running when the signal comes: the promise is
resolved, and the pool is closed under the job. -/
theorem second_pass_loses_pool :
    ¬ Orderly ["support_access_expiry"]
      (run (Loop.step ["support_access_expiry"]) (startWorker ["support_access_expiry"])
        [.settles 0 true, .resumes 0, .fires 0, .stop, .mainGoesOn]) := fun h =>
  h.closed rfl ⟨⟨["support_access_expiry"], []⟩, mem_singleton_self _, by decide⟩

end Dealership.Worker
