import Dealership.Library.Arc

/-!
# Quiet hours

A campaign does not write to a customer inside a window of the customer's
wall clock, and puts a message off to the end of the window instead.  Where
that end is, is worked out by adding what the clock says is left of the window
to an instant.  The two agree for as long as the zone keeps its offset; which
changes of the offset they survive is stated below and is exact.

Instants are milliseconds, as a `Date` counts them.
-/

namespace Dealership.Crm

open Library

/-! ## The clock -/

/-- An instant a `Date` can hold. -/
structure Instant where
  ms : Int
  valid : ms.natAbs ≤ 8640000000000000
deriving DecidableEq

/-- `new Date(ms)`; nothing is an invalid date. -/
def newDate (ms : Int) : Option Instant :=
  if h : ms.natAbs ≤ 8640000000000000 then some ⟨ms, h⟩ else none

/-- A named zone: how many minutes its clocks are ahead of UTC, at each instant. -/
structure Zone where
  offset : Instant → Int

structure QuietHours where
  startMinute : Int
  endMinute : Int
  timeZone : Zone
  /-- The `CHECK`s of the campaign's two columns. -/
  start_between : 0 ≤ startMinute ∧ startMinute ≤ 1439
  end_between : 0 ≤ endMinute ∧ endMinute ≤ 1439

def Instant.minute (t : Instant) : Int := t.ms / 60000

/-- What `Intl.DateTimeFormat` renders: the hour from 00 to 23 and the minute. -/
def localMinuteOfDay (at_ : Instant) (timeZone : Zone) : Int :=
  let wall := at_.minute + timeZone.offset at_
  let hour := wall / 60 % 24
  let minute := wall % 60
  hour * 60 + minute

def insideQuietHours (at_ : Instant) (quiet : QuietHours) : Bool :=
  if quiet.startMinute = quiet.endMinute then false
  else
    let minute := localMinuteOfDay at_ quiet.timeZone
    if quiet.startMinute < quiet.endMinute then
      minute ≥ quiet.startMinute && minute < quiet.endMinute
    else minute ≥ quiet.startMinute || minute < quiet.endMinute

def quietHoursEndAfter (at_ : Instant) (quiet : QuietHours) : Option Instant :=
  if ¬ insideQuietHours at_ quiet then some at_
  else
    let minute := localMinuteOfDay at_ quiet.timeZone
    let until_ :=
      if quiet.endMinute > minute then quiet.endMinute - minute
      else 1440 - minute + quiet.endMinute
    newDate (at_.ms + until_ * 60000)

/-! ## The window is an arc of the clock -/

theorem localMinuteOfDay_eq (t : Instant) (z : Zone) :
    localMinuteOfDay t z = (t.minute + z.offset t) % 1440 := by
  simp only [localMinuteOfDay]
  omega

theorem localMinuteOfDay_between (t : Instant) (z : Zone) :
    0 ≤ localMinuteOfDay t z ∧ localMinuteOfDay t z < 1440 := by
  rw [localMinuteOfDay_eq]
  omega

theorem insideQuietHours_iff (t : Instant) (quiet : QuietHours) :
    insideQuietHours t quiet = true ↔
      OnArc 1440 quiet.startMinute quiet.endMinute (localMinuteOfDay t quiet.timeZone) := by
  obtain ⟨hm, hm'⟩ := localMinuteOfDay_between t quiet.timeZone
  obtain ⟨hs, hs'⟩ := quiet.start_between
  obtain ⟨he, he'⟩ := quiet.end_between
  unfold insideQuietHours
  rcases lt_trichotomy quiet.startMinute quiet.endMinute with hlt | heq | hgt
  · rw [if_neg hlt.ne, if_pos hlt, onArc_iff_range hs hlt.le (by omega) hm hm']
    simp
  · rw [if_pos heq, heq, onArc_iff_range he le_rfl (by omega) hm hm']
    simp
  · rw [if_neg hgt.ne', if_neg (not_lt.2 hgt.le), onArc_iff_union he hgt (by omega) hm hm']
    simp

/-! ## What is left of the window -/

/-- How long the window is. -/
def QuietHours.length (quiet : QuietHours) : Int := ahead 1440 quiet.endMinute quiet.startMinute

/-- How many minutes of the window the clock has ahead of it at an instant. -/
def QuietHours.left (quiet : QuietHours) (t : Instant) : Int :=
  ahead 1440 quiet.endMinute (localMinuteOfDay t quiet.timeZone)

/-- A clock with `n` minutes to go to the end of the window is in the window. -/
def QuietHours.Runs (quiet : QuietHours) (n : Int) : Prop :=
  0 < n % 1440 ∧ n % 1440 ≤ quiet.length

/-- How far the zone has put its clocks forward between two instants. -/
def Zone.shift (z : Zone) (since t : Instant) : Int := z.offset t - z.offset since

theorem insideQuietHours_iff_runs (quiet : QuietHours) (since t : Instant) :
    insideQuietHours t quiet = true ↔
      quiet.Runs (quiet.left since - (t.minute - since.minute) - quiet.timeZone.shift since t) := by
  rw [insideQuietHours_iff, onArc_iff_ahead (by decide)]
  simp only [QuietHours.Runs, QuietHours.left, QuietHours.length, ahead, Zone.shift,
    localMinuteOfDay_eq]
  have walk : (quiet.endMinute - (t.minute + quiet.timeZone.offset t) % 1440) % 1440 =
      ((quiet.endMinute - (since.minute + quiet.timeZone.offset since) % 1440) % 1440 -
        (t.minute - since.minute) -
        (quiet.timeZone.offset t - quiet.timeZone.offset since)) % 1440 := by
    omega
  rw [walk]

variable {quiet : QuietHours}

theorem QuietHours.left_pos {t : Instant} (h : insideQuietHours t quiet = true) :
    0 < quiet.left t := by
  rw [insideQuietHours_iff, onArc_iff_ahead (by decide)] at h
  exact h.1

theorem quietHoursEndAfter_of_inside {t : Instant} (h : insideQuietHours t quiet = true) :
    quietHoursEndAfter t quiet = newDate (t.ms + quiet.left t * 60000) := by
  obtain ⟨hm, hm'⟩ := localMinuteOfDay_between t quiet.timeZone
  obtain ⟨he, he'⟩ := quiet.end_between
  have hpos := QuietHours.left_pos h
  simp only [QuietHours.left, ahead] at hpos ⊢
  simp only [quietHoursEndAfter, h, not_true_eq_false, if_false]
  congr 3
  split <;> omega

theorem quietHoursEndAfter_of_outside {t : Instant} (h : insideQuietHours t quiet = false) :
    quietHoursEndAfter t quiet = some t := by
  simp [quietHoursEndAfter, h]

/-! ## Waking up -/

/-- What a deferred message is owed: an instant no earlier than the one it was
due at, outside the window, with nothing but the window before its minute. -/
def WakesOpen (at_ : Instant) (quiet : QuietHours) : Prop :=
  ∃ r, quietHoursEndAfter at_ quiet = some r ∧ at_.ms ≤ r.ms ∧
    insideQuietHours r quiet = false ∧
    (insideQuietHours at_ quiet = true → ∀ t : Instant, at_.ms < t.ms →
      t.ms < r.minute * 60000 → insideQuietHours t quiet = true) ∧
    (insideQuietHours at_ quiet = false → r = at_)

/-- The zone's changes of offset, seen from an instant in the window: up to the
minute in which the wait ends no change carries the clock out of the window, at
its end or at its beginning, and the change at the end of the wait does not put
the clock back into it. -/
structure ClockKeeps (at_ : Instant) (quiet : QuietHours) : Prop where
  /-- The end of the wait is a date. -/
  dated : at_.ms + quiet.left at_ * 60000 ≤ 8640000000000000
  during : ∀ t : Instant, at_.ms < t.ms → t.ms < (at_.minute + quiet.left at_) * 60000 →
    quiet.Runs (quiet.left at_ - (t.minute - at_.minute) - quiet.timeZone.shift at_ t)
  after : ∀ r : Instant, r.ms = at_.ms + quiet.left at_ * 60000 →
    ¬ quiet.Runs (-quiet.timeZone.shift at_ r)

theorem newDate_eq_some {ms : Int} {r : Instant} : newDate ms = some r ↔ r.ms = ms := by
  unfold newDate
  constructor
  · intro h
    split at h
    · rw [← Option.some.inj h]
    · cases h
  · rintro rfl
    rw [dif_pos r.valid]

theorem ClockKeeps.of_constant {at_ : Instant} (h : insideQuietHours at_ quiet = true)
    (hdated : at_.ms + quiet.left at_ * 60000 ≤ 8640000000000000)
    (hconst : ∀ t : Instant, at_.ms ≤ t.ms → t.ms ≤ at_.ms + quiet.left at_ * 60000 →
      quiet.timeZone.offset t = quiet.timeZone.offset at_) : ClockKeeps at_ quiet where
  dated := hdated
  during := by
    intro t hlo hhi
    have hshift : quiet.timeZone.shift at_ t = 0 := by
      rw [Zone.shift, hconst t hlo.le (by simp only [Instant.minute] at hhi; omega), sub_self]
    have hruns := (insideQuietHours_iff_runs quiet at_ at_).mp h
    have hday : quiet.left at_ < 1440 := Int.emod_lt_of_pos _ (by decide)
    rw [hshift]
    simp only [QuietHours.Runs, Zone.shift, Instant.minute] at hruns hhi ⊢
    omega
  after := by
    intro r hr hruns
    rw [Zone.shift, hconst r (by have := QuietHours.left_pos h; omega) hr.le, sub_self] at hruns
    exact lt_irrefl _ hruns.1

theorem wakesOpen_iff_of_inside {at_ : Instant} (h : insideQuietHours at_ quiet = true) :
    WakesOpen at_ quiet ↔ ClockKeeps at_ quiet := by
  have hpos := QuietHours.left_pos h
  have hvalid := at_.valid
  -- the end of the wait is as many minutes on as were left of the window
  have minute_of_end : ∀ {r : Instant}, r.ms = at_.ms + quiet.left at_ * 60000 →
      r.minute = at_.minute + quiet.left at_ := by
    intro r hr
    simp only [Instant.minute, hr]
    omega
  have open_at_end : ∀ {r : Instant}, r.ms = at_.ms + quiet.left at_ * 60000 →
      (insideQuietHours r quiet = false ↔ ¬ quiet.Runs (-quiet.timeZone.shift at_ r)) := by
    intro r hr
    have left_over : quiet.left at_ - (r.minute - at_.minute) - quiet.timeZone.shift at_ r =
        -quiet.timeZone.shift at_ r := by
      rw [minute_of_end hr]
      omega
    rw [← Bool.not_eq_true, insideQuietHours_iff_runs quiet at_, left_over]
  unfold WakesOpen
  rw [quietHoursEndAfter_of_inside h]
  constructor
  · rintro ⟨r, hr, -, hopen, hduring, -⟩
    rw [newDate_eq_some] at hr
    refine ⟨?_, fun t hlo hhi => ?_, fun r' hr' => ?_⟩
    · have := r.valid
      omega
    · rw [← minute_of_end hr] at hhi
      exact (insideQuietHours_iff_runs quiet at_ t).1 (hduring h t hlo hhi)
    · have same : r' = r := by
        cases r; cases r'
        simp_all
      exact same ▸ (open_at_end hr).1 hopen
  · intro keeps
    obtain ⟨dated, during, after⟩ := keeps
    let r : Instant := ⟨at_.ms + quiet.left at_ * 60000, by omega⟩
    have hr : r.ms = at_.ms + quiet.left at_ * 60000 := rfl
    refine ⟨r, newDate_eq_some.2 rfl, by omega, (open_at_end hr).2 (after r hr),
      fun _ t hlo hhi => ?_, fun hout => ?_⟩
    · rw [minute_of_end hr] at hhi
      exact (insideQuietHours_iff_runs quiet at_ t).2 (during t hlo hhi)
    · rw [h] at hout
      cases hout

theorem wakesOpen_of_outside {at_ : Instant} (h : insideQuietHours at_ quiet = false) :
    WakesOpen at_ quiet := by
  refine ⟨at_, quietHoursEndAfter_of_outside h, le_rfl, h, fun hin => ?_, fun _ => rfl⟩
  rw [h] at hin
  cases hin

/-- The window is the arc of the clock it looks like; and a message due at an
instant is put off as it should be exactly when the instant is outside the
window or the zone's changes of offset leave the wait alone. -/
theorem deferral_follows_the_clock (at_ : Instant) (quiet : QuietHours) :
    (∀ t : Instant, insideQuietHours t quiet = true ↔
      OnArc 1440 quiet.startMinute quiet.endMinute (localMinuteOfDay t quiet.timeZone)) ∧
    (WakesOpen at_ quiet ↔ insideQuietHours at_ quiet = true → ClockKeeps at_ quiet) := by
  refine ⟨fun t => insideQuietHours_iff t quiet, ?_⟩
  cases h : insideQuietHours at_ quiet with
  | true => rw [wakesOpen_iff_of_inside h, eq_self_iff_true, true_imp_iff]
  | false => exact ⟨fun _ hin => (by cases hin), fun _ => wakesOpen_of_outside h⟩

/-- New York through the autumn of 2026: the clocks go back at six in the
morning UTC on the first of November. -/
def newYork : Zone where
  offset t := if t.ms < 1793512800000 then -240 else -300

def nightly : QuietHours where
  startMinute := 1260
  endMinute := 480
  timeZone := newYork
  start_between := by decide
  end_between := by decide

/-- Ten in the evening of the thirty-first of October, in New York. -/
def halloween : Instant := ⟨1793498400000, by decide⟩

/-- The message put off on the night the clocks go back wakes up at seven, an
hour before the window ends. -/
theorem deferred_into_quiet_hours :
    insideQuietHours halloween nightly = true ∧
      (∃ r, quietHoursEndAfter halloween nightly = some r ∧ localMinuteOfDay r newYork = 420 ∧
        insideQuietHours r nightly = true) ∧
      ¬ WakesOpen halloween nightly := by
  have hend : quietHoursEndAfter halloween nightly = some ⟨1793534400000, by decide⟩ := by
    decide
  refine ⟨by decide, ⟨_, hend, by decide, by decide⟩, ?_⟩
  rintro ⟨r, hr, -, hopen, -⟩
  rw [hend] at hr
  cases hr
  exact absurd hopen (by decide)

end Dealership.Crm
