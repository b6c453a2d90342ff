import Mathlib.Computability.RegularExpressions
import Mathlib.Data.List.Chain
import Dealership.Service.Tickets

/-!
# Shifts

What the clock entries of one ticket should be: shifts, each from a start to a stop with
pauses in between, the last one perhaps still open, and the clock never going back.  Then the
intervals worked are intervals, one after another.

Entries that were each accepted after the one before them are like that.
-/

namespace Dealership.Service

open Computability
open List

variable {entries : List TimeEntry} {v : List TimeEventType}

/-! ## The language of the clock -/

def pauseResume : RegularExpression TimeEventType := .char .pause * .char .resume

/-- `start ((pause resume)* | (pause resume)* pause) stop`. -/
def shift : RegularExpression TimeEventType :=
  .char .start * (.star pauseResume + .star pauseResume * .char .pause) * .char .stop

/-- Shifts one after another, the last one perhaps not finished. -/
def Clocks (events : List TimeEventType) : Prop :=
  ∃ rest, events ++ rest ∈ (RegularExpression.star shift).matches'

/-- `start` and `resume` open an interval of work, `pause` and `stop` close it. -/
def TimeEventType.opens (t : TimeEventType) : Bool := t = .start || t = .resume

/-- The intervals worked: each opening entry with the next closing one. -/
def worked : List TimeEntry → List (Int × Int)
  | [] => []
  | e :: es =>
    if e.event_type.opens then
      match es.find? fun f => !f.event_type.opens with
      | some f => (e.occurred_at, f.occurred_at) :: worked es
      | none => worked es
    else worked es

/-- The entries of a ticket, in the order they were committed, are coherent shifts. -/
structure Coherent (entries : List TimeEntry) : Prop where
  word : Clocks (entries.map TimeEntry.event_type)
  forward : (entries.map TimeEntry.occurred_at).Pairwise (· ≤ ·)
  lasting : ∀ p ∈ worked entries, p.1 ≤ p.2
  apart : (worked entries).Pairwise fun p q => p.2 ≤ q.1

inductive Clocked : List TimeEntry → Prop where
  | none : Clocked []
  | next {entries : List TimeEntry} {e : TimeEntry} (earlier : Clocked entries)
      (accepted : clockAccepts entries.getLast? e.event_type e.occurred_at = true) :
      Clocked (entries ++ [e])

/-! ## Accepted words are words of shifts -/

theorem breaks_snoc (h : v ∈ pauseResume.matches'∗) :
    v ++ [.pause, .resume] ∈ pauseResume.matches'∗ := by
  have hone : [TimeEventType.pause, .resume] ∈ pauseResume.matches' :=
    Language.mem_mul.mpr ⟨[.pause], rfl, [.resume], rfl, rfl⟩
  rw [Language.mem_kstar] at h ⊢
  obtain ⟨parts, rfl, hparts⟩ := h
  refine ⟨parts ++ [[.pause, .resume]], by simp, fun part hpart => ?_⟩
  rcases mem_append.mp hpart with hpart | hpart
  · exact hparts part hpart
  · rw [mem_singleton.mp hpart]
    exact hone

theorem shifts_snoc {u s : List TimeEventType} (hu : u ∈ shift.matches'∗)
    (hs : s ∈ shift.matches') : u ++ s ∈ shift.matches'∗ := by
  rw [Language.mem_kstar] at hu ⊢
  obtain ⟨parts, rfl, hparts⟩ := hu
  refine ⟨parts ++ [s], by simp, fun part hpart => ?_⟩
  rcases mem_append.mp hpart with hpart | hpart
  · exact hparts part hpart
  · rw [mem_singleton.mp hpart]
    exact hs

theorem shift_of_breaks (hv : v ∈ pauseResume.matches'∗) :
    [.start] ++ v ++ [.stop] ∈ shift.matches' :=
  Language.mem_mul.mpr ⟨[.start] ++ v, Language.mem_mul.mpr ⟨[.start], rfl, v, .inl hv, rfl⟩,
    [.stop], rfl, rfl⟩

theorem shift_of_pause (hv : v ∈ pauseResume.matches'∗) :
    [.start] ++ (v ++ [.pause]) ++ [.stop] ∈ shift.matches' := by
  have hpaused : v ++ [.pause] ∈ (RegularExpression.star pauseResume * .char .pause).matches' :=
    Language.mem_mul.mpr ⟨v, hv, [.pause], rfl, rfl⟩
  exact Language.mem_mul.mpr ⟨[.start] ++ (v ++ [.pause]),
    Language.mem_mul.mpr ⟨[.start], rfl, _, .inr hpaused, rfl⟩, [.stop], rfl, rfl⟩

/-- What a word that is read so far looks like, by its last letter. -/
def ReadSoFar (events : List TimeEventType) : Option TimeEventType → Prop
  | none | some .stop => events ∈ shift.matches'∗
  | some .start | some .resume =>
    ∃ u v, u ∈ shift.matches'∗ ∧ v ∈ pauseResume.matches'∗ ∧ events = u ++ ([.start] ++ v)
  | some .pause => ∃ u v, u ∈ shift.matches'∗ ∧ v ∈ pauseResume.matches'∗ ∧
      events = u ++ ([.start] ++ (v ++ [.pause]))

theorem readSoFar_nil : ReadSoFar [] none := Language.nil_mem_kstar _

theorem ReadSoFar.snoc {events : List TimeEventType} {last : Option TimeEventType}
    (h : ReadSoFar events last) {e : TimeEventType} (he : e ∈ permitted last) :
    ReadSoFar (events ++ [e]) (some e) := by
  have hstart : events ∈ shift.matches'∗ → ReadSoFar (events ++ [.start]) (some .start) :=
    fun hu => ⟨events, [], hu, Language.nil_mem_kstar _, rfl⟩
  have hworking : (∃ u v, u ∈ shift.matches'∗ ∧ v ∈ pauseResume.matches'∗ ∧
      events = u ++ ([.start] ++ v)) → e = .pause ∨ e = .stop →
        ReadSoFar (events ++ [e]) (some e) := by
    rintro ⟨u, v, hu, hv, rfl⟩ (rfl | rfl)
    · exact ⟨u, v, hu, hv, by simp⟩
    · have hshift := shifts_snoc hu (shift_of_breaks hv)
      rwa [← append_assoc] at hshift
  cases last with
  | none =>
    obtain rfl := mem_singleton.mp he
    exact hstart h
  | some t =>
    cases t with
    | stop =>
      obtain rfl := mem_singleton.mp he
      exact hstart h
    | start | resume =>
      refine hworking h ?_
      simpa [permitted, allowedNext] using he
    | pause =>
      obtain ⟨u, v, hu, hv, rfl⟩ := h
      have hcases : e = .resume ∨ e = .stop := by
        simpa [permitted, allowedNext] using he
      rcases hcases with rfl | rfl
      · exact ⟨u, v ++ [.pause, .resume], hu, breaks_snoc hv, by simp⟩
      · have hshift := shifts_snoc hu (shift_of_pause hv)
        rwa [← append_assoc] at hshift

theorem ReadSoFar.clocks {events : List TimeEventType} {last : Option TimeEventType}
    (h : ReadSoFar events last) : Clocks events := by
  have hworking : (∃ u v, u ∈ shift.matches'∗ ∧ v ∈ pauseResume.matches'∗ ∧
      events = u ++ ([.start] ++ v)) → Clocks events := by
    rintro ⟨u, v, hu, hv, rfl⟩
    refine ⟨[.stop], ?_⟩
    rw [append_assoc]
    exact shifts_snoc hu (shift_of_breaks hv)
  cases last with
  | none => exact ⟨[], by rwa [append_nil]⟩
  | some t =>
    cases t with
    | stop => exact ⟨[], by rwa [append_nil]⟩
    | start | resume => exact hworking h
    | pause =>
      obtain ⟨u, v, hu, hv, rfl⟩ := h
      refine ⟨[.stop], ?_⟩
      rw [append_assoc]
      exact shifts_snoc hu (shift_of_pause hv)

theorem Clocked.readSoFar (h : Clocked entries) :
    ReadSoFar (entries.map TimeEntry.event_type) (entries.getLast?.map TimeEntry.event_type) := by
  induction h with
  | none => exact readSoFar_nil
  | next earlier accepted ih =>
    rw [clockAccepts, Bool.and_eq_true, decide_eq_true_eq] at accepted
    rw [map_append, getLast?_concat]
    exact ih.snoc accepted.2

/-! ## The clock goes forward -/

/-- One entry is followed by another in the way the clock asks for. -/
def TimeEntry.leads (e f : TimeEntry) : Prop :=
  e.occurred_at ≤ f.occurred_at ∧ f.event_type ∈ allowedNext e.event_type

theorem Clocked.isChain (h : Clocked entries) : entries.IsChain TimeEntry.leads := by
  induction h with
  | none => exact .nil
  | @next entries e earlier accepted ih =>
    rw [clockAccepts, Bool.and_eq_true, decide_eq_true_eq] at accepted
    refine ih.append (.singleton e) fun f hf g hg => ?_
    obtain rfl : e = g := by simpa using hg
    rw [hf] at accepted
    exact ⟨of_decide_eq_true accepted.1, accepted.2⟩

theorem forward_of_isChain (h : entries.IsChain TimeEntry.leads) :
    (entries.map TimeEntry.occurred_at).Pairwise (· ≤ ·) := by
  rw [← isChain_iff_pairwise, isChain_map]
  exact h.imp fun _ _ hlead => hlead.1

theorem closes_of_leads {e f : TimeEntry} (h : e.leads f) (he : e.event_type.opens = true) :
    f.event_type.opens = false := by
  have hnext := h.2
  cases htype : e.event_type with
  | start | resume =>
    rw [htype] at hnext
    rcases (by simpa [allowedNext] using hnext : _ ∨ _) with hf | hf
    · rw [hf]
      rfl
    · rw [hf]
      rfl
  | pause | stop =>
    rw [htype] at he
    cases he

theorem worked_of_closing {e : TimeEntry} (h : e.event_type.opens = false)
    (entries : List TimeEntry) : worked (e :: entries) = worked entries := by
  rw [worked, if_neg (by rw [h]; exact Bool.false_ne_true)]

theorem worked_of_opening {e f : TimeEntry} (he : e.event_type.opens = true)
    (hf : f.event_type.opens = false) (entries : List TimeEntry) :
    worked (e :: f :: entries) = (e.occurred_at, f.occurred_at) :: worked entries := by
  rw [worked, if_pos he, find?_cons_of_pos (by rw [hf]; rfl), worked_of_closing hf]

/-- The intervals worked last, are one after another, and begin no earlier than the first entry. -/
theorem worked_of_isChain (h : entries.IsChain TimeEntry.leads) :
    (∀ p ∈ worked entries, p.1 ≤ p.2) ∧ (worked entries).Pairwise (fun p q => p.2 ≤ q.1) ∧
      ∀ e ∈ entries.head?, ∀ p ∈ worked entries, e.occurred_at ≤ p.1 := by
  induction h with
  | nil => simp [worked]
  | singleton e => simp [worked]
  | @cons_cons e f es hlead hrest ih =>
    obtain ⟨hlasting, hapart, hlater⟩ := ih
    have hhead := hlater f rfl
    cases hopens : e.event_type.opens with
    | false =>
      rw [worked_of_closing hopens]
      refine ⟨hlasting, hapart, fun g hg p hp => ?_⟩
      cases hg
      exact hlead.1.trans (hhead p hp)
    | true =>
      have hcloses := closes_of_leads hlead hopens
      rw [worked_of_closing hcloses] at hlasting hapart hhead
      rw [worked_of_opening hopens hcloses]
      refine ⟨fun p hp => ?_, pairwise_cons.mpr ⟨hhead, hapart⟩, fun g hg p hp => ?_⟩
      · rcases mem_cons.mp hp with rfl | hp
        · exact hlead.1
        · exact hlasting p hp
      · cases hg
        rcases mem_cons.mp hp with rfl | hp
        · exact Int.le_refl _
        · exact hlead.1.trans (hhead p hp)

/-- **Accepted entries are coherent shifts.** -/
theorem Clocked.coherent (h : Clocked entries) : Coherent entries := by
  obtain ⟨hlasting, hapart, -⟩ := worked_of_isChain h.isChain
  exact ⟨h.readSoFar.clocks, forward_of_isChain h.isChain, hlasting, hapart⟩

end Dealership.Service
