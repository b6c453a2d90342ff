import Mathlib.Logic.Relation
import Dealership.Library.Run

/-!
# Transactions that wait for each other's rows

A call is the sequence of row locks it asks for.  A lock is held until the transaction ends, so a
transaction whose next row another one holds waits for that transaction, and a cycle of such waits
never resolves by itself.

A call asks for its rows in three ways: `lock` waits for the row, `update` is a row of an `UPDATE`,
waited for like a lock unless the row turns out not to match, and `whichFree` takes, without
waiting, those of the offered rows that nobody else holds (`SKIP LOCKED`), and then goes on to the
rows that come with each of them.
-/

namespace Dealership.Library

open List

/-- One request of a call. -/
inductive Wish (ρ : Type*) where
  | lock (row : ρ)
  | update (row : ρ)
  | whichFree (offers : List (ρ × List ρ))

/-- A transaction under way: the call it runs, the rows it holds, the requests still ahead. -/
structure Holder (ρ κ : Type*) where
  call : κ
  held : List ρ
  ahead : List (Wish ρ)

/-- Every transaction begun so far, by its number; `none` when it has ended. -/
abbrev Hall (ρ κ : Type*) := List (Option (Holder ρ κ))

/-- What happens next: a call begins; a transaction is granted its next request, or leaves a row
that does not match alone; a transaction commits or gives up, and lets go of what it holds. -/
inductive HallTurn (κ : Type*) where
  | start (call : κ)
  | grant (i : Nat)
  | pass (i : Nat)
  | finish (i : Nat)

variable {ρ κ : Type*}

/-- The row a transaction cannot go on without. -/
def Holder.next (t : Holder ρ κ) : Option ρ :=
  match t.ahead with
  | .lock r :: _ | .update r :: _ => some r
  | _ => none

section Step

variable [DecidableEq ρ]

/-- Nobody but transaction `i` holds the row. -/
def Hall.freeFor (s : Hall ρ κ) (i : Nat) (r : ρ) : Bool :=
  s.zipIdx.all fun e => e.2 == i || e.1.all fun t => !t.held.contains r

/-- The next request of a transaction, when it can be granted. -/
def Holder.granted (free : ρ → Bool) (t : Holder ρ κ) : Holder ρ κ :=
  match t.ahead with
  | .lock r :: rest | .update r :: rest =>
    if free r then { t with held := r :: t.held, ahead := rest } else t
  | .whichFree offers :: rest =>
    let got := offers.filter fun o => free o.1
    { t with held := got.map (·.1) ++ t.held
             ahead := got.flatMap (fun o => o.2.map .update) ++ rest }
  | [] => t

def Holder.passed (t : Holder ρ κ) : Holder ρ κ :=
  match t.ahead with
  | .update _ :: rest => { t with ahead := rest }
  | _ => t

/-- One turn, of calls whose requests are `wishes`. -/
def Hall.step (wishes : κ → List (Wish ρ)) (s : Hall ρ κ) : HallTurn κ → Hall ρ κ
  | .start call => s ++ [some ⟨call, [], wishes call⟩]
  | .grant i => s.modify i (Option.map (Holder.granted (s.freeFor i)))
  | .pass i => s.modify i (Option.map Holder.passed)
  | .finish i => s.set i none

end Step

/-- Transaction `i` is under way. -/
def Hall.At (s : Hall ρ κ) (i : Nat) (t : Holder ρ κ) : Prop := s[i]? = some (some t)

/-- Transaction `i` waits for a row that transaction `j` holds. -/
def Hall.Waits (s : Hall ρ κ) (i j : Nat) : Prop :=
  i ≠ j ∧ ∃ t u r, s.At i t ∧ s.At j u ∧ t.next = some r ∧ r ∈ u.held

/-- Some transaction waits, through others, for itself. -/
def Hall.Deadlocked (s : Hall ρ κ) : Prop := ∃ i, Relation.TransGen s.Waits i i

/-- A call begins only when no call it clashes with is under way. -/
def Hall.Orderly (clash : κ → κ → Prop) (s : Hall ρ κ) : HallTurn κ → Prop
  | .start call => ∀ e ∈ s, ∀ t ∈ e, ¬ clash call t.call
  | _ => True

instance (clash : κ → κ → Prop) [∀ a b, Decidable (clash a b)] (s : Hall ρ κ) :
    ∀ t, Decidable (s.Orderly clash t)
  | .start call => inferInstanceAs (Decidable (∀ e ∈ s, ∀ t ∈ e, ¬ clash call t.call))
  | .grant _ | .pass _ | .finish _ => .isTrue trivial

/-! ## What a turn leaves -/

theorem Holder.granted_cases (free : ρ → Bool) (t : Holder ρ κ) :
    t.granted free = t ∨
      (∃ r rest, (t.ahead = .lock r :: rest ∨ t.ahead = .update r :: rest) ∧ free r = true ∧
        t.granted free = ⟨t.call, r :: t.held, rest⟩) ∨
      ∃ offers rest, t.ahead = .whichFree offers :: rest ∧
        t.granted free = ⟨t.call, (offers.filter fun o => free o.1).map (·.1) ++ t.held,
          (offers.filter fun o => free o.1).flatMap (fun o => o.2.map .update) ++ rest⟩ := by
  obtain ⟨call, held, ahead⟩ := t
  rcases ahead with - | ⟨⟨row⟩ | ⟨row⟩ | ⟨offers⟩, rest⟩
  · exact .inl rfl
  · by_cases hf : free row = true
    · exact .inr (.inl ⟨row, rest, .inl rfl, hf, if_pos hf⟩)
    · exact .inl (if_neg hf)
  · by_cases hf : free row = true
    · exact .inr (.inl ⟨row, rest, .inr rfl, hf, if_pos hf⟩)
    · exact .inl (if_neg hf)
  · exact .inr (.inr ⟨offers, rest, rfl, rfl⟩)

theorem Holder.passed_cases (t : Holder ρ κ) :
    t.passed = t ∨ ∃ r rest, t.ahead = .update r :: rest ∧ t.passed = ⟨t.call, t.held, rest⟩ := by
  obtain ⟨call, held, ahead⟩ := t
  rcases ahead with - | ⟨⟨row⟩ | ⟨row⟩ | ⟨offers⟩, rest⟩
  · exact .inl rfl
  · exact .inl rfl
  · exact .inr ⟨row, rest, rfl, rfl⟩
  · exact .inl rfl

theorem Holder.held_granted {free : ρ → Bool} {t : Holder ρ κ} {r : ρ}
    (h : r ∈ (t.granted free).held) : r ∈ t.held ∨ free r = true := by
  obtain e | ⟨row, rest, -, hf, e⟩ | ⟨offers, rest, -, e⟩ := t.granted_cases free
  · exact .inl (e ▸ h)
  · rw [e, mem_cons] at h
    exact h.elim (fun e => .inr (e ▸ hf)) .inl
  · rw [e, mem_append, mem_map] at h
    rcases h with ⟨o, ho, rfl⟩ | h
    · exact .inr (mem_filter.mp ho).2
    · exact .inl h

@[simp] theorem Holder.held_passed (t : Holder ρ κ) : t.passed.held = t.held := by
  obtain e | ⟨r, rest, -, e⟩ := t.passed_cases <;> rw [e]

@[simp] theorem Holder.call_passed (t : Holder ρ κ) : t.passed.call = t.call := by
  obtain e | ⟨r, rest, -, e⟩ := t.passed_cases <;> rw [e]

@[simp] theorem Holder.call_granted (free : ρ → Bool) (t : Holder ρ κ) :
    (t.granted free).call = t.call := by
  obtain e | ⟨r, rest, -, -, e⟩ | ⟨offers, rest, -, e⟩ := t.granted_cases free <;> rw [e]

theorem Hall.at_modify {s : Hall ρ κ} {f : Holder ρ κ → Holder ρ κ} {i j : Nat} {t : Holder ρ κ}
    (h : Hall.At (s.modify i (Option.map f)) j t) :
    ∃ u, s.At j u ∧ (t = u ∨ (i = j ∧ t = f u)) := by
  rw [At, getElem?_modify, Option.map_eq_map, Option.map_eq_some_iff] at h
  obtain ⟨e, he, h⟩ := h
  by_cases hij : i = j
  · rw [if_pos hij, Option.map_eq_some_iff] at h
    obtain ⟨u, rfl, rfl⟩ := h
    exact ⟨u, he, .inr ⟨hij, rfl⟩⟩
  · rw [if_neg hij] at h
    exact ⟨t, he.trans (congrArg some h), .inl rfl⟩

section Turns

variable [DecidableEq ρ] {wishes : κ → List (Wish ρ)} {s : Hall ρ κ} {turn : HallTurn κ}
  {t : Holder ρ κ} {j : Nat}

theorem Hall.not_held_of_freeFor {i : Nat} {r : ρ} {u : Holder ρ κ} (h : s.freeFor i r = true)
    (hj : s.At j u) (hij : j ≠ i) : r ∉ u.held := by
  have hmem : (some u, j) ∈ s.zipIdx := mem_zipIdx_iff_getElem?.mpr hj
  have := all_eq_true.mp h _ hmem
  simpa [hij] using this

/-- Who is under way after a turn: a new call, or whoever was, moved on by its own turn. -/
theorem Hall.at_step (h : (s.step wishes turn).At j t) :
    (∃ call, turn = .start call ∧ s.length ≤ j ∧ t = ⟨call, [], wishes call⟩) ∨
      ∃ u, s.At j u ∧ (t = u ∨ (turn = .grant j ∧ t = u.granted (s.freeFor j)) ∨
        (turn = .pass j ∧ t = u.passed)) := by
  cases turn with
  | start call =>
    rcases Nat.lt_or_ge j s.length with hj | hj
    · rw [At, step, getElem?_append_left hj] at h
      exact .inr ⟨t, h, .inl rfl⟩
    · rw [At, step, getElem?_append_right hj, getElem?_singleton] at h
      split at h
      · exact .inl ⟨call, rfl, hj, by simpa [eq_comm] using h⟩
      · exact absurd h nofun
  | grant i =>
    obtain ⟨u, hu, rfl | ⟨rfl, rfl⟩⟩ := at_modify h
    · exact .inr ⟨t, hu, .inl rfl⟩
    · exact .inr ⟨u, hu, .inr (.inl ⟨rfl, rfl⟩)⟩
  | pass i =>
    obtain ⟨u, hu, rfl | ⟨rfl, rfl⟩⟩ := at_modify h
    · exact .inr ⟨t, hu, .inl rfl⟩
    · exact .inr ⟨u, hu, .inr (.inr ⟨rfl, rfl⟩)⟩
  | finish i =>
    rw [At, step, getElem?_set] at h
    split at h
    · split at h <;> exact absurd h nofun
    · exact .inr ⟨t, h, .inl rfl⟩

/-! ## What every turn keeps -/

/-- Every transaction under way is somewhere along its call. -/
def Hall.Each (P : Holder ρ κ → Prop) (s : Hall ρ κ) : Prop := ∀ i t, s.At i t → P t

theorem Hall.Each.step {P : Holder ρ κ → Prop} (start : ∀ call, P ⟨call, [], wishes call⟩)
    (granted : ∀ free t, P t → P (t.granted free)) (passed : ∀ t, P t → P t.passed)
    (h : s.Each P) (turn : HallTurn κ) : (s.step wishes turn).Each P := by
  intro j t ht
  obtain ⟨call, -, -, rfl⟩ | ⟨u, hu, rfl | ⟨-, rfl⟩ | ⟨-, rfl⟩⟩ := at_step ht
  · exact start call
  · exact h j t hu
  · exact granted _ u (h j u hu)
  · exact passed u (h j u hu)

/-- No row is held twice. -/
def Hall.Exclusive (s : Hall ρ κ) : Prop :=
  ∀ i j t u r, i ≠ j → s.At i t → s.At j u → r ∈ t.held → r ∉ u.held

/-- A turn gives a transaction only rows that nobody else holds. -/
theorem Hall.held_step {r : ρ} (h : (s.step wishes turn).At j t) (hr : r ∈ t.held) :
    ∃ u, s.At j u ∧ (r ∈ u.held ∨ (turn = .grant j ∧ s.freeFor j r = true)) := by
  obtain ⟨call, -, -, rfl⟩ | ⟨u, hu, rfl | ⟨rfl, rfl⟩ | ⟨-, rfl⟩⟩ := at_step h
  · exact absurd hr not_mem_nil
  · exact ⟨t, hu, .inl hr⟩
  · exact ⟨u, hu, (Holder.held_granted hr).imp_right fun hf => ⟨rfl, hf⟩⟩
  · exact ⟨u, hu, .inl (by simpa using hr)⟩

theorem Hall.Exclusive.step (h : s.Exclusive) (turn : HallTurn κ) :
    (s.step wishes turn).Exclusive := by
  intro i j t u r hij ht hu hr hr'
  obtain ⟨v, hv, hv'⟩ := held_step ht hr
  obtain ⟨w, hw, hw'⟩ := held_step hu hr'
  rcases hv' with hv' | ⟨rfl, hf⟩
  · rcases hw' with hw' | ⟨-, hf⟩
    · exact h i j v w r hij hv hw hv' hw'
    · exact not_held_of_freeFor hf hv hij hv'
  · rcases hw' with hw' | ⟨he, -⟩
    · exact not_held_of_freeFor hf hw (Ne.symm hij) hw'
    · exact hij (by simpa using he)

def Hall.Apart (clash : κ → κ → Prop) (s : Hall ρ κ) : Prop :=
  ∀ i j t u, i ≠ j → s.At i t → s.At j u → ¬ clash t.call u.call

theorem Hall.call_step (h : (s.step wishes turn).At j t) :
    (∃ u, s.At j u ∧ u.call = t.call) ∨ (s.length ≤ j ∧ turn = .start t.call) := by
  obtain ⟨call, rfl, hj, rfl⟩ | ⟨u, hu, rfl | ⟨-, rfl⟩ | ⟨-, rfl⟩⟩ := at_step h
  · exact .inr ⟨hj, rfl⟩
  · exact .inl ⟨t, hu, rfl⟩
  · exact .inl ⟨u, hu, by simp⟩
  · exact .inl ⟨u, hu, by simp⟩

theorem Hall.Apart.step {clash : κ → κ → Prop} (symm : ∀ a b, clash a b → clash b a)
    (h : s.Apart clash) (ho : s.Orderly clash turn) :
    (s.step wishes turn).Apart clash := by
  intro i j t u hij ht hu hc
  rcases call_step ht with ⟨v, hv, ev⟩ | ⟨hi, rfl⟩
  · rcases call_step hu with ⟨w, hw, ew⟩ | ⟨hj, rfl⟩
    · exact h i j v w hij hv hw (ev ▸ ew ▸ hc)
    · exact ho (some v) (mem_of_getElem? hv) v rfl (symm _ _ (ev ▸ hc))
  · rcases call_step hu with ⟨w, hw, ew⟩ | ⟨hj, -⟩
    · exact ho (some w) (mem_of_getElem? hw) w rfl (ew ▸ hc)
    · have : ∀ k v, s.length ≤ k → (s.step wishes (.start t.call)).At k v → k = s.length := by
        intro k v hk hv
        have := (List.getElem?_eq_some_iff.mp hv).1
        rw [Hall.step, length_append, length_singleton] at this
        omega
      exact hij ((this i t hi ht).trans (this j u hj hu).symm)

end Turns

/-! ## Waits that rise -/

theorem Hall.between {s : Hall ρ κ} {i j : Nat} (h : Relation.TransGen s.Waits i j)
    (hi : ∃ k, s.Waits k i) (hj : ∃ k, s.Waits j k) {n : Nat → Nat}
    (rises : ∀ h i j k, s.Waits h i → s.Waits i j → s.Waits j k → n i < n j) : n i < n j := by
  have : n i < n j ∧ ∃ k, s.Waits k j := by
    induction h with
    | single h =>
      obtain ⟨a, ha⟩ := hi
      obtain ⟨b, hb⟩ := hj
      exact ⟨rises _ _ _ _ ha h hb, _, h⟩
    | tail _ h ih =>
      obtain ⟨hn, a, ha⟩ := ih ⟨_, h⟩
      obtain ⟨b, hb⟩ := hj
      exact ⟨Nat.lt_trans hn (rises _ _ _ _ ha h hb), _, h⟩
  exact this.1

/-- No deadlock when, from a transaction that holds something another waits for to the one it
waits for itself, the awaited rows rise in rank. -/
theorem Hall.not_deadlocked {s : Hall ρ κ} (rank : ρ → Nat)
    (rises : ∀ i j k t u v q r r', i ≠ j → j ≠ k → s.At i t → s.At j u → s.At k v →
      q ∈ t.held → t.next = some r → r ∈ u.held → u.next = some r' → r' ∈ v.held →
      rank r < rank r') : ¬ s.Deadlocked := by
  rintro ⟨i, h⟩
  obtain ⟨first, hfirst, -⟩ := Relation.TransGen.head'_iff.mp h
  obtain ⟨last, -, hlast⟩ := Relation.TransGen.tail'_iff.mp h
  let awaited (i : Nat) : Nat := ((s[i]?.join.bind (·.next)).map rank).getD 0
  have rank_next : ∀ i t r, s.At i t → t.next = some r → awaited i = rank r := by
    intro i t r ht hr
    simp only [awaited, show s[i]? = _ from ht, Option.join_some, Option.bind_some, hr,
      Option.map_some, Option.getD_some]
  refine Nat.lt_irrefl _ (between h ⟨last, hlast⟩ ⟨first, hfirst⟩ (n := awaited) ?_)
  rintro a i j k ⟨-, -, t, q, -, ht, -, hq⟩ ⟨hij, t', u, r, ht', hu, hr, hru⟩
    ⟨hjk, u', v, r', hu', hv, hr', hrv⟩
  obtain rfl : t = t' := by simpa using ht.symm.trans ht'
  obtain rfl : u = u' := by simpa using hu.symm.trans hu'
  rw [rank_next i t r ht hr, rank_next j u r' hu hr']
  exact rises i j k t u v q r r' hij hjk ht hu hv hq hr hru hr' hrv

end Dealership.Library
