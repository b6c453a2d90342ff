import Mathlib.Data.List.Nodup
import Mathlib.Data.List.Pairwise
import Mathlib.Data.List.Perm.Basic

/-!
# Tables as lists of rows

A table is a list of rows in the order they were inserted; a unique key is a
projection of the rows without repetitions.  `UPDATE … SET f WHERE p` is
`updateWhere p f`, `INSERT` appends, and nothing is ever deleted.

The lemmas say what a statement does to membership and to keys.  They are all
that the invariants of a schema need: an invariant quantifies over rows, and a
row after a statement is a row before it, moved by the statement or not.
-/

namespace Dealership.Library

open List

variable {ρ κ : Type*} {t : List ρ} {key : ρ → κ} {r : ρ} {p : ρ → Prop}

/-- `UPDATE t SET f WHERE p`: every row that satisfies `p` is replaced by its
image under `f`, in place. -/
def updateWhere (p : ρ → Prop) [DecidablePred p] (f : ρ → ρ) (t : List ρ) : List ρ :=
  t.map fun r => if p r then f r else r

/-- `MAX` is no less than any of its values. -/
theorem le_foldl_max {l : List Nat} {n m : Nat} (h : n ∈ l ∨ n ≤ m) : n ≤ l.foldl max m := by
  induction l generalizing m with
  | nil => exact h.resolve_left not_mem_nil
  | cons k l ih =>
    refine ih ?_
    rcases h with h | h
    · rcases mem_cons.mp h with rfl | h
      · exact .inr (Nat.le_max_right m n)
      · exact .inl h
    · exact .inr (Nat.le_trans h (Nat.le_max_left m k))

section UpdateWhere

variable {p : ρ → Prop} [DecidablePred p] {f : ρ → ρ} {t : List ρ} {q : ρ → Bool} {g : ρ → κ}

theorem mem_updateWhere {r' : ρ} :
    r' ∈ updateWhere p f t ↔ ∃ r ∈ t, r' = if p r then f r else r := by
  simp only [updateWhere, mem_map, eq_comm]

/-- A row that the statement touches is found moved. -/
theorem mem_updateWhere_of_pos {r : ρ} (hr : r ∈ t) (hp : p r) : f r ∈ updateWhere p f t :=
  mem_updateWhere.mpr ⟨r, hr, by rw [if_pos hp]⟩

/-- A row that the statement does not touch is found unchanged. -/
theorem mem_updateWhere_of_neg {r : ρ} (hr : r ∈ t) (hp : ¬ p r) : r ∈ updateWhere p f t :=
  mem_updateWhere.mpr ⟨r, hr, by rw [if_neg hp]⟩

/-- Every row after the statement is an untouched row or the image of a touched one. -/
theorem updateWhere_cases {r' : ρ} (h : r' ∈ updateWhere p f t) :
    (r' ∈ t ∧ ¬ p r') ∨ ∃ r ∈ t, p r ∧ r' = f r := by
  obtain ⟨r, hr, rfl⟩ := mem_updateWhere.mp h
  by_cases hp : p r
  · exact .inr ⟨r, hr, hp, by rw [if_pos hp]⟩
  · rw [if_neg hp]
    exact .inl ⟨hr, hp⟩

/-- A property the statement does not decide has the same rows before and after. -/
theorem exists_mem_updateWhere {Q : ρ → Prop} (h : ∀ r ∈ t, p r → (Q (f r) ↔ Q r)) :
    (∃ r ∈ updateWhere p f t, Q r) ↔ ∃ r ∈ t, Q r := by
  have hrow : ∀ r ∈ t, Q (if p r then f r else r) ↔ Q r := by
    intro r hr
    by_cases hp : p r
    · rw [if_pos hp]
      exact h r hr hp
    · rw [if_neg hp]
  constructor
  · rintro ⟨r', hr', hq⟩
    obtain ⟨r, hr, rfl⟩ := mem_updateWhere.mp hr'
    exact ⟨r, hr, (hrow r hr).mp hq⟩
  · rintro ⟨r, hr, hq⟩
    exact ⟨_, mem_updateWhere.mpr ⟨r, hr, rfl⟩, (hrow r hr).mpr hq⟩

/-- What is read of a selection that the statement decides neither in rows nor in columns. -/
theorem map_filter_updateWhere (h : ∀ r ∈ t, p r → q (f r) = q r ∧ (q r = true → g (f r) = g r)) :
    ((updateWhere p f t).filter q).map g = (t.filter q).map g := by
  have hrow : ∀ r ∈ t, (q ∘ fun r => if p r then f r else r) r = q r := by
    intro r hr
    rw [Function.comp_apply]
    split
    · next hp => exact (h r hr hp).1
    · rfl
  rw [updateWhere, filter_map, filter_congr hrow, map_map]
  refine map_congr_left fun r hr => ?_
  obtain ⟨hr, hq⟩ := mem_filter.mp hr
  rw [Function.comp_apply]
  split
  · next hp => exact (h r hr hp).2 hq
  · rfl

/-- A column the statement does not set reads the same afterwards. -/
theorem map_updateWhere (h : ∀ r, p r → g (f r) = g r) : (updateWhere p f t).map g = t.map g := by
  simpa using map_filter_updateWhere (q := fun _ => true) fun r _ hp => ⟨rfl, fun _ => h r hp⟩

/-- A key the statement does not set stays unique. -/
theorem nodup_map_updateWhere (hg : (t.map g).Nodup) (h : ∀ r, p r → g (f r) = g r) :
    ((updateWhere p f t).map g).Nodup := by
  rw [map_updateWhere h]
  exact hg

/-- A nullable column the statement does not set reads the same afterwards. -/
theorem filterMap_updateWhere {g : ρ → Option κ} (h : ∀ r, p r → g (f r) = g r) :
    (updateWhere p f t).filterMap g = t.filterMap g := by
  rw [updateWhere, filterMap_map]
  congr 1
  funext r
  rw [Function.comp_apply]
  by_cases hp : p r
  · rw [if_pos hp, h r hp]
  · rw [if_neg hp]

/-- A statement whose `WHERE` clause no row meets changes nothing. -/
theorem updateWhere_of_forall_not (h : ∀ r ∈ t, ¬ p r) : updateWhere p f t = t := by
  rw [updateWhere, map_congr_left fun r hr => if_neg (h r hr)]
  exact map_id' t

/-- A statement that touches no row of a selection leaves the selection as it is. -/
theorem filter_updateWhere (h : ∀ r ∈ t, p r → q r = false ∧ q (f r) = false) :
    (updateWhere p f t).filter q = t.filter q := by
  rw [← map_id (List.filter _ _), map_filter_updateWhere, map_id]
  intro r hr hp
  obtain ⟨hbefore, hafter⟩ := h r hr hp
  exact ⟨hafter.trans hbefore.symm, fun hq => absurd hq (by simp [hbefore])⟩

/-- The rows under a foreign key that no touched row carries. -/
theorem filter_key_updateWhere [DecidableEq κ] {key : ρ → κ} {k : κ}
    (h : ∀ r ∈ t, p r → key r ≠ k) (hkey : ∀ r, key (f r) = key r := by exact fun _ => rfl) :
    (updateWhere p f t).filter (fun r => key r = k) = t.filter fun r => key r = k := by
  refine filter_updateWhere fun r hr hp => ?_
  rw [hkey, decide_eq_false (h r hr hp)]
  exact ⟨rfl, rfl⟩

/-- A lookup whose row the statement does not touch finds the same row. -/
theorem find?_updateWhere (h : ∀ r ∈ t, p r → q r = false ∧ q (f r) = false) :
    (updateWhere p f t).find? q = t.find? q := by
  rw [← head?_filter, ← head?_filter, filter_updateWhere h]

/-- A statement that does not decide a selection is carried out on the selection. -/
theorem filter_updateWhere_comm (h : ∀ r, q (f r) = q r) :
    (updateWhere p f t).filter q = updateWhere p f (t.filter q) := by
  have hcomp : (q ∘ fun r => if p r then f r else r) = q := by
    funext r
    rw [Function.comp_apply]
    split
    · exact h r
    · rfl
  rw [updateWhere, filter_map, hcomp, updateWhere]

theorem filter_updateWhere_touched (h : ∀ r ∈ t, (p r → q (f r) = true) ∧ (¬ p r → q r = false)) :
    (updateWhere p f t).filter q = (t.filter fun r => p r).map f := by
  have hrow : ∀ r ∈ t, (q ∘ fun r => if p r then f r else r) r = decide (p r) := by
    intro r hr
    by_cases hp : p r
    · simp [hp, (h r hr).1 hp]
    · simp [hp, (h r hr).2 hp]
  rw [updateWhere, filter_map, filter_congr hrow]
  exact map_congr_left fun r hr => if_pos (of_decide_eq_true (mem_filter.mp hr).2)

theorem updateWhere_congr {q : ρ → Prop} [DecidablePred q] (h : ∀ r ∈ t, p r ↔ q r) :
    updateWhere p f t = updateWhere q f t := by
  refine map_congr_left fun r hr => ?_
  by_cases hp : p r
  · rw [if_pos hp, if_pos ((h r hr).mp hp)]
  · rw [if_neg hp, if_neg (mt (h r hr).mpr hp)]

/-- Two statements that touch different rows are one statement. -/
theorem updateWhere_updateWhere {q : ρ → Prop} [DecidablePred q] (h : ∀ r, p r → ¬ q (f r)) :
    updateWhere q f (updateWhere p f t) = updateWhere (fun r => p r ∨ q r) f t := by
  simp only [updateWhere, map_map]
  refine map_congr_left fun r _ => ?_
  by_cases hp : p r
  · simp [hp, h r hp]
  · simp [hp]

end UpdateWhere

theorem eq_of_key (h : (t.map key).Nodup) {r' : ρ} (hr : r ∈ t) (hr' : r' ∈ t)
    (e : key r = key r') : r = r' :=
  inj_on_of_nodup_map h hr hr' e

/-- Two rows with the same value in a unique nullable column are the same row. -/
theorem eq_of_nullable_key {key : ρ → Option κ} (h : (t.filterMap key).Nodup) {r' : ρ} (hr : r ∈ t)
    (hr' : r' ∈ t) {k : κ} (e : key r = some k) (e' : key r' = some k) :
    r = r' := by
  by_contra hne
  rw [List.Nodup, pairwise_filterMap] at h
  have : Std.Symm fun a b => ∀ k, key a = some k → ∀ l, key b = some l → k ≠ l :=
    ⟨fun _ _ hab _ hb _ ha => (hab _ ha _ hb).symm⟩
  exact h.forall hr hr' hne k e k e' rfl

/-- A row after the row under a key is rewritten is that row rewritten, or another. -/
theorem mem_updateWhere_key [DecidablePred p] {f : ρ → ρ} (h : (t.map key).Nodup) {s : ρ}
    (hr : r ∈ t) (hp : ∀ x, p x ↔ key x = key r) :
    s ∈ updateWhere p f t ↔ (s ∈ t ∧ key s ≠ key r) ∨ s = f r := by
  rw [mem_updateWhere]
  constructor
  · rintro ⟨x, hx, rfl⟩
    split
    · next hpx => exact .inr (by rw [eq_of_key h hx hr ((hp x).mp hpx)])
    · next hpx => exact .inl ⟨hx, mt (hp x).mpr hpx⟩
  · rintro (⟨hs, hne⟩ | rfl)
    · exact ⟨s, hs, (if_neg (mt (hp s).mp hne)).symm⟩
    · exact ⟨r, hr, (if_pos ((hp r).mpr rfl)).symm⟩

theorem length_le_one_of_forall_eq (h : t.Nodup) (heq : ∀ r ∈ t, ∀ s ∈ t, r = s) :
    t.length ≤ 1 := by
  match t with
  | [] => exact Nat.zero_le 1
  | [_] => exact Nat.le_refl 1
  | r :: s :: t =>
    have hrs : r = s := heq r (by simp) s (by simp)
    rw [hrs] at h
    exact absurd mem_cons_self (nodup_cons.mp h).1

theorem mem_inserted {s : ρ} (h : s ∈ t ++ [r]) : s ∈ t ∨ r = s :=
  (mem_append.mp h).imp_right fun hs => (mem_singleton.mp hs).symm

/-- Inserting a row under a key no row holds keeps the key unique. -/
theorem nodup_key_insert (h : (t.map key).Nodup)
    (hr : ∀ r' ∈ t, key r' ≠ key r) : ((t ++ [r]).map key).Nodup := by
  rw [map_append, map_singleton, nodup_append]
  refine ⟨h, nodup_singleton _, ?_⟩
  intro a ha b hb
  obtain ⟨r', hr', rfl⟩ := mem_map.mp ha
  rw [mem_singleton] at hb
  exact hb ▸ hr r' hr'

/-- Moving one row to a key no other row holds keeps the key unique. -/
theorem nodup_key_updateWhere [DecidablePred p] {f : ρ → ρ} (h : (t.map key).Nodup)
    (hone : ∀ r ∈ t, ∀ s ∈ t, p r → p s → r = s)
    (hfree : ∀ r ∈ t, p r → ∀ s ∈ t, key s ≠ key (f r)) :
    ((updateWhere p f t).map key).Nodup := by
  rw [updateWhere, map_map]
  refine List.Nodup.map_on ?_ (h.of_map key)
  intro r hr s hs heq
  rw [Function.comp_apply, Function.comp_apply] at heq
  by_cases hpr : p r
  · by_cases hps : p s
    · exact hone r hr s hs hpr hps
    · rw [if_pos hpr, if_neg hps] at heq
      exact absurd heq.symm (hfree r hr hpr s hs)
  · by_cases hps : p s
    · rw [if_neg hpr, if_pos hps] at heq
      exact absurd heq (hfree s hs hps r hr)
    · rw [if_neg hpr, if_neg hps] at heq
      exact eq_of_key h hr hs heq

theorem of_find?_eq_some [DecidablePred p]
    (h : t.find? (fun r => decide (p r)) = some r) : r ∈ t ∧ p r :=
  ⟨mem_of_find?_eq_some h, by simpa using find?_some h⟩

/-- A lookup whose condition one row alone meets finds that row. -/
theorem find?_eq_some_of_unique {p : ρ → Bool} (hr : r ∈ t) (hp : p r = true)
    (hone : ∀ s ∈ t, p s = true → s = r) : t.find? p = some r := by
  obtain ⟨s, hs⟩ := Option.isSome_iff_exists.mp (find?_isSome.mpr ⟨r, hr, hp⟩)
  rw [hs, hone s (mem_of_find?_eq_some hs) (find?_some hs)]

/-- The row a lookup finds is the one a narrower lookup finds, when it meets that one. -/
theorem find?_of_imp {p q : ρ → Bool} (h : t.find? p = some r) (hq : q r = true)
    (himp : ∀ r, q r = true → p r = true) : t.find? q = some r := by
  obtain ⟨hp, before, after, rfl, hbefore⟩ := find?_eq_some_iff_append.mp h
  refine find?_eq_some_iff_append.mpr ⟨hq, before, after, rfl, fun s hs => ?_⟩
  have hnot := hbefore s hs
  cases hqs : q s with
  | true => simp [himp s hqs] at hnot
  | false => rfl

theorem filter_eq_singleton_of_key [DecidableEq κ] (h : (t.map key).Nodup) (hr : r ∈ t) :
    t.filter (fun r' => key r' = key r) = [r] := by
  induction t with
  | nil => cases hr
  | cons a t ih =>
    rw [map_cons, nodup_cons] at h
    rcases mem_cons.mp hr with rfl | hr
    · have hrest : t.filter (fun r' => decide (key r' = key r)) = [] := by
        rw [filter_eq_nil_iff]
        intro b hb hkey
        exact h.1 (mem_map.mpr ⟨b, hb, of_decide_eq_true hkey⟩)
      simp [hrest]
    · have ha : key a ≠ key r := fun e => h.1 (mem_map.mpr ⟨r, hr, e.symm⟩)
      simp [ha, ih h.2 hr]

/-- A statement that finds one row changes a count by what it makes of that row. -/
theorem countP_updateWhere_of_key (h : (t.map key).Nodup) (hr : r ∈ t) [DecidablePred p]
    (hp : ∀ r', p r' ↔ key r' = key r) (f : ρ → ρ) (q : ρ → Bool) :
    (updateWhere p f t).countP q + (q r).toNat = t.countP q + (q (f r)).toNat := by
  induction t with
  | nil => cases hr
  | cons a t ih =>
    rw [map_cons, nodup_cons] at h
    rcases mem_cons.mp hr with rfl | hr
    · have hrest : updateWhere p f t = t := by
        refine updateWhere_of_forall_not fun b hb hkey => h.1 ?_
        exact mem_map.mpr ⟨b, hb, (hp b).mp hkey⟩
      have hcons : updateWhere p f (r :: t) = f r :: t := by
        rw [updateWhere, map_cons, if_pos ((hp r).mpr rfl)]
        exact congrArg _ hrest
      rw [hcons, countP_cons, countP_cons]
      cases q r <;> cases q (f r) <;> simp
    · have ha : ¬ p a := fun e => h.1 (mem_map.mpr ⟨r, hr, ((hp a).mp e).symm⟩)
      have hcons : updateWhere p f (a :: t) = a :: updateWhere p f t := by
        rw [updateWhere, map_cons, if_neg ha]
        rfl
      rw [hcons, countP_cons, countP_cons]
      have := ih h.2 hr
      omega

theorem find?_eq_some_of_key [DecidableEq κ] (h : (t.map key).Nodup) (hr : r ∈ t) :
    t.find? (fun r' => key r' = key r) = some r :=
  find?_eq_some_of_unique hr (decide_eq_true rfl) fun _ hs hkey =>
    eq_of_key h hs hr (of_decide_eq_true hkey)

/-- A primary-key lookup does not depend on the order of the rows. -/
theorem find?_perm_of_key [DecidableEq κ] {t' : List ρ} (h : (t.map key).Nodup) (hp : t'.Perm t)
    (k : κ) :
    t'.find? (fun r => key r = k) = t.find? (fun r => key r = k) := by
  cases hfind : t.find? (fun r => key r = k) with
  | none =>
    rw [find?_eq_none] at hfind ⊢
    exact fun r hr => hfind r (hp.mem_iff.mp hr)
  | some r =>
    obtain ⟨hr, rfl⟩ := of_find?_eq_some hfind
    exact find?_eq_some_of_key ((hp.map key).nodup_iff.mpr h) (hp.mem_iff.mpr hr)

/-- The last row that meets a condition. -/
def lastWhere (p : ρ → Bool) (t : List ρ) : Option ρ := (t.filter p).getLast?

@[simp] theorem lastWhere_nil (p : ρ → Bool) : lastWhere p [] = none := rfl

/-- A row that meets the condition is the last one once it is inserted. -/
theorem lastWhere_concat_of_pos {p : ρ → Bool} (h : p r = true) (t : List ρ) :
    lastWhere p (t ++ [r]) = some r := by
  rw [lastWhere, filter_append, filter_cons_of_pos h, filter_nil, getLast?_concat]

theorem lastWhere_concat_of_neg {p : ρ → Bool} (h : ¬ p r = true) (t : List ρ) :
    lastWhere p (t ++ [r]) = lastWhere p t := by
  rw [lastWhere, filter_append, filter_cons_of_neg h, filter_nil, append_nil]
  rfl

end Dealership.Library
