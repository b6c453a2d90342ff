import Mathlib.Data.List.Sort
import Mathlib.Data.List.Induction
import Mathlib.Data.List.Nodup
import Mathlib.Data.List.Perm.Basic

/-!
# Keyed choice and stable sorting

`Entries κ α` is an insertion-ordered map, the way JavaScript's `Map` iterates:
setting a key that is held replaces its value in place.  `pick` folds a list
into such a map and keeps, under each key, the first value of the highest rank.

When no two candidates of one key have the same rank, the choice does not
depend on the order of the list; when in addition a comparison separates the
chosen values, neither does the sorted result.
-/

namespace Dealership.Library

open List

variable {κ α : Type*} [DecidableEq κ] {xs : List α} {r : α → α → Prop} {v : α} {ys : List α}

/-- An insertion-ordered map. -/
abbrev Entries (κ α : Type*) := List (κ × α)

namespace Entries

variable {m : Entries κ α} {k : κ} {v : α}

/-- `map.get(k)`. -/
def get (k : κ) : Entries κ α → Option α
  | [] => none
  | e :: m => if e.1 = k then some e.2 else get k m

/-- `map.set(k, v)`. -/
def set (k : κ) (v : α) : Entries κ α → Entries κ α
  | [] => [(k, v)]
  | e :: m => if e.1 = k then (k, v) :: m else e :: set k v m

/-- The keys, in the order they were first set. -/
def keys (m : Entries κ α) : List κ := m.map Prod.fst

/-- `[...map.values()]`. -/
def values (m : Entries κ α) : List α := m.map Prod.snd

theorem get_set (j k : κ) (v : α) (m : Entries κ α) :
    get j (set k v m) = if j = k then some v else get j m := by
  induction m with
  | nil => simp only [set, get, eq_comm]
  | cons e m ih =>
    by_cases he : e.1 = k
    · simp only [set, he, if_true, get, eq_comm (a := k)]
      split <;> rfl
    · simp only [set, he, if_false, get, ih]
      by_cases hj : e.1 = j
      · rw [if_pos hj, if_pos hj, if_neg (fun h => he (hj.trans h))]
      · rw [if_neg hj, if_neg hj]

theorem mem_keys_set {j : κ} (h : j ∈ keys (set k v m)) : j = k ∨ j ∈ keys m := by
  induction m with
  | nil => exact .inl (mem_singleton.mp h)
  | cons e m ih =>
    by_cases he : e.1 = k
    · simp only [set, he, if_true, keys, map_cons, mem_cons] at h ⊢
      exact h.imp_right .inr
    · simp only [set, he, if_false, keys, map_cons, mem_cons] at h ⊢
      rcases h with h | h
      · exact .inr (.inl h)
      · exact (ih h).imp_right .inr

theorem nodup_keys_set (h : (keys m).Nodup) : (keys (set k v m)).Nodup := by
  induction m with
  | nil => exact nodup_singleton k
  | cons e m ih =>
    rw [keys, map_cons, nodup_cons] at h
    by_cases he : e.1 = k
    · simpa only [set, he, if_true, keys, map_cons, nodup_cons] using he ▸ h
    · simp only [set, he, if_false, keys, map_cons, nodup_cons]
      refine ⟨fun hmem => ?_, ih h.2⟩
      rcases mem_keys_set hmem with hk | hk
      · exact he hk
      · exact h.1 hk

theorem length_set_le (k : κ) (v : α) (m : Entries κ α) :
    (set k v m).length ≤ m.length + 1 := by
  induction m with
  | nil => exact Nat.le_refl 1
  | cons e m ih =>
    rw [set]
    split
    · exact Nat.le_succ _
    · exact Nat.succ_le_succ ih

/-- With unique keys, a pair is listed exactly when looking up its key finds it. -/
theorem mem_iff_get (h : (keys m).Nodup) : (k, v) ∈ m ↔ get k m = some v := by
  induction m with
  | nil => simp [get]
  | cons e m ih =>
    rw [keys, map_cons, nodup_cons] at h
    obtain ⟨j, w⟩ := e
    by_cases hj : j = k
    · subst hj
      have hnot : (j, v) ∉ m := fun hm => h.1 (mem_map.mpr ⟨(j, v), hm, rfl⟩)
      simp [get, hnot, eq_comm]
    · simp [get, hj, ih h.2, Ne.symm hj]

end Entries

/-! ## The choice -/

variable (key : α → κ) (rank : α → Nat)

/-- One candidate: it is taken when its key is free, or when it outranks the value held. -/
def pickStep (m : Entries κ α) (x : α) : Entries κ α :=
  match m.get (key x) with
  | none => m.set (key x) x
  | some held => if rank held < rank x then m.set (key x) x else m

/-- The choice among a list of candidates, in the order they arrive. -/
def pick (xs : List α) : Entries κ α := xs.foldl (pickStep key rank) []

/-- `v` is a candidate for its key that no other candidate for it outranks. -/
def IsBest (xs : List α) (v : α) : Prop :=
  v ∈ xs ∧ ∀ x ∈ xs, key x = key v → rank x ≤ rank v

variable {key rank}

theorem nodup_keys_pick (xs : List α) : (pick key rank xs).keys.Nodup := by
  induction xs using List.reverseRecOn with
  | nil => exact nodup_nil
  | append_singleton xs x ih =>
    rw [pick, foldl_concat, ← pick, pickStep]
    split
    · exact Entries.nodup_keys_set ih
    split
    · exact Entries.nodup_keys_set ih
    · exact ih

theorem length_pick_le (key : α → κ) (rank : α → Nat) (xs : List α) :
    (pick key rank xs).length ≤ xs.length := by
  induction xs using List.reverseRecOn with
  | nil => exact Nat.le_refl 0
  | append_singleton xs x ih =>
    rw [pick, foldl_concat, ← pick, pickStep, length_append]
    split
    · exact Nat.le_trans (Entries.length_set_le _ _ _) (Nat.succ_le_succ ih)
    split
    · exact Nat.le_trans (Entries.length_set_le _ _ _) (Nat.succ_le_succ ih)
    · exact Nat.le_succ_of_le ih

theorem pick_spec (key : α → κ) (rank : α → Nat) (xs : List α) (k : κ) :
    match (pick key rank xs).get k with
    | none => ∀ x ∈ xs, key x ≠ k
    | some v => key v = k ∧ IsBest key rank xs v := by
  induction xs using List.reverseRecOn generalizing k with
  | nil => simp [pick, Entries.get]
  | append_singleton xs x ih =>
    rw [pick, foldl_concat, ← pick]
    have hx := ih (key x)
    have hk := ih k
    by_cases hkx : k = key x
    · -- The key of the new candidate: free, outranked, or kept.
      subst hkx
      cases hget : (pick key rank xs).get (key x) with
      | none =>
        rw [hget] at hx
        simp only [pickStep, hget, Entries.get_set, if_true]
        refine ⟨trivial, by simp, ?_⟩
        intro y hy hyx
        rcases mem_append.mp hy with hy | hy
        · exact absurd hyx (hx y hy)
        · exact le_of_eq (by rw [mem_singleton.mp hy])
      | some held =>
        rw [hget] at hx
        obtain ⟨hkey, hmem, hbest⟩ := hx
        by_cases hr : rank held < rank x
        · simp only [pickStep, hget, hr, if_true, Entries.get_set]
          refine ⟨trivial, by simp, ?_⟩
          intro y hy hyx
          rcases mem_append.mp hy with hy | hy
          · exact le_of_lt (lt_of_le_of_lt (hbest y hy (hyx.trans hkey.symm)) hr)
          · exact le_of_eq (by rw [mem_singleton.mp hy])
        · simp only [pickStep, hget, hr, if_false]
          refine ⟨hkey, mem_append_left _ hmem, ?_⟩
          intro y hy hyx
          rcases mem_append.mp hy with hy | hy
          · exact hbest y hy hyx
          · rw [mem_singleton.mp hy]
            exact not_lt.mp hr
    · -- Any other key is untouched, and the new candidate is none for it.
      have hsame : (pickStep key rank (pick key rank xs) x).get k = (pick key rank xs).get k := by
        unfold pickStep
        split
        · rw [Entries.get_set, if_neg hkx]
        split
        · rw [Entries.get_set, if_neg hkx]
        · rfl
      rw [hsame]
      cases hget : (pick key rank xs).get k with
      | none =>
        rw [hget] at hk
        intro y hy
        rcases mem_append.mp hy with hy | hy
        · exact hk y hy
        · rw [mem_singleton.mp hy]
          exact fun h => hkx h.symm
      | some v =>
        rw [hget] at hk
        refine ⟨hk.1, mem_append_left _ hk.2.1, ?_⟩
        intro y hy hyv
        rcases mem_append.mp hy with hy | hy
        · exact hk.2.2 y hy hyv
        · rw [mem_singleton.mp hy, hk.1] at hyv
          exact absurd hyv.symm hkx

theorem isBest_of_mem_pick (h : v ∈ (pick key rank xs).values) : IsBest key rank xs v := by
  obtain ⟨⟨k, w⟩, hmem, rfl⟩ := mem_map.mp h
  have hspec := pick_spec key rank xs k
  rw [(Entries.mem_iff_get (nodup_keys_pick xs)).mp hmem] at hspec
  exact hspec.2

theorem exists_mem_pick (key : α → κ) (rank : α → Nat) {x : α} (hx : x ∈ xs) :
    ∃ v ∈ (pick key rank xs).values, key v = key x := by
  have hspec := pick_spec key rank xs (key x)
  cases hget : (pick key rank xs).get (key x) with
  | none =>
    rw [hget] at hspec
    exact absurd rfl (hspec x hx)
  | some v =>
    rw [hget] at hspec
    have hmem := (Entries.mem_iff_get (nodup_keys_pick xs)).mpr hget
    exact ⟨v, mem_map_of_mem (f := Prod.snd) hmem, hspec.1⟩

theorem nodup_map_key_pick (xs : List α) : ((pick key rank xs).values.map key).Nodup := by
  have hkeys : (pick key rank xs).values.map key = (pick key rank xs).keys := by
    rw [Entries.values, Entries.keys, map_map]
    refine map_congr_left fun e he => ?_
    have hspec := pick_spec key rank xs e.1
    rw [(Entries.mem_iff_get (nodup_keys_pick xs)).mp he] at hspec
    exact hspec.1
  rw [hkeys]
  exact nodup_keys_pick xs

def NoTies (key : α → κ) (rank : α → Nat) (xs : List α) : Prop :=
  ∀ x ∈ xs, ∀ y ∈ xs, key x = key y → rank x = rank y → x = y

theorem mem_pick_iff (h : NoTies key rank xs) :
    v ∈ (pick key rank xs).values ↔ IsBest key rank xs v := by
  refine ⟨isBest_of_mem_pick, fun hv => ?_⟩
  obtain ⟨w, hw, hkey⟩ := exists_mem_pick key rank hv.1
  have hwbest := isBest_of_mem_pick hw
  have hrank : rank w = rank v := le_antisymm (hv.2 w hwbest.1 hkey) (hwbest.2 v hv.1 hkey.symm)
  rwa [← h w hwbest.1 v hv.1 hkey hrank]

theorem pick_perm (h : NoTies key rank xs) (hp : xs.Perm ys) :
    (pick key rank xs).values.Perm (pick key rank ys).values := by
  have hy : NoTies key rank ys := fun x hx y hy =>
    h x (hp.mem_iff.mpr hx) y (hp.mem_iff.mpr hy)
  refine (perm_ext_iff_of_nodup (nodup_map_key_pick xs).of_map
    (nodup_map_key_pick ys).of_map).mpr fun v => ?_
  rw [mem_pick_iff h, mem_pick_iff hy]
  simp only [IsBest, hp.mem_iff]

theorem get_pick_cons (h : IsBest key rank (v :: xs) v) :
    (pick key rank (v :: xs)).get (key v) = some v := by
  induction xs using List.reverseRecOn with
  | nil => simp [pick, pickStep, Entries.get, Entries.set]
  | append_singleton xs x ih =>
    rw [← cons_append] at h ⊢
    have hfront : IsBest key rank (v :: xs) v :=
      ⟨mem_cons_self, fun y hy => h.2 y (mem_append_left _ hy)⟩
    rw [pick, foldl_concat, ← pick]
    by_cases hkey : key x = key v
    · have hrank : ¬ rank v < rank x :=
        not_lt.mpr (h.2 x (mem_append_right _ (mem_singleton_self x)) hkey)
      rw [pickStep, hkey, ih hfront]
      dsimp only
      rw [if_neg hrank, ih hfront]
    · have hsame : (pickStep key rank (pick key rank (v :: xs)) x).get (key v) =
          (pick key rank (v :: xs)).get (key v) := by
        unfold pickStep
        split
        · rw [Entries.get_set, if_neg (Ne.symm hkey)]
        split
        · rw [Entries.get_set, if_neg (Ne.symm hkey)]
        · rfl
      rw [hsame, ih hfront]

theorem get_pick_perm {k : κ}
    (h : ∀ x y, IsBest key rank xs x → IsBest key rank xs y → key x = k → key y = k → x = y)
    (hp : xs.Perm ys) : (pick key rank ys).get k = (pick key rank xs).get k := by
  have hx := pick_spec key rank xs k
  have hy := pick_spec key rank ys k
  cases hgx : (pick key rank xs).get k with
  | none =>
    rw [hgx] at hx
    cases hgy : (pick key rank ys).get k with
    | none => rfl
    | some w =>
      rw [hgy] at hy
      exact absurd hy.1 (hx w (hp.mem_iff.mpr hy.2.1))
  | some v =>
    rw [hgx] at hx
    cases hgy : (pick key rank ys).get k with
    | none =>
      rw [hgy] at hy
      exact absurd hx.1 (hy v (hp.mem_iff.mp hx.2.1))
    | some w =>
      rw [hgy] at hy
      have hw : IsBest key rank xs w :=
        ⟨hp.mem_iff.mpr hy.2.1, fun x hm => hy.2.2 x (hp.mem_iff.mp hm)⟩
      rw [h w v hw hx.2 hy.1 hx.1]

/-- Looking a key up among the chosen values, in any order, finds what is held for it. -/
theorem find?_pick {k : κ} (hp : ys.Perm (pick key rank xs).values) :
    ys.find? (fun x => key x = k) = (pick key rank xs).get k := by
  have hspec := pick_spec key rank xs k
  cases hget : (pick key rank xs).get k with
  | none =>
    rw [hget] at hspec
    rw [find?_eq_none]
    intro y hy hkey
    exact hspec y (isBest_of_mem_pick (hp.mem_iff.mp hy)).1 (of_decide_eq_true hkey)
  | some v =>
    rw [hget] at hspec
    have hmem : v ∈ ys := hp.mem_iff.mpr
      (mem_map_of_mem (f := Prod.snd) ((Entries.mem_iff_get (nodup_keys_pick xs)).mpr hget))
    cases hfind : ys.find? fun x => key x = k with
    | none =>
      rw [find?_eq_none] at hfind
      exact absurd (decide_eq_true hspec.1) (hfind v hmem)
    | some w =>
      have hnodup : (ys.map key).Nodup := (hp.map key).nodup_iff.mpr (nodup_map_key_pick xs)
      have hw := find?_some hfind
      rw [decide_eq_true_iff] at hw
      rw [inj_on_of_nodup_map hnodup (mem_of_find?_eq_some hfind) hmem (hw.trans hspec.1.symm)]

/-! ## The best of a list -/

/-- One turn of a loop that keeps the best so far: a candidate that is better replaces it. -/
def bestStep (better : α → α → Bool) (best : Option α) (candidate : α) : Option α :=
  match best with
  | none => some candidate
  | some b => if better candidate b then some candidate else some b

/-- The best of a list, the earlier of two that are as good. -/
def best (better : α → α → Bool) (xs : List α) : Option α := xs.foldl (bestStep better) none

section Best

variable {α : Type*} {better : α → α → Bool}

theorem best_concat (xs : List α) (x : α) :
    best better (xs ++ [x]) = bestStep better (best better xs) x := by
  rw [best, foldl_concat, ← best]

theorem best_spec (htrans : ∀ x y z, better x y = true → better y z = true → better x z = true)
    (hirrefl : ∀ x, better x x = false) (xs : List α) :
    match best better xs with
    | none => xs = []
    | some b => b ∈ xs ∧ ∀ x ∈ xs, better x b = false := by
  induction xs using List.reverseRecOn with
  | nil => rfl
  | append_singleton xs x ih =>
    rw [best_concat]
    cases hbest : best better xs with
    | none =>
      rw [hbest] at ih
      subst ih
      exact ⟨mem_singleton_self x, fun y hy => mem_singleton.mp hy ▸ hirrefl y⟩
    | some b =>
      rw [hbest] at ih
      rw [bestStep]
      by_cases hx : better x b = true
      · rw [if_pos hx]
        refine ⟨mem_append_right xs (mem_singleton_self x), fun y hy => ?_⟩
        rcases mem_append.mp hy with hy | hy
        · by_contra hyx
          rw [Bool.not_eq_false] at hyx
          exact absurd (htrans y x b hyx hx) (by rw [ih.2 y hy]; exact Bool.false_ne_true)
        · exact mem_singleton.mp hy ▸ hirrefl y
      · rw [if_neg hx]
        refine ⟨mem_append_left _ ih.1, fun y hy => ?_⟩
        rcases mem_append.mp hy with hy | hy
        · exact ih.2 y hy
        · rw [mem_singleton.mp hy]
          exact Bool.eq_false_iff.mpr hx

theorem best_perm (htrans : ∀ x y z, better x y = true → better y z = true → better x z = true)
    (hirrefl : ∀ x, better x x = false) {xs ys : List α}
    (hconn : ∀ x ∈ xs, ∀ y ∈ xs, better x y = false → better y x = false → x = y)
    (hp : xs.Perm ys) : best better xs = best better ys := by
  have hx := best_spec htrans hirrefl xs
  have hy := best_spec htrans hirrefl ys
  cases hbx : best better xs with
  | none =>
    rw [hbx] at hx
    subst hx
    rw [nil_perm.mp hp]
    rfl
  | some b =>
    rw [hbx] at hx
    cases hby : best better ys with
    | none =>
      rw [hby] at hy
      subst hy
      rw [perm_nil.mp hp] at hx
      exact absurd hx.1 not_mem_nil
    | some c =>
      rw [hby] at hy
      have hc := hp.mem_iff.mpr hy.1
      exact congrArg some (hconn b hx.1 c hc (hy.2 b (hp.mem_iff.mp hx.1)) (hx.2 c hc))

end Best

/-! ## Sorting -/

theorem filter_orderedInsert [DecidableRel r] [IsTrans α r] (p : α → Bool) (a : α) {l : List α}
    (hl : l.Pairwise r) :
    (l.orderedInsert r a).filter p =
      if p a then (l.filter p).orderedInsert r a else l.filter p := by
  induction l with
  | nil => cases hp : p a <;> simp [hp]
  | cons b l ih =>
    rw [pairwise_cons] at hl
    by_cases hab : r a b
    · -- Everything behind `b` is behind `a` too, so `a` stays in front of what is kept.
      have hfront : (l.filter p).orderedInsert r a = a :: l.filter p := by
        cases hf : l.filter p with
        | nil => rfl
        | cons c m =>
          have hc : c ∈ l := mem_of_mem_filter (by rw [hf]; exact mem_cons_self)
          rw [orderedInsert_cons, if_pos (trans_of r hab (hl.1 c hc))]
      cases hp : p a <;> cases hb : p b <;> simp [hp, hb, hab, hfront]
    · cases hp : p a <;> cases hb : p b <;> simp [hp, hb, hab, ih hl.2]

/-- Sorting and dropping elements can be done in either order. -/
theorem filter_insertionSort [DecidableRel r] [Std.Total r] [IsTrans α r] (p : α → Bool)
    (l : List α) :
    (l.insertionSort r).filter p = (l.filter p).insertionSort r := by
  induction l with
  | nil => rfl
  | cons a l ih =>
    rw [insertionSort_cons, filter_orderedInsert p a (pairwise_insertionSort r l), ih]
    cases hp : p a <;> simp [hp]

/-- A stable sort by a total preorder that separates the elements of a list
gives the same result for every order they arrive in. -/
theorem insertionSort_eq_of_perm [DecidableRel r] [Std.Total r] [IsTrans α r] (hp : xs.Perm ys)
    (hanti : ∀ x ∈ xs, ∀ y ∈ xs, r x y → r y x → x = y) :
    xs.insertionSort r = ys.insertionSort r := by
  have hperm : (xs.insertionSort r).Perm (ys.insertionSort r) :=
    (perm_insertionSort r xs).trans (hp.trans (perm_insertionSort r ys).symm)
  refine hperm.eq_of_pairwise ?_ (pairwise_insertionSort r xs) (pairwise_insertionSort r ys)
  intro a b ha hb hab hba
  rw [mem_insertionSort] at ha hb
  exact hanti a ha b (hp.mem_iff.mpr hb) hab hba

end Dealership.Library
