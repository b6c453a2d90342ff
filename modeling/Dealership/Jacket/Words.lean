import Dealership.Jacket.Render
import Mathlib.Data.Rat.Defs
import Mathlib.Tactic.FieldSimp
import Mathlib.Tactic.Ring

/-!
# Figures read back

A figure is printed as a decimal with its point: the amount of an integer of
cents has two places, the percentage of an integer of parts per million four.
What is read from the text as a decimal is the figure, in front of a customer as
in a JSON body.
-/

namespace Dealership.Jacket

open Library List
open Desking (formatCents)

variable {groups : List (List Char)} {c : Char}

/-! ## Decimals -/

/-- The number that digits, a point and digits name. -/
def readMagnitude (text : List Char) : Option ℚ :=
  match text.splitOn '.' with
  | [whole, part] =>
    if whole ≠ [] && part ≠ [] && (whole ++ part).all Char.isDigit then
      some (Nat.ofDigitChars 10 whole 0 + Nat.ofDigitChars 10 part 0 / 10 ^ part.length)
    else none
  | _ => none

/-- The number a decimal text names, with an optional minus in front. -/
def readDecimal (text : List Char) : Option ℚ :=
  if text.head? = some '-' then (readMagnitude text.tail).map (- ·) else readMagnitude text

/-- A natural number of `10 ^ places` to the unit, as a decimal. -/
def magnitude (places m : Nat) : List Char :=
  Nat.toDigits 10 (m / 10 ^ places) ++ '.' :: padStart places (Nat.toDigits 10 (m % 10 ^ places))

/-- An integer of `10 ^ places` to the unit, as a decimal. -/
def pointed (places : Nat) (n : Int) : List Char :=
  (if n < 0 then ['-'] else []) ++ magnitude places n.natAbs

theorem isDigit_padStart {width : Nat} {digits : List Char}
    (h : ∀ c ∈ digits, c.isDigit = true) : ∀ c ∈ padStart width digits, c.isDigit = true := by
  intro c hc
  rcases mem_append.mp hc with hc | hc
  · rw [eq_of_mem_replicate hc]
    rfl
  · exact h c hc

theorem length_padStart {width n : Nat} (hwidth : 0 < width) (h : n < 10 ^ width) :
    (padStart width (Nat.toDigits 10 n)).length = width := by
  have hlen := (Nat.length_toDigits_le_iff (by decide : 1 < 10) hwidth).mpr h
  rw [padStart, length_append, length_replicate]
  omega

theorem ofDigitChars_padStart (width n : Nat) :
    Nat.ofDigitChars 10 (padStart width (Nat.toDigits 10 n)) 0 = n := by
  rw [padStart, Nat.ofDigitChars_append, Nat.ofDigitChars_replicate_zero, Nat.mul_zero,
    Nat.ofDigitChars_ten_toDigits]

theorem not_mem_of_digits {digits : List Char} (h : ∀ c ∈ digits, c.isDigit = true)
    (hc : c.isDigit = false) : c ∉ digits := by
  intro hmem
  rw [h c hmem] at hc
  cases hc

theorem splitOn_point {whole part : List Char} (hwhole : ∀ c ∈ whole, c.isDigit = true)
    (hpart : ∀ c ∈ part, c.isDigit = true) :
    (whole ++ '.' :: part).splitOn '.' = [whole, part] := by
  rw [splitOn_append_cons_self_of_not_mem (not_mem_of_digits hwhole rfl),
    splitOn_eq_singleton (not_mem_of_digits hpart rfl)]

section Magnitude

variable (places m : Nat)

theorem digits_whole : ∀ c ∈ Nat.toDigits 10 (m / 10 ^ places), c.isDigit = true :=
  fun _ => isDigit_of_mem_toDigits

theorem digits_part : ∀ c ∈ padStart places (Nat.toDigits 10 (m % 10 ^ places)), c.isDigit = true :=
  isDigit_padStart fun _ => isDigit_of_mem_toDigits

theorem splitOn_magnitude : (magnitude places m).splitOn '.' =
    [Nat.toDigits 10 (m / 10 ^ places), padStart places (Nat.toDigits 10 (m % 10 ^ places))] :=
  splitOn_point (digits_whole places m) (digits_part places m)

theorem not_mem_magnitude : '-' ∉ magnitude places m := by
  rw [magnitude, mem_append, mem_cons]
  rintro (h | h | h)
  · exact not_mem_of_digits (digits_whole places m) rfl h
  · exact absurd h (by decide)
  · exact not_mem_of_digits (digits_part places m) rfl h

theorem head?_magnitude : (magnitude places m).head? ≠ some '-' :=
  fun h => not_mem_magnitude places m (mem_of_head? h)

theorem readMagnitude_magnitude {places : Nat} (hplaces : 0 < places) (m : Nat) :
    readMagnitude (magnitude places m) = some (m / 10 ^ places : ℚ) := by
  have hpos : 0 < 10 ^ places := Nat.pow_pos (by decide)
  have hlen := length_padStart hplaces (Nat.mod_lt m hpos)
  have hne : padStart places (Nat.toDigits 10 (m % 10 ^ places)) ≠ [] :=
    ne_nil_of_length_pos (hplaces.trans_eq hlen.symm)
  have hscale : (10 ^ places : ℚ) ≠ 0 := by exact_mod_cast hpos.ne'
  -- The two parts are the quotient and the remainder.
  have hparts : ((m / 10 ^ places : Nat) : ℚ) + (m % 10 ^ places : Nat) / 10 ^ places =
      m / 10 ^ places := by
    rw [eq_div_iff hscale, add_mul, div_mul_cancel₀ _ hscale]
    exact_mod_cast Nat.div_add_mod' m (10 ^ places)
  rw [readMagnitude, splitOn_magnitude]
  dsimp only
  rw [if_pos, hlen, Nat.ofDigitChars_ten_toDigits, ofDigitChars_padStart, hparts]
  simp only [Bool.and_eq_true, decide_eq_true_eq, all_eq_true]
  exact ⟨⟨Nat.toDigits_ne_nil, hne⟩, fun c hc =>
    (mem_append.mp hc).elim (digits_whole places m c) (digits_part places m c)⟩

end Magnitude

theorem readDecimal_decimal {places : Nat} (hplaces : 0 < places) (n : Int) :
    readDecimal (pointed places n) = some (n / 10 ^ places : ℚ) := by
  have hread := readMagnitude_magnitude hplaces n.natAbs
  rw [pointed, readDecimal]
  by_cases hneg : n < 0
  · have hcast : (n : ℚ) = -(n.natAbs : ℚ) := by
      rw [← Int.cast_natCast n.natAbs, Int.ofNat_natAbs_of_nonpos hneg.le, Int.cast_neg, neg_neg]
    rw [if_pos hneg, singleton_append, head?_cons, if_pos rfl, tail_cons, hread, hcast, neg_div]
    rfl
  · have hcast : (n : ℚ) = (n.natAbs : ℚ) := by
      rw [← Int.cast_natCast n.natAbs, Int.natAbs_of_nonneg (not_lt.mp hneg)]
    rw [if_neg hneg, nil_append, if_neg (head?_magnitude places n.natAbs), hread, hcast]

/-! ## Groups of three -/

theorem isWordChar_of_isDigit (h : c.isDigit = true) : isWordChar c = true := by
  rw [isWordChar, Char.isAlphanum, h, Bool.or_true, Bool.true_or]

/-- In front of digits alone, whole groups of three are all that is left. -/
theorem threes_iff (ds : List Char) (h : ∀ c ∈ ds, c.isDigit = true) :
    threes ds = true ↔ ds ≠ [] ∧ 3 ∣ ds.length := by
  induction ds using threes.induct with
  | case1 a b c cs ih =>
    simp only [forall_mem_cons] at h
    obtain ⟨ha, hb, hc, hcs⟩ := h
    rw [threes, ha, hb, hc, Bool.true_and, Bool.true_and, Bool.true_and, Bool.or_eq_true, ih hcs]
    cases cs with
    | nil => simp
    | cons d ds =>
      have hd := hcs d mem_cons_self
      simp only [head?_cons, Option.any_some, hd, length_cons]
      grind
  | case2 ds hshort =>
    rcases ds with _ | ⟨a, _ | ⟨b, _ | ⟨c, cs⟩⟩⟩
    · simp [threes]
    · simp [threes]
    · simp [threes]
    · exact absurd rfl (hshort a b c cs)

/-- A comma stands in front of a digit behind a digit when whole groups of three follow. -/
theorem groupedAfter_cons {d : Char} {cs : List Char} (hd : d.isDigit = true)
    (h : ∀ x ∈ c :: cs, x.isDigit = true) : groupedAfter (some d) (c :: cs) =
      (if 3 ∣ cs.length + 1 then [','] else []) ++ c :: groupedAfter (some c) cs := by
  have hthrees := threes_iff (c :: cs) h
  have hc := isWordChar_of_isDigit (h c mem_cons_self)
  rw [groupedAfter]
  congr 2
  simp only [Option.any_some, isWordChar_of_isDigit hd, hc, Bool.and_eq_true, decide_eq_true_eq,
    hthrees, length_cons, ne_eq, reduceCtorEq, not_false_eq_true, true_and]

theorem three_dvd_flatten (hlen : ∀ g ∈ groups, g.length = 3) : 3 ∣ groups.flatten.length := by
  induction groups with
  | nil => exact Nat.dvd_zero 3
  | cons g groups ih =>
    obtain ⟨hg, hgroups⟩ := forall_mem_cons.mp hlen
    rw [flatten_cons, length_append, hg]
    exact Nat.dvd_add (Nat.dvd_refl 3) (ih hgroups)

theorem groupedAfter_flatten {d : Char} (hd : d.isDigit = true) (hlen : ∀ g ∈ groups, g.length = 3)
    (h : ∀ c ∈ groups.flatten, c.isDigit = true) :
    groupedAfter (some d) groups.flatten = groups.flatMap (',' :: ·) := by
  induction groups generalizing d with
  | nil => rfl
  | cons g groups ih =>
    obtain ⟨hg, hgroups⟩ := forall_mem_cons.mp hlen
    have hthree := three_dvd_flatten hgroups
    obtain ⟨a, b, c, rfl⟩ := length_eq_three.mp hg
    have hdigits : ∀ x ∈ a :: b :: c :: groups.flatten, x.isDigit = true := h
    obtain ⟨ha, hbc⟩ := forall_mem_cons.mp hdigits
    obtain ⟨hb, hcs⟩ := forall_mem_cons.mp hbc
    obtain ⟨hc, hrest⟩ := forall_mem_cons.mp hcs
    change groupedAfter (some d) (a :: b :: c :: groups.flatten) = _
    rw [groupedAfter_cons hd hdigits, groupedAfter_cons ha hbc, groupedAfter_cons hb hcs,
      ih hc hgroups hrest, if_pos (by rw [length_cons, length_cons]; omega),
      if_neg (by rw [length_cons]; omega), if_neg (by omega)]
    rfl

theorem exists_groups (ds : List Char) (hne : ds ≠ []) : ∃ first groups,
    ds = first ++ List.flatten groups ∧ (1 ≤ first.length ∧ first.length ≤ 3) ∧
      ∀ g ∈ groups, g.length = 3 := by
  induction hn : ds.length using Nat.strongRecOn generalizing ds with
  | ind n ih =>
    have hpos := length_pos_of_ne_nil hne
    by_cases hsmall : n ≤ 3
    · exact ⟨ds, [], by simp, ⟨hpos, hn ▸ hsmall⟩, forall_mem_nil _⟩
    · have hlen : (ds.take (n - 3)).length = n - 3 := by
        rw [length_take]
        omega
      obtain ⟨first, groups, htake, hfirst, hgroups⟩ := ih (n - 3) (by omega) (ds.take (n - 3))
        (ne_nil_of_length_pos (by omega)) hlen
      refine ⟨first, groups ++ [ds.drop (n - 3)], ?_, hfirst, fun g hg => ?_⟩
      · rw [flatten_append, ← append_assoc, ← htake, flatten_singleton, take_append_drop]
      · rcases mem_append.mp hg with hg | hg
        · exact hgroups g hg
        · rw [mem_singleton.mp hg, length_drop]
          omega

theorem grouped_groups {first : List Char} (hfirst : 1 ≤ first.length ∧ first.length ≤ 3)
    (hgroups : ∀ g ∈ groups, g.length = 3) (h : ∀ c ∈ first ++ groups.flatten, c.isDigit = true) :
    grouped (first ++ groups.flatten) = first ++ groups.flatMap (',' :: ·) := by
  have hthree := three_dvd_flatten hgroups
  have hstart : ∀ c cs, c.isDigit = true → grouped (c :: cs) = c :: groupedAfter (some c) cs := by
    intro c cs hc
    rw [grouped, groupedAfter, Option.any_none, isWordChar_of_isDigit hc]
    rfl
  rcases first with _ | ⟨a, _ | ⟨b, _ | ⟨c, _ | ⟨d, ds⟩⟩⟩⟩
  · exact absurd hfirst.1 (by decide)
  · have hdigits : ∀ x ∈ a :: groups.flatten, x.isDigit = true := h
    obtain ⟨ha, hrest⟩ := forall_mem_cons.mp hdigits
    exact (hstart a _ ha).trans (congrArg (a :: ·) (groupedAfter_flatten ha hgroups hrest))
  · have hdigits : ∀ x ∈ a :: b :: groups.flatten, x.isDigit = true := h
    obtain ⟨ha, hbs⟩ := forall_mem_cons.mp hdigits
    obtain ⟨hb, hrest⟩ := forall_mem_cons.mp hbs
    change grouped (a :: b :: groups.flatten) = a :: b :: _
    rw [hstart a _ ha, groupedAfter_cons ha hbs, if_neg (by omega), nil_append,
      groupedAfter_flatten hb hgroups hrest]
    rfl
  · have hdigits : ∀ x ∈ a :: b :: c :: groups.flatten, x.isDigit = true := h
    obtain ⟨ha, hbs⟩ := forall_mem_cons.mp hdigits
    obtain ⟨hb, hcs⟩ := forall_mem_cons.mp hbs
    obtain ⟨hc, hrest⟩ := forall_mem_cons.mp hcs
    change grouped (a :: b :: c :: groups.flatten) = a :: b :: c :: _
    rw [hstart a _ ha, groupedAfter_cons ha hbs, if_neg (by rw [length_cons]; omega),
      nil_append, groupedAfter_cons hb hcs, if_neg (by omega), nil_append,
      groupedAfter_flatten hc hgroups hrest]
    rfl
  · simp only [length_cons] at hfirst
    omega

/-! ## The figures -/

theorem quotient_eq {magnitude : Int} (h : 0 ≤ magnitude) (k : Nat) :
    intText (magnitude.tdiv k) = Nat.toDigits 10 (magnitude.natAbs / k) := by
  obtain ⟨m, rfl⟩ := Int.eq_ofNat_of_zero_le h
  rfl

theorem remainder_eq {magnitude : Int} (h : 0 ≤ magnitude) (k : Nat) :
    intText (magnitude.tmod k) = Nat.toDigits 10 (magnitude.natAbs % k) := by
  obtain ⟨m, rfl⟩ := Int.eq_ofNat_of_zero_le h
  rfl

/-- Both figures are printed from a magnitude, with the sign in front. -/
theorem magnitude_eq (n : Int) :
    0 ≤ (if n < 0 then -n else n) ∧ (if n < 0 then -n else n).natAbs = n.natAbs := by
  split <;> omega

variable (cents : Int)

theorem formatCents_eq : formatCents cents = pointed 2 cents := by
  obtain ⟨hnonneg, habs⟩ := magnitude_eq cents
  have hwhole := quotient_eq hnonneg 100
  have hpart := remainder_eq hnonneg 100
  rw [habs, Nat.cast_ofNat] at hwhole hpart
  simp only [formatCents]
  rw [hwhole, hpart, append_assoc]
  rfl

theorem ppmWords_eq (ppm : Int) : ppmWords ppm = pointed 4 ppm ++ ['%'] := by
  obtain ⟨hnonneg, habs⟩ := magnitude_eq ppm
  have hwhole := quotient_eq hnonneg 10000
  have hpart := remainder_eq hnonneg 10000
  rw [habs, Nat.cast_ofNat] at hwhole hpart
  simp only [ppmWords]
  rw [hwhole, hpart, pointed, magnitude, append_assoc, append_assoc, append_assoc]
  rfl

/-- The words for money are the pieces of the plain decimal, the whole ones grouped. -/
theorem moneyWords_eq (currency : String) :
    moneyWords cents currency = (if cents < 0 then ['-'] else []) ++
      '$' :: (grouped (Nat.toDigits 10 (cents.natAbs / 10 ^ 2)) ++
        '.' :: (padStart 2 (Nat.toDigits 10 (cents.natAbs % 10 ^ 2)) ++
          ' ' :: currency.toList)) := by
  simp only [moneyWords]
  rw [formatCents_eq, pointed]
  by_cases hneg : cents < 0
  · rw [if_pos hneg, singleton_append, head?_cons, if_pos rfl, erase_cons_head, splitOn_magnitude]
    rfl
  · rw [if_neg hneg, nil_append, if_neg (head?_magnitude 2 cents.natAbs),
      erase_of_not_mem (not_mem_magnitude 2 cents.natAbs), splitOn_magnitude]
    rfl

/-- A money text without its sign, its currency and the marks between its digits. -/
def unmarked (currency : String) (text : List Char) : List Char :=
  (text.take (text.length - (currency.length + 1))).filter fun c => c ≠ '$' && c ≠ ','

theorem take_front (front back : List Char) :
    (front ++ back).take ((front ++ back).length - back.length) = front := by
  rw [length_append, Nat.add_sub_cancel, take_left]

theorem unmark_digits {text : List Char} (h : ∀ c ∈ text, c.isDigit = true) :
    (text.filter fun c => c ≠ '$' && c ≠ ',') = text := by
  refine filter_eq_self.mpr fun c hc => ?_
  have hdollar : c ≠ '$' := fun heq => by rw [heq] at hc; exact absurd (h _ hc) (by decide)
  have hcomma : c ≠ ',' := fun heq => by rw [heq] at hc; exact absurd (h _ hc) (by decide)
  simp only [hdollar, hcomma, ne_eq, not_false_eq_true, decide_true, Bool.and_true]

theorem unmark_groups (h : ∀ c ∈ groups.flatten, c.isDigit = true) :
    ((groups.flatMap (',' :: ·)).filter fun c => c ≠ '$' && c ≠ ',') = groups.flatten := by
  induction groups with
  | nil => rfl
  | cons g groups ih =>
    rw [flatten_cons] at h
    rw [flatMap_cons, filter_append, flatten_cons,
      ih fun c hc => h c (mem_append_right g hc), filter_cons_of_neg (by decide),
      unmark_digits fun c hc => h c (mem_append_left _ hc)]

theorem exists_moneyWords (currency : String) : ∃ first groups part,
    (1 ≤ first.length ∧ first.length ≤ 3) ∧ (∀ g ∈ groups, g.length = 3) ∧ part.length = 2 ∧
    (∀ c ∈ first ++ List.flatten groups ++ part, c.isDigit = true) ∧
    first ++ groups.flatten ++ '.' :: part = magnitude 2 cents.natAbs ∧
    moneyWords cents currency = (if cents < 0 then ['-'] else []) ++
      '$' :: (first ++ groups.flatMap (',' :: ·) ++ '.' :: (part ++ ' ' :: currency.toList)) := by
  have hwhole := digits_whole 2 cents.natAbs
  obtain ⟨first, groups, hsplit, hfirst, hgroups⟩ :=
    exists_groups (Nat.toDigits 10 (cents.natAbs / 10 ^ 2)) Nat.toDigits_ne_nil
  rw [hsplit] at hwhole
  refine ⟨first, groups, padStart 2 (Nat.toDigits 10 (cents.natAbs % 10 ^ 2)), hfirst, hgroups,
    length_padStart (by decide) (Nat.mod_lt _ (by decide)), fun c hc => ?_, ?_, ?_⟩
  · exact (mem_append.mp hc).elim (hwhole c) (digits_part 2 cents.natAbs c)
  · rw [magnitude, hsplit]
  · rw [moneyWords_eq, hsplit, grouped_groups hfirst hgroups hwhole]

theorem unmarked_moneyWords (currency : String) :
    unmarked currency (moneyWords cents currency) = pointed 2 cents := by
  obtain ⟨first, groups, part, -, -, -, hdigits, hmagnitude, hwords⟩ :=
    exists_moneyWords cents currency
  have hfirst : ∀ c ∈ first, c.isDigit = true := fun c hc =>
    hdigits c (mem_append_left _ (mem_append_left _ hc))
  have hflat : ∀ c ∈ groups.flatten, c.isDigit = true := fun c hc =>
    hdigits c (mem_append_left _ (mem_append_right _ hc))
  have hpart : ∀ c ∈ part, c.isDigit = true := fun c hc => hdigits c (mem_append_right _ hc)
  have hcut : moneyWords cents currency = ((if cents < 0 then ['-'] else []) ++
      '$' :: (first ++ groups.flatMap (',' :: ·) ++ '.' :: part)) ++ ' ' :: currency.toList := by
    rw [hwords]
    simp only [append_assoc, cons_append]
  have hsign : ((if cents < 0 then ['-'] else []).filter fun c => c ≠ '$' && c ≠ ',') =
      if cents < 0 then ['-'] else [] := by
    split <;> rfl
  have hlength : (' ' :: currency.toList).length = currency.length + 1 := by
    rw [length_cons, String.length_toList]
  rw [unmarked, hcut, ← hlength, take_front, filter_append, hsign,
    filter_cons_of_neg (by decide), filter_append, filter_append,
    filter_cons_of_pos (by decide), unmark_digits hfirst, unmark_groups hflat,
    unmark_digits hpart, hmagnitude, pointed]

/-- The figures on paper are the figures that were printed: money is grouped by
three from the point and reads back as its cents, as the plain decimal does, and
a percentage reads back as its parts per million. -/
theorem printed_figures_read_back :
    (∀ (cents : Int) (currency : String), ∃ first groups part,
      (1 ≤ first.length ∧ first.length ≤ 3) ∧ (∀ g ∈ groups, g.length = 3) ∧ part.length = 2 ∧
      (∀ c ∈ first ++ List.flatten groups ++ part, c.isDigit = true) ∧
      moneyWords cents currency = (if cents < 0 then ['-'] else []) ++
        '$' :: (first ++ groups.flatMap (',' :: ·) ++ '.' :: (part ++ ' ' :: currency.toList))) ∧
    (∀ (cents : Int) (currency : String),
      readDecimal (unmarked currency (moneyWords cents currency)) = some (cents / 100 : ℚ)) ∧
    (∀ cents : Int, readDecimal (formatCents cents) = some (cents / 100 : ℚ)) ∧
    ∀ ppm : Int, readDecimal (ppmWords ppm).dropLast = some (ppm / 10000 : ℚ) := by
  have hcents : ∀ cents : Int, readDecimal (pointed 2 cents) = some (cents / 100 : ℚ) := by
    intro cents
    rw [readDecimal_decimal (by decide)]
    norm_num
  refine ⟨fun cents currency => ?_, fun cents currency => ?_, fun cents => ?_, fun ppm => ?_⟩
  · obtain ⟨first, groups, part, hfirst, hgroups, hpart, hdigits, -, hwords⟩ :=
      exists_moneyWords cents currency
    exact ⟨first, groups, part, hfirst, hgroups, hpart, hdigits, hwords⟩
  · rw [unmarked_moneyWords, hcents]
  · rw [formatCents_eq, hcents]
  · rw [ppmWords_eq, dropLast_concat, readDecimal_decimal (by decide)]
    norm_num

end Dealership.Jacket
