import Dealership.Library.Text
import Mathlib.Algebra.Group.Nat.Defs

/-!
# Instants and the two texts they are compared as

An instant is a count of microseconds since 1970-01-01T00:00:00Z, the precision
of a `timestamptz`.  Two texts of it are in use: `toISOString` with three
fractional digits, and `to_char(…, 'YYYY-MM-DD"T"HH24:MI:SS.US"Z"')` with six.
Both start with the text of the whole second, and that text is monotone: the
calendar is decomposed greedily, so a later day is lexicographically later, and
every field is printed at a fixed width.

Years have four digits in both texts for the years 1 to 9999; outside 0 to 9999
`toISOString` prints a sign and six digits.
-/

namespace Dealership.Library

open List

variable {c : Char}

/-! ## Lexicographic order of concatenations -/

/-- Texts of equal length are compared before whatever follows them. -/
theorem append_lt_append_iff {a b s t : List Nat} (h : a.length = b.length) :
    a ++ s < b ++ t ↔ a < b ∨ a = b ∧ s < t := by
  induction a generalizing b with
  | nil =>
    rw [length_nil, eq_comm, length_eq_zero_iff] at h
    subst h
    simp
  | cons x a ih =>
    cases b with
    | nil => cases h
    | cons y b =>
      rw [length_cons, length_cons, Nat.add_right_cancel_iff] at h
      simp only [cons_append, cons_lt_cons_iff, ih h, List.cons.injEq]
      constructor
      · rintro (hxy | ⟨rfl, hab | ⟨rfl, hst⟩⟩)
        · exact .inl (.inl hxy)
        · exact .inl (.inr ⟨rfl, hab⟩)
        · exact .inr ⟨⟨rfl, rfl⟩, hst⟩
      · rintro ((hxy | ⟨rfl, hab⟩) | ⟨⟨rfl, rfl⟩, hst⟩)
        · exact .inl hxy
        · exact .inr ⟨rfl, .inl hab⟩
        · exact .inr ⟨rfl, .inr ⟨rfl, hst⟩⟩

/-! ## Fixed-width decimals -/

/-- The last `w` decimal digits of `n`. -/
def fixed : Nat → Nat → List Char
  | 0, _ => []
  | w + 1, n => fixed w (n / 10) ++ [Nat.digitChar (n % 10)]

/-- The code units of a text. -/
def units (cs : List Char) : List Nat := cs.flatMap utf16Units

@[simp] theorem units_nil : units [] = [] := rfl

@[simp] theorem units_append (a b : List Char) : units (a ++ b) = units a ++ units b :=
  flatMap_append

@[simp] theorem units_cons (c : Char) (cs : List Char) :
    units (c :: cs) = utf16Units c ++ units cs := flatMap_cons

theorem utf16_ofList (cs : List Char) : utf16 (String.ofList cs) = units cs := by
  rw [utf16, String.toList_ofList, units]

theorem utf16Units_digitChar : ∀ d < 10, utf16Units (Nat.digitChar d) = [48 + d] := by decide

@[simp] theorem units_fixed_length (w n : Nat) : (units (fixed w n)).length = w := by
  induction w generalizing n with
  | zero => rfl
  | succ w ih =>
    rw [fixed, units_append, length_append, ih, units_cons,
      utf16Units_digitChar _ (Nat.mod_lt _ (by decide))]
    rfl

/-- Smaller numbers have smaller texts, as long as they fit the width. -/
theorem units_fixed_lt {w m n : Nat} (h : m < n) (hn : n < 10 ^ w) :
    units (fixed w m) < units (fixed w n) := by
  induction w generalizing m n with
  | zero => omega
  | succ w ih =>
    rw [fixed, fixed, units_append, units_append, append_lt_append_iff (by simp)]
    rw [Nat.pow_succ] at hn
    by_cases hq : m / 10 < n / 10
    · exact .inl (ih hq (by omega))
    · have hdiv : m / 10 = n / 10 := by omega
      refine .inr ⟨by rw [hdiv], ?_⟩
      simp only [units_cons, units_nil, append_nil,
        utf16Units_digitChar _ (Nat.mod_lt _ (by decide))]
      exact cons_lt_cons_iff.mpr (.inl (by omega))

@[simp] theorem fixed_length (w n : Nat) : (fixed w n).length = w := by
  induction w generalizing n with
  | zero => rfl
  | succ w ih => rw [fixed, length_append, ih, length_singleton]

theorem isDigit_of_mem_fixed {w n : Nat} (h : c ∈ fixed w n) : c.isDigit = true := by
  have hdigit : ∀ d < 10, (Nat.digitChar d).isDigit = true := by decide
  induction w generalizing n with
  | zero => cases h
  | succ w ih =>
    rw [fixed, mem_append, mem_singleton] at h
    rcases h with h | rfl
    · exact ih h
    · exact hdigit _ (Nat.mod_lt _ (by decide))

/-! ## The civil calendar -/

/-- A date of the proleptic Gregorian calendar. -/
structure Civil where
  year : Int
  month : Int
  day : Int

/-- Lexicographic order of dates. -/
def Civil.Lt (a b : Civil) : Prop :=
  a.year < b.year ∨ a.year = b.year ∧ (a.month < b.month ∨ a.month = b.month ∧ a.day < b.day)

/-- The year that starts on 1 March, and the day in it, of a day counted from
0000-03-01: whole eras of 400 years, then centuries, quadrennia and years, each
the largest that fits. -/
def marchYear (z : Int) : Int × Int :=
  let r₁ := z % 146097
  let c := min 3 (r₁ / 36524)
  let r₂ := r₁ - 36524 * c
  let q := r₂ / 1461
  let r₃ := r₂ - 1461 * q
  let a := min 3 (r₃ / 365)
  (400 * (z / 146097) + 100 * c + 4 * q + a, r₃ - 365 * a)

/-- The date of a day counted from 1970-01-01.  Months are counted from March,
so that the leap day is the last of its year. -/
def civil (days : Int) : Civil :=
  let (y, doy) := marchYear (days + 719468)
  let mp := (5 * doy + 2) / 153
  let k := 12 * y + mp + 2
  { year := k / 12, month := k % 12 + 1, day := doy - (153 * mp + 2) / 5 + 1 }

theorem marchYear_lt {z z' : Int} (h : z < z') :
    (marchYear z).1 < (marchYear z').1 ∨
      (marchYear z).1 = (marchYear z').1 ∧ (marchYear z).2 < (marchYear z').2 := by
  simp only [marchYear]
  -- The digits of the mixed-radix decomposition, compared from the left.
  generalize he : z / 146097 = e
  generalize he' : z' / 146097 = e'
  generalize hr : z % 146097 = r
  generalize hr' : z' % 146097 = r'
  have h₁ : e < e' ∨ e = e' ∧ r < r' := by omega
  generalize hc : min 3 (r / 36524) = c
  generalize hc' : min 3 (r' / 36524) = c'
  generalize hs : r - 36524 * c = s
  generalize hs' : r' - 36524 * c' = s'
  have h₂ : r < r' → c < c' ∨ c = c' ∧ s < s' := by omega
  have bc : 0 ≤ c ∧ c ≤ 3 ∧ 0 ≤ s ∧ s ≤ 36524 := by omega
  have bc' : 0 ≤ c' ∧ c' ≤ 3 ∧ 0 ≤ s' ∧ s' ≤ 36524 := by omega
  clear hc hc' hs hs'
  generalize hq : s / 1461 = q
  generalize hq' : s' / 1461 = q'
  generalize ht : s - 1461 * q = t
  generalize ht' : s' - 1461 * q' = t'
  have h₃ : s < s' → q < q' ∨ q = q' ∧ t < t' := by omega
  have bq : 0 ≤ q ∧ q ≤ 24 ∧ 0 ≤ t ∧ t ≤ 1460 := by omega
  have bq' : 0 ≤ q' ∧ q' ≤ 24 ∧ 0 ≤ t' ∧ t' ≤ 1460 := by omega
  clear hq hq' ht ht'
  generalize ha : min 3 (t / 365) = a
  generalize ha' : min 3 (t' / 365) = a'
  generalize hu : t - 365 * a = u
  generalize hu' : t' - 365 * a' = u'
  have h₄ : t < t' → a < a' ∨ a = a' ∧ u < u' := by omega
  have ba : 0 ≤ a ∧ a ≤ 3 := by omega
  have ba' : 0 ≤ a' ∧ a' ≤ 3 := by omega
  clear ha ha' hu hu' he he' hr hr' h
  omega

theorem marchYear_day_range (z : Int) : 0 ≤ (marchYear z).2 ∧ (marchYear z).2 ≤ 365 := by
  simp only [marchYear]
  omega

theorem civil_lt {d d' : Int} (h : d < d') : (civil d).Lt (civil d') := by
  have hy := marchYear_lt (show d + 719468 < d' + 719468 by omega)
  have hd := marchYear_day_range (d + 719468)
  have hd' := marchYear_day_range (d' + 719468)
  simp only [Civil.Lt, civil]
  generalize (marchYear (d + 719468)).1 = y at *
  generalize (marchYear (d + 719468)).2 = v at *
  generalize (marchYear (d' + 719468)).1 = y' at *
  generalize (marchYear (d' + 719468)).2 = v' at *
  generalize hm : (5 * v + 2) / 153 = m
  generalize hm' : (5 * v' + 2) / 153 = m'
  have bm : 0 ≤ m ∧ m ≤ 11 := by omega
  have bm' : 0 ≤ m' ∧ m' ≤ 11 := by omega
  have hday : y = y' → v < v' → m < m' ∨
      m = m' ∧ v - (153 * m + 2) / 5 + 1 < v' - (153 * m' + 2) / 5 + 1 := by omega
  have hmonth : 12 * y + m < 12 * y' + m' ∨ 12 * y + m = 12 * y' + m' ∧
      v - (153 * m + 2) / 5 + 1 < v' - (153 * m' + 2) / 5 + 1 := by
    rcases hy with hy | ⟨hy, hv⟩
    · exact .inl (by omega)
    · rcases hday hy hv with hlt | ⟨he, hlt⟩
      · exact .inl (by omega)
      · exact .inr ⟨by omega, hlt⟩
  generalize v - (153 * m + 2) / 5 + 1 = w at *
  generalize v' - (153 * m' + 2) / 5 + 1 = w' at *
  clear hday hm hm' hy
  omega

theorem civil_range (d : Int) :
    1 ≤ (civil d).month ∧ (civil d).month ≤ 12 ∧ 1 ≤ (civil d).day ∧ (civil d).day ≤ 31 := by
  have hd := marchYear_day_range (d + 719468)
  simp only [civil]
  generalize (marchYear (d + 719468)).1 = y at *
  generalize (marchYear (d + 719468)).2 = v at *
  omega

/-! ## The texts -/

/-- `-MM-DDTHH:MM:SS` of a count of seconds: what follows the year. -/
def withinYearText (s : Int) : List Char :=
  let c := civil (s / 86400)
  let r := (s % 86400).toNat
  '-' :: (fixed 2 c.month.toNat ++ '-' :: (fixed 2 c.day.toNat ++
    'T' :: (fixed 2 (r / 3600) ++ ':' :: (fixed 2 (r / 60 % 60) ++ ':' :: fixed 2 (r % 60)))))

/-- `YYYY-MM-DDTHH:MM:SS` of a count of seconds. -/
def secondText (s : Int) : List Char :=
  fixed 4 (civil (s / 86400)).year.toNat ++ withinYearText s

/-- The year of `toISOString`: four digits, or a sign and six. -/
def isoYear (year : Int) : List Char :=
  if 0 ≤ year ∧ year ≤ 9999 then fixed 4 year.toNat
  else (if year < 0 then '-' else '+') :: fixed 6 year.natAbs

/-- `Date.prototype.toISOString` of a count of milliseconds. -/
def toISOString (ms : Int) : String :=
  String.ofList (isoYear (civil (ms / 1000 / 86400)).year ++
    (withinYearText (ms / 1000) ++ '.' :: (fixed 3 (ms % 1000).toNat ++ ['Z'])))

/-- `to_char(t AT TIME ZONE 'UTC', 'YYYY-MM-DD"T"HH24:MI:SS.US"Z"')` of a count
of microseconds. -/
def toCharMicros (t : Int) : String :=
  String.ofList (secondText (t / 1000000) ++ '.' :: (fixed 6 (t % 1000000).toNat ++ ['Z']))

/-- `new Date(String(d)).toISOString()` of the `Date` the driver hands over for a
`timestamptz`: the text of a `Date` has whole seconds. -/
def isoOfDate (t : Int) : String := toISOString (t / 1000000 * 1000)

/-- The instants of the years 1 to 9999, whose texts have four-digit years. -/
def FourDigitYear (t : Int) : Prop := -62135596800000000 ≤ t ∧ t < 253402300800000000

instance (t : Int) : Decidable (FourDigitYear t) := inferInstanceAs (Decidable (_ ∧ _))

theorem civil_year_mono {d d' : Int} (h : d ≤ d') : (civil d).year ≤ (civil d').year := by
  rcases Int.lt_or_eq_of_le h with h | rfl
  · rcases civil_lt h with hy | ⟨hy, -⟩ <;> omega
  · exact Int.le_refl _

theorem FourDigitYear.year {t : Int} (h : FourDigitYear t) :
    1 ≤ (civil (t / 1000000 / 86400)).year ∧ (civil (t / 1000000 / 86400)).year ≤ 9999 := by
  obtain ⟨hlo, hhi⟩ := h
  constructor
  · calc (1 : Int) = (civil (-719162)).year := by decide
      _ ≤ _ := civil_year_mono (by omega)
  · calc (civil (t / 1000000 / 86400)).year ≤ (civil 2932896).year := civil_year_mono (by omega)
      _ = 9999 := by decide

theorem units_field_lt {w m n : Nat} {s t : List Char} (hn : n < 10 ^ w)
    (h : m < n ∨ m = n ∧ units s < units t) :
    units (fixed w m ++ c :: s) < units (fixed w n ++ c :: t) := by
  rw [units_append, units_append, append_lt_append_iff (by simp)]
  rcases h with h | ⟨rfl, h⟩
  · exact .inl (units_fixed_lt h hn)
  · refine .inr ⟨rfl, ?_⟩
    rw [units_cons, units_cons, append_lt_append_iff rfl]
    exact .inr ⟨rfl, h⟩

theorem units_secondText_lt {s s' : Int} (h : s < s') (hs : 0 ≤ (civil (s / 86400)).year)
    (hs' : (civil (s' / 86400)).year ≤ 9999) : units (secondText s) < units (secondText s') := by
  have hd : s / 86400 < s' / 86400 ∨ s / 86400 = s' / 86400 ∧ s % 86400 < s' % 86400 := by omega
  have hr := civil_range (s / 86400)
  have hr' := civil_range (s' / 86400)
  have hdate : (civil (s / 86400)).Lt (civil (s' / 86400)) ∨
      civil (s / 86400) = civil (s' / 86400) ∧ s % 86400 < s' % 86400 := by
    rcases hd with hd | ⟨hd, ht⟩
    · exact .inl (civil_lt hd)
    · exact .inr ⟨by rw [hd], ht⟩
  simp only [secondText, withinYearText]
  generalize hp : (s % 86400).toNat = p
  generalize hp' : (s' % 86400).toNat = p'
  have bp' : p' < 86400 := by omega
  rcases hdate with (hy | ⟨hy, hm | ⟨hm, hday⟩⟩) | ⟨hc, ht⟩
  · exact units_field_lt (by omega) (.inl (by omega))
  · exact units_field_lt (by omega) (.inr ⟨by omega, units_field_lt (by omega) (.inl (by omega))⟩)
  · exact units_field_lt (by omega) (.inr ⟨by omega, units_field_lt (by omega) (.inr ⟨by omega,
      units_field_lt (by omega) (.inl (by omega))⟩)⟩)
  · rw [hc]
    have hlt : p < p' := by omega
    refine units_field_lt (by omega) (.inr ⟨rfl, units_field_lt (by omega) (.inr ⟨rfl,
      units_field_lt (by omega) (.inr ⟨rfl, ?_⟩)⟩)⟩)
    by_cases hh : p / 3600 < p' / 3600
    · exact units_field_lt (by omega) (.inl hh)
    · refine units_field_lt (by omega) (.inr ⟨by omega, ?_⟩)
      by_cases hm : p / 60 % 60 < p' / 60 % 60
      · exact units_field_lt (by omega) (.inl hm)
      · exact units_field_lt (by omega) (.inr ⟨by omega, units_fixed_lt (by omega) (by omega)⟩)

@[simp] theorem units_secondText_length (s : Int) : (units (secondText s)).length = 19 := by
  simp only [secondText, withinYearText, units_append, units_cons, length_append,
    units_fixed_length]
  decide

@[simp] theorem withinYearText_length (s : Int) : (withinYearText s).length = 15 := by
  simp only [withinYearText, length_cons, length_append, fixed_length]

/-- Three fractional digits are not six, and a sign is not a digit. -/
theorem toISOString_ne_toCharMicros (ms t : Int) : toISOString ms ≠ toCharMicros t := by
  intro h
  have hchars := congrArg String.toList h
  rw [toISOString, toCharMicros, String.toList_ofList, String.toList_ofList, isoYear,
    secondText] at hchars
  split at hchars
  · have hlength := congrArg List.length hchars
    simp only [length_append, length_cons, fixed_length, withinYearText_length] at hlength
    omega
  · obtain ⟨c, cs, hfour⟩ := exists_cons_of_length_eq_add_one
      (fixed_length 4 (civil (t / 1000000 / 86400)).year.toNat)
    have hdigit : c.isDigit = true := isDigit_of_mem_fixed (hfour ▸ mem_cons_self)
    rw [hfour, cons_append, cons_append, cons_append] at hchars
    rw [← (List.cons.inj hchars).1] at hdigit
    split at hdigit <;> exact absurd hdigit (by decide)

/-! ## Reading the text of a `Date` back -/

theorem fixed_inj {w m n : Nat} (h : fixed w m = fixed w n) (hm : m < 10 ^ w) (hn : n < 10 ^ w) :
    m = n := by
  have hunits : units (fixed w m) = units (fixed w n) := by rw [h]
  rcases Nat.lt_trichotomy m n with hlt | heq | hgt
  · exact absurd hunits (ne_of_lt (units_fixed_lt hlt hn))
  · exact heq
  · exact absurd hunits (ne_of_gt (units_fixed_lt hgt hm))

theorem civil_injective : Function.Injective civil := by
  intro d d' h
  rcases Int.lt_trichotomy d d' with hlt | heq | hgt
  · have hlt := civil_lt hlt
    rw [h] at hlt
    simp [Civil.Lt] at hlt
  · exact heq
  · have hgt := civil_lt hgt
    rw [h] at hgt
    simp [Civil.Lt] at hgt

/-- A field of fixed width and the character after it are read off the front. -/
theorem fixed_append_inj {w m n : Nat} {s t : List Char} (hm : m < 10 ^ w) (hn : n < 10 ^ w)
    (h : fixed w m ++ c :: s = fixed w n ++ c :: t) : m = n ∧ s = t := by
  obtain ⟨hfixed, hrest⟩ := append_inj h (by simp)
  exact ⟨fixed_inj hfixed hm hn, (List.cons.inj hrest).2⟩

theorem withinYearText_inj {s s' : Int} (h : withinYearText s = withinYearText s') :
    (civil (s / 86400)).month = (civil (s' / 86400)).month ∧
      (civil (s / 86400)).day = (civil (s' / 86400)).day ∧ s % 86400 = s' % 86400 := by
  have hr := civil_range (s / 86400)
  have hr' := civil_range (s' / 86400)
  simp only [withinYearText] at h
  generalize hp : (s % 86400).toNat = p at h
  generalize hp' : (s' % 86400).toNat = p' at h
  have bp : p < 86400 ∧ p' < 86400 := by omega
  obtain ⟨hmonth, h⟩ := fixed_append_inj (by omega) (by omega) (List.cons.inj h).2
  obtain ⟨hday, h⟩ := fixed_append_inj (by omega) (by omega) h
  obtain ⟨hhour, h⟩ := fixed_append_inj (by omega) (by omega) h
  obtain ⟨hminute, h⟩ := fixed_append_inj (by omega) (by omega) h
  have hsecond := fixed_inj h (by omega) (by omega)
  omega

@[simp] theorem isoYear_length (year : Int) :
    (isoYear year).length = if 0 ≤ year ∧ year ≤ 9999 then 4 else 7 := by
  unfold isoYear
  split
  · exact fixed_length 4 _
  · rw [length_cons, fixed_length]

theorem isoYear_inj {y y' : Int} (hy : 0 ≤ y' ∧ y' ≤ 9999) (h : isoYear y = isoYear y') :
    y = y' := by
  have hlength := congrArg List.length h
  rw [isoYear_length, isoYear_length, if_pos hy] at hlength
  have hfour : 0 ≤ y ∧ y ≤ 9999 := by
    by_contra hno
    rw [if_neg hno] at hlength
    omega
  rw [isoYear, isoYear, if_pos hfour, if_pos hy] at h
  have hnat := fixed_inj h (by omega) (by omega)
  omega

/-- The instant is read back from its text when the year has four digits. -/
theorem toISOString_inj {ms ms' : Int} (hyear : 0 ≤ (civil (ms' / 1000 / 86400)).year ∧
    (civil (ms' / 1000 / 86400)).year ≤ 9999) (h : toISOString ms = toISOString ms') :
    ms = ms' := by
  have hchars := String.ofList_injective h
  have hlength := congrArg List.length hchars
  simp only [length_append, length_cons, fixed_length, withinYearText_length,
    length_nil, Nat.add_right_cancel_iff] at hlength
  obtain ⟨htext, hrest⟩ := append_inj hchars hlength
  have hyears := isoYear_inj hyear htext
  obtain ⟨hwithin, hfraction⟩ := append_inj hrest (by simp)
  obtain ⟨hmonth, hday, htime⟩ := withinYearText_inj hwithin
  have hms := fixed_inj (append_inj (List.cons.inj hfraction).2 (by simp)).1 (by omega) (by omega)
  have hcivil : civil (ms / 1000 / 86400) = civil (ms' / 1000 / 86400) := by
    cases hc : civil (ms / 1000 / 86400)
    cases hc' : civil (ms' / 1000 / 86400)
    rw [hc, hc'] at hyears hmonth hday
    simp_all
  have hdays := civil_injective hcivil
  omega

/-- In the years 0 to 9999 the text of a `Date` starts with that of the second. -/
theorem toISOString_eq {ms : Int} (hlo : 0 ≤ (civil (ms / 1000 / 86400)).year)
    (hhi : (civil (ms / 1000 / 86400)).year ≤ 9999) :
    toISOString ms =
      String.ofList (secondText (ms / 1000) ++ '.' :: (fixed 3 (ms % 1000).toNat ++ ['Z'])) := by
  rw [toISOString, isoYear, if_pos ⟨hlo, hhi⟩, secondText, append_assoc]

/-! ## The two texts against each other -/

theorem fixed_add (v w n : Nat) : fixed (v + w) n = fixed v (n / 10 ^ w) ++ fixed w n := by
  induction w generalizing n with
  | zero => simp [fixed]
  | succ w ih =>
    rw [← Nat.add_assoc, fixed, fixed, ih, Nat.div_div_eq_div_mul, ← Nat.pow_succ', append_assoc]

/-- Six digits and a `Z` come before `000Z` when the first three are zeros: a digit
comes before `Z`. -/
theorem units_micros_lt_zero {u : Nat} (hu : u < 1000000) :
    units (fixed 6 u ++ ['Z']) < units (fixed 3 0 ++ ['Z']) ↔ u < 1000 := by
  have hdigit : units (fixed 3 u ++ ['Z']) < units ['Z'] := by
    rw [show fixed 3 u = fixed 1 (u / 100) ++ fixed 2 u from fixed_add 1 2 u, fixed, fixed]
    simp only [nil_append, cons_append, units_cons,
      utf16Units_digitChar _ (Nat.mod_lt _ (by decide : 0 < 10))]
    refine cons_lt_cons_iff.mpr (.inl ?_)
    show 48 + u / 100 % 10 < 90
    omega
  rw [show fixed 6 u = fixed 3 (u / 1000) ++ fixed 3 u from fixed_add 3 3 u, append_assoc,
    units_append, units_append (fixed 3 0), append_lt_append_iff (by simp)]
  rcases Nat.eq_zero_or_pos (u / 1000) with hzero | hpos
  · rw [hzero]
    exact ⟨fun _ => by omega, fun _ => .inr ⟨rfl, hdigit⟩⟩
  · have hlt : units (fixed 3 0) < units (fixed 3 (u / 1000)) := units_fixed_lt hpos (by omega)
    constructor
    · rintro (h | ⟨h, -⟩)
      · exact absurd hlt (lt_asymm h)
      · exact absurd h (ne_of_gt hlt)
    · omega

/-- The text of a `Date` against the text of the database's clock, compared as
strings: the fraction of the first is lost, and an instant in the first millisecond
of the second is still before it. -/
theorem jsLe_isoOfDate_toCharMicros {e t : Int} (he : FourDigitYear e) (ht : FourDigitYear t) :
    jsLe (isoOfDate e) (toCharMicros t) = true ↔ e / 1000000 * 1000000 + 1000 ≤ t := by
  have hsec : e / 1000000 * 1000 / 1000 = e / 1000000 := by omega
  have hms : (e / 1000000 * 1000 % 1000).toNat = 0 := by omega
  have hlt : utf16 (toCharMicros t) < utf16 (isoOfDate e) ↔ t < e / 1000000 * 1000000 + 1000 := by
    have hyear := he.year
    rw [← hsec] at hyear
    rw [toCharMicros, isoOfDate, toISOString_eq (by omega) hyear.2, utf16_ofList, utf16_ofList,
      hsec, hms, units_append, units_append, append_lt_append_iff (by simp), units_cons, units_cons,
      append_lt_append_iff rfl]
    have hfraction := units_micros_lt_zero (u := (t % 1000000).toNat) (by omega)
    rcases Int.lt_trichotomy (t / 1000000) (e / 1000000) with h | h | h
    · have htext := units_secondText_lt h (by have := ht.year; omega) he.year.2
      exact ⟨fun _ => by omega, fun _ => .inl htext⟩
    · rw [h]
      constructor
      · rintro (h' | ⟨-, h' | ⟨-, h'⟩⟩)
        · exact absurd h' (lt_irrefl _)
        · exact absurd h' (lt_irrefl _)
        · have := hfraction.mp h'
          omega
      · intro h'
        exact .inr ⟨rfl, .inr ⟨rfl, hfraction.mpr (by omega)⟩⟩
    · have htext := units_secondText_lt h (by have := he.year; omega) ht.year.2
      constructor
      · rintro (h' | ⟨h', -⟩)
        · exact absurd htext (lt_asymm h')
        · exact absurd h' (ne_of_gt htext)
      · intro h'
        omega
  rw [jsLe, decide_eq_true_iff, ← not_lt, hlt, Int.not_lt]

example : isoOfDate 1709208000999999 = "2024-02-29T12:00:00.000Z" := by decide +kernel

end Dealership.Library
