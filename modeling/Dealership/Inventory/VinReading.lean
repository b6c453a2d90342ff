import Dealership.Inventory.Vin
import Mathlib.Algebra.GroupWithZero.Nat
import Mathlib.Order.Bounds.Basic

/-!
# Reading a VIN

A text reads as the VIN it spells once formatting is deleted and ASCII letters are
raised.  `toUpperCase` raises other letters too, some of them into the alphabet: a text
that spells a VIN only that way is accepted all the same, as a VIN nobody wrote.
-/

namespace Dealership.Inventory

open Library List
open Crm (Casing)

variable {cs : List Char} {c : Char} {i : Nat}

/-! ## What a text spells -/

/-- A text without its white space and hyphens. -/
def unformatted (s : String) : List Char :=
  s.toList.filter fun c => ¬ jsWhitespace c && c ≠ '-'

/-- Formatting deleted and ASCII letters raised, nothing else. -/
def canonical (s : String) : List Char := (unformatted s).map Char.toUpper

structure IsVin (cs : List Char) : Prop where
  length : cs.length = vinLength
  alphabet : ∀ c ∈ cs, vinCharacter c = true

/-- The letters outside ASCII are raised into the alphabet, and the text spells a VIN
because of them.  `up` is what `toUpperCase` makes of one character. -/
structure Smuggled (up : Char → List Char) (s : String) : Prop where
  foreign : ∃ c ∈ unformatted s, 128 ≤ c.toNat
  length : ((unformatted s).map fun c => (up c).length).sum = vinLength
  alphabet : ∀ c ∈ unformatted s, ∀ d ∈ up c, vinCharacter d = true

def yearCode (year : Int) : Option Char := yearCodes[((year - 1980) % 30).toNat]?

/-- A reading is canonical: what it accepts and reports of a text. -/
structure ReadsCanonically (casing : Casing) (s : String) (referenceYear : Int) : Prop where
  vin : ∀ v, (normalizeVin casing (some s) referenceYear).vin = some v ↔
    v.toList = canonical s ∧ IsVin v.toList
  again : ∀ v, (normalizeVin casing (some s) referenceYear).vin = some v →
    normalizeVin casing (some v) referenceYear = normalizeVin casing (some s) referenceYear
  year : ∀ v, (normalizeVin casing (some s) referenceYear).vin = some v → ∀ year,
    (normalizeVin casing (some s) referenceYear).modelYear = some year ↔
      IsGreatest {z | z ≤ referenceYear + 1 ∧ yearCode z = v.toList[9]?} year
  check : ∀ v, (normalizeVin casing (some s) referenceYear).vin = some v →
    (normalizeVin casing (some s) referenceYear).checkDigitValid = true →
    ∀ i c, i < vinLength → i ≠ 8 → vinCharacter c = true →
      vinValue c ≠ v.toList[i]?.bind vinValue →
      (normalizeVin casing (some (String.ofList (v.toList.set i c))) referenceYear).checkDigitValid
        = false

/-! ## Characters of the alphabet -/

theorem of_vinCharacter (h : vinCharacter c = true) :
    c.toNat < 128 ∧ (¬ jsWhitespace c && c ≠ '-') = true ∧ c.toUpper = c ∧
      ¬ (c = 'I' || c = 'O' || c = 'Q') = true ∧ ∃ n < 10, vinValue c = some n := by
  have hall : ∀ n < 128, vinCharacter (Char.ofNat n) = true →
      (¬ jsWhitespace (Char.ofNat n) && Char.ofNat n ≠ '-') = true ∧
        (Char.ofNat n).toUpper = Char.ofNat n ∧
        ¬ (Char.ofNat n = 'I' || Char.ofNat n = 'O' || Char.ofNat n = 'Q') = true ∧
        ∃ k < 10, vinValue (Char.ofNat n) = some k := by
    decide +kernel
  have hascii : c.toNat < 128 := by
    have hle : ∀ d : Char, d.toNat < 128 → (c ≤ d) → c.toNat < 128 := fun d hd hcd =>
      lt_of_le_of_lt (UInt32.le_iff_toNat_le.mp hcd) hd
    simp only [vinCharacter, Bool.or_eq_true, Bool.and_eq_true, decide_eq_true_eq] at h
    rcases h with (((⟨-, h⟩ | ⟨-, h⟩) | h) | ⟨-, h⟩) | ⟨-, h⟩
    · exact hle 'H' (by decide) h
    · exact hle 'N' (by decide) h
    · rw [h]
      decide
    · exact hle 'Z' (by decide) h
    · exact hle '9' (by decide) h
  have hc := hall c.toNat hascii
  rw [Char.ofNat_toNat] at hc
  exact ⟨hascii, hc h⟩

theorem ascii_of_vinCharacter_toUpper (h : vinCharacter c.toUpper = true) :
    c.toNat < 128 := by
  have hup := (of_vinCharacter h).1
  by_contra hc
  have hsame : c.toUpper = c := by
    refine dif_neg ?_
    grind [Char.toNat_val, UInt32.le_iff_toNat_le]
  rw [hsame] at hup
  exact hc hup

theorem length_utf16 (h : ∀ c ∈ cs, vinCharacter c = true) :
    (cs.flatMap utf16Units).length = cs.length := by
  have hunit : cs.flatMap utf16Units = cs.map Char.toNat := by
    rw [map_eq_flatMap]
    refine flatMap_congr fun c hc => if_pos ?_
    exact (of_vinCharacter (h c hc)).1.trans (by decide)
  rw [hunit, length_map]

/-! ## The model year -/

theorem vinModelYear_eq_some_iff (hcs : cs.length = vinLength) {referenceYear : Int}
    (hyear : 2009 ≤ referenceYear) (year : Int) :
    vinModelYear cs referenceYear = some year ↔
      IsGreatest {z | z ≤ referenceYear + 1 ∧ yearCode z = cs[9]?} year := by
  obtain ⟨c, hc⟩ : ∃ c, cs[9]? = some c := ⟨_, getElem?_eq_getElem (by rw [hcs]; decide)⟩
  rw [vinModelYear, hc, Option.bind_some]
  cases hindex : yearCodes.idxOf? c with
  | none =>
    refine ⟨fun h => (nomatch h), fun h => ?_⟩
    exact absurd (mem_of_getElem? h.1.2) (idxOf?_eq_none_iff.mp hindex)
  | some index =>
    obtain ⟨hlt, hget, -⟩ := idxOf?_eq_some_iff.mp hindex
    have hcode : yearCodes[index]? = some c := by
      rw [getElem?_eq_getElem hlt, hget]
    have hlength : index < 30 := hlt
    have hposition : ∀ z, yearCode z = some c ↔ (z - 1980) % 30 = index := by
      intro z
      rw [yearCode, ← hcode, eq_comm, getElem?_inj hlt (by decide)]
      omega
    have hgreatest : IsGreatest {z | z ≤ referenceYear + 1 ∧ yearCode z = some c}
        (referenceYear + 1 - (referenceYear + 1 - (1980 + index)).tmod 30) := by
      rw [Int.tmod_eq_emod_of_nonneg (by omega)]
      refine ⟨⟨by omega, (hposition _).mpr (by omega)⟩, ?_⟩
      rintro z ⟨hle, hz⟩
      have := (hposition z).mp hz
      omega
    constructor
    · rintro h
      cases h
      exact hgreatest
    · intro h
      exact congrArg some (hgreatest.unique h)

/-! ## The check digit -/

def weighed (p : Char × Nat) : Nat := (vinValue p.1).getD 0 * p.2

theorem foldlM_weighed {ps : List (Char × Nat)} (h : ∀ p ∈ ps, ∃ n < 10, vinValue p.1 = some n)
    (total : Nat) : ps.foldlM (fun total p => (vinValue p.1).map fun value => total + value * p.2)
      total = some (total + (ps.map weighed).sum) := by
  induction ps generalizing total with
  | nil => rfl
  | cons p ps ih =>
    obtain ⟨n, -, hn⟩ := h p mem_cons_self
    rw [foldlM_cons, hn]
    change ps.foldlM _ (total + n * p.2) = _
    rw [ih (fun q hq => h q (mem_cons_of_mem p hq)), map_cons, sum_cons, weighed,
      hn, Option.getD_some, Nat.add_assoc]

theorem sum_weighed_set {ws : List Nat} {d : Char} {weight : Nat} (hc : cs[i]? = some c)
    (hw : ws[i]? = some weight) :
    (((cs.set i d).zip ws).map weighed).sum + weighed (c, weight) =
      ((cs.zip ws).map weighed).sum + weighed (d, weight) := by
  induction cs generalizing ws i with
  | nil => nomatch hc
  | cons a cs ih =>
    cases ws with
    | nil => nomatch hw
    | cons b ws =>
      cases i with
      | zero =>
        cases hc
        cases hw
        simp only [set_cons_zero, zip_cons_cons, map_cons, sum_cons]
        omega
      | succ i =>
        have := ih hc hw
        simp only [set_cons_succ, zip_cons_cons, map_cons, sum_cons]
        omega

/-- Every weight but the check digit's is invertible modulo eleven. -/
theorem weight_inj (hi : i < vinLength) (hcheck : i ≠ 8) {m n : Nat} (hm : m < 10) (hn : n < 10)
    (h : m * weights.get ⟨i, hi⟩ % 11 = n * weights.get ⟨i, hi⟩ % 11) : m = n := by
  have hall : ∀ i (hi : i < 17), i ≠ 8 → ∀ m < 10, ∀ n < 10,
      m * weights.get ⟨i, hi⟩ % 11 = n * weights.get ⟨i, hi⟩ % 11 → m = n := by
    decide +kernel
  exact hall i hi hcheck m hm n hn h

theorem vinCheckCharacter_eq (h : ∀ c ∈ cs, vinCharacter c = true) :
    vinCheckCharacter cs = some (let total := ((cs.zip weights).map weighed).sum
      if total % 11 = 10 then 'X' else Nat.digitChar (total % 11)) := by
  rw [vinCheckCharacter, foldlM_weighed fun p hp => ?_, Nat.zero_add]
  · rfl
  · exact (of_vinCharacter (h p.1 (of_mem_zip hp).1)).2.2.2.2

theorem vinCheckCharacter_set_ne (hcs : IsVin cs) (hi : i < vinLength) (hcheck : i ≠ 8) {d : Char}
    (hd : vinCharacter d = true) (hvalue : vinValue d ≠ cs[i]?.bind vinValue) :
    vinCheckCharacter (cs.set i d) ≠ vinCheckCharacter cs := by
  have hlt : i < cs.length := hcs.length.symm ▸ hi
  have hset : ∀ c ∈ cs.set i d, vinCharacter c = true := by
    intro c hc
    rcases mem_or_eq_of_mem_set hc with hc | rfl
    · exact hcs.alphabet c hc
    · exact hd
  have hget : cs[i]? = some cs[i] := getElem?_eq_getElem hlt
  have hweight : weights[i]? = some (weights.get ⟨i, hi⟩) := getElem?_eq_getElem hi
  obtain ⟨-, -, -, -, m, hm, hmc⟩ := of_vinCharacter (hcs.alphabet _ (getElem_mem hlt))
  obtain ⟨-, -, -, -, n, hn, hnd⟩ := of_vinCharacter hd
  have hsum := sum_weighed_set (d := d) hget hweight
  rw [weighed, weighed, hmc, hnd, Option.getD_some, Option.getD_some] at hsum
  rw [hget, Option.bind_some, hmc, hnd] at hvalue
  rw [vinCheckCharacter_eq hset, vinCheckCharacter_eq hcs.alphabet]
  generalize (((cs.set i d).zip weights).map weighed).sum = total' at hsum ⊢
  generalize ((cs.zip weights).map weighed).sum = total at hsum ⊢
  intro hsame
  have hdigits : ∀ a < 11, ∀ b < 11,
      (if a = 10 then 'X' else Nat.digitChar a) = (if b = 10 then 'X' else Nat.digitChar b) →
        a = b := by
    decide
  have hmod := hdigits _ (Nat.mod_lt total' (by decide)) _ (Nat.mod_lt total (by decide))
    (Option.some_inj.mp hsame)
  refine hvalue (congrArg some (weight_inj hi hcheck hn hm ?_))
  generalize n * weights.get ⟨i, hi⟩ = a at hsum ⊢
  generalize m * weights.get ⟨i, hi⟩ = b at hsum ⊢
  omega

/-! ## What is accepted -/

section Raised

variable {casing : Casing} {up : Char → List Char} {s v : String} {referenceYear : Int}
  (hupper : ∀ s, casing.upper s = String.ofList (s.toList.flatMap up))
  (hascii : ∀ c, c.toNat < 128 → up c = [c.toUpper])

include hupper

theorem normalizeVinInput_eq (s : String) :
    normalizeVinInput casing s = String.ofList ((unformatted s).flatMap up) := by
  rw [normalizeVinInput, hupper, String.toList_ofList]
  rfl

theorem normalizeVin_of_isVin {cs : List Char} (hraised : (unformatted s).flatMap up = cs)
    (hcs : IsVin cs) : normalizeVin casing (some s) referenceYear =
      { vin := some (String.ofList cs)
        rejection := none
        checkDigitValid := vinCheckCharacter cs = cs[8]?
        modelYear := vinModelYear cs referenceYear
        wmi := some (slice 3 (String.ofList cs)) } := by
  have hblank : ¬ isBlank s = true := by
    intro hblank
    have hnil : unformatted s = [] := by
      rw [unformatted, filter_eq_nil_iff]
      intro c hc
      simp [all_eq_true.mp hblank c hc]
    rw [hnil, flatMap_nil] at hraised
    rw [← hraised] at hcs
    exact absurd hcs.length (by decide)
  have hlength : ¬ (utf16 (String.ofList cs)).length ≠ vinLength := by
    rw [utf16, String.toList_ofList, length_utf16 hcs.alphabet, hcs.length]
    exact fun h => h rfl
  have hletters : ¬ (cs.any fun c => c = 'I' || c = 'O' || c = 'Q') = true := by
    rw [any_eq_true]
    rintro ⟨c, hc, hletter⟩
    exact (of_vinCharacter (hcs.alphabet c hc)).2.2.2.1 hletter
  have halphabet : ¬ ¬ cs.all vinCharacter = true := not_not.mpr (all_eq_true.mpr hcs.alphabet)
  rw [normalizeVin, normalizeVinInput_eq hupper, hraised, String.toList_ofList]
  simp only [if_neg hblank, if_neg hlength, if_neg hletters, if_neg halphabet]

theorem of_vin_eq_some (h : (normalizeVin casing (some s) referenceYear).vin = some v) :
    v.toList = (unformatted s).flatMap up ∧ IsVin v.toList := by
  rw [normalizeVin, normalizeVinInput_eq hupper, String.toList_ofList] at h
  split at h
  · cases h
  split at h
  · cases h
  rename_i hlength
  split at h
  · cases h
  split at h
  · cases h
  rename_i halphabet
  cases h
  have hall := all_eq_true.mp (not_not.mp halphabet)
  rw [not_not, utf16, String.toList_ofList, length_utf16 hall] at hlength
  rw [String.toList_ofList]
  exact ⟨rfl, hlength, hall⟩

omit hupper

include hascii

/-- Over ASCII, `toUpperCase` raises letters and does nothing else. -/
theorem flatMap_eq_canonical (h : ∀ c ∈ unformatted s, c.toNat < 128) :
    (unformatted s).flatMap up = canonical s := by
  rw [canonical, map_eq_flatMap]
  exact flatMap_congr fun c hc => hascii c (h c hc)

theorem flatMap_of_isVin {cs : List Char} (hcs : IsVin cs) :
    (unformatted (String.ofList cs)).flatMap up = cs := by
  have hsame : unformatted (String.ofList cs) = cs := by
    rw [unformatted, String.toList_ofList, filter_eq_self]
    exact fun c hc => (of_vinCharacter (hcs.alphabet c hc)).2.1
  rw [flatMap_eq_canonical hascii, canonical, hsame]
  · exact map_congr_left (fun c hc => (of_vinCharacter (hcs.alphabet c hc)).2.2.1)
      |>.trans (map_id' cs)
  · rw [hsame]
    exact fun c hc => (of_vinCharacter (hcs.alphabet c hc)).1

omit hascii

theorem ascii_of_isVin_canonical (h : IsVin (canonical s)) : ∀ c ∈ unformatted s, c.toNat < 128 :=
  fun _ hc => ascii_of_vinCharacter_toUpper (h.alphabet _ (mem_map_of_mem hc))

theorem smuggled_iff : Smuggled up s ↔
    (∃ c ∈ unformatted s, 128 ≤ c.toNat) ∧ IsVin ((unformatted s).flatMap up) := by
  constructor
  · rintro ⟨hforeign, hlength, halphabet⟩
    refine ⟨hforeign, length_flatMap.trans hlength, fun d hd => ?_⟩
    obtain ⟨c, hc, hd⟩ := mem_flatMap.mp hd
    exact halphabet c hc d hd
  · rintro ⟨hforeign, hlength, halphabet⟩
    exact ⟨hforeign, length_flatMap.symm.trans hlength, fun c hc d hd =>
      halphabet d (mem_flatMap.mpr ⟨c, hc, hd⟩)⟩

include hupper

theorem not_smuggled_of_reads (h : ReadsCanonically casing s referenceYear) : ¬ Smuggled up s := by
  intro hsmuggled
  obtain ⟨⟨c, hc, hforeign⟩, hvin⟩ := smuggled_iff.mp hsmuggled
  have hread : normalizeVin casing (some s) referenceYear = _ :=
    normalizeVin_of_isVin hupper rfl hvin
  have haccepted := congrArg VinNormalization.vin hread
  obtain ⟨hv, hv'⟩ := (h.vin _).mp haccepted
  rw [hv] at hv'
  exact absurd (ascii_of_isVin_canonical hv' c hc) (not_lt.mpr hforeign)

include hascii

theorem vin_eq_some_iff (hnot : ¬ Smuggled up s) :
    (normalizeVin casing (some s) referenceYear).vin = some v ↔
      v.toList = canonical s ∧ IsVin v.toList := by
  constructor
  · intro h
    obtain ⟨hv, hvin⟩ := of_vin_eq_some hupper h
    refine ⟨hv.trans (flatMap_eq_canonical hascii fun c hc => ?_), hvin⟩
    by_contra hforeign
    exact hnot (smuggled_iff.mpr ⟨⟨c, hc, not_lt.mp hforeign⟩, hv ▸ hvin⟩)
  · rintro ⟨hv, hvin⟩
    rw [hv] at hvin
    have hraised := flatMap_eq_canonical hascii (ascii_of_isVin_canonical hvin)
    rw [normalizeVin_of_isVin hupper hraised hvin, ← hv, String.ofList_toList]

end Raised

/-- A reading is canonical exactly when no letter outside ASCII is raised into a VIN; and
such texts read as one VIN exactly when they agree up to case, white space and hyphens. -/
theorem reads_canonically_iff {casing : Casing} {up : Char → List Char}
    (hupper : ∀ s, casing.upper s = String.ofList (s.toList.flatMap up))
    (hascii : ∀ c, c.toNat < 128 → up c = [c.toUpper]) {referenceYear : Int}
    (hyear : 2009 ≤ referenceYear) :
    (∀ s, ReadsCanonically casing s referenceYear ↔ ¬ Smuggled up s) ∧
      ∀ s t, ¬ Smuggled up s → ¬ Smuggled up t →
        ((∃ v, (normalizeVin casing (some s) referenceYear).vin = some v ∧
            (normalizeVin casing (some t) referenceYear).vin = some v) ↔
          canonical s = canonical t ∧ IsVin (canonical s)) := by
  refine ⟨fun s => ⟨not_smuggled_of_reads hupper, fun hnot => ?_⟩, fun s t hs ht => ?_⟩
  · have hreport : ∀ v, (normalizeVin casing (some s) referenceYear).vin = some v →
        IsVin v.toList ∧ normalizeVin casing (some s) referenceYear =
          { vin := some v
            rejection := none
            checkDigitValid := vinCheckCharacter v.toList = v.toList[8]?
            modelYear := vinModelYear v.toList referenceYear
            wmi := some (slice 3 v) } := by
      intro v h
      obtain ⟨hv, hvin⟩ := of_vin_eq_some hupper h
      refine ⟨hvin, ?_⟩
      rw [normalizeVin_of_isVin hupper hv.symm hvin, String.ofList_toList]
    refine ⟨fun v => vin_eq_some_iff hupper hascii hnot, fun v h => ?_, fun v h year => ?_,
      fun v h hvalid i c hi hcheck hc hvalue => ?_⟩
    all_goals obtain ⟨hvin, hreport⟩ := hreport v h
    · have hraised := flatMap_of_isVin hascii hvin
      rw [String.ofList_toList] at hraised
      rw [normalizeVin_of_isVin hupper hraised hvin, hreport, String.ofList_toList]
    · rw [hreport]
      exact vinModelYear_eq_some_iff hvin.length hyear year
    · rw [hreport, decide_eq_true_iff] at hvalid
      have hset : IsVin (v.toList.set i c) := by
        refine ⟨by rw [length_set, hvin.length], fun d hd => ?_⟩
        rcases mem_or_eq_of_mem_set hd with hd | rfl
        · exact hvin.alphabet d hd
        · exact hc
      rw [normalizeVin_of_isVin hupper (flatMap_of_isVin hascii hset) hset, decide_eq_false_iff_not,
        getElem?_set_ne hcheck, ← hvalid]
      exact vinCheckCharacter_set_ne hvin hi hcheck hc hvalue
  · constructor
    · rintro ⟨v, hv, hv'⟩
      obtain ⟨hs, hvin⟩ := (vin_eq_some_iff hupper hascii hs).mp hv
      obtain ⟨ht, -⟩ := (vin_eq_some_iff hupper hascii ht).mp hv'
      exact ⟨hs.symm.trans ht, hs ▸ hvin⟩
    · rintro ⟨hsame, hvin⟩
      have hv : (String.ofList (canonical s)).toList = canonical s := String.toList_ofList
      have hvin' : IsVin (String.ofList (canonical s)).toList := by
        rw [hv]
        exact hvin
      exact ⟨_, (vin_eq_some_iff hupper hascii hs).mpr ⟨hv, hvin'⟩,
        (vin_eq_some_iff hupper hascii ht).mpr ⟨hv.trans hsame, hvin'⟩⟩

/-! ## A letter from outside -/

/-- `toUpperCase` of a character: of those outside ASCII, the long s and its ligature. -/
def raised (c : Char) : List Char :=
  if c = 'ſ' then ['S'] else if c = 'ﬆ' then ['S', 'T'] else [c.toUpper]

def latinCasing : Casing :=
  { Casing.ascii with upper := fun s => String.ofList (s.toList.flatMap raised) }

theorem raised_ascii (c : Char) (hc : c.toNat < 128) : raised c = [c.toUpper] := by
  rw [raised, if_neg, if_neg]
  · rintro rfl
    exact absurd hc (by decide)
  · rintro rfl
    exact absurd hc (by decide)

theorem reads_canonically_iff_latin :
    (∀ s, ReadsCanonically latinCasing s 2026 ↔ ¬ Smuggled raised s) ∧
      ∀ s t, ¬ Smuggled raised s → ¬ Smuggled raised t →
        ((∃ v, (normalizeVin latinCasing (some s) 2026).vin = some v ∧
            (normalizeVin latinCasing (some t) 2026).vin = some v) ↔
          canonical s = canonical t ∧ IsVin (canonical s)) :=
  reads_canonically_iff (fun _ => rfl) raised_ascii (by decide)

/-- Sixteen characters, one of them a ligature, are accepted as a VIN of seventeen. -/
theorem ligature_reads_as_vin :
    (normalizeVin latinCasing (some "1HGBH41JXMN1091ﬆ") 2026).vin = some "1HGBH41JXMN1091ST" ∧
      ¬ ReadsCanonically latinCasing "1HGBH41JXMN1091ﬆ" 2026 := by
  have haccepted : (normalizeVin latinCasing (some "1HGBH41JXMN1091ﬆ") 2026).vin =
      some "1HGBH41JXMN1091ST" := by
    decide +kernel
  refine ⟨haccepted, fun h => ?_⟩
  have hv := ((h.vin _).mp haccepted).1
  exact absurd hv (by decide +kernel)

end Dealership.Inventory
