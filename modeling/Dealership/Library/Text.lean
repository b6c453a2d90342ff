import Mathlib.Data.List.Lex

/-!
# Text as JavaScript compares and prints it

Strings compare by UTF-16 code unit, integers print in decimal.  Two facts are
wanted of every printer here: it is injective, and it stays injective in
context, so that a record can be read back from the concatenation of its parts.
The context is given by what may follow: a code is *prefix free* when equal
concatenations already agree on the first code word.
-/

namespace Dealership.Library

open List

variable {n : Nat}

/-! ## Prefix-free codes -/

section PrefixFree

variable {α β : Type*}

/-- No code word of `f` is a proper prefix of another, and `f` is injective. -/
def PrefixFree (f : α → List β) : Prop :=
  ∀ a b s t, f a ++ s = f b ++ t → a = b

/-- Concatenating the words of a prefix-free code without empty words loses
nothing. -/
theorem PrefixFree.flatMap_injective {f : α → List β} (hf : PrefixFree f)
    (hne : ∀ a, f a ≠ []) : Function.Injective (List.flatMap f) := by
  intro xs
  induction xs with
  | nil =>
    intro ys h
    cases ys with
    | nil => rfl
    | cons y ys =>
      rw [flatMap_nil, flatMap_cons] at h
      exact absurd (append_eq_nil_iff.mp h.symm).1 (hne y)
  | cons x xs ih =>
    intro ys h
    cases ys with
    | nil =>
      rw [flatMap_nil, flatMap_cons] at h
      exact absurd (append_eq_nil_iff.mp h).1 (hne x)
    | cons y ys =>
      rw [flatMap_cons, flatMap_cons] at h
      obtain rfl := hf x y _ _ h
      rw [ih (append_cancel_left h)]

/-- A sequence of code words is read back up to a stop that starts no word. -/
theorem PrefixFree.flatMap_stop {f : α → List β} (hf : PrefixFree f) (stop : β)
    (hstop : ∀ a r s, f a ++ r ≠ stop :: s) {xs ys : List α} {s t : List β}
    (h : xs.flatMap f ++ stop :: s = ys.flatMap f ++ stop :: t) : xs = ys ∧ s = t := by
  induction xs generalizing ys with
  | nil =>
    cases ys with
    | nil => simpa using h
    | cons y ys =>
      rw [flatMap_nil, nil_append, flatMap_cons, append_assoc] at h
      exact absurd h.symm (hstop y _ _)
  | cons x xs ih =>
    cases ys with
    | nil =>
      rw [flatMap_nil, nil_append, flatMap_cons, append_assoc] at h
      exact absurd h (hstop x _ _)
    | cons y ys =>
      rw [flatMap_cons, flatMap_cons, append_assoc, append_assoc] at h
      obtain rfl := hf x y _ _ h
      obtain ⟨rfl, rfl⟩ := ih (append_cancel_left h)
      exact ⟨rfl, rfl⟩

end PrefixFree

/-! ## UTF-16 order -/

/-- The UTF-16 code units of one character: itself, or a surrogate pair. -/
def utf16Units (c : Char) : List Nat :=
  if c.toNat < 0x10000 then [c.toNat]
  else [0xD800 + (c.toNat - 0x10000) / 0x400, 0xDC00 + (c.toNat - 0x10000) % 0x400]

/-- The code units a JavaScript string consists of. -/
def utf16 (s : String) : List Nat := s.toList.flatMap utf16Units

/-- `a < b` on JavaScript strings: the lexicographic order of code units. -/
def jsLt (a b : String) : Bool := utf16 a < utf16 b

/-- `a <= b` on JavaScript strings. -/
def jsLe (a b : String) : Bool := utf16 a ≤ utf16 b

theorem char_toNat_injective : Function.Injective Char.toNat := fun _ _ h =>
  Char.ext (UInt32.toNat_inj.mp h)

theorem char_toNat_range (c : Char) :
    c.toNat < 0xD800 ∨ 0xDFFF < c.toNat ∧ c.toNat < 0x110000 := c.valid

theorem utf16Units_prefixFree : PrefixFree utf16Units := by
  intro a b s t h
  apply char_toNat_injective
  have ha := char_toNat_range a
  have hb := char_toNat_range b
  unfold utf16Units at h
  -- A first unit below or above the surrogates is a whole character; a high
  -- surrogate is followed by the low one that completes it.
  split at h <;> split at h <;> simp only [cons_append, nil_append, List.cons.injEq] at h <;> omega

theorem utf16_injective : Function.Injective utf16 := by
  intro a b h
  have hne : ∀ c, utf16Units c ≠ [] := by
    intro c
    unfold utf16Units
    split <;> simp
  exact String.toList_injective (utf16Units_prefixFree.flatMap_injective hne h)

/-! ## White space -/

/-- The characters `String.prototype.trim` removes: white space and line terminators. -/
def jsWhitespace (c : Char) : Bool :=
  let n := c.toNat
  (9 ≤ n && n ≤ 13) || n = 0x20 || n = 0xA0 || n = 0x1680 || (0x2000 ≤ n && n ≤ 0x200A) ||
    n = 0x2028 || n = 0x2029 || n = 0x202F || n = 0x205F || n = 0x3000 || n = 0xFEFF

/-- `s.trim().length === 0`. -/
def isBlank (s : String) : Bool := s.toList.all jsWhitespace

/-- `s.trim()`. -/
def trim (cs : List Char) : List Char :=
  ((cs.dropWhile jsWhitespace).reverse.dropWhile jsWhitespace).reverse

/-- `s.trim()`, on texts. -/
def trimText (s : String) : String := String.ofList (trim s.toList)

/-- `s.slice(0, n)`, by code units: a surrogate pair cut in two leaves a code unit
that no encoding keeps. -/
def sliceChars : Nat → List Char → List Char
  | _, [] => []
  | n, c :: cs =>
    if (utf16Units c).length ≤ n then c :: sliceChars (n - (utf16Units c).length) cs
    else if n = 0 then [] else ['\uFFFD']

/-- `s.slice(0, n)`. -/
def slice (n : Nat) (s : String) : String := String.ofList (sliceChars n s.toList)

/-- A parameter of a statement carries every character but NUL. -/
def carried (text : String) : Bool := Char.ofNat 0 ∉ text.toList

/-! ## Decimal integers -/

/-- `toString()` of an integer. -/
def intText (n : Int) : List Char :=
  if n < 0 then '-' :: Nat.toDigits 10 n.natAbs else Nat.toDigits 10 n.natAbs

/-- `padStart(width, '0')`. -/
def padStart (width : Nat) (digits : List Char) : List Char :=
  List.replicate (width - digits.length) '0' ++ digits

theorem toDigits_injective : Function.Injective (Nat.toDigits 10) := fun m n h => by
  rw [← Nat.ofDigitChars_ten_toDigits (n := m), h, Nat.ofDigitChars_ten_toDigits]

theorem isDigit_of_mem_toDigits {c : Char} (h : c ∈ Nat.toDigits 10 n) :
    c.isDigit = true := Nat.isDigit_of_mem_toDigits (by decide) (by decide) h

/-- What may follow a number: nothing that continues it. -/
def NoDigit : List Char → Prop
  | [] => True
  | c :: _ => c.isDigit = false

theorem digits_append_inj {ds es s t : List Char} (hd : ∀ c ∈ ds, c.isDigit = true)
    (he : ∀ c ∈ es, c.isDigit = true) (hs : NoDigit s) (ht : NoDigit t)
    (h : ds ++ s = es ++ t) : ds = es ∧ s = t := by
  induction ds generalizing es with
  | nil =>
    cases es with
    | nil => exact ⟨rfl, h⟩
    | cons e es =>
      rw [nil_append, cons_append] at h
      have hf : e.isDigit = false := by rw [h] at hs; exact hs
      rw [he e mem_cons_self] at hf
      cases hf
  | cons d ds ih =>
    cases es with
    | nil =>
      rw [nil_append, cons_append] at h
      have hf : d.isDigit = false := by rw [← h] at ht; exact ht
      rw [hd d mem_cons_self] at hf
      cases hf
    | cons e es =>
      rw [cons_append, cons_append, List.cons.injEq] at h
      obtain ⟨rfl, h⟩ := h
      obtain ⟨rfl, rfl⟩ := ih (fun c hc => hd c (mem_cons_of_mem _ hc))
        (fun c hc => he c (mem_cons_of_mem _ hc)) h
      exact ⟨rfl, rfl⟩

theorem toDigits_append_inj {m : Nat} {s t : List Char} (hs : NoDigit s) (ht : NoDigit t)
    (h : Nat.toDigits 10 m ++ s = Nat.toDigits 10 n ++ t) : m = n ∧ s = t := by
  obtain ⟨e, rfl⟩ := digits_append_inj (fun _ => isDigit_of_mem_toDigits)
    (fun _ => isDigit_of_mem_toDigits) hs ht h
  exact ⟨toDigits_injective e, rfl⟩

theorem toDigits_append_ne_cons {s t : List Char} {c : Char}
    (hc : c.isDigit = false) : Nat.toDigits 10 n ++ s ≠ c :: t := by
  intro h
  cases hd : Nat.toDigits 10 n with
  | nil => exact Nat.toDigits_ne_nil hd
  | cons d ds =>
    rw [hd, cons_append, List.cons.injEq] at h
    have hdig := isDigit_of_mem_toDigits (n := n) (c := d) (by rw [hd]; exact mem_cons_self)
    rw [h.1, hc] at hdig
    cases hdig

/-- A decimal integer is read back from whatever it is followed by. -/
theorem intText_append_inj {m n : Int} {s t : List Char} (hs : NoDigit s) (ht : NoDigit t)
    (h : intText m ++ s = intText n ++ t) : m = n ∧ s = t := by
  unfold intText at h
  split at h <;> split at h
  · rw [cons_append, cons_append, List.cons.injEq] at h
    obtain ⟨e, rfl⟩ := toDigits_append_inj hs ht h.2
    exact ⟨by omega, rfl⟩
  · exact absurd h.symm (toDigits_append_ne_cons (by decide))
  · exact absurd h (toDigits_append_ne_cons (by decide))
  · obtain ⟨e, rfl⟩ := toDigits_append_inj hs ht h
    exact ⟨by omega, rfl⟩

theorem intText_injective : Function.Injective intText := fun m n h =>
  (intText_append_inj (s := []) (t := []) trivial trivial (by rw [h])).1

end Dealership.Library
