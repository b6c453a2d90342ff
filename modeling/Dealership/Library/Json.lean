import Dealership.Library.Text

/-!
# JSON trees and their compact text

The text a JSON tree prints to, without white space, determines the tree.  The
argument is unique readability: a value is read back from its text followed by
anything that cannot continue it, the first character says which of the six
forms it has, and each form brings its own terminator.

Members of an object are kept in the order they are printed; whoever prints a
record decides the order of its keys.
-/

namespace Dealership.Library

open List

/-- A JSON tree over whole numbers. -/
inductive Json where
  | null
  | bool (b : Bool)
  | number (n : Int)
  | string (s : String)
  | array (xs : List Json)
  | object (es : List (String × Json))

/-! ## String literals -/

/-- The one-letter escapes of a string literal. -/
def shortEscape : Char → Option Char
  | '"' => some '"'
  | '\\' => some '\\'
  | '\x08' => some 'b'
  | '\x0c' => some 'f'
  | '\n' => some 'n'
  | '\r' => some 'r'
  | '\t' => some 't'
  | _ => none

/-- What a string literal writes for one character. -/
def escapeChar (c : Char) : List Char :=
  match shortEscape c with
  | some e => ['\\', e]
  | none =>
    if c.toNat < 0x20 then
      ['\\', 'u', '0', '0', Nat.digitChar (c.toNat / 16), Nat.digitChar (c.toNat % 16)]
    else [c]

/-- `JSON.stringify` of a string. -/
def quote (s : String) : List Char := '"' :: (s.toList.flatMap escapeChar ++ ['"'])

/-- What a one-letter escape stands for. -/
def shortUnescape : Char → Char
  | 'b' => '\x08'
  | 'f' => '\x0c'
  | 'n' => '\n'
  | 'r' => '\r'
  | 't' => '\t'
  | c => c

theorem shortUnescape_of_shortEscape {c e : Char} (h : shortEscape c = some e) :
    shortUnescape e = c ∧ e ≠ 'u' := by
  unfold shortEscape at h
  split at h <;> cases h <;> decide

theorem shortEscape_of_eq_none {c : Char} (h : shortEscape c = none) : c ≠ '\\' ∧ c ≠ '"' := by
  constructor <;> rintro rfl <;> simp [shortEscape] at h

theorem digitChar_inj : ∀ m < 16, ∀ n < 16, Nat.digitChar m = Nat.digitChar n → m = n := by
  decide

theorem escapeChar_cases (c : Char) :
    (∃ e, shortEscape c = some e ∧ escapeChar c = ['\\', e]) ∨
    (c.toNat < 0x20 ∧ escapeChar c =
      ['\\', 'u', '0', '0', Nat.digitChar (c.toNat / 16), Nat.digitChar (c.toNat % 16)]) ∨
    (shortEscape c = none ∧ escapeChar c = [c]) := by
  cases h : shortEscape c with
  | some e => exact .inl ⟨e, rfl, by simp [escapeChar, h]⟩
  | none =>
    by_cases hc : c.toNat < 0x20
    · exact .inr (.inl ⟨hc, by simp [escapeChar, h, hc]⟩)
    · exact .inr (.inr ⟨rfl, by simp [escapeChar, h, hc]⟩)

theorem escapeChar_prefixFree : PrefixFree escapeChar := by
  intro a b s t h
  rcases escapeChar_cases a with ⟨e, ha, ea⟩ | ⟨ha, ea⟩ | ⟨ha, ea⟩ <;>
    rcases escapeChar_cases b with ⟨e', hb, eb⟩ | ⟨hb, eb⟩ | ⟨hb, eb⟩ <;>
    simp only [ea, eb, cons_append, nil_append, List.cons.injEq, true_and] at h
  · rw [← (shortUnescape_of_shortEscape ha).1, h.1, (shortUnescape_of_shortEscape hb).1]
  · exact absurd h.1 (shortUnescape_of_shortEscape ha).2
  · exact absurd h.1.symm (shortEscape_of_eq_none hb).1
  · exact absurd h.1.symm (shortUnescape_of_shortEscape hb).2
  · have h₁ := digitChar_inj _ (by omega) _ (by omega) h.1
    have h₂ := digitChar_inj _ (by omega) _ (by omega) h.2.1
    exact char_toNat_injective (by omega)
  · exact absurd h.1.symm (shortEscape_of_eq_none hb).1
  · exact absurd h.1 (shortEscape_of_eq_none ha).1
  · exact absurd h.1 (shortEscape_of_eq_none ha).1
  · exact h.1

theorem escapeChar_ne_quote (c : Char) (r s : List Char) : escapeChar c ++ r ≠ '"' :: s := by
  rcases escapeChar_cases c with ⟨e, -, ec⟩ | ⟨-, ec⟩ | ⟨hc, ec⟩
  · simp [ec]
  · simp [ec]
  · simp only [ec, cons_append, ne_eq, List.cons.injEq, not_and]
    exact fun h => absurd h (shortEscape_of_eq_none hc).2

theorem quote_append_inj {a b : String} {s t : List Char} (h : quote a ++ s = quote b ++ t) :
    a = b ∧ s = t := by
  simp only [quote, cons_append, append_assoc, nil_append, List.cons.injEq, true_and] at h
  obtain ⟨e, rfl⟩ := escapeChar_prefixFree.flatMap_stop '"' escapeChar_ne_quote h
  exact ⟨String.toList_injective e, rfl⟩

/-! ## Comma-separated sequences -/

section Join

variable {α : Type*}

/-- `join(',')`. -/
def commaJoin (ts : List (List Char)) : List Char := [','].intercalate ts

@[simp] theorem commaJoin_nil : commaJoin [] = [] := rfl

@[simp] theorem commaJoin_cons (t : List Char) (ts : List (List Char)) :
    commaJoin (t :: ts) = t ++ ts.flatMap (',' :: ·) := by
  induction ts generalizing t with
  | nil => simp [commaJoin, List.intercalate]
  | cons u us ih =>
    have h : commaJoin (t :: u :: us) = t ++ ',' :: commaJoin (u :: us) := by
      simp [commaJoin, List.intercalate]
    rw [h, ih]
    simp

/-- The items after the first, each behind its comma, up to the terminator. -/
theorem commaTail_inj {f : α → List Char} {close : Char} (hclose : close ≠ ',')
    (hdig : close.isDigit = false) {xs : List α}
    (hf : ∀ x ∈ xs, ∀ y s t, NoDigit s → NoDigit t → f x ++ s = f y ++ t → x = y ∧ s = t) :
    ∀ {ys : List α} {s t : List Char},
      xs.flatMap (fun x => ',' :: f x) ++ close :: s =
        ys.flatMap (fun x => ',' :: f x) ++ close :: t → xs = ys ∧ s = t := by
  induction xs with
  | nil =>
    intro ys s t h
    cases ys with
    | nil => simpa using h
    | cons y ys =>
      simp only [flatMap_nil, nil_append, flatMap_cons, cons_append, List.cons.injEq] at h
      exact absurd h.1 hclose
  | cons x xs ih =>
    intro ys s t h
    cases ys with
    | nil =>
      simp only [flatMap_nil, nil_append, flatMap_cons, cons_append, List.cons.injEq] at h
      exact absurd h.1.symm hclose
    | cons y ys =>
      -- What follows an item is a comma or the terminator.
      have hstop : ∀ (zs : List α) (r : List Char),
          NoDigit (zs.flatMap (fun x => ',' :: f x) ++ close :: r) := by
        intro zs r
        cases zs with
        | nil => exact hdig
        | cons z zs => exact (by decide : (',').isDigit = false)
      simp only [flatMap_cons, cons_append, append_assoc, List.cons.injEq, true_and] at h
      obtain ⟨rfl, hrest⟩ := hf x mem_cons_self y _ _ (hstop _ _) (hstop _ _) h
      obtain ⟨rfl, rfl⟩ := ih (fun x hx => hf x (mem_cons_of_mem _ hx)) hrest
      exact ⟨rfl, rfl⟩

/-- A bracketed, comma-separated sequence is read back item by item. -/
theorem commaJoin_inj {f : α → List Char} {close : Char} (hclose : close ≠ ',')
    (hdig : close.isDigit = false) (hne : ∀ x s t, f x ++ s ≠ close :: t) {xs : List α}
    (hf : ∀ x ∈ xs, ∀ y s t, NoDigit s → NoDigit t → f x ++ s = f y ++ t → x = y ∧ s = t)
    {ys : List α} {s t : List Char}
    (h : commaJoin (xs.map f) ++ close :: s = commaJoin (ys.map f) ++ close :: t) :
    xs = ys ∧ s = t := by
  cases xs with
  | nil =>
    cases ys with
    | nil => simpa using h
    | cons y ys =>
      simp only [map_nil, commaJoin_nil, nil_append, map_cons, commaJoin_cons, append_assoc] at h
      exact absurd h.symm (hne _ _ _)
  | cons x xs =>
    cases ys with
    | nil =>
      simp only [map_nil, commaJoin_nil, nil_append, map_cons, commaJoin_cons, append_assoc] at h
      exact absurd h (hne _ _ _)
    | cons y ys =>
      have hcomma : ',' :: (commaJoin ((x :: xs).map f) ++ close :: s) =
          ',' :: (commaJoin ((y :: ys).map f) ++ close :: t) := by rw [h]
      simp only [map_cons, commaJoin_cons, flatMap_map] at hcomma
      exact commaTail_inj hclose hdig hf (show _ = (y :: ys).flatMap _ ++ _ by
        simpa using hcomma)

end Join

/-! ## Values -/

namespace Json

mutual

/-- The compact text of a tree. -/
def print : Json → List Char
  | null => ['n', 'u', 'l', 'l']
  | bool true => ['t', 'r', 'u', 'e']
  | bool false => ['f', 'a', 'l', 's', 'e']
  | number n => intText n
  | string s => quote s
  | array xs => '[' :: (commaJoin (printAll xs) ++ [']'])
  | object es => '{' :: (commaJoin (printMembers es) ++ ['}'])

def printAll : List Json → List (List Char)
  | [] => []
  | x :: xs => print x :: printAll xs

def printMembers : List (String × Json) → List (List Char)
  | [] => []
  | (k, v) :: es => (quote k ++ ':' :: print v) :: printMembers es

end

def printMember (e : String × Json) : List Char := quote e.1 ++ ':' :: print e.2

@[simp] theorem printAll_eq_map (xs : List Json) : printAll xs = xs.map print := by
  induction xs with
  | nil => rfl
  | cons x xs ih => rw [printAll, ih, map_cons]

@[simp] theorem printMembers_eq_map (es : List (String × Json)) :
    printMembers es = es.map printMember := by
  induction es with
  | nil => rfl
  | cons e es ih => rw [printMembers, ih, map_cons, printMember]

/-! ## Indented text -/

/-- The lines of a block between its brackets, each indented by `depth + 2`. -/
def block (depth : Nat) (lines : List (List Char)) : List Char :=
  let margin := fun n => '\n' :: List.replicate n ' '
  commaJoin (lines.map fun line => margin (depth + 2) ++ line) ++ margin depth

mutual

/-- `JSON.stringify(tree, null, 2)`, inside a block of the given depth. -/
def pretty (depth : Nat) : Json → List Char
  | array (x :: xs) => '[' :: (block depth (prettyAll depth (x :: xs)) ++ [']'])
  | object (e :: es) => '{' :: (block depth (prettyMembers depth (e :: es)) ++ ['}'])
  | tree => print tree

def prettyAll (depth : Nat) : List Json → List (List Char)
  | [] => []
  | x :: xs => pretty (depth + 2) x :: prettyAll depth xs

def prettyMembers (depth : Nat) : List (String × Json) → List (List Char)
  | [] => []
  | (k, v) :: es => (quote k ++ ':' :: ' ' :: pretty (depth + 2) v) :: prettyMembers depth es

end

/-! ## Reading a tree back -/

/-- Which of the six forms a tree has. -/
def form : Json → Nat
  | null => 0
  | bool _ => 1
  | number _ => 2
  | string _ => 3
  | array _ => 4
  | object _ => 5

/-- The form a text announces by its first character. -/
def announced : List Char → Nat
  | 'n' :: _ => 0
  | 't' :: _ => 1
  | 'f' :: _ => 1
  | '"' :: _ => 3
  | '[' :: _ => 4
  | '{' :: _ => 5
  | _ => 2

theorem announced_digit {c : Char} (hc : c.isDigit = true) (s : List Char) :
    announced (c :: s) = 2 := by
  unfold announced
  split <;> first | rfl | (rename_i h; cases h; cases hc)

theorem announced_intText (n : Int) (s : List Char) : announced (intText n ++ s) = 2 := by
  unfold intText
  split
  · rfl
  cases hd : Nat.toDigits 10 n.natAbs with
  | nil => exact absurd hd Nat.toDigits_ne_nil
  | cons d ds =>
    exact announced_digit
      (isDigit_of_mem_toDigits (n := n.natAbs) (by rw [hd]; exact mem_cons_self)) _

/-- The first character of a value's text says which form the value has. -/
theorem announced_print (a : Json) (s : List Char) : announced (print a ++ s) = a.form := by
  cases a with
  | null => rfl
  | bool b => cases b <;> rfl
  | number n => exact announced_intText n s
  | string s => rfl
  | array xs => rfl
  | object es => rfl

theorem print_ne_close (a : Json) (s t : List Char) : print a ++ s ≠ ']' :: t := by
  intro h
  have hform : a.form = 2 := by rw [← announced_print a s, h]; rfl
  cases a with
  | number n =>
    rw [print, intText] at h
    split at h
    · cases h
    · exact toDigits_append_ne_cons (by decide) h
  | null | bool | string | array | object => cases hform

theorem printMember_ne_close (e : String × Json) (s t : List Char) :
    printMember e ++ s ≠ '}' :: t := by
  intro h
  cases h

/-- Unique readability: equal texts, each followed by something that cannot
continue a number, come from equal values. -/
theorem print_append_inj (a b : Json) {s t : List Char} (hs : NoDigit s) (ht : NoDigit t)
    (h : print a ++ s = print b ++ t) : a = b ∧ s = t := by
  have hform : a.form = b.form := by
    rw [← announced_print a s, h, announced_print]
  match a, b with
  | null, null => exact ⟨rfl, append_cancel_left h⟩
  | bool x, bool y =>
    cases x <;> cases y
    · exact ⟨rfl, append_cancel_left h⟩
    · cases h
    · cases h
    · exact ⟨rfl, append_cancel_left h⟩
  | number m, number n =>
    obtain ⟨rfl, rfl⟩ := intText_append_inj hs ht h
    exact ⟨rfl, rfl⟩
  | string x, string y =>
    obtain ⟨rfl, rfl⟩ := quote_append_inj h
    exact ⟨rfl, rfl⟩
  | array xs, array ys =>
    simp only [print, printAll_eq_map, cons_append, append_assoc, nil_append,
      List.cons.injEq, true_and] at h
    obtain ⟨rfl, rfl⟩ := commaJoin_inj (by decide) (by decide) print_ne_close
      (fun x hx y _ _ hs ht h => print_append_inj x y hs ht h) h
    exact ⟨rfl, rfl⟩
  | object es, object fs =>
    simp only [print, printMembers_eq_map, cons_append, append_assoc,
      nil_append, List.cons.injEq, true_and] at h
    obtain ⟨rfl, rfl⟩ := commaJoin_inj (by decide) (by decide)
      printMember_ne_close
      (fun e he f s t hs ht h => by
        rw [printMember, printMember, append_assoc, append_assoc] at h
        obtain ⟨hk, h⟩ := quote_append_inj h
        rw [cons_append, cons_append, List.cons.injEq] at h
        obtain ⟨hv, rfl⟩ := print_append_inj e.2 f.2 hs ht h.2
        exact ⟨Prod.ext hk hv, rfl⟩) h
    exact ⟨rfl, rfl⟩
termination_by sizeOf a
decreasing_by
  · have := sizeOf_lt_of_mem hx
    simp only [array.sizeOf_spec]
    omega
  · have := sizeOf_lt_of_mem he
    obtain ⟨k, v⟩ := e
    simp only [Prod.mk.sizeOf_spec, object.sizeOf_spec] at *
    omega

theorem print_injective : Function.Injective print := fun a b h =>
  (print_append_inj a b (s := []) (t := []) trivial trivial (by rw [h])).1

end Json

end Dealership.Library
