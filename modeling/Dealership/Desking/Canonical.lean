import Dealership.Library.Calendar
import Dealership.Library.Json
import Dealership.Library.Pick
import Dealership.Library.Sha256

/-!
# The canonical text of a value

`canonicalize` writes a value with the keys of every object sorted; a
fingerprint is the SHA-256 digest of that text.  The text is the compact JSON of
the value with bigints and dates as strings, so two records with the same keys
and the same text agree in every member.
-/

namespace Dealership.Desking

open Library List

variable {β : Type}

/-- The values that have a canonical form.  A member of an object may be
`undefined`. -/
inductive Value where
  | null
  | bool (b : Bool)
  | number (n : Int)
  | string (s : String)
  | bigint (n : Int)
  | date (ms : Int)
  | array (xs : List Value)
  | object (es : List (String × Option Value))

/-- `sort(([a], [b]) => (a < b ? -1 : a > b ? 1 : 0))`. -/
def sortByKey {β : Type} (es : List (String × β)) : List (String × β) :=
  es.insertionSort fun a b => jsLe a.1 b.1

mutual

/-- The canonical text: object keys sorted, bigints as decimal strings, members
that are `undefined` left out. -/
def canonicalize : Value → List Char
  | .null => ['n', 'u', 'l', 'l']
  | .bigint n => '"' :: (intText n ++ ['"'])
  | .number n => intText n
  | .string s => quote s
  | .bool true => ['t', 'r', 'u', 'e']
  | .bool false => ['f', 'a', 'l', 's', 'e']
  | .date ms => quote (toISOString ms)
  | .array xs => '[' :: (commaJoin (canonicalizeAll xs) ++ [']'])
  | .object es =>
    '{' :: (commaJoin ((sortByKey (canonicalizeEntries es)).map fun e =>
      quote e.1 ++ ':' :: e.2) ++ ['}'])

def canonicalizeAll : List Value → List (List Char)
  | [] => []
  | x :: xs => canonicalize x :: canonicalizeAll xs

/-- The defined members with the texts of their values; the order is decided by
the keys alone. -/
def canonicalizeEntries : List (String × Option Value) → List (String × List Char)
  | [] => []
  | (_, none) :: es => canonicalizeEntries es
  | (k, some v) :: es => (k, canonicalize v) :: canonicalizeEntries es

end

def fingerprint (value : Value) : String := Sha256.hexText (canonicalize value)

/-! ## The text determines the value -/

namespace Value

mutual

/-- The JSON tree a value is written as. -/
def toJson : Value → Json
  | .null => .null
  | .bool b => .bool b
  | .number n => .number n
  | .string s => .string s
  | .bigint n => .string (String.ofList (intText n))
  | .date ms => .string (toISOString ms)
  | .array xs => .array (toJsonAll xs)
  | .object es => .object (sortByKey (toJsonEntries es))

def toJsonAll : List Value → List Json
  | [] => []
  | x :: xs => toJson x :: toJsonAll xs

def toJsonEntries : List (String × Option Value) → List (String × Json)
  | [] => []
  | (_, none) :: es => toJsonEntries es
  | (k, some v) :: es => (k, toJson v) :: toJsonEntries es

end

end Value

theorem sortByKey_perm (es : List (String × β)) : (sortByKey es).Perm es := by
  rw [sortByKey]
  exact perm_insertionSort _ es

theorem sortByKey_map {γ : Type} (f : β → γ) (es : List (String × β)) :
    sortByKey (es.map fun e => (e.1, f e.2)) = (sortByKey es).map fun e => (e.1, f e.2) := by
  rw [sortByKey, sortByKey]
  refine (map_insertionSort _ _ _ es ?_).symm
  intro a _ b _
  exact Iff.rfl

/-- Decimal digits and the sign need no escape. -/
theorem quote_intText (n : Int) : quote (String.ofList (intText n)) = '"' :: (intText n ++ ['"']) := by
  have hesc : ∀ c ∈ intText n, escapeChar c = [c] := by
    have hdig : ∀ c : Char, c.isDigit = true → escapeChar c = [c] := by
      intro c hc
      have hrange : 48 ≤ c.toNat ∧ c.toNat ≤ 57 := Char.isDigit_iff_toNat.mp hc
      rcases escapeChar_cases c with ⟨e, he, -⟩ | ⟨hlt, -⟩ | ⟨-, h⟩
      · unfold shortEscape at he
        split at he <;> cases he <;> exact absurd hc (by decide)
      · omega
      · exact h
    intro c hc
    unfold intText at hc
    split at hc
    · rcases mem_cons.mp hc with rfl | hc
      · decide
      · exact hdig c (isDigit_of_mem_toDigits hc)
    · exact hdig c (isDigit_of_mem_toDigits hc)
  have hflat : (intText n).flatMap escapeChar = intText n := by
    rw [flatMap_def, map_congr_left hesc, ← flatMap_def, flatMap_singleton']
  rw [quote, String.toList_ofList, hflat]

mutual

theorem canonicalize_eq_print (v : Value) : canonicalize v = v.toJson.print := by
  cases v with
  | null => rfl
  | bool b => cases b <;> rfl
  | number n => rfl
  | string s => rfl
  | bigint n => rw [canonicalize, Value.toJson, Json.print, quote_intText]
  | date ms => rfl
  | array xs => rw [canonicalize, Value.toJson, Json.print, canonicalizeAll_eq_print]
  | object es =>
    rw [canonicalize, Value.toJson, Json.print, canonicalizeEntries_eq_print, sortByKey_map,
      map_map, Json.printMembers_eq_map]
    rfl

theorem canonicalizeAll_eq_print (xs : List Value) :
    canonicalizeAll xs = Json.printAll (Value.toJsonAll xs) := by
  cases xs with
  | nil => rfl
  | cons x xs =>
    rw [canonicalizeAll, Value.toJsonAll, Json.printAll, canonicalize_eq_print x,
      canonicalizeAll_eq_print xs]

theorem canonicalizeEntries_eq_print (es : List (String × Option Value)) :
    canonicalizeEntries es = (Value.toJsonEntries es).map fun e => (e.1, e.2.print) := by
  match es with
  | [] => rfl
  | (_, none) :: es =>
    rw [canonicalizeEntries, Value.toJsonEntries, canonicalizeEntries_eq_print es]
  | (k, some v) :: es =>
    rw [canonicalizeEntries, Value.toJsonEntries, map_cons, canonicalize_eq_print v,
      canonicalizeEntries_eq_print es]

end

theorem toJson_eq_of_canonicalize_eq {v w : Value} (h : canonicalize v = canonicalize w) :
    v.toJson = w.toJson := by
  rw [canonicalize_eq_print, canonicalize_eq_print] at h
  exact Json.print_injective h

theorem eq_of_perm_of_keys {es fs : List (String × β)} (hk : es.map Prod.fst = fs.map Prod.fst)
    (hn : (es.map Prod.fst).Nodup) (hp : es.Perm fs) :
    es = fs := by
  induction es generalizing fs with
  | nil => exact (perm_nil.mp hp.symm).symm
  | cons e es ih =>
    cases fs with
    | nil => cases hk
    | cons f fs =>
      have hmem : e ∈ f :: fs := hp.mem_iff.mp mem_cons_self
      have hef : e = f := by
        rw [map_cons, map_cons, List.cons.injEq] at hk
        rcases mem_cons.mp hmem with h | h
        · exact h
        · rw [map_cons, nodup_cons, hk.2] at hn
          exact absurd (mem_map_of_mem (f := Prod.fst) h) hn.1
      subst hef
      rw [map_cons, map_cons, List.cons.injEq] at hk
      rw [map_cons, nodup_cons] at hn
      rw [ih hk.2 hn.2 (hp.cons_inv)]

def Value.record (es : List (String × Value)) : Value := .object (es.map fun e => (e.1, some e.2))

theorem toJsonEntries_record (es : List (String × Value)) :
    Value.toJsonEntries (es.map fun e => (e.1, some e.2)) = es.map fun e => (e.1, e.2.toJson) := by
  induction es with
  | nil => rfl
  | cons e es ih => rw [map_cons, Value.toJsonEntries, ih, map_cons]

theorem record_members_eq {es fs : List (String × Value)}
    (hk : es.map Prod.fst = fs.map Prod.fst) (hn : (es.map Prod.fst).Nodup)
    (h : canonicalize (.record es) = canonicalize (.record fs)) :
    es.map (fun e => (e.1, e.2.toJson)) = fs.map fun e => (e.1, e.2.toJson) := by
  have hj := toJson_eq_of_canonicalize_eq h
  simp only [Value.record, Value.toJson, toJsonEntries_record, Json.object.injEq] at hj
  refine eq_of_perm_of_keys ?_ ?_ ?_
  · rw [map_map, map_map]
    exact hk
  · rw [map_map]
    exact hn
  · exact (sortByKey_perm _).symm.trans (hj ▸ sortByKey_perm _)

end Dealership.Desking
