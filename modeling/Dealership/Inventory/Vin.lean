import Dealership.Crm.Contacts

/-!
# Vehicle identification numbers

What a VIN is, not what a vehicle is.  Formatting is removed and letters are upper
case; the shape is enforced, and the check digit is reported, never enforced.
-/

namespace Dealership.Inventory

open Library
open Crm (Casing)

/-- The transliteration the standard defines: I, O and Q are absent by design. -/
def letterValues : List (Char × Nat) :=
  [('A', 1), ('B', 2), ('C', 3), ('D', 4), ('E', 5), ('F', 6), ('G', 7), ('H', 8), ('J', 1),
    ('K', 2), ('L', 3), ('M', 4), ('N', 5), ('P', 7), ('R', 9), ('S', 2), ('T', 3), ('U', 4),
    ('V', 5), ('W', 6), ('X', 7), ('Y', 8), ('Z', 9)]

/-- Positional weights, most significant first. -/
def weights : List Nat := [8, 7, 6, 5, 4, 3, 2, 10, 0, 9, 8, 7, 6, 5, 4, 3, 2]

/-- The model-year codes at position ten, in the cycle of thirty years. -/
def yearCodes : List Char := "ABCDEFGHJKLMNPRSTVWXY123456789".toList

def vinLength : Nat := 17

/-- `[A-HJ-NPR-Z0-9]`. -/
def vinCharacter (c : Char) : Bool :=
  ('A' ≤ c && c ≤ 'H') || ('J' ≤ c && c ≤ 'N') || c = 'P' || ('R' ≤ c && c ≤ 'Z') ||
    ('0' ≤ c && c ≤ '9')

inductive VinRejection where
  | empty | wrong_length | illegal_character | excluded_letter
deriving DecidableEq

structure VinNormalization where
  vin : Option String
  rejection : Option VinRejection
  checkDigitValid : Bool
  modelYear : Option Int
  wmi : Option String
deriving DecidableEq

/-- Hyphens and white space removed, upper case. -/
def normalizeVinInput (casing : Casing) (raw : String) : String :=
  casing.upper (String.ofList (raw.toList.filter fun c => ¬ jsWhitespace c && c ≠ '-'))

/-- What a character weighs, before its position does. -/
def vinValue (c : Char) : Option Nat :=
  if '0' ≤ c ∧ c ≤ '9' then some (c.toNat - '0'.toNat) else letterValues.lookup c

/-- The check character for the first eight and last eight positions. -/
def vinCheckCharacter (vin : List Char) : Option Char :=
  ((vin.zip weights).foldlM (fun total p => (vinValue p.1).map fun value => total + value * p.2)
    0).map fun total => if total % 11 = 10 then 'X' else Nat.digitChar (total % 11)

/-- The tenth character as a year of the cycle that ends at `referenceYear + 1`; the
remainder has the sign of the dividend. -/
def vinModelYear (vin : List Char) (referenceYear : Int) : Option Int :=
  (vin[9]?.bind fun c => yearCodes.idxOf? c).map fun index =>
    let latest := referenceYear + 1
    latest - (latest - (1980 + (index : Int))).tmod 30

/-- Normalize, judge the shape, and report what can be read off.  `none` is an input
that is no text. -/
def normalizeVin (casing : Casing) (raw : Option String) (referenceYear : Int) :
    VinNormalization :=
  let rejected := fun rejection => VinNormalization.mk none (some rejection) false none none
  match raw with
  | none => rejected .empty
  | some raw =>
    let candidate := normalizeVinInput casing raw
    let cs := candidate.toList
    if isBlank raw then rejected .empty
    else if (utf16 candidate).length ≠ vinLength then rejected .wrong_length
    else if cs.any fun c => c = 'I' || c = 'O' || c = 'Q' then rejected .excluded_letter
    else if ¬ cs.all vinCharacter then rejected .illegal_character
    else
      { vin := some candidate
        rejection := none
        checkDigitValid := vinCheckCharacter cs = cs[8]?
        modelYear := vinModelYear cs referenceYear
        wmi := some (slice 3 candidate) }

/-- A human-readable reason. -/
def describeVinRejection : VinRejection → String
  | .empty => "a VIN is required"
  | .wrong_length =>
    "a VIN is " ++ toString vinLength ++ " characters once spaces and hyphens are removed"
  | .excluded_letter => "the letters I, O and Q are not VIN characters — check for 1 and 0"
  | .illegal_character => "a VIN contains only letters and digits"

example : normalizeVin .ascii (some "1hgbh41jxmn-109186") 2026 =
    ⟨some "1HGBH41JXMN109186", none, true, some 2021, some "1HG"⟩ := by
  decide +kernel

end Dealership.Inventory
