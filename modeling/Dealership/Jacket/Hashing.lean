import Dealership.Desking.Canonical
import Dealership.Transaction

/-!
# Digests, tokens and the simulated provider

Everything the jacket calls evidence is a SHA-256 digest over bytes it can name:
a rendered document is the digest of its content, a package the digest of its
documents' digests in order, a signature the digest of exactly what was signed
and by whom.  A signer's token is stored only as its digest.
-/

namespace Dealership.Jacket

open Library List

/-- `[0-9a-f]`. -/
def isHexDigit (c : Char) : Bool := c.isDigit || ('a' ≤ c && c ≤ 'f')

/-- `^[0-9a-f]{64}$`. -/
def isSha256Hex (s : String) : Bool := s.toList.length = 64 && s.toList.all isHexDigit

/-- A text of the form of a digest, which is what the columns for digests hold. -/
structure Digest where
  text : String
  isHex : isSha256Hex text = true
deriving DecidableEq

theorem isHexDigit_digitChar : ∀ d < 16, isHexDigit (Nat.digitChar d) = true := by decide

theorem hexWord_isHex (n : Nat) :
    (Sha256.hexWord n).length = 8 ∧ ∀ c ∈ Sha256.hexWord n, isHexDigit c = true := by
  rw [Sha256.hexWord, Sha256.strict_eq]
  refine ⟨by simp, ?_⟩
  intro c hc
  obtain ⟨i, -, rfl⟩ := mem_map.mp hc
  exact isHexDigit_digitChar _ (Nat.mod_lt _ (by decide))

/-- A digest is eight words of eight hexadecimal digits. -/
theorem isSha256Hex_hexText (cs : List Char) : isSha256Hex (Sha256.hexText cs) = true := by
  rw [Sha256.hexText, Sha256.hex, isSha256Hex]
  have hw := hexWord_isHex
  simp only [String.toList_ofList, length_append, all_append, (hw _).1, Bool.and_eq_true,
    all_eq_true, decide_eq_true_eq]
  exact ⟨trivial, ⟨⟨⟨⟨⟨⟨(hw _).2, (hw _).2⟩, (hw _).2⟩, (hw _).2⟩, (hw _).2⟩, (hw _).2⟩, (hw _).2⟩,
    (hw _).2⟩

/-- The digest of a text, through its UTF-8 bytes. -/
def sha256Hex (cs : List Char) : Digest := ⟨Sha256.hexText cs, isSha256Hex_hexText cs⟩

def digestOf (value : Desking.Value) : Digest := sha256Hex (Desking.canonicalize value)

/-- The digest of the ordered list of document digests.  The check that each of
them is a digest is the type of the list. -/
def packageHashOf (documentDigests : List Digest) : Digest :=
  sha256Hex ("\n".intercalate (documentDigests.map (·.text))).toList

/-- What the database holds instead of the token. -/
def tokenDigest (token : String) : Digest := sha256Hex token.toList

/-- True when two hex digests are equal: on texts of the form of a digest,
comparing the bytes they stand for is comparing the texts. -/
def digestsEqual (a b : String) : Bool := isSha256Hex a && isSha256Hex b && a = b

theorem digestsEqual_self (d : Digest) : digestsEqual d.text d.text = true := by
  simp [digestsEqual, d.isHex]

/-- `[A-Za-z0-9_-]`. -/
def isTokenChar (c : Char) : Bool := c.isAlphanum || c = '_' || c = '-'

/-- The random part of a lane token, when the token has the form
`<tenant id>.<random part>`. -/
def splitLaneToken (value : String) : Option (String × String) :=
  let tenantId := value.toList.takeWhile fun c => c ≠ '.'
  let rest := value.toList.dropWhile fun c => c ≠ '.'
  match rest with
  | [] => none
  | _ :: token =>
    if isUuid (String.ofList tenantId) && 32 ≤ token.length && token.length ≤ 64 &&
        token.all isTokenChar then
      some (String.ofList (tenantId.map Char.toLower), String.ofList token)
    else none

/-! ## The simulated e-sign provider -/

/-- `'ENV-' + sha256Hex(…).slice(0, 16).toUpperCase()`. -/
def simulatedEnvelopeRef (tenantId ceremonyId : String) : String :=
  "ENV-" ++ String.ofList
    (((sha256Hex (tenantId ++ ":" ++ ceremonyId).toList).text.toList.take 16).map Char.toUpper)

/-- `/^(bounce|invalid|no-such-mailbox)@/i`. -/
def undeliverable (address : List Char) : Bool :=
  ["bounce@", "invalid@", "no-such-mailbox@"].any fun mailbox =>
    mailbox.toList.isPrefixOf (address.map Char.toLower)

/-- Whether the simulator delivers an invitation to a contact. -/
def deliversTo (contactValue : Option String) : Bool :=
  let value := trim (contactValue.getD "").toList
  !value.isEmpty && !undeliverable value

end Dealership.Jacket
