import Dealership.Crm.Schema
import Mathlib.Data.List.DropRight
import Mathlib.Data.List.Sort

/-!
# Customers and their contact details

A contact value has one normal form, which is what is stored, compared and
suppressed.  Whether a customer is already known is decided under an advisory lock
on the normal form, because the row that would have to be locked is the one that
does not exist yet.
-/

namespace Dealership.Crm

open Library List

/-! ## Normal forms -/

/-- Digits, with an optional leading `+`. -/
def normalizePhone (raw : Option String) : Option String :=
  raw.bind fun raw =>
    let trimmed := trim raw.toList
    let digits := trimmed.filter Char.isDigit
    if trimmed = [] then none
    else if digits.length < 7 ∨ 15 < digits.length then none
    else some (String.ofList ((if trimmed.head? = some '+' then ['+'] else []) ++ digits))

def normalizeEmail (casing : Casing) (raw : Option String) : Option String :=
  raw.bind fun raw =>
    let trimmed := casing.lower (trimText raw)
    if (utf16 trimmed).length < 3 ∨ 320 < (utf16 trimmed).length ∨ '@' ∉ trimmed.toList then none
    else some trimmed

/-! ### Over ASCII -/

theorem trim_trim (cs : List Char) : trim (trim cs) = trim cs := by
  have htrim : trim cs = (cs.dropWhile jsWhitespace).rdropWhile jsWhitespace := rfl
  have hfront : (trim cs).dropWhile jsWhitespace = trim cs := by
    rw [dropWhile_eq_self_iff, htrim]
    intro hpos
    have hstart := rdropWhile_prefix jsWhitespace (cs.dropWhile jsWhitespace)
    have hlen := lt_of_lt_of_le hpos hstart.length_le
    rw [hstart.getElem hpos]
    exact dropWhile_eq_self_iff.mp (dropWhile_idempotent _ _) hlen
  calc trim (trim cs) = ((trim cs).dropWhile jsWhitespace).rdropWhile jsWhitespace := rfl
    _ = trim cs := by rw [hfront, htrim, rdropWhile_idempotent]

/-- A change of case that leaves white space alone commutes with trimming. -/
theorem trim_map {f : Char → Char} (hf : ∀ c, jsWhitespace (f c) = jsWhitespace c)
    (cs : List Char) : trim (cs.map f) = (trim cs).map f := by
  have hcomp : jsWhitespace ∘ f = jsWhitespace := funext hf
  simp only [trim, dropWhile_map, hcomp, ← map_reverse]

/-- Lower-casing leaves a character alone or moves it from one ASCII alphabet to the
other. -/
theorem toLower_cases (c : Char) :
    c.toLower = c ∧ ¬ (65 ≤ c.toNat ∧ c.toNat ≤ 90) ∨
      c.toLower.toNat = c.toNat + 32 ∧ 65 ≤ c.toNat ∧ c.toNat ≤ 90 := by
  unfold Char.toLower
  split
  · rename_i h
    right
    have hrange : 65 ≤ c.toNat ∧ c.toNat ≤ 90 := by
      simpa [UInt32.le_iff_toNat_le, Char.toNat_val] using h
    refine ⟨?_, hrange⟩
    have hsum : (c.val + 32).toNat = (c.val.toNat + 32) % 4294967296 := UInt32.toNat_add _ _
    rw [Nat.mod_eq_of_lt (by rw [Char.toNat_val]; omega), Char.toNat_val] at hsum
    exact hsum
  · rename_i h
    left
    grind [Char.toNat_val, UInt32.le_iff_toNat_le]

theorem toLower_toLower (c : Char) : c.toLower.toLower = c.toLower := by
  rcases toLower_cases c with ⟨h, -⟩ | ⟨h, hlo, hhi⟩
  · rw [h, h]
  · rcases toLower_cases c.toLower with ⟨h', -⟩ | ⟨-, -, hhi'⟩
    · exact h'
    · omega

theorem jsWhitespace_toLower (c : Char) : jsWhitespace c.toLower = jsWhitespace c := by
  rcases toLower_cases c with ⟨h, -⟩ | ⟨h, hlo, hhi⟩
  · rw [h]
  · have hupper : jsWhitespace c = false := by
      simp only [jsWhitespace, Bool.or_eq_false_iff, Bool.and_eq_false_iff, decide_eq_false_iff_not]
      omega
    rw [hupper]
    simp only [jsWhitespace, Bool.or_eq_false_iff, Bool.and_eq_false_iff, decide_eq_false_iff_not]
    omega

def Casing.ascii : Casing where
  lower := fun s => String.ofList (s.toList.map Char.toLower)
  upper := fun s => String.ofList (s.toList.map Char.toUpper)
  sqlLower := fun s => String.ofList (s.toList.map Char.toLower)
  lower_lower := by
    intro s
    have hcomp : Char.toLower ∘ Char.toLower = Char.toLower := funext toLower_toLower
    rw [String.toList_ofList, map_map, hcomp]
  trim_lower := by
    intro s
    simp only [trimText, String.toList_ofList]
    rw [trim_map jsWhitespace_toLower, trim_trim]

/-! ## The collision decision -/

/-- What is told of a customer. -/
structure PartyDetails where
  displayName : Option String
  givenName : Option String
  familyName : Option String
  organizationName : Option String
  email : Option String
  phone : Option String

/-- The name shown to staff. -/
def partyDisplayName (partyType : PartyType) (d : PartyDetails) : Option String :=
  let named := fun (name : Option String) =>
    let trimmed := trimText (name.getD "")
    if trimmed = "" then none else some (slice 200 trimmed)
  match named d.displayName, partyType with
  | some name, _ => some name
  | none, .organization => named d.organizationName
  | none, .person =>
    named (some (" ".intercalate (([d.givenName.getD "", d.familyName.getD ""].map trimText).filter
      fun part => part ≠ "")))

/-- The active parties that carry one of these contact values. -/
def identifyingCollisions (casing : Casing) (email phone excluded : Option String)
    (db : Pipeline) : List Party :=
  if email = none ∧ phone = none then []
  else
    ((db.parties.filter fun p =>
      p.status = .active && excluded.all (fun id => p.party_id ≠ id) &&
        ((email.isSome && p.email.map casing.sqlLower = email) ||
          (phone.isSome && p.phone = phone))).insertionSort
      fun p q => p.party_id ≤ q.party_id).take 25

def lockAll : List Lock → Work Unit
  | [] => pure ()
  | k :: ks => do
    Script.selectLocking (fun _ => [k]) fun _ => ()
    lockAll ks

/-- The keys of `lockContactDecision`, which are in order as they stand. -/
def contactKeys (email phone : Option String) : List Lock :=
  (email.toList.map fun email => .advisory ("party-contact:email:" ++ email)) ++
    phone.toList.map fun phone => .advisory ("party-contact:phone:" ++ phone)

inductive PartyCreateOutcome where
  | created (party : Party)
  | duplicate (candidates : List Party)
  | invalid (error : String)

/-- The `CHECK`s of `parties` on the columns a create fills. -/
def Party.accepted (p : Party) : Bool :=
  let within := fun (n : Nat) (s : String) => decide (1 ≤ s.length ∧ s.length ≤ n)
  within 200 p.display_name && p.given_name.all (within 100) && p.family_name.all (within 100) &&
    p.organization_name.all (within 200) &&
    p.email.all (fun e => decide (3 ≤ e.length ∧ e.length ≤ 320 ∧ '@' ∈ e.toList)) &&
    decide ((p.party_type = .organization) = (p.organization_name.isSome = true))

/-- `uq_parties_unshared_email`, `uq_parties_unshared_phone` and the primary key. -/
def Party.clashes (casing : Casing) (p : Party) (db : Pipeline) : Bool :=
  db.parties.any fun q =>
    q.party_id = p.party_id ||
      (q.status = .active && ¬ q.contact_sharing_override && ¬ p.contact_sharing_override &&
        ((p.email.isSome && q.email.map casing.sqlLower = p.email.map casing.sqlLower) ||
          (p.phone.isSome && q.phone = p.phone)))

/-- The entries of the unique indexes a new party is written into. -/
def Party.entries (casing : Casing) (p : Party) : List Lock :=
  .index "parties_pkey" p.party_id ::
    if p.contact_sharing_override then []
    else (p.email.toList.map fun e => .index "uq_parties_unshared_email" (casing.sqlLower e)) ++
      p.phone.toList.map fun n => .index "uq_parties_unshared_phone" n

/-- `INSERT INTO parties` in its savepoint: `none` is the unique violation. -/
def insertParty (casing : Casing) (p : Party) : Work (Option Party) :=
  .statement (fun _ => p.entries casing)
    (fun v db => if p.clashes casing v then db else { db with parties := db.parties ++ [p] })
    fun v =>
      if p.clashes casing v then .commit none
      else if p.accepted then .commit (some p)
      else .raise (.database "parties_check")

/-- Creates a party inside the caller's transaction. -/
def createPartyWithin (casing : Casing) (w : CrmWorld) (actingUserLinkId : String)
    (partyType : PartyType) (d : PartyDetails) (allowDuplicate : Bool) :
    Work PartyCreateOutcome :=
  match partyDisplayName partyType d with
  | none =>
    pure (.invalid (match partyType with
      | .organization => "an organization needs a name"
      | .person => "a person needs a given or family name"))
  | some displayName =>
    let email := normalizeEmail casing d.email
    let phone := normalizePhone d.phone
    if d.email.any (fun e => ¬ isBlank e) ∧ email = none then
      pure (.invalid "the email address is not usable")
    else if d.phone.any (fun n => ¬ isBlank n) ∧ phone = none then
      pure (.invalid "the phone number is not usable")
    else do
      let _ ← actorWithin w actingUserLinkId
      lockAll (contactKeys email phone)
      let collisions ← Script.select (identifyingCollisions casing email phone none)
      if collisions ≠ [] ∧ ¬ allowDuplicate then pure (.duplicate collisions)
      else
        let written ← insertParty casing
          { party_id := w.newPartyId
            party_type := partyType
            display_name := displayName
            given_name := d.givenName
            family_name := d.familyName
            organization_name :=
              if partyType = .organization then d.organizationName.or (some displayName) else none
            email
            phone
            status := .active
            contact_sharing_override := collisions ≠ []
            authorization_version := 1 }
        match written with
        | some party => pure (.created party)
        | none =>
          let candidates ← Script.select (identifyingCollisions casing email phone none)
          pure (.duplicate candidates)

end Dealership.Crm
