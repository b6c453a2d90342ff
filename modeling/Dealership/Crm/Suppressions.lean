import Dealership.Crm.Contacts

/-!
# Permission to write

A suppression is keyed on the contact value and not on the person, so an opt-out
reaches a customer through the normal form of what was typed.  Which spellings of
a phone number have one normal form is stated below and is exact: a plus is
looked for in front of everything but white space, while the other marks are
dropped.
-/

namespace Dealership.Crm

open Library List

variable {raw : String}

/-! ## Consents and suppressions -/

inductive SuppressionKind where
  | email | phone
deriving DecidableEq

inductive SuppressionReason where
  | unsubscribe | complaint | bounce | do_not_contact | manual
deriving DecidableEq

inductive SuppressionState where
  | active | lifted
deriving DecidableEq

inductive ConsentChannel where
  | email | sms | phone | postal
deriving DecidableEq

inductive ConsentPurpose where
  | sales_marketing | service_reminder | transactional | research
deriving DecidableEq

inductive ConsentState where
  | granted | withdrawn | unknown
deriving DecidableEq

/-- A row of `party_purpose_consents`. -/
structure PurposeConsent where
  party_id : String
  channel : ConsentChannel
  purpose : ConsentPurpose
  state : ConsentState
deriving DecidableEq

/-- A row of `contact_suppressions`. -/
structure Suppression where
  suppression_id : String
  contact_kind : SuppressionKind
  contact_value : String
  reason : SuppressionReason
  party_id : Option String
  state : SuppressionState
  created_by_user_link_id : String
  created_at : Int
  authorization_version : Nat
deriving DecidableEq

/-- The rows a permission is read from. -/
structure Permissions where
  parties : List Party
  party_purpose_consents : List PurposeConsent
  contact_suppressions : List Suppression
deriving DecidableEq

inductive SendChannel where
  | email | sms

def SendChannel.consent : SendChannel → ConsentChannel
  | .email => .email
  | .sms => .sms

/-- The channel a campaign sends on, mapped to the contact column it uses. -/
def contactKindForChannel : SendChannel → SuppressionKind
  | .email => .email
  | .sms => .phone

/-- The same normalization `parties` applies. -/
def normalizeContact (casing : Casing) (kind : SuppressionKind) (raw : Option String) :
    Option String :=
  match kind with
  | .email => normalizeEmail casing raw
  | .phone => normalizePhone raw

def Permissions.suppression (db : Permissions) (kind : SuppressionKind) (value : String) :
    Option Suppression :=
  db.contact_suppressions.find? fun s =>
    s.contact_kind = kind && s.contact_value = value && s.state = .active

/-- The consent on a channel for a purpose; nothing on file is nothing known. -/
def Permissions.consent (db : Permissions) (partyId : String) (channel : ConsentChannel)
    (purpose : ConsentPurpose) : ConsentState :=
  ((db.party_purpose_consents.find? fun c =>
    c.party_id = partyId && c.channel = channel && c.purpose = purpose).map (·.state)).getD .unknown

inductive Ineligibility where
  | no_contact_value | consent_not_granted | suppressed_contact | party_inactive

inductive SendEligibility where
  | eligible (contactValue : String)
  | ineligible (reason : Ineligibility)

/-- May this person be contacted, on this channel, for this purpose, right now? -/
def sendEligibility (casing : Casing) (db : Permissions) (partyId : String)
    (channel : SendChannel) (purpose : ConsentPurpose) : SendEligibility :=
  let kind := contactKindForChannel channel
  match db.parties.find? fun p => p.party_id = partyId with
  | none => .ineligible .no_contact_value
  | some row =>
    if row.status ≠ .active then .ineligible .party_inactive
    else
      let raw := match kind with
        | .email => row.email
        | .phone => row.phone
      match normalizeContact casing kind raw with
      | none => .ineligible .no_contact_value
      | some contactValue =>
        if db.consent partyId channel.consent purpose ≠ .granted then
          .ineligible .consent_not_granted
        else if (db.suppression kind contactValue).isSome then
          .ineligible .suppressed_contact
        else .eligible contactValue

structure SuppressInput where
  actingUserLinkId : String
  contactKind : SuppressionKind
  contactValue : String
  reason : SuppressionReason
  partyId : Option String

inductive SuppressOutcome where
  | suppressed (suppression : Suppression)
  | already_suppressed (suppression : Suppression)
  | invalid (error : String)
deriving DecidableEq

/-- The `CHECK` of `contact_suppressions.contact_value`. -/
def contactValueColumn (value : String) : Bool := 3 ≤ value.length && value.length ≤ 320

/-- `INSERT INTO contact_suppressions`. -/
def insertSuppression (written : Suppression) (db : Permissions) : Except Raise Permissions := do
  ensure (contactValueColumn written.contact_value) "contact_suppressions_contact_value_check"
  ensure (db.contact_suppressions.all fun s => s.suppression_id ≠ written.suppression_id)
    "contact_suppressions_pkey"
  ensure (written.party_id.all fun id => db.parties.any fun p => p.party_id = id)
    "contact_suppressions_party_fkey"
  pure { db with contact_suppressions := db.contact_suppressions ++ [written] }

/-- Adds a contact value to the suppression list; a repeat opt-out converges on the first. -/
def suppressContactWithin (casing : Casing) (access : Access) (now : Int) (newId : String)
    (input : SuppressInput) (db : Permissions) : Except Raise (SuppressOutcome × Permissions) :=
  match normalizeContact casing input.contactKind (some input.contactValue) with
  | none => pure (.invalid "that contact value is not usable", db)
  | some value => do
    let actor ← requireActor access input.actingUserLinkId
    match db.suppression input.contactKind value with
    | some existing => pure (.already_suppressed existing, db)
    | none => do
      let written : Suppression := {
        suppression_id := newId
        contact_kind := input.contactKind
        contact_value := value
        reason := input.reason
        party_id := input.partyId
        state := .active
        created_by_user_link_id := actor
        created_at := now
        authorization_version := 1 }
      let db ← insertSuppression written db
      pure (.suppressed written, db)

/-! ## E-mail -/

/-- The `CHECK` of `parties.email`. -/
def emailColumn (e : String) : Bool := contactValueColumn e && '@' ∈ e.toList

/-- An `@` beside one character that takes two code units. -/
def Stunted (casing : Casing) (raw : String) : Prop :=
  (casing.lower (trimText raw)).length = 2 ∧ '@' ∈ (casing.lower (trimText raw)).toList ∧
    2 < (utf16 (casing.lower (trimText raw))).length

instance (casing : Casing) (raw : String) : Decidable (Stunted casing raw) :=
  inferInstanceAs (Decidable (_ ∧ _ ∧ _))

theorem length_le_utf16 (s : String) :
    s.length ≤ (utf16 s).length ∧ (utf16 s).length ≤ 2 * s.length := by
  have hchars : ∀ cs : List Char, cs.length ≤ (cs.flatMap utf16Units).length ∧
      (cs.flatMap utf16Units).length ≤ 2 * cs.length := by
    intro cs
    induction cs with
    | nil => exact ⟨Nat.le_refl 0, Nat.le_refl 0⟩
    | cons c cs ih =>
      have hunits : (utf16Units c).length = 1 ∨ (utf16Units c).length = 2 := by
        unfold utf16Units
        split
        · exact .inl rfl
        · exact .inr rfl
      rw [flatMap_cons, length_append, length_cons]
      omega
  rw [← String.length_toList]
  exact hchars s.toList

theorem normalizeEmail_fixed {casing : Casing} {e : String}
    (h : normalizeEmail casing (some raw) = some e) :
    normalizeEmail casing (some e) = some e := by
  simp only [normalizeEmail, Option.bind_some] at h ⊢
  split at h
  · cases h
  · next hlong =>
      cases h
      rw [casing.trim_lower, casing.lower_lower, if_neg hlong]

/-- The column takes every normal form but an `@` beside one astral character. -/
theorem emailColumn_iff {casing : Casing} :
    (∀ e, normalizeEmail casing (some raw) = some e →
      normalizeEmail casing (some e) = some e ∧ emailColumn e = true ∧
        contactValueColumn e = true) ↔ ¬ Stunted casing raw := by
  obtain ⟨hlow, hhigh⟩ := length_le_utf16 (casing.lower (trimText raw))
  constructor
  · rintro h ⟨htwo, hat, hunits⟩
    have hnormal : normalizeEmail casing (some raw) = some (casing.lower (trimText raw)) := by
      simp only [normalizeEmail, Option.bind_some]
      refine if_neg fun hshort => ?_
      rcases hshort with hshort | hlong | hnone
      · omega
      · omega
      · exact hnone hat
    have hcolumn := (h _ hnormal).2.2
    rw [contactValueColumn, htwo] at hcolumn
    exact absurd hcolumn (by decide)
  · intro hstunted e he
    have hfixed := normalizeEmail_fixed he
    simp only [normalizeEmail, Option.bind_some] at he
    split at he
    · cases he
    · next hlong =>
        cases he
        push Not at hlong
        obtain ⟨hthree, hmany, hat⟩ := hlong
        have hlength : 3 ≤ (casing.lower (trimText raw)).length := by
          by_contra hshort
          exact hstunted ⟨by omega, hat, by omega⟩
        have hvalue : contactValueColumn (casing.lower (trimText raw)) = true := by
          rw [contactValueColumn, Bool.and_eq_true, decide_eq_true_eq, decide_eq_true_eq]
          exact ⟨hlength, hlow.trans hmany⟩
        exact ⟨hfixed, by rw [emailColumn, hvalue, decide_eq_true hat, Bool.and_true], hvalue⟩

/-! ## Telephone numbers -/

def phoneDigits (raw : String) : List Char := raw.toList.filter Char.isDigit

/-- The first character that is a digit or a plus is a plus. -/
def leadsWithPlus (raw : String) : Bool :=
  (raw.toList.find? fun c => c.isDigit || c = '+') = some '+'

/-- A plus is the first character but for white space. -/
def startsWithPlus (raw : String) : Bool := (trim raw.toList).head? = some '+'

/-- There are as many digits as a number has. -/
def usable (raw : String) : Bool := 7 ≤ (phoneDigits raw).length && (phoneDigits raw).length ≤ 15

/-- A plus leads the digits, and another mark stands in front of it. -/
def Buried (raw : String) : Prop :=
  usable raw = true ∧ leadsWithPlus raw = true ∧ startsWithPlus raw = false

instance (raw : String) : Decidable (Buried raw) := inferInstanceAs (Decidable (_ ∧ _ ∧ _))

/-- The `CHECK` of `parties.phone`. -/
def phoneColumn (n : String) : Bool :=
  let digits := if n.toList.head? = some '+' then n.toList.tail else n.toList
  digits.all Char.isDigit && 7 ≤ digits.length && digits.length ≤ 15

/-- The normal form of digits. -/
def phoneOf (plus : Bool) (digits : List Char) : String :=
  String.ofList ((if plus then ['+'] else []) ++ digits)

section Noise

variable {p : Char → Bool} (hp : ∀ c, jsWhitespace c = true → p c = false)

include hp

theorem filter_dropWhile_noise (cs : List Char) :
    (cs.dropWhile jsWhitespace).filter p = cs.filter p := by
  induction cs with
  | nil => rfl
  | cons c cs ih =>
    by_cases hc : jsWhitespace c = true
    · rw [dropWhile_cons_of_pos hc, ih, filter_cons_of_neg]
      rw [hp c hc]
      exact Bool.false_ne_true
    · rw [dropWhile_cons_of_neg hc]

theorem filter_trim (cs : List Char) : (trim cs).filter p = cs.filter p := by
  rw [trim, filter_reverse, filter_dropWhile_noise hp, ← filter_reverse,
    reverse_reverse, filter_dropWhile_noise hp]

end Noise

theorem isDigit_not_whitespace (c : Char) (h : jsWhitespace c = true) : c.isDigit = false := by
  refine Bool.eq_false_iff.mpr fun hdigit => ?_
  have hrange : 48 ≤ c.toNat ∧ c.toNat ≤ 57 := by
    simpa [Char.isDigit, UInt32.le_iff_toNat_le, Char.toNat_val] using hdigit
  simp only [jsWhitespace, Bool.or_eq_true, Bool.and_eq_true, decide_eq_true_eq] at h
  omega

theorem trim_eq_self {cs : List Char} (h : ∀ c ∈ cs, jsWhitespace c = false) : trim cs = cs := by
  have hdrop : ∀ l : List Char, (∀ c ∈ l, jsWhitespace c = false) →
      l.dropWhile jsWhitespace = l := by
    intro l hl
    cases l with
    | nil => rfl
    | cons c l =>
      refine dropWhile_cons_of_neg ?_
      rw [hl c mem_cons_self]
      exact Bool.false_ne_true
  rw [trim, hdrop cs h, hdrop cs.reverse fun c hc => h c (mem_reverse.mp hc), reverse_reverse]

/-- A plus in front of everything but white space leads the digits. -/
theorem leadsWithPlus_of_starts (h : startsWithPlus raw = true) :
    leadsWithPlus raw = true := by
  have hnoise : ∀ c, jsWhitespace c = true → (c.isDigit || decide (c = '+')) = false := by
    intro c hc
    rw [isDigit_not_whitespace c hc, Bool.false_or, decide_eq_false_iff_not]
    rintro rfl
    exact absurd hc (by decide)
  obtain ⟨rest, hrest⟩ := head?_eq_some_iff.mp (of_decide_eq_true h)
  rw [leadsWithPlus, decide_eq_true_eq, ← head?_filter, ← filter_trim hnoise, hrest,
    filter_cons_of_pos (by decide), head?_cons]

theorem normalizePhone_some (raw : String) : normalizePhone (some raw) =
    if usable raw then some (phoneOf (startsWithPlus raw) (phoneDigits raw)) else none := by
  have hdigits : (trim raw.toList).filter Char.isDigit = phoneDigits raw :=
    filter_trim isDigit_not_whitespace raw.toList
  simp only [normalizePhone, Option.bind_some, hdigits]
  by_cases hblank : trim raw.toList = []
  · rw [hblank] at hdigits
    rw [if_pos hblank, if_neg]
    rw [usable, ← hdigits]
    decide
  · rw [if_neg hblank]
    have husable : usable raw = true ↔
        ¬ ((phoneDigits raw).length < 7 ∨ 15 < (phoneDigits raw).length) := by
      simp only [usable, Bool.and_eq_true, decide_eq_true_eq]
      omega
    by_cases hfew : (phoneDigits raw).length < 7 ∨ 15 < (phoneDigits raw).length
    · rw [if_pos hfew, if_neg fun h => husable.mp h hfew]
    · rw [if_neg hfew, if_pos (husable.mpr hfew)]
      simp only [phoneOf, startsWithPlus, decide_eq_true_eq]

section Normal

variable (plus : Bool) {digits : List Char} (hdigits : ∀ c ∈ digits, c.isDigit = true)

include hdigits

theorem phoneDigits_phoneOf : phoneDigits (phoneOf plus digits) = digits := by
  rw [phoneDigits, phoneOf, String.toList_ofList, filter_append, filter_eq_self.mpr hdigits]
  cases plus with
  | false => rfl
  | true => rfl

theorem head?_phoneOf : (phoneOf plus digits).toList.head? = some '+' ↔ plus = true := by
  rw [phoneOf, String.toList_ofList]
  cases plus with
  | true => exact ⟨fun _ => rfl, fun _ => rfl⟩
  | false =>
    constructor
    · intro h
      exact absurd (hdigits '+' (mem_of_head? h)) (by decide)
    · intro h
      cases h

theorem startsWithPlus_phoneOf : startsWithPlus (phoneOf plus digits) = plus := by
  have hblank : ∀ c ∈ (phoneOf plus digits).toList, jsWhitespace c = false := by
    intro c hc
    refine Bool.eq_false_iff.mpr fun hwhite => ?_
    rw [phoneOf, String.toList_ofList, mem_append] at hc
    rcases hc with hc | hc
    · split at hc
      · rw [mem_singleton.mp hc] at hwhite
        exact absurd hwhite (by decide)
      · cases hc
    · exact absurd (hdigits c hc) (Bool.eq_false_iff.mp (isDigit_not_whitespace c hwhite))
  rw [startsWithPlus, trim_eq_self hblank, Bool.eq_iff_iff, decide_eq_true_eq,
    head?_phoneOf plus hdigits]

theorem phoneOf_columns (hfew : 7 ≤ digits.length) (hmany : digits.length ≤ 15) :
    phoneColumn (phoneOf plus digits) = true ∧ contactValueColumn (phoneOf plus digits) = true := by
  have hall : digits.all Char.isDigit = true := all_eq_true.mpr hdigits
  have hsign := head?_phoneOf plus hdigits
  simp only [phoneColumn, contactValueColumn, hsign, Bool.and_eq_true, decide_eq_true_eq,
    ← String.length_toList]
  rw [phoneOf, String.toList_ofList, length_append]
  cases plus with
  | true => exact ⟨⟨⟨hall, hfew⟩, hmany⟩, by simp only [if_true, length_singleton]; omega⟩
  | false =>
    exact ⟨⟨⟨hall, hfew⟩, hmany⟩, by simp only [if_neg Bool.false_ne_true, length_nil]; omega⟩

end Normal

theorem normalizePhone_fixed {n : String} (h : normalizePhone (some raw) = some n) :
    normalizePhone (some n) = some n ∧ phoneColumn n = true ∧ contactValueColumn n = true := by
  have hdigits : ∀ c ∈ phoneDigits raw, c.isDigit = true := fun c hc => (mem_filter.mp hc).2
  rw [normalizePhone_some] at h
  split at h
  · next husable =>
      cases h
      have hstill : usable (phoneOf (startsWithPlus raw) (phoneDigits raw)) = true := by
        rw [usable, phoneDigits_phoneOf _ hdigits]
        exact husable
      rw [usable, Bool.and_eq_true, decide_eq_true_eq, decide_eq_true_eq] at husable
      refine ⟨?_, phoneOf_columns _ hdigits husable.1 husable.2⟩
      rw [normalizePhone_some, if_pos hstill, phoneDigits_phoneOf _ hdigits,
        startsWithPlus_phoneOf _ hdigits]
  · cases h

/-- Two spellings of a number have one normal form exactly when a plus is buried in both or
in neither. -/
theorem normalizePhone_eq_iff {r s : String} (hdigits : phoneDigits r = phoneDigits s)
    (hlead : leadsWithPlus r = leadsWithPlus s) :
    normalizePhone (some r) = normalizePhone (some s) ↔ (Buried r ↔ Buried s) := by
  have husable : usable r = usable s := by rw [usable, usable, hdigits]
  have hall : ∀ c ∈ phoneDigits s, c.isDigit = true := fun c hc => (mem_filter.mp hc).2
  have hplus : phoneOf (startsWithPlus r) (phoneDigits s) = phoneOf (startsWithPlus s)
      (phoneDigits s) ↔ startsWithPlus r = startsWithPlus s := by
    constructor
    · intro h
      rw [← startsWithPlus_phoneOf (startsWithPlus r) hall, h, startsWithPlus_phoneOf _ hall]
    · intro h
      rw [h]
  rw [normalizePhone_some, normalizePhone_some, husable, hdigits, Buried, Buried, husable, hlead]
  by_cases hs : usable s = true
  · rw [if_pos hs, if_pos hs, Option.some.injEq, hplus]
    cases hl : leadsWithPlus s with
    | true =>
      rw [hs]
      cases startsWithPlus r <;> cases startsWithPlus s <;> decide
    | false =>
      have hr := mt leadsWithPlus_of_starts (Bool.eq_false_iff.mp (hlead.trans hl))
      have hs' := mt leadsWithPlus_of_starts (Bool.eq_false_iff.mp hl)
      simp only [Bool.eq_false_iff.mpr hr, Bool.eq_false_iff.mpr hs', Bool.false_eq_true,
        false_and, and_false]
  · rw [if_neg hs, if_neg hs]
    exact iff_of_true rfl ⟨fun h => absurd h.1 hs, fun h => absurd h.1 hs⟩

/-! ## Matching -/

/-- The number that is spelled here has opted out. -/
def Permissions.OptedOut (db : Permissions) (raw : String) : Prop :=
  ∃ n, normalizePhone (some raw) = some n ∧ (db.suppression .phone n).isSome = true

section Suppressed

variable {casing : Casing} {access : Access} {now : Int} {newId : String} {db db' : Permissions}
  {out : SuppressOutcome} {reason : SuppressionReason} {party : Option String}

theorem suppression_after {input : SuppressInput} {value other : String}
    (h : suppressContactWithin casing access now newId input db = .ok (out, db'))
    (hvalue : normalizeContact casing input.contactKind (some input.contactValue) = some value) :
    (db'.suppression input.contactKind other).isSome = true ↔
      (db.suppression input.contactKind other).isSome = true ∨ value = other := by
  unfold suppressContactWithin at h
  rw [hvalue] at h
  obtain ⟨actor, -, h⟩ := bind_eq_ok.mp h
  split at h
  · next existing hexisting =>
      cases h
      refine (or_iff_left_of_imp ?_).symm
      rintro rfl
      rw [hexisting]
      rfl
  · obtain ⟨after, hinsert, h⟩ := bind_eq_ok.mp h
    cases h
    obtain ⟨-, -, hinsert⟩ := bind_eq_ok.mp hinsert
    obtain ⟨-, -, hinsert⟩ := bind_eq_ok.mp hinsert
    obtain ⟨-, -, hinsert⟩ := bind_eq_ok.mp hinsert
    cases hinsert
    rw [Permissions.suppression, find?_append, Option.isSome_or, Bool.or_eq_true]
    simp only [find?_singleton, decide_true, Bool.true_and, Bool.and_true, decide_eq_true_eq]
    refine or_congr Iff.rfl ?_
    split
    · next heq => exact iff_of_true rfl heq
    · next hne => exact iff_of_false Bool.false_ne_true hne

theorem optedOut_after {r s actor : String} (hdigits : phoneDigits r = phoneDigits s)
    (hlead : leadsWithPlus r = leadsWithPlus s) (husable : usable r = true)
    (h : suppressContactWithin casing access now newId ⟨actor, .phone, r, reason, party⟩ db =
      .ok (out, db')) : db'.OptedOut s ↔ db.OptedOut s ∨ (Buried r ↔ Buried s) := by
  have hr : normalizePhone (some r) = some (phoneOf (startsWithPlus r) (phoneDigits r)) := by
    rw [normalizePhone_some, if_pos husable]
  have hs : normalizePhone (some s) = some (phoneOf (startsWithPlus s) (phoneDigits s)) := by
    rw [normalizePhone_some, if_pos]
    rw [usable, ← hdigits]
    exact husable
  have hsame := normalizePhone_eq_iff hdigits hlead
  rw [hr, hs, Option.some.injEq] at hsame
  simp only [Permissions.OptedOut, hs, Option.some.injEq, exists_eq_left', ← hsame]
  exact suppression_after h hr

theorem requireActor_of_suppresses {r actor : String} (husable : usable r = true)
    (h : suppressContactWithin casing access now newId ⟨actor, .phone, r, reason, party⟩ db =
      .ok (out, db')) : requireActor access actor = .ok actor := by
  simp only [suppressContactWithin, normalizeContact, normalizePhone_some, if_pos husable] at h
  obtain ⟨found, hfound, -⟩ := bind_eq_ok.mp h
  rw [hfound, requireActor_eq_ok hfound]

theorem already_suppressed_iff {s actor : String} (hactor : requireActor access actor = .ok actor) :
    (∃ view, suppressContactWithin casing access now newId ⟨actor, .phone, s, reason, party⟩ db =
      .ok (.already_suppressed view, db)) ↔ db.OptedOut s := by
  constructor
  · rintro ⟨view, h⟩
    cases hvalue : normalizePhone (some s) with
    | none =>
      simp only [suppressContactWithin, normalizeContact, hvalue] at h
      cases h
    | some value =>
      simp only [suppressContactWithin, normalizeContact, hvalue] at h
      obtain ⟨found, -, h⟩ := bind_eq_ok.mp h
      split at h
      · next existing hexisting =>
          exact ⟨value, hvalue, Option.isSome_iff_exists.mpr ⟨existing, hexisting⟩⟩
      · obtain ⟨after, -, h⟩ := bind_eq_ok.mp h
        cases h
  · rintro ⟨value, hvalue, hout⟩
    obtain ⟨existing, hexisting⟩ := Option.isSome_iff_exists.mp hout
    refine ⟨existing, ?_⟩
    simp only [suppressContactWithin, normalizeContact, hvalue, hexisting]
    exact bind_eq_ok.mpr ⟨actor, hactor, rfl⟩

/-- A customer who agreed is not written to exactly when the number on file has opted out. -/
theorem sendEligibility_iff {s : String} {p : Party} {purpose : ConsentPurpose}
    (hfound : db.parties.find? (fun q => q.party_id = p.party_id) = some p)
    (hstatus : p.status = .active) (hphone : p.phone = normalizePhone (some s))
    (husable : usable s = true) (hgranted : db.consent p.party_id .sms purpose = .granted) :
    sendEligibility casing db p.party_id .sms purpose = .ineligible .suppressed_contact ↔
      db.OptedOut s := by
  have hs : normalizePhone (some s) = some (phoneOf (startsWithPlus s) (phoneDigits s)) := by
    rw [normalizePhone_some, if_pos husable]
  have hfixed := (normalizePhone_fixed hs).1
  have hanswer : sendEligibility casing db p.party_id .sms purpose =
      if (db.suppression .phone (phoneOf (startsWithPlus s) (phoneDigits s))).isSome then
        .ineligible .suppressed_contact
      else .eligible (phoneOf (startsWithPlus s) (phoneDigits s)) := by
    simp only [sendEligibility, contactKindForChannel, hfound, hstatus, hphone, hs,
      normalizeContact, hfixed, SendChannel.consent, hgranted, ne_eq, not_true_eq_false, if_false]
    rfl
  rw [hanswer, ite_eq_left_iff, Permissions.OptedOut]
  simp only [hs, Option.some.injEq, exists_eq_left']
  exact ⟨fun h => by_contra fun hout => SendEligibility.noConfusion (h hout),
    fun hout h => absurd hout h⟩

end Suppressed

/-- A customer with a telephone. -/
def reachable (phone : String) : Party where
  party_id := "0c000000-0000-4000-8000-000000000001"
  party_type := .person
  display_name := "Ada Lovelace"
  given_name := some "Ada"
  family_name := some "Lovelace"
  organization_name := none
  email := none
  phone := some phone
  status := .active
  contact_sharing_override := false
  authorization_version := 1

theorem collisions_reachable (casing : Casing) (v n : String) :
    identifyingCollisions casing none (some n) none (.quiet [reachable v] [] [] []) =
      if v = n then [reachable v] else [] := by
  rw [identifyingCollisions, if_neg (by rintro ⟨-, h⟩; cases h)]
  by_cases h : v = n
  · simp [Pipeline.quiet, reachable, h]
  · simp [Pipeline.quiet, reachable, h]

/-- Duplicates are told apart by the normal form. -/
theorem collisions_iff (casing : Casing) {v : String} {m : Option String} (h : m.isSome = true) :
    (∀ excluded db, identifyingCollisions casing none (some v) excluded db =
      identifyingCollisions casing none m excluded db) ↔ some v = m := by
  constructor
  · intro hall
    obtain ⟨n, rfl⟩ := Option.isSome_iff_exists.mp h
    have hcollide := hall none (.quiet [reachable v] [] [] [])
    rw [collisions_reachable, collisions_reachable, if_pos rfl] at hcollide
    by_contra hne
    rw [if_neg fun heq => hne (congrArg some heq)] at hcollide
    cases hcollide
  · rintro rfl excluded db
    rfl

/-- A contact value has one normal form, the columns take it, and what was recorded under one
spelling of a number is found under another, except where a plus is buried behind another
mark in one of the two; an `@` beside one astral character is no address the columns take. -/
theorem contact_normalization (casing : Casing) :
    (∀ raw, (∀ e, normalizeEmail casing (some raw) = some e →
      normalizeEmail casing (some e) = some e ∧ emailColumn e = true ∧
        contactValueColumn e = true) ↔ ¬ Stunted casing raw) ∧
    (∀ raw n, normalizePhone (some raw) = some n →
      normalizePhone (some n) = some n ∧ phoneColumn n = true ∧ contactValueColumn n = true) ∧
    ∀ r s, phoneDigits r = phoneDigits s → leadsWithPlus r = leadsWithPlus s →
      (normalizePhone (some r) = normalizePhone (some s) ↔ (Buried r ↔ Buried s)) ∧
      ((∀ excluded db, identifyingCollisions casing none (normalizePhone (some r)) excluded db =
        identifyingCollisions casing none (normalizePhone (some s)) excluded db) ↔
          (Buried r ↔ Buried s)) ∧
      ∀ access now newId actor reason party db out db', usable r = true →
        suppressContactWithin casing access now newId ⟨actor, .phone, r, reason, party⟩ db =
          .ok (out, db') →
        ((∃ view, suppressContactWithin casing access now newId
            ⟨actor, .phone, s, reason, party⟩ db' = .ok (.already_suppressed view, db')) ↔
          db.OptedOut s ∨ (Buried r ↔ Buried s)) ∧
        ∀ p purpose, db'.parties.find? (fun q => q.party_id = p.party_id) = some p →
          p.status = .active → p.phone = normalizePhone (some s) →
          db'.consent p.party_id .sms purpose = .granted →
          (sendEligibility casing db' p.party_id .sms purpose = .ineligible .suppressed_contact ↔
            db.OptedOut s ∨ (Buried r ↔ Buried s)) := by
  refine ⟨fun raw => emailColumn_iff, fun raw n => normalizePhone_fixed, ?_⟩
  intro r s hdigits hlead
  have hsame := normalizePhone_eq_iff hdigits hlead
  have husable : usable r = usable s := by rw [usable, usable, hdigits]
  refine ⟨hsame, ?_, ?_⟩
  · rw [← hsame]
    by_cases hr : usable r = true
    · have hnormal : (normalizePhone (some s)).isSome = true := by
        rw [normalizePhone_some, if_pos (husable.symm.trans hr)]
        rfl
      rw [normalizePhone_some r, if_pos hr]
      exact collisions_iff casing hnormal
    · rw [normalizePhone_some, normalizePhone_some, if_neg hr, if_neg (husable ▸ hr)]
      exact iff_of_true (fun _ _ => rfl) rfl
  · intro access now newId actor reason party db out db' hr h
    have hafter := optedOut_after hdigits hlead hr h
    refine ⟨(already_suppressed_iff (requireActor_of_suppresses hr h)).trans hafter, ?_⟩
    intro p purpose hfound hstatus hphone hgranted
    exact (sendEligibility_iff hfound hstatus hphone (husable ▸ hr) hgranted).trans hafter

/-! ## A plus in brackets -/

/-- The plus in the brackets is lost, and an address of two characters is too short for the
columns. -/
theorem plus_in_brackets : phoneDigits "(+1) 555 010 0100" = phoneDigits "+1 555 010 0100" ∧
    leadsWithPlus "(+1) 555 010 0100" = leadsWithPlus "+1 555 010 0100" ∧
    normalizePhone (some "(+1) 555 010 0100") = some "15550100100" ∧
    normalizePhone (some "+1 555 010 0100") = some "+15550100100" ∧
    normalizeEmail .ascii (some "@😀") = some "@😀" ∧ contactValueColumn "@😀" = false := by
  decide +kernel

namespace Ada

/-- A customer who has agreed to be written to. -/
def agreed : Permissions where
  parties := [reachable "5550100100"]
  party_purpose_consents :=
    [⟨"0c000000-0000-4000-8000-000000000001", .sms, .sales_marketing, .granted⟩]
  contact_suppressions := []

def clerk : String := "0c000000-0000-4000-8000-000000000002"

def row : Suppression :=
  ⟨"row", .phone, "5550100100", .unsubscribe, none, .active, clerk, 0, 1⟩

/-- The book with the opt-out in it. -/
def optedOut : Permissions where
  parties := agreed.parties
  party_purpose_consents := agreed.party_purpose_consents
  contact_suppressions := [row]

end Ada

/-- She opts out in one spelling, and is not written to under another. -/
theorem opted_out_in_another_spelling :
    sendEligibility .ascii Ada.optedOut "0c000000-0000-4000-8000-000000000001" .sms
      .sales_marketing = .ineligible .suppressed_contact := by
  have h : suppressContactWithin .ascii ⟨fun _ => true, fun _ _ => true⟩ 0 "row"
      ⟨Ada.clerk, .phone, "555-010-0100", .unsubscribe, none⟩ Ada.agreed =
        .ok (.suppressed Ada.row, Ada.optedOut) := by
    decide +kernel
  refine ((((contact_normalization .ascii).2.2 "555-010-0100" "(555) 010 0100" (by decide +kernel)
    (by decide +kernel)).2.2 _ _ _ _ _ _ _ _ _ (by decide +kernel) h).2
      (reachable "5550100100") .sales_marketing ?_ rfl ?_ ?_).mpr (.inr ?_)
  · decide +kernel
  · decide +kernel
  · decide +kernel
  · decide +kernel

end Dealership.Crm
