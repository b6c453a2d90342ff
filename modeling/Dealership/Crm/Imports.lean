import Dealership.Crm.Contacts

/-!
# Importing a list of customers

The rows of a list are judged one after another in one transaction, each in a savepoint, and
each is reported as the create of that row alone would have answered it.  The locks on the
contact values of the whole list are taken first, outside every savepoint: an e-mail address
that no statement can carry fails the list there, and not its own row.
-/

namespace Dealership.Crm

open Library List

/-! ## Single creates -/

/-- A row of a list, as it was typed or left out. -/
structure PartyImportRow extends PartyDetails where
  partyType : Option String

def PartyType.ofText : String → Option PartyType
  | "person" => some .person
  | "organization" => some .organization
  | _ => none

/-- A statement with these parameters. -/
def bindTexts (texts : List String) : Except Raise Unit :=
  ensure (texts.all carried) "invalid byte sequence for encoding UTF8: 0x00"

/-- The texts a create has handed to the database when it answers: the address once it is
locked, and the whole row once it is inserted. -/
def PartyImportRow.handed (casing : Casing) (partyType : PartyType) (row : PartyImportRow) :
    PartyCreateOutcome → List String
  | .invalid _ => []
  | .duplicate (_ :: _) => (normalizeEmail casing row.email).toList
  | _ =>
    (partyDisplayName partyType row.toPartyDetails).toList ++ row.givenName.toList ++
      row.familyName.toList ++
      (if partyType = .organization then row.organizationName.toList else []) ++
      (normalizeEmail casing row.email).toList

/-- `createPartyWithin` with a type that is still text, on the rows its transaction sees. -/
def createParty (casing : Casing) (w : CrmWorld) (who : String) (row : PartyImportRow)
    (db : Pipeline) : Except Raise (PartyCreateOutcome × Pipeline) :=
  match PartyType.ofText (row.partyType.getD "person") with
  | none => pure (.invalid "party_type must be person or organization", db)
  | some partyType => do
    let (outcome, after) ← (createPartyWithin casing w who partyType row.toPartyDetails false).run db
    bindTexts (row.handed casing partyType outcome)
    pure (outcome, after)

/-- One create after another, each in a transaction of its own. -/
def createEach (casing : Casing) (w : Nat → CrmWorld) (who : String) :
    Nat → List PartyImportRow → Pipeline → List (Except Raise PartyCreateOutcome) × Pipeline
  | _, [], db => ([], db)
  | index, row :: rows, db =>
    let answer := createParty casing (w index) who row db
    let rest := createEach casing w who (index + 1) rows (committed db answer)
    (answer.map Prod.fst :: rest.1, rest.2)

/-! ## The import -/

inductive ImportResult where
  | created | duplicate | invalid
deriving DecidableEq

/-- What is told of a row: a text, or what a statement raised, cut to 200 characters. -/
inductive ImportDetail where
  | text (detail : String)
  | raised (e : Raise)

structure PartyImportOutcome where
  index : Nat
  result : ImportResult
  partyId : Option String
  detail : Option ImportDetail

structure PartyImportSummary where
  created : Nat
  duplicates : Nat
  invalid : Nat
  rows : List PartyImportOutcome

inductive ImportAnswer where
  | summary (summary : PartyImportSummary)
  | error (error : String)

/-- How many rows one import may carry. -/
def PARTY_IMPORT_LIMIT : Nat := 200

/-- The column a candidate was found on. -/
def matchedOn (casing : Casing) (email : Option String) (p : Party) : String :=
  if email.isSome && p.email.map casing.sqlLower = email then "email" else "phone"

/-- One row in its savepoint, which is rolled back unless a customer was created. -/
def importRow (casing : Casing) (w : CrmWorld) (who : String) (index : Nat)
    (row : PartyImportRow) (db : Pipeline) : PartyImportOutcome × Pipeline :=
  match createParty casing w who row db with
  | .ok (.created party, after) => (⟨index, .created, some party.party_id, none⟩, after)
  | .ok (.duplicate candidates, _) =>
    let found := candidates.head?.map (matchedOn casing (normalizeEmail casing row.email))
    (⟨index, .duplicate, candidates.head?.map (·.party_id),
      some (.text ("matches an existing party on " ++ found.getD "contact details"))⟩, db)
  | .ok (.invalid error, _) => (⟨index, .invalid, none, some (.text error)⟩, db)
  | .error e => (⟨index, .invalid, none, some (.raised e)⟩, db)

def importRows (casing : Casing) (w : Nat → CrmWorld) (who : String) :
    Nat → List PartyImportRow → Pipeline → List PartyImportOutcome × Pipeline
  | _, [], db => ([], db)
  | index, row :: rows, db =>
    let first := importRow casing (w index) who index row db
    let rest := importRows casing w who (index + 1) rows first.2
    (first.1 :: rest.1, rest.2)

/-- Every row is judged and reported, in one transaction. -/
def importParties (casing : Casing) (w : Nat → CrmWorld) (who : String)
    (rows : List PartyImportRow) (db : Pipeline) : Except Raise (ImportAnswer × Pipeline) :=
  if rows = [] then pure (.error "an import needs at least one row", db)
  else if PARTY_IMPORT_LIMIT < rows.length then
    pure (.error ("an import carries at most " ++ toString PARTY_IMPORT_LIMIT ++ " rows"), db)
  else do
    -- The locks of the whole list: no savepoint is set yet.
    bindTexts (rows.filterMap fun row => normalizeEmail casing row.email)
    let (outcomes, after) := importRows casing w who 0 rows db
    let count := fun result => outcomes.countP fun o => o.result = result
    pure (.summary ⟨count .created, count .duplicate, count .invalid, outcomes⟩, after)

/-! ## Row by row -/

/-- A row is reported as its create was answered, and as invalid when its create raised. -/
def Reports : Except Raise PartyCreateOutcome → PartyImportOutcome → Prop
  | .ok (.created party), o => o.result = .created ∧ o.partyId = some party.party_id
  | .ok (.duplicate candidates), o =>
    o.result = .duplicate ∧ o.partyId = candidates.head?.map (·.party_id)
  | .ok (.invalid error), o => o.result = .invalid ∧ o.detail = some (.text error)
  | .error e, o => o.result = .invalid ∧ o.detail = some (.raised e)

section Rows

variable {casing : Casing} {w : CrmWorld} {who : String} {db db' : Pipeline}
  {outcome : PartyCreateOutcome}

theorem run_lockAll (ks : List Lock) (db : Pipeline) : (lockAll ks).run db = .ok ((), db) := by
  induction ks with
  | nil => rfl
  | cons k ks ih => rw [lockAll, run_bind_of_eq_ok (run_selectLocking _ _ _), ih]

theorem run_insertParty {p : Party} {written : Option Party}
    (h : (insertParty casing p).run db = .ok (written, db')) :
    (written = none ∧ db' = db) ∨ written = some p := by
  rw [insertParty, Script.run] at h
  by_cases hclash : p.clashes casing db = true
  · rw [if_pos hclash, if_pos hclash] at h
    cases h
    exact .inl ⟨rfl, rfl⟩
  rw [if_neg hclash, if_neg hclash] at h
  split at h
  · cases h
    exact .inr rfl
  · cases h

theorem run_createPartyWithin {partyType : PartyType} {d : PartyDetails}
    (h : (createPartyWithin casing w who partyType d false).run db = .ok (outcome, db'))
    (hnone : ∀ p, outcome ≠ .created p) : db' = db := by
  unfold createPartyWithin at h
  split at h
  · cases h
    rfl
  dsimp only at h
  split at h
  · cases h
    rfl
  split at h
  · cases h
    rfl
  obtain ⟨actor, -, h⟩ := run_actorWithin h
  rw [run_bind_of_eq_ok (run_lockAll _ _), run_bind_of_eq_ok (run_select _ _)] at h
  split at h
  · cases h
    rfl
  obtain ⟨written, c, hwritten, hrest⟩ := run_bind_eq_ok.mp h
  rcases run_insertParty hwritten with ⟨rfl, rfl⟩ | rfl
  · cases hrest
    rfl
  · cases hrest
    exact absurd rfl (hnone _)

theorem createParty_leaves {row : PartyImportRow}
    (h : createParty casing w who row db = .ok (outcome, db'))
    (hnone : ∀ p, outcome ≠ .created p) : db' = db := by
  unfold createParty at h
  split at h
  · cases h
    rfl
  obtain ⟨⟨found, after⟩, hrun, h⟩ := bind_eq_ok.mp h
  obtain ⟨u, -, h⟩ := bind_eq_ok.mp h
  cases h
  exact run_createPartyWithin hrun hnone

theorem importRow_reports (casing : Casing) (w : CrmWorld) (who : String) (index : Nat)
    (row : PartyImportRow) (db : Pipeline) :
    (importRow casing w who index row db).2 = committed db (createParty casing w who row db) ∧
      Reports ((createParty casing w who row db).map Prod.fst)
        (importRow casing w who index row db).1 := by
  unfold importRow
  cases h : createParty casing w who row db with
  | error e => exact ⟨rfl, rfl, rfl⟩
  | ok answer =>
    obtain ⟨outcome, after⟩ := answer
    cases outcome with
    | created party => exact ⟨rfl, rfl, rfl⟩
    | duplicate candidates => exact ⟨(createParty_leaves h nofun).symm, rfl, rfl⟩
    | invalid error => exact ⟨(createParty_leaves h nofun).symm, rfl, rfl⟩

theorem importRows_reports (casing : Casing) (who : String) (w : Nat → CrmWorld)
    (rows : List PartyImportRow) (index : Nat) (db : Pipeline) :
    (importRows casing w who index rows db).2 = (createEach casing w who index rows db).2 ∧
      Forall₂ Reports (createEach casing w who index rows db).1
        (importRows casing w who index rows db).1 := by
  induction rows generalizing index db with
  | nil => exact ⟨rfl, .nil⟩
  | cons row rows ih =>
    obtain ⟨hleft, hreports⟩ := importRow_reports casing (w index) who index row db
    simp only [importRows, createEach, hleft]
    obtain ⟨hrest, hall⟩ := ih (index + 1) (committed db (createParty casing (w index) who row db))
    exact ⟨hrest, .cons hreports hall⟩

theorem length_createEach (w : Nat → CrmWorld) (rows : List PartyImportRow) (index : Nat)
    (db : Pipeline) : (createEach casing w who index rows db).1.length = rows.length := by
  induction rows generalizing index db with
  | nil => rfl
  | cons row rows ih => exact congrArg (· + 1) (ih _ _)

theorem count_results (outcomes : List PartyImportOutcome) :
    (outcomes.countP fun o => o.result = .created) +
      (outcomes.countP fun o => o.result = .duplicate) +
        (outcomes.countP fun o => o.result = .invalid) = outcomes.length := by
  induction outcomes with
  | nil => rfl
  | cons o outcomes ih =>
    simp only [countP_cons, length_cons, ← ih]
    cases o.result <;> simp <;> omega

end Rows

/-! ## The whole list -/

/-- The import answers with the results of single creates, counts all rows, and leaves the
customers that single creates leave. -/
def AsSingleCreates (casing : Casing) (w : Nat → CrmWorld) (who : String)
    (rows : List PartyImportRow) (db : Pipeline) : Prop :=
  ∃ s, importParties casing w who rows db =
      .ok (.summary s, (createEach casing w who 0 rows db).2) ∧
    Forall₂ Reports (createEach casing w who 0 rows db).1 s.rows ∧
    s.created + s.duplicates + s.invalid = rows.length

/-- **An import is a sequence of single creates, unless an address cannot be carried.**  An
empty list is answered with an error and changes nothing. -/
theorem import_as_single_creates_iff (casing : Casing) (w : Nat → CrmWorld) (who : String)
    (rows : List PartyImportRow) (db : Pipeline) (hlimit : rows.length ≤ PARTY_IMPORT_LIMIT) :
    (rows = [] → importParties casing w who rows db =
      .ok (.error "an import needs at least one row", db)) ∧
    (rows ≠ [] → (AsSingleCreates casing w who rows db ↔
      ∀ row ∈ rows, ∀ email ∈ normalizeEmail casing row.email, carried email = true)) := by
  refine ⟨fun hempty => if_pos hempty, fun hrows => ?_⟩
  have hunfold : importParties casing w who rows db = (do
      bindTexts (rows.filterMap fun row => normalizeEmail casing row.email)
      _) := (if_neg hrows).trans (if_neg (Nat.not_lt.mpr hlimit))
  have hcarried : (rows.filterMap fun row => normalizeEmail casing row.email).all carried = true ↔
      ∀ row ∈ rows, ∀ email ∈ normalizeEmail casing row.email, carried email = true := by
    simp only [all_eq_true, mem_filterMap]
    exact ⟨fun h row hrow email hemail => h email ⟨row, hrow, hemail⟩,
      fun h email ⟨row, hrow, hemail⟩ => h row hrow email hemail⟩
  rw [← hcarried, AsSingleCreates, hunfold]
  constructor
  · rintro ⟨s, h, -⟩
    obtain ⟨u, hu, -⟩ := bind_eq_ok.mp h
    exact ensure_eq_ok.mp hu
  · intro h
    obtain ⟨hleft, hreports⟩ := importRows_reports casing who w rows 0 db
    have hlength := hreports.length_eq.symm.trans (length_createEach w rows 0 db)
    refine ⟨⟨_, _, _, (importRows casing w who 0 rows db).1⟩, ?_, hreports,
      (count_results _).trans hlength⟩
    exact bind_eq_ok.mpr ⟨(), ensure_eq_ok.mpr h, hleft ▸ rfl⟩

/-! ## A list with a NUL in it -/

namespace Paste

def clerk : String := "0c000000-0000-4000-8000-000000000002"

def world (index : Nat) : CrmWorld :=
  ⟨⟨fun _ => true, fun _ _ => true⟩, 0, fun _ => true, fun _ => true, fun _ => true,
    fun _ => true, if index = 0 then "first" else "second", "", "", "", "", ""⟩

def named (name email : String) : PartyImportRow :=
  ⟨⟨some name, none, none, none, some email, none⟩, none⟩

/-- The first address has a NUL in it. -/
def rows : List PartyImportRow :=
  [named "Ada Lovelace" (String.ofList ['a', Char.ofNat 0, '@', 'b']),
    named "Grace Hopper" "grace@example.org"]

def twice : List PartyImportRow :=
  [named "Grace Hopper" "grace@example.org", named "G. Hopper" "Grace@example.org"]

end Paste

/-- The address with the NUL fails the list, and the customer behind it is not created. -/
theorem nul_fails_the_list :
    ¬ AsSingleCreates .ascii Paste.world Paste.clerk Paste.rows (.quiet [] [] [] []) ∧
    (createEach .ascii Paste.world Paste.clerk 0 Paste.rows (.quiet [] [] [] [])).1.map
      Except.isOk = [false, true] := by
  refine ⟨?_, by decide +kernel⟩
  rintro ⟨s, h, -⟩
  have hraises : (importParties .ascii Paste.world Paste.clerk Paste.rows
      (.quiet [] [] [] [])).isOk = false := by
    decide +kernel
  rw [h] at hraises
  cases hraises

/-- The second row is a duplicate of the first, as a second create would be. -/
theorem repeated_row_is_duplicate :
    AsSingleCreates .ascii Paste.world Paste.clerk Paste.twice (.quiet [] [] [] []) :=
  ((import_as_single_creates_iff .ascii Paste.world Paste.clerk Paste.twice _ (by decide)).2
    (cons_ne_nil _ _)).mpr (by decide +kernel)

end Dealership.Crm
