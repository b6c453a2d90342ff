import Dealership.Library.Sha256
import Dealership.Library.Text

/-!
# Fixture chains

A migrations directory other than the repository's own may be applied only under a chain that is
declared by name, and a chain admits a body by the digest of its text under its file name.  This
file has the text of a migration, the declarations as they are read and checked, and the
comparison of a directory with a chain.
-/

namespace Dealership.Migrations

open Library List

/-- What a file holds, decoded. -/
abbrev Text := List Char

/-! ## The text of a migration -/

/-- `canonicalText`, `canonicalSql`: every CR LF is one LF. -/
def canonicalSql : Text → Text
  | '\r' :: '\n' :: cs => '\n' :: canonicalSql cs
  | c :: cs => c :: canonicalSql cs
  | [] => []

/-- `canonicalChecksum`. -/
def canonicalChecksum (sql : Text) : String := Sha256.hexText sql

/-- `canonicalDigest`. -/
def canonicalDigest (raw : Text) : String := canonicalChecksum (canonicalSql raw)

/-- A committed text checked out with CRLF line endings: a CR goes before every LF that has none.
The flag says whether the character before was a CR. -/
def withCrlf : Bool → Text → Text
  | _, [] => []
  | afterCr, c :: cs =>
    if c = '\n' ∧ afterCr = false then '\r' :: '\n' :: withCrlf false cs
    else c :: withCrlf (c = '\r') cs

@[simp] theorem canonicalSql_nil : canonicalSql [] = [] := rfl

/-- A variant as the file declares it: what has the wrong type is absent. -/
structure DeclaredVariant where
  sha256 : Option String
  note : Option String

structure DeclaredFile where
  required : Option Bool
  variants : Option (List DeclaredVariant)

structure DeclaredChain where
  /-- The `WITHDRAWN_CHAIN_KEYS` it carries. -/
  withdrawn : List String
  reason : Option String
  files : Option (List (String × DeclaredFile))

/-- `architecture/migration-fixture-chains.json`. -/
abbrev Declarations := List (String × DeclaredChain)

structure ChainVariant where
  sha256 : String
  note : String

structure ChainFile where
  required : Bool
  variants : List ChainVariant

structure FixtureChain where
  files : List (String × ChainFile)

inductive DeclarationProblem where
  | withdrawn_key (chain key : String)
  | no_reason (chain : String)
  | no_files (chain : String)
  | required_unsaid (chain filename : String)
  | no_checksum (chain filename : String)
  | not_a_digest (chain filename : String) (sha256 : Option String)
  | no_note (chain filename : String)

/-- `DIGEST`. -/
def isDigest (s : String) : Bool :=
  s.toList.length = 64 && s.toList.all fun c => c.isDigit || ('a' ≤ c && c ≤ 'f')

/-- `typeof text !== 'string' || text.trim() === ''`. -/
def isBlank (text : Option String) : Bool := text.all fun t => trimText t = ""

def DeclaredVariant.problems (chain filename : String) (v : DeclaredVariant) :
    List DeclarationProblem :=
  (if v.sha256.any isDigest then [] else [.not_a_digest chain filename v.sha256]) ++
    if isBlank v.note then [.no_note chain filename] else []

def DeclaredFile.problems (chain filename : String) (f : DeclaredFile) :
    List DeclarationProblem :=
  (if f.required.isSome then [] else [.required_unsaid chain filename]) ++
    match f.variants with
    | none | some [] => [.no_checksum chain filename]
    | some variants => variants.flatMap (DeclaredVariant.problems chain filename)

def DeclaredChain.problems (id : String) (c : DeclaredChain) : List DeclarationProblem :=
  c.withdrawn.map (.withdrawn_key id) ++
    (if isBlank c.reason then [.no_reason id] else []) ++
    match c.files with
    | none | some [] => [.no_files id]
    | some files => files.flatMap fun f => f.2.problems id f.1

def DeclaredVariant.read (v : DeclaredVariant) : ChainVariant where
  sha256 := v.sha256.getD ""
  note := v.note.getD ""

def DeclaredFile.read (f : DeclaredFile) : ChainFile where
  required := f.required.getD false
  variants := (f.variants.getD []).map DeclaredVariant.read

def DeclaredChain.read (c : DeclaredChain) : FixtureChain where
  files := (c.files.getD []).map fun f => (f.1, f.2.read)

/-- `loadFixtureChains`. -/
def loadFixtureChains (declared : Declarations) :
    Except (List DeclarationProblem) (List (String × FixtureChain)) :=
  let problems := declared.flatMap fun c => c.2.problems c.1
  if problems.isEmpty then .ok (declared.map fun c => (c.1, c.2.read)) else .error problems

/-! ## A directory against a chain -/

inductive ChainProblem where
  | undeclared_chain (chain : String)
  | no_directory (dir : String)
  | required_absent (filename : String)
  | undeclared_file (filename : String)
  | not_admitted (filename sha256 : String)
  /-- A chain named for the repository's own directory. -/
  | chain_in_production (chain : String)
  /-- Another directory, and no chain named. -/
  | no_chain_named (dir : String)

/-- A file of a directory, and the digest of what it held when it was read. -/
structure Observed where
  file : String
  sha256 : String
deriving DecidableEq

/-- The chain lists the digest under the file's name. -/
def FixtureChain.admits (c : FixtureChain) (o : Observed) : Bool :=
  (c.files.lookup o.file).any fun f => f.variants.any fun v => v.sha256 = o.sha256

/-- What `validateChainDirectory` holds against the files it found. -/
def chainProblems (c : FixtureChain) (present : List String) (observed : List Observed) :
    List ChainProblem :=
  ((c.files.filter fun f => f.2.required && f.1 ∉ present).map fun f => .required_absent f.1) ++
    observed.flatMap fun o =>
      match c.files.lookup o.file with
      | none => [.undeclared_file o.file]
      | some f =>
        if f.variants.any fun v => v.sha256 = o.sha256 then []
        else [.not_admitted o.file o.sha256]

end Dealership.Migrations
