import Dealership.Library.Run
import Dealership.Migrations.FixtureChains
import Mathlib.Data.List.Sort

/-!
# The migration runner

`migrate` as a machine: a run decides its mode, reads the ledger, lists its directory, compares
every row with a body, and then reads and applies the bodies that have no row, each in a
transaction of its own.  Every read of a file, of the ledger and every transaction is a step, so
that between any two of them other runs may commit and anybody may edit the directories.

Directories go by resolved paths, and two of them are the same directory when the paths are equal.
The log lines of a run and the texts of its refusals are left out.
-/

namespace Dealership.Migrations

open Library

/-! ## The ledger -/

/-- A row of `schema_migrations`; `filename` is its primary key. -/
structure LedgerRow where
  filename : String
  checksum_sha256 : Option String
  checksum_algorithm : Option String
deriving DecidableEq

/-- `LEDGER_CHECKSUM_ALGORITHM`. -/
def ledgerChecksumAlgorithm : String := "sha256-canonical-lf"

inductive LedgerRefusalKind where
  | missing_body | unverifiable_checksum | unsupported_algorithm | checksum_drift

structure LedgerRefusal where
  kind : LedgerRefusalKind
  filename : String

/-- One turn of the loop of `ledgerRefusals`: what is held against a row, given the body that was
found for it. -/
def judgeRow (row : LedgerRow) (body : Option Text) : Option LedgerRefusal :=
  match body, row.checksum_sha256 with
  | none, _ => some ⟨.missing_body, row.filename⟩
  | some _, none => some ⟨.unverifiable_checksum, row.filename⟩
  | some body, some recorded =>
    if row.checksum_algorithm ≠ some ledgerChecksumAlgorithm then
      some ⟨.unsupported_algorithm, row.filename⟩
    else if canonicalChecksum body ≠ recorded then some ⟨.checksum_drift, row.filename⟩
    else none

def LedgerRow.Describes (row : LedgerRow) (sql : Text) : Prop :=
  row.checksum_sha256 = some (canonicalChecksum sql) ∧
    row.checksum_algorithm = some ledgerChecksumAlgorithm

/-- What the runner records of a body it has executed. -/
def ledgerRow (filename : String) (sql : Text) : LedgerRow where
  filename := filename
  checksum_sha256 := some (canonicalChecksum sql)
  checksum_algorithm := some ledgerChecksumAlgorithm

theorem ledgerRow_describes (filename : String) (sql : Text) :
    (ledgerRow filename sql).Describes sql := ⟨rfl, rfl⟩

/-! ## Directories -/

/-- What the directories hold, by file name. -/
abbrev Disk := String → Option (List (String × Text))

/-- `readdirSync(dir).filter((f) => f.endsWith('.sql')).sort()`. -/
def sqlFiles (entries : List (String × Text)) : List String :=
  ((entries.map Prod.fst).filter fun f => ".sql".toList.isSuffixOf f.toList).insertionSort
    fun a b => jsLe a b

/-- `readFileSync(join(dir, filename))`. -/
def Disk.read (disk : Disk) (dir filename : String) : Option Text :=
  (disk dir).bind fun entries => entries.lookup filename

/-- `resolveBody`: the run's own directory first, then the repository's. -/
def resolveBody (disk : Disk) (dirs : List String) (filename : String) : Option Text :=
  (dirs.findSome? fun dir => disk.read dir filename).map canonicalSql

/-- `norm`, of a resolved path. -/
def normalizePath (lower : String → String) (path : String) : String :=
  let slashes := path.toList.map fun c => if c = '\\' then '/' else c
  lower (String.ofList (slashes.reverse.dropWhile fun c => c = '/').reverse)

def sameDirectory (lower : String → String) (a b : String) : Bool :=
  normalizePath lower a = normalizePath lower b

/-! ## A run -/

/-- What a run is started with: `MIGRATIONS_DIR`, the directory of the repository, and
`MIGRATION_FIXTURE_CHAIN`. -/
structure RunConfig where
  migrationsDir : Option String
  canonicalMigrationsDir : String
  chainFromEnv : Option String
deriving DecidableEq

def RunConfig.dir (c : RunConfig) : String := c.migrationsDir.getD c.canonicalMigrationsDir

/-- `chainFromEnv !== undefined && chainFromEnv !== ''`. -/
def RunConfig.named (c : RunConfig) : Option String := c.chainFromEnv.filter fun name => name ≠ ""

inductive RunPhase where
  | deciding
  | validating (chain : FixtureChain) (present todo : List String)
  | connected
  | listing
  | verifying (todo : List LedgerRow)
  | applying (todo : List String)
  | executing (filename : String) (sql : Text) (todo : List String)
  | refused | failed | finished

structure MigrateRun where
  config : RunConfig
  phase : RunPhase
  /-- What the fixture directory held when it was validated. -/
  observed : List Observed
  /-- The rows read. -/
  ledger : List LedgerRow
  files : List String
  refusals : List LedgerRefusal
  /-- The rows the run has matched with a body, and the bodies. -/
  verified : List (LedgerRow × Text)
  /-- The bodies the run has sent to the server. -/
  executed : List (String × Text)

def MigrateRun.start (config : RunConfig) : MigrateRun where
  config := config
  phase := .deciding
  observed := []
  ledger := []
  files := []
  refusals := []
  verified := []
  executed := []

/-- `decideMode`, up to the reading of the files of a fixture directory. -/
def MigrateRun.decide (lower : String → String) (disk : Disk) (declared : Option Declarations)
    (r : MigrateRun) : MigrateRun :=
  let isCanonical := sameDirectory lower r.config.dir r.config.canonicalMigrationsDir
  match isCanonical, r.config.named with
  | true, none => { r with phase := .connected }
  | isCanonical, named =>
    match declared.map loadFixtureChains with
    | none | some (.error _) => { r with phase := .failed }
    | some (.ok chains) =>
      match isCanonical, named with
      | true, _ => { r with phase := .refused }
      | false, none => { r with phase := .refused }
      | false, some name =>
        match chains.lookup name, disk r.config.dir with
        | none, _ => { r with phase := .refused }
        | some _, none => { r with phase := .refused }
        | some chain, some entries =>
          { r with phase := .validating chain (sqlFiles entries) (sqlFiles entries) }

/-- The rest of `validateChainDirectory`, one file at a time. -/
def MigrateRun.validate (disk : Disk) (chain : FixtureChain) (present : List String)
    (r : MigrateRun) : List String → MigrateRun
  | [] =>
    if (chainProblems chain present r.observed).isEmpty then { r with phase := .connected }
    else { r with phase := .refused }
  | file :: todo =>
    match disk.read r.config.dir file with
    | none => { r with phase := .failed }
    | some raw =>
      { r with
        phase := .validating chain present todo
        observed := r.observed ++ [{ file := file, sha256 := canonicalDigest raw }] }

/-- The comparison of the ledger with the bodies there are, one row at a time. -/
def MigrateRun.verify (disk : Disk) (r : MigrateRun) : List LedgerRow → MigrateRun
  | [] =>
    if r.refusals.isEmpty then { r with phase := .applying r.files }
    else { r with phase := .refused }
  | row :: todo =>
    let body := resolveBody disk [r.config.dir, r.config.canonicalMigrationsDir] row.filename
    match judgeRow row body, body with
    | some refusal, _ =>
      { r with phase := .verifying todo, refusals := r.refusals ++ [refusal] }
    | none, some sql =>
      { r with phase := .verifying todo, verified := r.verified ++ [(row, sql)] }
    | none, none => { r with phase := .verifying todo }

/-- The head of the loop over the files: one that has a row is passed over, another is read. -/
def MigrateRun.next (disk : Disk) (r : MigrateRun) : List String → MigrateRun
  | [] => { r with phase := .finished }
  | filename :: todo =>
    if filename ∈ r.ledger.map LedgerRow.filename then { r with phase := .applying todo }
    else
      match disk.read r.config.dir filename with
      | none => { r with phase := .failed }
      | some raw => { r with phase := .executing filename (canonicalSql raw) todo }

/-- One step of a run, up to the transaction that applies a body. -/
def MigrateRun.advance (lower : String → String) (disk : Disk) (declared : Option Declarations)
    (ledger : List LedgerRow) (r : MigrateRun) : MigrateRun :=
  match r.phase with
  | .deciding => r.decide lower disk declared
  | .validating chain present todo => r.validate disk chain present todo
  | .connected => { r with phase := .listing, ledger := ledger }
  | .listing =>
    match disk r.config.dir with
    | none => { r with phase := .failed }
    | some entries => { r with phase := .verifying r.ledger, files := sqlFiles entries }
  | .verifying todo => r.verify disk todo
  | .applying todo => r.next disk todo
  | .executing _ _ _ | .refused | .failed | .finished => r

/-- The run after the transaction of a body. -/
def MigrateRun.applied (r : MigrateRun) (filename : String) (sql : Text) (todo : List String)
    (acknowledged : Bool) : MigrateRun :=
  if acknowledged then
    { r with
      phase := .applying todo
      verified := r.verified ++ [(ledgerRow filename sql, sql)]
      executed := r.executed ++ [(filename, sql)] }
  else
    { r with
      phase := .failed
      executed := r.executed ++ [(filename, sql)] }

/-! ## Runs beside one another -/

/-- A body sent to the server, by which run, and the ledger it was sent over. -/
structure Execution where
  run : Nat
  config : RunConfig
  filename : String
  sql : Text
  ledger : List LedgerRow
deriving DecidableEq

structure Commit where
  run : Nat
  filename : String
  sql : Text
  row : LedgerRow

structure Site where
  disk : Disk
  declared : Option Declarations
  ledger : List LedgerRow
  runs : List MigrateRun
  /-- What the directories have held, and what has been declared. -/
  disks : List Disk
  declarations : List Declarations
  executions : List Execution
  commits : List Commit

def Site.start (disk : Disk) (declared : Option Declarations) (ledger : List LedgerRow) :
    Site where
  disk := disk
  declared := declared
  ledger := ledger
  runs := []
  disks := [disk]
  declarations := declared.toList
  executions := []
  commits := []

inductive Turn where
  /-- Somebody edits the directories, or the declarations. -/
  | edit (disk : Disk)
  | declare (declared : Option Declarations)
  /-- A run is started, and a run goes on. -/
  | start (config : RunConfig)
  | advance (run : Nat)
  /-- A run executes a body: `effect` is what the body does to the ledger itself, nothing when it
  fails, and a commit may go unacknowledged. -/
  | execute (run : Nat) (effect : List LedgerRow → Option (List LedgerRow)) (acknowledged : Bool)

/-- The transaction of a body and its row. -/
def Site.execute (s : Site) (run : Nat) (r : MigrateRun) (filename : String) (sql : Text)
    (todo : List String) (effect : List LedgerRow → Option (List LedgerRow))
    (acknowledged : Bool) : Site :=
  let s := { s with
    executions := s.executions ++ [(⟨run, r.config, filename, sql, s.ledger⟩ : Execution)] }
  match effect s.ledger with
  | none => { s with runs := s.runs.set run (r.applied filename sql todo false) }
  | some ledger =>
    -- the primary key of `schema_migrations`
    if filename ∈ ledger.map LedgerRow.filename then
      { s with runs := s.runs.set run (r.applied filename sql todo false) }
    else
      { s with
        runs := s.runs.set run (r.applied filename sql todo acknowledged)
        ledger := ledger ++ [ledgerRow filename sql]
        commits := s.commits ++ [(⟨run, filename, sql, ledgerRow filename sql⟩ : Commit)] }

def Site.step (lower : String → String) (s : Site) : Turn → Site
  | .edit disk => { s with disk := disk, disks := s.disks ++ [disk] }
  | .declare declared =>
    { s with declared := declared, declarations := s.declarations ++ declared.toList }
  | .start config => { s with runs := s.runs ++ [MigrateRun.start config] }
  | .advance run =>
    match s.runs[run]? with
    | none => s
    | some r =>
      { s with runs := s.runs.set run (r.advance lower s.disk s.declared s.ledger) }
  | .execute run effect acknowledged =>
    match s.runs[run]? with
    | none => s
    | some r =>
      match r.phase with
      | .executing filename sql todo =>
        s.execute run r filename sql todo effect acknowledged
      | _ => s

end Dealership.Migrations
