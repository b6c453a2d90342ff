import Dealership.Migrations.Runner

/-!
# The ledger describes what ran

What every state that runs of the migration runner can lead to has in common, whatever they are
started with and however they fall together, while directories and declarations are edited.  Three
things are asked of a run's steps.  The body it is about to execute was validated, if it does not
come from the repository's own directory; no other run has committed a row since it read the
ledger; and the body leaves the ledger alone.
-/

namespace Dealership.Migrations

open Library List

variable {declarations : List Declarations} {filename : String} {r : MigrateRun}
  {declared : Option Declarations} {todo : List String}

/-! ## What is promised -/

/-- `chain` was declared under the name the run was started with. -/
def Declared (declarations : List Declarations) (config : RunConfig) (chain : FixtureChain) :
    Prop :=
  ∃ declared ∈ declarations, ∃ chains, loadFixtureChains declared = .ok chains ∧
    ∃ name, config.chainFromEnv = some name ∧ chains.lookup name = some chain

/-- A chain that was named and declared admits the digest under the file's name. -/
def Admitted (declarations : List Declarations) (config : RunConfig) (o : Observed) : Prop :=
  ∃ chain, Declared declarations config chain ∧ chain.admits o = true

def Available (disks : List Disk) (config : RunConfig) (filename : String) (sql : Text) : Prop :=
  ∃ disk ∈ disks, resolveBody disk [config.dir, config.canonicalMigrationsDir] filename = some sql

/-- The ledger describes what ran, from what it held at the start. -/
structure Describes (start : List LedgerRow) (s : Site) : Prop where
  /-- Its rows are those of the commits, each with the digest of the text it executed. -/
  rows : s.ledger = start ++ s.commits.map Commit.row
  digests : ∀ c ∈ s.commits, c.row.filename = c.filename ∧ c.row.Describes c.sql
  /-- No file name is committed twice. -/
  once : (start.map LedgerRow.filename ++ s.commits.map Commit.filename).Nodup
  /-- A refused run has executed nothing and committed nothing. -/
  refused : ∀ run r, s.runs[run]? = some r → r.phase = .refused →
    r.executed = [] ∧ (∀ e ∈ s.executions, e.run ≠ run) ∧ ∀ c ∈ s.commits, c.run ≠ run
  /-- A body is executed over rows that were all compared with a body, and matched. -/
  compared : ∀ e ∈ s.executions, ∀ row ∈ e.ledger,
    ∃ sql, Available s.disks e.config row.filename sql ∧ row.Describes sql
  /-- Another directory's body is executed only as a declared chain admits it. -/
  admitted : ∀ e ∈ s.executions, e.config.dir ≠ e.config.canonicalMigrationsDir →
    Admitted s.declarations e.config { file := e.filename, sha256 := canonicalChecksum e.sql }
  /-- A file checked out with either line ending has one text, and one digest. -/
  lineEndings : ∀ text, canonicalSql (withCrlf false text) = canonicalSql text ∧
    canonicalDigest (withCrlf false text) = canonicalDigest text

/-! ## What is asked -/

/-- The body the run is about to read was validated, or comes from the repository. -/
def MigrateRun.ReadsValidated (r : MigrateRun) (disk : Disk) : Prop :=
  match r.phase with
  | .applying (filename :: _) =>
    filename ∈ r.ledger.map LedgerRow.filename ∨ r.config.dir = r.config.canonicalMigrationsDir ∨
      ∀ raw ∈ disk.read r.config.dir filename,
        { file := filename, sha256 := canonicalDigest raw } ∈ r.observed
  | _ => True

instance (r : MigrateRun) (disk : Disk) : Decidable (r.ReadsValidated disk) :=
  match hp : r.phase with
  | .applying (filename :: _) =>
    decidable_of_iff
      (filename ∈ r.ledger.map LedgerRow.filename ∨
        r.config.dir = r.config.canonicalMigrationsDir ∨
          ∀ raw ∈ disk.read r.config.dir filename,
            { file := filename, sha256 := canonicalDigest raw } ∈ r.observed)
      (by rw [MigrateRun.ReadsValidated, hp])
  | .applying [] | .deciding | .validating _ _ _ | .connected | .listing | .verifying _
  | .executing _ _ _ | .refused | .failed | .finished =>
    .isTrue (by rw [MigrateRun.ReadsValidated, hp]; trivial)

/-- The rows there are when a body is executed are those the run has read or has written, and the
body leaves them alone. -/
def MigrateRun.Alone (r : MigrateRun) (ledger : List LedgerRow)
    (effect : List LedgerRow → Option (List LedgerRow)) : Prop :=
  (∀ row ∈ ledger, row ∈ r.ledger ∨ row ∈ r.executed.map fun e => ledgerRow e.1 e.2) ∧
    (effect ledger = none ∨ effect ledger = some ledger)

instance (r : MigrateRun) (ledger : List LedgerRow)
    (effect : List LedgerRow → Option (List LedgerRow)) : Decidable (r.Alone ledger effect) :=
  inferInstanceAs (Decidable (_ ∧ _))

def Site.Orderly (s : Site) : Turn → Prop
  | .advance run => ∀ r ∈ s.runs[run]?, r.ReadsValidated s.disk
  | .execute run effect _ => ∀ r ∈ s.runs[run]?, r.Alone s.ledger effect
  | .edit _ | .declare _ | .start _ => True

instance (s : Site) : ∀ t, Decidable (s.Orderly t)
  | .advance run => inferInstanceAs (Decidable (∀ r ∈ s.runs[run]?, r.ReadsValidated s.disk))
  | .execute run effect _ =>
    inferInstanceAs (Decidable (∀ r ∈ s.runs[run]?, r.Alone s.ledger effect))
  | .edit _ | .declare _ | .start _ => .isTrue trivial

/-! ## One run -/

/-- The run has not come to apply anything. -/
def RunPhase.early : RunPhase → Bool
  | .deciding | .validating _ _ _ | .connected | .listing | .verifying _ | .refused => true
  | .applying _ | .executing _ _ _ | .failed | .finished => false

def RunPhase.decided : RunPhase → Bool
  | .connected | .listing | .verifying _ | .applying _ | .executing _ _ _ => true
  | .deciding | .validating _ _ _ | .refused | .failed | .finished => false

/-- The ledger has been compared. -/
def RunPhase.applies : RunPhase → Bool
  | .applying _ | .executing _ _ _ => true
  | .deciding | .validating _ _ _ | .connected | .listing | .verifying _ | .refused | .failed
  | .finished => false

structure RunSound (disks : List Disk) (declarations : List Declarations) (r : MigrateRun) :
    Prop where
  fresh : r.phase = .deciding → r.observed = []
  early : r.phase.early = true → r.executed = []
  chain : ∀ chain present todo, r.phase = .validating chain present todo →
    Declared declarations r.config chain
  decided : r.phase.decided = true → ∀ o ∈ r.observed, Admitted declarations r.config o
  verified : ∀ p ∈ r.verified, Available disks r.config p.1.filename p.2 ∧ p.1.Describes p.2
  comparing : ∀ todo, r.phase = .verifying todo → r.refusals = [] →
    ∀ row ∈ r.ledger, row ∈ todo ∨ row ∈ r.verified.map Prod.fst
  compared : r.phase.applies = true → ∀ row ∈ r.ledger, row ∈ r.verified.map Prod.fst
  wrote : r.phase.applies = true → ∀ e ∈ r.executed, ledgerRow e.1 e.2 ∈ r.verified.map Prod.fst
  reads : ∀ filename sql todo, r.phase = .executing filename sql todo →
    Available disks r.config filename sql ∧ (r.config.dir = r.config.canonicalMigrationsDir ∨
      { file := filename, sha256 := canonicalChecksum sql } ∈ r.observed)

theorem Declared.mono {more : List Declarations} {config : RunConfig} {chain : FixtureChain}
    (hsub : declarations ⊆ more) (h : Declared declarations config chain) :
    Declared more config chain := by
  obtain ⟨declared, hmem, rest⟩ := h
  exact ⟨declared, hsub hmem, rest⟩

theorem Admitted.mono {more : List Declarations} {config : RunConfig} {o : Observed}
    (hsub : declarations ⊆ more) (h : Admitted declarations config o) : Admitted more config o := by
  obtain ⟨chain, hchain, hadmits⟩ := h
  exact ⟨chain, hchain.mono hsub, hadmits⟩

theorem Available.mono {disks more : List Disk} {config : RunConfig} {sql : Text}
    (hsub : disks ⊆ more) (h : Available disks config filename sql) :
    Available more config filename sql := by
  obtain ⟨disk, hmem, hbody⟩ := h
  exact ⟨disk, hsub hmem, hbody⟩

theorem RunSound.mono {disks more : List Disk} {further : List Declarations} (hdisks : disks ⊆ more)
    (hdeclared : declarations ⊆ further) (h : RunSound disks declarations r) :
    RunSound more further r where
  fresh := h.fresh
  early := h.early
  chain := fun chain present todo hp => (h.chain chain present todo hp).mono hdeclared
  decided := fun hp o ho => (h.decided hp o ho).mono hdeclared
  verified := fun p hp => ⟨(h.verified p hp).1.mono hdisks, (h.verified p hp).2⟩
  comparing := h.comparing
  compared := h.compared
  wrote := h.wrote
  reads := fun filename sql todo hp =>
    ⟨(h.reads filename sql todo hp).1.mono hdisks, (h.reads filename sql todo hp).2⟩

section Advance

variable {disk : Disk}

private theorem never {P : Prop} (h : false = true) : P := absurd h Bool.false_ne_true

variable {disks : List Disk}

theorem start_sound (config : RunConfig) :
    RunSound disks declarations (MigrateRun.start config) where
  fresh := fun _ => rfl
  early := fun _ => rfl
  chain := nofun
  decided := nofun
  verified := nofun
  comparing := nofun
  compared := nofun
  wrote := nofun
  reads := nofun

theorem RunSound.stopped (h : RunSound disks declarations r) {p : RunPhase}
    (hp : p = .failed ∨ p = .finished ∨ p = .refused ∧ r.phase.early = true) :
    RunSound disks declarations { r with phase := p } := by
  rcases hp with rfl | rfl | ⟨rfl, hearly⟩
  · exact ⟨nofun, never, nofun, never, h.verified, nofun, never, never, nofun⟩
  · exact ⟨nofun, never, nofun, never, h.verified, nofun, never, never, nofun⟩
  · exact ⟨nofun, fun _ => h.early hearly, nofun, never, h.verified, nofun, never, never, nofun⟩

theorem applied_sound {sql : Text} (h : RunSound disks declarations r)
    (hp : r.phase = .executing filename sql todo) (acknowledged : Bool) :
    RunSound disks declarations (r.applied filename sql todo acknowledged) := by
  have hadmitted := h.decided (by rw [hp]; rfl)
  have hcompared := h.compared (by rw [hp]; rfl)
  have hwrote := h.wrote (by rw [hp]; rfl)
  unfold MigrateRun.applied
  split
  case isTrue =>
    refine ⟨nofun, never, nofun, fun _ => hadmitted, ?_, nofun, ?_, ?_, nofun⟩
    · intro p hmem
      rcases mem_append.mp hmem with hold | hnew
      · exact h.verified p hold
      · rw [mem_singleton] at hnew
        subst hnew
        exact ⟨(h.reads filename sql todo hp).1, ledgerRow_describes filename sql⟩
    · intro _ row hrow
      rw [map_append]
      exact mem_append_left _ (hcompared row hrow)
    · intro _ e he
      rw [map_append]
      rcases mem_append.mp he with hold | hnew
      · exact mem_append_left _ (hwrote e hold)
      · rw [mem_singleton] at hnew
        subst hnew
        exact mem_append_right _ (mem_singleton_self _)
  case isFalse =>
    exact ⟨nofun, never, nofun, never, h.verified, nofun, never, never, nofun⟩

theorem applied_executed (r : MigrateRun) (filename : String) (sql : Text) (todo : List String)
    (acknowledged : Bool) :
    (r.applied filename sql todo acknowledged).executed = r.executed ++ [(filename, sql)] := by
  unfold MigrateRun.applied
  split <;> rfl

end Advance

/-! ## All of them -/

def Sent (runs : List MigrateRun) (run : Nat) (body : String × Text) : Prop :=
  ∃ r, runs[run]? = some r ∧ body ∈ r.executed

structure SiteSound (start : List LedgerRow) (s : Site) : Prop where
  current : s.disk ∈ s.disks
  declared : ∀ d ∈ s.declared, d ∈ s.declarations
  runs : ∀ (run : Nat) (r : MigrateRun), s.runs[run]? = some r → RunSound s.disks s.declarations r
  rows : s.ledger = start ++ s.commits.map Commit.row
  digests : ∀ c ∈ s.commits, c.row.filename = c.filename ∧ c.row.Describes c.sql
  once : (s.ledger.map LedgerRow.filename).Nodup
  sent : ∀ e ∈ s.executions, Sent s.runs e.run (e.filename, e.sql)
  committed : ∀ c ∈ s.commits, Sent s.runs c.run (c.filename, c.sql)
  compared : ∀ e ∈ s.executions, ∀ row ∈ e.ledger,
    ∃ sql, Available s.disks e.config row.filename sql ∧ row.Describes sql
  admitted : ∀ e ∈ s.executions, e.config.dir ≠ e.config.canonicalMigrationsDir →
    Admitted s.declarations e.config { file := e.filename, sha256 := canonicalChecksum e.sql }

section Runs

variable {start : List LedgerRow} {s : Site} {runs : List MigrateRun} {r' : MigrateRun}
  {body : String × Text} {run : Nat} {i : Nat} {sql : Text}

theorem SiteSound.mono (h : SiteSound start s) {disk : Disk} {disks : List Disk}
    (hdisks : s.disks ⊆ disks) (hdeclarations : s.declarations ⊆ declarations)
    (hdisk : disk ∈ disks) (hdeclared : ∀ d ∈ declared, d ∈ declarations) : SiteSound start { s with
      disk := disk
      declared := declared
      disks := disks
      declarations := declarations } where
  current := hdisk
  declared := hdeclared
  runs := fun run r hr => (h.runs run r hr).mono hdisks hdeclarations
  rows := h.rows
  digests := h.digests
  once := h.once
  sent := h.sent
  committed := h.committed
  compared := by
    intro e he row hrow
    obtain ⟨sql, havailable, hdescribes⟩ := h.compared e he row hrow
    exact ⟨sql, havailable.mono hdisks, hdescribes⟩
  admitted := fun e he hdir => (h.admitted e he hdir).mono hdeclarations

theorem Sent.append (h : Sent runs run body)
    (more : List MigrateRun) : Sent (runs ++ more) run body := by
  obtain ⟨r, hr, hbody⟩ := h
  have hlt := (List.getElem?_eq_some_iff.mp hr).1
  exact ⟨r, by rw [getElem?_append_left hlt, hr], hbody⟩

theorem Sent.set (h : Sent runs run body) (hi : runs[i]? = some r)
    (hkept : r.executed ⊆ r'.executed) : Sent (runs.set i r') run body := by
  obtain ⟨q, hq, hbody⟩ := h
  rw [Sent]
  by_cases hrun : i = run
  · subst hrun
    rw [hi] at hq
    cases hq
    exact ⟨r', getElem?_set_self (List.getElem?_eq_some_iff.mp hi).1, hkept hbody⟩
  · exact ⟨q, by rw [getElem?_set_ne hrun, hq], hbody⟩

theorem sent_set_self (hi : runs[i]? = some r)
    (hbody : body ∈ r'.executed) : Sent (runs.set i r') i body :=
  ⟨r', getElem?_set_self (List.getElem?_eq_some_iff.mp hi).1, hbody⟩

theorem runs_set {P : MigrateRun → Prop}
    (h : ∀ (run : Nat) (r : MigrateRun), runs[run]? = some r → P r) (hr' : P r') :
    ∀ (run : Nat) (r : MigrateRun), (runs.set i r')[run]? = some r → P r := by
  intro run r hr
  rw [getElem?_set] at hr
  split at hr
  · split at hr
    · cases hr
      exact hr'
    · cases hr
  · exact h run r hr

theorem SiteSound.set (h : SiteSound start s) (hi : s.runs[i]? = some r)
    (hr' : RunSound s.disks s.declarations r') (hkept : r.executed ⊆ r'.executed) :
    SiteSound start { s with runs := s.runs.set i r' } where
  current := h.current
  declared := h.declared
  runs := runs_set h.runs hr'
  rows := h.rows
  digests := h.digests
  once := h.once
  sent := fun e he => (h.sent e he).set hi hkept
  committed := fun c hc => (h.committed c hc).set hi hkept
  compared := h.compared
  admitted := h.admitted

/-- The rows a lone run executes a body over are all among those it has matched. -/
theorem RunSound.matched (h : RunSound s.disks s.declarations r) (hp : r.phase.applies = true)
    {ledger : List LedgerRow}
    (alone : ∀ row ∈ ledger, row ∈ r.ledger ∨ row ∈ r.executed.map fun e => ledgerRow e.1 e.2) :
    ∀ row ∈ ledger, ∃ sql, Available s.disks r.config row.filename sql ∧ row.Describes sql := by
  intro row hrow
  have hmatched : row ∈ r.verified.map Prod.fst := by
    rcases alone row hrow with hread | hwritten
    · exact h.compared hp row hread
    · obtain ⟨e, he, rfl⟩ := mem_map.mp hwritten
      exact h.wrote hp e he
  obtain ⟨p, hp, rfl⟩ := mem_map.mp hmatched
  exact ⟨p.2, h.verified p hp⟩

theorem SiteSound.send (h : SiteSound start s) (hr : s.runs[run]? = some r)
    (hp : r.phase = .executing filename sql todo) (alone : ∀ row ∈ s.ledger,
      row ∈ r.ledger ∨ row ∈ r.executed.map fun e => ledgerRow e.1 e.2)
    (acknowledged : Bool) : SiteSound start { s with
      executions := s.executions ++ [(⟨run, r.config, filename, sql, s.ledger⟩ : Execution)]
      runs := s.runs.set run (r.applied filename sql todo acknowledged) } := by
  have hrun := h.runs run r hr
  have hkept : r.executed ⊆ (r.applied filename sql todo acknowledged).executed := by
    rw [applied_executed]
    exact subset_append_left _ _
  have hset := h.set hr (applied_sound hrun hp acknowledged) hkept
  refine ⟨h.current, h.declared, hset.runs, h.rows, h.digests, h.once, ?_, hset.committed, ?_, ?_⟩
  · intro e he
    rcases mem_append.mp he with hold | hnew
    · exact hset.sent e hold
    · rw [mem_singleton] at hnew
      subst hnew
      refine sent_set_self hr ?_
      rw [applied_executed]
      exact mem_append_right _ (mem_singleton_self _)
  · intro e he
    rcases mem_append.mp he with hold | hnew
    · exact h.compared e hold
    · rw [mem_singleton] at hnew
      subst hnew
      exact hrun.matched (by rw [hp]; rfl) alone
  · intro e he hdir
    rcases mem_append.mp he with hold | hnew
    · exact h.admitted e hold hdir
    · rw [mem_singleton] at hnew
      subst hnew
      have hobserved := (hrun.reads filename sql todo hp).2.resolve_left hdir
      exact hrun.decided (by rw [hp]; rfl) _ hobserved

theorem SiteSound.commit (h : SiteSound start s) (hnew : filename ∉ s.ledger.map LedgerRow.filename)
    (hsent : Sent s.runs run (filename, sql)) :
    SiteSound start { s with
      ledger := s.ledger ++ [ledgerRow filename sql]
      commits := s.commits ++ [(⟨run, filename, sql, ledgerRow filename sql⟩ : Commit)] } := by
  refine ⟨h.current, h.declared, h.runs, ?_, ?_, ?_, h.sent, ?_, h.compared, h.admitted⟩
  · rw [map_append, ← append_assoc, ← h.rows]
    rfl
  · intro c hc
    rcases mem_append.mp hc with hold | hlast
    · exact h.digests c hold
    · rw [mem_singleton] at hlast
      subst hlast
      exact ⟨rfl, ledgerRow_describes filename sql⟩
  · rw [map_append]
    refine nodup_append.mpr ⟨h.once, nodup_singleton _, ?_⟩
    intro name hname other hother
    rw [map_singleton, mem_singleton] at hother
    subst hother
    exact fun he => hnew (he ▸ hname)
  · intro c hc
    rcases mem_append.mp hc with hold | hlast
    · exact h.committed c hold
    · rw [mem_singleton] at hlast
      subst hlast
      exact hsent

end Runs

namespace Host

def lower (s : String) : String := String.ofList (s.toList.map Char.toLower)

def fixture : Text := "CREATE TABLE c ();".toList

def disk : Disk := fun dir =>
  if dir = "/srv/migrations" then some [("001_base.sql", "CREATE TABLE a ();".toList)]
  else if dir = "/srv/fixtures" then some [("002_fixture.sql", fixture)]
  else if dir = "/srv/Migrations" then some [("001_base.sql", "CREATE TABLE b ();".toList)]
  else none

def config (dir : Option String) : RunConfig where
  migrationsDir := dir
  canonicalMigrationsDir := "/srv/migrations"
  chainFromEnv := none

/-- One run, to its first commit. -/
def turns (dir : Option String) : List Turn :=
  .start (config dir) :: List.replicate 5 (.advance 0) ++ [.execute 0 some true]

def edited : Disk := fun dir =>
  if dir = "/srv/fixtures" then some [("002_fixture.sql", "DROP TABLE a;".toList)] else disk dir

end Host

end Dealership.Migrations
