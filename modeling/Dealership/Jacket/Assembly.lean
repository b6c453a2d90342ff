import Dealership.Jacket.Checklist
import Dealership.Jacket.Render

/-!
# Assembly

The checklist asks for templates; the templates in force are rendered with the
fields read from the canonical rows, and the documents are written under the
next version of the package.  The version that stands is superseded either way,
a completed one included.  A render that fails writes a voided version and no
document.
-/

namespace Dealership.Jacket

open Library

/-- The documents of a package, `ORDER BY sequence_no`. -/
def documentsOfPackageWithin (db : Cabinet) (packageId : String) : List PackageDocument :=
  (db.package_documents.filter fun d => d.package_id = packageId).insertionSort
    fun a b => a.sequence_no ≤ b.sequence_no

/-! ## Planning -/

structure PlannedDocument where
  item : ChecklistItem
  template : Template

structure RenderFailure where
  templateCode : String
  reason : String

/-- What the plan makes of one item: nothing, a document, or a failure. -/
def planItem (configuration : ResolvedConfiguration) (item : ChecklistItem) :
    Option (Except RenderFailure PlannedDocument) :=
  match item.satisfied_by, item.template_code with
  | .template, some code =>
    if item.state = .waived then none
    else
      match configuration.templatesByCode.get code with
      | none => some (.error ⟨code, "no version of template " ++ code ++
          " is in force for this jurisdiction, scope and transaction type"⟩)
      | some template =>
        if template.approval_status = .withdrawn then
          some (.error ⟨code, "template " ++ code ++ " version " ++ decimal template.version ++
            " is withdrawn"⟩)
        else some (.ok ⟨item, template⟩)
  | _, _ => none

structure DocumentPlan where
  planned : List PlannedDocument
  failures : List RenderFailure

/-- The templates the checklist asks for, in force now; and the ones it cannot find. -/
def planDocuments (items : List ChecklistItem) (configuration : ResolvedConfiguration) :
    DocumentPlan where
  planned := (items.filterMap (planItem configuration)).filterMap fun r => r.toOption
  failures := (items.filterMap (planItem configuration)).filterMap fun r =>
    match r with
    | .error f => some f
    | .ok _ => none

/-- The version the next one supersedes: the live package if there is one, else
the completed package. -/
def predecessorPackageWithin (db : Cabinet) (jacketId : String) : Option Package :=
  ((db.jacket_packages.filter fun p => p.jacket_id = jacketId ∧ p.state.standing).insertionSort
    fun a b => b.version_no ≤ a.version_no).head?

/-- Whether the jacket is under a legal hold right now: the last hold event says. -/
def jacketHeldWithin (s : Sources) (jacketId : String) : Bool :=
  (((s.legal_hold_events.filter fun e => e.jacket_id = jacketId).insertionSort
    fun a b => b.occurred_at < a.occurred_at ||
      (a.occurred_at = b.occurred_at && jsLe b.hold_event_id a.hold_event_id)).head?).any (·.placed)

def templateLine (code : String) (version : Int) (sha256 : String) : Desking.Value :=
  .string (code ++ ":" ++ decimal version ++ ":" ++ sha256)

/-- The template versions a package would be rendered from, as a digest. -/
def templatesDigest (planned : List PlannedDocument) : Digest :=
  digestOf (.array (planned.map fun p =>
    templateLine p.template.template_code p.template.version p.template.body_sha256))

/-- The template versions a package was rendered from, as a digest. -/
def templatesDigestOfPackage (db : Cabinet) (packageId : String) : Digest :=
  digestOf (.array ((documentsOfPackageWithin db packageId).filterMap fun d =>
    d.template.map fun t => templateLine t.template_code t.template_version t.template_sha256))

/-! ## Rendering -/

def PlannedDocument.renderInput (p : PlannedDocument) (fields : List AssembledField)
    (packageVersionNo : Nat) : RenderInput where
  title := p.template.title
  templateCode := p.template.template_code
  templateVersion := p.template.version
  bodyTemplate := p.template.body_template
  approvalStatus := p.template.approval_status
  source := p.template.source
  jurisdiction := p.template.jurisdiction
  fields
  packageVersionNo

structure RenderedDocument where
  plan : PlannedDocument
  html : String

/-- A planned document, rendered; or why it does not render. -/
def PlannedDocument.render (fields : List AssembledField) (packageVersionNo : Nat)
    (p : PlannedDocument) : Except RenderFailure RenderedDocument :=
  match renderDocument (p.renderInput fields packageVersionNo) with
  | .rendered html _ => .ok ⟨p, html⟩
  | .unresolved missing => .error ⟨p.template.template_code,
      "template " ++ p.template.template_code ++ " version " ++ decimal p.template.version ++
        " names fields this deal does not carry: " ++ ", ".intercalate missing⟩

/-- Everything that is decided before anything is written. -/
structure Assembly where
  fields : List AssembledField
  items : List ChecklistItem
  retention : RetentionPolicy
  plan : DocumentPlan
  predecessor : Option Package
  versionNo : Nat

namespace Assembly

def rendered (a : Assembly) : List RenderedDocument :=
  a.plan.planned.filterMap fun p => (p.render a.fields a.versionNo).toOption

def renderFailures (a : Assembly) : List RenderFailure :=
  a.plan.failures ++ a.plan.planned.filterMap fun p =>
    match p.render a.fields a.versionNo with
    | .error f => some f
    | .ok _ => none

def failed (a : Assembly) : Bool := !a.renderFailures.isEmpty

def carriesUnapproved (a : Assembly) : Bool :=
  a.rendered.any fun r => r.plan.template.approval_status ≠ .approved

def hasWaivers (a : Assembly) : Bool := a.items.any fun i => i.state = .waived

/-- The same fields and the same templates as the version that stands. -/
def current (a : Assembly) (db : Cabinet) : Option Package :=
  a.predecessor.filter fun p =>
    p.fields_sha256 = fieldsDigest a.fields && 0 < p.document_count && a.plan.failures.isEmpty &&
      templatesDigestOfPackage db p.package_id = templatesDigest a.plan.planned

end Assembly

/-! ## Writing -/

inductive AssembleOutcome where
  | assembled (package : Package) (documents : List PackageDocument)
      (supersededPackageId : Option String)
  | already_current (package : Package) (documents : List PackageDocument)
  | render_failed (package : Package) (failures : List RenderFailure)
  | stale_source (boundVersionNo : Nat) (currentVersionNo : Option Nat)
  | version_conflict (currentVersion : Nat)
  | invalid (error : String)
  | not_found

/-- `COALESCE(MAX(version_no), 0) + 1`. -/
def nextVersionNo (db : Cabinet) (jacketId : String) : Nat :=
  ((db.jacket_packages.filter fun p => p.jacket_id = jacketId).map (·.version_no)).foldl max 0 + 1

/-- The predecessor steps aside, and so does its ceremony when it is unfinished. -/
def supersede (a : Assembly) (db : Cabinet) : Except Raise Cabinet :=
  match a.predecessor with
  | none => pure db
  | some p => do
    let db ← updatePackages (fun k => k.package_id = p.package_id)
      (Package.moved .superseded (some ("superseded by version " ++ decimal a.versionNo))) db
    pure (db.updateCeremonies (fun c => c.package_id = p.package_id && c.state.unfinished)
      (Ceremony.moved .voided))

/-- The row of the new version, before anything is rendered into it. -/
def Assembly.package (a : Assembly) (w : JacketWorld) (actor : String) (jacket : DealJacket) :
    Package where
  package_id := w.newPackageId
  jacket_id := jacket.jacket_id
  rooftop_id := jacket.rooftop_id
  version_no := a.versionNo
  supersedes_package_id := a.predecessor.map (·.package_id)
  state := if a.failed then .voided else .draft
  fields_sha256 := fieldsDigest a.fields
  package_sha256 := none
  document_count := 0
  carries_unapproved_templates := a.carriesUnapproved
  review_required := a.carriesUnapproved || a.hasWaivers
  reviewed_by_user_link_id := none
  reviewed_at := none
  assembled_by_user_link_id := actor
  assembled_at := w.now
  state_reason :=
    if a.failed then
      some (slice 400 ("render failure: " ++ "; ".intercalate (a.renderFailures.map (·.reason))))
    else none
  authorization_version := 1

/-- `field_code ~ '^[a-z0-9_.]{2,60}$'`. -/
def isFieldCode (s : String) : Bool :=
  2 ≤ s.length && s.length ≤ 60 && s.toList.all isCodeChar

/-- `ck_field_shape`: a money field is an integer with a currency, and nothing else is. -/
def AssembledField.shape (f : AssembledField) : Bool :=
  match f.valueKind with
  | .money => f.valueCents.isSome && f.currency.isSome && f.valueText.isNone &&
      f.valueInteger.isNone
  | .integer | .rate_ppm => f.valueInteger.isSome && f.valueCents.isNone && f.currency.isNone &&
      f.valueText.isNone
  | .text | .date => f.valueText.isSome && f.valueCents.isNone && f.valueInteger.isNone &&
      f.currency.isNone

/-- The `CHECK`s of `package_fields`. -/
def AssembledField.checks (f : AssembledField) : Bool :=
  isFieldCode f.fieldCode && f.shape && (f.valueText.all fun t => t.length ≤ 2000) &&
    (f.currency.all fun c => c.length = 3 && c.toList.all fun x => 'A' ≤ x && x ≤ 'Z') &&
    1 ≤ f.sourceVersion.length && f.sourceVersion.length ≤ 80 &&
    (f.valueCents.all Desking.fitsBigint) && (f.valueInteger.all Desking.fitsBigint)

/-- The loop over `INSERT INTO package_fields`. -/
def insertFields (packageId : String) (fields : List AssembledField) (db : Cabinet) :
    Except Raise Cabinet := do
  ensure (fields.all AssembledField.checks) "package_fields CHECK"
  ensure ((fields.map (·.fieldCode)).Nodup) "package_fields_field_key"
  pure { db with package_fields := db.package_fields ++ fields.map (packageId, ·) }

def RenderedDocument.row (r : RenderedDocument) (w : JacketWorld) (packageId : String)
    (retention : RetentionPolicy) (held : Bool) (index : Nat) : PackageDocument where
  document_id := w.newDocumentId index
  package_id := packageId
  sequence_no := index + 1
  document_kind := r.plan.template.document_kind
  title := r.plan.template.title
  template := some
    { template_id := r.plan.template.template_id
      template_code := r.plan.template.template_code
      template_version := r.plan.template.version
      template_sha256 := r.plan.template.body_sha256
      template_approval_status := r.plan.template.approval_status }
  content_sha256 := sha256Hex r.html.toList
  mime_type := RENDERED_MIME
  byte_size := (Sha256.utf8 r.html.toList).length
  retention_policy_id := retention.retention_policy_id
  retention_policy_code := retention.policy_code
  retention_policy_version := retention.version
  legal_hold := held
  rendered_at := w.now

/-- A checklist line now points at this version's document. -/
def ChecklistItem.rendered (documentId : String) (i : ChecklistItem) : ChecklistItem :=
  { i with
    state := .satisfied
    satisfied_document_id := some documentId
    authorization_version := i.authorization_version + 1 }

def storeDocument (db : Cabinet) (r : RenderedDocument × PackageDocument) :
    Except Raise Cabinet := do
  let db := db.insertBlob ⟨r.2.content_sha256, r.2.mime_type, r.2.byte_size, r.1.html⟩
  ensure (db.package_documents.all fun d => d.document_id ≠ r.2.document_id)
    "package_documents_pkey"
  pure (({ db with package_documents := db.package_documents ++ [r.2] } : Cabinet).updateItems
    (fun i => i.jacket_id = r.1.plan.item.jacket_id && i.item_id = r.1.plan.item.item_id &&
      i.state ≠ .waived)
    (ChecklistItem.rendered r.2.document_id))

/-- The digest and the count are set once, when rendering completes. -/
def Package.sealed (packageSha256 : Digest) (documentCount : Nat) (p : Package) : Package :=
  { p with
    package_sha256 := some packageSha256
    document_count := documentCount
    authorization_version := p.authorization_version + 1 }

/-- What a version that rendered leaves: its documents, its digest, and a jacket
that is open paperwork again. -/
def writeRendered (w : JacketWorld) (jacket : DealJacket) (a : Assembly) (package : Package)
    (db : Cabinet) : Except Raise (AssembleOutcome × Cabinet) := do
  let held := jacketHeldWithin w.sources jacket.jacket_id
  let documents := a.rendered.zipIdx.map fun r => r.1.row w package.package_id a.retention held r.2
  let db ← (a.rendered.zip documents).foldlM storeDocument db
  let sealing := Package.sealed (packageHashOf (documents.map (·.content_sha256))) documents.length
  let db ← updatePackages (fun k => k.package_id = package.package_id) sealing db
  pure (.assembled (sealing package) documents (a.predecessor.map (·.package_id)),
    db.updateJacket jacket.jacket_id (DealJacket.moved .open))

def writePackage (w : JacketWorld) (actor : String) (jacket : DealJacket) (a : Assembly)
    (db : Cabinet) : Except Raise (AssembleOutcome × Cabinet) := do
  let db ← supersede a db
  let package := a.package w actor jacket
  let db ← insertPackage package db
  let db ← insertFields package.package_id a.fields db
  if a.failed then
    -- the version of the jacket is bumped, its state is not touched
    pure (.render_failed package a.renderFailures, db.updateJacket jacket.jacket_id
      fun j => { j with authorization_version := j.authorization_version + 1 })
  else writeRendered w jacket a package db

/-! ## assemblePackage -/

structure AssembleInput where
  actingUserLinkId : String
  jacketId : String
  expectedVersion : Nat

/-- The bound version must still be the one the desk stands behind: the refusals
before anything is assembled, in order, or the fact to assemble from. -/
def AssembleInput.fact (input : AssembleInput) (s : Sources) (jacket : DealJacket) :
    Except AssembleOutcome ApprovedDeskingVersion :=
  if jacket.state = .voided then
    .error (.invalid "this jacket was voided; open a new one from the desk’s current approval")
  else
    match currentApprovedFingerprintWithin s jacket.desking_case_id with
    | none => .error (.stale_source jacket.scenario_version_no none)
    | some (scenarioId, versionNo, outputFingerprint) =>
      if scenarioId ≠ jacket.approved_scenario_id ∨
          outputFingerprint ≠ jacket.approved_output_fingerprint then
        .error (.stale_source jacket.scenario_version_no (some versionNo))
      else
        match getApprovedDeskingVersionWithin s jacket.desking_case_id with
        | none => .error (.stale_source jacket.scenario_version_no none)
        | some fact =>
          if jacket.authorization_version ≠ input.expectedVersion then
            .error (.version_conflict jacket.authorization_version)
          else .ok fact

def nothingRequired : AssembleOutcome :=
  .invalid ("no document requirement is configured for this jurisdiction, legal entity, rooftop " ++
    "and transaction type — a package with nothing in it is not a package")

def noRetention : AssembleOutcome :=
  .invalid ("no retention policy deal_jacket_documents is in force — a rendered document must " ++
    "know how long it is kept before it is rendered")

/-- The plan and the version that stands, for an admitted request. -/
def assemblyOf (db : Cabinet) (jacket : DealJacket) (configuration : ResolvedConfiguration)
    (fields : List AssembledField) (retention : RetentionPolicy) : Assembly where
  fields
  items := checklistWithin db jacket.jacket_id
  retention
  plan := planDocuments (checklistWithin db jacket.jacket_id) configuration
  predecessor := predecessorPackageWithin db jacket.jacket_id
  versionNo := nextVersionNo db jacket.jacket_id

/-- Assembly from the bound version, with the configuration in force now. -/
def assembleFrom (w : JacketWorld) (db : Cabinet) (actor : String) (jacket : DealJacket)
    (fact : ApprovedDeskingVersion) : Except Raise (AssembleOutcome × Cabinet) := do
  let fields ← assembleFieldsWithin w.sources jacket fact
  let instant ← w.cast w.clock
  let configuration := resolveConfigurationWithin w.configuration (jacket.scope instant)
  let plan := planDocuments (checklistWithin db jacket.jacket_id) configuration
  if plan.planned.isEmpty ∧ plan.failures.isEmpty then pure (nothingRequired, db)
  else
    match configuration.retention with
    | none => pure (noRetention, db)
    | some retention =>
      let a := assemblyOf db jacket configuration fields retention
      match a.current db with
      | some p => pure (.already_current p (documentsOfPackageWithin db p.package_id), db)
      | none => writePackage w actor jacket a db

def assemblePackage (w : JacketWorld) (db : Cabinet) (input : AssembleInput) :
    Except Raise (AssembleOutcome × Cabinet) := do
  let actor ← requireActor w.access input.actingUserLinkId
  match requireJacketWithin w db actor input.jacketId with
  | none => pure (.not_found, db)
  | some jacket =>
    match input.fact w.sources jacket with
    | .error refusal => pure (refusal, db)
    | .ok fact => assembleFrom w db actor jacket fact

theorem current_eq_none {a : Assembly} (h : a.plan.failures.isEmpty = false) (db : Cabinet) :
    a.current db = none := by
  rw [Assembly.current, Option.filter_eq_none_iff]
  intro p _
  simp [h]

/-- `assemblePackage` past everything that is decided before anything is written. -/
theorem assemblePackage_eq (w : JacketWorld) (db : Cabinet) (input : AssembleInput)
    {actor : String} {jacket : DealJacket} {fact : ApprovedDeskingVersion}
    {fields : List AssembledField} {instant : Int} {configuration : ResolvedConfiguration}
    {retention : RetentionPolicy}
    (hactor : requireActor w.access input.actingUserLinkId = .ok actor)
    (hjacket : requireJacketWithin w db actor input.jacketId = some jacket)
    (hfact : input.fact w.sources jacket = .ok fact)
    (hfields : assembleFieldsWithin w.sources jacket fact = .ok fields)
    (hinstant : w.cast w.clock = .ok instant)
    (hconfiguration :
      resolveConfigurationWithin w.configuration (jacket.scope instant) = configuration)
    (hretention : configuration.retention = some retention)
    (hfailures : (planDocuments (checklistWithin db jacket.jacket_id) configuration
      ).failures.isEmpty = false) :
    assemblePackage w db input =
      writePackage w actor jacket (assemblyOf db jacket configuration fields retention) db := by
  rw [assemblePackage, hactor]
  dsimp only [Bind.bind, Except.bind]
  rw [hjacket]
  dsimp only
  rw [hfact]
  dsimp only
  rw [assembleFrom, hfields]
  dsimp only [Bind.bind, Except.bind]
  rw [hinstant]
  dsimp only
  rw [hconfiguration, if_neg (by simp [hfailures]), hretention]
  dsimp only
  rw [current_eq_none hfailures]

/-- One package by id with its jacket, or `none` when unreachable. -/
def requirePackageWithin (w : JacketWorld) (db : Cabinet) (actor packageId : String) :
    Option (Package × DealJacket) :=
  match db.jacket_packages.find? fun p => p.package_id = packageId with
  | none => none
  | some p =>
    match requireJacketWithin w db actor p.jacket_id with
    | none => none
    | some j => some (p, j)

end Dealership.Jacket
