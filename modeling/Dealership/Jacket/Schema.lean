import Dealership.Jacket.Hashing

/-!
# The tables of the deal jacket

The rows the jacket's commands read and write, column by column, and the
statements that write them behind the constraints and triggers of the migration.
A column whose only reader is a person (`updated_at`, `expires_at` of a package,
which is never set, and the classification and scan columns of a document, which
are written as constants) is left out, and so are the payloads of the events.

Instants are counts of microseconds, the precision of the database.
-/

namespace Dealership.Jacket

open Library

/-! ## Enumerations -/

inductive TransactionType where
  | retail_cash | retail_finance
deriving DecidableEq

def TransactionType.text : TransactionType → String
  | .retail_cash => "retail_cash"
  | .retail_finance => "retail_finance"

inductive ConfiguredTransactionType where
  | only (transactionType : TransactionType)
  | any
deriving DecidableEq

inductive DocumentKind where
  | contract | disclosure | acknowledgement | supporting

inductive TemplateApprovalStatus where
  | unapproved_sample | approved | withdrawn
deriving DecidableEq

def TemplateApprovalStatus.text : TemplateApprovalStatus → String
  | .unapproved_sample => "unapproved_sample"
  | .approved => "approved"
  | .withdrawn => "withdrawn"

inductive SignerRole where
  | customer | co_buyer | dealer_representative
deriving DecidableEq

def SignerRole.text : SignerRole → String
  | .customer => "customer"
  | .co_buyer => "co_buyer"
  | .dealer_representative => "dealer_representative"

inductive Lane where
  | signer_token | staff_session
deriving DecidableEq

def Lane.text : Lane → String
  | .signer_token => "signer_token"
  | .staff_session => "staff_session"

inductive SatisfiedBy where
  | template | evidence
deriving DecidableEq

inductive ChecklistState where
  | missing | satisfied | waived
deriving DecidableEq

inductive JacketState where
  | open | signed_complete | voided
deriving DecidableEq

inductive PackageState where
  | draft | review_ready | sent | partially_signed | signed_complete
  | voided | expired | superseded
deriving DecidableEq

namespace PackageState

def text : PackageState → String
  | draft => "draft"
  | review_ready => "review_ready"
  | sent => "sent"
  | partially_signed => "partially_signed"
  | signed_complete => "signed_complete"
  | voided => "voided"
  | expired => "expired"
  | superseded => "superseded"

/-- `LIVE_PACKAGE_STATES`: the states a package can still move out of by its own
lifecycle. -/
def live : PackageState → Bool
  | draft | review_ready | sent | partially_signed => true
  | signed_complete | voided | expired | superseded => false

/-- The states of a package that the next version supersedes. -/
def standing : PackageState → Bool
  | signed_complete => true
  | s => s.live

def signable : PackageState → Bool
  | sent | partially_signed => true
  | _ => false

end PackageState

inductive CeremonyState where
  | created | sent | in_progress | completed | declined | expired | voided
deriving DecidableEq

namespace CeremonyState

def text : CeremonyState → String
  | created => "created"
  | sent => "sent"
  | in_progress => "in_progress"
  | completed => "completed"
  | declined => "declined"
  | expired => "expired"
  | voided => "voided"

/-- `['sent', 'in_progress']`: the states that admit signatures. -/
def isOpen : CeremonyState → Bool
  | sent | in_progress => true
  | _ => false

/-- `state IN ('created', 'sent', 'in_progress')`. -/
def unfinished : CeremonyState → Bool
  | created => true
  | s => s.isOpen

end CeremonyState

inductive SignerState where
  | pending | invited | viewed | consented | signed | declined | expired
deriving DecidableEq

def SignerState.text : SignerState → String
  | .pending => "pending"
  | .invited => "invited"
  | .viewed => "viewed"
  | .consented => "consented"
  | .signed => "signed"
  | .declined => "declined"
  | .expired => "expired"

/-! ## Rows -/

/-- A row of `deal_jackets`. -/
structure DealJacket where
  jacket_id : String
  legal_entity_id : String
  rooftop_id : String
  desking_case_id : String
  opportunity_id : String
  party_id : String
  stock_item_id : Option String
  appraisal_id : Option String
  appraisal_version_no : Option Int
  approved_scenario_id : String
  scenario_version_no : Nat
  approved_output_fingerprint : String
  approval_id : String
  jurisdiction : String
  transaction_type : TransactionType
  state : JacketState
  opened_by_user_link_id : String
  opened_at : Int
  authorization_version : Nat

/-- A row of `jacket_checklist_items`. -/
structure ChecklistItem where
  item_id : String
  jacket_id : String
  requirement_id : String
  requirement_code : String
  requirement_version : Int
  requirement_source : String
  required : Bool
  waivable : Bool
  satisfied_by : SatisfiedBy
  template_code : Option String
  evidence_kind : Option String
  state : ChecklistState
  satisfied_document_id : Option String
  evidence_uri : Option String
  evidence_sha256 : Option String
  waived_by_user_link_id : Option String
  waiver_reason : Option String
  waiver_policy_version : Option Int
  waiver_evidence_uri : Option String
  waived_at : Option Int
  authorization_version : Nat

/-- A row of `jacket_packages`. -/
structure Package where
  package_id : String
  jacket_id : String
  rooftop_id : String
  version_no : Nat
  supersedes_package_id : Option String
  state : PackageState
  fields_sha256 : Digest
  package_sha256 : Option Digest
  document_count : Nat
  carries_unapproved_templates : Bool
  review_required : Bool
  reviewed_by_user_link_id : Option String
  reviewed_at : Option Int
  assembled_by_user_link_id : String
  assembled_at : Int
  state_reason : Option String
  authorization_version : Nat

inductive FieldValueKind where
  | text | money | integer | rate_ppm | date

def FieldValueKind.name : FieldValueKind → String
  | .text => "text"
  | .money => "money"
  | .integer => "integer"
  | .rate_ppm => "rate_ppm"
  | .date => "date"

/-- One assembled field: a value with its kind and where it came from.  A row of
`package_fields` is one of these under a package. -/
structure AssembledField where
  fieldCode : String
  valueKind : FieldValueKind
  valueText : Option String
  valueCents : Option Int
  valueInteger : Option Int
  currency : Option String
  sourceKind : String
  sourceId : Option String
  sourceVersion : String

/-- The five template columns of a document: all are null or none is. -/
structure TemplateStamp where
  template_id : String
  template_code : String
  template_version : Int
  template_sha256 : String
  template_approval_status : TemplateApprovalStatus

/-- A row of `package_documents`. -/
structure PackageDocument where
  document_id : String
  package_id : String
  sequence_no : Nat
  document_kind : DocumentKind
  title : String
  template : Option TemplateStamp
  content_sha256 : Digest
  mime_type : String
  byte_size : Nat
  retention_policy_id : String
  retention_policy_code : String
  retention_policy_version : Int
  legal_hold : Bool
  rendered_at : Int

/-- A row of `document_blobs`; the content is the text whose UTF-8 bytes are stored. -/
structure Blob where
  content_sha256 : Digest
  mime_type : String
  byte_size : Nat
  content : String

/-- A row of `signing_ceremonies`. -/
structure Ceremony where
  ceremony_id : String
  jacket_id : String
  package_id : String
  rooftop_id : String
  provider_code : String
  provider_kind : String
  provider_envelope_ref : Option String
  bound_package_sha256 : Digest
  state : CeremonyState
  consent_text_version : String
  sent_at : Option Int
  completed_at : Option Int
  expires_at : Int
  completion_certificate_sha256 : Option Digest
  created_by_user_link_id : String
  created_at : Int
  authorization_version : Nat

/-- A row of `ceremony_signers`. -/
structure Signer where
  signer_id : String
  ceremony_id : String
  signing_order : Nat
  signer_role : SignerRole
  lane : Lane
  party_id : Option String
  user_link_id : Option String
  display_name : String
  contact_value : Option String
  signing_authority : String
  token_sha256 : Option Digest
  token_expires_at : Option Int
  identity_assurance : String
  state : SignerState
  invited_at : Option Int
  viewed_at : Option Int
  consented_at : Option Int
  consent_text_version : Option String
  intent_confirmed_at : Option Int
  signed_at : Option Int
  signature_sha256 : Option Digest
  declined_at : Option Int
  decline_reason : Option String
  authorization_version : Nat

inductive EventLane where
  | staff | signer | provider | system
deriving DecidableEq

/-- A row of `ceremony_events`. -/
structure CeremonyEvent where
  ceremony_id : String
  signer_id : Option String
  event_type : String
  lane : EventLane
  actor_user_link_id : Option String

/-- The jacket's rows of one tenant. -/
structure Cabinet where
  deal_jackets : List DealJacket
  jacket_checklist_items : List ChecklistItem
  jacket_packages : List Package
  package_fields : List (String × AssembledField)
  document_blobs : List Blob
  package_documents : List PackageDocument
  signing_ceremonies : List Ceremony
  ceremony_signers : List Signer
  ceremony_events : List CeremonyEvent

/-- A dealership that has opened no jacket yet. -/
def Cabinet.empty : Cabinet := ⟨[], [], [], [], [], [], [], [], []⟩

/-! ## The new values of the columns a statement sets -/

def DealJacket.moved (target : JacketState) (j : DealJacket) : DealJacket :=
  { j with state := target, authorization_version := j.authorization_version + 1 }

/-- A state, a reason kept when none is given, and the version. -/
def Package.moved (target : PackageState) (reason : Option String) (p : Package) : Package :=
  { p with
    state := target
    state_reason := reason.or p.state_reason
    authorization_version := p.authorization_version + 1 }

def Ceremony.moved (target : CeremonyState) (c : Ceremony) : Ceremony :=
  { c with state := target, authorization_version := c.authorization_version + 1 }

def Signer.moved (target : SignerState) (s : Signer) : Signer :=
  { s with state := target, authorization_version := s.authorization_version + 1 }

/-! ## Statements -/

namespace Cabinet

/-- `UPDATE deal_jackets SET f WHERE jacket_id = …`. -/
def updateJacket (jacketId : String) (f : DealJacket → DealJacket) (db : Cabinet) : Cabinet :=
  { db with deal_jackets := updateWhere (fun j => j.jacket_id = jacketId) f db.deal_jackets }

/-- `UPDATE jacket_checklist_items SET f WHERE p`. -/
def updateItems (p : ChecklistItem → Bool) (f : ChecklistItem → ChecklistItem) (db : Cabinet) :
    Cabinet :=
  { db with
    jacket_checklist_items := updateWhere (fun i => p i = true) f db.jacket_checklist_items }

/-- `UPDATE signing_ceremonies SET f WHERE p`. -/
def updateCeremonies (p : Ceremony → Bool) (f : Ceremony → Ceremony) (db : Cabinet) : Cabinet :=
  { db with signing_ceremonies := updateWhere (fun c => p c = true) f db.signing_ceremonies }

/-- `UPDATE ceremony_signers SET f WHERE p`. -/
def updateSigners (p : Signer → Bool) (f : Signer → Signer) (db : Cabinet) : Cabinet :=
  { db with ceremony_signers := updateWhere (fun s => p s = true) f db.ceremony_signers }

/-- `UPDATE jacket_packages SET f WHERE p`, without the triggers. -/
def setPackages (p : Package → Bool) (f : Package → Package) (db : Cabinet) : Cabinet :=
  { db with jacket_packages := updateWhere (fun k => p k = true) f db.jacket_packages }

/-- `recordCeremonyEventWithin`. -/
def recordCeremonyEventWithin (e : CeremonyEvent) (db : Cabinet) : Cabinet :=
  { db with ceremony_events := db.ceremony_events ++ [e] }

/-- `INSERT INTO document_blobs … ON CONFLICT (content_sha256) DO NOTHING`. -/
def insertBlob (b : Blob) (db : Cabinet) : Cabinet :=
  { db with
    document_blobs :=
      if db.document_blobs.any fun r => r.content_sha256 = b.content_sha256 then db.document_blobs
      else db.document_blobs ++ [b] }

end Cabinet

/-- The moves of `state` that `jacket_packages_freeze` lets through. -/
def freezeAllows (old new : PackageState) : Bool :=
  match old with
  | .signed_complete => new = .signed_complete || new = .superseded
  | .voided | .expired | .superseded => new = old
  | .draft | .review_ready | .sent | .partially_signed => true

/-- `uq_jacket_packages_one_live`. -/
def oneLivePerJacket (packages : List Package) : Bool :=
  ((packages.filter fun p => p.state.live).map (·.jacket_id)).Nodup

/-- `UPDATE jacket_packages SET f WHERE p`, behind the freeze trigger and the
partial unique index. -/
def updatePackages (p : Package → Bool) (f : Package → Package) (db : Cabinet) :
    Except Raise Cabinet := do
  ensure ((db.jacket_packages.filter p).all fun k => freezeAllows k.state (f k).state)
    "jacket_packages_freeze"
  ensure (oneLivePerJacket (db.setPackages p f).jacket_packages) "uq_jacket_packages_one_live"
  pure (db.setPackages p f)

/-- `INSERT INTO jacket_packages`. -/
def insertPackage (p : Package) (db : Cabinet) : Except Raise Cabinet := do
  ensure (db.jacket_packages.all fun k => k.package_id ≠ p.package_id) "jacket_packages_pkey"
  ensure (db.jacket_packages.all fun k => ¬ (k.jacket_id = p.jacket_id ∧ k.version_no = p.version_no))
    "jacket_packages_version_key"
  ensure (oneLivePerJacket (db.jacket_packages ++ [p])) "uq_jacket_packages_one_live"
  pure { db with jacket_packages := db.jacket_packages ++ [p] }

/-- `INSERT INTO signing_ceremonies`. -/
def insertCeremony (c : Ceremony) (db : Cabinet) : Except Raise Cabinet := do
  ensure (db.signing_ceremonies.all fun r => r.ceremony_id ≠ c.ceremony_id)
    "signing_ceremonies_pkey"
  ensure (db.signing_ceremonies.all fun r => r.package_id ≠ c.package_id)
    "signing_ceremonies_package_key"
  pure { db with signing_ceremonies := db.signing_ceremonies ++ [c] }

/-- `INSERT INTO ceremony_signers`. -/
def insertSigner (s : Signer) (db : Cabinet) : Except Raise Cabinet := do
  ensure (1 ≤ s.display_name.length && s.display_name.length ≤ 200)
    "ceremony_signers_display_name_check"
  ensure (db.ceremony_signers.all fun r => r.signer_id ≠ s.signer_id) "ceremony_signers_pkey"
  ensure (db.ceremony_signers.all fun r =>
    ¬ (r.ceremony_id = s.ceremony_id ∧ r.signing_order = s.signing_order))
    "ceremony_signers_order_key"
  ensure (s.token_sha256.isNone || db.ceremony_signers.all fun r => r.token_sha256 ≠ s.token_sha256)
    "ceremony_signers_token_sha256_key"
  pure { db with ceremony_signers := db.ceremony_signers ++ [s] }

end Dealership.Jacket
