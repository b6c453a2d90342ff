import Dealership.Jacket.Schema

/-!
# The configuration a checklist is resolved from

Templates, requirements and retention policies are versioned by new rows, each
in force over an interval and within a scope.  A rooftop's own row beats its
legal entity's, which beats the tenant's; an exact transaction type beats `any`.
-/

namespace Dealership.Jacket

open Library

/-- The columns that say where and when a configured row is in force. -/
structure ConfiguredScope where
  jurisdiction : String
  legal_entity_id : Option String
  rooftop_id : Option String
  transaction_type : ConfiguredTransactionType
  effective_from : Int
  effective_to : Option Int
deriving DecidableEq

/-- A row of `document_templates`. -/
structure Template extends ConfiguredScope where
  template_id : String
  template_code : String
  version : Int
  title : String
  document_kind : DocumentKind
  source : String
  approval_status : TemplateApprovalStatus
  body_template : String
  body_sha256 : String
  required_signer_roles : List SignerRole

/-- A row of `document_requirements`. -/
structure Requirement extends ConfiguredScope where
  requirement_id : String
  requirement_code : String
  version : Int
  satisfied_by : SatisfiedBy
  template_code : Option String
  evidence_kind : Option String
  required : Bool
  waivable : Bool
  source : String
deriving DecidableEq

/-- A row of `retention_policies`. -/
structure RetentionPolicy where
  retention_policy_id : String
  policy_code : String
  version : Int
  effective_from : Int
  effective_to : Option Int

structure Configuration where
  document_templates : List Template
  document_requirements : List Requirement
  retention_policies : List RetentionPolicy

/-- The deal a configuration is resolved for, and the instant. -/
structure ResolutionScope where
  jurisdiction : String
  legalEntityId : String
  rooftopId : String
  transactionType : TransactionType
  instant : Int

/-- `effective_from <= t AND (effective_to IS NULL OR effective_to > t)`. -/
def inForce (effectiveFrom : Int) (effectiveTo : Option Int) (t : Int) : Bool :=
  effectiveFrom ≤ t && effectiveTo.all fun e => t < e

/-- `SCOPE_PREDICATE`. -/
def ConfiguredScope.covers (row : ConfiguredScope) (scope : ResolutionScope) : Bool :=
  row.jurisdiction = scope.jurisdiction &&
    (row.legal_entity_id.all fun id => id = scope.legalEntityId) &&
    (row.rooftop_id.all fun id => id = scope.rooftopId) &&
    (row.transaction_type = .only scope.transactionType || row.transaction_type = .any) &&
    inForce row.effective_from row.effective_to scope.instant

/-- How exactly a configured row fits the deal: higher wins. -/
def specificity (row : ConfiguredScope) : Nat :=
  (if row.rooftop_id.isSome then 4 else if row.legal_entity_id.isSome then 2 else 0) +
    if row.transaction_type ≠ .any then 1 else 0

def pickMostSpecific {α : Type} (scopeOf : α → ConfiguredScope) (keyOf : α → String)
    (rows : List α) : Entries String α :=
  pick keyOf (fun row => specificity (scopeOf row)) rows

/-- The weight of a character of a code in the root collation: the underscore
comes before the full stop, and both before digits and letters. -/
def collationWeight (c : Char) : Nat :=
  if c = '_' then 0 else if c = '.' then 1 else c.toNat + 2

/-- `a.localeCompare(b) <= 0` for texts in the alphabet of codes. -/
def localeLe (a b : String) : Bool := a.toList.map collationWeight ≤ b.toList.map collationWeight

structure ResolvedConfiguration where
  requirements : List Requirement
  templatesByCode : Entries String Template
  retention : Option RetentionPolicy

/-- The one policy code every rendered deal document is retained under. -/
def DEAL_DOCUMENT_RETENTION_CODE : String := "deal_jacket_documents"

def resolveConfigurationWithin (configuration : Configuration) (scope : ResolutionScope) :
    ResolvedConfiguration where
  requirements :=
    (pickMostSpecific Requirement.toConfiguredScope (·.requirement_code)
      (configuration.document_requirements.filter fun r => r.covers scope)).values.insertionSort
      fun a b => localeLe a.requirement_code b.requirement_code
  templatesByCode :=
    pickMostSpecific Template.toConfiguredScope (·.template_code)
      (configuration.document_templates.filter fun t => t.covers scope)
  retention :=
    configuration.retention_policies.find? fun r =>
      r.policy_code = DEAL_DOCUMENT_RETENTION_CODE &&
        inForce r.effective_from r.effective_to scope.instant

end Dealership.Jacket
