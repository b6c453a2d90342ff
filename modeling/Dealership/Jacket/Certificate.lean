import Dealership.Jacket.Ceremony

/-!
# The completion certificate

When the last signer signs, the certificate (every signer, every instant, every
digest) is written as indented JSON into a content-addressed blob, and its digest
goes onto the ceremony.  The instants in it are those of the views: the text of
the `Date` the driver hands over, which keeps whole seconds.
-/

namespace Dealership.Jacket

open Library

/-- The words a signer confirms before signing. -/
def INTENT_STATEMENT : String := "I intend to sign every document in this package electronically."

structure SignatureRecord where
  bound_package_sha256 : Digest
  signer_id : String
  role : SignerRole
  lane : Lane
  consent_text_version : Option String
  intent_statement : String
  signed_at : Option String

def SignatureRecord.value (r : SignatureRecord) : Desking.Value :=
  .object
    [ ("bound_package_sha256", some (.string r.bound_package_sha256.text)),
      ("signer_id", some (.string r.signer_id)),
      ("role", some (.string r.role.text)),
      ("lane", some (.string r.lane.text)),
      ("consent_text_version", some (r.consent_text_version.elim .null .string)),
      ("intent_statement", some (.string r.intent_statement)),
      ("signed_at", some (r.signed_at.elim .null .string)) ]

structure CertificateDocument where
  sequence_no : Nat
  title : String
  template_code : Option String
  template_version : Option Int
  template_approval_status : Option TemplateApprovalStatus
  content_sha256 : Digest
  byte_size : Nat

structure CertificateSigner where
  signer_id : String
  role : SignerRole
  lane : Lane
  display_name : String
  signing_authority : String
  identity_assurance : String
  viewed_at : Option String
  consented_at : Option String
  consent_text_version : Option String
  intent_confirmed_at : Option String
  signed_at : Option String
  signature_sha256 : Option Digest

structure Certificate where
  ceremony_id : String
  jacket_id : String
  package_id : String
  package_version_no : Nat
  bound_package_sha256 : Digest
  provider_code : String
  provider_kind : String
  provider_envelope_ref : Option String
  consent_text_version : String
  documents : List CertificateDocument
  signers : List CertificateSigner

def PackageDocument.certified (d : PackageDocument) : CertificateDocument where
  sequence_no := d.sequence_no
  title := d.title
  template_code := d.template.map (·.template_code)
  template_version := d.template.map (·.template_version)
  template_approval_status := d.template.map (·.template_approval_status)
  content_sha256 := d.content_sha256
  byte_size := d.byte_size

/-- A signer's line: the `SignerView` columns it prints. -/
def Signer.certified (s : Signer) : CertificateSigner where
  signer_id := s.signer_id
  role := s.signer_role
  lane := s.lane
  display_name := s.display_name
  signing_authority := s.signing_authority
  identity_assurance := s.identity_assurance
  viewed_at := s.viewed_at.map isoOfDate
  consented_at := s.consented_at.map isoOfDate
  consent_text_version := s.consent_text_version
  intent_confirmed_at := s.intent_confirmed_at.map isoOfDate
  signed_at := s.signed_at.map isoOfDate
  signature_sha256 := s.signature_sha256

/-- Everything that happened. -/
def certificate (ceremony : Ceremony) (pkg : Package) (documents : List PackageDocument)
    (signers : List Signer) : Certificate where
  ceremony_id := ceremony.ceremony_id
  jacket_id := ceremony.jacket_id
  package_id := pkg.package_id
  package_version_no := pkg.version_no
  bound_package_sha256 := ceremony.bound_package_sha256
  provider_code := ceremony.provider_code
  provider_kind := ceremony.provider_kind
  provider_envelope_ref := ceremony.provider_envelope_ref
  consent_text_version := ceremony.consent_text_version
  documents := documents.map PackageDocument.certified
  signers := signers.map Signer.certified

def nullable (s : Option String) : Json := s.elim .null .string

def CertificateDocument.json (d : CertificateDocument) : Json :=
  .object
    [ ("sequence_no", .number d.sequence_no),
      ("title", .string d.title),
      ("template_code", nullable d.template_code),
      ("template_version", d.template_version.elim .null .number),
      ("template_approval_status", nullable (d.template_approval_status.map (·.text))),
      ("content_sha256", .string d.content_sha256.text),
      ("byte_size", .number d.byte_size) ]

def CertificateSigner.json (s : CertificateSigner) : Json :=
  .object
    [ ("signer_id", .string s.signer_id),
      ("role", .string s.role.text),
      ("lane", .string s.lane.text),
      ("display_name", .string s.display_name),
      ("signing_authority", .string s.signing_authority),
      ("identity_assurance", .string s.identity_assurance),
      ("viewed_at", nullable s.viewed_at),
      ("consented_at", nullable s.consented_at),
      ("consent_text_version", nullable s.consent_text_version),
      ("intent_confirmed_at", nullable s.intent_confirmed_at),
      ("signed_at", nullable s.signed_at),
      ("signature_sha256", nullable (s.signature_sha256.map (·.text))) ]

def Certificate.json (c : Certificate) : Json :=
  .object
    [ ("certificate", .string "FBL-140 e-sign completion certificate"),
      ("ceremony_id", .string c.ceremony_id),
      ("jacket_id", .string c.jacket_id),
      ("package_id", .string c.package_id),
      ("package_version_no", .number c.package_version_no),
      ("bound_package_sha256", .string c.bound_package_sha256.text),
      ("provider_code", .string c.provider_code),
      ("provider_kind", .string c.provider_kind),
      ("provider_envelope_ref", nullable c.provider_envelope_ref),
      ("consent_text_version", .string c.consent_text_version),
      ("documents", .array (c.documents.map CertificateDocument.json)),
      ("signers", .array (c.signers.map CertificateSigner.json)) ]

/-- `certificateBytes`: the indented text of the record and a line feed. -/
def Certificate.bytes (c : Certificate) : String := String.ofList (Json.pretty 0 c.json ++ ['\n'])

/-- The signature the values a certificate states would give. -/
def Certificate.redigest (c : Certificate) (s : CertificateSigner) : Digest :=
  digestOf (SignatureRecord.value
    { bound_package_sha256 := c.bound_package_sha256
      signer_id := s.signer_id
      role := s.role
      lane := s.lane
      consent_text_version := s.consent_text_version
      intent_statement := INTENT_STATEMENT
      signed_at := s.signed_at })

end Dealership.Jacket
