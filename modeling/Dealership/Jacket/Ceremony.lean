import Dealership.Jacket.Lifecycle

/-!
# Sending: the ceremony is created, bound and delivered

A ceremony binds one package version by its digest.  The customer signs through
a token the table stores only as a digest; the dealer's representative, the
manager who sent the package, signs through their staff session.

A `CeremonyView` and a `SignerView` are the rows with their instants as the texts
of `iso`; the texts are taken where they are compared or printed.
-/

namespace Dealership.Jacket

open Library

def SIGNER_TOKEN_TTL_HOURS : Int := 72
def CEREMONY_TTL_DAYS : Int := 14
def CONSENT_TEXT_VERSION : String := "ESIGN-CONSENT-2026-09"

/-- The signers of a ceremony, `ORDER BY signing_order`. -/
def signersOfCeremonyWithin (db : Cabinet) (ceremonyId : String) : List Signer :=
  (db.ceremony_signers.filter fun s => s.ceremony_id = ceremonyId).insertionSort
    fun a b => a.signing_order ≤ b.signing_order

/-- Signing order: the customer first, a co-buyer next, the dealer last. -/
def ROLE_ORDER : SignerRole → Nat
  | .customer => 1
  | .co_buyer => 2
  | .dealer_representative => 3

/-- Who signs: the union of the required roles of every rendered template. -/
def requiredRoles (w : JacketWorld) (db : Cabinet) (packageId : String) : List SignerRole :=
  let templateIds := (documentsOfPackageWithin db packageId).filterMap fun d =>
    d.template.map (·.template_id)
  let rows := w.configuration.document_templates.filter fun t => t.template_id ∈ templateIds
  (rows.flatMap (·.required_signer_roles)).dedup.insertionSort
    fun a b => ROLE_ORDER a ≤ ROLE_ORDER b

inductive SendOutcome where
  | sent (package : Package) (ceremony : Ceremony) (signers : List Signer)
  | already_sent (package : Package) (ceremony : Ceremony) (signers : List Signer)
  | version_conflict (currentVersion : Nat)
  | invalid (error : String)
  | not_found

structure SendInput extends PackageInput where
  now : Option String

/-- The digest a package is sent under, or what `sendPackage` answers on the
package alone. -/
def SendInput.admits (input : SendInput) (pkg : Package) : Except SendOutcome Digest :=
  if pkg.state ≠ .review_ready then
    .error (.invalid s!"a {pkg.state.text} package is not ready to send")
  else if pkg.review_required ∧ pkg.reviewed_at = none then
    .error (.invalid (if pkg.carries_unapproved_templates then
        "this package carries unapproved sample templates and must be reviewed by a manager before it is sent"
      else
        "this package carries a waived requirement and must be reviewed by a manager before it is sent"))
  else
    match pkg.package_sha256 with
    | none => .error (.invalid "nothing has been rendered into this package")
    | some sha256 =>
      if pkg.authorization_version ≠ input.expectedVersion then
        .error (.version_conflict pkg.authorization_version)
      else .ok sha256

/-- What `sendPackage` answers on the roles that must sign. -/
def rolesRefusal (roles : List SignerRole) : Option SendOutcome :=
  if roles.isEmpty then some (.invalid "no document in this package names a signer")
  else if .co_buyer ∈ roles then
    some (.invalid
      "a document in this package requires a co-buyer, and this phase models no co-buyer on a deal")
  else none

def ceremonyOf (w : JacketWorld) (actor : String) (pkg : Package) (jacket : DealJacket)
    (packageSha256 : Digest) (expiresAt : Int) : Ceremony where
  ceremony_id := w.newCeremonyId
  jacket_id := jacket.jacket_id
  package_id := pkg.package_id
  rooftop_id := jacket.rooftop_id
  provider_code := "simulated_esign"
  provider_kind := "deterministic_simulator"
  provider_envelope_ref := some (simulatedEnvelopeRef w.tenantId w.newCeremonyId)
  bound_package_sha256 := packageSha256
  state := .sent
  consent_text_version := CONSENT_TEXT_VERSION
  sent_at := some w.now
  completed_at := none
  expires_at := expiresAt
  completion_certificate_sha256 := none
  created_by_user_link_id := actor
  created_at := w.now
  authorization_version := 1

/-- The customer's contact: the address when there is one, else the phone. -/
def Party.contact (p : Party) : Option String := p.email.or p.phone

/-- The signer row of a role; a role that is not the customer is the dealer's
representative. -/
def signerOf (w : JacketWorld) (actor : String) (party : Party) (jacket : DealJacket)
    (tokenExpiresAt : Int) (role : SignerRole) : Signer :=
  match role with
  | .customer =>
    { signer_id := w.newSignerId .customer
      ceremony_id := w.newCeremonyId
      signing_order := ROLE_ORDER .customer
      signer_role := .customer
      lane := .signer_token
      party_id := some jacket.party_id
      user_link_id := none
      display_name := party.display_name
      contact_value := party.contact
      signing_authority := "self"
      token_sha256 := some (tokenDigest w.randomToken)
      token_expires_at := some tokenExpiresAt
      identity_assurance := "email_link"
      state := .invited
      invited_at := some w.now
      viewed_at := none
      consented_at := none
      consent_text_version := none
      intent_confirmed_at := none
      signed_at := none
      signature_sha256 := none
      declined_at := none
      decline_reason := none
      authorization_version := 1 }
  | _ =>
    { signer_id := w.newSignerId .dealer_representative
      ceremony_id := w.newCeremonyId
      signing_order := ROLE_ORDER .dealer_representative
      signer_role := .dealer_representative
      lane := .staff_session
      party_id := none
      user_link_id := some actor
      display_name := (w.sources.userLinkName actor).getD "Dealer representative"
      contact_value := none
      signing_authority := "authorised_representative"
      token_sha256 := none
      token_expires_at := none
      identity_assurance := "staff_session"
      state := .invited
      invited_at := some w.now
      viewed_at := none
      consented_at := none
      consent_text_version := none
      intent_confirmed_at := none
      signed_at := none
      signature_sha256 := none
      declined_at := none
      decline_reason := none
      authorization_version := 1 }

def invitationEvent (s : Signer) : CeremonyEvent where
  ceremony_id := s.ceremony_id
  signer_id := some s.signer_id
  event_type :=
    if s.signer_role = .customer ∧ ¬ deliversTo s.contact_value then "signer.invitation_failed"
    else "signer.invited"
  lane := .system
  actor_user_link_id := none

/-- One turn of the loop over the roles. -/
def invite (db : Cabinet) (s : Signer) : Except Raise Cabinet := do
  let db ← insertSigner s db
  pure (db.recordCeremonyEventWithin (invitationEvent s))

def writeCeremony (w : JacketWorld) (actor : String) (pkg : Package) (jacket : DealJacket)
    (packageSha256 : Digest) (roles : List SignerRole) (input : SendInput) (db : Cabinet) :
    Except Raise (SendOutcome × Cabinet) := do
  let party ← firstRow (w.sources.parties.find? fun p => p.party_id = jacket.party_id)
  let now := input.now.getD w.clock
  let expiresAt ← w.isoAfter now (CEREMONY_TTL_DAYS * 86400000)
  let ceremony := ceremonyOf w actor pkg jacket packageSha256 expiresAt
  let inserted ← insertCeremony ceremony db
  let tokenExpiresAt ← w.isoAfter now (SIGNER_TOKEN_TTL_HOURS * 3600000)
  let signers := roles.map (signerOf w actor party jacket tokenExpiresAt)
  let invited ← signers.foldlM invite (inserted.recordCeremonyEventWithin
    { ceremony_id := ceremony.ceremony_id
      signer_id := none
      event_type := "ceremony.created"
      lane := .staff
      actor_user_link_id := some actor })
  let after ← movePackageWithin pkg.package_id (· = .review_ready) .sent none
    input.expectedVersion invited
  match after with
  | none => pure (.version_conflict (pkg.authorization_version + 1), invited)
  | some db => pure (.sent (pkg.moved .sent none) ceremony signers, db)

def sendPackage (w : JacketWorld) (db : Cabinet) (input : SendInput) :
    Except Raise (SendOutcome × Cabinet) := do
  let actor ← requireActor w.access input.actingUserLinkId
  match requirePackageWithin w db actor input.packageId with
  | none => pure (.not_found, db)
  | some (pkg, jacket) =>
    if ¬ w.isEligibleManager actor jacket.rooftop_id then pure (.not_found, db)
    else
      -- the replay answer, before anything else: one ceremony per version
      match db.signing_ceremonies.find? fun c => c.package_id = pkg.package_id with
      | some ceremony =>
        pure (.already_sent pkg ceremony (signersOfCeremonyWithin db ceremony.ceremony_id), db)
      | none =>
        match input.admits pkg with
        | .error out => pure (out, db)
        | .ok packageSha256 =>
          let roles := requiredRoles w db pkg.package_id
          match rolesRefusal roles with
          | some out => pure (out, db)
          | none => writeCeremony w actor pkg jacket packageSha256 roles input db

end Dealership.Jacket
