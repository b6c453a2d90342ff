import Dealership.Jacket.Certificate

/-!
# Signing

A signature is four recorded instants (viewed, consented, intent confirmed,
signed), each refused unless the one before it happened, and a digest over the
bound package, the signer, the consent version, the words of intent and the
instant.  The customer arrives through a token, the dealer's representative
through their staff session; both end in `signWithin`.

The trigger that binds a signature reads the same ceremony and package again
under the same locks and refuses what `signContext` and `SignInput.refusal` have
refused already, so it is not repeated here.
-/

namespace Dealership.Jacket

open Library

variable {db : Cabinet} {signer : Signer}

inductive SignerLaneOutcome (α : Type) where
  | ok (value : α)
  | not_found
  | expired
  | closed (state : String)
  | invalid (error : String)

inductive NextStep where
  | consent | sign | wait_for_turn | done | closed

structure SignerSession where
  signer : Signer
  ceremony : Ceremony
  package : Package
  jacket : DealJacket
  signers : List Signer
  documents : List PackageDocument
  fields : List AssembledField
  nextStep : NextStep

def loadCeremonyContext (db : Cabinet) (signer : Signer) :
    Option (Ceremony × Package × DealJacket) :=
  match db.signing_ceremonies.find? fun c => c.ceremony_id = signer.ceremony_id with
  | none => none
  | some c =>
    match db.jacket_packages.find? (fun p => p.package_id = c.package_id),
        db.deal_jackets.find? (fun j => j.jacket_id = c.jacket_id) with
    | some p, some j => some (c, p, j)
    | _, _ => none

def nextStepFor (signer : Signer) (signers : List Signer) (ceremony : Ceremony) : NextStep :=
  if signer.state = .signed ∨ signer.state = .declined then .done
  else if ¬ ceremony.state.isOpen then .closed
  else if signer.consented_at = none then .consent
  else if signers.any fun s => s.signing_order < signer.signing_order && s.state ≠ .signed then
    .wait_for_turn
  else .sign

def fieldsOfPackageWithin (db : Cabinet) (packageId : String) : List AssembledField :=
  ((db.package_fields.filter fun f => f.1 = packageId).map (·.2)).insertionSort
    fun a b => jsLe a.fieldCode b.fieldCode

def sessionOf (db : Cabinet) (signer : Signer) : Option SignerSession :=
  (loadCeremonyContext db signer).map fun (c, p, j) =>
    { signer
      ceremony := c
      package := p
      jacket := j
      signers := signersOfCeremonyWithin db c.ceremony_id
      documents := documentsOfPackageWithin db p.package_id
      fields := fieldsOfPackageWithin db p.package_id
      nextStep := nextStepFor signer (signersOfCeremonyWithin db c.ceremony_id) c }

/-- A session, or `not_found`. -/
def sessionOutcome (db : Cabinet) (signer : Signer) : SignerLaneOutcome SignerSession :=
  (sessionOf db signer).elim .not_found .ok

/-- Resolve the random part of a lane token to its signer row. -/
def signerByTokenWithin (db : Cabinet) (token : String) : Option Signer :=
  db.ceremony_signers.find? fun s =>
    s.token_sha256 = some (tokenDigest token) ∧ s.lane = .signer_token

/-- `signer.tokenExpiresAt <= now`, as texts. -/
def tokenExpired (signer : Signer) (now : String) : Bool :=
  signer.token_expires_at.any fun t => jsLe (isoOfDate t) now

/-- Why a link leads to no signer. -/
inductive LinkRefusal where
  | not_found | expired

/-- What a lane token leads to before the operation itself looks: its signer,
or the answer.  A token of another dealership is looked up among the rows of
that dealership, where this one has nothing to say. -/
def laneSigner (w : JacketWorld) (db : Cabinet) (laneToken now : String) :
    Except LinkRefusal Signer :=
  match splitLaneToken laneToken with
  | none => .error .not_found
  | some (tenantId, token) =>
    if tenantId ≠ w.tenantId then .error .not_found
    else
      match signerByTokenWithin db token with
      | none => .error .not_found
      | some signer => if tokenExpired signer now then .error .expired else .ok signer

/-! ## Viewing and consenting -/

def signerEvent (signer : Signer) (eventType : String) (lane : EventLane)
    (actorUserLinkId : Option String) : CeremonyEvent where
  ceremony_id := signer.ceremony_id
  signer_id := some signer.signer_id
  event_type := eventType
  lane
  actor_user_link_id := actorUserLinkId

/-- `UPDATE ceremony_signers SET f WHERE signer_id = …`. -/
def Cabinet.updateSigner (signerId : String) (f : Signer → Signer) (db : Cabinet) : Cabinet :=
  db.updateSigners (fun s => s.signer_id = signerId) f

/-- The columns the first look sets. -/
def Signer.looked (now : Int) (s : Signer) : Signer :=
  { s.moved .viewed with viewed_at := some now }

/-- The first look is recorded as an instant. -/
def viewWithin (w : JacketWorld) (db : Cabinet) (signer : Signer) : Signer × Cabinet :=
  if signer.viewed_at = none ∧ (signer.state = .pending ∨ signer.state = .invited) then
    (signer.looked w.now, (db.updateSigner signer.signer_id (Signer.looked w.now)
      ).recordCeremonyEventWithin (signerEvent signer "signer.viewed" .signer none))
  else (signer, db)

def openSignerSession (w : JacketWorld) (db : Cabinet) (laneToken now : String) :
    SignerLaneOutcome SignerSession × Cabinet :=
  match laneSigner w db laneToken now with
  | .error .not_found => (.not_found, db)
  | .error .expired => (.expired, db)
  | .ok signer =>
    let viewed := viewWithin w db signer
    (sessionOutcome viewed.2 viewed.1, viewed.2)

/-- The columns a consent sets. -/
def Signer.agreed (consentTextVersion : String) (now : Int) (s : Signer) : Signer :=
  { s.moved .consented with
    consented_at := some now
    consent_text_version := some consentTextVersion
    viewed_at := s.viewed_at.or (some now) }

/-- What `consentWithin` answers without writing, in order. -/
def consentRefusal (db : Cabinet) (signer : Signer) (consentTextVersion : String) :
    Option (SignerLaneOutcome Signer) :=
  if consentTextVersion ≠ CONSENT_TEXT_VERSION then
    some (.invalid ("the consent shown was version " ++ CONSENT_TEXT_VERSION ++ "; " ++
      consentTextVersion ++ " is not it"))
  else if signer.consented_at.isSome then some (.ok signer)
  else if signer.state = .declined ∨ signer.state = .expired then some (.closed signer.state.text)
  else
    match db.signing_ceremonies.find? fun c => c.ceremony_id = signer.ceremony_id with
    | none => some .not_found
    | some c => if ¬ c.state.isOpen then some (.closed c.state.text) else none

def consentWithin (w : JacketWorld) (db : Cabinet) (signer : Signer) (consentTextVersion : String)
    (lane : EventLane) (actorUserLinkId : Option String) : SignerLaneOutcome Signer × Cabinet :=
  match consentRefusal db signer consentTextVersion with
  | some out => (out, db)
  | none =>
    (.ok (signer.agreed consentTextVersion w.now),
      (db.updateSigner signer.signer_id (Signer.agreed consentTextVersion w.now)
        ).recordCeremonyEventWithin (signerEvent signer "signer.consented" lane actorUserLinkId))

/-- The customer agrees to electronic records, naming the version they read. -/
def consentToElectronicRecords (w : JacketWorld) (db : Cabinet)
    (laneToken consentTextVersion now : String) : SignerLaneOutcome SignerSession × Cabinet :=
  match laneSigner w db laneToken now with
  | .error .not_found => (.not_found, db)
  | .error .expired => (.expired, db)
  | .ok signer =>
    match consentWithin w db signer consentTextVersion .signer none with
    | (.ok view, db) => (sessionOutcome db view, db)
    | (.not_found, db) => (.not_found, db)
    | (.expired, db) => (.expired, db)
    | (.closed state, db) => (.closed state, db)
    | (.invalid error, db) => (.invalid error, db)

/-! ## signWithin -/

inductive SignOutcome where
  | signed (signer : Signer) (ceremony : Ceremony) (package : Package) (completed : Bool)
  | already_signed (signer : Signer)
  | out_of_order (waitingOn : List Signer)
  | hash_mismatch (boundPackageSha256 : Digest)
  | consent_required
  | closed (state : String)
  | expired
  | invalid (error : String)
  | not_found

structure SignInput where
  packageSha256 : String
  intentStatement : String

/-- The ceremony and package a signer signs in, or the answer given before the
clock is read. -/
def signContext (db : Cabinet) (signer : Signer) : Except SignOutcome (Ceremony × Package) :=
  if signer.state = .signed then .error (.already_signed signer)
  else if signer.state = .declined ∨ signer.state = .expired then
    .error (.closed signer.state.text)
  else
    match loadCeremonyContext db signer with
    | none => .error .not_found
    | some (ceremony, pkg, _) =>
      if ¬ ceremony.state.isOpen then .error (.closed ceremony.state.text)
      else if ¬ pkg.state.signable then .error (.closed pkg.state.text)
      else if signer.consented_at = none then .error .consent_required
      else .ok (ceremony, pkg)

/-- `GREATEST(NOW(), consented_at, $3::timestamptz)`. -/
def signingInstant (now : Int) (consentedAt : Option Int) (callerNow : Int) : Int :=
  max (max now (consentedAt.getD now)) callerNow

/-- `ceremony.expiresAt <= signedAt`: the text of the view's instant against the
text of the database's, compared as strings. -/
def expiredAt (ceremony : Ceremony) (instant : Int) : Bool :=
  jsLe (isoOfDate ceremony.expires_at) (toCharMicros instant)

/-- The signers whose turn comes before. -/
def waitingOn (db : Cabinet) (signer : Signer) (ceremony : Ceremony) : List Signer :=
  (signersOfCeremonyWithin db ceremony.ceremony_id).filter fun s =>
    s.signing_order < signer.signing_order && s.state ≠ .signed

/-- What is answered once the clock is read, in order. -/
def SignInput.refusal (input : SignInput) (db : Cabinet) (signer : Signer) (ceremony : Ceremony)
    (pkg : Package) (instant : Int) : Option SignOutcome :=
  if expiredAt ceremony instant then some .expired
  else if input.intentStatement ≠ INTENT_STATEMENT then
    some (.invalid "the statement of intent is confirmed in its own words")
  else if ¬ digestsEqual input.packageSha256 ceremony.bound_package_sha256.text ∨
      pkg.package_sha256 ≠ some ceremony.bound_package_sha256 then
    some (.hash_mismatch ceremony.bound_package_sha256)
  else if waitingOn db signer ceremony ≠ [] then some (.out_of_order (waitingOn db signer ceremony))
  else none

/-- `signatureSha256`, with the instant at the database's own precision. -/
def signatureOf (ceremony : Ceremony) (signer : Signer) (instant : Int) : Digest :=
  digestOf (SignatureRecord.value
    { bound_package_sha256 := ceremony.bound_package_sha256
      signer_id := signer.signer_id
      role := signer.signer_role
      lane := signer.lane
      consent_text_version := signer.consent_text_version
      intent_statement := INTENT_STATEMENT
      signed_at := some (toCharMicros instant) })

/-- The columns a signature sets.  The text is cast back to the instant it was
written from. -/
def Signer.sign (instant : Int) (signature : Digest) (s : Signer) : Signer :=
  { s.moved .signed with
    intent_confirmed_at := some instant
    signed_at := some instant
    signature_sha256 := some signature }

/-- The columns the last signature sets on the ceremony. -/
def Ceremony.completedAt (instant : Int) (certificateSha256 : Digest) (c : Ceremony) : Ceremony :=
  { c.moved .completed with
    completed_at := some instant
    completion_certificate_sha256 := some certificateSha256 }

def recordProgress (ceremony : Ceremony) (pkg : Package) (db : Cabinet) :
    Except Raise Cabinet := do
  let db := db.updateCeremonies (fun c => c.ceremony_id = ceremony.ceremony_id)
    (Ceremony.moved .in_progress)
  updatePackages (fun p => p.package_id = pkg.package_id && p.state = .sent)
    (Package.moved .partially_signed none) db

/-- The last signer has signed: the certificate, and the three states it closes. -/
def recordCompletion (ceremony : Ceremony) (pkg : Package) (instant : Int) (db : Cabinet) :
    Except Raise Cabinet := do
  let bytes := (certificate ceremony pkg (documentsOfPackageWithin db pkg.package_id)
    (signersOfCeremonyWithin db ceremony.ceremony_id)).bytes
  let db := db.insertBlob
    ⟨sha256Hex bytes.toList, "application/json", (Sha256.utf8 bytes.toList).length, bytes⟩
  let db := db.updateCeremonies (fun c => c.ceremony_id = ceremony.ceremony_id)
    (Ceremony.completedAt instant (sha256Hex bytes.toList))
  let db ← updatePackages (fun p => p.package_id = pkg.package_id)
    (Package.moved .signed_complete none) db
  pure ((db.updateJacket ceremony.jacket_id (DealJacket.moved .signed_complete)
    ).recordCeremonyEventWithin
      { ceremony_id := ceremony.ceremony_id
        signer_id := none
        event_type := "ceremony.completed"
        lane := .system
        actor_user_link_id := none })

/-- The rows after the signer's own: everything that depends on whether the
ceremony is complete. -/
def recordSignature (ceremony : Ceremony) (pkg : Package) (instant : Int) (db : Cabinet) :
    Except Raise Cabinet :=
  if (signersOfCeremonyWithin db ceremony.ceremony_id).all fun s => s.state = .signed then
    recordCompletion ceremony pkg instant db
  else recordProgress ceremony pkg db

/-- What is answered to a signature that was recorded: the rows as they stand. -/
def signedOutcome (db : Cabinet) (signer : Signer) (ceremony : Ceremony) (pkg : Package) :
    SignOutcome :=
  .signed signer
    ((db.signing_ceremonies.find? fun c => c.ceremony_id = ceremony.ceremony_id).getD ceremony)
    ((db.jacket_packages.find? fun p => p.package_id = pkg.package_id).getD pkg)
    ((signersOfCeremonyWithin db ceremony.ceremony_id).all fun s => s.state = .signed)

def writeSignature (db : Cabinet) (signer : Signer) (ceremony : Ceremony) (pkg : Package)
    (instant : Int) (lane : EventLane) (actorUserLinkId : Option String) :
    Except Raise (SignOutcome × Cabinet) := do
  let sign := Signer.sign instant (signatureOf ceremony signer instant)
  let db := (db.updateSigner signer.signer_id sign).recordCeremonyEventWithin
    (signerEvent signer "signer.signed" lane actorUserLinkId)
  let db ← recordSignature ceremony pkg instant db
  pure (signedOutcome db (sign signer) ceremony pkg, db)

def signWithin (w : JacketWorld) (db : Cabinet) (signer : Signer) (input : SignInput)
    (lane : EventLane) (actorUserLinkId : Option String) (now : String) :
    Except Raise (SignOutcome × Cabinet) :=
  match signContext db signer with
  | .error out => pure (out, db)
  | .ok (ceremony, pkg) => do
    let callerNow ← w.cast now
    let instant := signingInstant w.now signer.consented_at callerNow
    match input.refusal db signer ceremony pkg instant with
    | some out => pure (out, db)
    | none => writeSignature db signer ceremony pkg instant lane actorUserLinkId

theorem refusal_eq_none {input : SignInput} {c : Ceremony} {p : Package} {instant : Int}
    (hlive : expiredAt c instant = false) (hintent : input.intentStatement = INTENT_STATEMENT)
    (hsha : input.packageSha256 = c.bound_package_sha256.text)
    (hpkg : p.package_sha256 = some c.bound_package_sha256) (hturn : waitingOn db signer c = []) :
    input.refusal db signer c p instant = none := by
  simp [SignInput.refusal, hlive, hintent, hsha, hpkg, hturn, digestsEqual_self]

/-- `signWithin` past the context and the clock. -/
theorem signWithin_eq {w : JacketWorld} {input : SignInput} {lane : EventLane}
    {actor : Option String} {now : String} {c : Ceremony} {p : Package} {callerNow instant : Int}
    (hctx : signContext db signer = .ok (c, p)) (hcast : w.cast now = .ok callerNow)
    (hinstant : signingInstant w.now signer.consented_at callerNow = instant) :
    signWithin w db signer input lane actor now =
      match input.refusal db signer c p instant with
      | some out => pure (out, db)
      | none => writeSignature db signer c p instant lane actor := by
  rw [signWithin, hctx]
  dsimp only
  rw [hcast]
  dsimp only [Bind.bind, Except.bind]
  rw [hinstant]

/-! ## The two lanes -/

/-- The customer signs, through their link. -/
def signAsCustomer (w : JacketWorld) (db : Cabinet) (laneToken : String) (input : SignInput)
    (now : String) : Except Raise (SignOutcome × Cabinet) :=
  match laneSigner w db laneToken now with
  | .error .not_found => pure (.not_found, db)
  | .error .expired => pure (.expired, db)
  | .ok signer => signWithin w db signer input .signer none now

structure DealerInput extends SignInput where
  actingUserLinkId : String
  ceremonyId : String
  consentTextVersion : String
  now : Option String

/-- The signer row that names the caller's own user link. -/
def dealerSigner (db : Cabinet) (ceremonyId actor : String) : Option Signer :=
  db.ceremony_signers.find? fun s =>
    s.ceremony_id = ceremonyId ∧ s.lane = .staff_session ∧ s.user_link_id = some actor

/-- The dealer's representative consents and signs through their staff session. -/
def signAsDealerRepresentative (w : JacketWorld) (db : Cabinet) (input : DealerInput) :
    Except Raise (SignOutcome × Cabinet) := do
  let actor ← requireActor w.access input.actingUserLinkId
  match dealerSigner db input.ceremonyId actor with
  | none => pure (.not_found, db)
  | some signer =>
    match consentWithin w db signer input.consentTextVersion .staff (some actor) with
    | (.ok view, db) =>
      signWithin w db view input.toSignInput .staff (some actor) (input.now.getD w.clock)
    | (.invalid error, db) => pure (.invalid error, db)
    | (.closed state, db) => pure (.closed state, db)
    | (.not_found, db) => pure (.not_found, db)
    | (.expired, db) => pure (.not_found, db)

theorem signAsDealerRepresentative_eq {w : JacketWorld} {d : Cabinet} (input : DealerInput)
    {actor : String} {view : Signer} {now : String}
    (hactor : requireActor w.access input.actingUserLinkId = .ok actor)
    (hsigner : dealerSigner db input.ceremonyId actor = some signer)
    (hconsent : consentWithin w db signer input.consentTextVersion .staff (some actor) =
      (.ok view, d)) (hnow : input.now.getD w.clock = now) :
    signAsDealerRepresentative w db input =
      signWithin w d view input.toSignInput .staff (some actor) now := by
  rw [signAsDealerRepresentative, hactor]
  dsimp only [Bind.bind, Except.bind]
  rw [hsigner]
  dsimp only
  rw [hconsent, hnow]

/-! ## Declining -/

inductive DeclineOutcome where
  | declined (signer : Signer) (ceremony : Ceremony) (package : Package)
  | already_declined (signer : Signer)
  | closed (state : String)
  | expired
  | invalid (error : String)
  | not_found

/-- The columns a refusal to sign sets. -/
def Signer.refuse (reason : String) (now : Int) (s : Signer) : Signer :=
  { s.moved .declined with
    declined_at := some now
    decline_reason := some (slice 400 reason) }

/-- The ceremony and package of a signer who declines, or the answer. -/
def declineContext (db : Cabinet) (signer : Signer) (reason : String) :
    Except DeclineOutcome (Ceremony × Package) :=
  if signer.state = .declined then .error (.already_declined signer)
  else if signer.state = .signed then .error (.closed "signed")
  else if isBlank reason then .error (.invalid "declining says why")
  else
    match loadCeremonyContext db signer with
    | none => .error .not_found
    | some (ceremony, pkg, _) =>
      if ¬ ceremony.state.isOpen then .error (.closed ceremony.state.text) else .ok (ceremony, pkg)

/-- The customer declines.  The ceremony ends and the package is voided. -/
def declineAsCustomer (w : JacketWorld) (db : Cabinet) (laneToken reason now : String) :
    Except Raise (DeclineOutcome × Cabinet) :=
  match laneSigner w db laneToken now with
  | .error .not_found => pure (.not_found, db)
  | .error .expired => pure (.expired, db)
  | .ok signer =>
    match declineContext db signer reason with
    | .error out => pure (out, db)
    | .ok (ceremony, pkg) => do
      let db := (db.updateSigner signer.signer_id (Signer.refuse reason w.now)
        ).updateCeremonies (fun c => c.ceremony_id = ceremony.ceremony_id)
          (Ceremony.moved .declined)
      let db ← updatePackages (fun p => p.package_id = pkg.package_id && p.state.signable)
        (Package.moved .voided (some "declined by signer")) db
      pure (.declined (signer.refuse reason w.now) (ceremony.moved .declined)
          (if pkg.state.signable then pkg.moved .voided (some "declined by signer") else pkg),
        db.recordCeremonyEventWithin (signerEvent signer "signer.declined" .signer none))

end Dealership.Jacket
