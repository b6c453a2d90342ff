import Dealership.Jacket.Refinement

/-!
# Packages, ceremonies and signers keep step

After every history a jacket has at most one package that stands, an open
ceremony's state is its package's state and the count of its signatures, a
completed ceremony is one that everybody signed, and a package that ended stays
as it ended.

A ceremony that is voided, declined or expired keeps the signatures it had, so
the count says nothing about a ceremony that is no longer open.
-/

namespace Dealership.Jacket

open Library List

/-- What the three state columns say of each other. -/
structure InStep (db : Cabinet) : Prop where
  packageIds : (db.jacket_packages.map (·.package_id)).Nodup
  /-- A jacket has at most one package in these states. -/
  onePackage : ∀ jacketId, (db.jacket_packages.filter fun p => p.jacket_id = jacketId ∧
    p.state ∈ [.draft, .review_ready, .sent, .partially_signed, .signed_complete]).length ≤ 1
  hasPackage : ∀ c ∈ db.signing_ceremonies, ∃ p ∈ db.jacket_packages, p.package_id = c.package_id
  isOpen : ∀ c ∈ db.signing_ceremonies, ∀ p ∈ db.jacket_packages, p.package_id = c.package_id →
    (c.state ∈ [.sent, .in_progress] ↔ p.state ∈ [.sent, .partially_signed])
  inProgress : ∀ c ∈ db.signing_ceremonies, ∀ p ∈ db.jacket_packages,
    p.package_id = c.package_id → (c.state = .in_progress ↔ p.state = .partially_signed)
  counted : ∀ c ∈ db.signing_ceremonies, c.state ∈ [.sent, .in_progress] →
    (c.state = .in_progress ↔ SomeSigned db.ceremony_signers c.ceremony_id ∧
      ¬ AllSigned db.ceremony_signers c.ceremony_id)
  completed : ∀ c ∈ db.signing_ceremonies,
    c.state = .completed ↔ AllSigned db.ceremony_signers c.ceremony_id
  completedPackage : ∀ c ∈ db.signing_ceremonies, ∀ p ∈ db.jacket_packages,
    p.package_id = c.package_id → c.state = .completed →
      p.state = .signed_complete ∨ p.state = .superseded

/-- Every package is still there; one that was voided, expired or superseded is in
the same state, and one that was complete is complete or superseded. -/
def EndsKept (before after : Cabinet) : Prop :=
  ∀ p ∈ before.jacket_packages, ∃ q ∈ after.jacket_packages, q.package_id = p.package_id ∧
    (p.state ∈ [.voided, .expired, .superseded] → q.state = p.state) ∧
    (p.state = .signed_complete → q.state = .signed_complete ∨ q.state = .superseded)

theorem Coherent.inStep {db : Cabinet} (h : Coherent db) : InStep db where
  packageIds := by
    have hkeys := h.keyed.packages
    rw [map_map] at hkeys
    exact hkeys
  onePackage := by
    intro jacketId
    have hstanding : ∀ s : PackageState,
        s ∈ [.draft, .review_ready, .sent, .partially_signed, .signed_complete] →
          s.standing = true := by
      intro s hs
      cases s <;> first | rfl | exact absurd hs (by decide)
    refine length_le_one_of_forall_eq (h.packages_nodup.filter _) fun p hp q hq => ?_
    rw [mem_filter, decide_eq_true_iff] at hp hq
    exact h.oneStanding p hp.1 q hq.1 (hp.2.1.trans hq.2.1.symm) (hstanding _ hp.2.2)
      (hstanding _ hq.2.2)
  hasPackage := by
    intro c hc
    obtain ⟨p, hp, hid, -⟩ := h.keyed.exists_package hc
    exact ⟨p, hp, hid⟩
  isOpen := by
    intro c hc p hp hid
    have hpair := h.paired c hc p hp hid
    cases hcs : c.state <;> cases hps : p.state <;> rw [hcs, hps] at hpair <;>
      first | decide | exact absurd hpair Bool.false_ne_true
  inProgress := by
    intro c hc p hp hid
    have hpair := h.paired c hc p hp hid
    cases hcs : c.state <;> cases hps : p.state <;> rw [hcs, hps] at hpair <;>
      first | decide | exact absurd hpair Bool.false_ne_true
  counted := by
    intro c hc ho
    have htally := h.tallied c hc
    rw [← someUnsigned_iff_not_allSigned]
    cases hcs : c.state <;> rw [hcs] at htally ho <;> first | exact absurd ho (by decide) | skip
    · exact iff_of_false CeremonyState.noConfusion fun hsome => htally.1 hsome.1
    · exact iff_of_true rfl htally
  completed := by
    intro c hc
    have htally := h.tallied c hc
    cases hcs : c.state <;> rw [hcs] at htally
    case created => exact htally.elim
    case completed =>
      exact iff_of_true rfl (not_not.mp (mt someUnsigned_iff_not_allSigned.mpr htally.2))
    case sent | in_progress =>
      exact iff_of_false CeremonyState.noConfusion (someUnsigned_iff_not_allSigned.mp htally.2)
    case declined | expired | voided =>
      exact iff_of_false CeremonyState.noConfusion (someUnsigned_iff_not_allSigned.mp htally)
  completedPackage := by
    intro c hc p hp hid hcs
    have hpair := h.paired c hc p hp hid
    rw [hcs] at hpair
    cases hps : p.state <;> rw [hps] at hpair <;>
      first | decide | exact absurd hpair Bool.false_ne_true

theorem PackagesPersist.endsKept {before after : Cabinet}
    (h : PackagesPersist before.jacket_packages after.jacket_packages) : EndsKept before after := by
  intro p hp
  obtain ⟨q, hq, hid, hfreeze⟩ := h p hp
  refine ⟨q, hq, hid, fun hps => ?_, fun hps => ?_⟩
  · cases hst : p.state <;> rw [hst] at hps hfreeze <;>
      first | exact absurd hps (by decide) | exact of_decide_eq_true hfreeze
  · rw [hps, freezeAllows, Bool.or_eq_true, decide_eq_true_iff, decide_eq_true_iff] at hfreeze
    exact hfreeze

theorem step_packagesPersist {db : Cabinet} (h : Coherent db) (call : Call) :
    PackagesPersist db.jacket_packages (step db call).jacket_packages :=
  step_invariant (I := fun d => PackagesPersist db.jacket_packages d.jacket_packages) h
    (fun _ _ _ ha hi _ hm => hi.trans (hm.packagesPersist ha)) (PackagesPersist.refl _)

/-- The states keep step after every history, and the packages that ended stay
ended however it goes on. -/
theorem history_inStep (calls more : List Call) :
    InStep (history calls) ∧ EndsKept (history calls) (history (calls ++ more)) := by
  refine ⟨(history_coherent calls).inStep, PackagesPersist.endsKept ?_⟩
  rw [history, history, run_append]
  exact run_related (I := Coherent)
    (R := fun a b => PackagesPersist a.jacket_packages b.jacket_packages)
    (fun _ => PackagesPersist.refl _) (fun _ _ _ hab hbc => hab.trans hbc)
    (fun _ call h => step_coherent h call) (fun _ call h => step_packagesPersist h call)
    (history_coherent calls) more

/-! ## A cash deal

One approved scenario, one approved template that the customer and the dealer's
representative sign, and evidence of insurance that may be waived. -/

namespace CashDeal

def scenario : Desking.Scenario where
  scenario_id := "6a000000-0000-4000-8000-000000000008"
  desking_case_id := "6a000000-0000-4000-8000-000000000003"
  rooftop_id := "6a000000-0000-4000-8000-000000000005"
  version_no := 1
  supersedes_scenario_id := none
  label := "cash"
  state := .approved
  inputs := ⟨2000000, 0, 0, 0, none, none, "USD", "US-CO", "2026-08-31T00:00:00.000Z"⟩
  priced_at := 1788134400000000
  computed := ⟨0, 2000000, 0, 0, 0, 2000000, none, [], [], "in", "out"⟩
  built_by_user_link_id := "6a000000-0000-4000-8000-00000000000d"
  expires_at := none
  authorization_version := 1

def approval : DatedApproval where
  approval_id := "6a000000-0000-4000-8000-000000000009"
  desking_case_id := scenario.desking_case_id
  scenario_id := scenario.scenario_id
  scenario_version_no := 1
  decision := .approved
  reviewed_output_fingerprint := "out"
  decided_by_user_link_id := "6a000000-0000-4000-8000-00000000000c"
  override_reason := none
  limit_reason := none
  decided_at := 1788134400000000

def sources : Sources where
  desking_cases :=
    [ ⟨scenario.desking_case_id, scenario.rooftop_id, "6a000000-0000-4000-8000-000000000006",
        "6a000000-0000-4000-8000-000000000007", none⟩ ]
  desking_scenarios := [scenario]
  scenario_approvals := [approval]
  scenario_rule_applications := []
  appraisals := []
  appraisal_versions := []
  parties :=
    [ ⟨"6a000000-0000-4000-8000-000000000007", "Ada", some "ada@example.com", none, none, none,
        none, none, none, 1⟩ ]
  legal_entities := [⟨"6a000000-0000-4000-8000-000000000004", "Dealer LLC", 1⟩]
  rooftops := [⟨scenario.rooftop_id, "6a000000-0000-4000-8000-000000000004", "Main", 1⟩]
  stock_items := []
  vehicles := []
  userLinkName := fun _ => some "Grace"
  legal_hold_events := []

def buyersOrder : Template where
  jurisdiction := "US-CO"
  legal_entity_id := none
  rooftop_id := none
  transaction_type := .any
  effective_from := 0
  effective_to := none
  template_id := "6a000000-0000-4000-8000-00000000000b"
  template_code := "buyers_order"
  version := 1
  title := "Buyer's order"
  document_kind := .contract
  source := "counsel"
  approval_status := .approved
  body_template := "I agree."
  body_sha256 := "b0"
  required_signer_roles := [.customer, .dealer_representative]

def orderRequired : Requirement where
  jurisdiction := "US-CO"
  legal_entity_id := none
  rooftop_id := none
  transaction_type := .any
  effective_from := 0
  effective_to := none
  requirement_id := "6a000000-0000-4000-8003-000000000001"
  requirement_code := "buyers_order"
  version := 1
  satisfied_by := .template
  template_code := some "buyers_order"
  evidence_kind := none
  required := true
  waivable := false
  source := "counsel"

def insuranceRequired : Requirement where
  jurisdiction := "US-CO"
  legal_entity_id := none
  rooftop_id := none
  transaction_type := .any
  effective_from := 0
  effective_to := none
  requirement_id := "6a000000-0000-4000-8003-000000000002"
  requirement_code := "insurance"
  version := 1
  satisfied_by := .evidence
  template_code := none
  evidence_kind := some "insurance_card"
  required := false
  waivable := true
  source := "counsel"

/-- The first of September 2026, as the text, the milliseconds and the microseconds. -/
def clock : String := "2026-09-01T00:00:00.000Z"
def midnightMs : Int := 1788220800000
def midnight : Int := 1788220800000000

/-- A transaction that starts at `now`, when the caller's clock reads `clock`. -/
def world (now : Int) : JacketWorld where
  tenantId := "6a000000-0000-4000-8000-000000000000"
  access := ⟨fun _ => true, fun _ _ => true⟩
  isEligibleManager := fun _ _ => true
  sources
  configuration := ⟨[buyersOrder], [orderRequired, insuranceRequired],
    [⟨"6a000000-0000-4000-8004-000000000001", "deal_jacket_documents", 1, 0, none⟩]⟩
  clock
  now
  timestamptz := fun text => if text = clock then some midnight else none
  dateParse := fun text => if text = clock then some midnightMs else none
  newJacketId := "6a000000-0000-4000-8000-000000000001"
  newItemId := fun n => "6a000000-0000-4000-8001-00000000000" ++ decimal n
  newPackageId := "6a000000-0000-4000-8000-000000000002"
  newDocumentId := fun n => "6a000000-0000-4000-8002-00000000000" ++ decimal n
  newCeremonyId := "6a000000-0000-4000-8000-00000000000a"
  newSignerId := fun role => "6a000000-0000-4000-8005-00000000000" ++ decimal (ROLE_ORDER role)
  randomToken := "0123456789abcdefghijklmnopqrstuv"
  lockedElsewhere := fun _ => false

def manager : String := "6a000000-0000-4000-8000-00000000000c"
def jacketId : String := "6a000000-0000-4000-8000-000000000001"
def packageId : String := "6a000000-0000-4000-8000-000000000002"
def ceremonyId : String := "6a000000-0000-4000-8000-00000000000a"
def link : String := "6a000000-0000-4000-8000-000000000000.0123456789abcdefghijklmnopqrstuv"

/-- The jacket is opened, assembled, marked ready and sent. -/
def opening : List Call :=
  [ .openJacket (world midnight) manager scenario.desking_case_id,
    .assemblePackage (world midnight) ⟨manager, jacketId, 1⟩,
    .markReviewReady (world midnight) ⟨manager, packageId, 2⟩,
    .sendPackage (world midnight) ⟨⟨manager, packageId, 3⟩, none⟩ ]

def jacket (state : JacketState) (version : Nat) : DealJacket where
  jacket_id := jacketId
  legal_entity_id := "6a000000-0000-4000-8000-000000000004"
  rooftop_id := scenario.rooftop_id
  desking_case_id := scenario.desking_case_id
  opportunity_id := "6a000000-0000-4000-8000-000000000006"
  party_id := "6a000000-0000-4000-8000-000000000007"
  stock_item_id := none
  appraisal_id := none
  appraisal_version_no := none
  approved_scenario_id := scenario.scenario_id
  scenario_version_no := 1
  approved_output_fingerprint := "out"
  approval_id := approval.approval_id
  jurisdiction := "US-CO"
  transaction_type := .retail_cash
  state
  opened_by_user_link_id := manager
  opened_at := midnight
  authorization_version := version

def package (fieldsSha256 packageSha256 : Digest) : Package where
  package_id := packageId
  jacket_id := jacketId
  rooftop_id := scenario.rooftop_id
  version_no := 1
  supersedes_package_id := none
  state := .sent
  fields_sha256 := fieldsSha256
  package_sha256 := some packageSha256
  document_count := 1
  carries_unapproved_templates := false
  review_required := false
  reviewed_by_user_link_id := none
  reviewed_at := none
  assembled_by_user_link_id := manager
  assembled_at := midnight
  state_reason := none
  authorization_version := 4

def ceremony (packageSha256 : Digest) (envelopeRef : String) : Ceremony where
  ceremony_id := ceremonyId
  jacket_id := jacketId
  package_id := packageId
  rooftop_id := scenario.rooftop_id
  provider_code := "simulated_esign"
  provider_kind := "deterministic_simulator"
  provider_envelope_ref := some envelopeRef
  bound_package_sha256 := packageSha256
  state := .sent
  consent_text_version := CONSENT_TEXT_VERSION
  sent_at := some midnight
  completed_at := none
  expires_at := 1789430400000000
  completion_certificate_sha256 := none
  created_by_user_link_id := manager
  created_at := midnight
  authorization_version := 1

def customer : Signer where
  signer_id := "6a000000-0000-4000-8005-000000000001"
  ceremony_id := ceremonyId
  signing_order := 1
  signer_role := .customer
  lane := .signer_token
  party_id := some "6a000000-0000-4000-8000-000000000007"
  user_link_id := none
  display_name := "Ada"
  contact_value := some "ada@example.com"
  signing_authority := "self"
  token_sha256 := some (tokenDigest "0123456789abcdefghijklmnopqrstuv")
  token_expires_at := some 1788480000000000
  identity_assurance := "email_link"
  state := .invited
  invited_at := some midnight
  viewed_at := none
  consented_at := none
  consent_text_version := none
  intent_confirmed_at := none
  signed_at := none
  signature_sha256 := none
  declined_at := none
  decline_reason := none
  authorization_version := 1

def representative : Signer where
  signer_id := "6a000000-0000-4000-8005-000000000003"
  ceremony_id := ceremonyId
  signing_order := 3
  signer_role := .dealer_representative
  lane := .staff_session
  party_id := none
  user_link_id := some manager
  display_name := "Grace"
  contact_value := none
  signing_authority := "authorised_representative"
  token_sha256 := none
  token_expires_at := none
  identity_assurance := "staff_session"
  state := .invited
  invited_at := some midnight
  viewed_at := none
  consented_at := none
  consent_text_version := none
  intent_confirmed_at := none
  signed_at := none
  signature_sha256 := none
  declined_at := none
  decline_reason := none
  authorization_version := 1

def items : List ChecklistItem :=
  [ (orderRequired.item jacketId "6a000000-0000-4000-8001-000000000000").rendered
      "6a000000-0000-4000-8002-000000000000",
    insuranceRequired.item jacketId "6a000000-0000-4000-8001-000000000001" ]

/-- The rows of the deal, whatever the stored fields, the blobs, the documents and
the ledger are. -/
def rows (j : DealJacket) (p : Package) (c : Ceremony) (s r : Signer)
    (pf : List (String × AssembledField)) (bl : List Blob) (docs : List PackageDocument)
    (ev : List CeremonyEvent) : Cabinet :=
  ⟨[j], items, [p], pf, bl, docs, [c], [s, r], ev⟩

theorem opening_sent : ∃ f sha env pf bl docs ev, history opening =
    rows (jacket .open 2) (package f sha) (ceremony sha env) customer representative pf bl docs ev :=
  ⟨_, _, _, _, _, _, _, rfl⟩

/-- What the signers send: the digest they were shown and the words of intent. -/
def intent (sha : Digest) : SignInput := ⟨sha.text, INTENT_STATEMENT⟩

def staffIntent (sha : Digest) : DealerInput :=
  ⟨intent sha, manager, ceremonyId, CONSENT_TEXT_VERSION, none⟩

section Steps

variable (f sha : Digest) (env : String) (pf : List (String × AssembledField)) (bl : List Blob)
  (docs : List PackageDocument) (ev : List CeremonyEvent)

theorem laneSigner_link (now : Int) (j : DealJacket) (p : Package) (c : Ceremony) (s : Signer)
    (htoken : s.token_sha256 = some (tokenDigest "0123456789abcdefghijklmnopqrstuv"))
    (hlane : s.lane = .signer_token) (hlive : tokenExpired s clock = false) (r : Signer) :
    laneSigner (world now) (rows j p c s r pf bl docs ev) link clock = .ok s := by
  have hsplit : splitLaneToken link = some
      ("6a000000-0000-4000-8000-000000000000", "0123456789abcdefghijklmnopqrstuv") := by
    decide +kernel
  rw [laneSigner, hsplit]
  simp [signerByTokenWithin, rows, world, htoken, hlane, hlive]

theorem requireActor_manager :
    requireActor ⟨fun _ => true, fun _ _ => true⟩ manager = .ok manager := by
  have huuid : isUuid manager = true := by decide +kernel
  simp [requireActor, huuid, pure, Except.pure]

theorem cast_clock (now : Int) : (world now).cast clock = .ok midnight := by
  simp [JacketWorld.cast, world, pure, Except.pure]

/-- The customer consents at `now`. -/
theorem step_consent (now : Int) : ∃ ev',
    step (rows (jacket .open 2) (package f sha) (ceremony sha env) customer representative
        pf bl docs ev)
      (.consentToElectronicRecords (world now) link CONSENT_TEXT_VERSION clock) =
    rows (jacket .open 2) (package f sha) (ceremony sha env)
      (customer.agreed CONSENT_TEXT_VERSION now) representative pf bl docs ev' := by
  have hlive : tokenExpired customer clock = false := by decide +kernel
  rw [step, consentToElectronicRecords, laneSigner_link pf bl docs ev now _ _ _ customer rfl rfl hlive]
  exact ⟨_, rfl⟩

/-- The package, the ceremony and the customer after the customer signed. -/
def halfSigned (consented signed : Int) (signature : Digest) (r : Signer) : Cabinet :=
  rows (jacket .open 2) ((package f sha).moved .partially_signed none)
    ((ceremony sha env).moved .in_progress)
    ((customer.agreed CONSENT_TEXT_VERSION consented).sign signed signature) r pf bl docs ev

/-- And after the dealer's representative signed too. -/
def fullySigned (consented signed now : Int) (signature signature' certificateSha256 : Digest) :
    Cabinet :=
  rows (jacket .signed_complete 3)
    (((package f sha).moved .partially_signed none).moved .signed_complete none)
    (((ceremony sha env).moved .in_progress).completedAt now certificateSha256)
    ((customer.agreed CONSENT_TEXT_VERSION consented).sign signed signature)
    ((representative.agreed CONSENT_TEXT_VERSION now).sign now signature') pf bl docs ev

/-- The customer signs at `now`. -/
theorem step_customerSigns (consented now : Int) (hlater : midnight ≤ now ∧ consented ≤ now)
    (hlive : expiredAt (ceremony sha env) now = false) : ∃ ev',
    step (rows (jacket .open 2) (package f sha) (ceremony sha env)
        (customer.agreed CONSENT_TEXT_VERSION consented) representative pf bl docs ev)
      (.signAsCustomer (world now) link (intent sha) clock) =
    halfSigned f sha env pf bl docs ev' consented now
      (signatureOf (ceremony sha env) (customer.agreed CONSENT_TEXT_VERSION consented) now)
      representative := by
  have hlink : tokenExpired customer clock = false := by decide +kernel
  have hinstant : signingInstant now (some consented) midnight = now := by
    rw [signingInstant, Option.getD_some]
    omega
  have hctx : signContext (rows (jacket .open 2) (package f sha) (ceremony sha env)
      (customer.agreed CONSENT_TEXT_VERSION consented) representative pf bl docs ev)
      (customer.agreed CONSENT_TEXT_VERSION consented) = .ok (ceremony sha env, package f sha) := rfl
  rw [step, signAsCustomer, laneSigner_link pf bl docs ev now _ _ _
    (customer.agreed CONSENT_TEXT_VERSION consented) rfl rfl hlink]
  dsimp only
  rw [signWithin_eq hctx (cast_clock now) hinstant, refusal_eq_none hlive rfl rfl rfl rfl]
  exact ⟨_, rfl⟩

/-- The dealer's representative, last in order, consents and signs at `now`. -/
theorem step_representativeSigns (consented signed now : Int) (signature : Digest)
    (hlater : midnight ≤ now) (hlive : expiredAt (ceremony sha env) now = false) :
    ∃ bl' ev' certificateSha256,
    step (halfSigned f sha env pf bl docs ev consented signed signature representative)
      (.signAsDealerRepresentative (world now) (staffIntent sha)) =
    fullySigned f sha env pf bl' docs ev' consented signed now signature
      (signatureOf ((ceremony sha env).moved .in_progress)
        (representative.agreed CONSENT_TEXT_VERSION now) now) certificateSha256 := by
  have hdealer : dealerSigner (halfSigned f sha env pf bl docs ev consented signed signature
      representative) ceremonyId manager = some representative := rfl
  obtain ⟨ev₁, hconsent⟩ : ∃ ev₁, consentWithin (world now)
      (halfSigned f sha env pf bl docs ev consented signed signature representative)
      representative CONSENT_TEXT_VERSION .staff (some manager) =
      (.ok (representative.agreed CONSENT_TEXT_VERSION now),
        halfSigned f sha env pf bl docs ev₁ consented signed signature
          (representative.agreed CONSENT_TEXT_VERSION now)) := ⟨_, rfl⟩
  have hctx : signContext (halfSigned f sha env pf bl docs ev₁ consented signed signature
      (representative.agreed CONSENT_TEXT_VERSION now))
      (representative.agreed CONSENT_TEXT_VERSION now) =
      .ok ((ceremony sha env).moved .in_progress, (package f sha).moved .partially_signed none) :=
    rfl
  have hinstant : signingInstant now (some now) midnight = now := by
    rw [signingInstant, Option.getD_some]
    omega
  have hturn : waitingOn (halfSigned f sha env pf bl docs ev₁ consented signed signature
      (representative.agreed CONSENT_TEXT_VERSION now))
      (representative.agreed CONSENT_TEXT_VERSION now)
      ((ceremony sha env).moved .in_progress) = [] := rfl
  rw [step, signAsDealerRepresentative_eq (staffIntent sha) requireActor_manager hdealer hconsent
    (show _ = clock from rfl)]
  have hlive' : expiredAt ((ceremony sha env).moved .in_progress) now = false := hlive
  rw [signWithin_eq hctx (cast_clock now) hinstant, refusal_eq_none hlive' rfl rfl rfl hturn]
  exact ⟨_, _, _, rfl⟩

end Steps

def sentSha256 : Digest :=
  ((history opening).jacket_packages.head?.bind (·.package_sha256)).getD (tokenDigest "")

def customerSigned (consented signed : Int) : List Call :=
  opening ++
    [ .consentToElectronicRecords (world consented) link CONSENT_TEXT_VERSION clock,
      .signAsCustomer (world signed) link (intent sentSha256) clock ]

def bothSigned (consented signed now : Int) : List Call :=
  customerSigned consented signed ++
    [.signAsDealerRepresentative (world now) (staffIntent sentSha256)]

theorem history_customerSigned {consented signed : Int}
    (hlater : midnight ≤ signed ∧ consented ≤ signed)
    (hlive : jsLe (isoOfDate 1789430400000000) (toCharMicros signed) = false) :
    ∃ f env pf bl docs ev, history (customerSigned consented signed) =
      halfSigned f sentSha256 env pf bl docs ev consented signed
        (signatureOf (ceremony sentSha256 env)
          (customer.agreed CONSENT_TEXT_VERSION consented) signed) representative := by
  obtain ⟨f, sha, env, pf, bl, docs, ev, hopening⟩ := opening_sent
  have hsha : sentSha256 = sha := by
    rw [sentSha256, hopening]
    rfl
  obtain ⟨ev₁, hconsent⟩ := step_consent f sha env pf bl docs ev consented
  obtain ⟨ev₂, hsign⟩ := step_customerSigns f sha env pf bl docs ev₁ consented signed hlater hlive
  refine ⟨f, env, pf, bl, docs, ev₂, ?_⟩
  rw [history, customerSigned, run_append, hsha, ← history, hopening, run_cons, hconsent, run_cons,
    hsign, run_nil]

theorem history_bothSigned {consented signed now : Int}
    (hlater : midnight ≤ signed ∧ consented ≤ signed) (hnow : midnight ≤ now)
    (hlive : jsLe (isoOfDate 1789430400000000) (toCharMicros signed) = false)
    (hlive' : jsLe (isoOfDate 1789430400000000) (toCharMicros now) = false) :
    ∃ f env pf bl docs ev certificateSha256, history (bothSigned consented signed now) =
      fullySigned f sentSha256 env pf bl docs ev consented signed now
        (signatureOf (ceremony sentSha256 env)
          (customer.agreed CONSENT_TEXT_VERSION consented) signed)
        (signatureOf ((ceremony sentSha256 env).moved .in_progress)
          (representative.agreed CONSENT_TEXT_VERSION now) now) certificateSha256 := by
  obtain ⟨f, env, pf, bl, docs, ev, hhalf⟩ := history_customerSigned hlater hlive
  obtain ⟨bl₁, ev₁, certificateSha256, hsign⟩ := step_representativeSigns f sentSha256 env pf bl
    docs ev consented signed now _ hnow hlive'
  refine ⟨f, env, pf, bl₁, docs, ev₁, certificateSha256, ?_⟩
  rw [history, bothSigned, run_append, ← history, hhalf, run_cons, hsign, run_nil]

/-- The manager voids the package after the customer signed. -/
def voidedHalfSigned : List Call :=
  customerSigned 1788220860000000 1788220920000000 ++
    [.voidPackage (world 1788220980000000) ⟨⟨manager, packageId, 5⟩, "changed their mind"⟩]

theorem history_voidedHalfSigned : ∃ p c s pf bl docs ev,
    history voidedHalfSigned = rows (jacket .open 2) p c s representative pf bl docs ev ∧
      c.ceremony_id = ceremonyId ∧ c.state = .voided ∧ s.ceremony_id = ceremonyId ∧
      s.state = .signed := by
  obtain ⟨f, env, pf, bl, docs, ev, hhalf⟩ :=
    history_customerSigned
      (by decide : midnight ≤ 1788220920000000 ∧ (1788220860000000 : Int) ≤ 1788220920000000)
      (by decide +kernel)
  rw [history, voidedHalfSigned, run_append, ← history, hhalf, run_cons, run_nil]
  exact ⟨_, _, _, _, _, _, _, rfl, rfl, rfl, rfl, rfl⟩

end CashDeal

/-- A ceremony voided after the customer signed counts some signatures and not all,
and is not in progress. -/
theorem not_inProgress_of_voidedHalfSigned :
    ¬ ∀ c ∈ (history CashDeal.voidedHalfSigned).signing_ceremonies,
      (c.state = .in_progress ↔
        SomeSigned (history CashDeal.voidedHalfSigned).ceremony_signers c.ceremony_id ∧
        ¬ AllSigned (history CashDeal.voidedHalfSigned).ceremony_signers c.ceremony_id) := by
  obtain ⟨p, c, s, pf, bl, docs, ev, hrows, hcid, hvoided, hsid, hsigned⟩ :=
    CashDeal.history_voidedHalfSigned
  rw [hrows]
  intro h
  have hsome : SomeSigned [s, CashDeal.representative] c.ceremony_id :=
    ⟨s, mem_cons_self, hsid.trans hcid.symm, hsigned⟩
  have hnotAll : ¬ AllSigned [s, CashDeal.representative] c.ceremony_id := by
    intro hall
    have hrep := hall CashDeal.representative (by simp) hcid.symm
    cases hrep
  have hprogress := (h c mem_cons_self).mpr ⟨hsome, hnotAll⟩
  rw [hvoided] at hprogress
  cases hprogress

end Dealership.Jacket
