import Dealership.Jacket.Instants

/-!
# Re-verifying signatures from the certificate

A signature digests its instant at the precision of the database.  The certificate
prints the instant of the view, which went through a `Date`.  The certificate of a
completed ceremony is what its rows say, and stays so; what its values digest to is
the digest of another text than the one that was signed.
-/

namespace Dealership.Jacket

open Library List

variable {cs : List Ceremony}

/-- A signer who signed holds the digest of what was signed, at the instant recorded. -/
def SignedAs (c : Ceremony) (s : Signer) : Prop :=
  ∃ t, s.signed_at = some t ∧ s.signature_sha256 = some (signatureOf c s t)

/-- The certificate of a ceremony over a package, from the rows as they stand. -/
def certificateOf (db : Cabinet) (c : Ceremony) (p : Package) : Certificate :=
  certificate c p (documentsOfPackageWithin db p.package_id)
    (signersOfCeremonyWithin db c.ceremony_id)

/-- Signatures are over what the ceremony bound, and a completed ceremony holds the
digest of its certificate. -/
structure Certified (db : Cabinet) : Prop where
  signed : ∀ c ∈ db.signing_ceremonies, ∀ s ∈ db.ceremony_signers,
    s.ceremony_id = c.ceremony_id → s.state = .signed → SignedAs c s
  completed : ∀ c ∈ db.signing_ceremonies, c.state = .completed → ∀ p ∈ db.jacket_packages,
    p.package_id = c.package_id →
    c.completion_certificate_sha256 = some (sha256Hex (certificateOf db c p).bytes.toList)

/-! ## What moves -/

theorem signed_ceremonies {ss : List Signer}
    (h : ∀ c ∈ cs, ∀ s ∈ ss, s.ceremony_id = c.ceremony_id → s.state = .signed → SignedAs c s)
    {hit : Ceremony → Prop} [DecidablePred hit] {f : Ceremony → Ceremony}
    (hkey : ∀ c, (f c).ceremony_id = c.ceremony_id)
    (hbound : ∀ c, (f c).bound_package_sha256 = c.bound_package_sha256) :
    ∀ c ∈ updateWhere hit f cs, ∀ s ∈ ss, s.ceremony_id = c.ceremony_id → s.state = .signed →
      SignedAs c s := by
  intro c' hc' s hs hid hst
  rcases updateWhere_cases hc' with ⟨hc, -⟩ | ⟨c, hc, -, rfl⟩
  · exact h c' hc s hs hid hst
  · obtain ⟨t, ht, hsignature⟩ := h c hc s hs (hid.trans (hkey c)) hst
    refine ⟨t, ht, ?_⟩
    rw [signatureOf, hbound]
    exact hsignature

theorem signed_signers {ss : List Signer}
    (h : ∀ c ∈ cs, ∀ s ∈ ss, s.ceremony_id = c.ceremony_id → s.state = .signed → SignedAs c s)
    {hit : Signer → Prop} [DecidablePred hit] {f : Signer → Signer}
    (hst : ∀ s ∈ ss, hit s → (f s).state ≠ .signed) :
    ∀ c ∈ cs, ∀ s ∈ updateWhere hit f ss, s.ceremony_id = c.ceremony_id → s.state = .signed →
      SignedAs c s := by
  intro c hc s' hs' hid hsigned
  rcases updateWhere_cases hs' with ⟨hs, -⟩ | ⟨s, hs, hh, rfl⟩
  · exact h c hc s' hs hid hsigned
  · exact absurd hsigned (hst s hs hh)

theorem certificateOf_eq {db db' : Cabinet} {c : Ceremony} {p p' : Package}
    (hp : p'.package_id = p.package_id ∧ p'.version_no = p.version_no)
    (hdocuments : (db'.package_documents.filter fun d => d.package_id = p.package_id) =
      db.package_documents.filter fun d => d.package_id = p.package_id)
    (hsigners : (db'.ceremony_signers.filter fun s => s.ceremony_id = c.ceremony_id) =
      db.ceremony_signers.filter fun s => s.ceremony_id = c.ceremony_id) :
    certificateOf db' c p' = certificateOf db c p := by
  rw [certificateOf, certificateOf, certificate, certificate, documentsOfPackageWithin,
    documentsOfPackageWithin, signersOfCeremonyWithin, signersOfCeremonyWithin, hp.1, hp.2,
    hdocuments, hsigners]

/-- Every package was there with its version, or comes under a new key. -/
def VersionsKept (before after : List Package) : Prop :=
  ∀ p' ∈ after, (∀ k ∈ before, k.package_id ≠ p'.package_id) ∨
    ∃ p ∈ before, p'.package_id = p.package_id ∧ p'.version_no = p.version_no

theorem VersionsKept.refl (ps : List Package) : VersionsKept ps ps := fun p hp =>
  .inr ⟨p, hp, rfl, rfl⟩

theorem VersionsKept.updateWhere {ps : List Package} {hit : Package → Prop} [DecidablePred hit]
    {f : Package → Package}
    (hkey : ∀ k, (f k).package_id = k.package_id ∧ (f k).version_no = k.version_no) :
    VersionsKept ps (updateWhere hit f ps) := by
  intro p' hp'
  rcases updateWhere_cases hp' with ⟨hp, -⟩ | ⟨p, hp, -, rfl⟩
  · exact .inr ⟨p', hp, rfl, rfl⟩
  · exact .inr ⟨p, hp, hkey p⟩

theorem VersionsKept.retired (predecessor : Option Package) (reason : Option String)
    (ps : List Package) : VersionsKept ps (retired predecessor reason ps) :=
  .updateWhere fun _ => ⟨rfl, rfl⟩

theorem VersionsKept.append {before after : List Package} (h : VersionsKept before after)
    {p : Package} (fresh : ∀ k ∈ before, k.package_id ≠ p.package_id) :
    VersionsKept before (after ++ [p]) := by
  intro p' hp'
  rcases mem_inserted hp' with hp' | rfl
  · exact h p' hp'
  · exact .inl fresh

section Frame

variable {db db' : Cabinet} (hdb : Coherent db)
include hdb

theorem filter_signers_of_unsigned {hit : Signer → Prop} [DecidablePred hit] (f : Signer → Signer)
    (hkey : ∀ s, (f s).ceremony_id = s.ceremony_id)
    (hst : ∀ s ∈ db.ceremony_signers, hit s → s.state ≠ .signed) {c : Ceremony}
    (hc : c ∈ db.signing_ceremonies) (hcompleted : c.state = .completed) :
    ((updateWhere hit f db.ceremony_signers).filter fun s => s.ceremony_id = c.ceremony_id) =
      db.ceremony_signers.filter fun s => s.ceremony_id = c.ceremony_id := by
  refine filter_updateWhere fun s hs hh => ?_
  have hne : s.ceremony_id ≠ c.ceremony_id := by
    intro hid
    have htally := hdb.tallied c hc
    rw [hcompleted] at htally
    exact htally.2 ⟨s, hs, hid, hst s hs hh⟩
  rw [hkey]
  exact ⟨decide_eq_false hne, decide_eq_false hne⟩

theorem certificate_frame (h : Certified db)
    (hpackages : VersionsKept db.jacket_packages db'.jacket_packages)
    (hdocuments : ∀ p ∈ db.jacket_packages,
      (db'.package_documents.filter fun d => d.package_id = p.package_id) =
        db.package_documents.filter fun d => d.package_id = p.package_id)
    {c : Ceremony} (hc : c ∈ db.signing_ceremonies) (hcompleted : c.state = .completed)
    (hsigners : (db'.ceremony_signers.filter fun s => s.ceremony_id = c.ceremony_id) =
      db.ceremony_signers.filter fun s => s.ceremony_id = c.ceremony_id) :
    ∀ p ∈ db'.jacket_packages, p.package_id = c.package_id →
      c.completion_certificate_sha256 = some (sha256Hex (certificateOf db' c p).bytes.toList) := by
  intro p' hp' hid
  obtain ⟨k, hk, hkid, -⟩ := hdb.keyed.exists_package hc
  rcases hpackages p' hp' with hfresh | ⟨p, hp, hsame⟩
  · exact absurd (hkid.trans hid.symm) (hfresh k hk)
  · rw [certificateOf_eq hsame (hdocuments p hp) hsigners]
    exact h.completed c hc hcompleted p hp (hsame.1.symm.trans hid)

theorem completed_frame (h : Certified db)
    (hceremonies : ∀ c ∈ db'.signing_ceremonies, c.state = .completed → c ∈ db.signing_ceremonies)
    (hpackages : VersionsKept db.jacket_packages db'.jacket_packages)
    (hdocuments : ∀ p ∈ db.jacket_packages,
      (db'.package_documents.filter fun d => d.package_id = p.package_id) =
        db.package_documents.filter fun d => d.package_id = p.package_id)
    (hsigners : ∀ c ∈ db.signing_ceremonies, c.state = .completed →
      (db'.ceremony_signers.filter fun s => s.ceremony_id = c.ceremony_id) =
        db.ceremony_signers.filter fun s => s.ceremony_id = c.ceremony_id) :
    ∀ c ∈ db'.signing_ceremonies, c.state = .completed → ∀ p ∈ db'.jacket_packages,
      p.package_id = c.package_id →
      c.completion_certificate_sha256 = some (sha256Hex (certificateOf db' c p).bytes.toList) := by
  intro c hc hcompleted
  have hbefore := hceremonies c hc hcompleted
  exact certificate_frame hdb h hpackages hdocuments hbefore hcompleted
    (hsigners c hbefore hcompleted)

end Frame

theorem completed_of_moved {hit : Ceremony → Prop} [DecidablePred hit] {target : CeremonyState}
    (htarget : target ≠ .completed) :
    ∀ c ∈ updateWhere hit (Ceremony.moved target) cs, c.state = .completed → c ∈ cs := by
  intro c hc hcompleted
  rcases updateWhere_cases hc with ⟨hc, -⟩ | ⟨r, -, -, rfl⟩
  · exact hc
  · exact absurd hcompleted htarget

section Signing

variable {db : Cabinet} (hdb : Coherent db) (h : Certified db) {s : Signer} {c : Ceremony}
  {p : Package} {instant : Int} (sg : Signable db s c p instant)
include hdb sg

theorem unsigned_of_hit : ∀ r ∈ db.ceremony_signers, decide (r.signer_id = s.signer_id) = true →
    r.state ≠ .signed := by
  intro r hr hh
  rw [hdb.keyed.signer_unique hr sg.signer (of_decide_eq_true hh)]
  exact sg.unsigned

include h

theorem signed_signersAfter : ∀ d ∈ db.signing_ceremonies,
    ∀ r ∈ signersAfter db s c instant, r.ceremony_id = d.ceremony_id → r.state = .signed →
      SignedAs d r := by
  intro d hd r' hr' hid hst
  rcases signersAfter_cases hdb sg hr' with ⟨hr, -⟩ | rfl
  · exact h.signed d hd r' hr hid hst
  · obtain rfl := hdb.keyed.ceremony_unique hd sg.ceremony (hid.symm.trans sg.ofCeremony.symm)
    exact ⟨instant, rfl, rfl⟩

end Signing

theorem Move.certified {db db' : Cabinet} {l : Label} (hdb : Coherent db) (h : Certified db)
    (m : Move db l db') : Certified db' := by
  cases m with
  | opened | evidenced | waived | voidedJacket =>
    exact ⟨h.signed, completed_frame hdb h (fun _ hc _ => hc) (.refl _) (fun _ _ => rfl)
      fun _ _ _ => rfl⟩
  | readied | reviewed =>
    exact ⟨h.signed, completed_frame hdb h (fun _ hc _ => hc) (.updateWhere fun _ => ⟨rfl, rfl⟩)
      (fun _ _ => rfl) fun _ _ _ => rfl⟩
  | failed j predecessor reason p bump pf bl ev jacket ofJacket stands fresh isVoided bumped =>
    exact ⟨signed_ceremonies h.signed (fun _ => rfl) fun _ => rfl,
      completed_frame hdb h (completed_of_moved CeremonyState.noConfusion)
        ((VersionsKept.retired predecessor reason _).append fresh) (fun _ _ => rfl)
        fun _ _ _ => rfl⟩
  | assembled j predecessor reason p documents items pf bl ev jacket ofJacket stands fresh isDraft
      ofPackage unreviewed kept =>
      refine ⟨signed_ceremonies h.signed (fun _ => rfl) fun _ => rfl,
        completed_frame hdb h (completed_of_moved CeremonyState.noConfusion)
          ((VersionsKept.retired predecessor reason _).append fresh) (fun k hk => ?_)
          fun _ _ _ => rfl⟩
      have hnone : (documents.filter fun d => d.package_id = k.package_id) = [] := by
        rw [filter_eq_nil_iff]
        intro d hd hid
        exact fresh k hk ((of_decide_eq_true hid).symm.trans (ofPackage d hd))
      rw [filter_append, hnone, append_nil]
  | sent p hit c signers pf bl ev package hits ready first fresh ofPackage ofJacket isSent someone
      keys invited =>
      have hold : ∀ s ∈ db.ceremony_signers ++ signers, s.state = .signed →
          s ∈ db.ceremony_signers := by
        intro s hs hst
        rcases mem_append.mp hs with hs | hs
        · exact hs
        · rw [(invited s hs).2.1] at hst
          cases hst
      constructor
      · intro d hd s hs hid hst
        have hs := hold s hs hst
        rcases mem_inserted hd with hd | rfl
        · exact h.signed d hd s hs hid hst
        · obtain ⟨r, hr, hrs⟩ := hdb.keyed.exists_ceremony hs
          exact absurd (hrs.trans hid) (fresh r hr)
      · refine completed_frame hdb h ?_ (.updateWhere fun _ => ⟨rfl, rfl⟩) (fun _ _ => rfl) ?_
        · intro d hd hcompleted
          rcases mem_inserted hd with hd | rfl
          · exact hd
          · rw [isSent] at hcompleted
            cases hcompleted
        · intro d hd _
          have hnone : (signers.filter fun s => s.ceremony_id = d.ceremony_id) = [] := by
            rw [filter_eq_nil_iff]
            intro s hs hid
            exact fresh d hd ((of_decide_eq_true hid).symm.trans (invited s hs).1)
          rw [filter_append, hnone, append_nil]
  | viewed s now pf bl ev signer unviewed early =>
    have hst : ∀ r ∈ db.ceremony_signers, decide (r.signer_id = s.signer_id) = true →
        r.state ≠ .signed := by
      intro r hr hh
      rw [hdb.keyed.signer_unique hr signer (of_decide_eq_true hh)]
      rcases early with he | he <;> rw [he] <;> exact SignerState.noConfusion
    exact ⟨signed_signers h.signed fun _ _ _ => SignerState.noConfusion,
      completed_frame hdb h (fun _ hc _ => hc) (.refl _) (fun _ _ => rfl)
        fun _ hc hcompleted =>
          filter_signers_of_unsigned hdb (Signer.looked now) (fun _ => rfl) hst hc hcompleted⟩
  | consented s now version c pf bl ev signer ceremony ofCeremony isOpen unconsented =>
    have hst : ∀ r ∈ db.ceremony_signers, decide (r.signer_id = s.signer_id) = true →
        r.state ≠ .signed := by
      intro r hr hh hsigned
      have hsome := hdb.consented r hr hsigned
      rw [hdb.keyed.signer_unique hr signer (of_decide_eq_true hh), unconsented] at hsome
      exact Bool.false_ne_true hsome
    exact ⟨signed_signers h.signed fun _ _ _ => SignerState.noConfusion,
      completed_frame hdb h (fun _ hc _ => hc) (.refl _) (fun _ _ => rfl)
        fun _ hc hcompleted =>
          filter_signers_of_unsigned hdb (Signer.agreed version now) (fun _ => rfl) hst hc hcompleted⟩
  | progressed s c p instant pf bl ev signable more =>
    exact ⟨signed_ceremonies (signed_signersAfter hdb h signable) (fun _ => rfl) fun _ => rfl,
      completed_frame hdb h (completed_of_moved CeremonyState.noConfusion)
        (.updateWhere fun _ => ⟨rfl, rfl⟩) (fun _ _ => rfl) fun _ hc hcompleted =>
          filter_signers_of_unsigned hdb (Signer.sign instant _) (fun _ => rfl)
            (unsigned_of_hit hdb signable) hc hcompleted⟩
  | completed s c p instant sha256 pf bl ev signable last certified =>
    refine ⟨signed_ceremonies (signed_signersAfter hdb h signable) (fun _ => rfl) fun _ => rfl, ?_⟩
    intro d hd hcompleted
    rcases updateWhere_cases hd with ⟨hd, -⟩ | ⟨r, hr, hh, rfl⟩
    · refine certificate_frame hdb h ?_ ?_ hd hcompleted ?_
      · exact .updateWhere fun _ => ⟨rfl, rfl⟩
      · exact fun _ _ => rfl
      · exact filter_signers_of_unsigned hdb (Signer.sign instant _) (fun _ => rfl)
          (unsigned_of_hit hdb signable) hd hcompleted
    · obtain rfl := hdb.keyed.ceremony_unique hr signable.ceremony (of_decide_eq_true hh)
      intro p' hp' hid
      have hsame : p'.package_id = p.package_id ∧ p'.version_no = p.version_no := by
        rcases updateWhere_cases hp' with ⟨hp, -⟩ | ⟨k, hk, hkp, rfl⟩
        · rw [hdb.keyed.package_unique hp signable.package (hid.trans signable.ofPackage.symm)]
          exact ⟨rfl, rfl⟩
        · rw [hdb.keyed.package_unique hk signable.package (of_decide_eq_true hkp)]
          exact ⟨rfl, rfl⟩
      -- the certificate prints none of the columns that completing the ceremony sets
      refine (congrArg some certified).trans
        (congrArg (fun x : Certificate => some (sha256Hex x.bytes.toList)) ?_)
      show certificateOf { db with ceremony_signers := signersAfter db s r instant } r p = _
      exact (certificateOf_eq hsame rfl rfl).symm
  | declined s c p reason now pf bl ev signer ceremony ofCeremony ofPackage isOpen unsigned =>
    have hst : ∀ r ∈ db.ceremony_signers, decide (r.signer_id = s.signer_id) = true →
        r.state ≠ .signed := by
      intro r hr hh
      rw [hdb.keyed.signer_unique hr signer (of_decide_eq_true hh)]
      exact unsigned
    exact ⟨signed_ceremonies (signed_signers h.signed fun _ _ _ => SignerState.noConfusion)
        (fun _ => rfl) fun _ => rfl,
      completed_frame hdb h (completed_of_moved CeremonyState.noConfusion)
        (.updateWhere fun _ => ⟨rfl, rfl⟩) (fun _ _ => rfl)
        fun _ hc hcompleted =>
          filter_signers_of_unsigned hdb (Signer.refuse reason now) (fun _ => rfl) hst hc hcompleted⟩
  | voidedPackage =>
    exact ⟨signed_ceremonies h.signed (fun _ => rfl) fun _ => rfl,
      completed_frame hdb h (completed_of_moved CeremonyState.noConfusion)
        (.updateWhere fun _ => ⟨rfl, rfl⟩) (fun _ _ => rfl) fun _ _ _ => rfl⟩
  | expired c reason pf bl ev ceremony isOpen =>
    have hst : ∀ r ∈ db.ceremony_signers,
        (r.ceremony_id = c.ceremony_id && r.state.outstanding) = true → r.state ≠ .signed := by
      intro r hr hh hsigned
      rw [hsigned, Bool.and_eq_true] at hh
      exact Bool.false_ne_true hh.2
    exact ⟨signed_ceremonies (signed_signers h.signed fun _ _ _ => SignerState.noConfusion)
        (fun _ => rfl) fun _ => rfl,
      completed_frame hdb h (completed_of_moved CeremonyState.noConfusion)
        (.updateWhere fun _ => ⟨rfl, rfl⟩) (fun _ _ => rfl)
        fun _ hc hcompleted =>
          filter_signers_of_unsigned hdb (Signer.moved .expired) (fun _ => rfl) hst hc hcompleted⟩

theorem history_certified (calls : List Call) : Certified (history calls) := by
  refine (run_invariant (I := fun d => Coherent d ∧ Certified d) ?_ ⟨Coherent.empty, ?_⟩ calls).2
  · intro db call h
    exact ⟨step_coherent h.1 call,
      step_invariant h.1 (fun _ _ _ ha hi _ hm => hm.certified ha hi) h.2⟩
  · constructor <;> intro c hc <;> exact absurd hc not_mem_nil

/-! ## The two texts of a signature -/

/-- What the columns of a signer give a signature to digest, their instant printed by
`iso`. -/
def signatureRecord (c : Ceremony) (s : Signer) (iso : Int → String) : SignatureRecord where
  bound_package_sha256 := c.bound_package_sha256
  signer_id := s.signer_id
  role := s.signer_role
  lane := s.lane
  consent_text_version := s.consent_text_version
  intent_statement := INTENT_STATEMENT
  signed_at := s.signed_at.map iso

def signatureText (c : Ceremony) (s : Signer) (iso : Int → String) : List Char :=
  Desking.canonicalize (signatureRecord c s iso).value

/-- Two texts with one digest. -/
def Collide (x y : List Char) : Prop := x ≠ y ∧ sha256Hex x = sha256Hex y

def SignatureRecord.members (r : SignatureRecord) : List (String × Desking.Value) :=
  [ ("bound_package_sha256", .string r.bound_package_sha256.text),
    ("signer_id", .string r.signer_id),
    ("role", .string r.role.text),
    ("lane", .string r.lane.text),
    ("consent_text_version", r.consent_text_version.elim .null .string),
    ("intent_statement", .string r.intent_statement),
    ("signed_at", r.signed_at.elim .null .string) ]

theorem signed_at_eq_of_canonicalize_eq {r r' : SignatureRecord} {a b : String}
    (ha : r.signed_at = some a) (hb : r'.signed_at = some b)
    (h : Desking.canonicalize r.value = Desking.canonicalize r'.value) : a = b := by
  have hmembers : r.members.map (fun e => (e.1, e.2.toJson)) =
      r'.members.map (fun e => (e.1, e.2.toJson)) := by
    refine Desking.record_members_eq rfl ?_ h
    show ["bound_package_sha256", "signer_id", "role", "lane", "consent_text_version",
      "intent_statement", "signed_at"].Nodup
    decide
  have hlast := congrArg List.getLast? hmembers
  simpa [SignatureRecord.members, ha, hb, Desking.Value.toJson] using hlast

theorem signatureText_ne (c : Ceremony) {s : Signer} {t : Int} (ht : s.signed_at = some t) :
    signatureText c s isoOfDate ≠ signatureText c s toCharMicros := by
  intro h
  have hiso : (signatureRecord c s isoOfDate).signed_at = some (isoOfDate t) := by
    rw [signatureRecord, ht, Option.map_some]
  have hmicros : (signatureRecord c s toCharMicros).signed_at = some (toCharMicros t) := by
    rw [signatureRecord, ht, Option.map_some]
  exact toISOString_ne_toCharMicros _ t (signed_at_eq_of_canonicalize_eq hiso hmicros h)

/-- Every signer listed can be re-verified from what the certificate states. -/
def Certificate.Reverifies (cert : Certificate) : Prop :=
  ∀ line ∈ cert.signers, line.signature_sha256 = some (cert.redigest line)

/-- The certificate of a completed ceremony re-verifies exactly when each signer's two
texts, which differ, have the same digest. -/
theorem reverifies_iff_collide {calls : List Call} {c : Ceremony}
    (hc : c ∈ (history calls).signing_ceremonies) (hcompleted : c.state = .completed) {p : Package}
    (hp : p ∈ (history calls).jacket_packages) (hpackage : p.package_id = c.package_id) :
    c.completion_certificate_sha256 =
      some (sha256Hex (certificateOf (history calls) c p).bytes.toList) ∧
    (certificateOf (history calls) c p).signers ≠ [] ∧
    ((certificateOf (history calls) c p).Reverifies ↔
      ∀ s ∈ signersOfCeremonyWithin (history calls) c.ceremony_id,
        Collide (signatureText c s isoOfDate) (signatureText c s toCharMicros)) := by
  have hcertified := history_certified calls
  have htally := (history_coherent calls).tallied c hc
  rw [hcompleted] at htally
  obtain ⟨⟨r, hr, hrid, -⟩, hnobody⟩ := htally
  refine ⟨hcertified.completed c hc hcompleted p hp hpackage, ?_, ?_⟩
  · intro hnil
    have hmem := mem_signersOfCeremonyWithin.mpr ⟨hr, hrid⟩
    rw [map_eq_nil_iff.mp hnil] at hmem
    exact not_mem_nil hmem
  · have hline : ∀ s ∈ signersOfCeremonyWithin (history calls) c.ceremony_id,
        s.certified.signature_sha256 =
          some ((certificateOf (history calls) c p).redigest s.certified) ↔
        Collide (signatureText c s isoOfDate) (signatureText c s toCharMicros) := by
      intro s hs
      obtain ⟨hs, hid⟩ := mem_signersOfCeremonyWithin.mp hs
      have hsigned : s.state = .signed := by
        by_contra hunsigned
        exact hnobody ⟨s, hs, hid, hunsigned⟩
      obtain ⟨t, ht, hsignature⟩ := hcertified.signed c hc s hs hid hsigned
      have htext : signatureOf c s t = sha256Hex (signatureText c s toCharMicros) := by
        rw [signatureText, signatureRecord, ht]
        rfl
      have hredigest : (certificateOf (history calls) c p).redigest s.certified =
          sha256Hex (signatureText c s isoOfDate) := rfl
      have hstated : s.certified.signature_sha256 =
          some (sha256Hex (signatureText c s toCharMicros)) := hsignature.trans (congrArg some htext)
      rw [hstated, hredigest, Option.some.injEq, Collide, eq_comm]
      exact ⟨fun h => ⟨signatureText_ne c ht, h⟩, fun h => h.2⟩
    constructor
    · intro h s hs
      exact (hline s hs).mp (h s.certified (mem_map_of_mem hs))
    · intro h line hl
      obtain ⟨s, hs, rfl⟩ := mem_map.mp hl
      exact (hline s hs).mpr (h s hs)

namespace CashDeal

/-- The digest the package was sent under, computed. -/
def orderSha256 : Digest :=
  ⟨"4af773e4acd13f8fb9ece11e9ecff3cadbb7196d51e58103aaca0ac9da5b4283", by decide +kernel⟩

theorem sentSha256_eq : sentSha256 = orderSha256 := by
  have hrendered : sentSha256 = packageHashOf [sha256Hex (String.ofList (documentPage
      ⟨"Buyer's order", "buyers_order", 1, "I agree.", .approved, "counsel", "US-CO", [], 1⟩
      "I agree.".toList)).toList] := by
    rfl
  rw [hrendered, String.toList_ofList]
  decide +kernel

theorem digests_ne :
    sha256Hex (Desking.canonicalize (SignatureRecord.value
      ⟨orderSha256, customer.signer_id, .customer, .signer_token, some CONSENT_TEXT_VERSION,
        INTENT_STATEMENT, some (toCharMicros 1788220920000000)⟩)) ≠
    sha256Hex (Desking.canonicalize (SignatureRecord.value
      ⟨orderSha256, customer.signer_id, .customer, .signer_token, some CONSENT_TEXT_VERSION,
        INTENT_STATEMENT, some (isoOfDate 1788220920000000)⟩)) := by
  decide +kernel

end CashDeal

/-- The certificate of the cash deal, signed by both, re-verifies exactly on a collision. -/
theorem reverifies_iff_collide_bothSigned : ∃ c p,
    c ∈ (history (CashDeal.bothSigned 1788220860000000 1788220920000000
      1788220980000000)).signing_ceremonies ∧ c.state = .completed ∧
    ((certificateOf (history (CashDeal.bothSigned 1788220860000000 1788220920000000
        1788220980000000)) c p).Reverifies ↔
      ∀ s ∈ signersOfCeremonyWithin (history (CashDeal.bothSigned 1788220860000000
          1788220920000000 1788220980000000)) c.ceremony_id,
        Collide (signatureText c s isoOfDate) (signatureText c s toCharMicros)) := by
  obtain ⟨f, env, pf, bl, docs, ev, sha, hrows⟩ := CashDeal.history_bothSigned
    (by decide : CashDeal.midnight ≤ 1788220920000000 ∧ (1788220860000000 : Int) ≤ 1788220920000000)
    (by decide : CashDeal.midnight ≤ 1788220980000000) (by decide +kernel) (by decide +kernel)
  have hc : ((CashDeal.ceremony CashDeal.sentSha256 env).moved .in_progress).completedAt
      1788220980000000 sha ∈ (history (CashDeal.bothSigned 1788220860000000 1788220920000000
        1788220980000000)).signing_ceremonies := by
    rw [hrows]
    exact mem_cons_self
  have hp : ((CashDeal.package f CashDeal.sentSha256).moved .partially_signed none).moved
      .signed_complete none ∈ (history (CashDeal.bothSigned 1788220860000000 1788220920000000
        1788220980000000)).jacket_packages := by
    rw [hrows]
    exact mem_cons_self
  exact ⟨_, _, hc, rfl, (reverifies_iff_collide hc rfl hp rfl).2.2⟩

/-- The customer's line of the certificate states a signature that its own values do
not give. -/
theorem not_reverifies_bothSigned : ∃ c p,
    c ∈ (history (CashDeal.bothSigned 1788220860000000 1788220920000000
      1788220980000000)).signing_ceremonies ∧ c.state = .completed ∧
    p ∈ (history (CashDeal.bothSigned 1788220860000000 1788220920000000
      1788220980000000)).jacket_packages ∧ p.package_id = c.package_id ∧
    ¬ (certificateOf (history (CashDeal.bothSigned 1788220860000000 1788220920000000
      1788220980000000)) c p).Reverifies := by
  obtain ⟨f, env, pf, bl, docs, ev, sha, hrows⟩ := CashDeal.history_bothSigned
    (by decide : CashDeal.midnight ≤ 1788220920000000 ∧ (1788220860000000 : Int) ≤ 1788220920000000)
    (by decide : CashDeal.midnight ≤ 1788220980000000) (by decide +kernel) (by decide +kernel)
  rw [hrows, CashDeal.sentSha256_eq]
  refine ⟨_, _, mem_cons_self, rfl, mem_cons_self, rfl, ?_⟩
  intro h
  exact CashDeal.digests_ne (Option.some.inj (h _ mem_cons_self))

end Dealership.Jacket
