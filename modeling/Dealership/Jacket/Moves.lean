import Dealership.Jacket.Reconcile
import Mathlib.Logic.Relation

/-!
# The jacket as a transition system

What the commands can do to the jacket, without who asked and why: sixteen moves
on the rows, each with the guard it is made under.  The tables nobody decides on
(the stored fields, the blobs, the event ledger) may change in any way.

Four kinds of moves are told apart by their labels, because the properties of
runs depend on when they happen: a waiver, a version that failed to render, a
consent and a signature.  `Dealership.Jacket.Refinement` shows that every
command is a sequence of these moves.
-/

namespace Dealership.Jacket

open Library

inductive Label where
  | routine
  | waived (jacketId : String)
  | failed (jacket : DealJacket)
  | consented (signer : Signer) (now : Int)
  | signed (signer : Signer) (instant : Int)

/-- No item is waived after that was not waived before, and no two items share
their id. -/
structure ItemsKept (before after : List ChecklistItem) : Prop where
  keys : (before.map (·.item_id)).Nodup → (after.map (·.item_id)).Nodup
  waivers : ∀ i ∈ after, i.state = .waived →
    ∃ r ∈ before, r.jacket_id = i.jacket_id ∧ r.state = .waived

/-- The version a new one supersedes: a standing package of the jacket, or none
when no package of the jacket stands. -/
def IsPredecessor (db : Cabinet) (jacketId : String) : Option Package → Prop
  | none => ∀ p ∈ db.jacket_packages, p.jacket_id = jacketId → p.state.standing = false
  | some p => p ∈ db.jacket_packages ∧ p.jacket_id = jacketId ∧ p.state.standing = true

/-- The packages after a version stepped aside. -/
def retired (predecessor : Option Package) (reason : Option String) (packages : List Package) :
    List Package :=
  updateWhere (fun k => some k.package_id = predecessor.map (·.package_id))
    (Package.moved .superseded reason) packages

/-- The ceremonies after a version stepped aside. -/
def retiredCeremonies (predecessor : Option Package) (ceremonies : List Ceremony) :
    List Ceremony :=
  updateWhere (fun c => some c.package_id = predecessor.map (·.package_id) ∧ c.state.unfinished)
    (Ceremony.moved .voided) ceremonies

/-- What a signer, a ceremony and a package must be for a signature at an instant. -/
structure Signable (db : Cabinet) (s : Signer) (c : Ceremony) (p : Package) (instant : Int) :
    Prop where
  signer : s ∈ db.ceremony_signers
  ceremony : c ∈ db.signing_ceremonies
  package : p ∈ db.jacket_packages
  ofCeremony : c.ceremony_id = s.ceremony_id
  ofPackage : p.package_id = c.package_id
  unsigned : s.state ≠ .signed
  isOpen : c.state.isOpen = true
  signable : p.state.signable = true
  consented : ∃ t, s.consented_at = some t ∧ t ≤ instant
  turn : ∀ r ∈ db.ceremony_signers, r.ceremony_id = s.ceremony_id →
    r.signing_order < s.signing_order → r.state = .signed

def signersAfter (db : Cabinet) (s : Signer) (c : Ceremony) (instant : Int) : List Signer :=
  updateWhere (fun r => decide (r.signer_id = s.signer_id) = true)
    (Signer.sign instant (signatureOf c s instant)) db.ceremony_signers

def AllSigned (signers : List Signer) (ceremonyId : String) : Prop :=
  ∀ s ∈ signers, s.ceremony_id = ceremonyId → s.state = .signed

/-- One move of the jacket.  `pf`, `bl` and `ev` are the tables nobody decides on. -/
inductive Move (db : Cabinet) : Label → Cabinet → Prop
  /-- A jacket is opened with its checklist. -/
  | opened (j : DealJacket) (items : List ChecklistItem) (pf bl ev)
      (fresh : ∀ r ∈ db.deal_jackets, r.jacket_id ≠ j.jacket_id) (isOpen : j.state = .open)
      (kept : ItemsKept db.jacket_checklist_items items) :
      Move db .routine
        ⟨db.deal_jackets ++ [j], items, db.jacket_packages, pf, bl, db.package_documents,
          db.signing_ceremonies, db.ceremony_signers, ev⟩
  /-- Evidence is recorded. -/
  | evidenced (items : List ChecklistItem) (pf bl ev)
      (kept : ItemsKept db.jacket_checklist_items items) :
      Move db .routine
        ⟨db.deal_jackets, items, db.jacket_packages, pf, bl, db.package_documents,
          db.signing_ceremonies, db.ceremony_signers, ev⟩
  /-- An item is waived. -/
  | waived (item : ChecklistItem) (f : ChecklistItem → ChecklistItem) (pf bl ev)
      (stands : item ∈ db.jacket_checklist_items)
      (keeps : ∀ i, (f i).item_id = i.item_id ∧ (f i).jacket_id = i.jacket_id) :
      Move db (.waived item.jacket_id)
        ⟨db.deal_jackets,
          updateWhere (fun i => decide (i.item_id = item.item_id) = true) f
            db.jacket_checklist_items,
          db.jacket_packages, pf, bl, db.package_documents, db.signing_ceremonies,
          db.ceremony_signers, ev⟩
  /-- A version fails to render: its predecessor steps aside, and the jacket's
  state stays as it was. -/
  | failed (j : DealJacket) (predecessor : Option Package) (reason) (p : Package)
      (bump : DealJacket → DealJacket) (pf bl ev)
      (jacket : j ∈ db.deal_jackets) (ofJacket : p.jacket_id = j.jacket_id)
      (stands : IsPredecessor db j.jacket_id predecessor)
      (fresh : ∀ k ∈ db.jacket_packages, k.package_id ≠ p.package_id)
      (isVoided : p.state = .voided)
      (bumped : ∀ r, (bump r).jacket_id = r.jacket_id ∧ (bump r).state = r.state) :
      Move db (.failed j)
        ⟨updateWhere (fun r => r.jacket_id = j.jacket_id) bump db.deal_jackets,
          db.jacket_checklist_items, retired predecessor reason db.jacket_packages ++ [p], pf, bl,
          db.package_documents, retiredCeremonies predecessor db.signing_ceremonies,
          db.ceremony_signers, ev⟩
  /-- A version is assembled: its predecessor steps aside, and the jacket is open
  paperwork again. -/
  | assembled (j : DealJacket) (predecessor : Option Package) (reason) (p : Package)
      (documents : List PackageDocument) (items : List ChecklistItem) (pf bl ev)
      (jacket : j ∈ db.deal_jackets) (ofJacket : p.jacket_id = j.jacket_id)
      (stands : IsPredecessor db j.jacket_id predecessor)
      (fresh : ∀ k ∈ db.jacket_packages, k.package_id ≠ p.package_id)
      (isDraft : p.state = .draft)
      (ofPackage : ∀ d ∈ documents, d.package_id = p.package_id)
      (unreviewed : p.review_required = false →
        (∀ d ∈ documents, ∀ t ∈ d.template, t.template_approval_status = .approved) ∧
        ∀ i ∈ db.jacket_checklist_items, i.jacket_id = p.jacket_id → i.state ≠ .waived)
      (kept : ItemsKept db.jacket_checklist_items items) :
      Move db .routine
        ⟨updateWhere (fun r => r.jacket_id = j.jacket_id) (DealJacket.moved .open) db.deal_jackets,
          items, retired predecessor reason db.jacket_packages ++ [p], pf, bl,
          db.package_documents ++ documents, retiredCeremonies predecessor db.signing_ceremonies,
          db.ceremony_signers, ev⟩
  /-- Drafts are marked ready for review. -/
  | readied (hit : Package → Bool) (pf bl ev)
      (draft : ∀ k ∈ db.jacket_packages, hit k = true → k.state = .draft) :
      Move db .routine
        ⟨db.deal_jackets, db.jacket_checklist_items,
          updateWhere (fun k => hit k = true) (Package.moved .review_ready none) db.jacket_packages,
          pf, bl, db.package_documents, db.signing_ceremonies, db.ceremony_signers, ev⟩
  /-- A manager stamps a package. -/
  | reviewed (hit : Package → Bool) (actor : String) (now : Int) (pf bl ev) :
      Move db .routine
        ⟨db.deal_jackets, db.jacket_checklist_items,
          updateWhere (fun k => hit k = true) (Package.stamped actor now) db.jacket_packages,
          pf, bl, db.package_documents, db.signing_ceremonies, db.ceremony_signers, ev⟩
  /-- A package is sent to its signers. -/
  | sent (p : Package) (hit : Package → Bool) (c : Ceremony) (signers : List Signer) (pf bl ev)
      (package : p ∈ db.jacket_packages) (hits : hit p = true)
      (ready : ∀ k ∈ db.jacket_packages, hit k = true →
        k.package_id = p.package_id ∧ k.state = .review_ready)
      (first : ∀ r ∈ db.signing_ceremonies, r.package_id ≠ p.package_id)
      (fresh : ∀ r ∈ db.signing_ceremonies, r.ceremony_id ≠ c.ceremony_id)
      (ofPackage : c.package_id = p.package_id) (ofJacket : c.jacket_id = p.jacket_id)
      (isSent : c.state = .sent)
      (someone : signers ≠ [])
      (keys : ((db.ceremony_signers ++ signers).map (·.signer_id)).Nodup)
      (invited : ∀ s ∈ signers, s.ceremony_id = c.ceremony_id ∧ s.state = .invited ∧
        s.viewed_at = none ∧ s.consented_at = none) :
      Move db .routine
        ⟨db.deal_jackets, db.jacket_checklist_items,
          updateWhere (fun k => hit k = true) (Package.moved .sent none) db.jacket_packages,
          pf, bl, db.package_documents, db.signing_ceremonies ++ [c],
          db.ceremony_signers ++ signers, ev⟩
  /-- A signer opens their link for the first time. -/
  | viewed (s : Signer) (now : Int) (pf bl ev)
      (signer : s ∈ db.ceremony_signers) (unviewed : s.viewed_at = none)
      (early : s.state = .pending ∨ s.state = .invited) :
      Move db .routine
        ⟨db.deal_jackets, db.jacket_checklist_items, db.jacket_packages, pf, bl,
          db.package_documents, db.signing_ceremonies,
          updateWhere (fun r => decide (r.signer_id = s.signer_id) = true) (Signer.looked now)
            db.ceremony_signers, ev⟩
  /-- A signer consents to electronic records. -/
  | consented (s : Signer) (now : Int) (version : String) (c : Ceremony) (pf bl ev)
      (signer : s ∈ db.ceremony_signers) (ceremony : c ∈ db.signing_ceremonies)
      (ofCeremony : c.ceremony_id = s.ceremony_id) (isOpen : c.state.isOpen = true)
      (unconsented : s.consented_at = none) :
      Move db (.consented s now)
        ⟨db.deal_jackets, db.jacket_checklist_items, db.jacket_packages, pf, bl,
          db.package_documents, db.signing_ceremonies,
          updateWhere (fun r => decide (r.signer_id = s.signer_id) = true)
            (Signer.agreed version now) db.ceremony_signers, ev⟩
  /-- A signer signs, and others are still to sign. -/
  | progressed (s : Signer) (c : Ceremony) (p : Package) (instant : Int) (pf bl ev)
      (signable : Signable db s c p instant)
      (more : ¬ AllSigned (signersAfter db s c instant) c.ceremony_id) :
      Move db (.signed s instant)
        ⟨db.deal_jackets, db.jacket_checklist_items,
          updateWhere (fun k => (k.package_id = p.package_id && k.state = .sent) = true)
            (Package.moved .partially_signed none) db.jacket_packages, pf, bl,
          db.package_documents,
          updateWhere (fun r => decide (r.ceremony_id = c.ceremony_id) = true)
            (Ceremony.moved .in_progress) db.signing_ceremonies,
          signersAfter db s c instant, ev⟩
  /-- The last signer signs. -/
  | completed (s : Signer) (c : Ceremony) (p : Package) (instant : Int) (sha256 : Digest)
      (pf bl ev) (signable : Signable db s c p instant)
      (last : AllSigned (signersAfter db s c instant) c.ceremony_id)
      (certified : sha256 = sha256Hex (certificate c p
        (documentsOfPackageWithin db p.package_id) (signersOfCeremonyWithin
          { db with ceremony_signers := signersAfter db s c instant } c.ceremony_id)
        ).bytes.toList) :
      Move db (.signed s instant)
        ⟨updateWhere (fun j => j.jacket_id = c.jacket_id) (DealJacket.moved .signed_complete)
            db.deal_jackets,
          db.jacket_checklist_items,
          updateWhere (fun k => decide (k.package_id = p.package_id) = true)
            (Package.moved .signed_complete none) db.jacket_packages, pf, bl,
          db.package_documents,
          updateWhere (fun r => decide (r.ceremony_id = c.ceremony_id) = true)
            (Ceremony.completedAt instant sha256) db.signing_ceremonies,
          signersAfter db s c instant, ev⟩
  /-- A signer declines, and the ceremony ends. -/
  | declined (s : Signer) (c : Ceremony) (p : Package) (reason : String) (now : Int) (pf bl ev)
      (signer : s ∈ db.ceremony_signers) (ceremony : c ∈ db.signing_ceremonies)
      (ofCeremony : c.ceremony_id = s.ceremony_id) (ofPackage : p.package_id = c.package_id)
      (isOpen : c.state.isOpen = true) (unsigned : s.state ≠ .signed) :
      Move db .routine
        ⟨db.deal_jackets, db.jacket_checklist_items,
          updateWhere (fun k => (k.package_id = p.package_id && k.state.signable) = true)
            (Package.moved .voided (some "declined by signer")) db.jacket_packages, pf, bl,
          db.package_documents,
          updateWhere (fun r => decide (r.ceremony_id = c.ceremony_id) = true)
            (Ceremony.moved .declined) db.signing_ceremonies,
          updateWhere (fun r => decide (r.signer_id = s.signer_id) = true)
            (Signer.refuse reason now) db.ceremony_signers, ev⟩
  /-- A live package is voided with its ceremony. -/
  | voidedPackage (p : Package) (hit : Package → Bool) (reason) (pf bl ev)
      (package : p ∈ db.jacket_packages) (hits : hit p = true)
      (isLive : ∀ k ∈ db.jacket_packages, hit k = true →
        k.package_id = p.package_id ∧ k.state.live = true) :
      Move db .routine
        ⟨db.deal_jackets, db.jacket_checklist_items,
          updateWhere (fun k => hit k = true) (Package.moved .voided reason) db.jacket_packages,
          pf, bl, db.package_documents,
          updateWhere (fun c => (c.package_id = p.package_id && c.state.unfinished) = true)
            (Ceremony.moved .voided) db.signing_ceremonies,
          db.ceremony_signers, ev⟩
  /-- A jacket is voided. -/
  | voidedJacket (jacketId : String) (pf bl ev) :
      Move db .routine
        ⟨updateWhere (fun j => j.jacket_id = jacketId) (DealJacket.moved .voided) db.deal_jackets,
          db.jacket_checklist_items, db.jacket_packages, pf, bl, db.package_documents,
          db.signing_ceremonies, db.ceremony_signers, ev⟩
  /-- A ceremony expires with its package and its outstanding signers. -/
  | expired (c : Ceremony) (reason) (pf bl ev)
      (ceremony : c ∈ db.signing_ceremonies) (isOpen : c.state.isOpen = true) :
      Move db .routine
        ⟨db.deal_jackets, db.jacket_checklist_items,
          updateWhere (fun k => (k.package_id = c.package_id && k.state.signable) = true)
            (Package.moved .expired reason) db.jacket_packages, pf, bl, db.package_documents,
          updateWhere (fun r => decide (r.ceremony_id = c.ceremony_id) = true)
            (Ceremony.moved .expired) db.signing_ceremonies,
          updateWhere (fun s => (s.ceremony_id = c.ceremony_id && s.state.outstanding) = true)
            (Signer.moved .expired) db.ceremony_signers, ev⟩

/-- A sequence of moves whose labels are all admitted where they are made. -/
def Moves (admits : Cabinet → Label → Prop) : Cabinet → Cabinet → Prop :=
  Relation.ReflTransGen fun a b => ∃ l, admits a l ∧ Move a l b

theorem Moves.single {admits : Cabinet → Label → Prop} {a b : Cabinet} {l : Label}
    (hl : admits a l) (h : Move a l b) : Moves admits a b :=
  Relation.ReflTransGen.single ⟨l, hl, h⟩

theorem Moves.invariant {admits : Cabinet → Label → Prop} {I : Cabinet → Prop}
    (hstep : ∀ a l b, I a → admits a l → Move a l b → I b) {a b : Cabinet}
    (h : Moves admits a b) (ha : I a) : I b := by
  induction h with
  | refl => exact ha
  | tail _ hlast ih =>
    obtain ⟨l, hl, hm⟩ := hlast
    exact hstep _ l _ ih hl hm

end Dealership.Jacket
