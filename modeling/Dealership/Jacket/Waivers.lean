import Dealership.Jacket.Lockstep

/-!
# Waivers and review

Whether a package must be reviewed before it is sent is decided once, when it is
assembled, from the templates it renders and the waivers that stand then.  A waiver
recorded later, while an unreviewed draft stands, is seen by nobody: sending looks
at the column, not at the checklist.

So nothing unreviewed is sent with a waiver as long as no line is waived under a
draft that was assembled without one and has not been reviewed.
-/

namespace Dealership.Jacket

open Library List

/-- The states a package is in before it is sent. -/
def PackageState.unsent : PackageState → Bool
  | .draft | .review_ready => true
  | _ => false

/-- The package carries no unapproved template, and no item of its jacket is waived. -/
def NothingToReview (db : Cabinet) (p : Package) : Prop :=
  (∀ d ∈ db.package_documents, d.package_id = p.package_id →
    ∀ t ∈ d.template, t.template_approval_status = .approved) ∧
  ∀ i ∈ db.jacket_checklist_items, i.jacket_id = p.jacket_id → i.state ≠ .waived

/-- No line is waived under a package that could still be sent without a review. -/
def WaivesUnderReview (db : Cabinet) : Call → Prop
  | .waiveRequirement w input => ∀ item, input.Waives w db item →
      ∀ p ∈ db.jacket_packages, p.jacket_id = item.jacket_id → p.state.unsent = true →
        p.reviewed_at ≠ none ∨ p.review_required = true
  | _ => True

/-- A package that is not sent yet was reviewed, will have to be, or needs no review. -/
structure ReviewDue (db : Cabinet) : Prop where
  documents : ∀ d ∈ db.package_documents, ∃ p ∈ db.jacket_packages, p.package_id = d.package_id
  packages : ∀ p ∈ db.jacket_packages, p.state.unsent = true →
    p.reviewed_at ≠ none ∨ p.review_required = true ∨ NothingToReview db p

namespace ReviewDue

variable {db : Cabinet} (h : ReviewDue db)
include h

theorem items {items : List ChecklistItem} (kept : ItemsKept db.jacket_checklist_items items)
    {js pf bl cs ss ev} :
    ReviewDue ⟨js, items, db.jacket_packages, pf, bl, db.package_documents, cs, ss, ev⟩ where
  documents := h.documents
  packages := by
    intro p hp hunsent
    rcases h.packages p hp hunsent with hreviewed | hrequired | hnothing
    · exact .inl hreviewed
    · exact .inr (.inl hrequired)
    · refine .inr (.inr ⟨hnothing.1, fun i hi hj hw => ?_⟩)
      obtain ⟨r, hr, hrj, hrw⟩ := kept.waivers i hi hw
      exact hnothing.2 r hr (hrj.trans hj) hrw

theorem waived (hdb : Coherent db) {item : ChecklistItem} {f : ChecklistItem → ChecklistItem}
    (stands : item ∈ db.jacket_checklist_items) (keeps : ∀ i, (f i).jacket_id = i.jacket_id)
    (hreview : ∀ p ∈ db.jacket_packages, p.jacket_id = item.jacket_id → p.state.unsent = true →
      p.reviewed_at ≠ none ∨ p.review_required = true) {js pf bl cs ss ev} :
    ReviewDue ⟨js, updateWhere (fun i => decide (i.item_id = item.item_id) = true) f
      db.jacket_checklist_items, db.jacket_packages, pf, bl, db.package_documents, cs, ss, ev⟩ where
  documents := h.documents
  packages := by
    intro p hp hunsent
    by_cases hj : p.jacket_id = item.jacket_id
    · rcases hreview p hp hj hunsent with hreviewed | hrequired
      · exact .inl hreviewed
      · exact .inr (.inl hrequired)
    · rcases h.packages p hp hunsent with hreviewed | hrequired | hnothing
      · exact .inl hreviewed
      · exact .inr (.inl hrequired)
      · refine .inr (.inr ⟨hnothing.1, fun i' hi' hij => ?_⟩)
        rcases updateWhere_cases hi' with ⟨hi, -⟩ | ⟨i, hi, hid, rfl⟩
        · exact hnothing.2 i' hi hij
        · obtain rfl := eq_of_key hdb.items hi stands (of_decide_eq_true hid)
          exact absurd (hij.symm.trans (keeps i)) hj

/-- Packages move, and one that can still be sent afterwards could be before. -/
theorem updateWhere {hit : Package → Prop} [DecidablePred hit] {f : Package → Package}
    (hkey : ∀ k, (f k).key = k.key)
    (hst : ∀ k ∈ db.jacket_packages, hit k → (f k).state.unsent = true →
      (f k).reviewed_at ≠ none ∨
        (k.state.unsent = true ∧ (f k).reviewed_at = k.reviewed_at ∧
          (f k).review_required = k.review_required)) {js pf bl cs ss ev} :
    ReviewDue ⟨js, db.jacket_checklist_items, updateWhere hit f db.jacket_packages, pf, bl,
      db.package_documents, cs, ss, ev⟩ where
  documents := by
    intro d hd
    obtain ⟨p, hp, hid⟩ := h.documents d hd
    by_cases hh : hit p
    · exact ⟨f p, mem_updateWhere_of_pos hp hh, (congrArg Prod.fst (hkey p)).trans hid⟩
    · exact ⟨p, mem_updateWhere_of_neg hp hh, hid⟩
  packages := by
    intro p' hp' hunsent
    rcases updateWhere_cases hp' with ⟨hp, -⟩ | ⟨p, hp, hh, rfl⟩
    · exact h.packages p' hp hunsent
    · rcases hst p hp hh hunsent with hreviewed | ⟨hbefore, hreviewed, hrequired⟩
      · exact .inl hreviewed
      · have hid : (f p).package_id = p.package_id := congrArg Prod.fst (hkey p)
        have hj : (f p).jacket_id = p.jacket_id := congrArg Prod.snd (hkey p)
        rw [hreviewed, hrequired, NothingToReview, hid, hj]
        exact h.packages p hp hbefore

theorem moved {hit : Package → Prop} [DecidablePred hit] {target : PackageState}
    {reason : Option String} (hst : target.unsent = false) {js pf bl cs ss ev} :
    ReviewDue ⟨js, db.jacket_checklist_items,
      Library.updateWhere hit (Package.moved target reason) db.jacket_packages, pf, bl,
      db.package_documents, cs, ss, ev⟩ :=
  h.updateWhere (f := Package.moved target reason) (fun _ => rfl) fun _ _ _ hunsent =>
    absurd (hst.symm.trans hunsent) Bool.false_ne_true

theorem append {p : Package} (hst : p.state.unsent = false) :
    ReviewDue { db with jacket_packages := db.jacket_packages ++ [p] } where
  documents := by
    intro d hd
    obtain ⟨k, hk, hid⟩ := h.documents d hd
    exact ⟨k, mem_append_left _ hk, hid⟩
  packages := by
    intro k hk hunsent
    rcases mem_inserted hk with hk | rfl
    · exact h.packages k hk hunsent
    · rw [hst] at hunsent
      exact absurd hunsent Bool.false_ne_true

/-- A version with its documents, which says itself whether it must be reviewed. -/
theorem assembled {p : Package} {documents : List PackageDocument}
    (hfresh : ∀ k ∈ db.jacket_packages, k.package_id ≠ p.package_id)
    (ofPackage : ∀ d ∈ documents, d.package_id = p.package_id)
    (unreviewed : p.review_required = false →
      (∀ d ∈ documents, ∀ t ∈ d.template, t.template_approval_status = .approved) ∧
      ∀ i ∈ db.jacket_checklist_items, i.jacket_id = p.jacket_id → i.state ≠ .waived) :
    ReviewDue
      { db with
        jacket_packages := db.jacket_packages ++ [p]
        package_documents := db.package_documents ++ documents } where
  documents := by
    intro d hd
    rcases mem_append.mp hd with hd | hd
    · obtain ⟨k, hk, hid⟩ := h.documents d hd
      exact ⟨k, mem_append_left _ hk, hid⟩
    · exact ⟨p, mem_append_right _ (mem_singleton.mpr rfl), (ofPackage d hd).symm⟩
  packages := by
    intro k hk hunsent
    rcases mem_append.mp hk with hk | hk
    · rcases h.packages k hk hunsent with hreviewed | hrequired | hnothing
      · exact .inl hreviewed
      · exact .inr (.inl hrequired)
      · refine .inr (.inr ⟨fun d hd hid => ?_, hnothing.2⟩)
        rcases mem_append.mp hd with hd | hd
        · exact hnothing.1 d hd hid
        · exact absurd (hid.symm.trans (ofPackage d hd)) (hfresh k hk)
    · obtain rfl := mem_singleton.mp hk
      by_cases hrequired : k.review_required = true
      · exact .inr (.inl hrequired)
      · obtain ⟨happroved, hwaivers⟩ := unreviewed (Bool.eq_false_iff.mpr hrequired)
        refine .inr (.inr ⟨fun d hd hid => ?_, hwaivers⟩)
        rcases mem_append.mp hd with hd | hd
        · obtain ⟨r, hr, hrid⟩ := h.documents d hd
          exact absurd (hrid.trans hid) (hfresh r hr)
        · exact happroved d hd

end ReviewDue

theorem Move.reviewDue {db db' : Cabinet} {l : Label} (hdb : Coherent db) (h : ReviewDue db)
    (m : Move db l db')
    (hl : ∀ jacketId, l = .waived jacketId → ∀ p ∈ db.jacket_packages, p.jacket_id = jacketId →
      p.state.unsent = true → p.reviewed_at ≠ none ∨ p.review_required = true) :
    ReviewDue db' := by
  have hretired : ∀ (predecessor : Option Package) (reason : Option String) (p : Package),
      (∀ k ∈ db.jacket_packages, k.package_id ≠ p.package_id) →
      ∀ k ∈ retired predecessor reason db.jacket_packages, k.package_id ≠ p.package_id := by
    intro predecessor reason p hfresh k hk
    rcases updateWhere_cases hk with ⟨hk, -⟩ | ⟨r, hr, -, rfl⟩
    · exact hfresh k hk
    · exact hfresh r hr
  cases m with
  | opened j items pf bl ev fresh isOpen kept => exact h.items kept
  | evidenced items pf bl ev kept => exact h.items kept
  | waived item f pf bl ev stands keeps =>
    exact h.waived hdb stands (fun i => (keeps i).2) (hl item.jacket_id rfl)
  | failed j predecessor reason p bump pf bl ev jacket ofJacket stands fresh isVoided bumped =>
    refine (h.moved rfl).append ?_
    rw [isVoided]
    rfl
  | assembled j predecessor reason p documents items pf bl ev jacket ofJacket stands fresh isDraft
      ofPackage unreviewed kept =>
      have haside : ReviewDue { db with
          jacket_packages := retired predecessor reason db.jacket_packages } := h.moved rfl
      exact (haside.assembled (hretired predecessor reason p fresh) ofPackage unreviewed).items kept
  | readied hit pf bl ev draft =>
    refine h.updateWhere (f := Package.moved .review_ready none) (fun _ => rfl) fun k hk hh _ =>
      .inr ⟨?_, rfl, rfl⟩
    rw [draft k hk hh]
    rfl
  | reviewed hit actor now =>
    exact h.updateWhere (f := Package.stamped actor now) (fun _ => rfl) fun _ _ _ _ =>
      .inl (Option.some_ne_none now)
  | viewed | consented | voidedJacket => exact { h with }
  | sent | progressed | completed | declined | voidedPackage | expired => exact h.moved rfl

theorem history_reviewDue {calls : List Call}
    (h : Along step WaivesUnderReview Cabinet.empty calls) : ReviewDue (history calls) := by
  refine history_invariant ⟨fun d hd => absurd hd not_mem_nil,
    fun p hp => absurd hp not_mem_nil⟩ ?_ h
  intro db call a l b hc ha hi hl hm
  refine hm.reviewDue ha hi fun jacketId hlabel p hp hj hunsent => ?_
  rw [hlabel] at hl
  obtain ⟨rfl, w, input, item, rfl, hwaives, hitem⟩ := hl
  exact hc item hwaives p hp (hj.trans hitem.symm) hunsent

/-- Whenever `sendPackage` answers `sent` after a history whose waivers are made
under review, the package carries a review stamp, or no unapproved template and no
waiver. -/
theorem sent_reviewed {calls : List Call} (h : Along step WaivesUnderReview Cabinet.empty calls)
    {w : JacketWorld} {input : SendInput} {pkg : Package} {ceremony : Ceremony}
    {signers : List Signer} {db : Cabinet}
    (hsend : sendPackage w (history calls) input = .ok (.sent pkg ceremony signers, db)) :
    pkg.reviewed_at ≠ none ∨ NothingToReview db pkg := by
  rcases sendPackage_eq_ok hsend with
    ⟨-, hne⟩ | ⟨p, hp, ⟨sha256, hadmits⟩, _, _, _, _, hout, hsends⟩
  · exact absurd rfl (hne pkg ceremony signers)
  · cases hout
    obtain ⟨hstate, hreview, -, -⟩ := of_admits_eq_ok hadmits
    rw [NothingToReview, hsends.after]
    rcases (history_reviewDue h).packages p hp (by rw [hstate]; rfl) with hd | hrequired | hnothing
    · exact .inl hd
    · exact .inl (hreview hrequired)
    · exact .inr hnothing

namespace CashDeal

def waiveInsurance : Call :=
  .waiveRequirement (world midnight) ⟨manager, jacketId, "6a000000-0000-4000-8001-000000000001",
    "insured elsewhere", some 1, "crm:note-17", 1⟩

/-- The insurance is waived, the deal is assembled and reviewed, and the insurance is asked to be
waived once more. -/
def waivedAndReviewed : List Call :=
  [ .openJacket (world midnight) manager scenario.desking_case_id, waiveInsurance,
    .assemblePackage (world midnight) ⟨manager, jacketId, 1⟩,
    .markReviewReady (world midnight) ⟨manager, packageId, 2⟩,
    .reviewPackage (world midnight) ⟨manager, packageId, 3⟩, waiveInsurance ]

/-- The insurance is waived after the deal is assembled, and then it is marked ready. -/
def readiedWithWaiver : List Call :=
  [ .openJacket (world midnight) manager scenario.desking_case_id,
    .assemblePackage (world midnight) ⟨manager, jacketId, 1⟩, waiveInsurance,
    .markReviewReady (world midnight) ⟨manager, packageId, 2⟩ ]

def send (version : Nat) : SendInput := ⟨⟨manager, packageId, version⟩, none⟩

end CashDeal

/-- A package is sent whose waiver has been reviewed. -/
theorem sent_reviewed_waived : ∃ pkg ceremony signers db,
    sendPackage (CashDeal.world CashDeal.midnight) (history CashDeal.waivedAndReviewed)
      (CashDeal.send 4) = .ok (.sent pkg ceremony signers, db) ∧
      (db.jacket_checklist_items.any fun i => i.state = .waived) = true ∧
      (pkg.reviewed_at ≠ none ∨ NothingToReview db pkg) := by
  obtain ⟨pkg, ceremony, signers, db, hsend, hwaived⟩ : ∃ pkg ceremony signers db,
      sendPackage (CashDeal.world CashDeal.midnight) (history CashDeal.waivedAndReviewed)
        (CashDeal.send 4) = .ok (.sent pkg ceremony signers, db) ∧
        (db.jacket_checklist_items.any fun i => i.state = .waived) = true :=
    ⟨_, _, _, _, rfl, by decide +kernel⟩
  -- no package stands at the first waiver, and the one at the second is reviewed
  have hfirst : (run step Cabinet.empty (CashDeal.waivedAndReviewed.take 1)).jacket_packages = [] :=
    rfl
  have hsecond : ∀ p ∈ (run step Cabinet.empty (CashDeal.waivedAndReviewed.take 5)).jacket_packages,
      p.reviewed_at.isSome = true := by decide +kernel
  have halong : Along step WaivesUnderReview Cabinet.empty CashDeal.waivedAndReviewed := by
    refine ⟨trivial, fun _ _ p hp => ?_, trivial, trivial, trivial, fun _ _ p hp _ _ => ?_, trivial⟩
    · exact absurd (hfirst ▸ hp) not_mem_nil
    · exact .inl (Option.isSome_iff_ne_none.mp (hsecond p hp))
  exact ⟨pkg, ceremony, signers, db, hsend, hwaived, sent_reviewed halong hsend⟩

/-- An unreviewed package is sent while an item of its jacket is waived. -/
theorem sent_with_unreviewed_waiver : ∃ pkg ceremony signers db,
    sendPackage (CashDeal.world CashDeal.midnight) (history CashDeal.readiedWithWaiver)
      (CashDeal.send 3) = .ok (.sent pkg ceremony signers, db) ∧
      ¬ (pkg.reviewed_at ≠ none ∨ NothingToReview db pkg) := by
  refine ⟨_, _, _, _, rfl, ?_⟩
  rintro (hreviewed | hnothing)
  · exact hreviewed rfl
  · exact hnothing.2 _ (mem_cons_of_mem _ mem_cons_self) rfl rfl

end Dealership.Jacket
