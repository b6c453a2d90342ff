import Dealership.Jacket.Configuration

/-!
# One answer from configuration

The exclusion constraints keep two rows of one code, one jurisdiction, one
transaction type and one pair of legal entity and rooftop from being in force at
one instant.  The score folds the pair into three levels, and a rooftop's row
scores the same whether it names the legal entity or not.  So the rows a deal
admits resolve to one answer exactly when no code has both kinds of rooftop row
at the top.
-/

namespace Dealership.Jacket

open Library List

/-! ## The exclusion constraints -/

/-- What `COALESCE` puts for a scope column that is null. -/
def noScope : String := "00000000-0000-0000-0000-000000000000"

/-- `tstzrange(a.effective_from, a.effective_to) && tstzrange(b.effective_from, b.effective_to)`. -/
def ConfiguredScope.overlaps (a b : ConfiguredScope) : Bool :=
  let t := max a.effective_from b.effective_from
  inForce a.effective_from a.effective_to t && inForce b.effective_from b.effective_to t

/-- Two rows of one code that the exclusion constraint refuses together. -/
def ConfiguredScope.excludes (a b : ConfiguredScope) : Bool :=
  a.jurisdiction = b.jurisdiction && a.transaction_type = b.transaction_type &&
    a.legal_entity_id.getD noScope = b.legal_entity_id.getD noScope &&
    a.rooftop_id.getD noScope = b.rooftop_id.getD noScope && a.overlaps b

/-- `uq_document_templates_no_overlap`, `uq_document_requirements_no_overlap`. -/
def NoOverlap {α : Type} (scopeOf : α → ConfiguredScope) (codeOf : α → String)
    (rows : List α) : Prop :=
  rows.Pairwise fun a b => ¬ (codeOf a = codeOf b ∧ (scopeOf a).excludes (scopeOf b) = true)

/-- The exclusion constraints of the two configured tables. -/
structure Configuration.NoOverlaps (c : Configuration) : Prop where
  templates : NoOverlap Template.toConfiguredScope (·.template_code) c.document_templates
  requirements :
    NoOverlap Requirement.toConfiguredScope (·.requirement_code) c.document_requirements

theorem overlaps_of_inForce {a b : ConfiguredScope} {t : Int}
    (ha : inForce a.effective_from a.effective_to t = true)
    (hb : inForce b.effective_from b.effective_to t = true) : a.overlaps b = true := by
  have hearlier : ∀ (r : ConfiguredScope) (t' : Int), r.effective_from ≤ t' → t' ≤ t →
      inForce r.effective_from r.effective_to t = true →
        inForce r.effective_from r.effective_to t' = true := by
    intro r t' hfrom hle h
    rw [inForce, Bool.and_eq_true, decide_eq_true_iff] at h ⊢
    refine ⟨hfrom, ?_⟩
    cases hto : r.effective_to with
    | none => rfl
    | some e =>
      rw [hto] at h
      exact decide_eq_true (lt_of_le_of_lt hle (of_decide_eq_true h.2))
  have hmax : max a.effective_from b.effective_from ≤ t := by
    rw [inForce, Bool.and_eq_true, decide_eq_true_iff] at ha hb
    exact max_le ha.1 hb.1
  rw [ConfiguredScope.overlaps, Bool.and_eq_true]
  exact ⟨hearlier a _ (le_max_left _ _) hmax ha, hearlier b _ (le_max_right _ _) hmax hb⟩

theorem excludes_comm (a b : ConfiguredScope) : a.excludes b = b.excludes a := by
  rw [Bool.eq_iff_iff, ConfiguredScope.excludes, ConfiguredScope.excludes,
    ConfiguredScope.overlaps, ConfiguredScope.overlaps, max_comm]
  simp only [Bool.and_eq_true, decide_eq_true_iff]
  constructor <;> rintro ⟨⟨⟨⟨hj, ht⟩, hle⟩, hr⟩, ha, hb⟩ <;>
    exact ⟨⟨⟨⟨hj.symm, ht.symm⟩, hle.symm⟩, hr.symm⟩, hb, ha⟩

theorem NoOverlap.eq {α : Type} {scopeOf : α → ConfiguredScope} {codeOf : α → String}
    {rows : List α} (h : NoOverlap scopeOf codeOf rows) {a b : α} (ha : a ∈ rows) (hb : b ∈ rows)
    (hcode : codeOf a = codeOf b) (hexcludes : (scopeOf a).excludes (scopeOf b) = true) : a = b := by
  have hsymm : Std.Symm fun a b =>
      ¬ (codeOf a = codeOf b ∧ (scopeOf a).excludes (scopeOf b) = true) := by
    refine ⟨fun x y hxy hyx => hxy ⟨hyx.1.symm, ?_⟩⟩
    rw [excludes_comm]
    exact hyx.2
  by_contra hne
  exact List.Pairwise.forall h ha hb hne ⟨hcode, hexcludes⟩

/-! ## The score -/

/-- The columns of an admitted row: null, or the deal's own. -/
theorem of_covers {row : ConfiguredScope} {scope : ResolutionScope} (h : row.covers scope = true) :
    row.jurisdiction = scope.jurisdiction ∧
      (row.legal_entity_id = none ∨ row.legal_entity_id = some scope.legalEntityId) ∧
      (row.rooftop_id = none ∨ row.rooftop_id = some scope.rooftopId) ∧
      (row.transaction_type = .only scope.transactionType ∨ row.transaction_type = .any) ∧
      inForce row.effective_from row.effective_to scope.instant = true := by
  simp only [ConfiguredScope.covers, Bool.and_eq_true, Bool.or_eq_true, decide_eq_true_iff] at h
  obtain ⟨⟨⟨⟨hj, hle⟩, hr⟩, ht⟩, hforce⟩ := h
  have hscope : ∀ (c : Option String) (id : String), (c.all fun x => x = id) = true →
      c = none ∨ c = some id := by
    intro c id hc
    cases c with
    | none => exact .inl rfl
    | some x => exact .inr (congrArg some (of_decide_eq_true hc))
  exact ⟨hj, hscope _ _ hle, hscope _ _ hr, ht, hforce⟩

/-- Rows of one score, both admitted, differ at most in the legal entity of a rooftop's row. -/
theorem of_specificity_eq {a b : ConfiguredScope} {scope : ResolutionScope}
    (ha : a.covers scope = true) (hb : b.covers scope = true) (h : specificity a = specificity b) :
    a.transaction_type = b.transaction_type ∧ a.rooftop_id = b.rooftop_id ∧
      (a.legal_entity_id = b.legal_entity_id ∨ a.rooftop_id.isSome = true) := by
  obtain ⟨-, hale, har, hat, -⟩ := of_covers ha
  obtain ⟨-, hble, hbr, hbt, -⟩ := of_covers hb
  unfold specificity at h
  rcases har with har | har <;> rcases hbr with hbr | hbr <;>
    rcases hale with hale | hale <;> rcases hble with hble | hble <;>
      rcases hat with hat | hat <;> rcases hbt with hbt | hbt <;>
        simp [har, hbr, hale, hble, hat, hbt] at h ⊢

/-- A code whose best rows are two of a rooftop, one under the legal entity and one
under none: no row of the rooftop for the deal's own type is above rows for any. -/
def Torn {α : Type} (scopeOf : α → ConfiguredScope) (codeOf : α → String) (rows : List α)
    (scope : ResolutionScope) (code : String) : Prop :=
  ∃ a ∈ rows, ∃ b ∈ rows, codeOf a = code ∧ codeOf b = code ∧
    (scopeOf a).covers scope = true ∧ (scopeOf b).covers scope = true ∧
    (scopeOf a).rooftop_id.isSome = true ∧ (scopeOf b).rooftop_id.isSome = true ∧
    (scopeOf a).legal_entity_id.isSome = true ∧ (scopeOf b).legal_entity_id = none ∧
    (scopeOf a).transaction_type = (scopeOf b).transaction_type ∧
    ((scopeOf a).transaction_type = .any → ∀ r ∈ rows, codeOf r = code →
      (scopeOf r).covers scope = true → (scopeOf r).rooftop_id.isSome = true →
        (scopeOf r).transaction_type = .any)

section Table

variable {α : Type} {scopeOf : α → ConfiguredScope} {codeOf : α → String} {rows : List α}
  {scope : ResolutionScope} {code : String}

def admitted (scopeOf : α → ConfiguredScope) (scope : ResolutionScope) (rows : List α) : List α :=
  rows.filter fun r => (scopeOf r).covers scope

theorem mem_admitted {r : α} :
    r ∈ admitted scopeOf scope rows ↔ r ∈ rows ∧ (scopeOf r).covers scope = true :=
  mem_filter

/-- A row of a rooftop is among the best of its code when its type is the deal's own, or
no rooftop row of the code has a type of its own. -/
theorem isBest_of_rooftop {a : α} (ha : a ∈ rows) (hcover : (scopeOf a).covers scope = true)
    (hrooftop : (scopeOf a).rooftop_id.isSome = true)
    (htop : (scopeOf a).transaction_type = .any → ∀ r ∈ rows, codeOf r = codeOf a →
      (scopeOf r).covers scope = true → (scopeOf r).rooftop_id.isSome = true →
        (scopeOf r).transaction_type = .any) :
    IsBest codeOf (fun r => specificity (scopeOf r)) (admitted scopeOf scope rows) a := by
  refine ⟨mem_admitted.mpr ⟨ha, hcover⟩, fun r hr hcode => ?_⟩
  obtain ⟨hr, hrcover⟩ := mem_admitted.mp hr
  dsimp only [specificity]
  rw [if_pos hrooftop]
  by_cases htype : (scopeOf a).transaction_type = .any
  · by_cases hrr : (scopeOf r).rooftop_id.isSome = true
    · rw [if_pos hrr, htop htype r hr hcode hrcover hrr, htype]
    · rw [if_neg hrr]
      split <;> split <;> omega
  · rw [if_pos htype]
    split <;> split <;> (try split) <;> omega

theorem Torn.answers (h : Torn scopeOf codeOf rows scope code) :
    ∃ rows' rows'', rows.Perm rows' ∧ rows.Perm rows'' ∧
      (pickMostSpecific scopeOf codeOf (admitted scopeOf scope rows')).get code ≠
        (pickMostSpecific scopeOf codeOf (admitted scopeOf scope rows'')).get code := by
  obtain ⟨a, ha, b, hb, hac, hbc, hacover, hbcover, harooftop, hbrooftop, hale, hble, htype,
    htop⟩ := h
  have hfirst : ∀ x ∈ rows, codeOf x = code → (scopeOf x).covers scope = true →
      (scopeOf x).rooftop_id.isSome = true →
      (scopeOf x).transaction_type = (scopeOf a).transaction_type →
      ∃ rows', rows.Perm rows' ∧
        (pickMostSpecific scopeOf codeOf (admitted scopeOf scope rows')).get code = some x := by
    intro x hx hcode hcover hrooftop hxtype
    obtain ⟨before, after, rfl⟩ := append_of_mem hx
    have hperm : (before ++ x :: after).Perm (x :: (before ++ after)) := perm_middle
    refine ⟨x :: (before ++ after), hperm, ?_⟩
    have hbest : IsBest codeOf (fun r => specificity (scopeOf r))
        (admitted scopeOf scope (x :: (before ++ after))) x := by
      refine isBest_of_rooftop mem_cons_self hcover hrooftop ?_
      rw [hxtype, hcode]
      exact fun hany r hr => htop hany r (hperm.mem_iff.mpr hr)
    have hsplit : admitted scopeOf scope (x :: (before ++ after)) =
        x :: admitted scopeOf scope (before ++ after) := filter_cons_of_pos hcover
    rw [hsplit] at hbest ⊢
    rw [← hcode]
    exact get_pick_cons hbest
  obtain ⟨rows', hrows', hget'⟩ := hfirst a ha hac hacover harooftop rfl
  obtain ⟨rows'', hrows'', hget''⟩ := hfirst b hb hbc hbcover hbrooftop htype.symm
  refine ⟨rows', rows'', hrows', hrows'', ?_⟩
  rw [hget', hget'']
  rintro h
  rw [Option.some.inj h, hble] at hale
  cases hale

theorem eq_of_isBest (h : NoOverlap scopeOf codeOf rows)
    (htorn : ¬ Torn scopeOf codeOf rows scope code) {x y : α}
    (hx : IsBest codeOf (fun r => specificity (scopeOf r)) (admitted scopeOf scope rows) x)
    (hy : IsBest codeOf (fun r => specificity (scopeOf r)) (admitted scopeOf scope rows) y)
    (hxc : codeOf x = code) (hyc : codeOf y = code) : x = y := by
  obtain ⟨hxr, hxcover⟩ := mem_admitted.mp hx.1
  obtain ⟨hyr, hycover⟩ := mem_admitted.mp hy.1
  have hcode : codeOf x = codeOf y := hxc.trans hyc.symm
  have hrank : specificity (scopeOf x) = specificity (scopeOf y) :=
    le_antisymm (hy.2 x hx.1 hcode) (hx.2 y hy.1 hcode.symm)
  obtain ⟨htype, hrooftop, hentity⟩ := of_specificity_eq hxcover hycover hrank
  obtain ⟨hxj, hxle, -, -, hxforce⟩ := of_covers hxcover
  obtain ⟨hyj, hyle, -, -, hyforce⟩ := of_covers hycover
  by_cases hle : (scopeOf x).legal_entity_id = (scopeOf y).legal_entity_id
  · refine h.eq hxr hyr hcode ?_
    simp only [ConfiguredScope.excludes, hxj, hyj, htype, hle, hrooftop, decide_true, Bool.true_and]
    exact overlaps_of_inForce hxforce hyforce
  · exfalso
    have hxroof : (scopeOf x).rooftop_id.isSome = true := hentity.resolve_left hle
    -- a rooftop's row of the deal's own type would have a higher score
    have htop : ∀ z, IsBest codeOf (fun r => specificity (scopeOf r))
        (admitted scopeOf scope rows) z → codeOf z = code →
        (scopeOf z).transaction_type = .any → ∀ r ∈ rows, codeOf r = code →
        (scopeOf r).covers scope = true → (scopeOf r).rooftop_id.isSome = true →
          (scopeOf r).transaction_type = .any := by
      intro z hz hzc hany r hr hrc hrcover hrroof
      by_contra hrtype
      have hlt := hz.2 r (mem_admitted.mpr ⟨hr, hrcover⟩) (hrc.trans hzc.symm)
      dsimp only [specificity] at hlt
      rw [if_pos hrroof, if_pos hrtype, hany] at hlt
      split at hlt
      · simp at hlt
      · split at hlt <;> simp at hlt
    rcases hxle with hxle | hxle <;> rcases hyle with hyle | hyle
    · exact hle (hxle.trans hyle.symm)
    · exact htorn ⟨y, hyr, x, hxr, hyc, hxc, hycover, hxcover, hrooftop ▸ hxroof, hxroof,
        by rw [hyle]; rfl, hxle, htype.symm, htop y hy hyc⟩
    · exact htorn ⟨x, hxr, y, hyr, hxc, hyc, hxcover, hycover, hxroof, hrooftop ▸ hxroof,
        by rw [hxle]; rfl, hyle, htype, htop x hx hxc⟩
    · exact hle (hxle.trans hyle.symm)

theorem get_perm_iff (h : NoOverlap scopeOf codeOf rows) :
    (∀ rows', rows.Perm rows' →
      (pickMostSpecific scopeOf codeOf (admitted scopeOf scope rows')).get code =
        (pickMostSpecific scopeOf codeOf (admitted scopeOf scope rows)).get code) ↔
      ¬ Torn scopeOf codeOf rows scope code := by
  constructor
  · intro hsame htorn
    obtain ⟨rows', rows'', hrows', hrows'', hne⟩ := htorn.answers
    exact hne ((hsame rows' hrows').trans (hsame rows'' hrows'').symm)
  · intro htorn rows' hrows'
    exact get_pick_perm (fun x y hx hy hxc hyc => eq_of_isBest h htorn hx hy hxc hyc)
      (hrows'.filter _)

end Table

/-! ## The configuration -/

def ResolvedConfiguration.requirement (resolved : ResolvedConfiguration) (code : String) :
    Option Requirement :=
  resolved.requirements.find? fun r => r.requirement_code = code

def ResolvedConfiguration.template (resolved : ResolvedConfiguration) (code : String) :
    Option Template :=
  resolved.templatesByCode.get code

/-- The same rows, returned in any order. -/
structure Configuration.Reordered (c c' : Configuration) : Prop where
  templates : c.document_templates.Perm c'.document_templates
  requirements : c.document_requirements.Perm c'.document_requirements
  policies : c.retention_policies.Perm c'.retention_policies

theorem requirement_eq (c : Configuration) (scope : ResolutionScope) (code : String) :
    (resolveConfigurationWithin c scope).requirement code =
      (pickMostSpecific Requirement.toConfiguredScope (·.requirement_code)
        (admitted Requirement.toConfiguredScope scope c.document_requirements)).get code :=
  find?_pick (perm_insertionSort _ _)

/-- Rows under the exclusion constraints resolve to one answer, whatever order they are
returned in, exactly when no code of either table is torn. -/
theorem resolves_iff {c : Configuration} (h : c.NoOverlaps) (scope : ResolutionScope) :
    (∀ c', c.Reordered c' → ∀ code,
      (resolveConfigurationWithin c' scope).requirement code =
        (resolveConfigurationWithin c scope).requirement code ∧
      (resolveConfigurationWithin c' scope).template code =
        (resolveConfigurationWithin c scope).template code) ↔
    ∀ code,
      ¬ Torn Requirement.toConfiguredScope (·.requirement_code) c.document_requirements scope code ∧
      ¬ Torn Template.toConfiguredScope (·.template_code) c.document_templates scope code := by
  constructor
  · intro hsame code
    constructor
    · refine (get_perm_iff h.requirements).mp fun rows' hrows' => ?_
      rw [← requirement_eq c, ← (hsame ⟨c.document_templates, rows', c.retention_policies⟩
        ⟨.refl _, hrows', .refl _⟩ code).1]
      exact (requirement_eq ⟨_, rows', _⟩ scope code).symm
    · refine (get_perm_iff h.templates).mp fun rows' hrows' => ?_
      exact (hsame ⟨rows', c.document_requirements, c.retention_policies⟩
        ⟨hrows', .refl _, .refl _⟩ code).2
  · intro htorn c' hc' code
    constructor
    · rw [requirement_eq, requirement_eq]
      exact (get_perm_iff h.requirements).mpr (htorn code).1 _ hc'.requirements
    · exact (get_perm_iff h.templates).mpr (htorn code).2 _ hc'.templates

/-! ## One rooftop, two rows -/

namespace InsuranceCard

/-- Insurance is asked for at the rooftop, under the scope the row names. -/
def required (id : String) (version : Int) (legalEntityId rooftopId : Option String)
    (waivable : Bool) : Requirement where
  jurisdiction := "US-CO"
  legal_entity_id := legalEntityId
  rooftop_id := rooftopId
  transaction_type := .any
  effective_from := 0
  effective_to := none
  requirement_id := id
  requirement_code := "insurance"
  version
  satisfied_by := .evidence
  template_code := none
  evidence_kind := some "insurance_card"
  required := true
  waivable
  source := "carrier"

def legalEntityId : String := "6a000000-0000-4000-8000-000000000004"
def rooftopId : String := "6a000000-0000-4000-8000-000000000005"

def scope : ResolutionScope := ⟨"US-CO", legalEntityId, rooftopId, .retail_cash, 1⟩

/-- The rooftop's row, and the row of the rooftop under its legal entity. -/
def atRooftop : Requirement :=
  required "6a000000-0000-4000-8003-000000000001" 1 none (some rooftopId) true
def underEntity : Requirement :=
  required "6a000000-0000-4000-8003-000000000002" 2 (some legalEntityId) (some rooftopId) false

/-- The tenant's row beside the rooftop's. -/
def tenantWide : Requirement := required "6a000000-0000-4000-8003-000000000003" 3 none none false

end InsuranceCard

/-- Two rows of a rooftop, under the exclusion constraint, answer by the order they come in. -/
theorem not_resolves_underEntity :
    (Configuration.mk [] [InsuranceCard.atRooftop, InsuranceCard.underEntity] []).NoOverlaps ∧
    (Configuration.mk [] [InsuranceCard.atRooftop, InsuranceCard.underEntity] []).Reordered
      ⟨[], [InsuranceCard.underEntity, InsuranceCard.atRooftop], []⟩ ∧
    (resolveConfigurationWithin ⟨[], [InsuranceCard.atRooftop, InsuranceCard.underEntity], []⟩
      InsuranceCard.scope).requirement "insurance" = some InsuranceCard.atRooftop ∧
    (resolveConfigurationWithin ⟨[], [InsuranceCard.underEntity, InsuranceCard.atRooftop], []⟩
      InsuranceCard.scope).requirement "insurance" = some InsuranceCard.underEntity := by
  refine ⟨⟨.nil, ?_⟩, ⟨.refl _, List.Perm.swap _ _ _, .refl _⟩, ?_, ?_⟩
  · rw [NoOverlap]
    decide
  · decide
  · decide

/-- The tenant's row and the rooftop's resolve to the rooftop's in the other order too. -/
theorem resolves_tenantWide :
    (resolveConfigurationWithin ⟨[], [InsuranceCard.atRooftop, InsuranceCard.tenantWide], []⟩
        InsuranceCard.scope).requirement "insurance" =
      (resolveConfigurationWithin ⟨[], [InsuranceCard.tenantWide, InsuranceCard.atRooftop], []⟩
        InsuranceCard.scope).requirement "insurance" := by
  have hsame := (resolves_iff (c := ⟨[], [InsuranceCard.tenantWide, InsuranceCard.atRooftop], []⟩)
    ⟨.nil, ?_⟩ InsuranceCard.scope).mpr fun code => ⟨?_, ?_⟩
  · exact (hsame ⟨[], [InsuranceCard.atRooftop, InsuranceCard.tenantWide], []⟩
      ⟨.refl _, List.Perm.swap _ _ _, .refl _⟩ "insurance").1
  · rw [NoOverlap]
    decide
  · rintro ⟨a, ha, _, _, _, _, _, _, _, _, hentity, _⟩
    rcases mem_cons.mp ha with rfl | ha
    · cases hentity
    · rw [mem_singleton.mp ha] at hentity
      cases hentity
  · rintro ⟨a, ha, _⟩
    exact absurd ha not_mem_nil

end Dealership.Jacket
