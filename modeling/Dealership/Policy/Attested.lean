import Dealership.Policy.Evidence
import Dealership.Policy.Reach

/-!
# What the evidence accepts

The rules of the evidence tables restate much of what the engine decided, from
the stored row.  Here they are read against the three allowances: which of them
an allowance meets by what it was earned with, and what is left to ask.
-/

namespace Dealership.Policy

open Library List

variable {n : OrganizationNodeRef} {i : String} {row : EvidenceRow}
  {place : Option OrganizationNodeRef} {catalog : ActionCatalog} {db : Tables} {now : Int}
  {ids : EvidenceIds} {input : PolicyInput} {d : ActionDefinition} {t : String}
  {home id : Option String} {level : ScopeLevel} {b rb : RoleBinding} {r : ResourceRef}

/-! ## The organization as the triggers read it -/

theorem orgChainDefect_of_stands (h : db.organization.Stands t n now) :
    db.organization.orgChainDefect t n.level (some n.id) now = none := by
  obtain ⟨chain, hchain⟩ := Option.isSome_iff_exists.mp (Organization.resolveAncestry_isSome.mpr h)
  exact (Organization.resolveAncestry_eq_some.mp hchain).1

theorem stands_of_orgChainDefect
    (h : db.organization.orgChainDefect t n.level (some n.id) now = none) :
    db.organization.Stands t n now :=
  Organization.resolveAncestry_isSome.mp
    (by rw [Organization.resolveAncestry_eq_some.mpr ⟨h, rfl⟩]; rfl)

theorem stands_iff_orgChainDefect :
    (db.organization.orgChainDefect t n.level (some n.id) now).isNone = true ↔
      db.organization.Stands t n now := by
  rw [Option.isNone_iff_eq_none]
  exact ⟨stands_of_orgChainDefect, orgChainDefect_of_stands⟩

theorem mem_orgAncestryEffective {a : OrganizationNodeRef} (h : db.organization.Stands t n now) :
    a ∈ db.organization.orgAncestryEffective t n.level (some n.id) now ↔
      db.organization.AtOrAbove t a n := by
  obtain ⟨chain, hchain⟩ := Option.isSome_iff_exists.mp (Organization.resolveAncestry_isSome.mpr h)
  obtain ⟨hdef, hrows⟩ := Organization.resolveAncestry_eq_some.mp hchain
  have heq : db.organization.orgAncestryEffective t n.level (some n.id) now = chain := by
    rw [Organization.orgAncestryEffective, hdef, Option.isSome_none, if_neg Bool.false_ne_true,
      hrows]
  rw [heq, Organization.mem_of_resolveAncestry hchain]

theorem tenant_of_stands (h : db.organization.Stands t ⟨.tenant, i⟩ now) : i = t := by
  obtain ⟨r, hr, -⟩ := h _ (.self _)
  rw [Organization.nodeRow] at hr
  by_contra hne
  rw [if_neg hne] at hr
  cases hr

theorem dealerGroupRow_of_stands (h : db.organization.Stands t ⟨.dealerGroup, i⟩ now) :
    ∃ g, db.organization.dealerGroupRow t i = some g := by
  obtain ⟨r, hr, -⟩ := h _ (.self _)
  obtain ⟨g, hg, -⟩ := Option.map_eq_some_iff.mp hr
  exact ⟨g, hg⟩

theorem legalEntityRow_of_stands (h : db.organization.Stands t ⟨.legalEntity, i⟩ now) :
    ∃ e, db.organization.legalEntityRow t i = some e ∧
      db.organization.Stands t ⟨.dealerGroup, e.dealerGroupId⟩ now := by
  obtain ⟨r, hr, -⟩ := h _ (.self _)
  obtain ⟨e, he, -⟩ := Option.map_eq_some_iff.mp hr
  exact ⟨e, he, (Organization.stands_iff.mp h).2 _ (by simp [Organization.parent, he])⟩

theorem rooftopRow_of_stands (h : db.organization.Stands t ⟨.rooftop, i⟩ now) :
    ∃ r, db.organization.rooftopRow t i = some r ∧
      db.organization.Stands t ⟨.legalEntity, r.legalEntityId⟩ now := by
  obtain ⟨r, hr, -⟩ := h _ (.self _)
  obtain ⟨e, he, -⟩ := Option.map_eq_some_iff.mp hr
  exact ⟨e, he, (Organization.stands_iff.mp h).2 _ (by simp [Organization.parent, he])⟩

theorem departmentRow_of_stands (h : db.organization.Stands t ⟨.department, i⟩ now) :
    ∃ d, db.organization.departmentRow t i = some d ∧
      db.organization.Stands t ⟨.rooftop, d.rooftopId⟩ now := by
  obtain ⟨r, hr, -⟩ := h _ (.self _)
  obtain ⟨e, he, -⟩ := Option.map_eq_some_iff.mp hr
  exact ⟨e, he, (Organization.stands_iff.mp h).2 _ (by simp [Organization.parent, he])⟩

theorem nodeAbove_of_parent {p : OrganizationNodeRef} (hp : db.organization.parent t n = some p)
    (hn : db.organization.Stands t n now) (level : ScopeLevel) :
    EvidenceRow.nodeAbove db t n level =
      if level = n.level then some n.id else EvidenceRow.nodeAbove db t p level := by
  obtain ⟨nlevel, i⟩ := n
  cases nlevel <;> simp only [Organization.parent, Option.map_eq_some_iff, reduceCtorEq] at hp
  case dealerGroup =>
    obtain ⟨g, hg, rfl⟩ := hp
    have hid := Organization.dealerGroupRow_id hg
    cases level <;> simp [EvidenceRow.nodeAbove, hg, hid]
  case legalEntity =>
    obtain ⟨e, he, rfl⟩ := hp
    obtain ⟨e', he', hup⟩ := legalEntityRow_of_stands hn
    rw [he, Option.some.injEq] at he'
    subst he'
    obtain ⟨g, hg⟩ := dealerGroupRow_of_stands hup
    have hid := Organization.legalEntityRow_id he
    have hgid := Organization.dealerGroupRow_id hg
    cases level <;> simp [EvidenceRow.nodeAbove, he, hg, hid, hgid]
  case rooftop =>
    obtain ⟨r, hr, rfl⟩ := hp
    obtain ⟨r', hr', hup⟩ := rooftopRow_of_stands hn
    rw [hr, Option.some.injEq] at hr'
    subst hr'
    obtain ⟨e, he, -⟩ := legalEntityRow_of_stands hup
    have hid := Organization.rooftopRow_id hr
    have heid := Organization.legalEntityRow_id he
    cases level <;> simp [EvidenceRow.nodeAbove, hr, he, hid, heid]
  case department =>
    obtain ⟨dp, hdp, rfl⟩ := hp
    obtain ⟨dp', hdp', hup⟩ := departmentRow_of_stands hn
    rw [hdp, Option.some.injEq] at hdp'
    subst hdp'
    obtain ⟨r, hr, hup'⟩ := rooftopRow_of_stands hup
    obtain ⟨e, he, -⟩ := legalEntityRow_of_stands hup'
    have hid := Organization.departmentRow_id hdp
    have hrid := Organization.rooftopRow_id hr
    cases level <;> simp [EvidenceRow.nodeAbove, hdp, hr, he, hid, hrid]

theorem nodeAbove_of_atOrAbove {a : OrganizationNodeRef} (ha : db.organization.AtOrAbove t a n)
    (hn : db.organization.Stands t n now) (hlevel : a.level ≠ .tenant) :
    EvidenceRow.nodeAbove db t n a.level = some a.id := by
  induction ha with
  | self =>
    cases hp : db.organization.parent t a with
    | none =>
      -- A node that stands and hangs under nothing is the tenant.
      obtain ⟨chain, hchain⟩ :=
        Option.isSome_iff_exists.mp (Organization.resolveAncestry_isSome.mpr hn)
      obtain ⟨r, hr, -⟩ := ((Organization.resolveAncestry_of_root hp).mp hchain).1
      obtain ⟨level, i⟩ := a
      cases level <;> simp_all [Organization.parent, Organization.nodeRow]
    | some p => rw [nodeAbove_of_parent hp hn, if_pos rfl]
  | under hp ha ih =>
    rename_i p n
    have hne : a.level ≠ n.level := by
      intro heq
      have hdepth := Organization.depth_of_parent hp
      have hle := ha.depth_le
      rw [heq] at hle
      omega
    rw [nodeAbove_of_parent hp hn, if_neg hne]
    exact ih (hn.above (.under hp (.self _)))

/-! ## The presented credential -/

theorem readPresentedCredential_of_session (hdb : db.Sound) {u : String} {s : IdentitySession}
    (h : presentedSession db now u id = some s) :
    ∃ c p, readPresentedCredential db now u id = some {
        sessionId := s.sessionId, authTime := s.authTime, connectionId := c, providerSubject := p,
        mfaPolicyCertified := connectionCertified db now s } ∧
      db.session s.sessionId = some s ∧ s.userLinkId = u ∧ s.connectionId = some c ∧
      s.providerSubject = some p ∧ (db.connection c).isSome = true ∧ 1 ≤ p.length ∧
      p.length ≤ 200 := by
  have hread := h
  unfold presentedSession at h
  cases id with
  | none => cases h
  | some i =>
    obtain ⟨hmem, -, hown, hlive, -⟩ := Library.of_find?_eq_some h
    obtain ⟨⟨c, hc, hconn⟩, p, hp, hlen⟩ := hdb.sessionBound s hmem hlive
    refine ⟨c, p, ?_, Tables.session_of_mem hdb hmem, hown, hc, hp, hconn, hlen⟩
    simp only [readPresentedCredential, hread, hc, hp]

theorem readPresentedCredential_eq_none {u : String}
    (h : presentedSession db now u id = none) : readPresentedCredential db now u id = none := by
  rw [readPresentedCredential, h]

theorem sessionId_isSome (hdb : db.Sound) (ids : EvidenceIds) (decision : Decision)
    (code : ReasonCode) :
    (baseRow db now ids input decision code).sessionId.isSome = true ↔
      ∃ s, presentedSession db now input.actor.userLinkId input.sessionId = some s := by
  cases h : presentedSession db now input.actor.userLinkId input.sessionId with
  | none => simp [baseRow, readPresentedCredential_eq_none h]
  | some s =>
    obtain ⟨c, p, hread, -⟩ := readPresentedCredential_of_session hdb h
    simp [baseRow, hread]

/-- The rules about a row's credential columns. -/
structure EvidenceRow.CredentialRules (db : Tables) (row : EvidenceRow) : Prop where
  authTime : row.authTimeIsTheSessions db = true
  subject : (row.actorProviderSubject.all fun s =>
    decide (1 ≤ s.length ∧ s.length ≤ 200)) = true
  atomic : row.credentialGroupIsAtomic = true
  tuple : row.credentialIsTheSessions db = true
  connection : (row.connectionId.all fun c => (db.connection c).isSome) = true
  session : (row.sessionId.all fun s => (db.session s).isSome) = true

theorem credentialRules (hdb : db.Sound) (ids : EvidenceIds) (decision : Decision)
    (code : ReasonCode) (hs : row.sessionId = (baseRow db now ids input decision code).sessionId)
    (ha : row.authTime = (baseRow db now ids input decision code).authTime)
    (hc : row.connectionId = (baseRow db now ids input decision code).connectionId)
    (hp : row.actorProviderSubject = (baseRow db now ids input decision code).actorProviderSubject)
    (hu : row.actorUserLinkId = input.actor.userLinkId) : row.CredentialRules db := by
  cases h : presentedSession db now input.actor.userLinkId input.sessionId with
  | none =>
    have hread := readPresentedCredential_eq_none h
    simp only [baseRow, hread, Option.map_none, Option.bind_none] at hs ha hc hp
    constructor <;>
      simp [EvidenceRow.authTimeIsTheSessions, EvidenceRow.credentialGroupIsAtomic,
        EvidenceRow.credentialIsTheSessions, hs, hc, hp, ha]
  | some s =>
    obtain ⟨c, p, hread, hsess, hown, hconn, hsubj, hcsome, hlen⟩ :=
      readPresentedCredential_of_session hdb h
    simp only [baseRow, hread, Option.map_some, Option.bind_some, hsess] at hs ha hc hp
    constructor
    · simp [EvidenceRow.authTimeIsTheSessions, hs, hsess, ha]
    · simp [hp, hlen]
    · simp [EvidenceRow.credentialGroupIsAtomic, hs, ha, hc, hp]
    · simp [EvidenceRow.credentialIsTheSessions, hs, hc, hp, hsess, hown, hu, hconn, hsubj]
    · simp [hc, hcsome]
    · simp [hs, hsess]

/-! ## Matched bindings -/

theorem stands_tenant (hdb : db.Sound) (h : db.tenantEffective now t = true) :
    db.organization.Stands t ⟨.tenant, t⟩ now := by
  obtain ⟨r, hmem, hr⟩ := any_eq_true.mp h
  rw [Bool.and_eq_true, decide_eq_true_eq] at hr
  obtain ⟨rfl, heff⟩ := hr
  have hrow : db.organization.tenantRow r.tenantId = some r :=
    Library.find?_eq_some_of_key hdb.tenantKey hmem
  refine Organization.stands_iff.mpr ⟨⟨r.row, ?_, heff⟩, fun p hp => by cases hp⟩
  rw [Organization.nodeRow, if_pos rfl, hrow]
  rfl

/-- The node an action is judged at: the place, or the tenant when no place was named. -/
def judgedAt (t : String) (place : Option OrganizationNodeRef) : OrganizationNodeRef :=
  place.getD ⟨.tenant, t⟩

theorem stands_judgedAt (hdb : db.Sound) (h : db.tenantEffective now t = true)
    (hfit : Fit db now t place) : db.organization.Stands t (judgedAt t place) now := by
  cases place with
  | none => exact stands_tenant hdb h
  | some n => exact hfit n rfl

theorem reachesPlace_iff :
    ReachesPlace db t place level id ↔
      ∃ i, id = some i ∧ db.organization.AtOrAbove t ⟨level, i⟩ (judgedAt t place) := by
  cases place with
  | some n => exact Iff.rfl
  | none =>
    constructor
    · rintro ⟨rfl, rfl⟩
      exact ⟨t, rfl, .self _⟩
    · rintro ⟨i, rfl, ha⟩
      cases ha with
      | self => exact ⟨rfl, rfl⟩
      | under hp => cases hp

theorem scope_of_atOrAbove (ha : db.organization.AtOrAbove t ⟨level, i⟩ n)
    (hn : db.organization.Stands t n now) : (level = .tenant ∧ i = t) ∨
      (level ≠ .tenant ∧ EvidenceRow.nodeAbove db t n level = some i) := by
  by_cases hl : level = .tenant
  · subst hl
    exact .inl ⟨rfl, tenant_of_stands (hn.above ha)⟩
  · exact .inr ⟨hl, nodeAbove_of_atOrAbove ha hn hl⟩

theorem bindingIsApplicable_of_above (hdb : db.Sound) (htenant : row.tenantId = some t)
    (hlevel : row.scopeLevel = some n.level) (hid : row.scopeId = some n.id)
    (hn : db.organization.Stands t n now) (hactor : row.actorUserLinkId = input.actor.userLinkId)
    (hrb : InForce db now input (some t) rb) (hscope : rb.scopeId = some i)
    (ha : db.organization.AtOrAbove t ⟨rb.scopeLevel, i⟩ n) :
    row.bindingIsApplicable db now rb.asMatched = true := by
  have hnot := level_of_stands hn ha
  have hself := level_of_stands hn (.self n)
  have hnode : ∀ level, row.recordedNode db level = EvidenceRow.nodeAbove db t n level := by
    intro level
    rw [EvidenceRow.recordedNode, htenant, hlevel, hid]
  have hexists : row.recordedScopeExists db = true := by
    have hown := scope_of_atOrAbove (.self n) hn
    obtain ⟨nlevel, ni⟩ := n
    simp only at hlevel hid hself hown
    unfold EvidenceRow.recordedScopeExists
    rw [hlevel]
    rcases hown with ⟨rfl, rfl⟩ | ⟨hne, hrow⟩
    · simp [hid, htenant]
    · cases nlevel <;> simp_all
  have hbeneath : row.recordedScopeIsBeneath db rb = true := by
    unfold EvidenceRow.recordedScopeIsBeneath
    rcases scope_of_atOrAbove ha hn with ⟨hl, rfl⟩ | ⟨hne, hrow⟩
    · rw [hl]
      simp [hscope, htenant]
    · rw [hnode rb.scopeLevel, hrow, hscope]
      cases hl : rb.scopeLevel <;> simp_all
  unfold EvidenceRow.bindingIsApplicable
  rw [show db.binding rb.asMatched.roleBindingId = some rb from Tables.binding_of_mem hdb hrb.mem]
  dsimp only
  rw [if_neg (not_not.mpr (hrb.own.trans hactor.symm)), if_neg hnot.1]
  simp [RoleBinding.asMatched, hrb.effective, hlevel, hself.1, hrb.home, htenant, hnot.2,
    hexists, hbeneath]

theorem matched_rules (hdb : db.Sound) (hactor : row.actorUserLinkId = input.actor.userLinkId)
    (hrb : InForce db now input home rb) :
    EvidenceRow.bindingVersionIsReachable db rb.asMatched = true ∧
      1 ≤ rb.asMatched.authorizationVersion ∧
      row.bindingBelongsToTheActor db rb.asMatched = true := by
  have hfind : db.binding rb.asMatched.roleBindingId = some rb := Tables.binding_of_mem hdb hrb.mem
  refine ⟨?_, hdb.bindingVersion rb hrb.mem, ?_⟩
  · rw [EvidenceRow.bindingVersionIsReachable, hfind]
    simp [RoleBinding.asMatched]
  · simp [EvidenceRow.bindingBelongsToTheActor, hfind, hrb.own, hactor]

theorem mem_organizationLevels (hp : level ≠ .platform)
    (hr : level ≠ .resource) : level ∈ organizationLevels := by
  cases level <;> simp [organizationLevels] at hp hr ⊢

theorem bindingReachesResource_iff (hdb : db.Sound) (hrb : InForce db now input home rb)
    (hscope : rb.scopeId = some i) (hlevel : rb.scopeLevel ∈ organizationLevels)
    (htenant : rb.scopeLevel = .tenant → i = t) {leaf : String} (hres : row.resource = some r)
    (hrow : row.tenantId = some t) (hleaf : row.resourceRooftopId db = some leaf)
    (hstands : db.organization.Stands t ⟨.rooftop, leaf⟩ now) :
    row.bindingReachesResource db now rb.asMatched = true ↔
      db.organization.AtOrAbove t ⟨rb.scopeLevel, i⟩ ⟨.rooftop, leaf⟩ := by
  have hid : (if rb.scopeLevel = .tenant then some t else rb.scopeId) = some i := by
    by_cases hl : rb.scopeLevel = .tenant
    · rw [if_pos hl, htenant hl]
    · rw [if_neg hl, hscope]
  have hwindow : rb.window.covers now = true := (Bool.and_eq_true _ _ |>.mp hrb.effective).2
  unfold EvidenceRow.bindingReachesResource
  rw [show db.binding rb.asMatched.roleBindingId = some rb from Tables.binding_of_mem hdb hrb.mem]
  simp only [hres, hrow, hleaf, hlevel, if_true, hwindow, Bool.true_and, hid, onChain_iff,
    Option.some.injEq, exists_eq_left']
  exact mem_orgAncestryEffective hstands

theorem bindingReachesResource_of_none (hdb : db.Sound) (hrb : InForce db now input home rb)
    (hres : row.resource = none) :
    row.bindingReachesResource db now rb.asMatched = true := by
  have hwindow : rb.window.covers now = true := (Bool.and_eq_true _ _ |>.mp hrb.effective).2
  unfold EvidenceRow.bindingReachesResource
  rw [show db.binding rb.asMatched.roleBindingId = some rb from Tables.binding_of_mem hdb hrb.mem]
  simp [hres, hwindow]

/-! ## Names -/

theorem actionWellFormed_of_published (hget : catalog.get input.action = some d)
    (hrow : row.action = input.action) : row.actionWellFormed = true := by
  obtain ⟨hmem, hname⟩ := ActionCatalog.get_eq_some hget
  have hnamed := catalog.published.named d hmem
  rw [hname, ← hrow, isActionName] at hnamed
  unfold EvidenceRow.actionWellFormed
  cases hchars : row.action.toList with
  | nil => rw [hchars] at hnamed; exact hnamed
  | cons c cs =>
    rw [hchars] at hnamed
    simp only [Bool.and_eq_true, all_eq_true, Bool.or_eq_true] at hnamed ⊢
    exact ⟨⟨hnamed.1.1, fun c' hc' => .inl (hnamed.1.2 c' hc')⟩, hnamed.2⟩

theorem resourceTypeWellFormed_of_registered {type : String} (h : type ∈ registeredResources) :
    EvidenceRow.resourceTypeWellFormed type = true := by
  have hall : registeredResources.all EvidenceRow.resourceTypeWellFormed = true := by decide
  exact all_eq_true.mp hall type h

/-! ## The resource of an allow -/

/-- A resource that resolves in a tenant, on an effective chain. -/
structure ResourceStands (db : Tables) (now : Int) (t : String) (r : ResourceRef)
    (leaf : String) : Prop where
  resolves : db.resourceOrgLeaf t r.type r.id = some leaf
  stands : db.organization.Stands t ⟨.rooftop, leaf⟩ now

theorem resourceStands_iff (hallow : row.decision = .allow) (hres : row.resource = some r)
    (htenant : row.tenantId = some t) :
    row.resourceStands db now = true ↔ ∃ leaf, ResourceStands db now t r leaf := by
  simp only [EvidenceRow.resourceStands, hallow, hres, htenant, Option.any_eq_true]
  constructor
  · rintro ⟨leaf, hleaf, hdef⟩
    exact ⟨leaf, hleaf, stands_iff_orgChainDefect.mp hdef⟩
  · rintro ⟨leaf, hleaf, hstands⟩
    exact ⟨leaf, hleaf, stands_iff_orgChainDefect.mpr hstands⟩

theorem resourceRooftopId_of_allow (hallow : row.decision = .allow) (hres : row.resource = some r)
    (htenant : row.tenantId = some t) :
    row.resourceRooftopId db = db.resourceOrgLeaf t r.type r.id := by
  simp only [EvidenceRow.resourceRooftopId, hallow, hres, htenant]

/-- The rules about the resource an allow names. -/
structure EvidenceRow.ResourceRules (db : Tables) (now : Int) (row : EvidenceRow) : Prop where
  stands : row.resourceStands db now = true
  named : row.resource = none ∨ (row.resourceRooftopId db).isSome = true
  wellFormed : (row.resource.all fun r => resourceTypeWellFormed r.type) = true
  home : row.resourceRooftopIsTheTenants db = true

theorem resourceRules (hallow : row.decision = .allow) (htenant : row.tenantId = some t)
    (hresource : ∀ r, row.resource = some r → ∃ leaf, ResourceStands db now t r leaf) :
    row.ResourceRules db now := by
  cases hr : row.resource with
  | none =>
    have hid : row.resourceRooftopId db = none := by
      simp only [EvidenceRow.resourceRooftopId, hallow, hr]
    exact ⟨by simp only [EvidenceRow.resourceStands, hallow, hr], .inl hr, by rw [hr]; rfl,
      by simp only [EvidenceRow.resourceRooftopIsTheTenants, htenant, hid]⟩
  | some r =>
    obtain ⟨leaf, hleaf⟩ := hresource r hr
    have hid : row.resourceRooftopId db = some leaf :=
      (resourceRooftopId_of_allow hallow hr htenant).trans hleaf.resolves
    obtain ⟨rooftop, hrooftop, -⟩ := rooftopRow_of_stands hleaf.stands
    refine ⟨(resourceStands_iff hallow hr htenant).mpr ⟨leaf, hleaf⟩,
      .inr (by rw [hid]; rfl), ?_, ?_⟩
    · rw [hr]
      exact resourceTypeWellFormed_of_registered (Tables.registered_of_leaf hleaf.resolves)
    · simp only [EvidenceRow.resourceRooftopIsTheTenants, htenant, hid, hrooftop,
        Option.isSome_some]

/-! ## Accepted rows -/

theorem accepted_rule (name : String) (h : row.refusal db now = none) {holds : Bool}
    (hmem : (name, holds) ∈ row.rules db now) : holds = true :=
  (EvidenceRow.refusal_eq_none db now row).mp h _ hmem

theorem accepted_session (h : row.refusal db now = none) (hallow : row.decision = .allow) :
    row.sessionId.isSome = true := by
  have hrule : (!row.isAllow || row.sessionId.isSome) = true :=
    accepted_rule "pd_v2_allow_names_presented_credential" h
      (by simp [EvidenceRow.mem_rules, EvidenceRow.checkRules])
  rwa [EvidenceRow.isAllow, hallow] at hrule

theorem accepted_structure (h : row.refusal db now = none) :
    row.actorTypeIsReal db = true ∧ row.resourceStands db now = true ∧
      row.scopeStands db now = true := by
  have hrule : row.structurallyValid db now = true :=
    accepted_rule "trg_policy_decisions_v4_structure" h
      (by simp [EvidenceRow.mem_rules, EvidenceRow.triggerRules])
  simpa only [EvidenceRow.structurallyValid, Bool.and_eq_true, and_assoc] using hrule

theorem accepted_matched (h : row.refusal db now = none) {m : MatchedBinding} (hm : m ∈ row.matched)
    : row.bindingReachesResource db now m = true := by
  have hrule : (row.matched.all (row.bindingReachesResource db now)) = true :=
    accepted_rule "trg_pdmb_live_and_reaches_the_resource" h
      (by simp [EvidenceRow.mem_rules, EvidenceRow.matchRules])
  exact all_eq_true.mp hrule m hm

theorem triggerRules_of_undelegated (hcred : row.CredentialRules db)
    (hsupport : row.supportSessionId = none) (hstruct : row.structurallyValid db now = true) :
    ∀ r ∈ row.triggerRules db now, r.2 = true := by
  simp only [EvidenceRow.triggerRules, forall_mem_cons]
  simp [hcred.authTime, hstruct, hsupport, EvidenceRow.supportEvidenceIsTheApproval,
    EvidenceRow.supportSessionIsLive, EvidenceRow.supportWindowIsTheSessions,
    EvidenceRow.supportAuthorityIsLive, EvidenceRow.supportScopeReachesResource]

theorem matchRules_of_inForce (hdb : db.Sound) {bs : List RoleBinding}
    (hmatched : row.matched = bs.map RoleBinding.asMatched)
    (hactor : row.actorUserLinkId = input.actor.userLinkId)
    (hforce : ∀ rb ∈ bs, InForce db now input home rb)
    (hdistinct : (bs.map RoleBinding.roleBindingId).Nodup)
    (happlicable : ∀ rb ∈ bs, row.bindingIsApplicable db now rb.asMatched = true)
    (hreaches : ∀ rb ∈ bs, row.bindingReachesResource db now rb.asMatched = true) :
    ∀ r ∈ row.matchRules db now, r.2 = true := by
  have hall : ∀ p : MatchedBinding → Bool, (∀ rb ∈ bs, p rb.asMatched = true) →
      row.matched.all p = true := by
    intro p hp
    rw [hmatched, all_map]
    exact all_eq_true.mpr hp
  have hrules := fun rb hrb => matched_rules hdb hactor (hforce rb hrb)
  have hkeys : (row.matched.map MatchedBinding.roleBindingId).Nodup := by
    rw [hmatched, map_map]
    exact hdistinct
  simp only [EvidenceRow.matchRules, forall_mem_cons]
  exact ⟨hall _ happlicable, hall _ hreaches, hall _ fun rb hrb => (hrules rb hrb).1,
    hall _ fun rb hrb => decide_eq_true (hrules rb hrb).2.1, decide_eq_true hkeys,
    hall _ fun rb hrb => (hrules rb hrb).2.2, forall_mem_nil _⟩

theorem accepted_of_rules (htriggers : ∀ r ∈ row.triggerRules db now, r.2 = true)
    (hchecks : ∀ r ∈ row.checkRules db, r.2 = true) (hkeys : ∀ r ∈ row.keyRules db, r.2 = true)
    (hmatches : ∀ r ∈ row.matchRules db now, r.2 = true) : row.refusal db now = none := by
  refine (EvidenceRow.refusal_eq_none db now row).mpr fun r hr => ?_
  rcases (EvidenceRow.mem_rules db now row).mp hr with hr | hr | hr | hr
  · exact htriggers r hr
  · exact hchecks r hr
  · exact hkeys r hr
  · exact hmatches r hr

theorem tenantExists_of_effective (h : db.tenantEffective now t = true) :
    (db.organization.tenants.any fun r => decide (r.tenantId = t)) = true := by
  obtain ⟨r, hr, hboth⟩ := any_eq_true.mp h
  exact any_eq_true.mpr ⟨r, hr, ((Bool.and_eq_true _ _).mp hboth).1⟩

/-! ## A dealership actor's allowance -/

theorem covering_inForce (hactor : input.actor.actorScope = .dealership)
    (hhome : input.actor.tenantId = some t) {ancestry : Option (List OrganizationNodeRef)}
    (h : rb ∈ coveringBindings db now input d ancestry) :
    InForce db now input (some t) rb := by
  have hload := (mem_coveringBindings.mp h).1
  rw [mem_loadBindings, hactor] at hload
  exact hhome ▸ hload

/-- A dealership actor's allowance is recorded when a live session was presented, a resource they
named stands, and the rules of the recorded scope and of the matched bindings hold. -/
theorem member_accepted_of (hdb : db.Sound) (hget : catalog.get input.action = some d)
    (hactor : input.actor.actorScope = .dealership) (htarget : input.target = some t)
    (htenant : db.tenantEffective now t = true) {bs : List RoleBinding}
    (hforce : ∀ rb ∈ bs, InForce db now input (some t) rb)
    (hdistinct : (bs.map RoleBinding.roleBindingId).Nodup) (hb : b ∈ bs)
    (hnotPlatform : b.scopeLevel ≠ .platform)
    (hsession : ∃ s, presentedSession db now input.actor.userLinkId input.sessionId = some s)
    (hresource : ∀ r, input.resource = some r → ∃ leaf, ResourceStands db now t r leaf)
    (hscoped : ((memberAllowance input d bs b).row db now ids input).scopeStands db now = true)
    (happlicable : ∀ rb ∈ bs, ((memberAllowance input d bs b).row db now ids
      input).bindingIsApplicable db now rb.asMatched = true)
    (hreaches : ∀ rb ∈ bs, ((memberAllowance input d bs b).row db now ids
      input).bindingReachesResource db now rb.asMatched = true) :
    ((memberAllowance input d bs b).row db now ids input).refusal db now = none := by
  generalize hrow : (memberAllowance input d bs b).row db now ids input = row at *
  have hallow : row.decision = .allow := hrow ▸ rfl
  have hal : row.isAllow = true := decide_eq_true hallow
  have hrtenant : row.tenantId = some t := by rw [← hrow]; exact htarget
  have hrres : row.resource = input.resource := hrow ▸ rfl
  have hmatched : row.matched = bs.map RoleBinding.asMatched := hrow ▸ rfl
  have hractor : row.actorUserLinkId = input.actor.userLinkId := hrow ▸ rfl
  have hscope : row.scopeLevel = some b.scopeLevel := hrow ▸ rfl
  have hsupport : row.supportSessionId = none := hrow ▸ rfl
  have hauthority : row.supportAuthority = none := hrow ▸ rfl
  have hexpires : row.supportSessionExpiresAt = none := hrow ▸ rfl
  have hmeta : row.controlPlaneTargetTenantId = none := hrow ▸ rfl
  have haction : row.action = input.action := hrow ▸ rfl
  have hcorrelation : row.correlationId = ids.correlationId := hrow ▸ rfl
  have hrequest : row.requestId = ids.requestId := hrow ▸ rfl
  have htype : row.actorType = .user := by
    rw [← hrow]
    show input.actorType = .user
    rw [PolicyInput.actorType, hactor]
  have hpresented : row.sessionId.isSome = true := by
    rw [← hrow]
    exact (sessionId_isSome hdb ids .allow .allowRoleBinding).mpr hsession
  have hcred : row.CredentialRules db := by
    subst hrow
    exact credentialRules hdb ids .allow .allowRoleBinding rfl rfl rfl rfl rfl
  have hnonempty : row.matched ≠ [] := by
    rw [hmatched, ne_eq, map_eq_nil_iff]
    exact ne_nil_of_mem hb
  -- The actor's link is one of the tenant, since a binding in force there is theirs.
  obtain ⟨ul, hlink, hultenant⟩ := hdb.bindingLink b (hforce b hb).mem
  rw [(hforce b hb).own, ← hractor] at hlink
  have hul : ul.tenantId = some t := by
    rw [hultenant (by rw [(hforce b hb).home]; exact Option.some_ne_none t), (hforce b hb).home]
  have hdealer : ul.actorScope = .dealership :=
    (hdb.linkScope ul (Tables.mem_of_link hlink).1).mpr (by rw [hul]; exact Option.some_ne_none t)
  have hreal : row.actorTypeIsReal db = true := by
    rw [EvidenceRow.actorTypeIsReal, hlink, htype]
    exact decide_eq_true hdealer
  have hresrules : row.ResourceRules db now :=
    resourceRules hallow hrtenant fun r hr => hresource r (hrres ▸ hr)
  apply accepted_of_rules
  · refine triggerRules_of_undelegated hcred hsupport ?_
    rw [EvidenceRow.structurallyValid, hreal, hresrules.stands, hscoped]
    rfl
  · simp only [EvidenceRow.checkRules, forall_mem_cons, hcred.subject]
    simp [hcred.atomic, hal, hcorrelation, hrequest, hsupport, hauthority, hexpires, hmeta,
      hscope, hrtenant, hnonempty, hpresented, htype, ids.correlationIdLength,
      ids.requestIdLength, actionWellFormed_of_published hget haction, hnotPlatform,
      hresrules.named, hresrules.wellFormed]
  · simp only [EvidenceRow.keyRules, forall_mem_cons, hcred.tuple, hcred.connection,
      hcred.session, hresrules.home]
    simp [hlink, hul, hrtenant, tenantExists_of_effective htenant, hsupport, hmeta, hauthority,
      EvidenceRow.supportEvidenceIsTheSessions]
  · exact matchRules_of_inForce hdb hmatched hractor hforce hdistinct happlicable hreaches

/-- A dealership actor's allowance is recorded exactly when a live session was presented
and, if a resource was named, it stands and every matched binding reaches it. -/
theorem member_accepted_iff (hdb : db.Sound)
    (hres : ∀ rb ∈ db.roleBindings, rb.scopeLevel ≠ .resource)
    (hget : catalog.get input.action = some d) (hplane : actionPlane d = .tenant)
    (hactor : input.actor.actorScope = .dealership) (hhome : input.actor.tenantId = some t)
    (htarget : input.target = some t) (htenant : db.tenantEffective now t = true)
    {ancestry : Option (List OrganizationNodeRef)} (hresolved : Resolved db now t place ancestry)
    (hb : narrowestBinding (coveringBindings db now input d ancestry) = some b) :
    ((memberAllowance input d (coveringBindings db now input d ancestry) b).row
        db now ids input).refusal db now = none ↔
      (∃ s, presentedSession db now input.actor.userLinkId input.sessionId = some s) ∧
        ∀ r, input.resource = some r → ∃ leaf, ResourceStands db now t r leaf ∧
          ∀ rb ∈ coveringBindings db now input d ancestry,
            ReachesPlace db t (some ⟨.rooftop, leaf⟩) rb.scopeLevel rb.scopeId := by
  set bs := coveringBindings db now input d ancestry
  -- What the covering bindings have in common.
  have hjudged := stands_judgedAt hdb htenant hresolved.fit
  have hforce : ∀ rb ∈ bs, InForce db now input (some t) rb := fun rb h =>
    covering_inForce hactor hhome h
  have habove : ∀ rb ∈ bs, ∃ i, rb.scopeId = some i ∧
      db.organization.AtOrAbove t ⟨rb.scopeLevel, i⟩ (judgedAt t place) := fun rb h =>
    reachesPlace_iff.mp ((covers_iff hplane htarget hresolved (hres rb (hforce rb h).mem)).mp
      (mem_coveringBindings.mp h).2.2)
  have hlevel : ∀ rb ∈ bs, rb.scopeLevel ∈ organizationLevels := by
    intro rb h
    obtain ⟨i, -, ha⟩ := habove rb h
    have hl := level_of_stands hjudged ha
    exact mem_organizationLevels hl.1 hl.2
  have hown : ∀ rb ∈ bs, ∀ i, rb.scopeId = some i →
      rb.scopeLevel = .tenant → i = t := by
    intro rb h i hi hl
    obtain ⟨j, hj, ha⟩ := habove rb h
    rw [hi, Option.some.injEq] at hj
    subst hj
    rw [hl] at ha
    exact tenant_of_stands (hjudged.above ha)
  have hspec := narrowestBinding_spec bs
  rw [hb] at hspec
  obtain ⟨hbmem, hdeep⟩ := hspec
  obtain ⟨bi, hbi, hbabove⟩ := habove b hbmem
  have hbstands : db.organization.Stands t ⟨b.scopeLevel, bi⟩ now := hjudged.above hbabove
  generalize hrow : (memberAllowance input d bs b).row db now ids input = row
  have hallow : row.decision = .allow := hrow ▸ rfl
  have hrtenant : row.tenantId = some t := by rw [← hrow]; exact htarget
  have hrres : row.resource = input.resource := hrow ▸ rfl
  have hmatched : row.matched = bs.map RoleBinding.asMatched := hrow ▸ rfl
  have hractor : row.actorUserLinkId = input.actor.userLinkId := hrow ▸ rfl
  have hpresented : row.sessionId.isSome = true ↔
      ∃ s, presentedSession db now input.actor.userLinkId input.sessionId = some s := by
    rw [← hrow]
    exact sessionId_isSome hdb ids .allow .allowRoleBinding
  constructor
  · intro h
    refine ⟨hpresented.mp (accepted_session h hallow), fun r hr => ?_⟩
    obtain ⟨-, hstands, -⟩ := accepted_structure h
    obtain ⟨leaf, hleaf⟩ := (resourceStands_iff hallow (hrres.trans hr) hrtenant).mp hstands
    refine ⟨leaf, hleaf, fun rb hrb => ?_⟩
    obtain ⟨i, hi, -⟩ := habove rb hrb
    refine ⟨i, hi, ?_⟩
    refine (bindingReachesResource_iff hdb (hforce rb hrb) hi (hlevel rb hrb)
      (hown rb hrb i hi) (hrres.trans hr) hrtenant ?_ hleaf.stands).mp (accepted_matched h ?_)
    · rw [resourceRooftopId_of_allow hallow (hrres.trans hr) hrtenant, hleaf.resolves]
    · rw [hmatched]
      exact mem_map_of_mem hrb
  · rintro ⟨hsession, hresource⟩
    have hscope : row.scopeLevel = some b.scopeLevel := hrow ▸ rfl
    have hscopeId : row.scopeId = some bi := by rw [← hrow]; exact hbi
    have hdistinct : (bs.map RoleBinding.roleBindingId).Nodup := by
      refine List.Nodup.sublist ?_ hdb.bindingKey
      exact ((filter_sublist).trans filter_sublist).map RoleBinding.roleBindingId
    rw [← hrow]
    refine member_accepted_of hdb hget hactor htarget htenant hforce hdistinct hbmem
      (level_of_stands hjudged hbabove).1 hsession
      (fun r hr => (hresource r hr).imp fun _ h => h.1) ?_ ?_ ?_ <;> rw [hrow]
    · have hid : (if b.scopeLevel = .tenant then some t else some bi) = some bi := by
        by_cases hl : b.scopeLevel = .tenant
        · rw [if_pos hl, hown b hbmem bi hbi hl]
        · rw [if_neg hl]
      simp only [EvidenceRow.scopeStands, hallow, hrtenant, hscope, hlevel b hbmem, if_true,
        hscopeId, hid]
      exact stands_iff_orgChainDefect.mpr hbstands
    · intro rb hrb
      obtain ⟨i, hi, ha⟩ := habove rb hrb
      exact bindingIsApplicable_of_above hdb hrtenant hscope hscopeId hbstands hractor
        (hforce rb hrb) hi (Organization.AtOrAbove.of_depth_le ha hbabove (hdeep rb hrb))
    · intro rb hrb
      cases hr : row.resource with
      | none => exact bindingReachesResource_of_none hdb (hforce rb hrb) hr
      | some r =>
        obtain ⟨leaf, hleaf, hreach⟩ := hresource r (hrres ▸ hr)
        obtain ⟨i, hi, ha⟩ := hreach rb hrb
        exact (bindingReachesResource_iff hdb (hforce rb hrb) hi (hlevel rb hrb)
          (hown rb hrb i hi) hr hrtenant
          ((resourceRooftopId_of_allow hallow hr hrtenant).trans hleaf.resolves)
          hleaf.stands).mpr ha

/-! ## A platform actor's allowance on the control plane -/

/-- It is recorded exactly when a live session was presented, the actor's link is a platform
one, the tenant it was about exists, and the action's name says that it is a platform action. -/
theorem platform_accepted_iff (hdb : db.Sound) (hget : catalog.get input.action = some d)
    (hactor : input.actor.actorScope = .platform) (hb : InForce db now input none b)
    (hscope : b.scopeLevel = .platform) :
    ((platformAllowance input d b).row db now ids input).refusal db now = none ↔
      (∃ s, presentedSession db now input.actor.userLinkId input.sessionId = some s) ∧
        (∃ ul, db.link input.actor.userLinkId = some ul ∧ ul.actorScope = .platform) ∧
        (∀ t, input.target = some t →
          (db.organization.tenants.any fun r => decide (r.tenantId = t)) = true) ∧
        EvidenceRow.namedPlatform input.action = true := by
  obtain ⟨ul, hlink, -⟩ := hdb.bindingLink b hb.mem
  rw [hb.own] at hlink
  generalize hrow : (platformAllowance input d b).row db now ids input = row
  have hallow : row.decision = .allow := hrow ▸ rfl
  have hal : row.isAllow = true := decide_eq_true hallow
  have htype : row.actorType = .platformSupport := by
    rw [← hrow]
    show input.actorType = .platformSupport
    rw [PolicyInput.actorType, hactor]
  have hrtenant : row.tenantId = none := hrow ▸ rfl
  have hrres : row.resource = none := hrow ▸ rfl
  have hractor : row.actorUserLinkId = input.actor.userLinkId := hrow ▸ rfl
  have haction : row.action = input.action := hrow ▸ rfl
  have hmeta : row.controlPlaneTargetTenantId = input.target := hrow ▸ rfl
  have hpresented : row.sessionId.isSome = true ↔
      ∃ s, presentedSession db now input.actor.userLinkId input.sessionId = some s := by
    rw [← hrow]
    exact sessionId_isSome hdb ids .allow .allowPlatformRole
  constructor
  · intro h
    refine ⟨hpresented.mp (accepted_session h hallow), ⟨ul, hlink, ?_⟩, fun t ht => ?_, ?_⟩
    · have hreal := (accepted_structure h).1
      rw [EvidenceRow.actorTypeIsReal, hractor, hlink, htype] at hreal
      exact of_decide_eq_true hreal
    · have hrule : (row.controlPlaneTargetTenantId.all fun t =>
          db.organization.tenants.any fun r => decide (r.tenantId = t)) = true :=
        accepted_rule "policy_decisions_control_plane_target_tenant_id_fkey" h
          (by simp [EvidenceRow.mem_rules, EvidenceRow.keyRules])
      rwa [hmeta, ht] at hrule
    · have hrule : (row.tenantId.isSome || !row.isAllow ||
          EvidenceRow.namedPlatform row.action) = true :=
        accepted_rule "pd_v2_identified_actor_is_complete" h
          (by simp [EvidenceRow.mem_rules, EvidenceRow.checkRules])
      rwa [hrtenant, hal, haction] at hrule
  · rintro ⟨hsession, ⟨ul', hlink', hplatform⟩, htarget, hnamed⟩
    rw [hlink, Option.some.injEq] at hlink'
    subst hlink'
    have hcred : row.CredentialRules db := by
      subst hrow
      exact credentialRules hdb ids .allow .allowPlatformRole rfl rfl rfl rfl rfl
    have hscope' : row.scopeLevel = some .platform := hrow ▸ rfl
    have hsupport : row.supportSessionId = none := hrow ▸ rfl
    have hauthority : row.supportAuthority = none := hrow ▸ rfl
    have hexpires : row.supportSessionExpiresAt = none := hrow ▸ rfl
    have hcorrelation : row.correlationId = ids.correlationId := hrow ▸ rfl
    have hrequest : row.requestId = ids.requestId := hrow ▸ rfl
    have hmatched : row.matched = [b].map RoleBinding.asMatched := hrow ▸ rfl
    have hrooftop : row.resourceRooftopId db = none := by
      simp only [EvidenceRow.resourceRooftopId, hallow, hrres]
    have hstruct : row.structurallyValid db now = true := by
      have hreal : row.actorTypeIsReal db = true := by
        rw [EvidenceRow.actorTypeIsReal, hractor, hlink, htype]
        exact decide_eq_true hplatform
      simp [EvidenceRow.structurallyValid, hreal, EvidenceRow.resourceStands,
        EvidenceRow.scopeStands, hallow, hrtenant]
    have hexists : (input.target.all fun t =>
        db.organization.tenants.any fun r => decide (r.tenantId = t)) = true := by
      cases ht : input.target with
      | none => rfl
      | some t => exact htarget t ht
    apply accepted_of_rules
    · exact triggerRules_of_undelegated hcred hsupport hstruct
    · simp only [EvidenceRow.checkRules, forall_mem_cons, hcred.subject]
      simp [hcred.atomic, hal, hcorrelation, hrequest, hsupport, hauthority, hexpires, hscope',
        hrtenant, hmatched, hpresented.mpr hsession, ids.correlationIdLength,
        ids.requestIdLength, actionWellFormed_of_published hget haction, hrres,
        haction, hnamed]
    · simp only [EvidenceRow.keyRules, forall_mem_cons, hcred.tuple, hcred.connection,
        hcred.session, hmeta, hexists]
      simp [hractor, hlink, hrtenant, hsupport, hauthority, htype,
        EvidenceRow.supportEvidenceIsTheSessions, EvidenceRow.resourceRooftopIsTheTenants]
    · refine matchRules_of_inForce hdb hmatched hractor
        (forall_mem_singleton.mpr hb) (nodup_singleton _)
        (forall_mem_singleton.mpr ?_) (forall_mem_singleton.mpr ?_)
      · unfold EvidenceRow.bindingIsApplicable
        rw [show db.binding b.asMatched.roleBindingId = some b from
          Tables.binding_of_mem hdb hb.mem]
        dsimp only
        rw [if_neg (not_not.mpr (hb.own.trans hractor.symm)), if_pos hscope]
        simp [RoleBinding.asMatched, hb.effective, hscope']
      · exact bindingReachesResource_of_none hdb hb hrres

/-! ## A delegation's allowance -/

/-- What an approval must reach besides the place: the rooftop of a named resource. -/
def ApprovalReaches (db : Tables) (t : String) (q : SupportAccessRequest) (leaf : String) : Prop :=
  q.scopeLevel = .tenant ∨
    ∃ i, q.scopeId = some i ∧ db.organization.AtOrAbove t ⟨q.scopeLevel, i⟩ ⟨.rooftop, leaf⟩

theorem stands_of_approves (hdb : db.Sound) (htenant : db.tenantEffective now t = true)
    (hfit : Fit db now t place) {s : DelegatedSession} (happ : Approves db d t place s) :
    ∃ i, (if s.request.scopeLevel = .tenant then some t else s.request.scopeId) = some i ∧
      db.organization.Stands t ⟨s.request.scopeLevel, i⟩ now := by
  by_cases hl : s.request.scopeLevel = .tenant
  · exact ⟨t, if_pos hl, by rw [hl]; exact stands_tenant hdb htenant⟩
  · obtain ⟨n, hn, i, hi, ha⟩ := happ.scope.resolve_left hl
    exact ⟨i, by rw [if_neg hl, hi], (hfit n hn).above ha⟩

theorem delegated_accepted_iff (hdb : db.Sound) (hget : catalog.get input.action = some d)
    (hactor : input.actor.actorScope = .platform) (htenant : db.tenantEffective now t = true)
    (hfit : Fit db now t place) (hb : InForce db now input none b)
    (hscope : b.scopeLevel = .platform) (hrole : b.role ∈ platformSupportAuthorityRoles)
    {s : DelegatedSession} (hlive : LiveDelegation db now input t s)
    (happ : Approves db d t place s) :
    ((delegatedAllowance input d t b s).row db now ids input).refusal db now = none ↔
      (∃ s, presentedSession db now input.actor.userLinkId input.sessionId = some s) ∧
        (∀ ul, db.link input.actor.userLinkId = some ul → ul.status = .activated) ∧
        s.session.grantedAt ≤ now ∧
        ∀ r, input.resource = some r → ∃ leaf, ResourceStands db now t r leaf ∧
          ApprovalReaches db t s.request leaf := by
  obtain ⟨ul, hlink, hplatform⟩ := hdb.supportActor s.session hlive.mem
  rw [hlive.own] at hlink
  have hsess := Tables.supportSession_of_mem hdb hlive.mem
  obtain ⟨hreqmem, hreqid⟩ := Tables.mem_of_supportRequest hlive.request
  have hreq : db.supportRequest s.request.requestId = some s.request := by
    rw [hreqid]
    exact hlive.request
  obtain ⟨-, hname⟩ := ActionCatalog.get_eq_some hget
  obtain ⟨hat, hby⟩ := hdb.approvalDecided _ hreqmem hlive.approved
  have hlevel := (hdb.requestScoped _ hreqmem).1
  generalize hrow : (delegatedAllowance input d t b s).row db now ids input = row
  have hallow : row.decision = .allow := hrow ▸ rfl
  have hal : row.isAllow = true := decide_eq_true hallow
  have htype : row.actorType = .platformSupport := by
    rw [← hrow]
    show input.actorType = .platformSupport
    rw [PolicyInput.actorType, hactor]
  have hrtenant : row.tenantId = some t := hrow ▸ rfl
  have hrres : row.resource = input.resource := hrow ▸ rfl
  have hractor : row.actorUserLinkId = input.actor.userLinkId := hrow ▸ rfl
  have haction : row.action = input.action := hrow ▸ rfl
  have hsupport : row.supportSessionId = some s.session.supportSessionId := hrow ▸ rfl
  have hrequestId : row.supportRequestId = some s.request.requestId := hrow ▸ rfl
  have hauthority : row.supportAuthority = some b.asMatched := hrow ▸ rfl
  have hrscope : row.scopeLevel = some s.request.scopeLevel := hrow ▸ rfl
  have hrscopeId : row.scopeId = s.request.scopeId := hrow ▸ rfl
  have hpresented : row.sessionId.isSome = true ↔
      ∃ s, presentedSession db now input.actor.userLinkId input.sessionId = some s := by
    rw [← hrow]
    exact sessionId_isSome hdb ids .allow .allowSupportSession
  -- The two triggers that judge the approval, as what is left of them here.
  have happroval : row.supportEvidenceIsTheApproval db now = true ↔ s.session.grantedAt ≤ now := by
    unfold EvidenceRow.supportEvidenceIsTheApproval
    rw [hsupport]
    dsimp only
    rw [hsess]
    dsimp only
    rw [if_neg (by simp [hrequestId, hreqid, hlive.tenant, hrtenant, hlive.own, hractor]),
      hlive.request]
    simp [hlive.approved, hat, hby, haction, ← hname, happ.action, hrscope, hrscopeId,
      hlive.unrevoked, hlive.unexpired]
  have hauthlive : row.supportAuthorityIsLive db now = true ↔ ul.status = .activated := by
    unfold EvidenceRow.supportAuthorityIsLive
    rw [if_neg (by simp [hsupport, hallow]), hauthority]
    dsimp only
    rw [show db.binding b.asMatched.roleBindingId = some b from
      Tables.binding_of_mem hdb hb.mem, hractor, hlink]
    have heff := (Bool.and_eq_true _ _).mp hb.effective
    simp [hb.own, hscope, of_decide_eq_true heff.1, heff.2, hrole, RoleBinding.asMatched]
  have hreach : ∀ r, input.resource = some r → ∀ leaf, ResourceStands db now t r leaf →
      (row.supportScopeReachesResource db now = true ↔ ApprovalReaches db t s.request leaf) := by
    intro r hr leaf hleaf
    simp only [EvidenceRow.supportScopeReachesResource, hallow, hsupport, hrres, hr, hrtenant,
      hrequestId, hreq, Option.all_some, hleaf.resolves, Bool.or_eq_true, decide_eq_true_eq,
      onChain_iff, ApprovalReaches]
    refine or_congr_right (exists_congr fun i => and_congr_right fun _ => ?_)
    exact mem_orgAncestryEffective hleaf.stands
  constructor
  · intro h
    have hrule : ∀ name holds, (name, holds) ∈ row.triggerRules db now → holds = true :=
      fun name holds hmem => accepted_rule name h
        ((EvidenceRow.mem_rules db now row).mpr (.inl hmem))
    refine ⟨hpresented.mp (accepted_session h hallow), fun ul' hul' => ?_,
      happroval.mp (hrule "trg_policy_decisions_support_delegation" _ ?_), fun r hr => ?_⟩
    · rw [hlink, Option.some.injEq] at hul'
      subst hul'
      exact hauthlive.mp (hrule "trg_policy_decisions_zz_support_authority_live" _
        (by simp [EvidenceRow.triggerRules]))
    · simp [EvidenceRow.triggerRules]
    · obtain ⟨-, hstands, -⟩ := accepted_structure h
      obtain ⟨leaf, hleaf⟩ := (resourceStands_iff hallow (hrres.trans hr) hrtenant).mp hstands
      exact ⟨leaf, hleaf, (hreach r hr leaf hleaf).mp
        (hrule "trg_policy_decisions_zz_support_scope_reaches_resource" _
          (by simp [EvidenceRow.triggerRules]))⟩
  · rintro ⟨hsession, hactive, hgranted, hresource⟩
    have hcred : row.CredentialRules db := by
      subst hrow
      exact credentialRules hdb ids .allow .allowSupportSession rfl rfl rfl rfl rfl
    have hcorrelation : row.correlationId = ids.correlationId := hrow ▸ rfl
    have hrequest : row.requestId = ids.requestId := hrow ▸ rfl
    have hmatched : row.matched = ([] : List RoleBinding).map RoleBinding.asMatched := hrow ▸ rfl
    have hmeta : row.controlPlaneTargetTenantId = none := hrow ▸ rfl
    have hexpires : row.supportSessionExpiresAt = some s.session.expiresAt := by
      rw [← hrow]
      show (db.supportSession s.session.supportSessionId).map SupportAccessSession.expiresAt = _
      rw [hsess]
      rfl
    have hresrules : row.ResourceRules db now := by
      refine resourceRules hallow hrtenant fun r hr => ?_
      obtain ⟨leaf, hleaf, -⟩ := hresource r (hrres ▸ hr)
      exact ⟨leaf, hleaf⟩
    have hscoperes : row.supportScopeReachesResource db now = true := by
      cases hr : input.resource with
      | none =>
        simp only [EvidenceRow.supportScopeReachesResource, hallow, hsupport, hrres, hr]
      | some r =>
        obtain ⟨leaf, hleaf, happroved⟩ := hresource r hr
        exact (hreach r hr leaf hleaf).mpr happroved
    have hstruct : row.structurallyValid db now = true := by
      have hreal : row.actorTypeIsReal db = true := by
        rw [EvidenceRow.actorTypeIsReal, hractor, hlink, htype]
        exact decide_eq_true hplatform
      have hscoped : row.scopeStands db now = true := by
        obtain ⟨i, hi, hstands⟩ := stands_of_approves hdb htenant hfit happ
        simp only [EvidenceRow.scopeStands, hallow, hrtenant, hrscope, hlevel, if_true,
          hrscopeId, hi]
        exact stands_iff_orgChainDefect.mpr hstands
      rw [EvidenceRow.structurallyValid, hreal, hresrules.stands, hscoped]
      rfl
    have hnotPlatform : s.request.scopeLevel ≠ .platform := by
      intro hp
      rw [hp] at hlevel
      exact absurd hlevel (by decide)
    apply accepted_of_rules
    · simp only [EvidenceRow.triggerRules, forall_mem_cons]
      simp [hcred.authTime, happroval.mpr hgranted, hauthlive.mpr (hactive ul hlink), hscoperes,
        hstruct, EvidenceRow.supportSessionIsLive, EvidenceRow.supportWindowIsTheSessions,
        hsupport, hsess, hlive.unexpired, hexpires]
    · simp only [EvidenceRow.checkRules, forall_mem_cons, hcred.subject]
      simp [hcred.atomic, hal, hcorrelation, hrequest, hsupport, hrequestId, hauthority, hexpires,
        hmeta, hrscope, hrtenant, hmatched, hpresented.mpr hsession, htype,
        ids.correlationIdLength, ids.requestIdLength, actionWellFormed_of_published hget haction,
        hnotPlatform, hresrules.named, hresrules.wellFormed]
    · simp only [EvidenceRow.keyRules, forall_mem_cons, hcred.tuple, hcred.connection,
        hcred.session, hresrules.home]
      simp [hractor, hlink, hrtenant, tenantExists_of_effective htenant, hsupport, hmeta,
        hauthority, htype, hrequestId, hsess, hreqid, hlive.tenant, hlive.own,
        EvidenceRow.supportEvidenceIsTheSessions, RoleBinding.asMatched,
        Tables.binding_of_mem hdb hb.mem]
    · have hnone : ∀ rb ∈ ([] : List RoleBinding), InForce db now input none rb := forall_mem_nil _
      exact matchRules_of_inForce hdb hmatched hractor hnone nodup_nil
        (forall_mem_nil _) (forall_mem_nil _)

end Dealership.Policy
