import Dealership.Policy.Engine
import Dealership.Library.Run

/-!
# What earns an allowance

The engine reads rows and picks among them.  Here is what it decides, with no
picking: where an action lands, which scopes reach that place, and the three ways
an actor may have earned it.  `examine_ok_iff` says that the engine allows
exactly what is earned.
-/

namespace Dealership.Policy

open Library List

variable {place : Option OrganizationNodeRef} {ancestry : Option (List OrganizationNodeRef)}
  {catalog : ActionCatalog} {db : Tables} {now : Int} {input : PolicyInput} {d : ActionDefinition}
  {t : String} {rb : RoleBinding} {a : Allowance}

/-! ## Places and reach -/

/-- Where an action lands in a tenant: at the rooftop its declared resource resolves to, at
the node the caller hints when it declares none, or nowhere in particular. -/
inductive LandsOn (db : Tables) (input : PolicyInput) (d : ActionDefinition) (t : String) :
    Option OrganizationNodeRef → Prop where
  | tenantWide (hd : d.resourceType = none) (hh : input.scopeHint = none) :
      LandsOn db input d t none
  | hint {n : OrganizationNodeRef} (hd : d.resourceType = none)
      (hh : input.scopeHint = some n) : LandsOn db input d t (some n)
  | resource {r : ResourceRef} {leaf : String} (hd : d.resourceType = some r.type)
      (hr : input.resource = some r) (hleaf : db.resourceOrgLeaf t r.type r.id = some leaf) :
      LandsOn db input d t (some ⟨.rooftop, leaf⟩)

/-- A place is fit to act on when the node, if one is named, stands on an effective chain. -/
def Fit (db : Tables) (now : Int) (t : String) (place : Option OrganizationNodeRef) : Prop :=
  ∀ n, place = some n → db.organization.Stands t n now

/-- A scope reaches a place: it is at or above the node, and only the tenant's own scope
reaches the whole tenant. -/
def ReachesPlace (db : Tables) (t : String) (place : Option OrganizationNodeRef)
    (level : ScopeLevel) (id : Option String) : Prop :=
  match place with
  | none => level = .tenant ∧ id = some t
  | some n => ∃ i, id = some i ∧ db.organization.AtOrAbove t ⟨level, i⟩ n

/-- A binding of the actor in force, held in a tenant or outside every tenant. -/
structure InForce (db : Tables) (now : Int) (input : PolicyInput) (home : Option String)
    (rb : RoleBinding) : Prop where
  mem : rb ∈ db.roleBindings
  own : rb.userLinkId = input.actor.userLinkId
  effective : rb.effective now = true
  home : rb.tenantId = home

/-- A live session of the actor in a tenant, under an approved request. -/
structure LiveDelegation (db : Tables) (now : Int) (input : PolicyInput) (t : String)
    (s : DelegatedSession) : Prop where
  mem : s.session ∈ db.supportSessions
  request : db.supportRequest s.session.requestId = some s.request
  own : s.session.actorUserLinkId = input.actor.userLinkId
  tenant : s.session.tenantId = t
  unrevoked : s.session.revokedAt = none
  unexpired : now < s.session.expiresAt
  approved : s.request.status = .approved

/-- What a request approved extends to an action at a place. -/
structure Approves (db : Tables) (d : ActionDefinition) (t : String)
    (place : Option OrganizationNodeRef) (s : DelegatedSession) : Prop where
  action : d.action ∈ s.request.requestedActions
  scope : s.request.scopeLevel = .tenant ∨
    ∃ n, place = some n ∧ ∃ i, s.request.scopeId = some i ∧
      db.organization.AtOrAbove t ⟨s.request.scopeLevel, i⟩ n

/-- The three ways an action is earned. -/
inductive Earned (catalog : ActionCatalog) (db : Tables) (now : Int) (input : PolicyInput) :
    Prop where
  /-- A dealership actor, in their own effective tenant, under a binding there in an allowed
  role that reaches the place. -/
  | member {d : ActionDefinition} {t : String} {place : Option OrganizationNodeRef}
      {rb : RoleBinding}
      (published : catalog.get input.action = some d) (plane : actionPlane d = .tenant)
      (actor : input.actor.actorScope = .dealership) (own : input.actor.tenantId = some t)
      (target : input.target = some t) (tenant : db.tenantEffective now t = true)
      (lands : LandsOn db input d t place) (fit : Fit db now t place)
      (binding : InForce db now input (some t) rb) (role : rb.role ∈ d.allowedRoles)
      (reaches : ReachesPlace db t place rb.scopeLevel rb.scopeId)
  /-- A platform actor on the control plane, naming no customer payload, under a platform
  binding in an allowed role. -/
  | controlPlane {d : ActionDefinition} {rb : RoleBinding}
      (published : catalog.get input.action = some d) (plane : actionPlane d = .controlPlane)
      (actor : input.actor.actorScope = .platform) (noResource : input.resource = none)
      (noHint : input.scopeHint = none) (binding : InForce db now input none rb)
      (scope : rb.scopeLevel = .platform) (role : rb.role ∈ d.allowedRoles)
  /-- A platform actor in an effective tenant, still in a support role, under a live session
  whose approval extends to the action at the place. -/
  | delegated {d : ActionDefinition} {t : String} {place : Option OrganizationNodeRef}
      {authority : RoleBinding} {s : DelegatedSession}
      (published : catalog.get input.action = some d) (plane : actionPlane d = .tenant)
      (actor : input.actor.actorScope = .platform) (target : input.target = some t)
      (tenant : db.tenantEffective now t = true)
      (lands : LandsOn db input d t place) (fit : Fit db now t place)
      (binding : InForce db now input none authority) (scope : authority.scopeLevel = .platform)
      (role : authority.role ∈ platformSupportAuthorityRoles)
      (live : LiveDelegation db now input t s) (approves : Approves db d t place s)

/-! ## The picks -/

theorem mem_loadBindings :
    rb ∈ loadBindings db now input ↔
      InForce db now input
        (match input.actor.actorScope with
          | .platform => none
          | .dealership => input.actor.tenantId) rb := by
  simp only [loadBindings, mem_filter, Bool.and_eq_true, decide_eq_true_eq]
  constructor
  · rintro ⟨hmem, ⟨hown, heff⟩, hhome⟩
    exact ⟨hmem, hown, heff, hhome⟩
  · rintro ⟨hmem, hown, heff, hhome⟩
    exact ⟨hmem, ⟨hown, heff⟩, hhome⟩

theorem mem_liveSessions {s : DelegatedSession} :
    s ∈ liveSessions db now input t ↔ LiveDelegation db now input t s := by
  obtain ⟨session, request⟩ := s
  simp only [liveSessions, mem_filterMap]
  constructor
  · rintro ⟨s', hmem, hs'⟩
    cases hr : db.supportRequest s'.requestId with
    | none => rw [hr] at hs'; cases hs'
    | some r =>
      simp only [hr, Option.ite_none_right_eq_some, Option.some.injEq,
        DelegatedSession.mk.injEq] at hs'
      obtain ⟨⟨hown, htenant, hrev, hexp, happ⟩, rfl, rfl⟩ := hs'
      exact ⟨hmem, hr, hown, htenant, hrev, hexp, happ⟩
  · rintro ⟨hmem, hr, hown, htenant, hrev, hexp, happ⟩
    refine ⟨session, hmem, ?_⟩
    dsimp only at hr hown htenant hrev hexp happ
    rw [hr]
    dsimp only
    rw [if_pos ⟨hown, htenant, hrev, hexp, happ⟩]

theorem jsLt_trans {a b c : String} (hab : jsLt a b = true) (hbc : jsLt b c = true) :
    jsLt a c = true := by
  rw [jsLt, decide_eq_true_eq] at *
  exact lt_trans hab hbc

theorem jsLt_irrefl (a : String) : jsLt a a = false := by
  rw [jsLt, decide_eq_false_iff_not]
  exact lt_irrefl _

theorem jsLt_connected {a b : String} (hab : jsLt a b = false) (hba : jsLt b a = false) :
    a = b := by
  rw [jsLt, decide_eq_false_iff_not] at *
  exact utf16_injective (le_antisymm (not_lt.mp hba) (not_lt.mp hab))

theorem narrower_iff {a b : RoleBinding} :
    narrower a b = true ↔ scopeDepth b.scopeLevel < scopeDepth a.scopeLevel ∨
      scopeDepth a.scopeLevel = scopeDepth b.scopeLevel ∧
        jsLt a.roleBindingId b.roleBindingId = true := by
  simp [narrower]

theorem narrower_trans (a b c : RoleBinding) (hab : narrower a b = true)
    (hbc : narrower b c = true) : narrower a c = true := by
  rw [narrower_iff] at *
  rcases hab with hab | ⟨hab, hlt⟩ <;> rcases hbc with hbc | ⟨hbc, hlt'⟩
  · exact .inl (by omega)
  · exact .inl (by omega)
  · exact .inl (by omega)
  · exact .inr ⟨by omega, jsLt_trans hlt hlt'⟩

theorem narrower_irrefl (a : RoleBinding) : narrower a a = false := by
  simp [narrower, jsLt_irrefl]

theorem narrowestBinding_spec (covering : List RoleBinding) :
    match narrowestBinding covering with
    | none => covering = []
    | some b => b ∈ covering ∧
        ∀ rb ∈ covering, scopeDepth rb.scopeLevel ≤ scopeDepth b.scopeLevel := by
  have hspec := best_spec narrower_trans narrower_irrefl covering
  unfold narrowestBinding
  cases hb : best narrower covering with
  | none => rwa [hb] at hspec
  | some b =>
    rw [hb] at hspec
    refine ⟨hspec.1, fun rb hrb => ?_⟩
    by_contra hlt
    have := narrower_iff.mpr (.inl (not_le.mp hlt))
    rw [hspec.2 rb hrb] at this
    exact Bool.false_ne_true this

/-! ## The rule, exit by exit -/

/-- The chain the engine works with for a place. -/
def Resolved (db : Tables) (now : Int) (t : String) (place : Option OrganizationNodeRef)
    (ancestry : Option (List OrganizationNodeRef)) : Prop :=
  match place with
  | none => ancestry = none
  | some n => ∃ chain, db.organization.resolveAncestry t n now = some chain ∧
      ancestry = some chain

theorem Resolved.fit (h : Resolved db now t place ancestry) : Fit db now t place := by
  rintro n rfl
  obtain ⟨chain, hchain, -⟩ := h
  exact Organization.resolveAncestry_isSome.mp (by rw [hchain]; rfl)

theorem Fit.resolved (h : Fit db now t place) : ∃ ancestry, Resolved db now t place ancestry := by
  cases place with
  | none => exact ⟨none, rfl⟩
  | some n =>
    obtain ⟨chain, hchain⟩ :=
      Option.isSome_iff_exists.mp (Organization.resolveAncestry_isSome.mpr (h n rfl))
    exact ⟨some chain, chain, hchain, rfl⟩

theorem publishedAction_eq_ok :
    publishedAction catalog input = .ok d ↔ catalog.get input.action = some d ∧
      (actionPlane d = .controlPlane → input.resource = none ∧ input.scopeHint = none) := by
  unfold publishedAction
  cases hget : catalog.get input.action with
  | none => simp [throw, throwThe, MonadExceptOf.throw]
  | some d' =>
    by_cases hbad : actionPlane d' = .controlPlane ∧
        (input.resource ≠ none ∨ input.scopeHint ≠ none)
    · simp only [hbad, and_self, if_true, throw, throwThe,
        MonadExceptOf.throw, reduceCtorEq, Option.some.injEq, false_iff, not_and]
      rintro rfl hok
      obtain ⟨hr, hh⟩ := hok hbad.1
      exact hbad.2.elim (fun h => h hr) (fun h => h hh)
    · simp only [hbad, if_false, pure, Except.pure, Except.ok.injEq, Option.some.injEq]
      refine ⟨?_, fun h => h.1⟩
      rintro rfl
      refine ⟨rfl, fun hplane => ?_⟩
      rw [not_and, not_or, not_not, not_not] at hbad
      exact hbad hplane

theorem ownTenant_eq_ok :
    ownTenant input d = .ok () ↔ (input.actor.actorScope = .dealership →
      input.actor.tenantId ≠ none ∧ input.target = input.actor.tenantId) := by
  unfold ownTenant
  cases hscope : input.actor.actorScope with
  | platform => simp [pure, Except.pure]
  | dealership =>
    by_cases hnone : input.actor.tenantId = none
    · simp [hnone, throw, throwThe, MonadExceptOf.throw]
    · by_cases hcross : input.target = input.actor.tenantId
      · simp [hnone, hcross, pure, Except.pure]
      · simp [hnone, hcross, throw, throwThe, MonadExceptOf.throw]

theorem targetTenant_eq_ok :
    targetTenant db now input d = .ok t ↔
      input.target = some t ∧ db.tenantEffective now t = true := by
  unfold targetTenant
  cases htarget : input.target with
  | none => simp [throw, throwThe, MonadExceptOf.throw]
  | some t' =>
    by_cases heff : db.tenantEffective now t' = true
    · simp only [heff, if_true, pure, Except.pure, Except.ok.injEq, Option.some.injEq]
      constructor
      · rintro rfl
        exact ⟨rfl, heff⟩
      · exact fun h => h.1
    · simp only [heff, if_false, throw, throwThe, MonadExceptOf.throw, reduceCtorEq,
        Option.some.injEq, false_iff, not_and]
      rintro rfl
      exact heff

/-- The engine finds a chain exactly when the action lands somewhere whose chain resolves. -/
theorem actedOn_eq_ok : actedOn db now input d t = .ok ancestry ↔
      ∃ place, LandsOn db input d t place ∧ Resolved db now t place ancestry := by
  unfold actedOn
  constructor
  · intro h
    split at h
    · rename_i htype
      split at h
      · rename_i hhint
        cases h
        exact ⟨none, .tenantWide htype hhint, rfl⟩
      · rename_i n hhint
        split at h
        · rename_i chain hchain
          cases h
          exact ⟨some n, .hint htype hhint, chain, hchain, rfl⟩
        · cases h
    · rename_i type htype
      split at h
      · cases h
      rename_i r hr
      split at h
      · cases h
      rename_i hmatch
      rw [ne_eq, not_not] at hmatch
      split at h
      · cases h
      rename_i leaf hleaf
      split at h
      · rename_i chain hchain
        cases h
        exact ⟨some ⟨.rooftop, leaf⟩, .resource (hmatch ▸ htype) hr hleaf, chain, hchain, rfl⟩
      · cases h
  · rintro ⟨place, hlands, hres⟩
    cases hlands with
    | tenantWide hd hh =>
      cases hres
      simp only [hd, hh]
      rfl
    | hint hd hh =>
      obtain ⟨chain, hchain, rfl⟩ := hres
      simp only [hd, hh, hchain]
      rfl
    | resource hd hr hleaf =>
      obtain ⟨chain, hchain, rfl⟩ := hres
      simp only [hd, hr, ne_eq, not_true, if_false, hleaf, hchain]
      rfl

theorem onChain_iff {chain : List OrganizationNodeRef} {level : ScopeLevel} {id : Option String} :
    onChain chain level id = true ↔ ∃ i, id = some i ∧ ⟨level, i⟩ ∈ chain := by
  simp only [onChain, any_eq_true, Bool.and_eq_true, decide_eq_true_eq]
  constructor
  · rintro ⟨n, hmem, rfl, rfl⟩
    exact ⟨n.id, rfl, hmem⟩
  · rintro ⟨i, rfl, hmem⟩
    exact ⟨_, hmem, rfl, rfl⟩

theorem level_of_stands {n a : OrganizationNodeRef} (h : db.organization.Stands t n now)
    (ha : db.organization.AtOrAbove t a n) : a.level ≠ .platform ∧ a.level ≠ .resource := by
  obtain ⟨r, hr, -⟩ := h a ha
  obtain ⟨level, i⟩ := a
  constructor
  · rintro rfl
    cases hr
  · rintro rfl
    cases hr

theorem covers_controlPlane (hplane : actionPlane d = .controlPlane) :
    covers input d ancestry rb = true ↔ rb.scopeLevel = .platform := by
  unfold covers
  rw [if_pos hplane, coversPlatformAction, decide_eq_true_eq]

theorem covers_iff (hplane : actionPlane d = .tenant) (htarget : input.target = some t)
    (hres : Resolved db now t place ancestry) (hrb : rb.scopeLevel ≠ .resource) :
    covers input d ancestry rb = true ↔ ReachesPlace db t place rb.scopeLevel rb.scopeId := by
  have hnot : actionPlane d ≠ .controlPlane := by rw [hplane]; decide
  unfold covers
  rw [if_neg hnot]
  cases place with
  | none =>
    obtain rfl : ancestry = none := hres
    simp only [ReachesPlace, hrb, if_false, coversTenantWide, htarget]
    by_cases hp : rb.scopeLevel = .platform
    · simp [hp]
    · simp [hp]
  | some n =>
    have hfit := hres.fit n rfl
    obtain ⟨chain, hchain, rfl⟩ := hres
    simp only [ReachesPlace, hrb, if_false]
    by_cases hp : rb.scopeLevel = .platform
    · simp only [hp, if_true, Bool.false_eq_true, false_iff, not_exists, not_and]
      intro i _ ha
      exact (level_of_stands hfit ha).1 rfl
    · rw [if_neg hp, onChain_iff]
      simp only [Organization.mem_of_resolveAncestry hchain]

theorem sessionCovers_iff (hres : Resolved db now t place ancestry) {s : DelegatedSession} :
    sessionCovers d ancestry s = true ↔ Approves db d t place s := by
  have key : sessionCovers d ancestry s = true ↔ d.action ∈ s.request.requestedActions ∧
      (s.request.scopeLevel = .tenant ∨ ∃ n, place = some n ∧ ∃ i, s.request.scopeId = some i ∧
        db.organization.AtOrAbove t ⟨s.request.scopeLevel, i⟩ n) := by
    unfold sessionCovers
    by_cases hact : d.action ∈ s.request.requestedActions
    · by_cases htenant : s.request.scopeLevel = .tenant
      · simp [hact, htenant]
      · cases place with
        | none =>
          obtain rfl : ancestry = none := hres
          simp [hact, htenant]
        | some n =>
          obtain ⟨chain, hchain, rfl⟩ := hres
          simp [hact, htenant, onChain_iff, Organization.mem_of_resolveAncestry hchain]
    · simp [hact]
  rw [key]
  exact ⟨fun h => ⟨h.1, h.2⟩, fun h => ⟨h.1, h.2⟩⟩

/-! ## The rule as a whole -/

/-- The branch an actor takes on the control plane, and in a tenant. -/
def controlPlaneBranch (db : Tables) (now : Int) (input : PolicyInput) (d : ActionDefinition) :
    Except Denial Allowance :=
  match input.actor.actorScope with
  | .dealership => dealershipAllowance db now input d none
  | .platform => controlPlaneAllowance db now input d

def tenantBranch (db : Tables) (now : Int) (input : PolicyInput) (d : ActionDefinition)
    (t : String) (ancestry : Option (List OrganizationNodeRef)) : Except Denial Allowance :=
  match input.actor.actorScope with
  | .dealership => dealershipAllowance db now input d ancestry
  | .platform => supportAllowance db now input d t ancestry

theorem examine_eq_ok :
    examine catalog db now input = .ok a ↔
      ∃ d, publishedAction catalog input = .ok d ∧ ownTenant input d = .ok () ∧
        (actionPlane d = .controlPlane ∧ controlPlaneBranch db now input d = .ok a ∨
          actionPlane d = .tenant ∧ ∃ t ancestry, targetTenant db now input d = .ok t ∧
            actedOn db now input d t = .ok ancestry ∧
            tenantBranch db now input d t ancestry = .ok a) := by
  unfold examine
  rw [bind_eq_ok]
  refine exists_congr fun d => and_congr_right fun _ => ?_
  rw [bind_eq_ok]
  constructor
  · rintro ⟨⟨⟩, hown, h⟩
    refine ⟨hown, ?_⟩
    cases hplane : actionPlane d with
    | controlPlane =>
      rw [if_pos hplane] at h
      exact .inl ⟨rfl, h⟩
    | tenant =>
      rw [if_neg (by rw [hplane]; decide)] at h
      obtain ⟨t, ht, h⟩ := bind_eq_ok.mp h
      obtain ⟨ancestry, hanc, h⟩ := bind_eq_ok.mp h
      exact .inr ⟨rfl, t, ancestry, ht, hanc, h⟩
  · rintro ⟨hown, ⟨hplane, h⟩ | ⟨hplane, t, ancestry, ht, hanc, h⟩⟩
    · refine ⟨(), hown, ?_⟩
      rw [if_pos hplane]
      exact h
    · refine ⟨(), hown, ?_⟩
      rw [if_neg (by rw [hplane]; decide)]
      exact bind_eq_ok.mpr ⟨t, ht, bind_eq_ok.mpr ⟨ancestry, hanc, h⟩⟩

theorem dealershipAllowance_eq_ok :
    dealershipAllowance db now input d ancestry = .ok a ↔
      ∃ rb, narrowestBinding (coveringBindings db now input d ancestry) = some rb ∧
        a = memberAllowance input d (coveringBindings db now input d ancestry) rb := by
  unfold dealershipAllowance
  dsimp only
  cases narrowestBinding (coveringBindings db now input d ancestry) with
  | none => simp [throw, throwThe, MonadExceptOf.throw]
  | some rb => simp [pure, Except.pure, eq_comm]

theorem controlPlaneAllowance_eq_ok :
    controlPlaneAllowance db now input d = .ok a ↔
      ∃ rb, (loadBindings db now input).find? (authorizes input d none) = some rb ∧
        a = platformAllowance input d rb := by
  unfold controlPlaneAllowance
  cases (loadBindings db now input).find? (authorizes input d none) with
  | none => simp [throw, throwThe, MonadExceptOf.throw]
  | some rb => simp [pure, Except.pure, eq_comm]

theorem supportAllowance_eq_ok :
    supportAllowance db now input d t ancestry = .ok a ↔
      ∃ authority live, supportAuthority db now input = some authority ∧
        (liveSessions db now input t).find? (sessionCovers d ancestry) = some live ∧
        a = delegatedAllowance input d t authority live := by
  unfold supportAllowance
  cases supportAuthority db now input with
  | none => simp [throw, throwThe, MonadExceptOf.throw]
  | some authority =>
    cases (liveSessions db now input t).find? (sessionCovers d ancestry) with
    | none => simp [throw, throwThe, MonadExceptOf.throw]
    | some live => simp [pure, Except.pure, eq_comm]

theorem mem_of_narrowestBinding {covering : List RoleBinding} {b : RoleBinding}
    (h : narrowestBinding covering = some b) : b ∈ covering := by
  have hspec := narrowestBinding_spec covering
  rw [h] at hspec
  exact hspec.1

theorem exists_narrowestBinding {covering : List RoleBinding} :
    (∃ rb, narrowestBinding covering = some rb) ↔ ∃ rb, rb ∈ covering := by
  have hspec := narrowestBinding_spec covering
  cases hb : narrowestBinding covering with
  | none =>
    rw [hb] at hspec
    simp [hspec]
  | some b =>
    rw [hb] at hspec
    exact ⟨fun _ => ⟨b, hspec.1⟩, fun _ => ⟨b, rfl⟩⟩

theorem supportAuthority_spec (db : Tables) (now : Int) (input : PolicyInput) :
    match supportAuthority db now input with
    | none => ∀ rb, rb ∈ loadBindings db now input → rb.scopeLevel = .platform →
        rb.role ∉ platformSupportAuthorityRoles
    | some rb => rb ∈ loadBindings db now input ∧ rb.scopeLevel = .platform ∧
        rb.role ∈ platformSupportAuthorityRoles := by
  have hspec := best_spec
    (fun (a b c : RoleBinding) => jsLt_trans (a := a.roleBindingId) (b := b.roleBindingId))
    (fun a => jsLt_irrefl a.roleBindingId)
    ((loadBindings db now input).filter fun rb =>
      coversPlatformAction rb && decide (rb.role ∈ platformSupportAuthorityRoles))
  unfold supportAuthority
  cases hbest : best (fun a b : RoleBinding => jsLt a.roleBindingId b.roleBindingId)
      ((loadBindings db now input).filter fun rb =>
        coversPlatformAction rb && decide (rb.role ∈ platformSupportAuthorityRoles)) with
  | none =>
    rw [hbest] at hspec
    intro rb hrb hscope hrole
    have hmem : rb ∈ (loadBindings db now input).filter fun rb =>
        coversPlatformAction rb && decide (rb.role ∈ platformSupportAuthorityRoles) :=
      mem_filter.mpr ⟨hrb, by simp [coversPlatformAction, hscope, hrole]⟩
    rw [hspec] at hmem
    exact not_mem_nil hmem
  | some rb =>
    rw [hbest] at hspec
    have hrb := mem_filter.mp hspec.1
    simp only [coversPlatformAction, Bool.and_eq_true, decide_eq_true_eq] at hrb
    exact hrb

theorem mem_coveringBindings :
    rb ∈ coveringBindings db now input d ancestry ↔ rb ∈ loadBindings db now input ∧
      rb.role ∈ d.allowedRoles ∧ covers input d ancestry rb = true := by
  simp [coveringBindings, authorizes]

theorem dealership_off_controlPlane (hdb : db.Sound) (hactor : input.actor.actorScope = .dealership)
    (hown : input.actor.tenantId ≠ none) (hplane : actionPlane d = .controlPlane)
    : rb ∉ coveringBindings db now input d ancestry := by
  intro hrb
  obtain ⟨hload, -, hcov⟩ := mem_coveringBindings.mp hrb
  rw [mem_loadBindings, hactor] at hload
  exact hown (hload.home.symm.trans
    ((hdb.bindingPlatform rb hload.mem).mp ((covers_controlPlane hplane).mp hcov)))

theorem examine_ok_iff (hdb : db.Sound) (hres : ∀ rb ∈ db.roleBindings, rb.scopeLevel ≠ .resource) :
    (∃ a, examine catalog db now input = .ok a) ↔ Earned catalog db now input := by
  constructor
  · rintro ⟨a, ha⟩
    obtain ⟨d, hpub, hown, ⟨hplane, hbranch⟩ | ⟨hplane, t, ancestry, ht, hacted, hbranch⟩⟩ :=
      examine_eq_ok.mp ha
    · obtain ⟨hget, hpayload⟩ := publishedAction_eq_ok.mp hpub
      unfold controlPlaneBranch at hbranch
      cases hactor : input.actor.actorScope with
      | dealership =>
        rw [hactor] at hbranch
        obtain ⟨rb, hrb, -⟩ := dealershipAllowance_eq_ok.mp hbranch
        obtain ⟨rb, hrb⟩ := exists_narrowestBinding.mp ⟨rb, hrb⟩
        exact absurd hrb (dealership_off_controlPlane hdb hactor
          (ownTenant_eq_ok.mp hown hactor).1 hplane)
      | platform =>
        rw [hactor] at hbranch
        obtain ⟨rb, hrb, -⟩ := controlPlaneAllowance_eq_ok.mp hbranch
        have hload := mem_of_find?_eq_some hrb
        have hauth := find?_some hrb
        rw [mem_loadBindings, hactor] at hload
        rw [authorizes, Bool.and_eq_true, decide_eq_true_eq, covers_controlPlane hplane] at hauth
        exact .controlPlane hget hplane hactor (hpayload hplane).1 (hpayload hplane).2 hload
          hauth.2 hauth.1
    · obtain ⟨hget, -⟩ := publishedAction_eq_ok.mp hpub
      obtain ⟨htarget, htenant⟩ := targetTenant_eq_ok.mp ht
      obtain ⟨place, hlands, hresolved⟩ := actedOn_eq_ok.mp hacted
      unfold tenantBranch at hbranch
      cases hactor : input.actor.actorScope with
      | dealership =>
        rw [hactor] at hbranch
        obtain ⟨rb, hrb, -⟩ := dealershipAllowance_eq_ok.mp hbranch
        obtain ⟨rb, hrb⟩ := exists_narrowestBinding.mp ⟨rb, hrb⟩
        obtain ⟨hload, hrole, hcov⟩ := mem_coveringBindings.mp hrb
        have hhome : input.actor.tenantId = some t :=
          (ownTenant_eq_ok.mp hown hactor).2.symm.trans htarget
        rw [mem_loadBindings, hactor] at hload
        exact .member hget hplane hactor hhome htarget htenant hlands hresolved.fit
          (hhome ▸ hload) hrole
          ((covers_iff hplane htarget hresolved (hres rb hload.mem)).mp hcov)
      | platform =>
        rw [hactor] at hbranch
        obtain ⟨authority, live, hauth, hlive, -⟩ := supportAllowance_eq_ok.mp hbranch
        have hspec := supportAuthority_spec db now input
        rw [hauth] at hspec
        have hload := hspec.1
        rw [mem_loadBindings, hactor] at hload
        exact .delegated hget hplane hactor htarget htenant hlands hresolved.fit hload
          hspec.2.1 hspec.2.2 (mem_liveSessions.mp (mem_of_find?_eq_some hlive))
          ((sessionCovers_iff hresolved).mp (find?_some hlive))
  · intro h
    simp only [examine_eq_ok]
    cases h with
    | member hget hplane hactor hhome htarget htenant hlands hfit hbind hrole hreach =>
      rename_i d t place rb
      obtain ⟨ancestry, hresolved⟩ := hfit.resolved
      have hcov : rb ∈ coveringBindings db now input d ancestry := by
        refine mem_coveringBindings.mpr ⟨mem_loadBindings.mpr ?_, hrole,
          (covers_iff hplane htarget hresolved (hres rb hbind.mem)).mpr hreach⟩
        rw [hactor]
        exact hhome ▸ hbind
      obtain ⟨b, hb⟩ := exists_narrowestBinding.mpr ⟨rb, hcov⟩
      refine ⟨memberAllowance input d (coveringBindings db now input d ancestry) b, d,
        publishedAction_eq_ok.mpr ⟨hget, fun h => ?_⟩,
        ownTenant_eq_ok.mpr fun _ => ?_, .inr ⟨hplane, t, ancestry,
          targetTenant_eq_ok.mpr ⟨htarget, htenant⟩,
          actedOn_eq_ok.mpr ⟨place, hlands, hresolved⟩, ?_⟩⟩
      · rw [hplane] at h
        cases h
      · rw [hhome, htarget]
        exact ⟨Option.some_ne_none t, rfl⟩
      · rw [tenantBranch, hactor]
        exact dealershipAllowance_eq_ok.mpr ⟨b, hb, rfl⟩
    | controlPlane hget hplane hactor hnores hnohint hbind hscope hrole =>
      rename_i d rb
      have hfind : ((loadBindings db now input).find? (authorizes input d none)).isSome = true := by
        refine find?_isSome.mpr ⟨rb, mem_loadBindings.mpr (by rw [hactor]; exact hbind), ?_⟩
        rw [authorizes, Bool.and_eq_true, decide_eq_true_eq, covers_controlPlane hplane]
        exact ⟨hrole, hscope⟩
      obtain ⟨first, hfirst⟩ := Option.isSome_iff_exists.mp hfind
      refine ⟨platformAllowance input d first, d,
        publishedAction_eq_ok.mpr ⟨hget, fun _ => ⟨hnores, hnohint⟩⟩,
        ownTenant_eq_ok.mpr fun h => ?_, .inl ⟨hplane, ?_⟩⟩
      · rw [hactor] at h
        cases h
      · rw [controlPlaneBranch, hactor]
        exact controlPlaneAllowance_eq_ok.mpr ⟨first, hfirst, rfl⟩
    | delegated hget hplane hactor htarget htenant hlands hfit hbind hscope hrole hlive happ =>
      rename_i d t place authority s
      obtain ⟨ancestry, hresolved⟩ := hfit.resolved
      have hfind : ((liveSessions db now input t).find? (sessionCovers d ancestry)).isSome = true :=
        find?_isSome.mpr ⟨s, mem_liveSessions.mpr hlive, (sessionCovers_iff hresolved).mpr happ⟩
      obtain ⟨live, hfirst⟩ := Option.isSome_iff_exists.mp hfind
      have hauth : ∃ b, supportAuthority db now input = some b := by
        have hspec := supportAuthority_spec db now input
        cases hb : supportAuthority db now input with
        | none =>
          rw [hb] at hspec
          have hload : authority ∈ loadBindings db now input :=
            mem_loadBindings.mpr (by rw [hactor]; exact hbind)
          exact absurd hrole (hspec authority hload hscope)
        | some b => exact ⟨b, rfl⟩
      obtain ⟨b, hb⟩ := hauth
      refine ⟨delegatedAllowance input d t b live, d,
        publishedAction_eq_ok.mpr ⟨hget, fun h => ?_⟩,
        ownTenant_eq_ok.mpr fun h => ?_, .inr ⟨hplane, t, ancestry,
          targetTenant_eq_ok.mpr ⟨htarget, htenant⟩,
          actedOn_eq_ok.mpr ⟨place, hlands, hresolved⟩, ?_⟩⟩
      · rw [hplane] at h
        cases h
      · rw [hactor] at h
        cases h
      · rw [tenantBranch, hactor]
        exact supportAllowance_eq_ok.mpr ⟨b, live, hb, hfirst, rfl⟩

end Dealership.Policy
