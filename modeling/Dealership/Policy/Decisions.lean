import Dealership.Policy.Attested

/-!
# Allows

An allow is earned, and its evidence is stored: `Earned` says when the rule
allows, `Recordable` what the evidence asks of the request beyond that, and
`decide_allows_iff` that the two together are the whole of it.
-/

namespace Dealership.Policy

open Library List

variable {engine : PolicyEngine} {db : Tables} {now : Int} {ids : EvidenceIds}
  {input : PolicyInput} {d : ActionDefinition} {t : String}

def PolicyEngine.Allows (engine : PolicyEngine) (db : Tables) (now : Int) (ids : EvidenceIds)
    (input : PolicyInput) : Prop :=
  ∃ r, engine.decide db now ids input = .ok r ∧ r.1.decision = .allow

instance (engine : PolicyEngine) (db : Tables) (now : Int) (ids : EvidenceIds)
    (input : PolicyInput) : Decidable (engine.Allows db now ids input) :=
  match h : engine.decide db now ids input with
  | .error _ => .isFalse fun ⟨_, hr, _⟩ => by rw [h] at hr; cases hr
  | .ok r =>
    if hr : r.1.decision = .allow then .isTrue ⟨r, h, hr⟩
    else .isFalse fun ⟨r', hr', hallow⟩ => by
      rw [h, Except.ok.injEq] at hr'
      exact hr (hr' ▸ hallow)

/-- The session a delegation is decided by: the first live one that covers the action. -/
def DecidingSession (db : Tables) (now : Int) (input : PolicyInput) (d : ActionDefinition)
    (t : String) (place : Option OrganizationNodeRef) (s : DelegatedSession) : Prop :=
  Approves db d t place s ∧ ∃ before after, liveSessions db now input t = before ++ s :: after ∧
    ∀ x ∈ before, ¬ Approves db d t place x

/-- What the evidence of an allow asks of the request besides what earned it. -/
structure Recordable (db : Tables) (now : Int) (input : PolicyInput) (d : ActionDefinition) :
    Prop where
  /-- The request presented a live session of the actor. -/
  presented : ∃ s, presentedSession db now input.actor.userLinkId input.sessionId = some s
  /-- On the control plane the actor is a platform person, and a tenant they name exists. -/
  controlPlane : actionPlane d = .controlPlane →
    (∃ ul, db.link input.actor.userLinkId = some ul ∧ ul.actorScope = .platform) ∧
      ∀ t, input.target = some t →
        (db.organization.tenants.any fun r => decide (r.tenantId = t)) = true
  /-- A resource a dealership actor names stands, and whatever reaches the place reaches it. -/
  member : actionPlane d = .tenant → input.actor.actorScope = .dealership →
    ∀ t place r, input.target = some t → LandsOn db input d t place → input.resource = some r →
      ∃ leaf, ResourceStands db now t r leaf ∧
        ∀ rb, InForce db now input (some t) rb → rb.role ∈ d.allowedRoles →
          ReachesPlace db t place rb.scopeLevel rb.scopeId →
          ReachesPlace db t (some ⟨.rooftop, leaf⟩) rb.scopeLevel rb.scopeId
  /-- A delegate is activated, their session was granted by now, and its approval reaches a
  resource they name. -/
  delegated : actionPlane d = .tenant → input.actor.actorScope = .platform →
    ∀ t place s, input.target = some t → LandsOn db input d t place →
      DecidingSession db now input d t place s →
        (∀ ul, db.link input.actor.userLinkId = some ul → ul.status = .activated) ∧
          s.session.grantedAt ≤ now ∧
          ∀ r, input.resource = some r → ∃ leaf, ResourceStands db now t r leaf ∧
            ApprovalReaches db t s.request leaf

/-! ## The pieces -/

theorem LandsOn.unique {place place' : Option OrganizationNodeRef}
    (h : LandsOn db input d t place) (h' : LandsOn db input d t place') : place = place' := by
  cases h with
  | tenantWide hd hh =>
    cases h' with
    | tenantWide hd' hh' => rfl
    | hint hd' hh' => rw [hh] at hh'; cases hh'
    | resource hd' hr' hleaf' => rw [hd] at hd'; cases hd'
  | hint hd hh =>
    cases h' with
    | tenantWide hd' hh' => rw [hh] at hh'; cases hh'
    | hint hd' hh' => rw [← hh, ← hh']
    | resource hd' hr' hleaf' => rw [hd] at hd'; cases hd'
  | resource hd hr hleaf =>
    cases h' with
    | tenantWide hd' hh' => rw [hd] at hd'; cases hd'
    | hint hd' hh' => rw [hd] at hd'; cases hd'
    | resource hd' hr' hleaf' =>
      rw [hr, Option.some.injEq] at hr'
      subst hr'
      rw [hleaf, Option.some.injEq] at hleaf'
      rw [hleaf']

theorem decidingSession_iff {place : Option OrganizationNodeRef}
    {ancestry : Option (List OrganizationNodeRef)} (hres : Resolved db now t place ancestry)
    {s : DelegatedSession} : DecidingSession db now input d t place s ↔
      (liveSessions db now input t).find? (sessionCovers d ancestry) = some s := by
  rw [find?_eq_some_iff_append, DecidingSession, sessionCovers_iff hres]
  refine and_congr_right fun _ => exists_congr fun before => exists_congr fun after =>
    and_congr_right fun _ => forall_congr' fun x => imp_congr_right fun _ => ?_
  rw [← sessionCovers_iff hres, Bool.not_eq_true, Bool.not_eq_true']

theorem allows_iff : engine.Allows db now ids input ↔
    ∃ a, examine engine.catalog db now input = .ok a ∧
      (a.row db now ids input).refusal db now = none := by
  unfold PolicyEngine.Allows PolicyEngine.decide
  cases hex : examine engine.catalog db now input with
  | error e =>
    simp only [reduceCtorEq, false_and, exists_false, iff_false, not_exists, not_and]
    intro r hr
    unfold record at hr
    split at hr
    · cases hr
    · cases hr
      simp [Denial.result]
  | ok a =>
    simp only [Except.ok.injEq, exists_eq_left']
    constructor
    · rintro ⟨r, hr, -⟩
      unfold record at hr
      split at hr
      · cases hr
      · assumption
    · intro hnone
      refine ⟨(a.result, a.row db now ids input), ?_, rfl⟩
      rw [record, hnone]
      rfl

theorem accepted_iff_recordable (hdb : db.Sound)
    (hres : ∀ rb ∈ db.roleBindings, rb.scopeLevel ≠ .resource)
    (hnamed : ∀ d ∈ engine.catalog.list, actionPlane d = .controlPlane →
      EvidenceRow.namedPlatform d.action = true)
    (hget : engine.catalog.get input.action = some d) {a : Allowance}
    (ha : examine engine.catalog db now input = .ok a) :
    (a.row db now ids input).refusal db now = none ↔ Recordable db now input d := by
  obtain ⟨hmem, hname⟩ := ActionCatalog.get_eq_some hget
  obtain ⟨d', hpub, hown, hbranch⟩ := examine_eq_ok.mp ha
  obtain ⟨hget', hpayload⟩ := publishedAction_eq_ok.mp hpub
  rw [hget, Option.some.injEq] at hget'
  subst hget'
  rcases hbranch with ⟨hplane, hbranch⟩ | ⟨hplane, t, ancestry, ht, hacted, hbranch⟩
  · have hnot : actionPlane d ≠ .tenant := by rw [hplane]; decide
    unfold controlPlaneBranch at hbranch
    cases hactor : input.actor.actorScope with
    | dealership =>
      rw [hactor] at hbranch
      obtain ⟨rb, hrb, -⟩ := dealershipAllowance_eq_ok.mp hbranch
      obtain ⟨rb, hrb⟩ := exists_narrowestBinding.mp ⟨rb, hrb⟩
      exact absurd hrb (dealership_off_controlPlane hdb hactor
        (ownTenant_eq_ok.mp hown hactor).1 hplane)
    | platform =>
      rw [hactor] at hbranch
      obtain ⟨rb, hrb, rfl⟩ := controlPlaneAllowance_eq_ok.mp hbranch
      have hload := mem_of_find?_eq_some hrb
      have hauth := find?_some hrb
      rw [mem_loadBindings, hactor] at hload
      rw [authorizes, Bool.and_eq_true, covers_controlPlane hplane] at hauth
      rw [platform_accepted_iff hdb hget hactor hload hauth.2]
      have hplatform : EvidenceRow.namedPlatform input.action = true := hname ▸ hnamed d hmem hplane
      constructor
      · rintro ⟨hsession, hlink, htarget, -⟩
        exact ⟨hsession, fun _ => ⟨hlink, htarget⟩, fun h => absurd h hnot, fun h => absurd h hnot⟩
      · intro h
        exact ⟨h.presented, (h.controlPlane hplane).1, (h.controlPlane hplane).2, hplatform⟩
  · have hnot : actionPlane d ≠ .controlPlane := by rw [hplane]; decide
    obtain ⟨htarget, htenant⟩ := targetTenant_eq_ok.mp ht
    obtain ⟨place, hlands, hresolved⟩ := actedOn_eq_ok.mp hacted
    unfold tenantBranch at hbranch
    cases hactor : input.actor.actorScope with
    | dealership =>
      rw [hactor] at hbranch
      obtain ⟨b, hb, rfl⟩ := dealershipAllowance_eq_ok.mp hbranch
      have hhome : input.actor.tenantId = some t :=
        (ownTenant_eq_ok.mp hown hactor).2.symm.trans htarget
      have hnotPlatform : input.actor.actorScope ≠ .platform := by rw [hactor]; decide
      have hcovering : ∀ rb, rb ∈ coveringBindings db now input d ancestry ↔
          InForce db now input (some t) rb ∧ rb.role ∈ d.allowedRoles ∧
            ReachesPlace db t place rb.scopeLevel rb.scopeId := by
        intro rb
        rw [mem_coveringBindings, mem_loadBindings, hactor, hhome]
        refine and_congr_right fun hload => and_congr_right fun _ => ?_
        exact covers_iff hplane htarget hresolved (hres rb hload.mem)
      rw [member_accepted_iff hdb hres hget hplane hactor hhome htarget htenant hresolved hb]
      constructor
      · rintro ⟨hsession, hresource⟩
        refine ⟨hsession, fun h => absurd h hnot, ?_, fun _ h => absurd h hnotPlatform⟩
        intro _ _ t' place' r ht' hlands' hr
        rw [htarget, Option.some.injEq] at ht'
        subst ht'
        rw [← hlands.unique hlands']
        obtain ⟨leaf, hleaf, hreach⟩ := hresource r hr
        exact ⟨leaf, hleaf, fun rb hforce hrole hplace =>
          hreach rb ((hcovering rb).mpr ⟨hforce, hrole, hplace⟩)⟩
      · intro h
        refine ⟨h.presented, fun r hr => ?_⟩
        obtain ⟨leaf, hleaf, hreach⟩ := h.member hplane hactor t place r htarget hlands hr
        refine ⟨leaf, hleaf, fun rb hrb => ?_⟩
        obtain ⟨hforce, hrole, hplace⟩ := (hcovering rb).mp hrb
        exact hreach rb hforce hrole hplace
    | platform =>
      rw [hactor] at hbranch
      obtain ⟨authority, live, hauth, hlive, rfl⟩ := supportAllowance_eq_ok.mp hbranch
      have hspec := supportAuthority_spec db now input
      rw [hauth] at hspec
      have hload := hspec.1
      rw [mem_loadBindings, hactor] at hload
      have hdeciding : DecidingSession db now input d t place live :=
        (decidingSession_iff hresolved).mpr hlive
      have hnotDealership : input.actor.actorScope ≠ .dealership := by rw [hactor]; decide
      rw [delegated_accepted_iff hdb hget hactor htenant hresolved.fit hload hspec.2.1
        hspec.2.2 (mem_liveSessions.mp (mem_of_find?_eq_some hlive)) hdeciding.1]
      constructor
      · rintro ⟨hsession, hrest⟩
        refine ⟨hsession, fun h => absurd h hnot, fun _ h => absurd h hnotDealership, ?_⟩
        intro _ _ t' place' s ht' hlands' hs
        rw [htarget, Option.some.injEq] at ht'
        subst ht'
        rw [← hlands.unique hlands', decidingSession_iff hresolved, hlive, Option.some.injEq] at hs
        exact hs ▸ hrest
      · intro h
        exact ⟨h.presented, h.delegated hplane hactor t place live htarget hlands hdeciding⟩

/-! ## The whole rule -/

/-- Over a catalog that names its control-plane actions `platform.`, and with no binding of
a single resource, the engine allows exactly what is earned and recordable. -/
theorem decide_allows_iff (engine : PolicyEngine) (db : Database) (now : Int) (ids : EvidenceIds)
    (input : PolicyInput) (hres : ∀ rb ∈ db.roleBindings, rb.scopeLevel ≠ .resource)
    (hnamed : ∀ d ∈ engine.catalog.list, actionPlane d = .controlPlane →
      EvidenceRow.namedPlatform d.action = true) :
    engine.Allows db.toTables now ids input ↔
      Earned engine.catalog db.toTables now input ∧
        ∀ d, engine.catalog.get input.action = some d → Recordable db.toTables now input d := by
  rw [allows_iff, ← examine_ok_iff db.sound hres]
  constructor
  · rintro ⟨a, ha, hrow⟩
    exact ⟨⟨a, ha⟩, fun d hget =>
      (accepted_iff_recordable db.sound hres hnamed hget ha).mp hrow⟩
  · rintro ⟨⟨a, ha⟩, hrecord⟩
    obtain ⟨d, hpub, -⟩ := examine_eq_ok.mp ha
    have hget := (publishedAction_eq_ok.mp hpub).1
    exact ⟨a, ha, (accepted_iff_recordable db.sound hres hnamed hget ha).mpr (hrecord d hget)⟩

/-! ## One rooftop -/

namespace OneRooftop

def always : EffectiveWindow := ⟨0, none⟩

def organization (status : OrgStatus) : Organization where
  tenants := [⟨"t", status, always⟩]
  dealerGroups := [⟨"g", "t", .active, always⟩]
  legalEntities := [⟨"e", "t", "g", .active, always⟩]
  rooftops := [⟨"r", "t", "e", .active, always⟩]
  departments := []

/-- A tenant of one rooftop with a salesperson bound there and one lead, and a platform
administrator.  Both are signed in. -/
def tables : Tables where
  organization := organization .active
  userLinks := [⟨"sales", .dealership, some "t", .activated, always⟩,
    ⟨"admin", .platform, none, .activated, always⟩]
  roleBindings := [⟨"b1", some "t", "sales", "salesperson", .rooftop, some "r", none, none,
      .active, always, 1⟩,
    ⟨"b2", none, "admin", "platform_admin", .platform, none, none, none, .active, always, 1⟩]
  identitySessions := [⟨"s1", "sales", 50, some "c", some "subject-1", 1000, none⟩,
    ⟨"s2", "admin", 50, some "c", some "subject-2", 1000, none⟩]
  connections := [⟨"c", none, false, none, none, none⟩]
  supportRequests := []
  supportSessions := []
  resources := [⟨"lead", "l", "t", "r"⟩]

def database : Database where
  toTables := tables
  sound := {
    tenantKey := by decide
    bindingKey := by decide
    supportSessionKey := by decide
    sessionKey := by decide
    bindingPlatform := by decide
    bindingScoped := by decide
    bindingVersion := by decide
    bindingLink := forall_mem_cons.mpr ⟨⟨_, rfl, by decide⟩,
      forall_mem_singleton.mpr ⟨_, rfl, by decide⟩⟩
    linkScope := by decide
    sessionBound := forall_mem_cons.mpr
      ⟨fun _ => ⟨⟨_, rfl, by decide⟩, _, rfl, by decide⟩,
        forall_mem_singleton.mpr fun _ => ⟨⟨_, rfl, by decide⟩, _, rfl, by decide⟩⟩
    supportRequested := forall_mem_nil _
    supportActor := forall_mem_nil _
    approvalDecided := forall_mem_nil _
    requestScoped := forall_mem_nil _ }

def policies : PolicyEngine where
  catalog := {
    list := [⟨"lead.read", some "lead", ["salesperson"], none, none⟩,
      ⟨"platform.support.request", none, platformSupportAuthorityRoles, none, some .controlPlane⟩]
    published := ⟨by decide, by decide, by decide, by decide⟩ }

def oneRequest : EvidenceIds := ⟨"request-1", "correlation-1", by decide, by decide⟩

/-- The salesperson asks for the lead, presenting a session or none. -/
def readLead (sessionId : Option String) : PolicyInput where
  actor := ⟨"sales", .dealership, some "t"⟩
  action := "lead.read"
  targetTenantId := none
  resource := some ⟨"lead", "l"⟩
  scopeHint := none
  supportRequestId := none
  sessionId := sessionId

end OneRooftop

open OneRooftop in
theorem decide_allows_iff_of_lead :
    policies.Allows tables 100 oneRequest (readLead (some "s1")) ∧
      Earned policies.catalog tables 100 (readLead (some "s1")) := by
  have hallow : policies.Allows tables 100 oneRequest (readLead (some "s1")) := by decide +kernel
  exact ⟨hallow,
    ((decide_allows_iff policies database 100 oneRequest _ (by decide) (by decide)).mp hallow).1⟩

open OneRooftop in
/-- The salesperson's request is earned, but nothing was presented to record it with. -/
theorem earned_not_allowed :
    ¬ (policies.Allows tables 100 oneRequest (readLead none) ↔
      Earned policies.catalog tables 100 (readLead none)) := by
  have hnot : ¬ policies.Allows tables 100 oneRequest (readLead none) := by decide +kernel
  intro h
  refine hnot (h.mpr ((examine_ok_iff database.sound (by decide)).mp ?_))
  have hok : (examine policies.catalog tables 100 (readLead none)).isOk = true := by
    decide +kernel
  show ∃ a, examine policies.catalog tables 100 (readLead none) = .ok a
  cases hex : examine policies.catalog tables 100 (readLead none) with
  | error e => rw [hex] at hok; cases hok
  | ok a => exact ⟨a, rfl⟩

end Dealership.Policy
