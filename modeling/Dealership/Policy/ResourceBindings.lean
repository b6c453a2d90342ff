import Dealership.Policy.Decisions

/-!
# Bindings of a single resource

A binding of resource scope names one row, by type and id.  The engine compares it with the
resource the caller names, whether or not the action declares one; only for an action that does is
the named resource also what the decision is about.
-/

namespace Dealership.Policy

open Library List

variable {catalog : ActionCatalog} {db : Tables} {now : Int} {ids : EvidenceIds}
  {input : PolicyInput} {d : ActionDefinition} {t : String} {r : ResourceRef} {rb : RoleBinding}
  {ancestry : Option (List OrganizationNodeRef)}

/-! ## What such a binding may do -/

/-- A binding of the actor in force, in an allowed role, that names the resource. -/
structure BindsResource (db : Tables) (now : Int) (input : PolicyInput) (d : ActionDefinition)
    (t : String) (r : ResourceRef) (rb : RoleBinding) : Prop where
  inForce : InForce db now input (some t) rb
  role : rb.role ∈ d.allowedRoles
  scope : rb.scopeLevel = .resource
  type : rb.resourceType = some r.type
  id : rb.resourceId = some r.id

/-- Nothing but bindings of single resources covers the request. -/
def OnlyResourceBindings (catalog : ActionCatalog) (db : Tables) (now : Int)
    (input : PolicyInput) : Prop :=
  ∀ d t ancestry, catalog.get input.action = some d → input.target = some t →
    actedOn db now input d t = .ok ancestry →
      ∀ rb ∈ coveringBindings db now input d ancestry, rb.scopeLevel = .resource

/-- The action is about a resource of the type it declares, the row named stands in the actor's
tenant, and a binding names that very row. -/
def ReachesItsRow (catalog : ActionCatalog) (db : Tables) (now : Int) (input : PolicyInput) :
    Prop :=
  ∃ d t r leaf rb, catalog.get input.action = some d ∧ d.resourceType = some r.type ∧
    input.resource = some r ∧ input.actor.tenantId = some t ∧ ResourceStands db now t r leaf ∧
      BindsResource db now input d t r rb

/-- The action declares no resource, the caller names one that stands and that a binding of theirs
names, and the request is in order otherwise: their own effective tenant, a hint, if there is one,
that resolves, and a session to record. -/
structure Strays (catalog : ActionCatalog) (db : Tables) (now : Int) (input : PolicyInput)
    (d : ActionDefinition) (t : String) (r : ResourceRef) (rb : RoleBinding) : Prop where
  published : catalog.get input.action = some d
  plane : actionPlane d = .tenant
  undeclared : d.resourceType = none
  named : input.resource = some r
  own : input.actor.tenantId = some t
  target : input.target = some t
  tenant : db.tenantEffective now t = true
  hint : ∀ n, input.scopeHint = some n → db.organization.Stands t n now
  binds : BindsResource db now input d t r rb
  presented : ∃ s, presentedSession db now input.actor.userLinkId input.sessionId = some s
  stands : ∃ leaf, ResourceStands db now t r leaf

/-! ## The engine and the evidence on such a binding -/

theorem covers_resource (hplane : actionPlane d = .tenant) (hscope : rb.scopeLevel = .resource) :
    covers input d ancestry rb = true ↔
      ∃ r, input.resource = some r ∧ rb.resourceType = some r.type ∧ rb.resourceId = some r.id := by
  have hnot : actionPlane d ≠ .controlPlane := by
    rw [hplane]
    decide
  unfold covers
  rw [if_neg hnot, if_neg (by rw [hscope]; decide), if_pos hscope]
  cases input.resource with
  | none => simp
  | some r => simp

theorem bindingIsApplicable_of_bindsResource (hdb : db.Sound) {row : EvidenceRow}
    (hscope : row.scopeLevel = some .resource) (htenant : row.tenantId = some t)
    (hres : row.resource = some r) (hactor : row.actorUserLinkId = input.actor.userLinkId)
    (h : BindsResource db now input d t r rb) :
    row.bindingIsApplicable db now rb.asMatched = true := by
  have hnot : rb.scopeLevel ≠ .platform := by
    rw [h.scope]
    decide
  unfold EvidenceRow.bindingIsApplicable
  rw [show db.binding rb.asMatched.roleBindingId = some rb from
    Tables.binding_of_mem hdb h.inForce.mem]
  dsimp only
  rw [if_neg (not_not.mpr (h.inForce.own.trans hactor.symm)), if_neg hnot]
  simp [RoleBinding.asMatched, h.inForce.effective, h.inForce.home, hscope, htenant, hres, h.type,
    h.id, EvidenceRow.recordedScopeExists, EvidenceRow.recordedScopeIsBeneath, h.scope]

theorem bindingReachesResource_of_bindsResource (hdb : db.Sound) {row : EvidenceRow}
    (h : BindsResource db now input d t r rb) :
    row.bindingReachesResource db now rb.asMatched = true := by
  have hwindow : rb.window.covers now = true := (Bool.and_eq_true _ _ |>.mp h.inForce.effective).2
  have hlevel : rb.scopeLevel ∉ organizationLevels := by
    rw [h.scope]
    decide
  unfold EvidenceRow.bindingReachesResource
  rw [show db.binding rb.asMatched.roleBindingId = some rb from
    Tables.binding_of_mem hdb h.inForce.mem]
  dsimp only
  rw [hwindow]
  split
  · rw [if_neg hlevel]
    rfl
  · rfl

theorem bindsResource_of_covering (hplane : actionPlane d = .tenant)
    (hactor : input.actor.actorScope = .dealership) (hown : input.actor.tenantId = some t)
    (hrb : rb ∈ coveringBindings db now input d ancestry) (hscope : rb.scopeLevel = .resource) :
    ∃ r, input.resource = some r ∧ BindsResource db now input d t r rb := by
  obtain ⟨-, hrole, hcovers⟩ := mem_coveringBindings.mp hrb
  obtain ⟨r, hr, htype, hid⟩ := (covers_resource hplane hscope).mp hcovers
  exact ⟨r, hr, covering_inForce hactor hown hrb, hrole, hscope, htype, hid⟩

/-! ## The rule -/

theorem Strays.allows {engine : PolicyEngine} (hdb : db.Sound)
    (hactor : input.actor.actorScope = .dealership)
    (honly : OnlyResourceBindings engine.catalog db now input)
    (h : Strays engine.catalog db now input d t r rb) : engine.Allows db now ids input := by
  obtain ⟨ancestry, hacted⟩ : ∃ ancestry, actedOn db now input d t = .ok ancestry := by
    cases hhint : input.scopeHint with
    | none => exact ⟨none, actedOn_eq_ok.mpr ⟨none, .tenantWide h.undeclared hhint, rfl⟩⟩
    | some n =>
      have hfit : Fit db now t (some n) := fun m hm => Option.some.inj hm ▸ h.hint n hhint
      obtain ⟨ancestry, hres⟩ := hfit.resolved
      exact ⟨ancestry, actedOn_eq_ok.mpr ⟨some n, .hint h.undeclared hhint, hres⟩⟩
  have hload : rb ∈ loadBindings db now input := by
    rw [mem_loadBindings, hactor]
    exact h.own ▸ h.binds.inForce
  have hcovering : rb ∈ coveringBindings db now input d ancestry :=
    mem_coveringBindings.mpr ⟨hload, h.binds.role,
      (covers_resource h.plane h.binds.scope).mpr ⟨r, h.named, h.binds.type, h.binds.id⟩⟩
  obtain ⟨b, hb⟩ := exists_narrowestBinding.mpr ⟨rb, hcovering⟩
  have hbmem := mem_of_narrowestBinding hb
  have hbinds : ∀ x ∈ coveringBindings db now input d ancestry,
      BindsResource db now input d t r x := by
    intro x hx
    obtain ⟨r', hr', hx'⟩ := bindsResource_of_covering h.plane hactor h.own hx
      (honly d t ancestry h.published h.target hacted x hx)
    rw [h.named, Option.some.injEq] at hr'
    exact hr' ▸ hx'
  have hscope := (hbinds b hbmem).scope
  refine allows_iff.mpr ⟨_, examine_eq_ok.mpr ⟨d, publishedAction_eq_ok.mpr ⟨h.published, ?_⟩,
    ownTenant_eq_ok.mpr fun _ => ?_, .inr ⟨h.plane, t, ancestry,
      targetTenant_eq_ok.mpr ⟨h.target, h.tenant⟩, hacted, ?_⟩⟩,
    member_accepted_of hdb h.published hactor h.target h.tenant
      (fun x hx => (hbinds x hx).inForce) ?_ hbmem ?_ h.presented ?_ ?_ ?_ ?_⟩
  · rw [h.plane]
    exact nofun
  · rw [h.own]
    exact ⟨Option.some_ne_none t, h.target⟩
  · rw [tenantBranch, hactor]
    exact dealershipAllowance_eq_ok.mpr ⟨b, hb, rfl⟩
  · refine List.Nodup.sublist ?_ hdb.bindingKey
    exact ((filter_sublist).trans filter_sublist).map RoleBinding.roleBindingId
  · rw [hscope]
    decide
  · intro r' hr'
    rw [h.named, Option.some.injEq] at hr'
    exact hr' ▸ h.stands
  · have hlevel : ((memberAllowance input d (coveringBindings db now input d ancestry) b).row
        db now ids input).scopeLevel = some .resource := congrArg some hscope
    rw [EvidenceRow.scopeStands, hlevel]
    split
    · rename_i hsome
      cases hsome
      rfl
    · rfl
  · intro x hx
    exact bindingIsApplicable_of_bindsResource hdb (congrArg some hscope) h.target h.named rfl
      (hbinds x hx)
  · intro x hx
    exact bindingReachesResource_of_bindsResource hdb (hbinds x hx)

/-- A request that only bindings of single resources cover, and that is allowed, is about the row
one of them names, or strays. -/
theorem reachesItsRow_or_strays {engine : PolicyEngine} (hdb : db.Sound)
    (hactor : input.actor.actorScope = .dealership)
    (honly : OnlyResourceBindings engine.catalog db now input)
    (h : engine.Allows db now ids input) :
    ReachesItsRow engine.catalog db now input ∨
      ∃ d t r rb, Strays engine.catalog db now input d t r rb := by
  obtain ⟨a, ha, hrow⟩ := allows_iff.mp h
  obtain ⟨d, hpub, hown, hbranch⟩ := examine_eq_ok.mp ha
  have hget := (publishedAction_eq_ok.mp hpub).1
  obtain ⟨hhome, htarget⟩ := ownTenant_eq_ok.mp hown hactor
  rcases hbranch with ⟨hplane, hbranch⟩ | ⟨hplane, t, ancestry, ht, hacted, hbranch⟩
  · rw [controlPlaneBranch, hactor] at hbranch
    obtain ⟨b, hb, -⟩ := dealershipAllowance_eq_ok.mp hbranch
    exact absurd (mem_of_narrowestBinding hb) (dealership_off_controlPlane hdb hactor hhome hplane)
  · obtain ⟨htgt, heff⟩ := targetTenant_eq_ok.mp ht
    have hhome' : input.actor.tenantId = some t := htarget ▸ htgt
    rw [tenantBranch, hactor] at hbranch
    obtain ⟨b, hb, rfl⟩ := dealershipAllowance_eq_ok.mp hbranch
    have hbmem := mem_of_narrowestBinding hb
    obtain ⟨r, hr, hbinds⟩ := bindsResource_of_covering hplane hactor hhome' hbmem
      (honly d t ancestry hget htgt hacted b hbmem)
    have hstands : ∃ leaf, ResourceStands db now t r leaf :=
      (resourceStands_iff rfl hr htgt).mp (accepted_structure hrow).2.1
    cases htype : d.resourceType with
    | some type =>
      obtain ⟨place, hlands, -⟩ := actedOn_eq_ok.mp hacted
      cases hlands with
      | tenantWide hd => rw [htype] at hd; cases hd
      | hint hd => rw [htype] at hd; cases hd
      | resource hd hr' =>
        rw [hr, Option.some.injEq] at hr'
        subst hr'
        obtain ⟨leaf, hleaf⟩ := hstands
        exact .inl ⟨d, t, r, leaf, b, hget, hd, hr, hhome', hleaf, hbinds⟩
    | none =>
      have hsession := accepted_session hrow rfl
      refine .inr ⟨d, t, r, b, hget, hplane, htype, hr, hhome', htgt, heff, fun n hn => ?_,
        hbinds, (sessionId_isSome hdb ids .allow .allowRoleBinding).mp hsession, hstands⟩
      obtain ⟨place, hlands, hres⟩ := actedOn_eq_ok.mp hacted
      cases hlands with
      | tenantWide hd hh => rw [hn] at hh; cases hh
      | hint hd hh =>
        rw [hn, Option.some.injEq] at hh
        subst hh
        exact hres.fit n rfl
      | resource hd => rw [htype] at hd; cases hd

/-- A binding of a single resource authorizes exactly an action about that resource, unless the
caller names the resource to an action that declares none. -/
theorem resource_bindings_exact_iff (engine : PolicyEngine) (db : Database) (now : Int)
    (ids : EvidenceIds) (input : PolicyInput) (hactor : input.actor.actorScope = .dealership)
    (honly : OnlyResourceBindings engine.catalog db.toTables now input) :
    (engine.Allows db.toTables now ids input →
      ReachesItsRow engine.catalog db.toTables now input) ↔
      ∀ d t r rb, ¬ Strays engine.catalog db.toTables now input d t r rb := by
  constructor
  · intro h d t r rb hs
    obtain ⟨d', t', r', leaf, rb', hget, htype, -⟩ := h (hs.allows db.sound hactor honly)
    rw [hs.published, Option.some.injEq] at hget
    rw [← hget, hs.undeclared] at htype
    cases htype
  · intro hs h
    rcases reachesItsRow_or_strays db.sound hactor honly h with hrow | ⟨d, t, r, rb, hstray⟩
    · exact hrow
    · exact absurd hstray (hs d t r rb)

/-! ## One lead -/

namespace OneRooftop

def oneLead : Database where
  toTables := { tables with
    roleBindings := [⟨"b1", some "t", "sales", "salesperson", .resource, none, some "lead",
      some "l", .active, always, 1⟩] }
  sound := { database.sound with
    bindingKey := by decide
    bindingPlatform := by decide
    bindingScoped := by decide
    bindingVersion := by decide
    bindingLink := forall_mem_singleton.mpr ⟨_, rfl, by decide⟩ }

def leadPolicies : PolicyEngine where
  catalog := {
    list := [⟨"lead.read", some "lead", ["salesperson"], none, none⟩,
      ⟨"lead.create", none, ["salesperson"], none, none⟩]
    published := ⟨by decide, by decide, by decide, by decide⟩ }

/-- The salesperson names the lead, to create one. -/
def createLead : PolicyInput := { readLead (some "s1") with action := "lead.create" }

theorem oneLead_only (catalog : ActionCatalog) (input : PolicyInput) :
    OnlyResourceBindings catalog oneLead.toTables 100 input := by
  intro d t ancestry _ _ _ rb hrb
  have hmem := (mem_loadBindings.mp (mem_coveringBindings.mp hrb).1).mem
  rw [mem_singleton.mp hmem]

end OneRooftop

open OneRooftop in
theorem resource_bindings_exact_lead :
    leadPolicies.Allows oneLead.toTables 100 oneRequest (readLead (some "s1")) ∧
      ReachesItsRow leadPolicies.catalog oneLead.toTables 100 (readLead (some "s1")) := by
  have hallow : leadPolicies.Allows oneLead.toTables 100 oneRequest (readLead (some "s1")) := by
    decide +kernel
  refine ⟨hallow, (resource_bindings_exact_iff leadPolicies oneLead 100 oneRequest _ rfl
    (oneLead_only _ _)).mpr (fun d t r rb h => ?_) hallow⟩
  have hpublished := h.published
  rw [show leadPolicies.catalog.get (readLead (some "s1")).action =
    some ⟨"lead.read", some "lead", ["salesperson"], none, none⟩ from rfl] at hpublished
  cases hpublished
  cases h.undeclared

open OneRooftop in
/-- The binding of one lead lets its holder create leads throughout the tenant. -/
theorem resource_binding_strays :
    ¬ (leadPolicies.Allows oneLead.toTables 100 oneRequest createLead →
      ReachesItsRow leadPolicies.catalog oneLead.toTables 100 createLead) := by
  intro h
  obtain ⟨d, t, r, leaf, rb, hget, htype, -⟩ := h (by decide +kernel)
  rw [show leadPolicies.catalog.get createLead.action =
    some ⟨"lead.create", none, ["salesperson"], none, none⟩ from rfl] at hget
  cases hget
  cases htype

end Dealership.Policy
