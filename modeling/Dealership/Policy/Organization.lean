import Dealership.Library.Table

/-!
# The organization tree

A tenant owns dealer groups, a group legal entities, an entity rooftops and a
rooftop departments.  The database answers ancestry questions from one text:
`org_ancestry_all` walks the structure, `org_chain_defect` judges it at an
instant, and `org_ancestry_effective` returns the chain when it has no defect.
Above them stands the order itself, `AtOrAbove`, and what it means for a node to
stand on an effective chain.

Every table has a primary key, so a lookup by it is `find?`.  Instants are
microseconds.
-/

namespace Dealership.Policy

open List

/-! ## Nodes -/

/-- `scope_level`. -/
inductive ScopeLevel where
  | platform
  | tenant
  | dealerGroup
  | legalEntity
  | rooftop
  | department
  | resource
deriving DecidableEq

/-- How deep a scope sits: a platform scope is not comparable with tenant data and
comes first, a resource is the narrowest thing there is. -/
def scopeDepth : ScopeLevel → Nat
  | .platform => 0
  | .tenant => 1
  | .dealerGroup => 2
  | .legalEntity => 3
  | .rooftop => 4
  | .department => 5
  | .resource => 6

/-- `ORGANIZATION_LEVELS`, outermost first. -/
def organizationLevels : List ScopeLevel :=
  [.tenant, .dealerGroup, .legalEntity, .rooftop, .department]

/-- A node of the organization: a level and the identifier of a row there. -/
structure OrganizationNodeRef where
  level : ScopeLevel
  id : String
deriving DecidableEq

/-! ## Rows -/

/-- The statuses a tenant or an organization unit may have. -/
inductive OrgStatus where
  | pendingConfiguration
  | active
  | suspended
  | inactive
  | archived
deriving DecidableEq

/-- The columns that say whether a row is in force: its window is half open. -/
structure EffectiveWindow where
  effectiveFrom : Int
  effectiveTo : Option Int
deriving DecidableEq

/-- `effective_from <= at AND (effective_to IS NULL OR effective_to > at)`. -/
def EffectiveWindow.covers (w : EffectiveWindow) (now : Int) : Bool :=
  decide (w.effectiveFrom ≤ now) && w.effectiveTo.all fun e => decide (now < e)

structure Tenant where
  tenantId : String
  status : OrgStatus
  window : EffectiveWindow
deriving DecidableEq

structure DealerGroup where
  dealerGroupId : String
  tenantId : String
  status : OrgStatus
  window : EffectiveWindow

structure LegalEntity where
  legalEntityId : String
  tenantId : String
  dealerGroupId : String
  status : OrgStatus
  window : EffectiveWindow

structure Rooftop where
  rooftopId : String
  tenantId : String
  legalEntityId : String
  status : OrgStatus
  window : EffectiveWindow

structure Department where
  departmentId : String
  tenantId : String
  rooftopId : String
  status : OrgStatus
  window : EffectiveWindow

structure Organization where
  tenants : List Tenant
  dealerGroups : List DealerGroup
  legalEntities : List LegalEntity
  rooftops : List Rooftop
  departments : List Department

namespace Organization

variable (org : Organization) (t : String)

def tenantRow : Option Tenant :=
  org.tenants.find? fun r => r.tenantId = t

def dealerGroupRow (id : String) : Option DealerGroup :=
  org.dealerGroups.find? fun r => r.tenantId = t ∧ r.dealerGroupId = id

def legalEntityRow (id : String) : Option LegalEntity :=
  org.legalEntities.find? fun r => r.tenantId = t ∧ r.legalEntityId = id

def rooftopRow (id : String) : Option Rooftop :=
  org.rooftops.find? fun r => r.tenantId = t ∧ r.rooftopId = id

def departmentRow (id : String) : Option Department :=
  org.departments.find? fun r => r.tenantId = t ∧ r.departmentId = id

end Organization

/-! ## The walk -/

/-- A row of `org_ancestry_all`. -/
structure AncestryRow where
  level : ScopeLevel
  nodeId : String
  status : OrgStatus
  window : EffectiveWindow

def Tenant.row (r : Tenant) : AncestryRow := ⟨.tenant, r.tenantId, r.status, r.window⟩

def DealerGroup.row (r : DealerGroup) : AncestryRow :=
  ⟨.dealerGroup, r.dealerGroupId, r.status, r.window⟩

def LegalEntity.row (r : LegalEntity) : AncestryRow :=
  ⟨.legalEntity, r.legalEntityId, r.status, r.window⟩

def Rooftop.row (r : Rooftop) : AncestryRow := ⟨.rooftop, r.rooftopId, r.status, r.window⟩

def Department.row (r : Department) : AncestryRow :=
  ⟨.department, r.departmentId, r.status, r.window⟩

namespace Organization

variable (org : Organization) (t : String)

/-- What the joins above a legal entity find, and the entity. -/
def entityRows (e : LegalEntity) : List AncestryRow :=
  ((org.dealerGroupRow t e.dealerGroupId).toList.map DealerGroup.row) ++ [e.row]

/-- What the joins above a rooftop find, and the rooftop. -/
def rooftopRows (r : Rooftop) : List AncestryRow :=
  ((org.legalEntityRow t r.legalEntityId).toList.flatMap (entityRows org t)) ++ [r.row]

/-- What the joins above a department find, and the department. -/
def departmentRows (d : Department) : List AncestryRow :=
  ((org.rooftopRow t d.rooftopId).toList.flatMap (rooftopRows org t)) ++ [d.row]

/-- The tenant's row in front of the rows found for a node, when the node is there. -/
def underTenant (found : Option (List AncestryRow)) : List AncestryRow :=
  match found with
  | none => []
  | some rows => (org.tenantRow t).toList.map Tenant.row ++ rows

/-- The chain of a node, tenant first, with each row's status and window. -/
def orgAncestryAll (level : ScopeLevel) (id : Option String) : List AncestryRow :=
  match level, id with
  | .tenant, none => (org.tenantRow t).toList.map Tenant.row
  | .tenant, some i => if i ≠ t then [] else (org.tenantRow t).toList.map Tenant.row
  | .dealerGroup, some i => org.underTenant t ((org.dealerGroupRow t i).map fun g => [g.row])
  | .legalEntity, some i => org.underTenant t ((org.legalEntityRow t i).map (entityRows org t))
  | .rooftop, some i => org.underTenant t ((org.rooftopRow t i).map (rooftopRows org t))
  | .department, some i => org.underTenant t ((org.departmentRow t i).map (departmentRows org t))
  | _, _ => []

end Organization

/-- How many rows a whole chain has. -/
def chainLength : ScopeLevel → Option Nat
  | .tenant => some 1
  | .dealerGroup => some 2
  | .legalEntity => some 3
  | .rooftop => some 4
  | .department => some 5
  | _ => none

/-- What `org_chain_defect` reports. -/
inductive ChainDefect where
  | unknownLevel (level : ScopeLevel)
  | broken (level : ScopeLevel) (id : Option String)
  | ineffective (row : AncestryRow)

def AncestryRow.effective (r : AncestryRow) (now : Int) : Bool :=
  decide (r.status = .active) && r.window.covers now

variable {a n : OrganizationNodeRef} {chain : List OrganizationNodeRef}

namespace Organization

variable (org : Organization) (t : String)

/-- `NULL` when the whole chain is there and every row of it is effective, else the
first defect. -/
def orgChainDefect (level : ScopeLevel) (id : Option String) (now : Int) :
    Option ChainDefect :=
  match chainLength level with
  | none => some (.unknownLevel level)
  | some expected =>
    let rows := org.orgAncestryAll t level id
    if rows.length < expected then some (.broken level id)
    else (rows.find? fun r => !r.effective now).map .ineffective

/-- The chain when it is fully effective, no rows otherwise. -/
def orgAncestryEffective (level : ScopeLevel) (id : Option String) (now : Int) :
    List OrganizationNodeRef :=
  if (org.orgChainDefect t level id now).isSome then []
  else (org.orgAncestryAll t level id).map fun r => ⟨r.level, r.nodeId⟩

/-- The chain of a node, or nothing when the node is not in this tenant or its chain
is not effective. -/
def resolveAncestry (ref : OrganizationNodeRef) (now : Int) :
    Option (List OrganizationNodeRef) :=
  if ¬ ref.level ∈ organizationLevels then none
  else if ref.level = .tenant ∧ ref.id ≠ t then none
  else
    let rows := org.orgAncestryEffective t ref.level (some ref.id) now
    if rows = [] then none else some rows

/-! ## The order -/

def parent : OrganizationNodeRef → Option OrganizationNodeRef
  | ⟨.dealerGroup, i⟩ => (org.dealerGroupRow t i).map fun _ => ⟨.tenant, t⟩
  | ⟨.legalEntity, i⟩ => (org.legalEntityRow t i).map fun e => ⟨.dealerGroup, e.dealerGroupId⟩
  | ⟨.rooftop, i⟩ => (org.rooftopRow t i).map fun r => ⟨.legalEntity, r.legalEntityId⟩
  | ⟨.department, i⟩ => (org.departmentRow t i).map fun d => ⟨.rooftop, d.rooftopId⟩
  | _ => none

/-- The first node is the second one or an ancestor of it. -/
inductive AtOrAbove : OrganizationNodeRef → OrganizationNodeRef → Prop where
  | self (n : OrganizationNodeRef) : AtOrAbove n n
  | under {a p n : OrganizationNodeRef} (h : org.parent t n = some p) (ha : AtOrAbove a p) :
      AtOrAbove a n

def nodeRow : OrganizationNodeRef → Option AncestryRow
  | ⟨.tenant, i⟩ => if i = t then (org.tenantRow t).map Tenant.row else none
  | ⟨.dealerGroup, i⟩ => (org.dealerGroupRow t i).map DealerGroup.row
  | ⟨.legalEntity, i⟩ => (org.legalEntityRow t i).map LegalEntity.row
  | ⟨.rooftop, i⟩ => (org.rooftopRow t i).map Rooftop.row
  | ⟨.department, i⟩ => (org.departmentRow t i).map Department.row
  | _ => none

/-- A node that is there, active and inside its window. -/
def Effective (n : OrganizationNodeRef) (now : Int) : Prop :=
  ∃ r, org.nodeRow t n = some r ∧ r.effective now = true

/-- A node whose whole chain is effective, the tenant included. -/
def Stands (n : OrganizationNodeRef) (now : Int) : Prop :=
  ∀ a, org.AtOrAbove t a n → org.Effective t a now

/-! ## The order refines the walk -/

section Order

variable {org : Organization} {t : String} {now : Int} {i : String} {p : OrganizationNodeRef}
  {l : ScopeLevel} {b : OrganizationNodeRef}

theorem tenantRow_id {r : Tenant} (h : org.tenantRow t = some r) : r.tenantId = t :=
  (Library.of_find?_eq_some h).2

theorem dealerGroupRow_id {r : DealerGroup} (h : org.dealerGroupRow t i = some r) :
    r.dealerGroupId = i :=
  (Library.of_find?_eq_some h).2.2

theorem legalEntityRow_id {r : LegalEntity} (h : org.legalEntityRow t i = some r) :
    r.legalEntityId = i :=
  (Library.of_find?_eq_some h).2.2

theorem rooftopRow_id {r : Rooftop} (h : org.rooftopRow t i = some r) : r.rooftopId = i :=
  (Library.of_find?_eq_some h).2.2

theorem departmentRow_id {r : Department} (h : org.departmentRow t i = some r) :
    r.departmentId = i :=
  (Library.of_find?_eq_some h).2.2

theorem depth_of_parent (h : org.parent t n = some p) :
    scopeDepth n.level = scopeDepth p.level + 1 := by
  obtain ⟨level, i⟩ := n
  cases level <;> simp only [parent, Option.map_eq_some_iff, reduceCtorEq] at h
  all_goals
    obtain ⟨r, -, rfl⟩ := h
    rfl

theorem parent_induction {P : OrganizationNodeRef → Prop}
    (h : ∀ n, (∀ p, org.parent t n = some p → P p) → P n) (n : OrganizationNodeRef) : P n := by
  induction hd : scopeDepth n.level generalizing n with
  | zero => exact h n fun p hp => absurd (depth_of_parent hp) (by omega)
  | succ d ih => exact h n fun p hp => ih p (by have := depth_of_parent hp; omega)

theorem AtOrAbove.trans {c : OrganizationNodeRef} (hab : org.AtOrAbove t a b)
    (hbc : org.AtOrAbove t b c) : org.AtOrAbove t a c := by
  induction hbc with
  | self => exact hab
  | under h _ ih => exact .under h ih

theorem AtOrAbove.depth_le (h : org.AtOrAbove t a n) : scopeDepth a.level ≤ scopeDepth n.level := by
  induction h with
  | self => exact Nat.le_refl _
  | under hp _ ih => have := depth_of_parent hp; omega

theorem AtOrAbove.of_depth_le (ha : org.AtOrAbove t a n) (hb : org.AtOrAbove t b n)
    (hle : scopeDepth a.level ≤ scopeDepth b.level) :
    org.AtOrAbove t a b := by
  induction hb with
  | self => exact ha
  | under hp hb ih =>
    cases ha with
    | self => have := depth_of_parent hp; have := hb.depth_le; omega
    | under hp' ha =>
      rw [hp, Option.some.injEq] at hp'
      exact ih (hp' ▸ ha)

theorem AtOrAbove.eq_of_level (ha : org.AtOrAbove t a n) (hb : org.AtOrAbove t b n)
    (h : a.level = b.level) : a = b := by
  cases ha.of_depth_le hb (Nat.le_of_eq (congrArg scopeDepth h)) with
  | self => rfl
  | under hp ha =>
    have := depth_of_parent hp
    have := ha.depth_le
    rw [h] at this
    omega

theorem Stands.above (h : org.Stands t n now) (ha : org.AtOrAbove t a n) : org.Stands t a now :=
  fun b hb => h b (hb.trans ha)

theorem stands_iff : org.Stands t n now ↔
      org.Effective t n now ∧ ∀ p, org.parent t n = some p → org.Stands t p now := by
  constructor
  · intro h
    exact ⟨h n (.self n), fun p hp a ha => h a (.under hp ha)⟩
  · rintro ⟨hn, hp⟩ a ha
    cases ha with
    | self => exact hn
    | under h ha => exact hp _ h a ha

theorem chainLength_of_mem (h : l ∈ organizationLevels) : ∃ k, chainLength l = some k ∧ 0 < k := by
  cases l <;> simp [organizationLevels, chainLength] at h ⊢

theorem chainLength_of_not_mem (h : l ∉ organizationLevels) : chainLength l = none := by
  cases l <;> simp [organizationLevels, chainLength] at h ⊢

theorem orgAncestryAll_foreign (h : n.level = .tenant ∧ n.id ≠ t) :
    org.orgAncestryAll t n.level (some n.id) = [] := by
  rw [h.1, orgAncestryAll, if_pos h.2]

theorem orgChainDefect_eq_none {id : Option String} :
    org.orgChainDefect t l id now = none ↔
      ∃ k, chainLength l = some k ∧ k ≤ (org.orgAncestryAll t l id).length ∧
        ∀ r ∈ org.orgAncestryAll t l id, r.effective now = true := by
  unfold orgChainDefect
  cases hk : chainLength l with
  | none => simp
  | some k =>
    by_cases hlen : (org.orgAncestryAll t l id).length < k
    · simp only [hlen, if_true, reduceCtorEq, Option.some.injEq, exists_eq_left', false_iff]
      exact fun hle => absurd hlen (Nat.not_lt.mpr hle.1)
    · simp [hlen, Nat.not_lt.mp hlen]

theorem resolveAncestry_eq_some : org.resolveAncestry t n now = some chain ↔
      org.orgChainDefect t n.level (some n.id) now = none ∧
        chain = (org.orgAncestryAll t n.level (some n.id)).map fun r => ⟨r.level, r.nodeId⟩ := by
  by_cases hdef : org.orgChainDefect t n.level (some n.id) now = none
  · obtain ⟨k, hk, hlen, -⟩ := orgChainDefect_eq_none.mp hdef
    have hmem : n.level ∈ organizationLevels := by
      by_contra hnot
      rw [chainLength_of_not_mem hnot] at hk
      cases hk
    obtain ⟨k', hk', hpos⟩ := chainLength_of_mem hmem
    rw [hk, Option.some.injEq] at hk'
    have hown : ¬ (n.level = .tenant ∧ n.id ≠ t) := by
      intro hforeign
      rw [orgAncestryAll_foreign hforeign, length_nil] at hlen
      omega
    have hne : org.orgAncestryAll t n.level (some n.id) ≠ [] := by
      intro hnil
      rw [hnil, length_nil] at hlen
      omega
    have hrows : org.orgAncestryEffective t n.level (some n.id) now =
        (org.orgAncestryAll t n.level (some n.id)).map fun r => ⟨r.level, r.nodeId⟩ := by
      rw [orgAncestryEffective, hdef, Option.isSome_none, if_neg Bool.false_ne_true]
    have hfull : org.orgAncestryEffective t n.level (some n.id) now ≠ [] := by
      rw [hrows]
      exact fun hnil => hne (map_eq_nil_iff.mp hnil)
    rw [resolveAncestry, if_neg (not_not.mpr hmem), if_neg hown]
    dsimp only
    rw [if_neg hfull, hrows, Option.some.injEq]
    exact ⟨fun h => ⟨hdef, h.symm⟩, fun h => h.2.symm⟩
  · have hsome : (org.orgChainDefect t n.level (some n.id) now).isSome = true :=
      Option.isSome_iff_ne_none.mpr hdef
    simp [resolveAncestry, orgAncestryEffective, hsome, hdef]

/-- The rows of a node are the rows of the node it hangs under and its own, unless
the walk breaks off right above it. -/
theorem rows_of_parent (h : org.parent t n = some p) :
    ∃ r, org.nodeRow t n = some r ∧ (⟨r.level, r.nodeId⟩ : OrganizationNodeRef) = n ∧
      (org.orgAncestryAll t n.level (some n.id) =
          org.orgAncestryAll t p.level (some p.id) ++ [r] ∨
        org.orgAncestryAll t p.level (some p.id) = [] ∧
          (org.orgAncestryAll t n.level (some n.id)).length ≤ 2 ∧ 2 ≤ scopeDepth p.level) := by
  have hroot : (org.tenantRow t).toList.length ≤ 1 := by cases org.tenantRow t <;> simp
  obtain ⟨level, i⟩ := n
  cases level <;> simp only [parent, Option.map_eq_some_iff, reduceCtorEq] at h
  case dealerGroup =>
    obtain ⟨g, hg, rfl⟩ := h
    have hid := dealerGroupRow_id hg
    exact ⟨g.row, by simp [nodeRow, hg], by rw [DealerGroup.row, hid],
      .inl (by simp [orgAncestryAll, underTenant, hg])⟩
  case legalEntity =>
    obtain ⟨e, he, rfl⟩ := h
    have hid := legalEntityRow_id he
    refine ⟨e.row, by simp [nodeRow, he], by rw [LegalEntity.row, hid], ?_⟩
    cases hup : org.dealerGroupRow t e.dealerGroupId with
    | none => exact .inr ⟨by simp [orgAncestryAll, underTenant, hup],
        by simp [orgAncestryAll, underTenant, he, entityRows, hup, hroot], by simp [scopeDepth]⟩
    | some g => exact .inl (by simp [orgAncestryAll, underTenant, he, entityRows, hup])
  case rooftop =>
    obtain ⟨r, hr, rfl⟩ := h
    have hid := rooftopRow_id hr
    refine ⟨r.row, by simp [nodeRow, hr], by rw [Rooftop.row, hid], ?_⟩
    cases hup : org.legalEntityRow t r.legalEntityId with
    | none => exact .inr ⟨by simp [orgAncestryAll, underTenant, hup],
        by simp [orgAncestryAll, underTenant, hr, rooftopRows, hup, hroot], by simp [scopeDepth]⟩
    | some e => exact .inl (by simp [orgAncestryAll, underTenant, hr, rooftopRows, hup])
  case department =>
    obtain ⟨d, hd, rfl⟩ := h
    have hid := departmentRow_id hd
    refine ⟨d.row, by simp [nodeRow, hd], by rw [Department.row, hid], ?_⟩
    cases hup : org.rooftopRow t d.rooftopId with
    | none => exact .inr ⟨by simp [orgAncestryAll, underTenant, hup],
        by simp [orgAncestryAll, underTenant, hd, departmentRows, hup, hroot], by simp [scopeDepth]⟩
    | some r => exact .inl (by simp [orgAncestryAll, underTenant, hd, departmentRows, hup])

theorem chainLength_of_parent (h : org.parent t n = some p) :
    chainLength n.level = some (scopeDepth n.level) ∧
      chainLength p.level = some (scopeDepth p.level) := by
  obtain ⟨level, i⟩ := n
  cases level <;> simp only [parent, Option.map_eq_some_iff, reduceCtorEq] at h
  all_goals
    obtain ⟨r, -, rfl⟩ := h
    exact ⟨rfl, rfl⟩

theorem resolveAncestry_of_parent (h : org.parent t n = some p) :
    org.resolveAncestry t n now = some chain ↔
      ∃ up, org.resolveAncestry t p now = some up ∧ org.Effective t n now ∧ chain = up ++ [n] := by
  obtain ⟨r, hrow, hnode, hrows⟩ := rows_of_parent h
  have hdepth := depth_of_parent h
  have heff : org.Effective t n now ↔ r.effective now = true := by
    simp [Effective, hrow]
  simp only [resolveAncestry_eq_some, orgChainDefect_eq_none, (chainLength_of_parent h).1,
    (chainLength_of_parent h).2, Option.some.injEq, exists_eq_left', heff]
  rcases hrows with hrows | ⟨hnil, hshort, htwo⟩
  · rw [hrows, length_append, length_singleton, map_append, map_singleton,
      hnode, forall_mem_append, forall_mem_singleton]
    constructor
    · rintro ⟨⟨hlen, hall, hr⟩, rfl⟩
      exact ⟨_, ⟨⟨by omega, hall⟩, rfl⟩, hr, rfl⟩
    · rintro ⟨_, ⟨⟨hlen, hall⟩, rfl⟩, hr, rfl⟩
      exact ⟨⟨by omega, hall, hr⟩, rfl⟩
  · rw [hnil]
    constructor
    · rintro ⟨⟨hlen, -⟩, -⟩
      omega
    · rintro ⟨_, ⟨⟨hlen, -⟩, -⟩, -⟩
      rw [length_nil] at hlen
      omega

theorem resolveAncestry_of_root (h : org.parent t n = none) :
    org.resolveAncestry t n now = some chain ↔ org.Effective t n now ∧ chain = [n] := by
  obtain ⟨level, i⟩ := n
  rw [resolveAncestry_eq_some, orgChainDefect_eq_none]
  cases level <;> simp only [parent, Option.map_eq_none_iff] at h
  case tenant =>
    by_cases hi : i = t
    · subst hi
      cases hrow : org.tenantRow i with
      | none => simp [chainLength, orgAncestryAll, Effective, nodeRow, hrow]
      | some r =>
        have hid := tenantRow_id hrow
        simp [chainLength, orgAncestryAll, Effective, nodeRow, hrow, Tenant.row, hid]
    · simp [chainLength, orgAncestryAll, Effective, nodeRow, hi]
  all_goals simp [chainLength, orgAncestryAll, underTenant, Effective, nodeRow, h]

/-- The resolver answers exactly for the nodes that stand on an effective chain. -/
theorem resolveAncestry_isSome :
    (org.resolveAncestry t n now).isSome = true ↔ org.Stands t n now := by
  induction n using @parent_induction org t with
  | h n ih =>
    rw [Option.isSome_iff_exists, stands_iff]
    cases hp : org.parent t n with
    | none => simp [resolveAncestry_of_root hp]
    | some p =>
      simp only [resolveAncestry_of_parent hp, Option.some.injEq, forall_eq']
      rw [← ih p hp, Option.isSome_iff_exists]
      constructor
      · rintro ⟨_, up, hup, hn, -⟩
        exact ⟨hn, up, hup⟩
      · rintro ⟨hn, up, hup⟩
        exact ⟨_, up, hup, hn, rfl⟩

theorem mem_of_resolveAncestry (h : org.resolveAncestry t n now = some chain) :
    a ∈ chain ↔ org.AtOrAbove t a n := by
  induction n using @parent_induction org t generalizing chain with
  | h n ih =>
    cases hp : org.parent t n with
    | none =>
      rw [((resolveAncestry_of_root hp).mp h).2, mem_singleton]
      constructor
      · rintro rfl
        exact .self a
      · intro ha
        cases ha with
        | self => rfl
        | under hp' => rw [hp] at hp'; cases hp'
    | some p =>
      obtain ⟨up, hup, -, rfl⟩ := (resolveAncestry_of_parent hp).mp h
      rw [mem_append, mem_singleton, ih p hp hup]
      constructor
      · rintro (ha | rfl)
        · exact .under hp ha
        · exact .self a
      · intro ha
        cases ha with
        | self => exact .inr rfl
        | under hp' ha =>
          rw [hp, Option.some.injEq] at hp'
          exact .inl (hp' ▸ ha)

end Order

end Organization

end Dealership.Policy
