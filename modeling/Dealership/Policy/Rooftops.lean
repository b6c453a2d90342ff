import Dealership.Policy.Decisions
import Mathlib.Data.List.Dedup

/-!
# The rooftops an actor is shown

`permittedRooftopIds` lists rooftops for the dashboards, from the bindings in force and the
structural chain, on a connection of its own: it sets no tenant context.  The engine judges by the
effective chain.  The two lists are compared here.
-/

namespace Dealership.Policy

open Library List

/-! ## The list -/

/-- The login of the connection.  Row security binds the runtime login, and shows it the rows of
the tenant context of its transaction. -/
inductive Login where
  | owner
  | runtime

def Login.sees (login : Login) (context : Option String) (tenantId : String) : Bool :=
  match login with
  | .owner => true
  | .runtime => decide (context = some tenantId)

variable {login : Login} {db : Tables} {now : Int} {t user id : String}

def Tables.heldBindings (db : Tables) (now : Int) (t user : String) : List RoleBinding :=
  db.roleBindings.filter fun rb =>
    decide (rb.tenantId = some t) && decide (rb.userLinkId = user) && rb.effective now

/-- A row of a chain that a binding's scope names. -/
def Organization.bindsOnRows (org : Organization) (t id : String) (rb : RoleBinding) : Bool :=
  (org.orgAncestryAll t .rooftop (some id)).any fun row =>
    decide (row.level = rb.scopeLevel) && decide (some row.nodeId = rb.scopeId)

def Organization.showsTo (org : Organization) (t id : String) (rb : RoleBinding) : Bool :=
  decide (rb.scopeLevel = .tenant) ||
    decide (rb.scopeLevel = .rooftop) && decide (rb.scopeId = some id) || org.bindsOnRows t id rb

/-- The rooftops the query returns, on a connection without a tenant context. -/
def permittedRooftopIds (login : Login) (db : Tables) (now : Int) (t user : String) :
    List String :=
  (((db.organization.rooftops.filter fun r =>
      login.sees none r.tenantId && decide (r.tenantId = t)).map Rooftop.rooftopId).dedup.filter
    fun id => (db.organization.rooftopRow t id).any fun r => decide (r.status = .active) &&
      (db.heldBindings now t user).any (db.organization.showsTo t id)).insertionSort fun a b => jsLe a b

/-! ## What the engine would allow -/

/-- The chain of the rooftop resolves, and a binding in force sits at a node of it. -/
def MayActAt (db : Tables) (now : Int) (t user id : String) : Prop :=
  ∃ chain, db.organization.resolveAncestry t ⟨.rooftop, id⟩ now = some chain ∧
    ∃ rb ∈ db.heldBindings now t user, onChain chain rb.scopeLevel rb.scopeId = true

/-- Every active rooftop that the structure puts under a binding stands on an effective chain, and
under a binding that names a node of it.  A login that row security binds is shown nothing, so for
it there must be nothing to show. -/
def NothingHidden (login : Login) (db : Tables) (now : Int) (t user : String) : Prop :=
  match login with
  | .owner => ∀ id r, db.organization.rooftopRow t id = some r → r.status = .active →
      (∃ rb ∈ db.heldBindings now t user, db.organization.showsTo t id rb = true) →
        db.organization.Stands t ⟨.rooftop, id⟩ now ∧
          ∃ rb ∈ db.heldBindings now t user, db.organization.bindsOnRows t id rb = true
  | .runtime => ∀ id r, db.organization.rooftopRow t id = some r →
      db.organization.Stands t ⟨.rooftop, id⟩ now →
        ∀ rb ∈ db.heldBindings now t user, db.organization.bindsOnRows t id rb = false

/-! ## The comparison -/

theorem mem_permittedRooftopIds : id ∈ permittedRooftopIds login db now t user ↔
    login = .owner ∧ ∃ r, db.organization.rooftopRow t id = some r ∧ r.status = .active ∧
      ∃ rb ∈ db.heldBindings now t user, db.organization.showsTo t id rb = true := by
  simp only [permittedRooftopIds, mem_insertionSort, mem_filter, mem_dedup,
    mem_map, Option.any_eq_true, Bool.and_eq_true, decide_eq_true_eq, any_eq_true]
  constructor
  · rintro ⟨⟨r, ⟨-, hsees, -⟩, -⟩, hrow⟩
    cases login with
    | owner => exact ⟨rfl, hrow⟩
    | runtime => cases hsees
  · rintro ⟨rfl, r, hrow, hshown⟩
    obtain ⟨hmem, htenant, hid⟩ := of_find?_eq_some hrow
    exact ⟨⟨r, ⟨hmem, rfl, htenant⟩, hid⟩, r, hrow, hshown⟩

/-- A binding sits at a node of an effective chain when it does so in the structure. -/
theorem mayActAt_iff : MayActAt db now t user id ↔
    db.organization.Stands t ⟨.rooftop, id⟩ now ∧
      ∃ rb ∈ db.heldBindings now t user, db.organization.bindsOnRows t id rb = true := by
  have honRows : ∀ rb : RoleBinding,
      onChain ((db.organization.orgAncestryAll t .rooftop (some id)).map fun r =>
        ⟨r.level, r.nodeId⟩) rb.scopeLevel rb.scopeId = db.organization.bindsOnRows t id rb := by
    intro rb
    rw [onChain, any_map]
    rfl
  rw [MayActAt, ← Organization.resolveAncestry_isSome, Option.isSome_iff_exists]
  constructor
  · rintro ⟨chain, hchain, rb, hrb, hon⟩
    rw [(Organization.resolveAncestry_eq_some.mp hchain).2, honRows] at hon
    exact ⟨⟨chain, hchain⟩, rb, hrb, hon⟩
  · rintro ⟨⟨chain, hchain⟩, rb, hrb, hon⟩
    refine ⟨chain, hchain, rb, hrb, ?_⟩
    rwa [(Organization.resolveAncestry_eq_some.mp hchain).2, honRows]

theorem active_of_stands (h : db.organization.Stands t ⟨.rooftop, id⟩ now) :
    ∃ r, db.organization.rooftopRow t id = some r ∧ r.status = .active := by
  obtain ⟨row, hrow, heff⟩ := h _ (.self _)
  obtain ⟨r, hr, rfl⟩ := Option.map_eq_some_iff.mp hrow
  rw [AncestryRow.effective, Bool.and_eq_true, decide_eq_true_eq] at heff
  exact ⟨r, hr, heff.1⟩

theorem showsTo_of_bindsOnRows {rb : RoleBinding}
    (h : db.organization.bindsOnRows t id rb = true) : db.organization.showsTo t id rb = true := by
  rw [Organization.showsTo, h, Bool.or_true]

/-- An actor is shown exactly the rooftops that the engine would let them act at, when nothing is
amiss above the rooftops their bindings lie over. -/
theorem shown_iff_mayActAt (login : Login) (db : Tables) (now : Int) (t user : String) :
    (∀ id, id ∈ permittedRooftopIds login db now t user ↔ MayActAt db now t user id) ↔
      NothingHidden login db now t user := by
  simp only [mem_permittedRooftopIds, mayActAt_iff]
  cases login with
  | owner =>
    simp only [true_and]
    constructor
    · intro h id r hrow hactive hshown
      exact (h id).mp ⟨r, hrow, hactive, hshown⟩
    · intro h id
      constructor
      · rintro ⟨r, hrow, hactive, hshown⟩
        exact h id r hrow hactive hshown
      · rintro ⟨hstands, rb, hrb, hon⟩
        obtain ⟨r, hrow, hactive⟩ := active_of_stands hstands
        exact ⟨r, hrow, hactive, rb, hrb, showsTo_of_bindsOnRows hon⟩
  | runtime =>
    simp only [reduceCtorEq, false_and, false_iff, not_and, not_exists]
    constructor
    · intro h id r hrow hstands rb hrb
      exact Bool.eq_false_iff.mpr (h id hstands rb hrb)
    · intro h id hstands rb hrb hon
      obtain ⟨r, hrow, -⟩ := active_of_stands hstands
      rw [h id r hrow hstands rb hrb] at hon
      cases hon

open OneRooftop in
/-- The salesperson of a suspended tenant is still shown the rooftop, and the salesperson of an
active one is shown nothing over the runtime login. -/
theorem suspended_tenant_shown :
    ¬ (∀ id, id ∈ permittedRooftopIds .owner
        { tables with organization := organization .suspended } 100 "t" "sales" ↔
      MayActAt { tables with organization := organization .suspended } 100 "t" "sales" id) ∧
    ¬ (∀ id, id ∈ permittedRooftopIds .runtime tables 100 "t" "sales" ↔
      MayActAt tables 100 "t" "sales" id) := by
  constructor
  · intro h
    obtain ⟨chain, hchain, -⟩ := (h "r").mp (by decide +kernel)
    cases hchain
  · intro h
    have hshown := (h "r").mpr ⟨_, rfl, _, mem_cons_self, by decide +kernel⟩
    exact absurd hshown (by decide +kernel)

end Dealership.Policy
