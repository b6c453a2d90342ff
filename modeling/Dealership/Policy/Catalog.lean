import Dealership.Library.Table

/-!
# Action catalogs

The policy engine owns no action semantics: an action is data, published by the
module that owns it and gathered into a catalog.  `createActionCatalog` refuses a
bad list at construction, so a catalog that exists names every action once, gives
each at least one role, and lets no control-plane action name a resource.  That a
plane is one of the two is the type's to say.
-/

namespace Dealership.Policy

/-- The authority plane an action acts on.  It is a field of the action, never read
off its name. -/
inductive ActionPlane where
  | tenant
  | controlPlane
deriving DecidableEq

structure ActionDefinition where
  action : String
  /-- Absent for an action with no single resource to resolve. -/
  resourceType : Option String
  allowedRoles : List String
  sensitive : Option Bool
  plane : Option ActionPlane

/-- Absence of a plane means `tenant`, the plane that demands more. -/
def actionPlane (d : ActionDefinition) : ActionPlane := d.plane.getD .tenant

/-- Letters, digits, `_` and `.`, as `ACTION_NAME` spells them. -/
def actionNameChar (c : Char) : Bool :=
  ('a' ≤ c && c ≤ 'z') || ('0' ≤ c && c ≤ '9') || c = '_' || c = '.'

/-- `ACTION_NAME`: a small letter, then at most 127 more characters. -/
def isActionName (s : String) : Bool :=
  match s.toList with
  | [] => false
  | c :: cs => ('a' ≤ c && c ≤ 'z') && cs.all actionNameChar && decide (cs.length ≤ 127)

structure Published (ds : List ActionDefinition) : Prop where
  named : ∀ d ∈ ds, isActionName d.action = true
  distinct : (ds.map ActionDefinition.action).Nodup
  reachable : ∀ d ∈ ds, d.allowedRoles ≠ []
  payloadFree : ∀ d ∈ ds, actionPlane d = .controlPlane → d.resourceType = none

/-- A catalog: the definitions in the order they were published. -/
structure ActionCatalog where
  list : List ActionDefinition
  published : Published list

namespace ActionCatalog

def get (catalog : ActionCatalog) (action : String) : Option ActionDefinition :=
  catalog.list.find? fun d => d.action = action

theorem get_eq_some {catalog : ActionCatalog} {action : String} {d : ActionDefinition}
    (h : catalog.get action = some d) : d ∈ catalog.list ∧ d.action = action :=
  Library.of_find?_eq_some h

end ActionCatalog

end Dealership.Policy
