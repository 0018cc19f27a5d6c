import RowAccess.Decision.Error
import RowAccess.Scope.Rule

/-!
Contract: the scopes of every resource.

A resource registers named rules, optionally the resource whose permissions
stand in for its own, and optionally a provider of further rules. A name is
resolved to the registered rule, then to the builtin rule, then to the
provider's.

Owns:
- validation of registrations, in the order in which they are made.
- resolution of scope names.
-/

namespace RowAccess

/-- Supplies rules for names that are not registered. -/
abbrev ScopeProvider := ResourceType → ScopeName → Option ScopeRule

/-- What is registered for a resource, before validation. -/
structure Registration where
  resource : ResourceType
  rules : List (ScopeName × ScopeRule)
  permissionsVia : Option ResourceType
  provider : Option ScopeProvider

inductive RegistryError where
  | duplicateScope (resource : ResourceType) (scope : ScopeName)
  | reservedScope (resource : ResourceType)
  | emptyComposite (resource : ResourceType) (scope : ScopeName)
  | emptyScopeName (resource : ResourceType)
  | duplicateResource (resource : ResourceType)
deriving DecidableEq, Repr

namespace RegistryError

def code : RegistryError → String
  | .duplicateScope .. => "DuplicateScope"
  | .reservedScope _ => "ReservedScope"
  | .emptyComposite .. => "EmptyComposite"
  | .emptyScopeName _ => "EmptyScopeName"
  | .duplicateResource _ => "DuplicateResource"

def message : RegistryError → String
  | .duplicateScope resource scope => s!"scope {scope} registered twice on {resource}"
  | .reservedScope resource =>
      s!"scope `all` is builtin and cannot be redefined on {resource}"
  | .emptyComposite resource scope => s!"composite scope {scope} on {resource} is empty"
  | .emptyScopeName resource => s!"empty scope name on {resource}"
  | .duplicateResource resource => s!"resource {resource} registered twice"

end RegistryError

/-- The validated scopes of one resource. -/
structure ResourceScopes where
  resource : ResourceType
  rules : OrderedMap ScopeName ScopeRule
  permissionsVia : Option ResourceType
  provider : Option ScopeProvider

namespace ResourceScopes

/-- The resource whose permission keys guard this one. -/
def permissionResource (scopes : ResourceScopes) : ResourceType :=
  scopes.permissionsVia.getD scopes.resource

/-- The names of the registered rules, in order. -/
def scopeNames (scopes : ResourceScopes) : List ScopeName := scopes.rules.keys

end ResourceScopes

namespace Registration

/-- The defect of a rule, given the rules that stand before it. -/
def defect? (resource : ResourceType) (rules : OrderedMap ScopeName ScopeRule)
    (name : ScopeName) (rule : ScopeRule) : Option RegistryError :=
  if name.text = "" then some (.emptyScopeName resource)
  else if name = ScopeName.all then some (.reservedScope resource)
  else if rule.isEmptyComposite then some (.emptyComposite resource name)
  else if rules.contains name then some (.duplicateScope resource name)
  else none

/-- Adds rules in order, up to the first defect. -/
def addRules (resource : ResourceType) (rules : OrderedMap ScopeName ScopeRule) :
    List (ScopeName × ScopeRule) → Except RegistryError (OrderedMap ScopeName ScopeRule)
  | [] => .ok rules
  | (name, rule) :: rest =>
      match defect? resource rules name rule with
      | some error => .error error
      | none => addRules resource (rules.insert name rule) rest

def build (registration : Registration) : Except RegistryError ResourceScopes :=
  (addRules registration.resource OrderedMap.empty registration.rules).map (fun rules =>
    { resource := registration.resource
      rules := rules
      permissionsVia := registration.permissionsVia
      provider := registration.provider })

end Registration

structure Registry where
  resources : OrderedMap ResourceType ResourceScopes

namespace Registry

def empty : Registry := ⟨OrderedMap.empty⟩

instance : Inhabited Registry := ⟨empty⟩

/-- Adds a resource that is not registered yet. -/
def register (registry : Registry) (scopes : ResourceScopes) : Except RegistryError Registry :=
  if registry.resources.contains scopes.resource then
    .error (.duplicateResource scopes.resource)
  else .ok ⟨registry.resources.insert scopes.resource scopes⟩

/-- Builds and registers each resource in turn, up to the first defect. -/
def addAll (registry : Registry) : List Registration → Except RegistryError Registry
  | [] => .ok registry
  | registration :: rest =>
      match registration.build with
      | .error error => .error error
      | .ok scopes =>
          match registry.register scopes with
          | .error error => .error error
          | .ok next => next.addAll rest

def ofRegistrations (registrations : List Registration) : Except RegistryError Registry :=
  empty.addAll registrations

def find? (registry : Registry) (resource : ResourceType) : Option ResourceScopes :=
  registry.resources.find? resource

/-- The resource whose permission keys guard a resource: itself, unless it
registered another. -/
def permissionResource (registry : Registry) (resource : ResourceType) : ResourceType :=
  match registry.find? resource with
  | some scopes => scopes.permissionResource
  | none => resource

/-- The rule registered under a name. -/
def registered? (registry : Registry) (resource : ResourceType) (scope : ScopeName) :
    Option ScopeRule :=
  (registry.find? resource).bind (fun scopes => scopes.rules.find? scope)

/-- The rule the resource's provider supplies for a name. -/
def provided? (registry : Registry) (resource : ResourceType) (scope : ScopeName) :
    Option ScopeRule :=
  (registry.find? resource).bind (fun scopes =>
    scopes.provider.bind (fun provider => provider resource scope))

def resolve (registry : Registry) (resource : ResourceType) (scope : ScopeName)
    (action : Action) : Except AccessError ScopeRule :=
  match registry.registered? resource scope with
  | some rule => .ok rule
  | none =>
      if scope = ScopeName.all then .ok ScopeRule.all
      else
        match registry.provided? resource scope with
        | some rule => .ok rule
        | none => .error (.unknownScope scope resource action)

end Registry

end RowAccess
