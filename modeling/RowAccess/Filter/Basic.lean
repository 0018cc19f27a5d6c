import RowAccess.Identity.Resource
import RowAccess.Ordered.Set
import RowAccess.Record.Condition

/-!
Contract: record predicates, subsets of a collection and lazy queries.

Filters form a Boolean algebra with membership in a subset as an atom. A subset
is an explicit key set, the records of a query, or a union. A query narrows one
resource by filters that must all hold.

Owns:
- the three mutually recursive types.
- the simplifying constructors and the flattening union.

Does not own:
- evaluation, which `Filter.Evaluation` defines.
-/

namespace RowAccess

abbrev KeySet := OrderedSet RecordKey

mutual

inductive Filter where
  | always
  | never
  | all (children : List Filter)
  | any (children : List Filter)
  | not (child : Filter)
  | condition (condition : Condition)
  | keyIn (subset : Subset)

inductive Subset where
  | query (query : Query)
  | explicit (keys : KeySet)
  | union (members : List Subset)

inductive Query where
  | mk (resource : ResourceType) (filters : List Filter)

end

instance : Inhabited Filter := ⟨.always⟩

instance : Inhabited Subset := ⟨.explicit OrderedSet.empty⟩

namespace Filter

def isAlways : Filter → Bool
  | .always => true
  | _ => false

def isNever : Filter → Bool
  | .never => true
  | _ => false

/-- The conjunction of a list that holds neither constant. -/
def allOf : List Filter → Filter
  | [] => .always
  | [child] => child
  | children => .all children

/-- The disjunction of a list that holds neither constant. -/
def anyOf : List Filter → Filter
  | [] => .never
  | [child] => child
  | children => .any children

/-- The simplified conjunction: never if a filter is never, and without the
filters that are always. -/
def conjunction (filters : List Filter) : Filter :=
  if filters.any isNever then .never
  else allOf (filters.filter (fun filter => !filter.isAlways))

/-- The simplified disjunction: always if a filter is always, and without the
filters that are never. -/
def disjunction (filters : List Filter) : Filter :=
  if filters.any isAlways then .always
  else anyOf (filters.filter (fun filter => !filter.isNever))

/-- The simplified negation, which exchanges the constants and removes a
negation it meets. -/
def negation : Filter → Filter
  | .always => .never
  | .never => .always
  | .not child => child
  | filter => .not filter

def notNull (path : FieldPath) : Filter := .condition (.notNull path)

/-- The record's key is the given one. -/
def keyEquals (key : RecordKey) : Filter := .keyIn (.explicit (OrderedSet.ofList [key]))

end Filter

namespace Subset

/-- The members a subset contributes to a union. -/
def members : Subset → List Subset
  | .union nested => nested
  | subset => [subset]

/-- The union of subsets, where the members of a union take its place. -/
def unionOf (subsets : List Subset) : Subset :=
  match subsets.flatMap members with
  | [] => .explicit OrderedSet.empty
  | [single] => single
  | several => .union several

mutual

/-- The key set, where it is known without running a query. -/
def localKeys? : Subset → Option KeySet
  | .explicit keys => some keys
  | .query _ => none
  | .union members => localKeysOfAll? OrderedSet.empty members

/-- Adds the keys of every member, each of which must be known. -/
def localKeysOfAll? (collected : KeySet) : List Subset → Option KeySet
  | [] => some collected
  | member :: rest =>
      match localKeys? member with
      | some keys => localKeysOfAll? (collected.union keys) rest
      | none => none

end

end Subset

namespace Query

def resource : Query → ResourceType
  | .mk resource _ => resource

def filters : Query → List Filter
  | .mk _ filters => filters

/-- The query for every record of a resource. -/
def ofResource (resource : ResourceType) : Query := .mk resource []

/-- Narrows a query by one more filter. -/
def narrow (query : Query) (filter : Filter) : Query :=
  .mk query.resource (query.filters ++ [filter])

/-- The simplified conjunction of a query's filters. -/
def predicate (query : Query) : Filter := Filter.conjunction query.filters

end Query

end RowAccess
