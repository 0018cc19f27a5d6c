import RowAccess.Filter.Evaluation

/-!
Contract: collections of records and the execution of queries on them.

A collection holds the records of one resource by key. A query over another
resource is refused, at any depth of nesting. A query's filters are
materialized once, with the collection itself as resolver, and every record is
then tested without further look-ups, in key order.

Owns:
- the collection type, execution of queries and resolution of subsets.
-/

namespace RowAccess

structure Collection where
  resource : ResourceType
  records : OrderedMap RecordKey Record
deriving Inhabited

namespace Collection

def empty (resource : ResourceType) : Collection := ⟨resource, OrderedMap.empty⟩

/-- Stores a record in place of one with the same key. -/
def insert (collection : Collection) (record : Record) : Collection :=
  { collection with records := collection.records.insert record.key record }

def ofRecords (resource : ResourceType) (records : List Record) : Collection :=
  records.foldl insert (empty resource)

def get? (collection : Collection) (key : RecordKey) : Option Record :=
  collection.records.find? key

/-- Refuses a query over another resource. -/
def checkResource (collection : Collection) (resource : ResourceType) : Except StoreError Unit :=
  if resource = collection.resource then .ok ()
  else
    .error ⟨.invalid,
      "query over " ++ resource.label ++ " sent to collection " ++ collection.resource.label⟩

/-- The records in key order that match a filter without asking a resolver. -/
def select (filter : Filter) : List Record → Except StoreError (List Record)
  | [] => .ok []
  | record :: rest =>
      match filter.admits SubsetResolver.localOnly record with
      | .error error => .error error
      | .ok holds =>
          match select filter rest with
          | .error error => .error error
          | .ok others => .ok (if holds then record :: others else others)

def keysOf (records : List Record) : KeySet := OrderedSet.ofList (records.map Record.key)

mutual

/-- The keys of a subset of the collection. -/
def resolve (collection : Collection) : Subset → Except StoreError KeySet
  | .explicit keys => .ok keys
  | .query query => (execute collection query).map keysOf
  | .union members => resolveAll collection OrderedSet.empty members

/-- Adds the keys of each member in turn. -/
def resolveAll (collection : Collection) (collected : KeySet) :
    List Subset → Except StoreError KeySet
  | [] => .ok collected
  | member :: rest =>
      match resolve collection member with
      | .ok keys => resolveAll collection (collected.union keys) rest
      | .error error => .error error

/-- The matching records in key order. A filter that never holds makes the
others irrelevant, so that none of their subsets is resolved. -/
def execute (collection : Collection) : Query → Except StoreError (List Record)
  | .mk resource filters =>
      match collection.checkResource resource with
      | .error error => .error error
      | .ok _ =>
          if filters.any Filter.isNever then .ok []
          else
            match materializeEach collection filters with
            | .error error => .error error
            | .ok made => select (Filter.conjunction made) collection.records.values

/-- The filter with its subsets resolved in the collection. -/
def materialize (collection : Collection) : Filter → Except StoreError Filter
  | .always => .ok .always
  | .never => .ok .never
  | .all children => (materializeEach collection children).map .all
  | .any children => (materializeEach collection children).map .any
  | .not child => (materialize collection child).map .not
  | .condition test => .ok (.condition test)
  | .keyIn subset => (resolve collection subset).map (fun keys => .keyIn (.explicit keys))

def materializeEach (collection : Collection) : List Filter → Except StoreError (List Filter)
  | [] => .ok []
  | child :: rest =>
      match materialize collection child with
      | .error error => .error error
      | .ok made => (materializeEach collection rest).map (fun others => made :: others)

end

end Collection

end RowAccess
