import RowAccess.Proofs.Collection.Nesting

/-!
Contract: the flattening union of subsets is a set union.

Whatever subsets are joined, unions among them, the union resolves in every
collection to the union of what they resolve to, or to the failure of the first
of them that fails. Its keys are known without running a query where those of
each of them are, and then they are what the union resolves to. What is made of
key sets, queries and flattening unions alone holds no union within a union.

Owns:
- the answer that a list of subsets has together.
- subsets whose keys are known locally, through lists and unions.
- the subsets made by flattening unions, and their form.
-/

namespace RowAccess

namespace Subset

/-! ## Keys that are known locally -/

/-- Whether the keys of a subset are known without running a query. -/
def Known (subset : Subset) : Prop := ∃ keys, subset.localKeys? = some keys

theorem localKeysOfAll?_isSome_iff {subsets : List Subset} (collected : KeySet) :
    (∃ keys, localKeysOfAll? collected subsets = some keys) ↔
      ∀ subset ∈ subsets, subset.Known := by
  induction subsets generalizing collected with
  | nil => simp [localKeysOfAll?]
  | cons subset rest inductionHypothesis =>
      rw [List.forall_mem_cons]
      simp only [localKeysOfAll?, Known]
      cases subset.localKeys? with
      | none => simp
      | some own => simpa [Known] using inductionHypothesis (collected.union own)

theorem known_union_iff {members : List Subset} :
    Known (.union members) ↔ ∀ member ∈ members, member.Known := by
  unfold Known
  simp only [localKeys?]
  exact localKeysOfAll?_isSome_iff OrderedSet.empty

theorem known_iff_members {subset : Subset} :
    subset.Known ↔ ∀ member ∈ subset.members, member.Known := by
  cases subset with
  | query query => simp [members]
  | explicit keys => simp [members]
  | union nested => exact known_union_iff

theorem known_unionOf_iff {subsets : List Subset} :
    (unionOf subsets).Known ↔ ∀ subset ∈ subsets, subset.Known := by
  have flattened : (∀ subset ∈ subsets, subset.Known) ↔
      ∀ member ∈ subsets.flatMap members, member.Known := by
    rw [List.forall_mem_flatMap]
    exact forall₂_congr (fun subset _ => known_iff_members)
  rw [flattened]
  unfold unionOf
  split
  next isEmpty =>
    rw [isEmpty]
    simp [Known, localKeys?]
  next single isSingle =>
    rw [isSingle]
    simp
  next => exact known_union_iff

/-! ## Subsets made by flattening unions -/

/-- The subsets that are made of key sets, queries and flattening unions alone. -/
inductive Made : Subset → Prop
  | explicit (keys : KeySet) : Made (.explicit keys)
  | query (query : Query) : Made (.query query)
  | unionOf {subsets : List Subset} (each : ∀ subset ∈ subsets, Made subset) :
      Made (unionOf subsets)

/-- Whether a subset is no union. -/
def Plain (subset : Subset) : Prop := ∀ nested, subset ≠ .union nested

/-- Whether every union in a subset has several members, none of which is a union. -/
def Flat (subset : Subset) : Prop :=
  ∀ members, Part (.union members) subset →
    2 ≤ members.length ∧ ∀ member ∈ members, member.Plain

theorem Plain.made {subset : Subset} (plain : subset.Plain) : subset.Made := by
  cases subset with
  | explicit keys => exact .explicit keys
  | query query => exact .query query
  | union nested => exact absurd rfl (plain nested)

theorem Plain.members_eq {subset : Subset} (plain : subset.Plain) : subset.members = [subset] := by
  cases subset with
  | explicit keys => rfl
  | query query => rfl
  | union nested => exact absurd rfl (plain nested)

theorem Plain.no_union {subset : Subset} (plain : subset.Plain) (nested : List Subset) :
    ¬ Part (.union nested) subset := by
  intro isPart
  cases isPart with
  | self => exact plain nested rfl
  | member inUnion _ => exact plain _ rfl

theorem Plain.flat {subset : Subset} (plain : subset.Plain) : subset.Flat :=
  fun nested isPart => absurd isPart (plain.no_union nested)

theorem flat_union_iff {members : List Subset} :
    Flat (.union members) ↔ 2 ≤ members.length ∧ ∀ member ∈ members, member.Plain := by
  constructor
  · exact fun flat => flat members (.self _)
  · intro form nested isPart
    rcases part_union_iff.1 isPart with same | ⟨member, inUnion, inMember⟩
    · cases same
      exact form
    · exact absurd inMember ((form.2 member inUnion).no_union nested)

/-- A flat subset contributes no unions to a union. -/
theorem Flat.plain_members {subset : Subset} (flat : subset.Flat) :
    ∀ member ∈ subset.members, member.Plain := by
  cases subset with
  | union nested => exact (flat_union_iff.1 flat).2
  | explicit | query => exact List.forall_mem_singleton.2 nofun

theorem flat_unionOf {subsets : List Subset} (each : ∀ subset ∈ subsets, subset.Flat) :
    (unionOf subsets).Flat := by
  have plain : ∀ member ∈ subsets.flatMap members, member.Plain :=
    List.forall_mem_flatMap.2 (fun subset inList => (each subset inList).plain_members)
  unfold unionOf
  split
  next => exact Plain.flat nofun
  next single isSingle => exact (plain single (isSingle ▸ List.mem_singleton_self single)).flat
  next notEmpty notSingle =>
    refine flat_union_iff.2 ⟨?_, plain⟩
    match listed : subsets.flatMap members with
    | [] => exact absurd listed notEmpty
    | [single] => exact absurd listed (notSingle single)
    | _ :: _ :: _ => simp

/-- Several subsets that are no unions are joined as they are. -/
theorem unionOf_of_plain {subsets : List Subset} (several : 2 ≤ subsets.length)
    (plain : ∀ subset ∈ subsets, subset.Plain) : unionOf subsets = .union subsets := by
  have listed : subsets.flatMap members = subsets := by
    rw [List.flatMap_congr (fun subset inList => (plain subset inList).members_eq),
      List.flatMap_singleton']
  match subsets with
  | [] | [_] => simp at several
  | first :: second :: rest =>
      unfold unionOf
      rw [listed]

theorem made_iff_flat {subset : Subset} : subset.Made ↔ subset.Flat := by
  constructor
  · intro made
    induction made with
    | explicit keys => exact Plain.flat nofun
    | query query => exact Plain.flat nofun
    | unionOf _ inductionHypothesis => exact flat_unionOf inductionHypothesis
  · intro flat
    cases subset with
    | explicit keys => exact .explicit keys
    | query query => exact .query query
    | union nested =>
        obtain ⟨several, plain⟩ := flat_union_iff.1 flat
        rw [← unionOf_of_plain several plain]
        exact .unionOf (fun member inUnion => (plain member inUnion).made)

end Subset

/-! ## The answer of a list of subsets -/

/-- Whether an answer is the one that subsets have together in a collection: the
union of what each of them resolves to, or the failure of the first that fails. -/
structure Collection.Joins (collection : Collection) (subsets : List Subset)
    (answer : Except StoreError KeySet) : Prop where
  united : (∀ subset ∈ subsets, collection.Resolves subset) →
    ∃ keys, answer = .ok keys ∧
      ∀ key, key ∈ keys.toList ↔ ∃ subset ∈ subsets, collection.Selects subset key
  failed : ∀ before first after error, subsets = before ++ first :: after →
    (∀ earlier ∈ before, collection.Resolves earlier) →
      collection.resolve first = .error error → answer = .error error

theorem Collection.joins_unionOf (collection : Collection) (subsets : List Subset) :
    collection.Joins subsets (collection.resolve (Subset.unionOf subsets)) where
  united := by
    intro each
    obtain ⟨keys, resolved⟩ := resolves_unionOf_iff.2 each
    refine ⟨keys, resolved, fun key => ?_⟩
    rw [← selects_iff_of_resolve resolved]
    exact selects_unionOf_iff ⟨keys, resolved⟩
  failed := by
    rintro before first after error rfl earlier failure
    obtain ⟨keys, resolved⟩ := (resolveAll_isOk_iff OrderedSet.empty).2 earlier
    rw [resolve_unionOf, resolve_union, resolveAll_append, resolved]
    exact resolveAll_cons_of_error keys after failure

namespace Subset

/-- The flattening union denotes the union of its subsets, in every collection and
locally, and leaves no union within a union. -/
theorem union_is_set_union :
    (∀ subsets : List Subset,
      (∀ collection : Collection,
        collection.Joins subsets (collection.resolve (unionOf subsets))) ∧
      ((∃ keys, (unionOf subsets).localKeys? = some keys) ↔
        ∀ subset ∈ subsets, ∃ own, subset.localKeys? = some own) ∧
      ∀ keys, (unionOf subsets).localKeys? = some keys →
        (∀ key, key ∈ keys.toList ↔
          ∃ subset ∈ subsets, ∃ own, subset.localKeys? = some own ∧ key ∈ own.toList) ∧
        ∀ collection : Collection, collection.resolve (unionOf subsets) = .ok keys) ∧
    ∀ subset : Subset, subset.Made ↔ subset.Flat := by
  refine ⟨fun subsets => ⟨?_, known_unionOf_iff, ?_⟩, fun subset => made_iff_flat⟩
  · exact fun collection => collection.joins_unionOf subsets
  · intro keys known
    have resolved : ∀ collection : Collection, collection.resolve (unionOf subsets) = .ok keys :=
      fun collection => Collection.resolve_of_localKeys? _ known
    refine ⟨fun key => ?_, resolved⟩
    -- What is known locally is resolved in any collection, so that any one will do.
    let collection : Collection := default
    have eachKnown := known_unionOf_iff.1 ⟨keys, known⟩
    rw [← Collection.selects_iff_of_resolve (resolved collection),
      Collection.selects_unionOf_iff ⟨keys, resolved collection⟩]
    constructor
    · rintro ⟨subset, inList, selected⟩
      obtain ⟨own, ownKnown⟩ := eachKnown subset inList
      have ownResolved := collection.resolve_of_localKeys? subset ownKnown
      exact ⟨subset, inList, own, ownKnown,
        (Collection.selects_iff_of_resolve ownResolved).1 selected⟩
    · rintro ⟨subset, inList, own, ownKnown, isKey⟩
      exact ⟨subset, inList, own, collection.resolve_of_localKeys? subset ownKnown, isKey⟩

end Subset

namespace Shop

/-- The ninth order, which is not there, and all orders but the third, in a union of
their own. -/
def picks : List Subset :=
  [.union [.query (.mk orders [.not (Filter.keyEquals ⟨"3"⟩)])],
    .explicit (OrderedSet.ofList [⟨"9"⟩])]

/-- All orders, and then twice what the counter does not hold. -/
def errands : List Subset :=
  [.query (Query.ofResource orders), .union [.query (Query.ofResource invoices)],
    .query (Query.ofResource ⟨"shop", "parcel"⟩)]

/-- The union of the picks holds an order and the key of the missing one. That of the
errands fails with the first of them that fails, and joined as they stand the errands
are nothing that flattening unions make. -/
theorem shop_unites_subsets :
    (∃ keys, counter.resolve (Subset.unionOf picks) = .ok keys ∧
      ⟨"2"⟩ ∈ keys.toList ∧ ⟨"9"⟩ ∈ keys.toList) ∧
    counter.resolve (Subset.unionOf errands) = .error (counter.mismatch invoices) ∧
    ¬ (Subset.union errands).Made := by
  obtain ⟨joined, made⟩ := Subset.union_is_set_union
  refine ⟨?_, ?_, ?_⟩
  · have each : ∀ subset ∈ picks, counter.Resolves subset :=
      List.forall_mem_cons.2 ⟨⟨_, rfl⟩, List.forall_mem_singleton.2 ⟨_, rfl⟩⟩
    obtain ⟨keys, resolved, holds⟩ := ((joined picks).1 counter).united each
    have second : counter.Selects picks[0] ⟨"2"⟩ := ⟨_, rfl, by decide⟩
    have ninth : counter.Selects picks[1] ⟨"9"⟩ := ⟨_, rfl, by decide⟩
    exact ⟨keys, resolved, (holds _).2 ⟨_, List.mem_cons_self, second⟩,
      (holds _).2 ⟨_, List.mem_cons_of_mem _ List.mem_cons_self, ninth⟩⟩
  · have ordersFound : ∀ earlier ∈ [Subset.query (Query.ofResource orders)],
        counter.Resolves earlier :=
      List.forall_mem_singleton.2 ⟨_, rfl⟩
    exact ((joined errands).1 counter).failed _ _ _ _ rfl ordersFound rfl
  · rw [made]
    intro flat
    exact (flat errands (.self _)).2 _ (List.mem_cons_of_mem _ List.mem_cons_self) _ rfl

end Shop

end RowAccess
