import DeclGen.Proofs.Queries.Declarations
import Mathlib.Data.List.Nodup
import Mathlib.Data.List.Perm.Basic

/-!
# Names of repository methods

A repository looks rows up by their identity and by each relation, and in an augmented entity every lookup has
a second method with an ending of its own. The names of all methods are the fixed ones and those of the lookups
(`Repository.methodNames_perm`). They differ from each other as long as no lookup is called like another one
with that ending (`Repository.nodup_methodNames_iff`).
-/

namespace DeclGen

namespace Naming

lemma augmentedName_injective : Function.Injective augmentedName := fun _ _ h =>
  (String.append_left_inj augmentedTail).mp h

end Naming

/-- A relation is called like its field. -/
lemma Relation.accessorName_eq {table : String} {f : Field} {rel : Relation}
    (h : rel ∈ ofField? table f) : rel.accessorName = f.name := by
  unfold ofField? at h
  split at h
  · cases h
  · obtain ⟨joined, -, rfl⟩ := Option.map_eq_some_iff.mp h
    rfl

namespace Repository

/-! ## Lookups -/

/-- The name of the method that looks rows up by what is called `key`. -/
def lookupName (key : String) : String := "By" ++ key

/-- What rows are looked up by: the identity, and the fields of the relations. -/
def lookups (r : Repository) : List String :=
  Naming.identityField :: r.relations.map (·.accessorName)

/-- What the methods look up, with the augmented forms of an augmented entity. -/
def keys (r : Repository) : List String :=
  r.lookups ++ if r.entity.isAugmented then r.lookups.map Naming.augmentedName else []

/-- The names of the methods that look up nothing. -/
def fixedNames (r : Repository) : List String :=
  ["All", "Store", "DeleteByID"] ++ if r.entity.isAugmented then ["AllAugmented"] else []

/-- The names of the methods, in the order in which they are written. -/
def methodNames (r : Repository) : List String := r.queries.map (·.methodName)

/-- One lookup is called like the augmented form of another, in an entity that has both forms. -/
def Clashes (r : Repository) : Prop :=
  r.entity.isAugmented ∧ ∃ key ∈ r.lookups, Naming.augmentedName key ∈ r.lookups

instance (r : Repository) : Decidable r.Clashes := inferInstanceAs (Decidable (_ ∧ _))

/-! ## The names of the methods -/

section Names

variable {r : Repository}

lemma lookupName_injective : Function.Injective lookupName := fun _ _ h =>
  (String.append_right_inj "By").mp h

/-- A fixed name is none of a lookup, since it does not begin like one. -/
lemma lookupName_notMem_fixedNames (key : String) : lookupName key ∉ r.fixedNames := by
  have hfixed : ∀ n ∈ r.fixedNames, n.toList.take 2 ≠ ['B', 'y'] := by
    unfold fixedNames
    cases r.entity.isAugmented <;> decide
  intro hmem
  apply hfixed _ hmem
  simp [lookupName]

lemma nodup_fixedNames : r.fixedNames.Nodup := by
  unfold fixedNames
  cases r.entity.isAugmented <;> decide

/-- The methods are called by the fixed names and by what they look up. -/
lemma methodNames_perm (r : Repository) :
    r.methodNames.Perm (r.fixedNames ++ r.keys.map lookupName) := by
  unfold methodNames queries Query.ofEntity fixedNames keys lookups
  cases r.entity.isAugmented with
  | false =>
    have hrelations : (r.relations.flatMap fun rel => [Query.byRelation rel]).map (·.methodName) =
        (r.relations.map (·.accessorName)).map lookupName := by
      rw [List.map_flatMap, List.map_map]
      exact List.map_eq_flatMap.symm
    simp only [Bool.false_eq_true, if_false, List.append_nil, List.map_append, hrelations]
    show (["All", "ByID"] ++ _ ++ ["Store", "DeleteByID"]).Perm
      (["All", "Store", "DeleteByID"] ++ "ByID" :: _)
    grind
  | true =>
    -- the two methods of a relation stand beside each other
    have hrelations : ((r.relations.flatMap fun rel =>
          [Query.byRelation rel, Query.byRelationAugmented rel]).map (·.methodName)).Perm
        ((r.relations.map (·.accessorName)).map lookupName ++
          ((r.relations.map (·.accessorName)).map Naming.augmentedName).map lookupName) := by
      have hsplit := List.flatMap_append_perm r.relations (fun rel => [lookupName rel.accessorName])
        fun rel => [lookupName (Naming.augmentedName rel.accessorName)]
      rw [← List.map_eq_flatMap, ← List.map_eq_flatMap] at hsplit
      have hnames : ∀ rel : Relation, lookupName (Naming.augmentedName rel.accessorName) =
          (Query.byRelationAugmented rel).methodName := fun rel => (String.append_assoc ..).symm
      simp only [hnames] at hsplit
      simp only [List.map_flatMap, List.map_map]
      exact hsplit.symm
    simp only [if_true, List.map_append]
    show (["All", "ByID"] ++ ["AllAugmented", "ByIDAugmented"] ++ _ ++ ["Store", "DeleteByID"]).Perm
      (["All", "Store", "DeleteByID"] ++ ["AllAugmented"] ++ ("ByID" :: _ ++ "ByIDAugmented" :: _))
    grind

/-- The lookups of an entity whose fields have different names differ, since no relation is the identity. -/
lemma nodup_lookups {table : String} (h : (r.entity.fields.map (·.name)).Nodup)
    (hrelations : r.relations = Relation.ofEntity r.entity table) : r.lookups.Nodup := by
  have hfields : r.entity.fields.Pairwise fun f g => f.name ≠ g.name := List.pairwise_map.mp h
  rw [lookups, hrelations, List.nodup_cons]
  constructor
  · intro hmem
    obtain ⟨rel, hrel, heq⟩ := List.mem_map.mp hmem
    obtain ⟨f, hf, joined, -, rfl⟩ := Relation.mem_ofEntity_iff.mp hrel
    have hother := (List.mem_filter.mp hf).2
    simp [Field.isIdentity] at hother
    exact hother heq
  · apply List.pairwise_map.mpr
    apply hfields.filterMap
    intro f g hne rel hrel rel' hrel'
    rwa [Relation.accessorName_eq hrel, Relation.accessorName_eq hrel']

/-- The keys differ from each other when the lookups do and no two of them clash. -/
lemma nodup_keys_iff (h : r.lookups.Nodup) : r.keys.Nodup ↔ ¬ r.Clashes := by
  unfold keys Clashes
  cases r.entity.isAugmented with
  | false => simpa using h
  | true =>
    rw [if_pos rfl, List.nodup_append', and_iff_right h, List.nodup_map_iff Naming.augmentedName_injective,
      and_iff_right h, List.disjoint_left]
    simp only [List.mem_map, not_exists, not_and, true_and]
    exact ⟨fun h key hkey hmem => h hmem key hkey rfl, fun h a ha key hkey heq => h key hkey (heq ▸ ha)⟩

/-- For every entity whose fields have different names, and every table, the names of the methods differ from
each other exactly when no lookup of an augmented entity is called like the augmented form of another one. The
file of the repository declares the methods of these names, if its names stand on one line and no relation is
called with a parenthesis. -/
theorem nodup_methodNames_iff {table : String} (h : (r.entity.fields.map (·.name)).Nodup)
    (hrelations : r.relations = Relation.ofEntity r.entity table) :
    (r.methodNames.Nodup ↔ ¬ r.Clashes) ∧
      ((∀ q ∈ r.queries, Unbroken (q.writtenNames r)) →
        (∀ rel ∈ r.relations, '(' ∉ rel.accessorName.toList) →
        (declarations r.typeName r.file).map (·.1) = r.methodNames) := by
  refine ⟨?_, fun hwritten hplain => ?_⟩
  · have hkeys := nodup_keys_iff (nodup_lookups h hrelations)
    rw [(methodNames_perm _).nodup_iff, List.nodup_append', and_iff_right nodup_fixedNames,
      List.nodup_map_iff lookupName_injective, hkeys]
    apply and_iff_left
    rw [List.disjoint_left]
    intro name hfixed hlookup
    obtain ⟨key, -, rfl⟩ := List.mem_map.mp hlookup
    exact lookupName_notMem_fixedNames key hfixed
  · rw [declarations_file hwritten hplain, List.map_map]
    rfl

/-- The repository of an order in which these fields of text are stored, with its augmented sibling. -/
def ofOrder (fields : List (String × String)) : Repository :=
  let order : Entity :=
    ⟨"Order", fields.map fun (name, column) => ⟨name, .value "string", "", column⟩, true⟩
  ⟨order, Relation.ofEntity order "order", ⟨"order", "domain", false, false⟩⟩

/-- An order that refers to its buyer. -/
def byBuyer : Repository := ofOrder [("ID", "id"), ("Buyer", "buyer_id")]

/-- The order is looked up by its buyer in both forms. -/
theorem nodup_methodNames_byBuyer :
    (byBuyer.entity.fields.map (·.name)).Nodup ∧
    byBuyer.methodNames = ["All", "ByID", "AllAugmented", "ByIDAugmented", "ByBuyer", "ByBuyerAugmented",
      "Store", "DeleteByID"] ∧
    ((declarations byBuyer.typeName byBuyer.file).map (·.1)).Nodup := by
  have hfields : (byBuyer.entity.fields.map (·.name)).Nodup := by decide
  have hrelations : byBuyer.relations = Relation.ofEntity byBuyer.entity "order" := rfl
  obtain ⟨hiff, hdeclared⟩ := nodup_methodNames_iff hfields hrelations
  have hnames := hdeclared (by decide) (by decide)
  have hnodup := hiff.mpr (by decide)
  rw [← hnames] at hnodup
  exact ⟨hfields, by decide, hnodup⟩

/-- An order with two relations, one of them called like the augmented form of the other. -/
def byBuyerTwice : Repository := ofOrder [("Buyer", "buyer_id"), ("BuyerAugmented", "payer_id")]

/-- The order has two methods of one name. -/
theorem not_nodup_methodNames_byBuyerTwice :
    (byBuyerTwice.entity.fields.map (·.name)).Nodup ∧
    (declarations byBuyerTwice.typeName byBuyerTwice.file).map (·.1) = ["All", "ByID", "AllAugmented",
      "ByIDAugmented", "ByBuyer", "ByBuyerAugmented", "ByBuyerAugmented", "ByBuyerAugmentedAugmented",
      "Store", "DeleteByID"] ∧
    ¬ byBuyerTwice.methodNames.Nodup := by
  refine ⟨by decide, ?_, by decide⟩
  rw [declarations_file (by decide) (by decide)]
  decide

end Names

end Repository

end DeclGen
