import DeclGen.Proofs.Model.Columns
import Mathlib.Data.List.Forall2
import Mathlib.Data.Set.Subsingleton

/-!
# References of columns

Which entity a column refers to is a matter of its spelling alone: the name of the entity stands in front of
`_id`, behind the name of the table and a low line when the column begins so (`Relation.Refers`). A column is
spelled like that in one way at most, and the relations of an entity are those of its fields that are
(`Relation.forall₂_ofEntity`).
-/

namespace DeclGen

namespace Relation

/-- A column of the table is spelled as a reference to the entity `joined`, which is not the table itself. A name
that begins like a column of the table only counts as what stands behind that beginning. -/
structure Refers (table column joined : String) : Prop where
  ne_empty : joined ≠ ""
  ne_table : joined ≠ table
  spelled : column = table ++ "_" ++ joined ++ "_id" ∨ column = joined ++ "_id" ∧ ¬ IsPrefixed table joined

/-- What is found in a column is what it is spelled as. -/
lemma joinedEntityName?_eq_some_iff_refers {table column joined : String} :
    joinedEntityName? column table = some joined ↔ Refers table column joined := by
  rw [joinedEntityName?_eq_some_iff]
  constructor
  · rintro ⟨⟨stem, rfl, hcut⟩, hempty, htable⟩
    refine ⟨hempty, htable, ?_⟩
    obtain ⟨-, rfl⟩ | ⟨rfl, hplain⟩ := stripTablePrefix_eq_iff.mp hcut.symm
    · exact .inl rfl
    · exact .inr ⟨rfl, hplain⟩
  · rintro ⟨hempty, htable, rfl | ⟨rfl, hplain⟩⟩
    · exact ⟨⟨_, rfl, (stripTablePrefix_append hempty).symm⟩, hempty, htable⟩
    · exact ⟨⟨_, rfl, (stripTablePrefix_of_not_isPrefixed hplain).symm⟩, hempty, htable⟩

/-- A column refers to one entity at most. -/
lemma subsingleton_refers (table column : String) : {joined | Refers table column joined}.Subsingleton := by
  intro a ha b hb
  have hfound := joinedEntityName?_eq_some_iff_refers.mpr ha
  rw [joinedEntityName?_eq_some_iff_refers.mpr hb] at hfound
  exact (Option.some.inj hfound).symm

instance (table column : String) : Decidable (∃ joined, Refers table column joined) :=
  decidable_of_iff (joinedEntityName? column table).isSome (by
    simp only [Option.isSome_iff_exists, joinedEntityName?_eq_some_iff_refers])

/-- The field refers to an entity: it is not the identity, and its column is spelled as a reference. -/
def IsReference (table : String) (f : Field) : Prop := f.name ≠ "ID" ∧ ∃ joined, Refers table f.column joined

instance (table : String) : DecidablePred (IsReference table) := fun _ => inferInstanceAs (Decidable (_ ∧ _))

/-- The relation is called like the field, and refers from its column to the entity that the column is spelled
as a reference to. -/
structure IsOfField (table : String) (f : Field) (rel : Relation) : Prop where
  accessor : rel.accessorName = f.name
  column : rel.columnName = f.column
  refers : Refers table f.column rel.joinedEntityName

/-- A field has a relation exactly when it refers to an entity, and then the one of its column. -/
lemma ofField?_eq_some_iff {table : String} {f : Field} {rel : Relation} :
    ofField? table f = some rel ↔ f.name ≠ "ID" ∧ IsOfField table f rel := by
  unfold ofField?
  by_cases hidentity : f.isIdentity
  · have hname : f.name = "ID" := beq_iff_eq.mp hidentity
    simp [hidentity, hname]
  · have hname : f.name ≠ "ID" := fun heq => hidentity (beq_iff_eq.mpr heq)
    rw [if_neg hidentity, and_iff_right hname, Option.map_eq_some_iff]
    constructor
    · rintro ⟨joined, hjoined, rfl⟩
      exact ⟨rfl, rfl, joinedEntityName?_eq_some_iff_refers.mp hjoined⟩
    · rintro ⟨haccessor, hcolumn, hrefers⟩
      refine ⟨rel.joinedEntityName, joinedEntityName?_eq_some_iff_refers.mpr hrefers, ?_⟩
      rw [← haccessor, ← hcolumn]

lemma ofField?_eq_none_iff {table : String} {f : Field} : ofField? table f = none ↔ ¬ IsReference table f := by
  rw [← not_iff_not, not_not, ← ne_eq, Option.ne_none_iff_exists']
  simp only [ofField?_eq_some_iff]
  constructor
  · rintro ⟨rel, hname, hrel⟩
    exact ⟨hname, rel.joinedEntityName, hrel.refers⟩
  · rintro ⟨hname, joined, hrefers⟩
    exact ⟨⟨f.name, f.column, joined⟩, hname, rfl, rfl, hrefers⟩

/-- For every entity and table the relations are one for each field that refers to an entity, in order of the
fields, and a column refers to one entity at most. -/
theorem forall₂_ofEntity (e : Entity) (table : String) :
    List.Forall₂ (IsOfField table) (e.fields.filter (IsReference table ·)) (ofEntity e table) ∧
      ∀ column, {joined | Refers table column joined}.Subsingleton := by
  refine ⟨?_, subsingleton_refers table⟩
  unfold ofEntity
  induction e.fields with
  | nil => exact .nil
  | cons f rest ih =>
    cases hrel : ofField? table f with
    | none =>
      have hother : ¬ IsReference table f := ofField?_eq_none_iff.mp hrel
      rw [List.filter_cons_of_neg (by simpa using hother), List.filterMap_cons_none hrel]
      exact ih
    | some rel =>
      obtain ⟨hname, hof⟩ := ofField?_eq_some_iff.mp hrel
      have hreference : IsReference table f := ⟨hname, rel.joinedEntityName, hof.refers⟩
      rw [List.filter_cons_of_pos (by simpa using hreference), List.filterMap_cons_some hrel]
      exact .cons hof ih

/-- The name of the table is taken off once, also where it is the beginning of what remains. -/
example : (ofEntity ⟨"Order", [⟨"ID", .value "int", "", "order_id"⟩, ⟨"Self", .value "int", "", "order_id"⟩,
      ⟨"Next", .value "int", "", "order_order_id"⟩, ⟨"Buyer", .value "int", "", "order_order_buyer_id"⟩,
      ⟨"Payer", .value "int", "", "order__id"⟩], false⟩ "order").map (·.joinedEntityName) =
    ["order_buyer", "order_"] := by
  decide

end Relation

end DeclGen
