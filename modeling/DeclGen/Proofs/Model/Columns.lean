import DeclGen.Generate.Queries
import DeclGen.Proofs.Text.Lines

/-!
# Columns and relations

A column is written in a statement with or without the name of its table in front, and a column that refers
to another entity names it. Both are cuttings of the column, so that what can stand in them is known from
the columns of the entity.
-/

namespace DeclGen

open Text

/-! ## Written columns -/

/-- The column has the name of the table in front of it, and something behind the low line that follows. -/
def IsPrefixed (table column : String) : Prop := ∃ rest, rest ≠ "" ∧ column = table ++ "_" ++ rest

lemma isPrefixed_iff {table column : String} :
    IsPrefixed table column ↔ ∃ rest, rest ≠ "" ∧ afterHead? (table ++ "_") column = some rest := by
  simp only [IsPrefixed, afterHead?_eq_some_iff]

instance (table column : String) : Decidable (IsPrefixed table column) :=
  decidable_of_iff ((afterHead? (table ++ "_") column).any (· != "")) (by
    rw [isPrefixed_iff, Option.any_eq_true]
    simp [and_comm])

lemma stripTablePrefix_append {table rest : String} (h : rest ≠ "") :
    stripTablePrefix (table ++ "_" ++ rest) table = rest := by
  have hcut : afterHead? (table ++ "_") (table ++ "_" ++ rest) = some rest := afterHead?_eq_some_iff.mpr rfl
  simp [stripTablePrefix, hcut, h]

lemma stripTablePrefix_of_not_isPrefixed {table column : String} (h : ¬ IsPrefixed table column) :
    stripTablePrefix column table = column := by
  rw [isPrefixed_iff] at h
  unfold stripTablePrefix
  cases hcut : afterHead? (table ++ "_") column with
  | none => rfl
  | some rest =>
    have hempty : rest = "" := by
      by_contra hrest
      exact h ⟨rest, hrest, hcut⟩
    simp [hempty]

/-- What is left of a column is known from whether the table's name is in front of it. -/
lemma stripTablePrefix_eq_iff {table column left : String} :
    stripTablePrefix column table = left ↔
      (left ≠ "" ∧ column = table ++ "_" ++ left) ∨ (column = left ∧ ¬ IsPrefixed table column) := by
  by_cases hprefixed : IsPrefixed table column
  · obtain ⟨rest, hrest, rfl⟩ := hprefixed
    have hother : ¬ (table ++ "_" ++ rest = left ∧ ¬ IsPrefixed table (table ++ "_" ++ rest)) :=
      fun h => h.2 ⟨rest, hrest, rfl⟩
    rw [stripTablePrefix_append hrest, or_iff_left hother, String.append_right_inj]
    exact ⟨fun h => ⟨h ▸ hrest, h⟩, fun h => h.2⟩
  · have hother : ¬ (left ≠ "" ∧ column = table ++ "_" ++ left) := fun h => hprefixed ⟨left, h⟩
    rw [stripTablePrefix_of_not_isPrefixed hprefixed, or_iff_right hother, and_iff_left hprefixed]

/-- A column is either kept, or what follows the table and a low line. -/
lemma stripTablePrefix_cases (column table : String) :
    stripTablePrefix column table = column ∨
      (stripTablePrefix column table ≠ "" ∧ column = table ++ "_" ++ stripTablePrefix column table) := by
  obtain hcut | ⟨hkept, -⟩ := stripTablePrefix_eq_iff.mp (rfl : stripTablePrefix column table = _)
  · exact .inr hcut
  · exact .inl hkept.symm

lemma mem_of_mem_stripTablePrefix {column table : String} {c : Char}
    (h : c ∈ (stripTablePrefix column table).toList) : c ∈ column.toList := by
  obtain heq | ⟨-, heq⟩ := stripTablePrefix_cases column table
  · rwa [heq] at h
  · rw [heq, String.toList_append]
    exact List.mem_append_right _ h

/-- A written column holds nothing that the column does not. -/
lemma QueryOptions.mem_of_mem_column {o : QueryOptions} {column : String} {c : Char}
    (h : c ∈ (o.column column).toList) : c ∈ column.toList := by
  unfold QueryOptions.column at h
  split at h
  · exact mem_of_mem_stripTablePrefix h
  · exact h

namespace Relation

/-- A column refers to the entity named by what stands in front of the relation ending, without the name of the
table, unless that is nothing or the table itself. -/
lemma joinedEntityName?_eq_some_iff {column table joined : String} :
    joinedEntityName? column table = some joined ↔
      (∃ stem, column = stem ++ Naming.relationTail ∧ joined = stripTablePrefix stem table) ∧
        joined ≠ "" ∧ joined ≠ table := by
  unfold joinedEntityName?
  cases hcut : beforeTail? Naming.relationTail column with
  | none =>
    have hother : ∀ stem, column ≠ stem ++ Naming.relationTail := by
      intro stem hstem
      rw [beforeTail?_eq_some_iff.mpr hstem] at hcut
      cases hcut
    simp [hother]
  | some stem =>
    obtain rfl := beforeTail?_eq_some_iff.mp hcut
    simp only [String.append_left_inj, exists_eq_left']
    by_cases hnone : stripTablePrefix stem table = "" ∨ stripTablePrefix stem table = table
    · rw [if_pos (by simpa using hnone)]
      simp only [reduceCtorEq, false_iff, not_and]
      rintro rfl hempty
      exact not_not_intro (hnone.resolve_left hempty)
    · rw [if_neg (by simpa using hnone), Option.some.injEq, eq_comm]
      rw [not_or] at hnone
      exact ⟨fun h => ⟨h, h ▸ hnone⟩, And.left⟩

lemma joinedEntityName?_eq_some {column table joined : String}
    (h : joinedEntityName? column table = some joined) :
    ∃ stem, column = stem ++ Naming.relationTail ∧ joined = stripTablePrefix stem table :=
  (joinedEntityName?_eq_some_iff.mp h).1

/-- The relations of an entity come from its fields other than the identity. -/
lemma mem_ofEntity_iff {e : Entity} {table : String} {rel : Relation} :
    rel ∈ ofEntity e table ↔
      ∃ f ∈ e.insertableFields, ∃ joined, joinedEntityName? f.column table = some joined ∧
        rel = ⟨f.name, f.column, joined⟩ := by
  simp only [ofEntity, List.mem_filterMap, ofField?, Entity.insertableFields, List.mem_filter]
  constructor
  · rintro ⟨f, hf, h⟩
    split at h
    · cases h
    · rename_i hidentity
      obtain ⟨joined, hjoined, rfl⟩ := Option.map_eq_some_iff.mp h
      exact ⟨f, ⟨hf, by simpa using hidentity⟩, joined, hjoined, rfl⟩
  · rintro ⟨f, ⟨hf, hidentity⟩, joined, hjoined, rfl⟩
    have hother : f.isIdentity = false := by simpa using hidentity
    exact ⟨f, hf, by simp [hother, hjoined]⟩

end Relation

/-- What a joined entity's name holds stands in the column as it is written, or in the table's name with its
low line. -/
lemma QueryOptions.mem_column_of_mem_joined {o : QueryOptions} {column joined : String} {c : Char}
    (h : Relation.joinedEntityName? column o.table = some joined) (hc : c ∈ joined.toList) :
    c ∈ (o.column column).toList ∨ c ∈ (o.table ++ "_").toList := by
  obtain ⟨stem, rfl, rfl⟩ := Relation.joinedEntityName?_eq_some h
  have hstem : c ∈ stem.toList := mem_of_mem_stripTablePrefix hc
  unfold QueryOptions.column
  split
  · obtain heq | ⟨-, heq⟩ := stripTablePrefix_cases (stem ++ Naming.relationTail) o.table
    · exact .inl (by simp [heq, hstem])
    · -- the table's name ends in front of the stem's end, or behind it
      have hlists := congrArg String.toList heq
      rw [String.toList_append, String.toList_append, List.append_eq_append_iff] at hlists
      obtain ⟨rest, htable, -⟩ | ⟨rest, hcut, hwritten⟩ := hlists
      · exact .inr (by simp [htable, hstem])
      · rw [hcut, List.mem_append] at hstem
        obtain hmem | hmem := hstem
        · exact .inr hmem
        · exact .inl (by simp [hwritten, hmem])
  · exact .inl (by simp [hstem])

/-- The repository of an entity with the relations that its columns say. -/
def Entity.repository (e : Entity) (options : QueryOptions) : Repository :=
  ⟨e, Relation.ofEntity e options.table, options⟩

end DeclGen
