import DeclGen.Proofs.Queries.Literals
import Mathlib.Data.List.Nodup

/-!
# Columns of inserts

The statement that adds a row lists the columns of the fields that it stores, which may lose the name of the table.
Two columns become one by that when one of them is the other with the table's name in front of it (`Merges`), and
in no other way: columns that differ are listed as different ones, unless two of them are merged
(`Repository.nodup_insertedColumns_iff`).
-/

namespace DeclGen

open Text

/-! ## Merged columns -/

/-- The first column is the second one with the name of the table in front of it, where the second has it not. -/
structure Merges (table long short : String) : Prop where
  spelled : long = table ++ "_" ++ short
  ne_empty : short ≠ ""
  plain : ¬ IsPrefixed table short

instance (table long short : String) : Decidable (Merges table long short) :=
  decidable_of_iff (long = table ++ "_" ++ short ∧ short ≠ "" ∧ ¬ IsPrefixed table short)
    ⟨fun h => ⟨h.1, h.2.1, h.2.2⟩, fun h => ⟨h.spelled, h.ne_empty, h.plain⟩⟩

/-- Merged columns are the same without the name of the table. -/
lemma Merges.stripTablePrefix_eq {table long short : String} (h : Merges table long short) :
    stripTablePrefix long table = stripTablePrefix short table := by
  rw [h.spelled, stripTablePrefix_append h.ne_empty, stripTablePrefix_of_not_isPrefixed h.plain]

/-- Without the name of the table two columns are the same when they were so before, or are merged. -/
lemma stripTablePrefix_eq_stripTablePrefix_iff {table a b : String} :
    stripTablePrefix a table = stripTablePrefix b table ↔ a = b ∨ Merges table a b ∨ Merges table b a := by
  constructor
  · intro heq
    -- both are cut down to the same text, and each of them had the table's name in front of it or not
    obtain ⟨hempty, ha⟩ | ⟨ha, hplain⟩ := stripTablePrefix_eq_iff.mp heq <;>
      obtain ⟨hempty', hb⟩ | ⟨hb, hplain'⟩ :=
        stripTablePrefix_eq_iff.mp (rfl : stripTablePrefix b table = stripTablePrefix b table)
    · exact .inl (ha.trans hb.symm)
    · rw [← hb] at ha hempty
      exact .inr (.inl ⟨ha, hempty, hplain'⟩)
    · rw [← ha] at hb hempty'
      exact .inr (.inr ⟨hb, hempty', hplain⟩)
    · exact .inl (ha.trans hb.symm)
  · rintro (rfl | hmerges | hmerges)
    · rfl
    · exact hmerges.stripTablePrefix_eq
    · exact hmerges.stripTablePrefix_eq.symm

namespace Repository

/-- The columns that the statement which adds a row lists. -/
def insertedColumns (r : Repository) : List String :=
  r.entity.insertableFields.map fun f => r.options.column f.column

/-- Columns lose the name of the table, and by that one inserted column becomes another. -/
def MergesColumns (r : Repository) : Prop :=
  r.options.stripTablePrefix ∧ ∃ f ∈ r.entity.insertableFields, ∃ g ∈ r.entity.insertableFields,
    Merges r.options.table f.column g.column

instance (r : Repository) : Decidable r.MergesColumns := inferInstanceAs (Decidable (_ ∧ _))

section Inserts

variable {r : Repository}

/-- The method that stores a row passes a statement that lists the inserted columns. -/
lemma exists_render_store (r : Repository) :
    ∃ before after, (Query.store.block r).render =
      before ++ "`\n\t\t\tINSERT INTO " ++ r.options.table ++ "\n\t\t\t(" ++ ", ".intercalate r.insertedColumns ++
        ")\n\t\t\tVALUES\n" ++ after := by
  obtain ⟨before, after, hblock⟩ := Query.exists_render_eq r .store
  obtain ⟨marks, hlines⟩ : ∃ marks, (Query.store.statement r).lines.indent.indent.indent =
      [⟨3, "INSERT INTO " ++ r.options.table⟩, ⟨3, "(" ++ ", ".intercalate r.insertedColumns ++ ")"⟩,
        ⟨3, "VALUES"⟩, ⟨3, "(" ++ marks ++ ")"⟩] := ⟨", ".intercalate (r.insertedColumns.map fun _ => "?"), rfl⟩
  have hline : ∀ text : String, text ≠ "" → Line.render ⟨3, text⟩ = "\t\t\t" ++ text ++ "\n" :=
    fun text h => render_line h 3
  have hliteral : Query.store.literal r = "\n" ++ ("\t\t\t" ++ ("INSERT INTO " ++ r.options.table) ++ "\n" ++
      ("\t\t\t" ++ ("(" ++ ", ".intercalate r.insertedColumns ++ ")") ++ "\n" ++
        ("\t\t\t" ++ "VALUES" ++ "\n" ++ ("\t\t\t" ++ ("(" ++ marks ++ ")") ++ "\n" ++ "")))) ++ "\t\t" := by
    rw [Query.literal, hlines, render_cons, render_cons, render_cons, render_cons, render_nil,
      hline _ (by simp), hline _ (by simp), hline _ (by simp), hline _ (by simp)]
  -- the marks and the arguments belong to what stands behind the columns
  refine ⟨before, "\t\t\t(" ++ marks ++ ")\n\t\t`" ++ Query.store.passed r ++ ")\n" ++ after, ?_⟩
  rw [hblock, hliteral, ← String.toList_inj]
  simp

/-- For every entity whose fields have different columns, every table and either setting, the columns that an insert
lists differ from each other exactly when stripping the table's name merges no two of them. The method that stores
a row passes a statement with these columns. -/
theorem nodup_insertedColumns_iff (h : (r.entity.fields.map (·.column)).Nodup) :
    (r.insertedColumns.Nodup ↔ ¬ r.MergesColumns) ∧
      ∃ before after, (Query.store.block r).render =
        before ++ "`\n\t\t\tINSERT INTO " ++ r.options.table ++ "\n\t\t\t(" ++
          ", ".intercalate r.insertedColumns ++ ")\n\t\t\tVALUES\n" ++ after := by
  refine ⟨?_, exists_render_store r⟩
  have hfields : (r.entity.insertableFields.map (·.column)).Nodup := h.sublist (List.filter_sublist.map _)
  have hcolumns : r.insertedColumns = (r.entity.insertableFields.map (·.column)).map r.options.column := by
    rw [List.map_map]
    rfl
  rw [hcolumns, List.nodup_map_iff_inj_on hfields]
  unfold MergesColumns
  cases hstrip : r.options.stripTablePrefix with
  | false =>
    have hkept : ∀ column, r.options.column column = column := fun column => by
      simp [QueryOptions.column, hstrip]
    simp [hkept]
  | true =>
    have hcut : ∀ column, r.options.column column = stripTablePrefix column r.options.table := fun column => by
      simp [QueryOptions.column, hstrip]
    simp only [hcut, stripTablePrefix_eq_stripTablePrefix_iff, true_and]
    constructor
    · rintro hinj ⟨f, hf, g, hg, hmerges⟩
      have heq := hinj _ (List.mem_map_of_mem hf) _ (List.mem_map_of_mem hg) (.inr (.inl hmerges))
      -- a column with the table's name in front of it is not the one without
      exact hmerges.plain (heq ▸ ⟨g.column, hmerges.ne_empty, hmerges.spelled⟩)
    · rintro hnone a ha b hb (heq | hmerges | hmerges)
      · exact heq
      all_goals
        obtain ⟨f, hf, rfl⟩ := List.mem_map.mp ha
        obtain ⟨g, hg, rfl⟩ := List.mem_map.mp hb
      · exact absurd ⟨f, hf, g, hg, hmerges⟩ hnone
      · exact absurd ⟨g, hg, f, hf, hmerges⟩ hnone

end Inserts

/-- The options of a table whose name is stripped from its columns. -/
def strippedOptions (table : String) : QueryOptions := ⟨table, "domain", true, false⟩

/-- An invoice, one column of which has the name of the table in front of it twice. -/
def invoiceEntity : Entity :=
  ⟨"Invoice", [⟨"ID", .value "int64", "", "invoice_id"⟩, ⟨"Total", .value "int64", "", "invoice_total"⟩,
    ⟨"Carried", .value "int64", "", "invoice_invoice_total"⟩, ⟨"Paid", .value "bool", "", "paid"⟩], false⟩

/-- The name of the table is stripped once, so that the columns of an invoice stay apart. -/
theorem nodup_insertedColumns_invoice :
    (invoiceEntity.fields.map (·.column)).Nodup ∧
    (invoiceEntity.repository (strippedOptions "invoice")).insertedColumns =
      ["total", "invoice_total", "paid"] ∧
    (invoiceEntity.repository (strippedOptions "invoice")).insertedColumns.Nodup := by
  have hfields : (invoiceEntity.fields.map (·.column)).Nodup := by decide
  refine ⟨hfields, by decide, ?_⟩
  exact (nodup_insertedColumns_iff (r := invoiceEntity.repository (strippedOptions "invoice")) hfields).1.mpr
    (by decide)

/-- An account with a name, and another name in a column that does not begin like the table. -/
def accountSource : String :=
  "package p;type Account struct\x7bID int64 `db:\"account_id\"`;Name string `db:\"account_name\"`;" ++
    "Nick string `db:\"name\"`\x7d;"

/-- The entity of an account. -/
def accountEntity : Entity :=
  ⟨"Account", [⟨"ID", .value "int64", "db:\"account_id\"", "account_id"⟩,
    ⟨"Name", .value "string", "db:\"account_name\"", "account_name"⟩,
    ⟨"Nick", .value "string", "db:\"name\"", "name"⟩], false⟩

lemma load_accountSource :
    (FileModel.load accountSource {}).report.1 = .ok ⟨"p", [accountEntity], [], []⟩ := by
  have hparse : SourceFile.parse accountSource = .ok ⟨"p", [.struct ⟨"Account",
      [⟨["ID"], .name "int64", some "db:\"account_id\""⟩,
       ⟨["Name"], .name "string", some "db:\"account_name\""⟩,
       ⟨["Nick"], .name "string", some "db:\"name\""⟩]⟩]⟩ := by
    decide +kernel
  rw [FileModel.load_of_parse hparse]
  decide

/-- The columns of an account differ, but an insert lists one column twice. -/
theorem not_nodup_insertedColumns_account :
    ∃ model, (FileModel.load accountSource {}).report.1 = .ok model ∧ ∃ e ∈ model.entities,
      (e.fields.map (·.column)).Nodup ∧
      ¬ (e.repository (strippedOptions "account")).insertedColumns.Nodup ∧
      ∃ before after, (Query.store.block (e.repository (strippedOptions "account"))).render =
        before ++ "`\n\t\t\tINSERT INTO account\n\t\t\t(name, name)\n\t\t\tVALUES\n" ++ after := by
  refine ⟨_, load_accountSource, accountEntity, List.mem_singleton_self _, by decide, by decide, ?_⟩
  obtain ⟨before, after, hblock⟩ := exists_render_store (accountEntity.repository (strippedOptions "account"))
  have hcolumns : (accountEntity.repository (strippedOptions "account")).insertedColumns = ["name", "name"] := by
    decide
  refine ⟨before, after, ?_⟩
  rw [hblock, hcolumns, ← String.toList_inj]
  simp [Entity.repository, strippedOptions]

end Repository

end DeclGen
