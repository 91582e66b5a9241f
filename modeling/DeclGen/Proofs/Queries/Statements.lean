import DeclGen.Generate.Statement
import DeclGen.Proofs.Text.Lines

/-!
# Lines of statements

What stands in the lines of a statement. Apart from fixed words a statement is made of the names of
tables and columns (`Statement.names`) and of one `?` for each argument (`Statement.placeholders`), so a
character that no fixed word holds stands in it as often as in these (`Statement.count_texts`).
-/

namespace DeclGen

open Text

namespace Condition

/-- The names in a condition. -/
def names : Condition → List String
  | live table => table.toList
  | equalsArgument table column => table.toList ++ [column]

/-- The arguments that a condition asks for. -/
def placeholders : Condition → Nat
  | live _ => 0
  | equalsArgument _ _ => 1

end Condition

namespace Statement

/-- The names in a statement, as often as they are written. -/
def names : Statement → List String
  | select table joins first others _ =>
    (table :: joins.map (·.table)) ++ [table] ++
    joins.flatMap (fun j => [j.table, table, j.column, j.table, j.table]) ++
    (first :: others).flatMap (·.names)
  | insert table columns => table :: columns
  | softDelete table key => [table, key]

/-- The arguments that a statement asks for. -/
def placeholders : Statement → Nat
  | select _ _ first others _ => ((first :: others).map (·.placeholders)).sum
  | insert _ columns => columns.length
  | softDelete _ _ => 1

/-! ## The lines -/

@[simp] lemma texts_filterLines (first : Condition) (others : List Condition) :
    (filterLines first others).texts =
      ("WHERE " ++ first.text) :: others.map fun c => "AND " ++ c.text := by
  simp [filterLines]

@[simp] lemma texts_joinLines (table : String) (j : Join) :
    (joinLines table j).texts = ["LEFT JOIN " ++ j.table,
      "ON " ++ table ++ "." ++ j.column ++ " = " ++ j.table ++ "." ++ Naming.identityColumn,
      "AND " ++ (Condition.live (some j.table)).text] := by
  simp [joinLines]

lemma texts_select (table : String) (joins : List Join) (first : Condition) (others : List Condition)
    (single : Bool) :
    (select table joins first others single).lines.texts =
      ("SELECT " ++ selectList table joins) :: ("FROM " ++ table) ::
        (joins.flatMap (fun j => (joinLines table j).texts) ++ (filterLines first others).texts ++
          if single then ["LIMIT 1"] else []) := by
  simp [lines]

lemma texts_insert (table : String) (columns : List String) :
    (insert table columns).lines.texts =
      ["INSERT INTO " ++ table, "(" ++ ", ".intercalate columns ++ ")", "VALUES",
        "(" ++ ", ".intercalate (columns.map fun _ => "?") ++ ")"] := by
  simp [lines]

lemma texts_softDelete (table key : String) :
    (softDelete table key).lines.texts =
      ["UPDATE " ++ table, "SET " ++ Naming.deletedColumn ++ " = NOW()", "WHERE " ++ key ++ " = ?",
        "AND " ++ Naming.deletedColumn ++ " IS NULL", "LIMIT 1"] := by
  simp [lines, Condition.text, Condition.columnOf, String.append_assoc]

/-- The characters with which the lines of a statement begin. -/
def ownHeads : Statement → List Char
  | select _ _ _ _ _ => ['S', 'F', 'L', 'O', 'A', 'W']
  | insert _ _ => ['I', '(', 'V']
  | softDelete _ _ => ['U', 'S', 'W', 'A', 'L']

/-- The characters with which lines of statements begin. -/
def heads : List Char := ['S', 'F', 'L', 'O', 'A', 'W', 'I', 'V', 'U', '(']

lemma head?_mem_ownHeads (s : Statement) :
    ∀ t ∈ s.lines.texts, ∃ c ∈ s.ownHeads, t.toList.head? = some c := by
  cases s with
  | select table joins first others single =>
    have hjoin : ∀ j : Join, ∀ t ∈ (joinLines table j).texts,
        ∃ c ∈ (select table joins first others single).ownHeads, t.toList.head? = some c := by
      simp [ownHeads]
    intro t ht
    simp only [texts_select, List.mem_cons, List.mem_append, List.mem_flatMap] at ht
    obtain rfl | rfl | (⟨j, -, ht⟩ | ht) | ht := ht
    · simp [ownHeads]
    · simp [ownHeads]
    · exact hjoin j t ht
    · revert t
      simp [ownHeads]
    · cases single <;> simp_all [ownHeads]
  | insert table columns => simp [texts_insert, ownHeads]
  | softDelete table key => simp [texts_softDelete, ownHeads]

lemma head?_mem_heads (s : Statement) : ∀ t ∈ s.lines.texts, ∃ c ∈ heads, t.toList.head? = some c := by
  have hsub : ∀ c ∈ s.ownHeads, c ∈ heads := by cases s <;> simp [ownHeads, heads]
  intro t ht
  obtain ⟨c, hc, hhead⟩ := head?_mem_ownHeads s t ht
  exact ⟨c, hsub c hc, hhead⟩

/-- A line that does not begin like a line of a statement. -/
def Outside (t : String) : Prop := ∀ c ∈ t.toList.head?, c ∉ heads

lemma Outside.not_beginsWith {t word : String} (h : Outside t) {c : Char}
    (hword : word.toList.head? = some c) (hc : c ∈ heads) : beginsWith word t = false :=
  Bool.eq_false_iff.mpr fun hbegins => h c (head?_of_beginsWith hbegins hword) hc

/-! ## What the lines are made of -/

/-- The fixed words of statements. -/
def words : List String :=
  ["SELECT ", "FROM ", "LEFT JOIN ", "ON ", "AND ", "WHERE ", "LIMIT 1", "INSERT INTO ", "VALUES", "UPDATE ",
    "SET ", " = NOW()", " = ", " IS NULL", ".", ".*", ", ", "(", ")", Naming.identityColumn,
    Naming.deletedColumn]

/-- No fixed word holds the character. -/
def IsForeign (c : Char) : Prop := ∀ w ∈ words, occurrences c w = 0

instance (c : Char) : Decidable (IsForeign c) := inferInstanceAs (Decidable (∀ w ∈ words, _))

section Count

variable {c : Char}

lemma occurrences_condition (h : IsForeign c) (condition : Condition) :
    occurrences c condition.text =
      (condition.names.map (occurrences c)).sum + condition.placeholders * occurrences c "?" := by
  have hequals : occurrences c " = ?" = occurrences c " = " + occurrences c "?" :=
    occurrences_append c " = " "?"
  simp only [IsForeign, words, List.forall_mem_cons] at h
  cases condition with
  | live table => cases table <;> simp [Condition.text, Condition.columnOf, Condition.names,
      Condition.placeholders, h]
  | equalsArgument table column => cases table <;> simp [Condition.text, Condition.columnOf,
      Condition.names, Condition.placeholders, hequals, h]

/-- Conditions behind a word hold what the conditions hold. -/
lemma count_conditions (h : IsForeign c) (conditions : List Condition) :
    ((conditions.map fun condition => "AND " ++ condition.text).map (occurrences c)).sum =
      ((conditions.flatMap (·.names)).map (occurrences c)).sum +
        (conditions.map (·.placeholders)).sum * occurrences c "?" := by
  have hand : occurrences c "AND " = 0 := h _ (by decide)
  induction conditions with
  | nil => simp
  | cons condition rest ih =>
    simp only [List.map_cons, List.sum_cons, List.flatMap_cons, List.map_append, List.sum_append, ih,
      occurrences_append, occurrences_condition h, hand, Nat.add_mul]
    omega

/-- Joins hold the names of their tables and columns. -/
lemma count_joins (h : IsForeign c) (table : String) (joins : List Join) :
    ((joins.flatMap fun j => (joinLines table j).texts).map (occurrences c)).sum =
      ((joins.flatMap fun j => [j.table, table, j.column, j.table, j.table]).map (occurrences c)).sum := by
  have hlive := occurrences_condition h
  simp only [IsForeign, words, List.forall_mem_cons] at h
  induction joins with
  | nil => rfl
  | cons j rest ih =>
    simp only [List.flatMap_cons, List.map_append, List.sum_append, ih]
    simp [hlive, Condition.names, Condition.placeholders, h]
    omega

/-- Outside its fixed words a statement holds what its names hold, and a mark for each argument. -/
lemma count_texts (h : IsForeign c) (s : Statement) :
    (s.lines.texts.map (occurrences c)).sum =
      (s.names.map (occurrences c)).sum + s.placeholders * occurrences c "?" := by
  have hcondition := occurrences_condition h
  have hconditions := count_conditions h
  have hjoins := count_joins h
  have hcomma : occurrences c ", " = 0 := h _ (by decide)
  simp only [IsForeign, words, List.forall_mem_cons] at h
  -- counts add up line by line, and the fixed words of a line count nothing
  cases s with
  | select table joins first others single =>
    have hlimit : ((if single then ["LIMIT 1"] else []).map (occurrences c)).sum = 0 := by
      cases single <;> simp [h]
    have hlist : occurrences c (selectList table joins) =
        ((table :: joins.map (·.table)).map (occurrences c)).sum := by
      rw [selectList, occurrences_intercalate hcomma, List.map_map]
      simp [Function.comp_def, h]
    simp only [texts_select, texts_filterLines, List.map_cons, List.map_append, List.sum_cons,
      List.sum_append, hlimit, hjoins, hconditions, occurrences_append, hcondition, hlist, names,
      placeholders, h, List.flatMap_cons, List.map_nil, List.sum_nil, Nat.add_mul]
    omega
  | insert table columns =>
    have hmarks : occurrences c (", ".intercalate (columns.map fun _ => "?")) =
        columns.length * occurrences c "?" := by
      rw [occurrences_intercalate hcomma, List.map_map]
      simp [Function.comp_def]
    simp only [texts_insert, List.map_cons, List.map_nil, List.sum_cons, List.sum_nil,
      occurrences_append, occurrences_intercalate hcomma columns, hmarks, names, placeholders, h]
    omega
  | softDelete table key =>
    have hequals : occurrences c " = ?" = occurrences c " = " + occurrences c "?" :=
      occurrences_append c " = " "?"
    simp only [texts_softDelete, List.map_cons, List.map_nil, List.sum_cons, List.sum_nil,
      occurrences_append, hequals, names, placeholders, h]
    omega

end Count

end Statement

end DeclGen
