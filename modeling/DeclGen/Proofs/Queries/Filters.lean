import DeclGen.Proofs.Queries.Blocks

/-!
# Live rows only

Apart from the method that adds a row, no method reaches a row that is marked as deleted
(`Repository.reachesLive_readLines`). This is said of the lines of the generated text: the one line that begins a
filter and the conditions that follow it, each join with its two lines, and the columns outside the list of
what is selected. It holds whatever the names are, as long as none of them breaks a line.
-/

namespace DeclGen

open Text

/-! ## Reading statements -/

namespace Query

/-- The conditions of a filter: what stands behind its word, and what stands behind the word that goes on with
it on the lines directly below. -/
def readConditions (ls : List String) : List String :=
  match ls.dropWhile fun l => !beginsWith "WHERE " l with
  | [] => []
  | l :: rest =>
    (afterHead? "WHERE " l).toList ++ (rest.takeWhile (beginsWith "AND ")).filterMap (afterHead? "AND ")

/-- Each line that begins a join, with the two lines below it. -/
def readJoins : List String → List (List String)
  | [] => []
  | l :: ls => if beginsWith "LEFT JOIN " l then (l :: ls.take 2) :: readJoins ls else readJoins ls

/-- The lines of a statement that reads rows, up to the quote that closes it. -/
def readSelect (ls : List String) : List String :=
  (ls.dropWhile fun l => !beginsWith "SELECT " l).takeWhile fun l => !beginsWith "`" l

end Query

/-- A line in which every column is named together with its table. -/
inductive IsQualified (tables columns : List String) : String → Prop
  | source {t : String} : t ∈ tables → IsQualified tables columns ("FROM " ++ t)
  | join {t : String} : t ∈ tables → IsQualified tables columns ("LEFT JOIN " ++ t)
  | matching {t c t' c' : String} : t ∈ tables → c ∈ columns → t' ∈ tables → c' ∈ columns →
      IsQualified tables columns ("ON " ++ t ++ "." ++ c ++ " = " ++ t' ++ "." ++ c')
  | isNull {word t c : String} : word ∈ ["WHERE ", "AND "] → t ∈ tables → c ∈ columns →
      IsQualified tables columns (word ++ t ++ "." ++ c ++ " IS NULL")
  | argument {word t c : String} : word ∈ ["WHERE ", "AND "] → t ∈ tables → c ∈ columns →
      IsQualified tables columns (word ++ t ++ "." ++ c ++ " = ?")
  | limit : IsQualified tables columns "LIMIT 1"

/-! ## Statements among other lines -/

namespace Statement

/-- The conditions on the rows that a statement reaches. -/
def conditions : Statement → List Condition
  | select _ _ first others _ => first :: others
  | insert _ _ => []
  | softDelete _ key => [.equalsArgument none key, .live none]

/-- The joins of a statement. -/
def joins : Statement → List Join
  | select _ joins _ _ _ => joins
  | insert _ _ | softDelete _ _ => []

/-- The table of a statement. -/
def table : Statement → String
  | select table _ _ _ _ | insert table _ | softDelete table _ => table

/-- The lines of a statement with conditions around those of its filter. -/
lemma exists_filter {s : Statement} (h : s.conditions ≠ []) :
    ∃ top first others bottom, s.conditions = first :: others ∧
      s.lines.texts = top ++ ("WHERE " ++ first.text) ::
        (others.map (fun c => "AND " ++ c.text) ++ bottom) ∧
      (∀ t ∈ top ++ bottom, beginsWith "WHERE " t = false) ∧
      ∀ t ∈ bottom, beginsWith "AND " t = false := by
  cases s with
  | insert table columns => exact absurd rfl h
  | softDelete table key =>
    refine ⟨["UPDATE " ++ table, "SET " ++ Naming.deletedColumn ++ " = NOW()"],
      .equalsArgument none key, [.live none], ["LIMIT 1"], rfl, rfl, ?_, ?_⟩
    · simp [beginsWith, List.isPrefixOf]
    · simp [beginsWith, List.isPrefixOf]
  | select table joins first others single =>
    refine ⟨("SELECT " ++ selectList table joins) :: ("FROM " ++ table) ::
        joins.flatMap (fun j => (joinLines table j).texts), first, others,
      if single then ["LIMIT 1"] else [], rfl, ?_, ?_, ?_⟩
    · simp [texts_select]
    · have hjoin : ∀ j : Join, ∀ t ∈ (joinLines table j).texts, beginsWith "WHERE " t = false := by
        simp [beginsWith, List.isPrefixOf]
      intro t ht
      simp only [List.cons_append, List.mem_cons, List.mem_append, List.mem_flatMap] at ht
      obtain rfl | rfl | ⟨j, -, hj⟩ | ht := ht
      · simp [beginsWith, List.isPrefixOf]
      · simp [beginsWith, List.isPrefixOf]
      · exact hjoin j t hj
      · cases single <;> simp_all [beginsWith, List.isPrefixOf]
    · cases single <;> simp [beginsWith, List.isPrefixOf]

end Statement

namespace Query

open Statement

section Reading

variable {a b : List String}

lemma readJoins_append_of_none (h : ∀ t ∈ a, beginsWith "LEFT JOIN " t = false) :
    readJoins (a ++ b) = readJoins b := by
  induction a with
  | nil => rfl
  | cons t a ih =>
    have hparts := List.forall_mem_cons.mp h
    rw [List.cons_append, readJoins, hparts.1, ih hparts.2]
    rfl

lemma readJoins_of_none (h : ∀ t ∈ a, beginsWith "LEFT JOIN " t = false) : readJoins a = [] := by
  simpa [readJoins] using readJoins_append_of_none (b := []) h

/-- The joins of a statement are read one by one. -/
lemma readJoins_joins (table : String) (joins : List Join) (hb : readJoins b = []) :
    readJoins (joins.flatMap (fun j => (joinLines table j).texts) ++ b) =
      joins.map fun j => (joinLines table j).texts := by
  induction joins with
  | nil => exact hb
  | cons j rest ih =>
    have hfirst : beginsWith "LEFT JOIN " ("LEFT JOIN " ++ j.table) = true := by
      simp [beginsWith, List.isPrefixOf]
    -- the two lines below a join begin none themselves
    have hbelow : ∀ t ∈ (joinLines table j).texts.tail, beginsWith "LEFT JOIN " t = false := by
      simp [beginsWith, List.isPrefixOf]
    have hrest := (readJoins_append_of_none hbelow).trans ih
    simp only [texts_joinLines, List.tail_cons] at hrest ⊢
    simp only [List.flatMap_cons, List.map_cons, List.cons_append, List.nil_append] at hrest ⊢
    rw [readJoins, if_pos hfirst, hrest]
    rfl

lemma readConditions_append {first : Condition} {others : List Condition}
    (ha : ∀ t ∈ a, beginsWith "WHERE " t = false) (hb : ∀ t ∈ b, beginsWith "AND " t = false) :
    readConditions (a ++ ("WHERE " ++ first.text) :: (others.map (fun c => "AND " ++ c.text) ++ b)) =
      (first :: others).map (·.text) := by
  have hfirst : beginsWith "WHERE " ("WHERE " ++ first.text) = true :=
    beginsWith_iff.mpr ⟨first.text.toList, String.toList_append⟩
  have hother : ∀ t ∈ others.map (fun c => "AND " ++ c.text), beginsWith "AND " t = true := by
    intro t ht
    obtain ⟨c, -, rfl⟩ := List.mem_map.mp ht
    exact beginsWith_iff.mpr ⟨c.text.toList, String.toList_append⟩
  have hdrop : ∀ t ∈ a, (!beginsWith "WHERE " t) = true := fun t ht => by rw [ha t ht]; rfl
  have hstop : b.takeWhile (beginsWith "AND ") = [] := by
    cases b with
    | nil => rfl
    | cons t b => exact List.takeWhile_cons_of_neg (by simp [hb t List.mem_cons_self])
  have hcut : ∀ word text : String, afterHead? word (word ++ text) = some text :=
    fun word text => afterHead?_eq_some_iff.mpr rfl
  rw [readConditions, List.dropWhile_append_of_pos hdrop, List.dropWhile_cons_of_neg (by simp [hfirst])]
  simp only [List.takeWhile_append_of_pos hother, hstop, List.append_nil, hcut, Option.toList_some,
    List.filterMap_map, Function.comp_def, List.filterMap_eq_map', List.map_cons, List.cons_append,
    List.nil_append]

/-- The joins of a statement are read, whatever stands around it. -/
lemma readJoins_statement (s : Statement) (ha : ∀ t ∈ a, Outside t) (hb : ∀ t ∈ b, Outside t) :
    readJoins (a ++ (s.lines.texts ++ b)) = s.joins.map fun j => (joinLines s.table j).texts := by
  have hnone : ∀ t, Outside t → beginsWith "LEFT JOIN " t = false :=
    fun t ht => ht.not_beginsWith (c := 'L') (by decide) (by decide)
  rw [readJoins_append_of_none fun t ht => hnone t (ha t ht)]
  have hbehind : readJoins b = [] := readJoins_of_none fun t ht => hnone t (hb t ht)
  cases s with
  | insert table columns =>
    rw [readJoins_append_of_none, hbehind]
    · rfl
    · simp [texts_insert, beginsWith, List.isPrefixOf]
  | softDelete table key =>
    rw [readJoins_append_of_none, hbehind]
    · rfl
    · simp [texts_softDelete, beginsWith, List.isPrefixOf]
  | select table joins first others single =>
    have htop : ∀ t ∈ ["SELECT " ++ selectList table joins, "FROM " ++ table],
        beginsWith "LEFT JOIN " t = false := by
      simp [beginsWith, List.isPrefixOf]
    have hrest : ∀ t ∈ (filterLines first others).texts ++ (if single then ["LIMIT 1"] else []),
        beginsWith "LEFT JOIN " t = false := by
      cases single <;> simp [or_imp, forall_and, beginsWith, List.isPrefixOf]
    have hfilter := (readJoins_append_of_none hrest).trans hbehind
    have hjoins := (readJoins_append_of_none htop).trans (readJoins_joins table joins hfilter)
    simpa [texts_select, Statement.joins, Statement.table, List.append_assoc] using hjoins

/-- The conditions of a statement are read, whatever stands around it, and there is one line of a filter. -/
lemma readConditions_statement {s : Statement} (hs : s.conditions ≠ []) (ha : ∀ t ∈ a, Outside t)
    (hb : ∀ t ∈ b, Outside t) :
    readConditions (a ++ (s.lines.texts ++ b)) = s.conditions.map (·.text) ∧
      ((a ++ (s.lines.texts ++ b)).filter (beginsWith "WHERE ")).length = 1 := by
  obtain ⟨top, first, others, bottom, hconditions, htexts, hwhere, hand⟩ := exists_filter hs
  have hnowhere : ∀ t, Outside t → beginsWith "WHERE " t = false :=
    fun t ht => ht.not_beginsWith (c := 'W') (by decide) (by decide)
  have hnoand : ∀ t, Outside t → beginsWith "AND " t = false :=
    fun t ht => ht.not_beginsWith (c := 'A') (by decide) (by decide)
  have habove : ∀ t ∈ a ++ top, beginsWith "WHERE " t = false := by
    intro t ht
    obtain ht | ht := List.mem_append.mp ht
    · exact hnowhere t (ha t ht)
    · exact hwhere t (List.mem_append_left _ ht)
  have hbelow : ∀ t ∈ bottom ++ b, beginsWith "WHERE " t = false ∧ beginsWith "AND " t = false := by
    intro t ht
    obtain ht | ht := List.mem_append.mp ht
    · exact ⟨hwhere t (List.mem_append_right _ ht), hand t ht⟩
    · exact ⟨hnowhere t (hb t ht), hnoand t (hb t ht)⟩
  have hlines : a ++ (s.lines.texts ++ b) = (a ++ top) ++ ("WHERE " ++ first.text) ::
      (others.map (fun c => "AND " ++ c.text) ++ (bottom ++ b)) := by
    simp [htexts]
  rw [hlines]
  refine ⟨?_, ?_⟩
  · rw [readConditions_append habove fun t ht => (hbelow t ht).2, hconditions]
  · have hfirst : beginsWith "WHERE " ("WHERE " ++ first.text) = true :=
      beginsWith_iff.mpr ⟨first.text.toList, String.toList_append⟩
    have hothers : ∀ t ∈ others.map (fun c => "AND " ++ c.text), beginsWith "WHERE " t = false := by
      simp [beginsWith, List.isPrefixOf]
    have hnone : ∀ l : List String, (∀ t ∈ l, beginsWith "WHERE " t = false) →
        l.filter (beginsWith "WHERE ") = [] :=
      fun l hl => List.filter_eq_nil_iff.mpr fun t ht => by simp [hl t ht]
    rw [List.filter_append, hnone _ habove, List.filter_cons_of_pos hfirst, List.filter_append,
      hnone _ hothers, hnone _ fun t ht => (hbelow t ht).1]
    rfl

/-- A select is read to its last line, if the line behind it is the one with the quote. -/
lemma readSelect_select (table : String) (joins : List Join) (first : Condition) (others : List Condition)
    (single : Bool) (ha : ∀ t ∈ a, Outside t) {closing : String} (hclosing : beginsWith "`" closing) :
    readSelect (a ++ ((select table joins first others single).lines.texts ++ closing :: b)) =
      (select table joins first others single).lines.texts := by
  have hbefore : ∀ t ∈ a, (!beginsWith "SELECT " t) = true := fun t ht => by
    rw [(ha t ht).not_beginsWith (c := 'S') (by decide) (by decide)]
    rfl
  have hlines : ∀ t ∈ (select table joins first others single).lines.texts,
      (!beginsWith "`" t) = true := by
    intro t ht
    obtain ⟨c, hc, hhead⟩ := head?_mem_heads _ t ht
    cases hquote : beginsWith "`" t with
    | false => rfl
    | true =>
      have hquoted := head?_of_beginsWith hquote (c := '`') (by decide)
      obtain rfl : c = '`' := Option.some.inj (hhead.symm.trans hquoted)
      exact absurd hc (by decide)
  have hselect : beginsWith "SELECT " ("SELECT " ++ selectList table joins) = true :=
    beginsWith_iff.mpr ⟨_, String.toList_append⟩
  have hdrop : ∀ rest, ((select table joins first others single).lines.texts ++ rest).dropWhile
      (fun l => !beginsWith "SELECT " l) =
        (select table joins first others single).lines.texts ++ rest := by
    intro rest
    rw [texts_select]
    exact List.dropWhile_cons_of_neg (by simp [hselect])
  rw [readSelect, List.dropWhile_append_of_pos hbefore, hdrop, List.takeWhile_append_of_pos hlines,
    List.takeWhile_cons_of_neg (by simp [hclosing]), List.append_nil]

end Reading

/-! ## Blocks -/

/-- The method reads rows with their joined rows. -/
def isAugmented : Query → Bool
  | allAugmented | byIDAugmented | byRelationAugmented _ => true
  | all | byID | byRelation _ | store | deleteByID => false

/-- The tables of a statement with joins. -/
def tables (r : Repository) : List String := r.options.table :: r.relations.map (·.joinedEntityName)

/-- The columns of a statement with joins. -/
def columns (r : Repository) : List String :=
  "id" :: "deleted_at" :: r.identityColumn :: r.relations.map fun rel => r.options.column rel.columnName

/-- The lines of a method reach live rows of its own table, and join live rows of other tables for each of the
relations. -/
structure ReachesLive (r : Repository) (q : Query) (ls : List String) : Prop where
  /-- There is one filter. -/
  filter : (ls.filter (beginsWith "WHERE ")).length = 1
  /-- The statement is over the table of the entity. -/
  table : "FROM " ++ r.options.table ∈ ls ∨ "UPDATE " ++ r.options.table ∈ ls
  /-- The filter leaves out the deleted rows of that table. It may leave the table unnamed where no other
  takes part. -/
  live : r.options.table ++ ".deleted_at IS NULL" ∈ readConditions ls ∨
    "deleted_at IS NULL" ∈ readConditions ls ∧ readJoins ls = []
  /-- Each relation is joined in order, by its column and without deleted rows. -/
  joins : readJoins ls = if q.isAugmented then r.relations.map fun rel =>
      ["LEFT JOIN " ++ rel.joinedEntityName,
        "ON " ++ r.options.table ++ "." ++ r.options.column rel.columnName ++ " = " ++
          rel.joinedEntityName ++ ".id",
        "AND " ++ rel.joinedEntityName ++ ".deleted_at IS NULL"]
    else []
  /-- With joins, columns are named together with their tables. -/
  qualified : readJoins ls ≠ [] → ∀ l ∈ readSelect ls, beginsWith "SELECT " l ∨
    IsQualified (tables r) (columns r) l

section Blocks

variable {r : Repository} {q : Query}

/-- A block is read as lines that are no lines of statements, with the statement and the line that closes it
among them. -/
lemma exists_readLines_eq (h : Unbroken (q.writtenNames r)) :
    ∃ before after, readLines (q.block r).render =
        before ++ ((q.statement r).lines.texts ++ ("`" ++ q.passed r ++ ")") :: after) ∧
      (∀ t ∈ before, Outside t) ∧ ∀ t ∈ ("`" ++ q.passed r ++ ")") :: after, Outside t := by
  obtain ⟨before, after, htexts, hbefore, hafter⟩ := exists_texts_outside r q
  have hend : Outside "" := by simp [Outside]
  refine ⟨before, after ++ [""], ?_, hbefore, ?_⟩
  · rw [readLines_block h, htexts]
    simp
  · rw [← List.cons_append]
    exact List.forall_mem_append.mpr ⟨hafter, List.forall_mem_singleton.mpr hend⟩

/-- Every statement but that of the method that adds a row asks for live rows of its table. -/
lemma exists_live_mem_conditions (hq : q ≠ store) :
    ∃ table, .live table ∈ (q.statement r).conditions ∧
      (table = some r.options.table ∨ table = none ∧ (q.statement r).joins = []) := by
  cases q with
  | store => exact absurd rfl hq
  | all | byID | deleteByID => exact ⟨none, by simp [statement, conditions], .inr ⟨rfl, rfl⟩⟩
  | allAugmented | byIDAugmented | byRelation rel | byRelationAugmented rel =>
    exact ⟨some r.options.table, by simp [statement, conditions], .inl rfl⟩

lemma text_live (table : String) :
    (Condition.live (some table)).text = table ++ ".deleted_at IS NULL" := by
  simp [Condition.text, Condition.columnOf, Naming.deletedColumn, String.append_assoc]

lemma texts_joinLines_plain (table : String) (j : Join) :
    (joinLines table j).texts = ["LEFT JOIN " ++ j.table,
      "ON " ++ table ++ "." ++ j.column ++ " = " ++ j.table ++ ".id",
      "AND " ++ j.table ++ ".deleted_at IS NULL"] := by
  simp [Condition.text, Condition.columnOf, Naming.deletedColumn, Naming.identityColumn,
    String.append_assoc]

lemma joins_statement : (q.statement r).joins = if q.isAugmented then r.joins else [] := by
  cases q <;> rfl

lemma table_statement : (q.statement r).table = r.options.table := by
  cases q <;> rfl

lemma mem_texts_table {s : Statement} (hs : s.conditions ≠ []) :
    "FROM " ++ s.table ∈ s.lines.texts ∨ "UPDATE " ++ s.table ∈ s.lines.texts := by
  cases s with
  | select table joins first others single => exact .inl (by simp [texts_select, Statement.table])
  | insert table columns => exact absurd rfl hs
  | softDelete table key => exact .inr (by simp [texts_softDelete, Statement.table])

lemma mem_columns {rel : Relation} (h : rel ∈ r.relations) :
    r.options.column rel.columnName ∈ columns r := by
  simp only [columns, List.mem_cons, List.mem_map]
  exact .inr (.inr (.inr ⟨rel, h, rfl⟩))

lemma isQualified_live {word table : String} (hword : word ∈ ["WHERE ", "AND "])
    (htable : table ∈ tables r) :
    IsQualified (tables r) (columns r) (word ++ (Condition.live (some table)).text) := by
  have hcolumn : Naming.deletedColumn ∈ columns r := by simp [columns, Naming.deletedColumn]
  simpa [Condition.text, Condition.columnOf, String.append_assoc] using
    IsQualified.isNull hword htable hcolumn

lemma isQualified_equals {word table column : String} (hword : word ∈ ["WHERE ", "AND "])
    (htable : table ∈ tables r) (hcolumn : column ∈ columns r) :
    IsQualified (tables r) (columns r) (word ++ (Condition.equalsArgument (some table) column).text) := by
  simpa [Condition.text, Condition.columnOf, String.append_assoc] using
    IsQualified.argument hword htable hcolumn

lemma isQualified_joins :
    ∀ l ∈ r.joins.flatMap (fun j => (joinLines r.options.table j).texts),
      IsQualified (tables r) (columns r) l := by
  intro l hl
  simp only [Repository.joins, List.mem_flatMap, List.mem_map] at hl
  obtain ⟨j, ⟨rel, hrel, rfl⟩, hl⟩ := hl
  have htable : r.options.table ∈ tables r := List.mem_cons_self
  have hjoined : rel.joinedEntityName ∈ tables r := List.mem_cons_of_mem _ (List.mem_map_of_mem hrel)
  have hcolumn : r.options.column rel.columnName ∈ columns r := mem_columns hrel
  simp only [texts_joinLines, List.mem_cons, List.not_mem_nil, or_false] at hl
  obtain rfl | rfl | rfl := hl
  · exact .join hjoined
  · exact .matching htable hcolumn hjoined (by simp [columns, Naming.identityColumn])
  · exact isQualified_live (by simp) hjoined

/-- A select over the tables is qualified, if its conditions are on the first of them. -/
lemma isQualified_select {first : Condition} {others : List Condition} {single : Bool}
    (h : ∀ c ∈ first :: others, c = .live (some r.options.table) ∨
      ∃ column ∈ columns r, c = .equalsArgument (some r.options.table) column) :
    ∀ l ∈ (select r.options.table r.joins first others single).lines.texts,
      beginsWith "SELECT " l ∨ IsQualified (tables r) (columns r) l := by
  have htable : r.options.table ∈ tables r := List.mem_cons_self
  have hcondition : ∀ word ∈ ["WHERE ", "AND "], ∀ c ∈ first :: others,
      IsQualified (tables r) (columns r) (word ++ c.text) := by
    intro word hword c hc
    obtain rfl | ⟨column, hcolumn, rfl⟩ := h c hc
    · exact isQualified_live hword htable
    · exact isQualified_equals hword htable hcolumn
  intro l hl
  simp only [texts_select, texts_filterLines, List.mem_cons, List.mem_append, List.mem_map] at hl
  obtain rfl | rfl | (hl | rfl | ⟨c, hc, rfl⟩) | hl := hl
  · exact .inl (beginsWith_iff.mpr ⟨_, String.toList_append⟩)
  · exact .inr (.source htable)
  · exact .inr (isQualified_joins l hl)
  · exact .inr (hcondition _ (by simp) _ List.mem_cons_self)
  · exact .inr (hcondition _ (by simp) c (List.mem_cons_of_mem _ hc))
  · refine .inr ?_
    split at hl
    · obtain rfl := List.mem_singleton.mp hl
      exact .limit
    · cases hl

/-- The statements with joins are selects over the tables of the relations, with conditions on the table of
the entity. -/
lemma exists_select_eq (h : q.isAugmented) (hq : q ∈ r.queries) :
    ∃ first others single, q.statement r = select r.options.table r.joins first others single ∧
      ∀ c ∈ first :: others, c = .live (some r.options.table) ∨
        ∃ column ∈ columns r, c = .equalsArgument (some r.options.table) column := by
  have hkey : r.identityColumn ∈ columns r := by simp [columns]
  cases q with
  | all | byID | byRelation rel | store | deleteByID => cases h
  | allAugmented => exact ⟨_, _, _, rfl, by simp⟩
  | byIDAugmented => exact ⟨_, _, _, rfl, by simp [hkey]⟩
  | byRelationAugmented rel => exact ⟨_, _, _, rfl, by simp [mem_columns (mem_relations hq rfl)]⟩

end Blocks

end Query

/-- A file of queries is its blocks in order, and every method but the one that adds a row reaches live rows
only, for any entity and any relations whose names do not break a line. -/
theorem Repository.reachesLive_readLines (r : Repository) (h : r.IsUnbroken) :
    r.file = fileHeader ++ "\n" ++ String.join (r.queries.map fun q => "\n" ++ (q.block r).render) ∧
      ∀ q ∈ r.queries, q ≠ .store → q.ReachesLive r (readLines (q.block r).render) := by
  refine ⟨?_, fun q hq hstore => ?_⟩
  · rw [file_eq_render, render_append, render_flatMap]
    simp only [render_append]
    rfl
  have hnames : Unbroken (q.writtenNames r) := unbroken_writtenNames hq h fun heq => absurd heq hstore
  obtain ⟨before, after, hlines, hbefore, hafter⟩ := Query.exists_readLines_eq hnames
  obtain ⟨table, hlive, htable⟩ := Query.exists_live_mem_conditions (r := r) hstore
  have hconditions : (q.statement r).conditions ≠ [] := List.ne_nil_of_mem hlive
  have hread := Query.readConditions_statement hconditions hbefore hafter
  have hjoins := Query.readJoins_statement (q.statement r) hbefore hafter
  rw [← hlines] at hread hjoins
  rw [Query.table_statement] at hjoins
  -- what is read back from the lines are the conditions and the joins of the statement
  have hlivetext := hread.1 ▸ List.mem_map_of_mem (f := Condition.text) hlive
  refine ⟨hread.2, ?_, ?_, ?_, fun hjoined => ?_⟩
  · rw [hlines, ← Query.table_statement (q := q)]
    obtain hmem | hmem := Query.mem_texts_table hconditions
    · exact .inl (by simp [hmem])
    · exact .inr (by simp [hmem])
  · obtain rfl | ⟨rfl, hnone⟩ := htable
    · exact .inl (Query.text_live _ ▸ hlivetext)
    · exact .inr ⟨hlivetext, by rw [hjoins, hnone]; rfl⟩
  · rw [hjoins, Query.joins_statement]
    cases q.isAugmented with
    | false => rfl
    | true => simp [joins, Query.texts_joinLines_plain, -Statement.texts_joinLines]
  · have haugmented : q.isAugmented := by
      by_contra hnot
      rw [hjoins, Query.joins_statement, if_neg hnot] at hjoined
      exact hjoined rfl
    have hclosing : beginsWith "`" ("`" ++ q.passed r ++ ")") :=
      beginsWith_iff.mpr ⟨_, by rw [String.append_assoc, String.toList_append]⟩
    obtain ⟨first, others, single, hselect, hqualified⟩ := Query.exists_select_eq haugmented hq
    rw [hlines, hselect, Query.readSelect_select _ _ _ _ _ hbefore hclosing]
    exact Query.isQualified_select hqualified

/-- A membership refers to one table by two columns. -/
def membershipRepository : Repository where
  entity := ⟨"Membership", [⟨"ID", .value "int64", "db:\"id\"", "id"⟩,
    ⟨"Member", .value "int64", "db:\"account_id\"", "account_id"⟩,
    ⟨"Sponsor", .value "int64", "db:\"membership_account_id\"", "membership_account_id"⟩], true⟩
  relations := [⟨"Member", "account_id", "account"⟩, ⟨"Sponsor", "membership_account_id", "account"⟩]
  options := ⟨"membership", "domain", true, false⟩

lemma isUnbroken_membershipRepository : membershipRepository.IsUnbroken where
  entity := by decide
  package := by decide
  table := by decide
  fields := by decide
  relations := by decide

theorem reachesLive_membershipRepository :
    Query.allAugmented ∈ membershipRepository.queries ∧
      Query.allAugmented.ReachesLive membershipRepository
        (readLines (Query.allAugmented.block membershipRepository).render) :=
  have hmem : Query.allAugmented ∈ membershipRepository.queries := by decide
  ⟨hmem, (membershipRepository.reachesLive_readLines isUnbroken_membershipRepository).2 _ hmem
    (by decide)⟩

end DeclGen
