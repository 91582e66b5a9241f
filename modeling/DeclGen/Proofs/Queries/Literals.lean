import DeclGen.Proofs.Model.Fields
import DeclGen.Proofs.Qualifier.Stripping
import DeclGen.Proofs.Queries.Blocks

/-!
# Statements as raw strings

A method passes its statement as one raw string, with an argument behind it for each mark. Columns come from
tags, which hold almost any text, and are written as they are. What that costs is said by
`Repository.wellFormed_iff`: statements end where they should and ask for as many arguments as there are,
and parameters are names, exactly when no column has a quote or a mark in it and the columns of relations
are names themselves.
-/

namespace DeclGen

open Text

/-- No quote and no mark stands in the text. -/
def IsClean (text : String) : Prop := '`' ∉ text.toList ∧ '?' ∉ text.toList

instance : DecidablePred IsClean := fun _ => inferInstanceAs (Decidable (_ ∧ _))

namespace Query

/-- What the raw string of a method holds. -/
def literal (r : Repository) (q : Query) : String :=
  "\n" ++ (q.statement r).lines.indent.indent.indent.render ++ "\t\t"

/-- The raw string of a method holds no quote of its own and a mark for each argument behind it, and a method
that reads by a relation takes one parameter with a name. -/
structure WellFormed (r : Repository) (q : Query) : Prop where
  closed : '`' ∉ (q.literal r).toList
  filled : (q.literal r).toList.count '?' = (q.passed r).toList.count ','
  parameter : ∀ rel ∈ q.relation?,
    ∃ name, q.parameters r = [name ++ " string"] ∧ Naming.isIdentifier name

/-- The text of a method has its raw string in it, with the arguments behind it. -/
lemma exists_render_eq (r : Repository) (q : Query) :
    ∃ before after, (q.block r).render =
      before ++ "`" ++ q.literal r ++ "`" ++ q.passed r ++ ")\n" ++ after := by
  obtain ⟨front, opening, back, hblock, -, -⟩ := exists_block_eq r q
  have hopening : Line.render ⟨1, opening ++ "`"⟩ = "\t" ++ (opening ++ "`") ++ "\n" :=
    render_line (by simp) 1
  have hclosing : Line.render ⟨2, "`" ++ q.passed r ++ ")"⟩ =
      "\t\t" ++ ("`" ++ q.passed r ++ ")") ++ "\n" := render_line (by simp) 2
  have hsplit : (Block.ofTexts (front ++ [opening ++ "`"])).indent =
      (Block.ofTexts front).indent ++ [⟨1, opening ++ "`"⟩] := by
    simp [Block.ofTexts, Block.indent]
  refine ⟨(Block.ofTexts ["// " ++ q.comment r, q.header r] ++ (Block.ofTexts front).indent).render ++
    "\t" ++ opening, Block.render back, ?_⟩
  rw [hblock, hsplit]
  simp only [render_append, render_cons, render_nil, hopening, hclosing, literal, String.append_empty]
  simp only [String.append_assoc]
  rfl

section Counts

variable (r : Repository) (q : Query)

lemma placeholders_statement : (q.statement r).placeholders = (q.arguments r).length := by
  cases q <;> simp [statement, arguments, Statement.placeholders, Condition.placeholders]

/-- A raw string holds what its names hold, and a mark for each argument. -/
lemma occurrences_literal {c : Char} (hfeed : c ≠ '\n') (htab : c ≠ '\t')
    (hforeign : Statement.IsForeign c) :
    occurrences c (q.literal r) = ((q.statement r).names.map (occurrences c)).sum +
      (q.arguments r).length * occurrences c "?" := by
  have hfront : occurrences c "\n" = 0 := occurrences_eq_zero_iff.mpr (by simpa using hfeed)
  have hback : occurrences c "\t\t" = 0 := occurrences_eq_zero_iff.mpr (by simpa using htab)
  have hlines := occurrences_render hfeed htab (q.statement r).lines.indent.indent.indent
  simp only [Block.texts_indent, Statement.count_texts hforeign, placeholders_statement] at hlines
  rw [literal, occurrences_append, occurrences_append, hfront, hback, hlines]
  omega

/-- The arguments stand each behind a comma. -/
lemma occurrences_passed :
    occurrences ',' (q.passed r) =
      (q.arguments r).length + ((q.arguments r).map (occurrences ',')).sum := by
  have hjoin : ∀ items : List String, occurrences ',' (String.join (items.map (", " ++ ·))) =
      items.length + (items.map (occurrences ',')).sum := by
    intro items
    have hcomma : occurrences ',' ", " = 1 := by decide
    induction items with
    | nil => rfl
    | cons a rest ih =>
      have hcons : String.join ((a :: rest).map (", " ++ ·)) =
          ", " ++ a ++ String.join (rest.map (", " ++ ·)) := by
        rw [← String.toList_inj]
        simp
      rw [hcons, occurrences_append, occurrences_append, ih, hcomma]
      simp only [List.length_cons, List.map_cons, List.sum_cons]
      omega
  exact hjoin _

variable {r q}

/-- For arguments without commas the raw string is as it should be, if no name in the statement has a quote or
a mark. -/
lemma wellFormed_iff_names (harguments : ∀ a ∈ q.arguments r, ',' ∉ a.toList) :
    q.WellFormed r ↔ (∀ n ∈ (q.statement r).names, IsClean n) ∧
      ∀ rel ∈ q.relation?, Naming.isIdentifier (r.options.column rel.columnName) := by
  have hquotes := occurrences_literal r q (c := '`') (by decide) (by decide) (by decide)
  have hmarks := occurrences_literal r q (c := '?') (by decide) (by decide) (by decide)
  have hpassed := occurrences_passed r q
  rw [sum_occurrences_eq_zero_iff.mpr harguments] at hpassed
  have hquote : occurrences '`' "?" = 0 := by decide
  have hmark : occurrences '?' "?" = 1 := by decide
  rw [hquote] at hquotes
  rw [hmark] at hmarks
  -- there is a mark for each argument, so only what the names hold can make a difference
  have hclosed : '`' ∉ (q.literal r).toList ↔ ∀ n ∈ (q.statement r).names, '`' ∉ n.toList := by
    rw [← occurrences_eq_zero_iff, ← sum_occurrences_eq_zero_iff, hquotes]
    omega
  have hfilled : (q.literal r).toList.count '?' = (q.passed r).toList.count ',' ↔
      ∀ n ∈ (q.statement r).names, '?' ∉ n.toList := by
    rw [← sum_occurrences_eq_zero_iff]
    show occurrences '?' (q.literal r) = occurrences ',' (q.passed r) ↔ _
    omega
  have hparameter : ∀ rel ∈ q.relation?,
      q.parameters r = [r.options.column rel.columnName ++ " string"] := by
    intro rel hrel
    cases q with
    | byRelation rel' | byRelationAugmented rel' =>
      obtain rfl := Option.some.inj hrel
      rfl
    | _ => cases hrel
  constructor
  · intro h
    refine ⟨fun n hn => ⟨hclosed.mp h.closed n hn, hfilled.mp h.filled n hn⟩, fun rel hrel => ?_⟩
    obtain ⟨name, hname, hidentifier⟩ := h.parameter rel hrel
    rw [hparameter rel hrel, List.cons.injEq, String.append_left_inj] at hname
    rwa [hname.1]
  · intro h
    exact ⟨hclosed.mpr fun n hn => (h.1 n hn).1, hfilled.mpr fun n hn => (h.1 n hn).2,
      fun rel hrel => ⟨_, hparameter rel hrel, h.2 rel hrel⟩⟩

end Counts

end Query

section Loaded

variable {e : Entity} {options : QueryOptions}

lemma comma_notMem_arguments (he : e.Declared) {q : Query} (hq : q ∈ (e.repository options).queries) :
    ∀ a ∈ q.arguments (e.repository options), ',' ∉ a.toList := by
  have hfield : ∀ f ∈ e.insertableFields, f.Declared :=
    fun f hf => he.fields f (List.mem_of_mem_filter hf)
  have hrelation : ∀ rel ∈ Relation.ofEntity e options.table,
      ',' ∉ (options.column rel.columnName).toList := by
    intro rel hrel hmem
    obtain ⟨f, hf, joined, -, rfl⟩ := Relation.mem_ofEntity_iff.mp hrel
    exact Tag.comma_notMem_column (hfield f hf).column (QueryOptions.mem_of_mem_column hmem)
  intro a ha
  cases q with
  | all | allAugmented => cases ha
  | byID | byIDAugmented | deleteByID =>
    obtain rfl := List.mem_singleton.mp ha
    decide
  | byRelation rel | byRelationAugmented rel =>
    obtain rfl := List.mem_singleton.mp ha
    exact hrelation rel (Query.mem_relations hq rfl)
  | store =>
    obtain ⟨f, hf, rfl⟩ := List.mem_map.mp ha
    have hname : ',' ∉ f.name.toList := (hfield f hf).name.notMem (by decide) (by decide)
    simp [hname]

lemma isClean_of_isIdentifier {name : String} (h : Naming.isIdentifier name) : IsClean name :=
  have hword := Qualifier.isWord_of_isIdentifier h
  ⟨hword.notMem (by decide), hword.notMem (by decide)⟩

/-- The table that a relation joins is named by the column and the table. -/
lemma isClean_joined (htable : Naming.isIdentifier options.table)
    (hcolumns : ∀ f ∈ e.insertableFields, IsClean (options.column f.column)) :
    ∀ rel ∈ Relation.ofEntity e options.table,
      IsClean rel.joinedEntityName ∧ IsClean (options.column rel.columnName) := by
  intro rel hrel
  obtain ⟨f, hf, joined, hjoined, rfl⟩ := Relation.mem_ofEntity_iff.mp hrel
  have hfree : ∀ c, c ∉ options.table.toList → c ∉ (options.column f.column).toList → c ≠ '_' →
      c ∉ joined.toList := by
    intro c hc hcolumn hlow hmem
    obtain hwritten | hprefix := QueryOptions.mem_column_of_mem_joined hjoined hmem
    · exact hcolumn hwritten
    · simp [hc, hlow] at hprefix
  have hclean := isClean_of_isIdentifier htable
  refine ⟨⟨?_, ?_⟩, hcolumns f hf⟩
  · exact hfree _ hclean.1 (hcolumns f hf).1 (by decide)
  · exact hfree _ hclean.2 (hcolumns f hf).2 (by decide)

/-- All methods of a declared entity are well formed exactly when the columns that they write are clean, and
identifiers where a relation is read by them. -/
lemma forall_wellFormed_iff (he : e.Declared) (htable : Naming.isIdentifier options.table) :
    (∀ q ∈ (e.repository options).queries, q.WellFormed (e.repository options)) ↔
      (∀ f ∈ e.identity?.toList ++ e.insertableFields, IsClean (options.column f.column)) ∧
        ∀ rel ∈ Relation.ofEntity e options.table,
          Naming.isIdentifier (options.column rel.columnName) := by
  have hnames : ∀ q ∈ (e.repository options).queries, q.WellFormed (e.repository options) ↔
      (∀ n ∈ (q.statement (e.repository options)).names, IsClean n) ∧
        ∀ rel ∈ q.relation?, Naming.isIdentifier (options.column rel.columnName) :=
    fun q hq => Query.wellFormed_iff_names (comma_notMem_arguments he hq)
  constructor
  · intro h
    have hkey : Query.byID ∈ (e.repository options).queries := by
      simp [Repository.queries, Query.ofEntity]
    have hstore : Query.store ∈ (e.repository options).queries := by
      simp [Repository.queries, Query.ofEntity]
    -- the identity's column is written by the search for one row, all others by the method that stores
    refine ⟨List.forall_mem_append.mpr ⟨fun f hf => ?_, fun f hf => ?_⟩, fun rel hrel => ?_⟩
    · refine ((hnames _ hkey).mp (h _ hkey)).1 _ ?_
      have hidentity : e.identity? = some f := Option.mem_toList.mp hf
      simp [Query.statement, Statement.names, Condition.names, Repository.identityColumn, Entity.repository,
        hidentity]
    · refine ((hnames _ hstore).mp (h _ hstore)).1 _ ?_
      exact List.mem_cons_of_mem _ (List.mem_map_of_mem hf)
    · have hquery : Query.byRelation rel ∈ (e.repository options).queries := Query.byRelation_mem hrel
      exact ((hnames _ hquery).mp (h _ hquery)).2 rel rfl
  · rintro ⟨hcolumns, hrelations⟩ q hq
    obtain ⟨hidentity, hinserted⟩ := List.forall_mem_append.mp hcolumns
    refine (hnames q hq).mpr ⟨?_, fun rel hrel => hrelations rel (Query.mem_relations hq hrel)⟩
    refine Query.forall_mem_names hq (isClean_of_isIdentifier htable) ?_ hinserted
      (isClean_joined htable hinserted)
    unfold Repository.identityColumn
    cases hfound : (e.repository options).entity.identity? with
    | none =>
      show IsClean Naming.identityColumn
      exact ⟨by decide, by decide⟩
    | some f => exact hidentity f (Option.mem_toList.mpr hfound)

end Loaded

/-- The methods of a model that was loaded pass their statements as raw strings with arguments behind them.
All are well formed exactly when no column that is written has a quote or a mark, and the columns of relations
are identifiers. -/
theorem Repository.wellFormed_iff [ErrorRecovery] {source : String} {o : BuildOptions} {model : FileModel}
    (hload : (FileModel.load source o).report.1 = .ok model) {e : Entity} (he : e ∈ model.entities)
    (options : QueryOptions) (htable : Naming.isIdentifier options.table) :
    (∀ q ∈ (e.repository options).queries, ∃ before after, (q.block (e.repository options)).render =
      before ++ "`" ++ q.literal (e.repository options) ++ "`" ++ q.passed (e.repository options) ++
        ")\n" ++ after) ∧
    ((∀ q ∈ (e.repository options).queries, q.WellFormed (e.repository options)) ↔
      (∀ f ∈ e.identity?.toList ++ e.insertableFields, IsClean (options.column f.column)) ∧
        ∀ rel ∈ Relation.ofEntity e options.table,
          Naming.isIdentifier (options.column rel.columnName)) := by
  have hdeclared := declared_of_load hload e he
  exact ⟨fun q _ => q.exists_render_eq _, forall_wellFormed_iff hdeclared htable⟩

/-- An order that refers to the account that pays for it. -/
def orderRecord : String :=
  "package p;type Order struct\x7bID int64 `db:\"id\"`;Payer string `db:\"account_id\"`\x7d;"

lemma load_orderRecord : (FileModel.load orderRecord {}).report.1 =
    .ok ⟨"p", [⟨"Order", [⟨"ID", .value "int64", "db:\"id\"", "id"⟩,
      ⟨"Payer", .value "string", "db:\"account_id\"", "account_id"⟩], false⟩], [], []⟩ := by
  have hparse : SourceFile.parse orderRecord = .ok ⟨"p", [.struct ⟨"Order",
      [⟨["ID"], .name "int64", some "db:\"id\""⟩,
       ⟨["Payer"], .name "string", some "db:\"account_id\""⟩]⟩]⟩ := by
    decide +kernel
  rw [FileModel.load_of_parse hparse]
  decide

/-- The options of a table whose name stays in its columns. -/
def plainOptions (table : String) : QueryOptions := ⟨table, "domain", false, false⟩

theorem wellFormed_orderRecord :
    ∃ model, (FileModel.load orderRecord {}).report.1 = .ok model ∧ ∃ e ∈ model.entities,
      Naming.isIdentifier (plainOptions "order").table ∧
      ∀ q ∈ (e.repository (plainOptions "order")).queries,
        q.WellFormed (e.repository (plainOptions "order")) := by
  have htable : Naming.isIdentifier (plainOptions "order").table := by decide
  refine ⟨_, load_orderRecord, _, List.mem_cons_self, htable, ?_⟩
  have hiff :=
    (Repository.wellFormed_iff load_orderRecord List.mem_cons_self (plainOptions "order") htable).2
  refine hiff.mpr ⟨?_, ?_⟩
  · decide
  · decide

/-- A record whose columns hold a quote, a mark and a hyphen. -/
def oddRecord : String :=
  "package p;type Bill struct\x7bNote string \"db:\\\"a`b\\\"\";Rate string `db:\"c?\"`;" ++
    "Payer string `db:\"payer-account_id\"`\x7d;"

lemma load_oddRecord : (FileModel.load oddRecord {}).report.1 =
    .ok ⟨"p", [⟨"Bill", [⟨"Note", .value "string", "db:\"a`b\"", "a`b"⟩,
      ⟨"Rate", .value "string", "db:\"c?\"", "c?"⟩,
      ⟨"Payer", .value "string", "db:\"payer-account_id\"", "payer-account_id"⟩], false⟩], [], []⟩ := by
  have hparse : SourceFile.parse oddRecord = .ok ⟨"p", [.struct ⟨"Bill",
      [⟨["Note"], .name "string", some "db:\"a`b\""⟩, ⟨["Rate"], .name "string", some "db:\"c?\""⟩,
       ⟨["Payer"], .name "string", some "db:\"payer-account_id\""⟩]⟩]⟩ := by
    decide +kernel
  rw [FileModel.load_of_parse hparse]
  decide

theorem not_wellFormed_oddRecord :
    ∃ model, (FileModel.load oddRecord {}).report.1 = .ok model ∧ ∃ e ∈ model.entities,
      Naming.isIdentifier (plainOptions "bill").table ∧
      '`' ∈ (Query.store.literal (e.repository (plainOptions "bill"))).toList ∧
      (Query.store.literal (e.repository (plainOptions "bill"))).toList.count '?' ≠
        (Query.store.arguments (e.repository (plainOptions "bill"))).length ∧
      ∃ rel ∈ (e.repository (plainOptions "bill")).relations,
        (Query.byRelation rel).parameters (e.repository (plainOptions "bill")) =
          ["payer-account_id string"] ∧
        Naming.isIdentifier "payer-account_id" = false := by
  refine ⟨_, load_oddRecord, _, List.mem_cons_self, ?_⟩
  decide

end DeclGen
