import DeclGen.Proofs.Model.Columns
import DeclGen.Proofs.Queries.Statements

/-!
# Blocks of queries

All repository methods are laid out alike: a comment, a header, the lines of the program that open the
statement, the statement itself between two backquotes, its arguments, and what the program does with the
answer (`Query.exists_block_eq`). Lines of the program do not begin like lines of a statement, so each kind
is found in the text of a block by how its lines begin.
-/

namespace DeclGen

open Text

/-- None of the names has a line feed. -/
def Unbroken (names : List String) : Prop := ∀ n ∈ names, '\n' ∉ n.toList

instance (names : List String) : Decidable (Unbroken names) :=
  inferInstanceAs (Decidable (∀ n ∈ names, _))

lemma Unbroken.subset {names names' : List String} (h : Unbroken names') (hsub : names ⊆ names') :
    Unbroken names := fun n hn => h n (hsub hn)

/-- The line begins neither like a line of a statement nor like a function. -/
def IsProgram (t : String) : Prop :=
  (∀ c ∈ t.toList.head?, c ∈ ['_', 'd', 'e', 'i', 'r', '\x7d']) ∨ beginsWith "for " t

lemma IsProgram.head?_mem {t : String} (h : IsProgram t) :
    ∀ c ∈ t.toList.head?, c ∈ ['_', 'd', 'e', 'i', 'r', '\x7d', 'f'] := by
  intro c hc
  obtain hfirst | hfor := h
  · have hmem := hfirst c hc
    simp only [List.mem_cons] at hmem ⊢
    tauto
  · rw [head?_of_beginsWith hfor (c := 'f') (by decide)] at hc
    obtain rfl := Option.mem_some.mp hc
    decide

/-- Names that are made of the entity and its package are whole when these are. -/
lemma Repository.unbroken_derivedNames (r : Repository) (hentity : '\n' ∉ r.entity.name.toList)
    (hpackage : '\n' ∉ r.options.domainPackage.toList) :
    Unbroken [r.entity.augmentedName, r.typeName, r.external, r.externalAugmented] := by
  simp only [Unbroken, Entity.augmentedName, Naming.augmentedName, Naming.augmentedTail, typeName,
    Naming.repositoryName, Naming.repositoryTail, external, externalAugmented, List.forall_mem_cons,
    String.toList_append, List.mem_append, not_or, hentity, hpackage, not_false_eq_true, true_and]
  and_intros <;> first | exact notMem_literal (by decide) | simp

namespace Query

/-- The header of the method. -/
def header (r : Repository) (q : Query) : String :=
  "func (s *" ++ r.typeName ++ ") " ++ q.methodName ++ "(" ++ ", ".intercalate (q.parameters r) ++ ") "
    ++ q.results r ++ " \x7b"

/-- The arguments as they follow the statement, each behind a comma. -/
def passed (r : Repository) (q : Query) : String := String.join ((q.arguments r).map (", " ++ ·))

/-! ## Bodies -/

/-- The block sends the statement of the method between lines of the program, which are whole lines as long
as the names are. -/
def Sends (r : Repository) (q : Query) (names : List String) (b : Block) : Prop :=
  ∃ before opening after, b = Block.ofTexts before ++ q.sending r opening ++ after ∧
    (∀ t ∈ before ++ (opening ++ "`") :: after.texts, IsProgram t) ∧
    (Unbroken names → Unbroken (before ++ (opening ++ "`") :: after.texts))

section Bodies

variable (r : Repository) (q : Query)

lemma sends_readMany (record external convert : String) :
    q.Sends r [r.entity.name, record, external, convert] (q.readMany r record external convert) := by
  refine ⟨[_], _, _, by simp only [readMany, List.append_assoc]; rfl, ?_, ?_⟩
  · simp [IsProgram, checkError, beginsWith]
  · intro hnames
    simp only [Unbroken, List.forall_mem_cons] at hnames
    simp only [Unbroken, checkError, Block.texts_append, Block.texts_braces, Block.texts_ofTexts,
      Block.texts_gap, List.cons_append, List.nil_append, List.forall_mem_cons, String.toList_append,
      List.mem_append, not_or, hnames, not_false_eq_true, List.not_mem_nil, false_imp_iff, implies_true,
      and_true]
    and_intros <;> exact notMem_literal (by decide)

lemma sends_readOne (record convert : String) :
    q.Sends r [record, convert] (q.readOne r record convert) := by
  refine ⟨[_], _, _, by simp only [readOne, List.append_assoc]; rfl, ?_, ?_⟩
  · simp [IsProgram, beginsWith]
  · intro hnames
    simp only [Unbroken, List.forall_mem_cons] at hnames
    simp only [Unbroken, Block.texts_ofTexts, List.cons_append, List.nil_append, List.forall_mem_cons,
      String.toList_append, List.mem_append, not_or, hnames, not_false_eq_true, List.not_mem_nil,
      false_imp_iff, implies_true, and_true]
    and_intros <;> exact notMem_literal (by decide)

lemma sends_storing :
    q.Sends r (r.entity.identity?.toList.map (·.typeName)) (q.storing r) := by
  unfold storing
  cases r.entity.identity? with
  | some identity =>
    refine ⟨[], _, _, by simp only [List.append_assoc]; rfl, ?_, ?_⟩
    · simp [IsProgram, checkError, beginsWith]
    · intro hnames
      simp only [Unbroken, Option.toList_some, List.map_cons, List.forall_mem_cons] at hnames
      simp only [Unbroken, checkError, Block.texts_append, Block.texts_braces, Block.texts_ofTexts,
        Block.texts_gap, List.cons_append, List.nil_append, List.forall_mem_cons, String.toList_append,
        List.mem_append, not_or, hnames, not_false_eq_true, List.not_mem_nil, false_imp_iff, implies_true,
        and_true]
      and_intros <;> exact notMem_literal (by decide)
  | none =>
    refine ⟨[], _, _, by simp only [List.append_assoc]; rfl, ?_, ?_⟩
    · simp [IsProgram, checkError, beginsWith]
    · exact fun _ => by decide

/-- The names that the program of the method holds. -/
def programNames (r : Repository) : Query → List String
  | store => r.entity.identity?.toList.map (·.typeName)
  | _ => [r.entity.name, r.options.domainPackage]

/-- The names in the body apart from its statement are the entity and its package, or for a method that stores
a row the type of its identity. -/
lemma sends_body : q.Sends r (q.programNames r) (q.body r) := by
  have hmono : ∀ {names names' : List String} {b : Block}, (Unbroken names' → Unbroken names) →
      q.Sends r names b → q.Sends r names' b := by
    rintro names names' b himp ⟨before, opening, after, hb, hprogram, hunbroken⟩
    exact ⟨before, opening, after, hb, hprogram, hunbroken ∘ himp⟩
  have hnames : Unbroken [r.entity.name, r.options.domainPackage] →
      Unbroken [r.entity.name, r.entity.augmentedName, r.external, r.externalAugmented, "toEntity",
        "toEntityAugmented"] := by
    intro h
    have hderived := r.unbroken_derivedNames (h _ (by simp)) (h _ (by simp))
    simp only [Unbroken, List.forall_mem_cons] at h hderived ⊢
    exact ⟨h.1, hderived.1, hderived.2.2.1, hderived.2.2.2.1, notMem_literal (by decide),
      notMem_literal (by decide), by simp⟩
  cases q with
  | all | byRelation rel | allAugmented | byRelationAugmented rel =>
    refine hmono (fun h => (hnames h).subset ?_) (sends_readMany r _ _ _ _)
    simp only [List.cons_subset, List.mem_cons, true_or, or_true, List.nil_subset, and_self]
  | byID | byIDAugmented =>
    refine hmono (fun h => (hnames h).subset ?_) (sends_readOne r _ _ _)
    simp only [List.cons_subset, List.mem_cons, true_or, or_true, List.nil_subset, and_self]
  | store => exact sends_storing r _
  | deleteByID => exact ⟨[], _, _, rfl, by simp [IsProgram, beginsWith], fun _ => by decide⟩

end Bodies

/-! ## Blocks -/

/-- The block of a method: its comment and its header, the program down to the line that opens the statement,
the statement, and the program from the line that closes it. -/
lemma exists_block_eq (r : Repository) (q : Query) :
    ∃ (front : List String) (opening : String) (back : Block),
      q.block r = Block.ofTexts ["// " ++ q.comment r, q.header r] ++
        (Block.ofTexts (front ++ [opening ++ "`"])).indent ++
        ((q.statement r).lines.indent.indent.indent ++ ⟨2, "`" ++ q.passed r ++ ")"⟩ :: back) ∧
      (∀ t ∈ front ++ (opening ++ "`") :: back.texts, IsProgram t) ∧
      (Unbroken (q.programNames r) → Unbroken (front ++ (opening ++ "`") :: back.texts)) := by
  obtain ⟨before, opening, after, hbody, hprogram, hunbroken⟩ := sends_body r q
  refine ⟨before, opening, after.indent ++ [⟨0, "\x7d"⟩], ?_, ?_, ?_⟩
  · show Block.ofTexts ["// " ++ q.comment r] ++ Block.braces (q.header r) (q.body r) = _
    rw [hbody, sending]
    simp only [Block.braces, Block.enclose, Block.indent, Block.ofTexts, passed, List.map_append,
      List.map_cons, List.map_nil, List.append_assoc, List.cons_append, List.nil_append]
  · have hbrace : IsProgram "\x7d" := .inl (by simp)
    simpa [or_imp, forall_and, hbrace] using hprogram
  · have hbrace : '\n' ∉ "\x7d".toList := notMem_literal (by decide)
    intro hnames
    simpa [Unbroken, or_imp, forall_and, hbrace] using hunbroken hnames

/-! ## Whole lines -/

/-- The names that a method holds. -/
def writtenNames (r : Repository) (q : Query) : List String :=
  r.entity.name :: r.options.domainPackage :: (q.statement r).names ++
    match q with
    | byRelation rel | byRelationAugmented rel => [rel.accessorName]
    | store => r.entity.identity?.toList.map (·.typeName) ++ r.entity.insertableFields.map (·.name)
    | _ => []

section Lines

variable {r : Repository} {q : Query}

lemma unbroken_statement {s : Statement} (h : Unbroken s.names) : Unbroken s.lines.texts := by
  have hcount := Statement.count_texts (c := '\n') (by decide) s
  have hmark : occurrences '\n' "?" = 0 := by decide
  rw [sum_occurrences_eq_zero_iff.mpr h, hmark, Nat.mul_zero, Nat.zero_add] at hcount
  exact sum_occurrences_eq_zero_iff.mp hcount

/-- A relation gives its column and its accessor to the methods that read by it. -/
lemma unbroken_relation {rel : Relation} (hq : q = byRelation rel ∨ q = byRelationAugmented rel)
    (h : Unbroken (q.writtenNames r)) :
    '\n' ∉ (r.options.column rel.columnName).toList ∧ '\n' ∉ rel.accessorName.toList := by
  obtain rfl | rfl := hq <;>
    exact ⟨h _ (by simp [writtenNames, statement, Statement.names, Condition.names]),
      h _ (by simp [writtenNames])⟩

/-- Every argument is fixed, a column of the statement, or a field of the item. -/
lemma unbroken_arguments (h : Unbroken (q.writtenNames r)) : Unbroken (q.arguments r) := by
  intro a ha
  cases q with
  | all | allAugmented => cases ha
  | byID | byIDAugmented | deleteByID =>
    obtain rfl := List.mem_singleton.mp ha
    exact notMem_literal (by decide)
  | byRelation rel =>
    obtain rfl := List.mem_singleton.mp ha
    exact (unbroken_relation (.inl rfl) h).1
  | byRelationAugmented rel =>
    obtain rfl := List.mem_singleton.mp ha
    exact (unbroken_relation (.inr rfl) h).1
  | store =>
    obtain ⟨f, hf, rfl⟩ := List.mem_map.mp ha
    have hname : '\n' ∉ f.name.toList :=
      h _ (by simpa [writtenNames] using Or.inr (Or.inr (Or.inr (Or.inr ⟨f, hf, rfl⟩))))
    simp only [String.toList_append, List.mem_append, hname, or_false]
    exact notMem_literal (by decide)

/-- The comment, the header and the line that closes the statement are whole. -/
lemma unbroken_frame (h : Unbroken (q.writtenNames r)) :
    Unbroken ["// " ++ q.comment r, q.header r, "`" ++ q.passed r ++ ")"] := by
  have hpassed : '\n' ∉ (q.passed r).toList := by
    have harguments : ∀ a ∈ q.arguments r, '\n' ∉ a.toList := unbroken_arguments h
    have hcomma : '\n' ∉ ", ".toList := notMem_literal (by decide)
    simpa [passed, hcomma] using harguments
  have harticle : '\n' ∉ (article r.entity.name).toList := by
    obtain heq | heq := article_eq r.entity.name <;> rw [heq] <;> exact notMem_literal (by decide)
  have hentity : '\n' ∉ r.entity.name.toList := h _ (by simp [writtenNames])
  have hpackage : '\n' ∉ r.options.domainPackage.toList := h _ (by simp [writtenNames])
  have hderived := r.unbroken_derivedNames hentity hpackage
  have hrelation := fun rel hq => @unbroken_relation r q rel hq h
  simp only [Unbroken, List.forall_mem_cons] at hderived ⊢
  -- what is left of each method are its fixed words
  cases q with
  | all | byID | allAugmented | byIDAugmented | byRelation _ | byRelationAugmented _ | store | deleteByID =>
    unfold comment
    simp only [header, methodName, results, parameters, String.intercalate_nil,
      String.intercalate_singleton, String.toList_append, List.mem_append, not_or, hentity, hpassed,
      hderived, harticle, hrelation, true_or, or_true, not_false_eq_true, List.not_mem_nil,
      false_imp_iff, implies_true, true_and, and_true]
    and_intros <;> exact notMem_literal (by decide)

/-- The texts of a block: its comment, its header, and around the statement and the line that closes it only
lines of the program. -/
lemma exists_texts_eq (r : Repository) (q : Query) :
    ∃ before after, (q.block r).texts = ("// " ++ q.comment r) :: q.header r :: (before ++
        ((q.statement r).lines.texts ++ ("`" ++ q.passed r ++ ")") :: after)) ∧
      (∀ t ∈ before ++ after, IsProgram t) ∧
      (Unbroken (q.programNames r) → Unbroken (before ++ after)) := by
  obtain ⟨front, opening, back, hblock, hprogram, hunbroken⟩ := exists_block_eq r q
  refine ⟨front ++ [opening ++ "`"], back.texts, ?_, ?_, ?_⟩
  · rw [hblock]
    simp
  · simpa using hprogram
  · simpa using hunbroken

/-- Around the statement stand only lines that do not begin like lines of statements. -/
lemma exists_texts_outside (r : Repository) (q : Query) :
    ∃ before after, (q.block r).texts =
        before ++ ((q.statement r).lines.texts ++ ("`" ++ q.passed r ++ ")") :: after) ∧
      (∀ t ∈ before, Statement.Outside t) ∧
      ∀ t ∈ ("`" ++ q.passed r ++ ")") :: after, Statement.Outside t := by
  obtain ⟨before, after, htexts, hprogram, -⟩ := exists_texts_eq r q
  have houtside : ∀ t ∈ before ++ after, Statement.Outside t := by
    have hapart : ∀ c ∈ ['_', 'd', 'e', 'i', 'r', '\x7d', 'f'], c ∉ Statement.heads := by
      simp [Statement.heads]
    exact fun t ht c hc => hapart c ((hprogram t ht).head?_mem c hc)
  have hframe : ∀ t ∈ ["// " ++ q.comment r, q.header r, "`" ++ q.passed r ++ ")"],
      Statement.Outside t := by
    simp [Statement.Outside, header, Statement.heads]
  simp only [List.forall_mem_cons, List.forall_mem_append] at hframe houtside
  refine ⟨("// " ++ q.comment r) :: q.header r :: before, after, htexts, ?_, ?_⟩
  · exact List.forall_mem_cons.mpr ⟨hframe.1, List.forall_mem_cons.mpr ⟨hframe.2.1, houtside.1⟩⟩
  · exact List.forall_mem_cons.mpr ⟨hframe.2.2.1, houtside.2⟩

lemma programNames_subset (r : Repository) (q : Query) : q.programNames r ⊆ q.writtenNames r := by
  cases q with
  | store =>
    intro n hn
    have hidentity : n ∈ r.entity.identity?.toList.map (·.typeName) := hn
    simp [writtenNames, -List.mem_map, hidentity]
  | _ => simp [programNames, writtenNames]

/-- The texts of a block whose names are whole are lines. -/
lemma isLine_block (h : Unbroken (q.writtenNames r)) : ∀ t ∈ (q.block r).texts, IsLine t := by
  intro t ht
  obtain ⟨before, after, htexts, hprogram, hunbroken⟩ := exists_texts_eq r q
  have hframe := unbroken_frame h
  have hstatement : Unbroken (q.statement r).lines.texts := by
    refine unbroken_statement (h.subset ?_)
    intro n hn
    simp [writtenNames, hn]
  have hprogramLines := hunbroken (h.subset (programNames_subset r q))
  have hclosing : ∀ t ∈ ["// " ++ q.comment r, q.header r, "`" ++ q.passed r ++ ")"],
      t.toList.head? ≠ some '\t' := by
    simp [header]
  have hcases : t ∈ ["// " ++ q.comment r, q.header r, "`" ++ q.passed r ++ ")"] ∨
      t ∈ (q.statement r).lines.texts ∨ t ∈ before ++ after := by
    rw [htexts] at ht
    simp only [List.mem_cons, List.mem_append] at ht ⊢
    tauto
  obtain ht | ht | ht := hcases
  · exact ⟨hframe t ht, hclosing t ht⟩
  · obtain ⟨c, hc, hhead⟩ := Statement.head?_mem_heads _ t ht
    refine ⟨hstatement t ht, fun htab => ?_⟩
    obtain rfl : c = '\t' := Option.some.inj (hhead.symm.trans htab)
    exact absurd hc (by decide)
  · exact ⟨hprogramLines t ht, fun htab => absurd ((hprogram t ht).head?_mem _ htab) (by decide)⟩

/-- A block whose names are whole is read back line by line. -/
lemma readLines_block (h : Unbroken (q.writtenNames r)) :
    readLines (q.block r).render = (q.block r).texts ++ [""] := readLines_render (isLine_block h)

end Lines

/-- The relation by which the method reads. -/
def relation? : Query → Option Relation
  | byRelation rel | byRelationAugmented rel => some rel
  | _ => none

lemma mem_relations {e : Entity} {relations : List Relation} {q : Query} {rel : Relation}
    (hq : q ∈ ofEntity e relations) (hrel : q.relation? = some rel) : rel ∈ relations := by
  unfold ofEntity at hq
  cases q with
  | byRelation rel' =>
    obtain rfl := Option.some.inj hrel
    cases haugmented : e.isAugmented <;> simpa [haugmented] using hq
  | byRelationAugmented rel' =>
    obtain rfl := Option.some.inj hrel
    cases haugmented : e.isAugmented <;> simp_all
  | _ => cases hrel

lemma byRelation_mem {e : Entity} {relations : List Relation} {rel : Relation} (h : rel ∈ relations) :
    byRelation rel ∈ ofEntity e relations := by
  cases haugmented : e.isAugmented <;> simp [ofEntity, haugmented, h]

/-- What holds of the table, the columns and the relations of a repository holds of all names in its
statements. -/
lemma forall_mem_names {P : String → Prop} {r : Repository} {q : Query} (hq : q ∈ r.queries)
    (htable : P r.options.table) (hkey : P r.identityColumn)
    (hinserted : ∀ f ∈ r.entity.insertableFields, P (r.options.column f.column))
    (hrelations : ∀ rel ∈ r.relations, P rel.joinedEntityName ∧ P (r.options.column rel.columnName)) :
    ∀ n ∈ (q.statement r).names, P n := by
  have hjoins : ∀ j ∈ r.joins, P j.table ∧ P j.column := by
    intro j hj
    obtain ⟨rel, hrel, rfl⟩ := List.mem_map.mp hj
    exact hrelations rel hrel
  have hselect : ∀ {joins first others single}, (∀ j ∈ joins, P j.table ∧ P j.column) →
      (∀ c ∈ first :: others, ∀ n ∈ c.names, P n) →
      ∀ n ∈ (Statement.select r.options.table joins first others single).names, P n := by
    intro joins first others single hjoins hconditions n hn
    simp only [Statement.names, List.mem_append, List.mem_cons, List.mem_map, List.mem_flatMap,
      List.not_mem_nil, or_false] at hn
    obtain (((rfl | ⟨j, hj, rfl⟩) | rfl) | ⟨j, hj, rfl | rfl | rfl | rfl | rfl⟩) | ⟨c, hc, hn⟩ := hn
    · exact htable
    · exact (hjoins j hj).1
    · exact htable
    · exact (hjoins j hj).1
    · exact htable
    · exact (hjoins j hj).2
    · exact (hjoins j hj).1
    · exact (hjoins j hj).1
    · exact hconditions c (List.mem_cons.mpr hc) n hn
  cases q with
  | all => exact hselect (by simp) (by simp [Condition.names])
  | byID => exact hselect (by simp) (by simp [Condition.names, hkey])
  | allAugmented => exact hselect hjoins (by simp [Condition.names, htable])
  | byIDAugmented => exact hselect hjoins (by simp [Condition.names, htable, hkey])
  | byRelation rel =>
    have hcolumn := (hrelations rel (mem_relations hq rfl)).2
    exact hselect (by simp) (by simp [Condition.names, htable, hcolumn])
  | byRelationAugmented rel =>
    have hcolumn := (hrelations rel (mem_relations hq rfl)).2
    exact hselect hjoins (by simp [Condition.names, htable, hcolumn])
  | store =>
    refine List.forall_mem_cons.mpr ⟨htable, fun n hn => ?_⟩
    obtain ⟨f, hf, rfl⟩ := List.mem_map.mp hn
    exact hinserted f hf
  | deleteByID => simp [statement, Statement.names, htable, hkey]

end Query

/-! ## Files -/

namespace Repository

/-- None of the names has a line feed: the entity, its package and its table, the fields and their columns,
and the relations. -/
structure IsUnbroken (r : Repository) : Prop where
  entity : '\n' ∉ r.entity.name.toList
  package : '\n' ∉ r.options.domainPackage.toList
  table : '\n' ∉ r.options.table.toList
  fields : ∀ f ∈ r.entity.fields, '\n' ∉ f.name.toList ∧ '\n' ∉ f.column.toList
  relations : ∀ rel ∈ r.relations, '\n' ∉ rel.accessorName.toList ∧ '\n' ∉ rel.columnName.toList ∧
    '\n' ∉ rel.joinedEntityName.toList

namespace IsUnbroken

variable {r : Repository}

lemma column {column : String} (h : '\n' ∉ column.toList) : '\n' ∉ (r.options.column column).toList :=
  fun hmem => h (QueryOptions.mem_of_mem_column hmem)

lemma identityColumn (h : r.IsUnbroken) : '\n' ∉ r.identityColumn.toList := by
  unfold Repository.identityColumn
  cases hidentity : r.entity.identity? with
  | none => exact notMem_literal (by decide)
  | some f => exact column (h.fields f (List.mem_of_find?_eq_some hidentity)).2

lemma statement (h : r.IsUnbroken) {q : Query} (hq : q ∈ r.queries) : Unbroken (q.statement r).names := by
  refine Query.forall_mem_names hq h.table h.identityColumn ?_ ?_
  · exact fun f hf => column (h.fields f (List.mem_of_mem_filter hf)).2
  · exact fun rel hrel => ⟨(h.relations rel hrel).2.2, column (h.relations rel hrel).2.1⟩

end IsUnbroken

/-- The names in a method are names of the repository, if the method is one of its methods, and the type of
the identity. -/
lemma unbroken_writtenNames {r : Repository} {q : Query} (hq : q ∈ r.queries) (h : r.IsUnbroken)
    (hstore : q = .store → Unbroken (r.entity.identity?.toList.map (·.typeName))) :
    Unbroken (q.writtenNames r) := by
  refine List.forall_mem_cons.mpr ⟨h.entity, List.forall_mem_cons.mpr ⟨h.package, ?_⟩⟩
  refine List.forall_mem_append.mpr ⟨h.statement hq, ?_⟩
  cases q with
  | byRelation rel | byRelationAugmented rel =>
    exact List.forall_mem_singleton.mpr (h.relations rel (Query.mem_relations hq rfl)).1
  | store =>
    refine List.forall_mem_append.mpr ⟨hstore rfl, fun n hn => ?_⟩
    obtain ⟨f, hf, rfl⟩ := List.mem_map.mp hn
    exact (h.fields f (List.mem_of_mem_filter hf)).1
  | _ => simp

/-- A file is its first line and the blocks of its methods, each behind an empty line. -/
lemma file_eq_render (r : Repository) :
    r.file = (Block.ofTexts [fileHeader] ++ r.queries.flatMap fun q => Block.gap ++ q.block r).render := by
  have hblocks : ∀ (queries : List Query) (d : Draft),
      (queries.foldl (fun d q => d.blank.block (q.block r)) d).text =
        d.text ++ Block.render (queries.flatMap fun q => Block.gap ++ q.block r) := by
    intro queries
    induction queries with
    | nil => simp [Block.render]
    | cons q rest ih =>
      intro d
      rw [List.foldl_cons, ih, List.flatMap_cons, render_append, render_append, ← String.append_assoc,
        ← String.append_assoc]
      rfl
  rw [file, hblocks, render_append]
  rfl

/-- A file whose names are whole is read back line by line. -/
lemma readLines_file {r : Repository} (h : ∀ q ∈ r.queries, Unbroken (q.writtenNames r)) :
    readLines r.file = fileHeader :: (r.queries.flatMap fun q => "" :: (q.block r).texts) ++ [""] := by
  have hheader : IsLine fileHeader := ⟨by decide, by decide⟩
  have hgap : IsLine "" := ⟨by decide, by decide⟩
  rw [file_eq_render, readLines_render]
  · simp
  · intro t ht
    simp only [Block.texts_append, Block.texts_ofTexts, Block.texts_flatMap, Block.texts_gap,
      List.mem_append, List.mem_singleton, List.mem_flatMap] at ht
    obtain rfl | ⟨q, hq, rfl | ht⟩ := ht
    · exact hheader
    · exact hgap
    · exact Query.isLine_block (h q hq) t ht

end Repository

end DeclGen
