import DeclGen.Proofs.Qualifier.Stripping
import DeclGen.Proofs.Queries.Blocks
import DeclGen.Proofs.Source.Lexed
import DeclGen.Unicode.Blank

/-!
# Methods as they are declared

The file of a repository is read back as the methods that it declares, each with the number of its parameters
(`declarations_file`), and as the fields that it passes with a new row (`boundFields_file`).
-/

namespace DeclGen

open Text

/-! ## Reading declarations -/

/-- How many parts stand between parentheses: none in a blank text, and else one more than there are
commas. -/
def partCount (text : List Char) : Nat :=
  if text.all Unicode.isBlank then 0 else text.count ',' + 1

/-- A text cut at the first parenthesis that opens. -/
def cutAtOpening (text : String) : String × List Char :=
  (String.ofList (text.toList.takeWhile (· != '(')), (text.toList.dropWhile (· != '(')).drop 1)

/-- The parts of a list of parameters, which ends where the first parenthesis closes. -/
def parameterCount (parameters : List Char) : Nat := partCount (parameters.takeWhile (· != ')'))

/-- The method that a line declares on a type, with the number of its parameters. -/
def declaration? (type line : String) : Option (String × Nat) :=
  (afterHead? ("func (s *" ++ type ++ ") ") line).map fun rest =>
    ((cutAtOpening rest).1, parameterCount (cutAtOpening rest).2)

/-- The methods that a text declares on a type. -/
def declarations (type text : String) : List (String × Nat) :=
  (readLines text).filterMap (declaration? type)

/-- The field that is passed by an argument. -/
def boundField? (argument : List Char) : Option String :=
  (afterHead? " item." (String.ofList argument)).map fun rest =>
    String.ofList (rest.toList.takeWhile (· != ')'))

/-- The fields that are passed with the statement that adds a row. -/
def boundFields (text : String) : List String :=
  match ((readLines text).dropWhile fun l => !beginsWith "INSERT INTO " l).dropWhile fun l =>
      !beginsWith "`" l with
  | [] => []
  | l :: _ => (l.toList.splitOn ',').filterMap boundField?

lemma cutAtOpening_append {name : String} (h : '(' ∉ name.toList) (rest : String) :
    cutAtOpening (name ++ "(" ++ rest) = (name, rest.toList) := by
  have hlist : (name ++ "(" ++ rest).toList = name.toList ++ '(' :: rest.toList := by simp
  rw [cutAtOpening, hlist, takeWhile_ne_append, takeWhile_ne_of_notMem h, dropWhile_ne_append h,
    String.ofList_toList]
  rfl

/-! ## Parameters -/

/-- A text with a type behind it reads as one parameter: up to where a parenthesis closes, if one does, no
comma stands in it and something does. -/
structure IsParameter (text : String) : Prop where
  whole : ',' ∉ text.toList.takeWhile (· != ')')
  named : ')' ∈ text.toList → ∃ c ∈ text.toList.takeWhile (· != ')'), Unicode.isBlank c = false

/-- One parameter is read where something is written and no comma. -/
lemma parameterCount_eq_one_iff {parameters : List Char} :
    parameterCount parameters = 1 ↔ ',' ∉ parameters.takeWhile (· != ')') ∧
      ∃ c ∈ parameters.takeWhile (· != ')'), Unicode.isBlank c = false := by
  rw [parameterCount, partCount, ← List.count_eq_zero]
  cases hblank : (parameters.takeWhile (· != ')')).all Unicode.isBlank with
  | true =>
    have hall := List.all_eq_true.mp hblank
    simpa using fun _ c hc => hall c hc
  | false =>
    have hsome : ∃ c ∈ parameters.takeWhile (· != ')'), Unicode.isBlank c = false := by
      simpa using List.all_eq_false.mp hblank
    simp [hsome]

lemma parameterCount_string (text : String) :
    parameterCount (text ++ " string").toList = 1 ↔ IsParameter text := by
  have hcomma : ',' ∉ " string".toList.takeWhile (· != ')') := by decide
  have hletter : 's' ∈ " string".toList.takeWhile (· != ')') := by decide
  simp only [parameterCount_eq_one_iff, String.toList_append, mem_takeWhile_ne_append, hcomma, and_false,
    or_false]
  constructor
  · rintro ⟨hwhole, c, hc, hblank⟩
    exact ⟨hwhole, fun hclosed => ⟨c, hc.resolve_right fun h => h.1 hclosed, hblank⟩⟩
  · rintro ⟨hwhole, hnamed⟩
    refine ⟨hwhole, ?_⟩
    -- the type is read only where no parenthesis closes in front of it
    by_cases hclosed : ')' ∈ text.toList
    · obtain ⟨c, hc, hblank⟩ := hnamed hclosed
      exact ⟨c, .inl hc, hblank⟩
    · exact ⟨'s', .inr ⟨hclosed, hletter⟩, by decide⟩

/-! ## Names -/

/-- A name as it is written or as it is configured. -/
def IsIdentifying (name : String) : Prop := Naming.isIdentifier name ∨ Source.IsName name

/-- No space, parenthesis, comma or line feed stands in a name. -/
lemma IsIdentifying.notMem {name : String} (h : IsIdentifying name) :
    ∀ c ∈ [' ', '(', ')', ',', '\n'], c ∉ name.toList := by
  have hword : ∀ c ∈ [' ', '(', ')', ',', '\n'], Qualifier.isWordChar c = false := by
    simp only [List.forall_mem_cons, List.not_mem_nil, false_imp_iff, implies_true, and_true]
    decide
  have hname : ∀ c ∈ [' ', '(', ')', ',', '\n'],
      Unicode.isNameStart c = false ∧ Unicode.isNamePart c = false := by
    simp only [List.forall_mem_cons, List.not_mem_nil, false_imp_iff, implies_true, and_true]
    decide
  intro c hc
  obtain h | h := h
  · exact (Qualifier.isWord_of_isIdentifier h).notMem (hword c hc)
  · exact h.notMem (hname c hc).1 (hname c hc).2

/-! ## Lines of a repository -/

lemma declaration?_of_not_beginsWith {type line : String} (h : beginsWith "func " line = false) :
    declaration? type line = none := by
  rw [declaration?, Option.map_eq_none_iff, Option.eq_none_iff_forall_ne_some]
  intro rest hrest
  have hline := afterHead?_eq_some_iff.mp hrest
  have hbegins : beginsWith "func " line = true :=
    beginsWith_iff.mpr ⟨("(s *" ++ type ++ ") " ++ rest).toList, by simp [hline]⟩
  exact Bool.false_ne_true (h.symm.trans hbegins)

namespace Query

section Lines

variable {r : Repository} {q : Query}

/-- How many parameters are read in the header of the method. -/
def declaredCount (r : Repository) (q : Query) : Nat :=
  parameterCount (", ".intercalate (q.parameters r)).toList

lemma not_beginsWith_func_of_isProgram {t : String} (h : IsProgram t) : beginsWith "func " t = false := by
  obtain hhead | hfor := h
  · refine Bool.eq_false_iff.mpr fun hfunc => ?_
    have hf := hhead 'f' (head?_of_beginsWith hfunc (by decide))
    exact absurd hf (by decide)
  · -- the second letter tells the two words apart
    obtain ⟨rest, hrest⟩ := beginsWith_iff.mp hfor
    simp [beginsWith, hrest, List.isPrefixOf]

lemma opening_notMem_methodName (h : ∀ rel ∈ q.relation?, '(' ∉ rel.accessorName.toList) :
    '(' ∉ q.methodName.toList := by
  cases q with
  | byRelation rel | byRelationAugmented rel =>
    have haccessor := h rel rfl
    simp [methodName, haccessor]
  | _ => decide

lemma declaration?_header (h : ∀ rel ∈ q.relation?, '(' ∉ rel.accessorName.toList) :
    declaration? r.typeName (q.header r) = some (q.methodName, q.declaredCount r) := by
  have hline : q.header r = "func (s *" ++ r.typeName ++ ") " ++ (q.methodName ++ "(" ++
      (", ".intercalate (q.parameters r) ++ ") " ++ q.results r ++ " \x7b")) := by
    simp [header, String.append_assoc]
  have hlist : (", ".intercalate (q.parameters r) ++ ") " ++ q.results r ++ " \x7b").toList =
      (", ".intercalate (q.parameters r)).toList ++ ')' :: (" " ++ q.results r ++ " \x7b").toList := by
    simp
  rw [declaration?, afterHead?_eq_some_iff.mpr hline, Option.map_some,
    cutAtOpening_append (opening_notMem_methodName h), hlist, parameterCount, takeWhile_ne_append]
  rfl

/-- Of the lines of a method only its header declares something. -/
lemma filterMap_declaration?_block (h : ∀ rel ∈ q.relation?, '(' ∉ rel.accessorName.toList) :
    (q.block r).texts.filterMap (declaration? r.typeName) = [(q.methodName, q.declaredCount r)] := by
  obtain ⟨before, after, htexts, hprogram, -⟩ := exists_texts_eq r q
  have hcomment : declaration? r.typeName ("// " ++ q.comment r) = none :=
    declaration?_of_not_beginsWith (by simp [beginsWith, List.isPrefixOf])
  have hother : ∀ t ∈ before ++ ((q.statement r).lines.texts ++ ("`" ++ q.passed r ++ ")") :: after),
      declaration? r.typeName t = none := by
    intro t ht
    refine declaration?_of_not_beginsWith ?_
    simp only [List.mem_append, List.mem_cons] at ht
    obtain ht | ht | rfl | ht := ht
    · exact not_beginsWith_func_of_isProgram (hprogram t (List.mem_append_left _ ht))
    · obtain ⟨c, hc, hhead⟩ := Statement.head?_mem_heads _ t ht
      refine Bool.eq_false_iff.mpr fun hfunc => ?_
      have hf := head?_of_beginsWith hfunc (c := 'f') (by decide)
      obtain rfl : c = 'f' := Option.some.inj (hhead.symm.trans hf)
      exact absurd hc (by decide)
    · simp [beginsWith, List.isPrefixOf]
    · exact not_beginsWith_func_of_isProgram (hprogram t (List.mem_append_right _ ht))
  rw [htexts, List.filterMap_cons_none hcomment, List.filterMap_cons_some (declaration?_header h),
    List.filterMap_eq_nil_iff.mpr hother]

end Lines

end Query

section File

variable {r : Repository}

/-- The file of a repository declares its methods in order. -/
lemma declarations_file (h : ∀ q ∈ r.queries, Unbroken (q.writtenNames r))
    (hnames : ∀ rel ∈ r.relations, '(' ∉ rel.accessorName.toList) :
    declarations r.typeName r.file = r.queries.map fun q => (q.methodName, q.declaredCount r) := by
  have hheader : declaration? r.typeName Repository.fileHeader = none :=
    declaration?_of_not_beginsWith (by decide)
  have hgap : declaration? r.typeName "" = none := declaration?_of_not_beginsWith (by decide)
  have hblock : ∀ q ∈ r.queries, ("" :: (q.block r).texts).filterMap (declaration? r.typeName) =
      [(q.methodName, q.declaredCount r)] := by
    intro q hq
    rw [List.filterMap_cons_none hgap]
    exact Query.filterMap_declaration?_block fun rel hrel => hnames rel (Query.mem_relations hq hrel)
  rw [declarations, Repository.readLines_file h, List.cons_append, List.filterMap_cons_none hheader,
    List.filterMap_append, List.filterMap_cons_none hgap, List.filterMap_nil, List.append_nil,
    List.filterMap_flatMap, List.flatMap_congr hblock]
  exact List.map_eq_flatMap.symm

/-- An argument is read as the field that it names, whether or not the parenthesis closes behind it. -/
lemma boundField?_item {n : String} (h : ')' ∉ n.toList) {behind : List Char}
    (hbehind : behind = [] ∨ behind = [')']) :
    boundField? (" item.".toList ++ n.toList ++ behind) = some n := by
  have hcut : afterHead? " item." (String.ofList (" item.".toList ++ n.toList ++ behind)) =
      some (String.ofList (n.toList ++ behind)) := by
    rw [afterHead?_eq_some_iff, ← String.toList_inj]
    simp
  have hname : (n.toList ++ behind).takeWhile (· != ')') = n.toList := by
    obtain rfl | rfl := hbehind
    · rw [List.append_nil, takeWhile_ne_of_notMem h]
    · rw [takeWhile_ne_append, takeWhile_ne_of_notMem h]
  rw [boundField?, hcut, Option.map_some, String.toList_ofList, hname, String.ofList_toList]

/-- The arguments of an insert are cut at their commas and read one by one. -/
lemma filterMap_boundField?_splitOn {names : List String}
    (hnames : ∀ n ∈ names, ')' ∉ n.toList ∧ ',' ∉ n.toList) {front : List Char} (hfront : ',' ∉ front)
    (hopen : boundField? (front ++ [')']) = boundField? front) :
    ((front ++ (String.join (names.map fun n => ", item." ++ n)).toList ++ [')']).splitOn ',').filterMap
      boundField? = (boundField? front).toList ++ names := by
  -- on the names, with the piece in front of the next comma carried along: the parenthesis may close it
  induction names generalizing front with
  | nil =>
    have hfree : ',' ∉ front ++ [')'] := by simp [hfront]
    have hlist : front ++ (String.join (([] : List String).map fun n => ", item." ++ n)).toList ++ [')'] =
        front ++ [')'] := by
      simp
    rw [hlist, List.splitOn_eq_singleton hfree, List.filterMap_cons, hopen, List.append_nil]
    cases boundField? front <;> rfl
  | cons n rest ih =>
    obtain ⟨hn, hrest⟩ := List.forall_mem_cons.mp hnames
    have hitem : ',' ∉ " item.".toList ++ n.toList := by simp [hn.2]
    have hread := boundField?_item hn.1 (.inl rfl)
    rw [List.append_nil] at hread
    have hlist : front ++ (String.join ((n :: rest).map fun n => ", item." ++ n)).toList ++ [')'] =
        front ++ ',' :: ((" item.".toList ++ n.toList) ++
          (String.join (rest.map fun n => ", item." ++ n)).toList ++ [')']) := by
      simp
    rw [hlist, List.splitOn_append_cons_self, List.splitOn_eq_singleton hfront, List.filterMap_append,
      ih hrest hitem ((boundField?_item hn.1 (.inr rfl)).trans hread.symm), hread, List.filterMap_cons]
    cases boundField? front <;> rfl

/-- Storing is the last method but one, and it is there once. -/
lemma exists_ofEntity_eq (e : Entity) (relations : List Relation) :
    ∃ front, Query.ofEntity e relations = front ++ [.store, .deleteByID] ∧ Query.store ∉ front := by
  refine ⟨_, rfl, ?_⟩
  cases e.isAugmented <;> simp

/-- Only the method that stores a row has lines of an insert. -/
lemma not_beginsWith_insert_block {q : Query} (hq : q ≠ .store) :
    ∀ t ∈ (q.block r).texts, beginsWith "INSERT INTO " t = false := by
  have hapart : ∀ c ∈ (q.statement r).ownHeads, c ≠ 'I' := by
    cases q with
    | store => exact absurd rfl hq
    | _ => simp [Query.statement, Statement.ownHeads]
  have houtside : ∀ t, Statement.Outside t → beginsWith "INSERT INTO " t = false :=
    fun t ht => ht.not_beginsWith (c := 'I') (by decide) (by decide)
  obtain ⟨before, after, htexts, hbefore, hafter⟩ := Query.exists_texts_outside r q
  intro t ht
  rw [htexts, List.mem_append, List.mem_append] at ht
  obtain ht | ht | ht := ht
  · exact houtside t (hbefore t ht)
  · obtain ⟨c, hc, hown⟩ := Statement.head?_mem_ownHeads _ t ht
    refine Bool.eq_false_iff.mpr fun hinsert => hapart c hc ?_
    exact Option.some.inj (hown.symm.trans (head?_of_beginsWith hinsert (by decide)))
  · exact houtside t (hafter t ht)

/-- The lines of a file down to the insert, those between it and its arguments, and the rest. -/
lemma exists_readLines_insert (h : ∀ q ∈ r.queries, Unbroken (q.writtenNames r)) :
    ∃ top middle bottom, readLines r.file = top ++ ("INSERT INTO " ++ r.options.table) ::
        (middle ++ ("`" ++ Query.store.passed r ++ ")") :: bottom) ∧
      (∀ t ∈ top, beginsWith "INSERT INTO " t = false) ∧ ∀ t ∈ middle, beginsWith "`" t = false := by
  obtain ⟨front, hqueries, hfront⟩ := exists_ofEntity_eq r.entity r.relations
  obtain ⟨before, after, htexts, hbefore, -⟩ := Query.exists_texts_outside r .store
  -- no other method has a line that begins an insert, so the first one is that of the method that stores
  refine ⟨Repository.fileHeader :: (front.flatMap fun q => "" :: (q.block r).texts) ++ ("" :: before),
    (Query.store.statement r).lines.texts.tail,
    after ++ ("" :: (Query.deleteByID.block r).texts ++ [""]), ?_, ?_, ?_⟩
  · rw [Repository.readLines_file h, Repository.queries, hqueries]
    simp [htexts, Query.statement, Statement.texts_insert]
  · have hempty : beginsWith "INSERT INTO " "" = false := by decide
    intro t ht
    simp only [List.mem_append, List.mem_cons, List.mem_flatMap] at ht
    obtain (rfl | ⟨q, hq, rfl | ht⟩) | rfl | ht := ht
    · decide
    · exact hempty
    · exact not_beginsWith_insert_block (fun heq => hfront (heq ▸ hq)) t ht
    · exact hempty
    · exact (hbefore t ht).not_beginsWith (c := 'I') (by decide) (by decide)
  · simp [Query.statement, Statement.texts_insert, beginsWith, List.isPrefixOf]

/-- The file of a repository passes the fields that an insert writes. -/
lemma boundFields_file (h : ∀ q ∈ r.queries, Unbroken (q.writtenNames r))
    (hnames : ∀ f ∈ r.entity.insertableFields, ')' ∉ f.name.toList ∧ ',' ∉ f.name.toList) :
    boundFields r.file = r.entity.insertableFields.map (·.name) := by
  obtain ⟨top, middle, bottom, hread, htop, hmiddle⟩ := exists_readLines_insert h
  have hinsert : beginsWith "INSERT INTO " ("INSERT INTO " ++ r.options.table) = true :=
    beginsWith_iff.mpr ⟨_, String.toList_append⟩
  have hquote : beginsWith "`" ("`" ++ Query.store.passed r ++ ")") = true :=
    beginsWith_iff.mpr ⟨_, by rw [String.append_assoc, String.toList_append]⟩
  have hfirst : beginsWith "`" ("INSERT INTO " ++ r.options.table) = false := by
    simp [beginsWith, List.isPrefixOf]
  have htop' : ∀ t ∈ top, (!beginsWith "INSERT INTO " t) = true := fun t ht => by simp [htop t ht]
  have hmiddle' : ∀ t ∈ middle, (!beginsWith "`" t) = true := fun t ht => by simp [hmiddle t ht]
  have hclosing : ("`" ++ Query.store.passed r ++ ")").toList = ['`'] ++
      (String.join ((r.entity.insertableFields.map (·.name)).map fun n => ", item." ++ n)).toList ++
        [')'] := by
    have harguments : Query.store.passed r =
        String.join ((r.entity.insertableFields.map (·.name)).map fun n => ", item." ++ n) := by
      have hitem : ∀ n : String, ", " ++ ("item." ++ n) = ", item." ++ n := fun n => by
        rw [← String.append_assoc]
        rfl
      simp only [Query.passed, Query.arguments, List.map_map, Function.comp_def, hitem]
    rw [harguments]
    simp
  have hopen : boundField? (['`'] ++ [')']) = boundField? ['`'] := by decide
  rw [boundFields, hread, List.dropWhile_append_of_pos htop',
    List.dropWhile_cons_of_neg (by simp [hinsert]), List.dropWhile_cons_of_pos (by simp [hfirst]),
    List.dropWhile_append_of_pos hmiddle', List.dropWhile_cons_of_neg (by simp [hquote])]
  simp only [hclosing]
  rw [filterMap_boundField?_splitOn _ (by decide) hopen]
  · rfl
  · intro n hn
    obtain ⟨f, hf, rfl⟩ := List.mem_map.mp hn
    exact hnames f hf

end File

end DeclGen
