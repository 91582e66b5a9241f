import DeclGen.Config.Basic
import DeclGen.Proofs.Queries.Declarations
import DeclGen.Proofs.ZeroValue

/-!
# Tests in step with queries

The test of a repository is read back as the methods that it calls, each with the number of its arguments,
and as the fields that it sets before it stores a row. What it calls is what the file of queries declares, in
the same order, and what it sets is what that file passes with a new row. The numbers agree exactly when what
is written for a parameter reads as one parameter (`mirrors_queries`).
-/

namespace DeclGen

open Text

/-! ## Names and types on one line -/

/-- An entity that is called by identifiers, as its fields are, with columns and types on one line. -/
structure Entity.IsNamed (e : Entity) : Prop where
  name : IsIdentifying e.name
  fields : ∀ f ∈ e.fields, IsIdentifying f.name ∧ '\n' ∉ f.column.toList ∧ '\n' ∉ f.typeName.toList

/-- An entity that is called by identifiers, as its fields are, with types on one line, whatever its columns. -/
structure Entity.IsSpelled (e : Entity) : Prop where
  name : IsIdentifying e.name
  fields : ∀ f ∈ e.fields, IsIdentifying f.name ∧ '\n' ∉ f.typeName.toList

lemma Entity.IsNamed.isSpelled {e : Entity} (h : e.IsNamed) : e.IsSpelled where
  name := h.name
  fields f hf := ⟨(h.fields f hf).1, (h.fields f hf).2.2⟩

lemma Field.newLine_notMem_storeLiteral {f : Field} (hname : '\n' ∉ f.name.toList)
    (htype : '\n' ∉ f.typeName.toList) : '\n' ∉ f.storeLiteral.toList := by
  have hzero : '\n' ∉ f.signature.zeroValue.toList := notMem_zeroValueFor (by decide) htype
  unfold Field.storeLiteral
  split_ifs
  · exact hzero
  · simp [hname]
  · decide
  · decide
  · decide
  · exact hzero

namespace Scaffold

lemma mem_fields_of_probeField? {e : Entity} {f : Field} (h : e.probeField? = some f) : f ∈ e.fields := by
  unfold Entity.probeField? at h
  cases hinserted : e.insertableFields.head? with
  | none => exact List.mem_of_head? (by simpa [hinserted] using h)
  | some g =>
    obtain rfl : g = f := by simpa [hinserted] using h
    exact List.mem_of_mem_filter (List.mem_of_head? hinserted)

lemma isIdentifying_probe {e : Entity} (h : e.IsSpelled) : IsIdentifying (probe e) := by
  unfold probe
  cases hprobe : e.probeField? with
  | none => exact .inl (by decide)
  | some f => exact (h.fields f (mem_fields_of_probeField? hprobe)).1

/-! ## Reading calls -/

/-- The method that a line calls on the repository under test, with the number of its arguments. -/
def call? (line : String) : Option (String × Nat) :=
  (afterHead? " err := s." (String.ofList (line.toList.dropWhile (· != ' '))) <|>
      afterHead? "err = s." line).map fun rest =>
    ((cutAtOpening rest).1, partCount (cutAtOpening rest).2.dropLast)

/-- The lines of the last function among others. -/
def lastFunction (ls : List String) : List String :=
  (ls.reverse.takeWhile fun l => !beginsWith "func " l).reverse

/-- The methods that the test calls on the repository, in order. -/
def calls (text : String) : List (String × Nat) := (lastFunction (readLines text)).filterMap call?

/-- The field of the item that a line sets. -/
def assignedField? (line : String) : Option String :=
  (afterHead? "item." line).map fun rest => String.ofList (rest.toList.takeWhile (· != ' '))

/-- The fields that the test sets before it stores a row. -/
def assignedFields (text : String) : List String :=
  ((lastFunction (readLines text)).takeWhile fun l => (call? l).map (·.1) != some "Store").filterMap
    assignedField?

/-! ## Lines that call -/

/-- What is printed is one argument. -/
lemma partCount_printed {expression : String} (h : ',' ∉ expression.toList) :
    partCount (printed expression).toList = 1 := by
  have hblank : (printed expression).toList.all Unicode.isBlank = false :=
    List.all_eq_false.mpr ⟨'f', by simp [printed], by decide⟩
  have hcomma : ',' ∉ (printed expression).toList := by simp [printed, h]
  rw [partCount, hblank, List.count_eq_zero.mpr hcomma]
  rfl

lemma cutAtOpening_call {method : String} (h : '(' ∉ method.toList) (arguments : String) :
    ((cutAtOpening (method ++ "(" ++ arguments ++ ")")).1,
      partCount (cutAtOpening (method ++ "(" ++ arguments ++ ")")).2.dropLast) =
      (method, partCount arguments.toList) := by
  rw [String.append_assoc, cutAtOpening_append h]
  simp

lemma afterHead?_eq_none {head text : String} (h : beginsWith head text = false) :
    afterHead? head text = none := by
  rw [Option.eq_none_iff_forall_ne_some]
  intro rest hrest
  rw [afterHead?_eq_some_iff.mp hrest] at h
  exact Bool.false_ne_true (h.symm.trans (beginsWith_iff.mpr ⟨_, String.toList_append⟩))

/-- A line that gives what a method returns to a variable calls the method. -/
lemma call?_assigned (target method arguments : String) {line : String} {n : Nat}
    (hline : line = target ++ ", err := s." ++ method ++ "(" ++ arguments ++ ")")
    (htarget : ' ' ∉ target.toList) (hmethod : '(' ∉ method.toList)
    (hcount : partCount arguments.toList = n) : call? line = some (method, n) := by
  have hlist : line.toList =
      (target.toList ++ [',']) ++ ' ' :: ("err := s." ++ (method ++ "(" ++ arguments ++ ")")).toList := by
    simp [hline]
  have hfront : ' ' ∉ target.toList ++ [','] := by simp [htarget]
  have hcut : afterHead? " err := s." (String.ofList (' ' ::
      ("err := s." ++ (method ++ "(" ++ arguments ++ ")")).toList)) =
      some (method ++ "(" ++ arguments ++ ")") := by
    rw [afterHead?_eq_some_iff, ← String.toList_inj]
    simp
  rw [call?, hlist, dropWhile_ne_append hfront, hcut, ← hcount]
  exact congrArg some (cutAtOpening_call hmethod arguments)

/-- A line that only keeps the error of a method calls the method. -/
lemma call?_reassigned (method arguments : String) {line : String} {n : Nat}
    (hline : line = "err = s." ++ method ++ "(" ++ arguments ++ ")") (hmethod : '(' ∉ method.toList)
    (hcount : partCount arguments.toList = n) : call? line = some (method, n) := by
  have hbehind : afterHead? " err := s." (String.ofList (line.toList.dropWhile (· != ' '))) = none :=
    afterHead?_eq_none (by simp [hline, beginsWith, List.isPrefixOf])
  have hcut : afterHead? "err = s." line = some (method ++ "(" ++ arguments ++ ")") :=
    afterHead?_eq_some_iff.mpr (by simp [hline, String.append_assoc])
  rw [call?, hbehind, hcut, ← hcount]
  exact congrArg some (cutAtOpening_call hmethod arguments)

/-- A line whose second word does not begin like an error calls nothing. -/
lemma call?_eq_none {line : String} {front rest : List Char} {c : Char}
    (hline : line.toList = front ++ ' ' :: c :: rest) (hfront : ' ' ∉ front) (hc : c ≠ 'e')
    (hbegins : beginsWith "err = s." line = false) : call? line = none := by
  have hbehind : beginsWith " err := s." (String.ofList (' ' :: c :: rest)) = false := by
    simp [beginsWith, List.isPrefixOf, hc.symm]
  rw [call?, hline, dropWhile_ne_append hfront, afterHead?_eq_none hbehind, afterHead?_eq_none hbegins]
  rfl

/-! ## Steps -/

/-- How many arguments the test passes to a method. -/
def passedCount : Query → Nat
  | .all | .allAugmented => 0
  | _ => 1

/-- The variable that the test gives what a method returns to, if that is more than an error. -/
def target? (e : Entity) : Query → Option String
  | .all => some (allRows e)
  | .byID => some "item0"
  | .allAugmented => some (allAugmentedRows e)
  | .byIDAugmented => some "augItem0"
  | .byRelation rel => some ("itemsBy" ++ rel.accessorName)
  | .byRelationAugmented rel => some ("augItemsBy" ++ rel.accessorName)
  | .store => some ("new" ++ e.name)
  | .deleteByID => none

/-- What the test passes to a method. -/
def argument (e : Entity) : Query → String
  | .all | .allAugmented => ""
  | .byID => printed (allRows e ++ "[0]." ++ Naming.identityField)
  | .byIDAugmented => printed (allAugmentedRows e ++ "[0]." ++ Naming.identityField)
  | .byRelation rel => printed (allRows e ++ "[0]." ++ rel.accessorName)
  | .byRelationAugmented rel => printed (allAugmentedRows e ++ "[0]." ++ rel.accessorName)
  | .store => "item"
  | .deleteByID => printed ("new" ++ e.name ++ "." ++ Naming.identityField)

/-- The line of the test that calls a method. -/
def callLine (e : Entity) (q : Query) : String :=
  (target? e q).elim "err = s." (· ++ ", err := s.") ++ q.methodName ++ "(" ++ argument e q ++ ")"

/-- The lines of the test in front of the call that stores a row. -/
def storeFront (e : Entity) (domainPackage : String) : List String :=
  ["// Store " ++ article e.name ++ " " ++ e.name ++ " record.",
    "item := new(" ++ domainPackage ++ "." ++ e.name ++ ")"] ++
  e.insertableFields.map (fun f => "item." ++ f.name ++ " = " ++ f.storeLiteral) ++ [""]

section Steps

variable {e : Entity} {domainPackage : String} {q : Query}

lemma space_notMem_target (he : e.IsNamed) (hrelation : ∀ rel ∈ q.relation?, IsIdentifying rel.accessorName) :
    ∀ target ∈ target? e q, ' ' ∉ target.toList := by
  have hname : ' ' ∉ e.name.toList := he.name.notMem _ (by decide)
  cases q with
  | byRelation rel | byRelationAugmented rel =>
    have haccessor : ' ' ∉ rel.accessorName.toList := (hrelation rel rfl).notMem _ (by decide)
    simp [target?, haccessor]
  | _ =>
    simp [target?, allRows, allAugmentedRows, Entity.augmentedName, Naming.augmentedName,
      Naming.augmentedTail, hname]

lemma partCount_argument (he : e.IsNamed) (hrelation : ∀ rel ∈ q.relation?, IsIdentifying rel.accessorName) :
    partCount (argument e q).toList = passedCount q := by
  have hname : ',' ∉ e.name.toList := he.name.notMem _ (by decide)
  have hrows : ',' ∉ (allRows e).toList := by simp [allRows, hname]
  have haugmented : ',' ∉ (allAugmentedRows e).toList := by
    simp [allAugmentedRows, Entity.augmentedName, Naming.augmentedName, Naming.augmentedTail, hname]
  cases q with
  | all | allAugmented =>
    show partCount "".toList = 0
    decide
  | store =>
    show partCount "item".toList = 1
    decide
  | byID | byIDAugmented | deleteByID =>
    exact partCount_printed (by simp [hname, hrows, haugmented, Naming.identityField])
  | byRelation rel | byRelationAugmented rel =>
    have haccessor : ',' ∉ rel.accessorName.toList := (hrelation rel rfl).notMem _ (by decide)
    exact partCount_printed (by simp [hrows, haugmented, haccessor])

/-- The line that calls a method is read as this call. -/
lemma call?_callLine (he : e.IsNamed) (hrelation : ∀ rel ∈ q.relation?, IsIdentifying rel.accessorName) :
    call? (callLine e q) = some (q.methodName, passedCount q) := by
  have hmethod : '(' ∉ q.methodName.toList :=
    Query.opening_notMem_methodName fun rel hrel => (hrelation rel hrel).notMem _ (by decide)
  have hcount := partCount_argument he hrelation
  cases htarget : target? e q with
  | none =>
    have hline : callLine e q = "err = s." ++ q.methodName ++ "(" ++ argument e q ++ ")" := by
      simp [callLine, htarget]
    exact call?_reassigned _ _ hline hmethod hcount
  | some target =>
    have hline : callLine e q =
        target ++ ", err := s." ++ q.methodName ++ "(" ++ argument e q ++ ")" := by
      simp [callLine, htarget]
    exact call?_assigned _ _ _ hline (space_notMem_target he hrelation target htarget) hmethod hcount

/-- The fields that are set call nothing. -/
lemma call?_assignment {name value : String} (h : ' ' ∉ name.toList) :
    call? ("item." ++ name ++ " = " ++ value) = none := by
  have hline : ("item." ++ name ++ " = " ++ value).toList =
      ("item." ++ name).toList ++ ' ' :: '=' :: (" " ++ value).toList := by
    simp
  refine call?_eq_none hline (by simp [h]) (by decide) ?_
  simp [beginsWith, List.isPrefixOf]

lemma call?_storeFront (he : e.IsNamed) : ∀ l ∈ storeFront e domainPackage, call? l = none := by
  intro l hl
  simp only [storeFront, List.mem_append, List.mem_cons, List.mem_map, List.not_mem_nil, or_false] at hl
  obtain ((rfl | rfl) | ⟨f, hf, rfl⟩) | rfl := hl
  · simp [call?, afterHead?, List.isPrefixOf?]
  · simp [call?, afterHead?, List.isPrefixOf?]
  · exact call?_assignment ((he.fields f (List.mem_of_mem_filter hf)).1.notMem _ (by decide))
  · decide

lemma step_store : step e domainPackage .store = storeFront e domainPackage ++ callLine e .store ::
    (noError ++ equal ("item." ++ probe e) ("new" ++ e.name ++ "." ++ probe e)) := by
  simp [step, storeFront, callLine, target?, argument, Query.methodName, ← String.toList_inj]

/-- A part of the test is one line that calls its method among lines that call nothing. -/
lemma exists_step_eq (he : e.IsNamed) (domainPackage : String) (q : Query) :
    ∃ front checks, step e domainPackage q = front ++ callLine e q :: (noError ++ checks) ∧
      (∀ l ∈ front, call? l = none) ∧ ∀ l ∈ checks, call? l = none := by
  by_cases hstore : q = .store
  · refine ⟨_, _, hstore ▸ step_store, call?_storeFront he, ?_⟩
    simp [equal, call?, afterHead?, List.isPrefixOf?]
  · -- a comment stands in front of the call, and checks behind the one for errors
    refine ⟨(step e domainPackage q).take 1, (step e domainPackage q).drop 3, ?_, ?_, ?_⟩
    · cases q with
      | store => exact absurd rfl hstore
      | _ =>
        simp [step, callLine, target?, argument, Query.methodName, noError, equal, ← String.toList_inj]
    · cases q with
      | store => exact absurd rfl hstore
      | _ => simp [step, call?, afterHead?, List.isPrefixOf?]
    · cases q with
      | store => exact absurd rfl hstore
      | _ => simp [step, noError, equal, allRows, allAugmentedRows, call?, afterHead?, List.isPrefixOf?]

/-- Each part of the test calls its method, and nothing else. -/
lemma filterMap_call?_step (he : e.IsNamed)
    (hrelation : ∀ rel ∈ q.relation?, IsIdentifying rel.accessorName) :
    (step e domainPackage q).filterMap call? = [(q.methodName, passedCount q)] := by
  obtain ⟨front, checks, hstep, hfront, hchecks⟩ := exists_step_eq he domainPackage q
  have hnoError : ∀ l ∈ noError, call? l = none := by decide
  have hbehind := List.forall_mem_append.mpr ⟨hnoError, hchecks⟩
  rw [hstep, List.filterMap_append, List.filterMap_eq_nil_iff.mpr hfront,
    List.filterMap_cons_some (call?_callLine he hrelation), List.filterMap_eq_nil_iff.mpr hbehind]
  rfl

/-- The lines of a part of the test are whole. -/
lemma unbroken_step (he : e.IsSpelled) (hpackage : '\n' ∉ domainPackage.toList)
    (hrelation : ∀ rel ∈ q.relation?, IsIdentifying rel.accessorName) :
    Unbroken (step e domainPackage q) := by
  have hentity : '\n' ∉ e.name.toList := he.name.notMem _ (by decide)
  have hprobe : '\n' ∉ (probe e).toList := (isIdentifying_probe he).notMem _ (by decide)
  have hrows : '\n' ∉ (allRows e).toList := by simp [allRows, hentity]
  have haugmented : '\n' ∉ (allAugmentedRows e).toList := by
    simp [allAugmentedRows, Entity.augmentedName, Naming.augmentedName, Naming.augmentedTail, hentity]
  have harticle : '\n' ∉ (article e.name).toList := by
    obtain heq | heq := article_eq e.name <;> rw [heq] <;> exact notMem_literal (by decide)
  have haccessor : ∀ rel, q.relation? = some rel → '\n' ∉ rel.accessorName.toList :=
    fun rel hrel => (hrelation rel hrel).notMem _ (by decide)
  have hfields : ∀ f ∈ e.insertableFields,
      '\n' ∉ f.name.toList ∧ '\n' ∉ f.storeLiteral.toList := by
    intro f hf
    obtain ⟨hname, htype⟩ := he.fields f (List.mem_of_mem_filter hf)
    have hfree := hname.notMem '\n' (by decide)
    exact ⟨hfree, f.newLine_notMem_storeLiteral hfree htype⟩
  cases q with
  | all | byID | allAugmented | byIDAugmented | deleteByID =>
    simp only [Unbroken, step, noError, equal, printed, Naming.identityField, List.cons_append,
      List.nil_append, List.forall_mem_cons, String.toList_append, List.mem_append, not_or, hentity,
      hprobe, hrows, haugmented, harticle, not_false_eq_true, List.not_mem_nil, false_imp_iff,
      implies_true, true_and, and_true]
    and_intros <;> exact notMem_literal (by decide)
  | byRelation rel | byRelationAugmented rel =>
    have hnamed := haccessor rel rfl
    simp only [Unbroken, step, noError, equal, printed, List.cons_append, List.nil_append,
      List.forall_mem_cons, String.toList_append, List.mem_append, not_or, hentity, hrows, haugmented,
      hnamed, not_false_eq_true, List.not_mem_nil, false_imp_iff, implies_true, true_and, and_true]
    and_intros <;> exact notMem_literal (by decide)
  | store =>
    have hassigned : Unbroken (e.insertableFields.map fun f =>
        "item." ++ f.name ++ " = " ++ f.storeLiteral) := by
      intro l hl
      obtain ⟨f, hf, rfl⟩ := List.mem_map.mp hl
      simp [hfields f hf]
    have hfixed : Unbroken ["// Store " ++ article e.name ++ " " ++ e.name ++ " record.",
          "item := new(" ++ domainPackage ++ "." ++ e.name ++ ")"] ∧
        Unbroken ["", "new" ++ e.name ++ ", err := s.Store(item)", "assert.NoError(t, err)",
          "assert.Equal(t, " ++ ("item." ++ probe e) ++ ", " ++ ("new" ++ e.name ++ "." ++ probe e) ++
            ")"] := by
      simp only [Unbroken, List.forall_mem_cons, String.toList_append, List.mem_append, not_or, hentity,
        hpackage, hprobe, harticle, not_false_eq_true, List.not_mem_nil, false_imp_iff, implies_true,
        and_true]
      and_intros <;> exact notMem_literal (by decide)
    have hall := List.forall_mem_append.mpr ⟨List.forall_mem_append.mpr ⟨hfixed.1, hassigned⟩, hfixed.2⟩
    simpa [Unbroken, step, noError, equal] using hall

/-- Lines of a part of the test begin like comments, variables or checks, if they are not empty. -/
lemma head?_step : ∀ l ∈ step e domainPackage q, ∀ c ∈ l.toList.head?, c ∈ ['/', 'a', 'i', 'n', 'e'] := by
  cases q with
  | all | byID | allAugmented | byIDAugmented | byRelation rel | byRelationAugmented rel | deleteByID =>
    simp [step, noError, equal, allRows, allAugmentedRows]
  | store =>
    intro l hl
    simp only [step, noError, equal, List.mem_append, List.mem_cons, List.mem_map, List.not_mem_nil,
      or_false] at hl
    obtain ((((rfl | rfl) | ⟨f, -, rfl⟩) | rfl | rfl) | rfl) | rfl := hl <;> simp

end Steps

/-! ## The test -/

lemma lastFunction_append {a b : List String} {header : String}
    (hheader : beginsWith "func " header = true) (hb : ∀ l ∈ b, beginsWith "func " l = false) :
    lastFunction (a ++ header :: b) = b := by
  have hkept : ∀ l ∈ b.reverse, (!beginsWith "func " l) = true := by
    intro l hl
    simp [hb l (List.mem_reverse.mp hl)]
  have hreverse : (a ++ header :: b).reverse = b.reverse ++ header :: a.reverse := by simp
  rw [lastFunction, hreverse, List.takeWhile_append_of_pos hkept,
    List.takeWhile_cons_of_neg (by simp [hheader]), List.append_nil, List.reverse_reverse]

/-- The line that makes the repository under test. -/
def making (e : Entity) (o : ScaffoldOptions) : String :=
  "s := " ++ o.repoPackage ++ ".New" ++ e.name ++ "Repo(" ++ o.sharedDb ++ ")"

/-- The lines of the test function. -/
def bodyLines (e : Entity) (relations : List Relation) (o : ScaffoldOptions) : List String :=
  making e o :: (Query.ofEntity e relations).flatMap fun q => "" :: step e o.domainPackage q

section Test

variable {e : Entity} {relations : List Relation} {o : ScaffoldOptions}

/-- The lines of the test function are whole, and none of them begins a function. -/
lemma isLine_bodyLines (he : e.IsSpelled) (hrelations : ∀ rel ∈ relations, IsIdentifying rel.accessorName)
    (hnames : Unbroken [o.domainPackage, o.repoPackage, o.sharedDb]) :
    ∀ l ∈ bodyLines e relations o, IsLine l ∧ beginsWith "func " l = false := by
  simp only [Unbroken, List.forall_mem_cons] at hnames
  have hentity : '\n' ∉ e.name.toList := he.name.notMem _ (by decide)
  refine List.forall_mem_cons.mpr ⟨⟨⟨?_, ?_⟩, ?_⟩, fun l hl => ?_⟩
  · simp [making, hnames, hentity]
  · simp [making]
  · simp [making, beginsWith, List.isPrefixOf]
  · obtain ⟨q, hq, hl⟩ := List.mem_flatMap.mp hl
    obtain rfl | hl := List.mem_cons.mp hl
    · exact ⟨⟨by decide, by decide⟩, by decide⟩
    · have hwhole := unbroken_step he hnames.1
        (fun rel hrel => hrelations rel (Query.mem_relations hq hrel)) l hl
      -- neither a tab nor the first letter of a function is among the first letters of lines
      refine ⟨⟨hwhole, fun htab => ?_⟩, Bool.eq_false_iff.mpr fun hfunc => ?_⟩
      · exact absurd (head?_step l hl _ htab) (by decide)
      · exact absurd (head?_step l hl _ (head?_of_beginsWith hfunc (c := 'f') (by decide))) (by decide)

/-- The test of an entity without what stands in front of its function. -/
def function (e : Entity) (relations : List Relation) (o : ScaffoldOptions) : Block :=
  Block.braces ("func " ++ ("Test" ++ e.name ++ "Repo") ++ "(t *testing.T) \x7b")
    (Block.ofTexts [making e o] ++ (Query.ofEntity e relations).flatMap fun q =>
      Block.gap ++ Block.ofTexts (step e o.domainPackage q))

/-- The function begins on a line of its own, below its comment. -/
lemma exists_text_eq (e : Entity) (relations : List Relation) (o : ScaffoldOptions) :
    ∃ front, text e relations o = front ++ "\n" ++ (function e relations o).render := by
  obtain ⟨above, comment, hempty, htext⟩ : ∃ above comment, comment ≠ "" ∧
      text e relations o = (above ++ Block.ofTexts [comment] ++ function e relations o).render :=
    ⟨_, "// " ++ ("Test" ++ e.name ++ "Repo") ++ " exercises every generated " ++ e.name ++ " query.",
      by simp, rfl⟩
  have hcomment : Block.render (Block.ofTexts [comment]) = comment ++ "\n" := by
    refine (render_cons _ _).trans ?_
    rw [List.map_nil, render_nil, String.append_empty, render_line hempty]
    simp
  refine ⟨above.render ++ comment, ?_⟩
  rw [htext, render_append, render_append, hcomment]
  simp only [String.append_assoc]

/-- A test is read back as its last function, whatever its imports are. -/
lemma lastFunction_text (he : e.IsSpelled) (hrelations : ∀ rel ∈ relations, IsIdentifying rel.accessorName)
    (hnames : Unbroken [o.domainPackage, o.repoPackage, o.sharedDb]) :
    lastFunction (readLines (text e relations o)) = bodyLines e relations o ++ ["\x7d", ""] := by
  have hentity : '\n' ∉ e.name.toList := he.name.notMem _ (by decide)
  have hbody := isLine_bodyLines he hrelations hnames
  have htexts : (function e relations o).texts = ("func " ++ ("Test" ++ e.name ++ "Repo") ++
      "(t *testing.T) \x7b") :: (bodyLines e relations o ++ ["\x7d"]) := by
    simp [function, bodyLines]
  have hlines : ∀ t ∈ (function e relations o).texts, IsLine t := by
    rw [htexts]
    simp only [List.forall_mem_cons, List.forall_mem_append]
    refine ⟨⟨?_, ?_⟩, fun l hl => (hbody l hl).1, ⟨by decide, by decide⟩, by simp⟩
    · simp [hentity]
    · simp
  have hheader : beginsWith "func " ("func " ++ ("Test" ++ e.name ++ "Repo") ++ "(t *testing.T) \x7b") :=
    beginsWith_iff.mpr ⟨(("Test" ++ e.name ++ "Repo") ++ "(t *testing.T) \x7b").toList, by simp⟩
  have hrest : ∀ l ∈ bodyLines e relations o ++ ["\x7d", ""], beginsWith "func " l = false := by
    refine List.forall_mem_append.mpr ⟨fun l hl => (hbody l hl).2, ?_⟩
    decide
  -- imports may hold anything, even lines that begin functions, but they stand in front of the test
  obtain ⟨front, hfront⟩ := exists_text_eq e relations o
  rw [hfront, readLines_append, readLines_render hlines, htexts, List.cons_append,
    lastFunction_append hheader]
  · simp
  · simpa using hrest

lemma call?_making : call? (making e o) = none := by
  simp [making, call?, afterHead?, List.isPrefixOf?]

lemma calls_text (he : e.IsNamed) (hrelations : ∀ rel ∈ relations, IsIdentifying rel.accessorName)
    (hnames : Unbroken [o.domainPackage, o.repoPackage, o.sharedDb]) :
    calls (text e relations o) =
      (Query.ofEntity e relations).map fun q => (q.methodName, passedCount q) := by
  have hpart : ∀ q ∈ Query.ofEntity e relations,
      ("" :: step e o.domainPackage q).filterMap call? = [(q.methodName, passedCount q)] := by
    -- an empty line stands in front of each part
    intro q hq
    rw [List.filterMap_cons_none (by decide)]
    exact filterMap_call?_step he fun rel hrel => hrelations rel (Query.mem_relations hq hrel)
  have hend : ["\x7d", ""].filterMap call? = [] := by decide
  rw [calls, lastFunction_text he.isSpelled hrelations hnames, List.filterMap_append, hend, List.append_nil,
    bodyLines, List.filterMap_cons_none call?_making, List.filterMap_flatMap, List.flatMap_congr hpart]
  exact List.map_eq_flatMap.symm

/-- Only the part that stores a row sets fields. -/
lemma assignedField?_step {domainPackage : String} {q : Query} (hq : q ≠ .store) :
    ∀ l ∈ step e domainPackage q, assignedField? l = none := by
  cases q with
  | store => exact absurd rfl hq
  | _ =>
    simp [step, noError, equal, allRows, allAugmentedRows, assignedField?, afterHead?, List.isPrefixOf?]

lemma filterMap_assignedField?_storeFront {domainPackage : String} (he : e.IsNamed) :
    (storeFront e domainPackage).filterMap assignedField? = e.insertableFields.map (·.name) := by
  have hfield : ∀ f ∈ e.insertableFields,
      assignedField? ("item." ++ f.name ++ " = " ++ f.storeLiteral) = some f.name := by
    intro f hf
    have hspace := (he.fields f (List.mem_of_mem_filter hf)).1.notMem ' ' (by decide)
    have hcut : afterHead? "item." ("item." ++ f.name ++ " = " ++ f.storeLiteral) =
        some (f.name ++ " = " ++ f.storeLiteral) :=
      afterHead?_eq_some_iff.mpr (by simp [String.append_assoc])
    have hlist : (f.name ++ " = " ++ f.storeLiteral).toList =
        f.name.toList ++ ' ' :: ("= " ++ f.storeLiteral).toList := by
      simp
    rw [assignedField?, hcut, Option.map_some, hlist, takeWhile_ne_append, takeWhile_ne_of_notMem hspace,
      String.ofList_toList]
  have hcomment : ["// Store " ++ article e.name ++ " " ++ e.name ++ " record.",
      "item := new(" ++ domainPackage ++ "." ++ e.name ++ ")"].filterMap assignedField? = [] := by
    simp [assignedField?, afterHead?, List.isPrefixOf?]
  have hend : [""].filterMap assignedField? = [] := by decide
  rw [storeFront, List.filterMap_append, List.filterMap_append, hcomment, hend, List.filterMap_map,
    List.nil_append, List.append_nil]
  exact (List.filterMap_congr hfield).trans (congrFun List.filterMap_eq_map' _)

/-- A part of the test with another method does not store. -/
lemma call?_step_ne_store {domainPackage : String} {q : Query} (he : e.IsNamed)
    (hrelation : ∀ rel ∈ q.relation?, IsIdentifying rel.accessorName) (hq : q.methodName ≠ "Store") :
    ∀ l ∈ step e domainPackage q, ((call? l).map (·.1) != some "Store") = true := by
  intro l hl
  cases hcall : call? l with
  | none => rfl
  | some c =>
    have hmem : c ∈ (step e domainPackage q).filterMap call? := List.mem_filterMap.mpr ⟨l, hl, hcall⟩
    -- the one call of the part is that of its method
    rw [filterMap_call?_step he hrelation, List.mem_singleton] at hmem
    simpa [hmem] using hq

lemma methodName_ne_store {q : Query} (hq : q ≠ .store) : q.methodName ≠ "Store" := by
  cases q with
  | store => exact absurd rfl hq
  | byRelation rel | byRelationAugmented rel =>
    -- the accessor is any name, but the first letters differ
    intro heq
    have hhead := congrArg (fun s => s.toList.head?) heq
    simp [Query.methodName] at hhead
  | _ => decide

/-- The test sets the fields that an insert writes. -/
lemma assignedFields_text (he : e.IsNamed) (hrelations : ∀ rel ∈ relations, IsIdentifying rel.accessorName)
    (hnames : Unbroken [o.domainPackage, o.repoPackage, o.sharedDb]) :
    assignedFields (text e relations o) = e.insertableFields.map (·.name) := by
  obtain ⟨front, hqueries, hfront⟩ := exists_ofEntity_eq e relations
  -- the lines in front of the call that stores a row, and those from it on
  have hlines : bodyLines e relations o ++ ["\x7d", ""] =
      (making e o :: (front.flatMap fun q => "" :: step e o.domainPackage q) ++
        "" :: storeFront e o.domainPackage) ++ callLine e .store ::
      (noError ++ equal ("item." ++ probe e) ("new" ++ e.name ++ "." ++ probe e) ++
        ("" :: step e o.domainPackage .deleteByID) ++ ["\x7d", ""]) := by
    simp [bodyLines, hqueries, step_store]
  have hcalls : ∀ l ∈ making e o :: (front.flatMap fun q => "" :: step e o.domainPackage q) ++
      "" :: storeFront e o.domainPackage, ((call? l).map (·.1) != some "Store") = true := by
    have hnone : ∀ l, call? l = none → ((call? l).map (·.1) != some "Store") = true := by
      intro l hl
      rw [hl]
      rfl
    have hempty : call? "" = none := by decide
    intro l hl
    simp only [List.mem_append, List.mem_cons, List.mem_flatMap] at hl
    obtain (rfl | ⟨q, hq, rfl | hl⟩) | rfl | hl := hl
    · exact hnone _ call?_making
    · exact hnone _ hempty
    · have hmem : q ∈ Query.ofEntity e relations := by simp [hqueries, hq]
      have hname := methodName_ne_store fun heq => hfront (heq ▸ hq)
      have haccessor := fun rel hrel => hrelations rel (Query.mem_relations hmem hrel)
      exact call?_step_ne_store he haccessor hname l hl
    · exact hnone _ hempty
    · exact hnone _ (call?_storeFront he l hl)
  have hfields : (making e o :: front.flatMap fun q => "" :: step e o.domainPackage q).filterMap
      assignedField? = [] := by
    refine List.filterMap_eq_nil_iff.mpr fun l hl => ?_
    simp only [List.mem_cons, List.mem_flatMap] at hl
    obtain rfl | ⟨q, hq, rfl | hl⟩ := hl
    · simp [making, assignedField?, afterHead?, List.isPrefixOf?]
    · decide
    · exact assignedField?_step (fun heq => hfront (heq ▸ hq)) l hl
  have hstore : call? (callLine e .store) = some ("Store", 1) :=
    call?_callLine he fun rel hrel => by cases hrel
  have hstops : ∀ rest : List String, (callLine e .store :: rest).takeWhile
      (fun l => (call? l).map (·.1) != some "Store") = [] := by
    intro rest
    simp [hstore]
  rw [assignedFields, lastFunction_text he.isSpelled hrelations hnames, hlines, List.takeWhile_append_of_pos hcalls,
    hstops, List.append_nil, List.filterMap_append, hfields,
    List.filterMap_cons_none (by decide), filterMap_assignedField?_storeFront he]
  rfl

end Test

end Scaffold

/-! ## Queries and their test -/

/-- The file of queries of an entity. -/
def Entity.queriesText (e : Entity) (c : Config) (table : String) : String :=
  (e.repository (c.queryOptions table)).file

/-- The file with the test of an entity's queries. -/
def Entity.testText (e : Entity) (c : Config) (table : String) : String :=
  Scaffold.text e (Relation.ofEntity e table) (c.scaffoldOptions table)

section Mirrored

variable {c : Config} {table : String} {e : Entity}

lemma Entity.IsNamed.repository_isUnbroken (he : e.IsNamed) (htable : '\n' ∉ table.toList)
    (hpackage : '\n' ∉ c.naming.domainPackage.toList) :
    (e.repository (c.queryOptions table)).IsUnbroken where
  entity := he.name.notMem _ (by decide)
  package := hpackage
  table := htable
  fields f hf := ⟨(he.fields f hf).1.notMem _ (by decide), (he.fields f hf).2.1⟩
  relations := by
    intro rel hrel
    obtain ⟨f, hf, joined, hjoined, rfl⟩ := Relation.mem_ofEntity_iff.mp hrel
    obtain ⟨hname, hcolumn, -⟩ := he.fields f (List.mem_of_mem_filter hf)
    refine ⟨hname.notMem _ (by decide), hcolumn, fun hmem => ?_⟩
    obtain ⟨stem, hstem, rfl⟩ := Relation.joinedEntityName?_eq_some hjoined
    exact hcolumn (by simp [hstem, mem_of_mem_stripTablePrefix hmem])

lemma Entity.IsNamed.accessorName (he : e.IsNamed) :
    ∀ rel ∈ Relation.ofEntity e table, IsIdentifying rel.accessorName := by
  intro rel hrel
  obtain ⟨f, hf, joined, -, rfl⟩ := Relation.mem_ofEntity_iff.mp hrel
  exact (he.fields f (List.mem_of_mem_filter hf)).1

/-- The row that is stored is read as one parameter if the package is. -/
lemma declaredCount_store (he : IsIdentifying e.name) :
    Query.store.declaredCount (e.repository (c.queryOptions table)) = 1 ↔
      ',' ∉ c.naming.domainPackage.toList.takeWhile (· != ')') := by
  have htype : (", ".intercalate (Query.store.parameters (e.repository (c.queryOptions table)))).toList =
      "item *".toList ++ (c.naming.domainPackage.toList ++ ("." ++ e.name).toList) := by
    simp [Query.parameters, Repository.external, Entity.repository, Config.queryOptions]
  have hname : ',' ∉ ("." ++ e.name).toList.takeWhile (· != ')') := by
    refine fun hmem => he.notMem ',' (by decide) ?_
    simpa using (List.takeWhile_sublist _).subset hmem
  have hcomma : ',' ∉ "item *".toList.takeWhile (· != ')') := by decide
  have hletter : 'i' ∈ "item *".toList.takeWhile (· != ')') := by decide
  have hopen : ')' ∉ "item *".toList := by decide
  rw [Query.declaredCount, htype, parameterCount_eq_one_iff]
  simp only [mem_takeWhile_ne_append, hcomma, hname, hopen, not_false_eq_true, true_and, and_false,
    or_false, false_or, and_iff_left_iff_imp]
  exact fun _ => ⟨'i', .inl hletter, by decide⟩

/-- The test passes as many arguments as methods declare exactly where what is written for a parameter is
read as one. -/
lemma forall_passedCount_iff (he : IsIdentifying e.name) :
    (∀ q ∈ (e.repository (c.queryOptions table)).queries,
      Scaffold.passedCount q = q.declaredCount (e.repository (c.queryOptions table))) ↔
      (∀ rel ∈ Relation.ofEntity e table, IsParameter ((c.queryOptions table).column rel.columnName)) ∧
        ',' ∉ c.naming.domainPackage.toList.takeWhile (· != ')') := by
  have hrelation : ∀ rel, Scaffold.passedCount (.byRelation rel) =
      (Query.byRelation rel).declaredCount (e.repository (c.queryOptions table)) ↔
        IsParameter ((c.queryOptions table).column rel.columnName) := by
    intro rel
    rw [← parameterCount_string, eq_comm]
    rfl
  have hid : parameterCount (", ".intercalate ["id string"]).toList = 1 := by decide
  constructor
  · intro h
    refine ⟨fun rel hrel => (hrelation rel).mp (h _ (Query.byRelation_mem hrel)), ?_⟩
    exact (declaredCount_store he).mp (h .store (by simp [Repository.queries, Query.ofEntity])).symm
  · rintro ⟨hcolumns, hpackage⟩ q hq
    cases q with
    | all | allAugmented => rfl
    | byID | byIDAugmented | deleteByID => exact hid.symm
    | byRelation rel => exact (hrelation rel).mpr (hcolumns rel (Query.mem_relations hq rfl))
    | byRelationAugmented rel => exact (hrelation rel).mpr (hcolumns rel (Query.mem_relations hq rfl))
    | store => exact ((declaredCount_store he).mpr hpackage).symm

/-- What the names of a configuration and a table need for `mirrors_queries`: each stands on one line. -/
def Config.IsUnbroken (c : Config) (table : String) : Prop :=
  Unbroken [table, c.naming.domainPackage, c.naming.repoPackage, c.naming.sharedDb]

lemma Config.IsUnbroken.scaffold (h : c.IsUnbroken table) :
    Unbroken [(c.scaffoldOptions table).domainPackage, (c.scaffoldOptions table).repoPackage,
      (c.scaffoldOptions table).sharedDb] :=
  (List.forall_mem_cons.mp h).2

lemma Entity.IsNamed.unbroken_writtenNames (he : e.IsNamed) (hc : c.IsUnbroken table) :
    ∀ q ∈ (e.repository (c.queryOptions table)).queries,
      Unbroken (q.writtenNames (e.repository (c.queryOptions table))) := by
  simp only [Config.IsUnbroken, Unbroken, List.forall_mem_cons] at hc
  refine fun q hq => Repository.unbroken_writtenNames hq
    (he.repository_isUnbroken hc.1 hc.2.1) fun _ n hn => ?_
  obtain ⟨f, hf, rfl⟩ := List.mem_map.mp hn
  exact (he.fields f (List.mem_of_find?_eq_some (Option.mem_toList.mp hf))).2.2

lemma Scaffold.calls_testText (he : e.IsNamed) (hc : c.IsUnbroken table) :
    calls (e.testText c table) =
      (Query.ofEntity e (Relation.ofEntity e table)).map fun q => (q.methodName, passedCount q) :=
  calls_text he he.accessorName hc.scaffold

lemma declarations_queriesText (he : e.IsNamed) (hc : c.IsUnbroken table) :
    declarations (e.repository (c.queryOptions table)).typeName (e.queriesText c table) =
      (Query.ofEntity e (Relation.ofEntity e table)).map fun q =>
        (q.methodName, q.declaredCount (e.repository (c.queryOptions table))) :=
  declarations_file (he.unbroken_writtenNames hc) fun rel hrel =>
    (he.accessorName rel hrel).notMem '(' (by decide)

/-- The test of an entity calls the methods that its file of queries declares, in order, and sets the fields
that it passes with a new row, without the identity. The arguments of each call are as many as are declared
exactly when the columns of relations, as they are written, are parameters, as is a row of the package. -/
theorem Scaffold.mirrors_queries (c : Config) (table : String) (he : e.IsNamed) (hc : c.IsUnbroken table) :
    ((calls (e.testText c table)).map (·.1) =
        (declarations (e.repository (c.queryOptions table)).typeName (e.queriesText c table)).map (·.1) ∧
      (calls (e.testText c table)).map (·.1) =
        (Query.ofEntity e (Relation.ofEntity e table)).map (·.methodName)) ∧
    (calls (e.testText c table) =
        declarations (e.repository (c.queryOptions table)).typeName (e.queriesText c table) ↔
      (∀ rel ∈ Relation.ofEntity e table, IsParameter ((c.queryOptions table).column rel.columnName)) ∧
        ',' ∉ c.naming.domainPackage.toList.takeWhile (· != ')')) ∧
    assignedFields (e.testText c table) = boundFields (e.queriesText c table) ∧
      assignedFields (e.testText c table) = e.insertableFields.map (·.name) ∧
      Naming.identityField ∉ assignedFields (e.testText c table) := by
  have hcalls := calls_testText he hc
  have hdeclared := declarations_queriesText he hc
  have hassigned : assignedFields (e.testText c table) = e.insertableFields.map (·.name) :=
    assignedFields_text he he.accessorName hc.scaffold
  have hbound : boundFields (e.queriesText c table) = e.insertableFields.map (·.name) := by
    refine boundFields_file (he.unbroken_writtenNames hc) fun f hf => ?_
    have hname := (he.fields f (List.mem_of_mem_filter hf)).1.notMem
    exact ⟨hname ')' (by decide), hname ',' (by decide)⟩
  refine ⟨⟨?_, ?_⟩, ?_, hassigned.trans hbound.symm, hassigned, ?_⟩
  · rw [hcalls, hdeclared, List.map_map, List.map_map]
    rfl
  · rw [hcalls, List.map_map]
    rfl
  · rw [hcalls, hdeclared, List.map_inj_left, ← forall_passedCount_iff he.name]
    simp only [Prod.mk.injEq, true_and]
    rfl
  · rw [hassigned, List.mem_map]
    rintro ⟨f, hf, hidentity⟩
    simpa [Field.isIdentity, hidentity] using (List.mem_filter.mp hf).2

end Mirrored

/-- A shipment that refers to the account that pays for it. -/
def shipment : Entity :=
  ⟨"Shipment", [⟨"ID", .value "int64", "db:\"id\"", "id"⟩,
    ⟨"Payer", .value "string", "db:\"account_id\"", "account_id"⟩], true⟩

lemma isNamed_shipment : shipment.IsNamed := by
  refine ⟨.inl (by decide), ?_⟩
  simp only [shipment, List.forall_mem_cons, List.not_mem_nil, false_imp_iff, implies_true, and_true]
  exact ⟨⟨.inl (by decide), by decide, by decide⟩,
    ⟨.inl (by decide), by decide, by decide⟩⟩

lemma isUnbroken_shipment : Config.IsUnbroken {} "shipment" := by
  simp only [Config.IsUnbroken, Unbroken, List.forall_mem_cons, List.not_mem_nil, false_imp_iff,
    implies_true, and_true]
  decide

theorem Scaffold.mirrors_queries_shipment :
    shipment.IsNamed ∧ Config.IsUnbroken {} "shipment" ∧
    calls (shipment.testText {} "shipment") =
      declarations (shipment.repository (Config.queryOptions {} "shipment")).typeName
        (shipment.queriesText {} "shipment") := by
  have hrelations : Relation.ofEntity shipment "shipment" = [⟨"Payer", "account_id", "account"⟩] := by
    decide
  have hmirrors := Scaffold.mirrors_queries {} "shipment" isNamed_shipment isUnbroken_shipment
  refine ⟨isNamed_shipment, isUnbroken_shipment, hmirrors.2.1.mpr ⟨?_, by decide⟩⟩
  rw [hrelations]
  exact List.forall_mem_singleton.mpr ⟨by decide, fun h => absurd h (by decide)⟩

/-- A shipment whose columns hold a comma and a parenthesis. -/
def oddShipment : Entity :=
  ⟨"Shipment", [⟨"Owner", .value "string", "", "owner,tenant_id"⟩,
    ⟨"Payer", .value "string", "db:\")_id\"", ")_id"⟩], false⟩

theorem Scaffold.not_mirrors_oddShipment :
    oddShipment.IsNamed ∧
    calls (oddShipment.testText {} "shipment") =
      [("All", 0), ("ByID", 1), ("ByOwner", 1), ("ByPayer", 1), ("Store", 1), ("DeleteByID", 1)] ∧
    declarations (oddShipment.repository (Config.queryOptions {} "shipment")).typeName
        (oddShipment.queriesText {} "shipment") =
      [("All", 0), ("ByID", 1), ("ByOwner", 2), ("ByPayer", 0), ("Store", 1), ("DeleteByID", 1)] := by
  have hnamed : oddShipment.IsNamed := by
    refine ⟨.inl (by decide), ?_⟩
    simp only [oddShipment, List.forall_mem_cons, List.not_mem_nil, false_imp_iff, implies_true, and_true]
    exact ⟨⟨.inl (by decide), by decide, by decide⟩,
      ⟨.inl (by decide), by decide, by decide⟩⟩
  rw [calls_testText hnamed isUnbroken_shipment, declarations_queriesText hnamed isUnbroken_shipment]
  exact ⟨hnamed, by decide, by decide⟩

end DeclGen
