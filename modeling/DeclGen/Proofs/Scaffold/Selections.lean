import DeclGen.Proofs.Scaffold.Mirror
import Mathlib.Data.List.TakeWhile

/-!
# Selections in a test

The test of a repository is read back as the fields that it selects from rows (`Scaffold.selectedFields`): from
the variables that it has given rows to so far, whatever else their names may stand for. A part of the test that
stores nothing selects the identity, the field by which rows are compared or the field of a relation
(`Scaffold.selectsWithin_step`).
-/

namespace DeclGen

open Text

namespace Scaffold

/-! ## Reading selections -/

/-- A character of names. -/
def isNameChar (c : Char) : Bool :=
  Qualifier.isWordChar c || Unicode.isNameStart c || Unicode.isNamePart c

/-- A character of operands, which are names, selections and elements of lists. -/
def isOperandChar (c : Char) : Bool := isNameChar c || c == '.' || c == '[' || c == ']'

/-- What is selected from, which may be the first element of a list, and the field that is selected. -/
def selection? (operand : List Char) : Option (String × String) :=
  let behind := operand.dropWhile isNameChar
  match ((['[', '0', ']'].isPrefixOf? behind).getD behind) with
  | '.' :: field =>
    some (String.ofList (operand.takeWhile isNameChar), String.ofList (field.takeWhile isNameChar))
  | _ => none

/-- The selections in a text. -/
def selectionsIn (text : List Char) : List (String × String) :=
  (text.splitOnP fun c => !isOperandChar c).filterMap selection?

/-- The selections in a line, unless it is a comment. -/
def selections (line : String) : List (String × String) :=
  if beginsWith "//" line then [] else selectionsIn line.toList

/-- The variable that a line gives a new row, or what the repository returns. -/
def bound? (line : String) : Option String :=
  let behind := line.toList.dropWhile isNameChar
  if ", err := s.".toList.isPrefixOf behind || " := new(".toList.isPrefixOf behind then
    some (String.ofList (line.toList.takeWhile isNameChar))
  else none

/-- The fields that lines select from variables, given those that hold rows in front of the lines. -/
def selectedFrom : List String → List String → List String
  | _, [] => []
  | rows, l :: rest =>
    ((selections l).filter fun s => rows.contains s.1).map (·.2) ++
      selectedFrom (rows ++ (bound? l).toList) rest

/-- The fields that a test selects from rows. -/
def selectedFields (text : String) : List String := selectedFrom [] (lastFunction (readLines text))

/-! ## Selections in texts -/

/-- The characters between operands. -/
def gapChars : List Char := [' ', '(', ')', ',', ':', '=', '"', '\x7b', '\x7d']

/-- Signs are no characters of names. -/
lemma isNameChar_sign {c : Char} (hc : c ∈ '.' :: '[' :: '/' :: gapChars) : isNameChar c = false := by
  have hall : ∀ c ∈ '.' :: '[' :: '/' :: gapChars, isNameChar c = false := by
    simp only [gapChars, List.forall_mem_cons, List.not_mem_nil, false_imp_iff, implies_true, and_true]
    decide
  exact hall c hc

lemma isOperandChar_gap {c : Char} (hc : c ∈ gapChars) : isOperandChar c = false := by
  have hother : '.' ∉ gapChars ∧ '[' ∉ gapChars ∧ ']' ∉ gapChars := by decide
  have hsign : isNameChar c = false := isNameChar_sign (by simp [hc])
  rw [isOperandChar, hsign]
  simp only [Bool.false_or, Bool.or_eq_false_iff, beq_eq_false_iff_ne]
  exact ⟨⟨ne_of_mem_of_not_mem hc hother.1, ne_of_mem_of_not_mem hc hother.2.1⟩,
    ne_of_mem_of_not_mem hc hother.2.2⟩

/-- A text of characters of names. -/
def IsWordy (text : String) : Prop := ∀ c ∈ text.toList, isNameChar c

lemma isWordy_append {a b : String} : IsWordy (a ++ b) ↔ IsWordy a ∧ IsWordy b := by
  unfold IsWordy
  rw [String.toList_append, List.forall_mem_append]

lemma isWordy_of_isIdentifying {name : String} (h : IsIdentifying name) : IsWordy name := by
  intro c hc
  unfold isNameChar
  rcases h with h | h
  · simp [(Qualifier.isWord_of_isIdentifier h).word c hc]
  · obtain ⟨first, rest, hlist, hfirst, hrest⟩ := h.start
    rw [hlist, List.mem_cons] at hc
    rcases hc with rfl | hc
    · simp [hfirst]
    · simp [hrest c hc]

section Texts

variable {a b : List Char} {owner field : String}

lemma selectionsIn_append_cons {c : Char} (hc : isOperandChar c = false) (a b : List Char) :
    selectionsIn (a ++ c :: b) = selectionsIn a ++ selectionsIn b := by
  rw [selectionsIn, List.splitOnP_append_cons a b (by simp [hc]), List.filterMap_append]
  rfl

lemma selectionsIn_operand (h : ∀ c ∈ a, isOperandChar c) : selectionsIn a = (selection? a).toList := by
  rw [selectionsIn, List.splitOnP_eq_singleton (by simpa using h)]
  cases hselection : selection? a with
  | none => simp [hselection]
  | some s => simp [hselection]

/-- A name selects nothing. -/
lemma selectionsIn_name (h : ∀ c ∈ a, isNameChar c) : selectionsIn a = [] := by
  have hrest : a.dropWhile isNameChar = [] := List.dropWhile_eq_nil_iff.mpr h
  have hnone : selection? a = none := by
    rw [selection?, hrest]
    rfl
  rw [selectionsIn_operand fun c hc => by simp [isOperandChar, h c hc], hnone]
  rfl

/-- A selection is read back, be it from a variable or from the first element of a list. -/
lemma selectionsIn_selection (howner : IsWordy owner) (hfield : IsWordy field)
    (htext : a = owner.toList ++ '.' :: field.toList ∨
      a = owner.toList ++ '[' :: '0' :: ']' :: '.' :: field.toList) : selectionsIn a = [(owner, field)] := by
  have hdot : isNameChar '.' = false := isNameChar_sign (by decide)
  have hopening : isNameChar '[' = false := isNameChar_sign (by decide)
  have hzero : isNameChar '0' := by decide
  have hsigns : ∀ c ∈ ['[', '0', ']', '.'], isOperandChar c := by simp [isOperandChar, hzero]
  have hoperand : ∀ c ∈ a, isOperandChar c := by
    have hchars : ∀ c ∈ a, c ∈ owner.toList ∨ c ∈ ['[', '0', ']', '.'] ∨ c ∈ field.toList := by
      rcases htext with rfl | rfl
      · intro c hc
        rcases List.mem_append.mp hc with hc | hc
        · exact .inl hc
        · rcases List.mem_cons.mp hc with rfl | hc
          · exact .inr (.inl (by simp))
          · exact .inr (.inr hc)
      · intro c hc
        rcases List.mem_append.mp hc with hc | hc
        · exact .inl hc
        · have hc : c ∈ ['[', '0', ']', '.'] ++ field.toList := hc
          rcases List.mem_append.mp hc with hc | hc
          · exact .inr (.inl hc)
          · exact .inr (.inr hc)
    intro c hc
    rcases hchars c hc with hc | hc | hc
    · simp [isOperandChar, howner c hc]
    · exact hsigns c hc
    · simp [isOperandChar, hfield c hc]
  have htake : field.toList.takeWhile isNameChar = field.toList := List.takeWhile_eq_self_iff.mpr hfield
  have hselection : selection? a = some (owner, field) := by
    rcases htext with rfl | rfl
    · rw [selection?, List.dropWhile_append_of_pos howner, List.takeWhile_append_of_pos howner,
        List.dropWhile_cons_of_neg (by simp [hdot]), List.takeWhile_cons_of_neg (by simp [hdot])]
      simp [List.isPrefixOf?, htake]
    · rw [selection?, List.dropWhile_append_of_pos howner, List.takeWhile_append_of_pos howner,
        List.dropWhile_cons_of_neg (by simp [hopening]), List.takeWhile_cons_of_neg (by simp [hopening])]
      simp [List.isPrefixOf?, htake]
  rw [selectionsIn_operand hoperand, hselection]
  rfl

lemma selections_of_head {line : String} (h : line.toList.head? ≠ some '/') :
    selections line = selectionsIn line.toList := by
  have hcomment : beginsWith "//" line = false := by
    rw [Bool.eq_false_iff]
    exact fun hbegins => h (head?_of_beginsWith hbegins (by decide))
  rw [selections, hcomment]
  rfl

lemma selections_comment {line : String} (h : beginsWith "//" line) : selections line = [] := by
  rw [selections, if_pos h]

/-- A variable in front of what is no name is bound by what follows it. -/
lemma bound?_append {name rest line : String} (hline : line = name ++ rest) (hname : IsWordy name)
    (hrest : ∀ c ∈ rest.toList.head?, isNameChar c = false) :
    bound? line = if ", err := s.".toList.isPrefixOf rest.toList || " := new(".toList.isPrefixOf rest.toList
      then some name else none := by
  have hlist : line.toList = name.toList ++ rest.toList := by rw [hline, String.toList_append]
  have hstop : rest.toList.dropWhile isNameChar = rest.toList ∧ rest.toList.takeWhile isNameChar = [] := by
    cases hchars : rest.toList with
    | nil => exact ⟨rfl, rfl⟩
    | cons c chars =>
      have hc : isNameChar c = false := hrest c (by rw [hchars]; rfl)
      exact ⟨List.dropWhile_cons_of_neg (by simp [hc]), List.takeWhile_cons_of_neg (by simp [hc])⟩
  rw [bound?, hlist, List.dropWhile_append_of_pos hname, List.takeWhile_append_of_pos hname, hstop.1, hstop.2,
    List.append_nil, String.ofList_toList]

end Texts

/-! ## Selections in rows of lines -/

section Lines

variable {rows front back : List String} {line owner field : String}

lemma selectedFrom_append (rows a b : List String) :
    selectedFrom rows (a ++ b) = selectedFrom rows a ++ selectedFrom (rows ++ a.filterMap bound?) b := by
  induction a generalizing rows with
  | nil => simp [selectedFrom]
  | cons l a ih =>
    rw [List.cons_append, selectedFrom, ih, selectedFrom, List.append_assoc]
    cases hbound : bound? l with
    | none => simp [hbound]
    | some name => simp [hbound]

/-- A field is selected where a line selects it from a variable that has a row by then. -/
lemma mem_selectedFrom (hselected : (owner, field) ∈ selections line)
    (howner : owner ∈ rows ++ front.filterMap bound?) :
    field ∈ selectedFrom rows (front ++ line :: back) := by
  rw [selectedFrom_append, selectedFrom]
  apply List.mem_append_right
  apply List.mem_append_left
  exact List.mem_map.mpr ⟨(owner, field), List.mem_filter.mpr ⟨hselected, by simpa using howner⟩, rfl⟩

/-- What stands in front of a dot but is never given a row: the repository, two packages and a whole number. -/
def foreign : List String := ["s", "fmt", "assert", "1000"]

/-- Lines bind no foreign variables, and select declared fields from all others. -/
def SelectsWithin (names ls : List String) : Prop :=
  ∀ l ∈ ls, (∀ v ∈ bound? l, v ∉ foreign) ∧ ∀ s ∈ selections l, s.1 ∈ foreign ∨ s.2 ∈ names

/-- Only what is selected from rows counts. -/
lemma forall_mem_selected_iff {selected : List (String × String)} {names : List String} :
    (∀ field ∈ (selected.filter fun s => rows.contains s.1).map (·.2), field ∈ names) ↔
      ∀ s ∈ selected, s.1 ∈ rows → s.2 ∈ names := by
  rw [List.forall_mem_map]
  simp only [List.mem_filter, List.contains_iff_mem, and_imp]

/-- A line that binds and selects nothing is passed over. -/
lemma selectedFrom_cons_of_silent (h : bound? line = none ∧ selections line = []) (ls : List String) :
    selectedFrom rows (line :: ls) = selectedFrom rows ls := by
  rw [selectedFrom, h.1, h.2, Option.toList_none, List.append_nil]
  rfl

/-- Lines that bind nothing select what each of them selects. -/
lemma selectedFrom_of_unbound {ls : List String} (h : ∀ l ∈ ls, bound? l = none) : selectedFrom rows ls =
    ls.flatMap fun l => ((selections l).filter fun s => rows.contains s.1).map (·.2) := by
  induction ls with
  | nil => rfl
  | cons l ls ih =>
    obtain ⟨hl, hrest⟩ := List.forall_mem_cons.mp h
    rw [selectedFrom, hl, Option.toList_none, List.append_nil, ih hrest, List.flatMap_cons]

lemma SelectsWithin.forall_mem {names ls : List String} (h : SelectsWithin names ls)
    (hrows : ∀ v ∈ rows, v ∉ foreign) : ∀ field ∈ selectedFrom rows ls, field ∈ names := by
  induction ls generalizing rows with
  | nil =>
    intro field hfield
    cases hfield
  | cons l ls ih =>
    obtain ⟨⟨hbound, hselected⟩, hrest⟩ := List.forall_mem_cons.mp h
    rw [selectedFrom, List.forall_mem_append, forall_mem_selected_iff]
    refine ⟨fun s hs howner => (hselected s hs).resolve_left (hrows s.1 howner), ih hrest ?_⟩
    exact List.forall_mem_append.mpr ⟨hrows, fun v hv => hbound v (Option.mem_toList.mp hv)⟩

end Lines

/-! ## Lines of a test -/

lemma isWordy_literal {word : String} (h : word.toList.all isNameChar) : IsWordy word := List.all_eq_true.mp h

/-- A text of bare names that begins and ends between operands. -/
def isBetween (text : String) : Bool :=
  text.toList.head?.any gapChars.contains && text.toList.getLast?.any gapChars.contains &&
    text.toList.all fun c => gapChars.contains c || isNameChar c

/-- Bare names select nothing, whatever is between them. -/
lemma selectionsIn_bare {word text : List Char} (hword : ∀ c ∈ word, isNameChar c)
    (htext : ∀ c ∈ text, gapChars.contains c || isNameChar c) : selectionsIn (word ++ text) = [] := by
  induction text generalizing word with
  | nil =>
    rw [List.append_nil]
    exact selectionsIn_name hword
  | cons c text ih =>
    obtain ⟨hc, hrest⟩ := List.forall_mem_cons.mp htext
    rcases Bool.or_eq_true_iff.mp hc with hgap | hname
    · have hnone : selectionsIn ([] ++ text) = [] := ih (fun d hd => nomatch hd) hrest
      rw [selectionsIn_append_cons (isOperandChar_gap (List.contains_iff_mem.mp hgap)),
        selectionsIn_name hword, List.nil_append]
      exact hnone
    · have hlonger : ∀ d ∈ word ++ [c], isNameChar d :=
        List.forall_mem_append.mpr ⟨hword, List.forall_mem_singleton.mpr hname⟩
      have hparted : word ++ c :: text = (word ++ [c]) ++ text := by simp
      rw [hparted]
      exact ih hlonger hrest

/-- What is selected in front of such a text and behind it does not depend on it. -/
lemma selectionsIn_between (text : String) (h : isBetween text) (a b : String) :
    selectionsIn (a ++ text ++ b).toList = selectionsIn a.toList ++ selectionsIn b.toList := by
  unfold isBetween at h
  simp only [Bool.and_eq_true, List.all_eq_true] at h
  obtain ⟨⟨hfirst, hlast⟩, hbare⟩ := h
  cases hlist : text.toList with
  | nil => simp [hlist] at hfirst
  | cons c rest =>
    have hc : c ∈ gapChars := by simpa [hlist] using hfirst
    rw [String.toList_append, String.toList_append, List.append_assoc, hlist, List.cons_append,
      selectionsIn_append_cons (isOperandChar_gap hc)]
    rcases List.eq_nil_or_concat' rest with rfl | ⟨middle, d, rfl⟩
    · rfl
    · have hend : (c :: (middle ++ [d])).getLast? = some d := by
        rw [← List.cons_append, List.getLast?_concat]
      have hd : d ∈ gapChars := by simpa [hlist, hend] using hlast
      have hinner : ∀ x ∈ middle, gapChars.contains x || isNameChar x := by
        intro x hx
        exact hbare x (by simp [hlist, hx])
      have hmiddle : selectionsIn ([] ++ middle) = [] := selectionsIn_bare (fun d hd => nomatch hd) hinner
      rw [List.nil_append] at hmiddle
      rw [List.append_assoc, List.singleton_append, selectionsIn_append_cons (isOperandChar_gap hd), hmiddle,
        List.nil_append]

lemma selectionsIn_empty : selectionsIn "".toList = [] := rfl

/-- What a call or a check selects from the package or the repository that it is a part of. -/
lemma selectionsIn_foreign : selectionsIn "assert.Equal".toList = [("assert", "Equal")] ∧
    selectionsIn "assert.NoError".toList = [("assert", "NoError")] ∧
    selectionsIn "fmt.Sprint".toList = [("fmt", "Sprint")] := by
  refine ⟨?_, ?_, ?_⟩
  · exact selectionsIn_selection (isWordy_literal (by decide)) (isWordy_literal (by decide))
      (.inl (by decide))
  · exact selectionsIn_selection (isWordy_literal (by decide)) (isWordy_literal (by decide))
      (.inl (by decide))
  · exact selectionsIn_selection (isWordy_literal (by decide)) (isWordy_literal (by decide))
      (.inl (by decide))

/-- A check selects what the compared operands select, besides the method that compares. -/
lemma selections_equal (a b : String) : selections ("assert.Equal(t, " ++ a ++ ", " ++ b ++ ")") =
    ("assert", "Equal") :: (selectionsIn a.toList ++ selectionsIn b.toList) := by
  have hline : "assert.Equal(t, " ++ a ++ ", " ++ b ++ ")" =
      "assert.Equal" ++ "(t, " ++ (a ++ ", " ++ (b ++ ")" ++ "")) := by
    simp [← String.toList_inj]
  rw [selections_of_head (by simp), hline, selectionsIn_between "(t, " (by decide),
    selectionsIn_between ", " (by decide), selectionsIn_between ")" (by decide), selectionsIn_foreign.1,
    selectionsIn_empty]
  simp

lemma selections_noError : ∀ l ∈ noError, selections l = [("assert", "NoError")] := by
  have hline : "assert.NoError(t, err)" = "assert.NoError" ++ "(t, err)" ++ "" := by decide
  rw [noError, List.forall_mem_singleton, selections_of_head (by decide), hline,
    selectionsIn_between "(t, err)" (by decide), selectionsIn_foreign.2.1, selectionsIn_empty]
  rfl

/-- What is printed selects what it prints, besides the function that prints. -/
lemma selectionsIn_printed (expression : String) :
    selectionsIn (printed expression).toList = ("fmt", "Sprint") :: selectionsIn expression.toList := by
  have hline : printed expression = "fmt.Sprint" ++ "(" ++ (expression ++ ")" ++ "") := by
    simp [printed, ← String.toList_inj]
  rw [hline, selectionsIn_between "(" (by decide), selectionsIn_between ")" (by decide),
    selectionsIn_foreign.2.2, selectionsIn_empty, List.append_nil, List.singleton_append]

section Calls

variable {e : Entity} {domainPackage : String} {q : Query} (he : e.IsSpelled)
  (hrelation : ∀ rel ∈ q.relation?, IsIdentifying rel.accessorName)

include he in
lemma isWordy_rows : IsWordy (allRows e) ∧ IsWordy (allAugmentedRows e) ∧ IsWordy ("new" ++ e.name) := by
  have hname := isWordy_of_isIdentifying he.name
  refine ⟨isWordy_append.mpr ⟨isWordy_literal (by decide), hname⟩, ?_,
    isWordy_append.mpr ⟨isWordy_literal (by decide), hname⟩⟩
  rw [allAugmentedRows, Entity.augmentedName, Naming.augmentedName, isWordy_append, isWordy_append]
  exact ⟨isWordy_literal (by decide), hname, isWordy_literal (by decide)⟩

include he hrelation

lemma isWordy_target : ∀ v ∈ target? e q, IsWordy v := by
  obtain ⟨hall, haugmented, hnew⟩ := isWordy_rows he
  cases q with
  | byRelation rel | byRelationAugmented rel =>
    have haccessor := isWordy_of_isIdentifying (hrelation rel rfl)
    simp only [target?, Option.mem_some_iff, forall_eq', isWordy_append]
    exact ⟨isWordy_literal (by decide), haccessor⟩
  | all | allAugmented | store =>
    simpa only [target?, Option.mem_some_iff, forall_eq']
  | byID | byIDAugmented =>
    simp only [target?, Option.mem_some_iff, forall_eq']
    exact isWordy_literal (by decide)
  | deleteByID => simp [target?]

omit he in
lemma isWordy_methodName : IsWordy q.methodName := by
  cases q with
  | byRelation rel =>
    have haccessor := isWordy_of_isIdentifying (hrelation rel rfl)
    exact isWordy_append.mpr ⟨isWordy_literal (by decide), haccessor⟩
  | byRelationAugmented rel =>
    have haccessor := isWordy_of_isIdentifying (hrelation rel rfl)
    exact isWordy_append.mpr ⟨isWordy_append.mpr ⟨isWordy_literal (by decide), haccessor⟩,
      isWordy_literal (by decide)⟩
  | _ => exact isWordy_literal (by decide)

omit he hrelation in
lemma head?_callLine : (callLine e q).toList.head? ≠ some '/' := by
  cases q with
  | _ => simp [callLine, target?, allRows, allAugmentedRows]

/-- A call selects the method, and what its argument selects. -/
lemma selections_callLine :
    selections (callLine e q) = ("s", q.methodName) :: selectionsIn (argument e q).toList := by
  have hs : selectionsIn ("s." ++ q.methodName).toList = [("s", q.methodName)] :=
    selectionsIn_selection (isWordy_literal (by decide)) (isWordy_methodName hrelation)
      (.inl (by simp))
  cases htarget : target? e q with
  | none =>
    have herr : selectionsIn "err".toList = [] := selectionsIn_name (List.all_eq_true.mp (by decide))
    have hline : callLine e q =
        "err" ++ " = " ++ ("s." ++ q.methodName ++ "(" ++ (argument e q ++ ")" ++ "")) := by
      simp [callLine, htarget, ← String.toList_inj]
    rw [selections_of_head head?_callLine, hline, selectionsIn_between " = " (by decide),
      selectionsIn_between "(" (by decide), selectionsIn_between ")" (by decide), herr, hs, selectionsIn_empty]
    simp
  | some target =>
    have htargets := selectionsIn_name (isWordy_target he hrelation target htarget)
    have hline : callLine e q =
        target ++ ", err := " ++ ("s." ++ q.methodName ++ "(" ++ (argument e q ++ ")" ++ "")) := by
      simp [callLine, htarget, ← String.toList_inj]
    rw [selections_of_head head?_callLine, hline, selectionsIn_between ", err := " (by decide),
      selectionsIn_between "(" (by decide), selectionsIn_between ")" (by decide), htargets, hs,
      selectionsIn_empty]
    simp

/-- A call binds the variable that it gives what is returned to. -/
lemma bound?_callLine : bound? (callLine e q) = target? e q := by
  have hcomma : isNameChar ',' = false := isNameChar_sign (by decide)
  have hspace : isNameChar ' ' = false := isNameChar_sign (by decide)
  cases htarget : target? e q with
  | none =>
    have hline : callLine e q = "err" ++ (" = s." ++ q.methodName ++ "(" ++ argument e q ++ ")") := by
      simp [callLine, htarget, ← String.toList_inj]
    rw [bound?_append hline (isWordy_literal (by decide)) (by simp [hspace])]
    simp [List.isPrefixOf]
  | some target =>
    have hline : callLine e q = target ++ (", err := s." ++ q.methodName ++ "(" ++ argument e q ++ ")") := by
      simp [callLine, htarget, ← String.toList_inj]
    rw [bound?_append hline (isWordy_target he hrelation target htarget) (by simp [hcomma])]
    simp [List.isPrefixOf]

end Calls

/-- A variable that is given rows is none of those that never hold any. -/
lemma notMem_foreign_of_target {e : Entity} {q : Query} : ∀ v ∈ target? e q, v ∉ foreign := by
  intro v hv hforeign
  have hbegins : ∀ w ∈ foreign, w.toList.take 2 ∈ [['s'], ['f', 'm'], ['a', 's'], ['1', '0']] := by decide
  have htake := hbegins v hforeign
  cases q with
  | deleteByID => cases hv
  | _ =>
    obtain rfl := Option.mem_some_iff.mp hv
    simp [allRows, allAugmentedRows] at htake

section Steps

variable {e : Entity} {domainPackage : String} {q : Query} {names : List String}

lemma bound?_check (rest : String) : bound? ("assert." ++ rest) = none := by
  have hdot : isNameChar '.' = false := isNameChar_sign (by decide)
  have hline : "assert." ++ rest = "assert" ++ ("." ++ rest) := by simp [← String.toList_inj]
  rw [bound?_append hline (isWordy_literal (by decide)) (by simp [hdot])]
  simp [List.isPrefixOf]

lemma bound?_comment {line : String} (h : beginsWith "//" line) : bound? line = none := by
  have hslash : isNameChar '/' = false := isNameChar_sign (by decide)
  obtain ⟨rest, hlist⟩ := beginsWith_iff.mp h
  have hline : line = "" ++ line := by simp
  rw [bound?_append hline (by simp [IsWordy]) (by simp [hlist, hslash]), hlist]
  simp [List.isPrefixOf]

lemma bound?_noError : ∀ l ∈ noError, bound? l = none := by
  have hline : "assert.NoError(t, err)" = "assert." ++ "NoError(t, err)" := by decide
  rw [noError, List.forall_mem_singleton, hline]
  exact bound?_check _

lemma bound?_equal (a b : String) : ∀ l ∈ equal a b, bound? l = none := by
  have hline : "assert.Equal(t, " ++ a ++ ", " ++ b ++ ")" =
      "assert." ++ ("Equal(t, " ++ a ++ ", " ++ b ++ ")") := by simp [← String.toList_inj]
  rw [equal, List.forall_mem_singleton, hline]
  exact bound?_check _

lemma selectsWithin_noError : SelectsWithin names noError := by
  intro l hl
  rw [bound?_noError l hl, selections_noError l hl]
  exact ⟨by simp, by simp [foreign]⟩

/-- A check of two rows selects one field from both. -/
lemma selectsWithin_equal {a b owner owner' field : String} (hfield : field ∈ names) (hwordy : IsWordy field)
    (howner : IsWordy owner) (howner' : IsWordy owner')
    (ha : a.toList = owner.toList ++ '.' :: field.toList ∨
      a.toList = owner.toList ++ '[' :: '0' :: ']' :: '.' :: field.toList)
    (hb : b.toList = owner'.toList ++ '.' :: field.toList ∨
      b.toList = owner'.toList ++ '[' :: '0' :: ']' :: '.' :: field.toList) :
    SelectsWithin names (equal a b) := by
  intro l hl
  rw [bound?_equal a b l hl]
  obtain rfl := List.mem_singleton.mp hl
  constructor
  · simp
  · rw [selections_equal, selectionsIn_selection howner hwordy ha, selectionsIn_selection howner' hwordy hb]
    simp [foreign, hfield]

/-- The lines of the test that compare rows after a call. -/
def checks (e : Entity) : Query → List String
  | .all | .allAugmented | .deleteByID => []
  | .byID => equal (allRows e ++ "[0]." ++ probe e) ("item0." ++ probe e)
  | .byIDAugmented => equal (allAugmentedRows e ++ "[0]." ++ probe e) ("augItem0." ++ probe e)
  | .byRelation rel =>
    equal (allRows e ++ "[0]." ++ rel.accessorName)
      ("itemsBy" ++ rel.accessorName ++ "[0]." ++ rel.accessorName)
  | .byRelationAugmented rel =>
    equal (allAugmentedRows e ++ "[0]." ++ rel.accessorName)
      ("augItemsBy" ++ rel.accessorName ++ "[0]." ++ rel.accessorName)
  | .store => equal ("item." ++ probe e) ("new" ++ e.name ++ "." ++ probe e)

/-- A part of the test that stores nothing is a call and its checks below a comment. -/
lemma exists_step_eq_of_ne_store (domainPackage : String) (hq : q ≠ .store) : ∃ comment,
    beginsWith "//" comment ∧ step e domainPackage q = comment :: callLine e q :: (noError ++ checks e q) := by
  refine ⟨(step e domainPackage q).headD "", ?_, ?_⟩
  · cases q with
    | store => exact absurd rfl hq
    | _ => simp [step, beginsWith, List.isPrefixOf]
  · cases q with
    | store => exact absurd rfl hq
    | _ => simp [step, callLine, checks, target?, argument, Query.methodName, noError, ← String.toList_inj]

variable (he : e.IsSpelled) (hrelation : ∀ rel ∈ q.relation?, IsIdentifying rel.accessorName)
  (hidentity : Naming.identityField ∈ names) (haccessor : ∀ rel ∈ q.relation?, rel.accessorName ∈ names)
include he hrelation hidentity haccessor

lemma selectsWithin_callLine : SelectsWithin names (callLine e q :: noError) := by
  obtain ⟨hall, haugmented, hnew⟩ := isWordy_rows he
  have hid : IsWordy Naming.identityField := isWordy_literal (by decide)
  have hargument : ∀ s ∈ selectionsIn (argument e q).toList, s.1 ∈ foreign ∨ s.2 ∈ names := by
    cases q with
    | all | allAugmented =>
      show ∀ s ∈ selectionsIn "".toList, _
      rw [selectionsIn_empty]
      simp
    | store =>
      show ∀ s ∈ selectionsIn "item".toList, _
      rw [selectionsIn_name (List.all_eq_true.mp (by decide))]
      simp
    | byID =>
      rw [argument, selectionsIn_printed, selectionsIn_selection hall hid (.inr (by simp))]
      simp [foreign, hidentity]
    | byIDAugmented =>
      rw [argument, selectionsIn_printed, selectionsIn_selection haugmented hid (.inr (by simp))]
      simp [foreign, hidentity]
    | deleteByID =>
      rw [argument, selectionsIn_printed, selectionsIn_selection hnew hid (.inl (by simp))]
      simp [foreign, hidentity]
    | byRelation rel =>
      have hwordy := isWordy_of_isIdentifying (hrelation rel rfl)
      rw [argument, selectionsIn_printed, selectionsIn_selection hall hwordy (.inr (by simp))]
      simp [foreign, haccessor rel rfl]
    | byRelationAugmented rel =>
      have hwordy := isWordy_of_isIdentifying (hrelation rel rfl)
      rw [argument, selectionsIn_printed, selectionsIn_selection haugmented hwordy (.inr (by simp))]
      simp [foreign, haccessor rel rfl]
  refine List.forall_mem_cons.mpr ⟨⟨?_, ?_⟩, selectsWithin_noError⟩
  · rw [bound?_callLine he hrelation]
    exact notMem_foreign_of_target
  · rw [selections_callLine he hrelation, List.forall_mem_cons]
    exact ⟨.inl (by simp [foreign]), hargument⟩

omit hidentity in
/-- Rows are compared by declared fields. -/
lemma selectsWithin_checks (hprobe : probe e ∈ names) : SelectsWithin names (checks e q) := by
  obtain ⟨hall, haugmented, hnew⟩ := isWordy_rows he
  have hwordy : IsWordy (probe e) := isWordy_of_isIdentifying (isIdentifying_probe he)
  have hempty : SelectsWithin names [] := fun l hl => nomatch hl
  cases q with
  | all | allAugmented | deleteByID => exact hempty
  | byID =>
    have hitem : IsWordy "item0" := isWordy_literal (by decide)
    exact selectsWithin_equal hprobe hwordy hall hitem (.inr (by simp)) (.inl (by simp))
  | byIDAugmented =>
    have hitem : IsWordy "augItem0" := isWordy_literal (by decide)
    exact selectsWithin_equal hprobe hwordy haugmented hitem (.inr (by simp)) (.inl (by simp))
  | byRelation rel =>
    have hitems := isWordy_target he hrelation ("itemsBy" ++ rel.accessorName) rfl
    have hwordy := isWordy_of_isIdentifying (hrelation rel rfl)
    exact selectsWithin_equal (haccessor rel rfl) hwordy hall hitems (.inr (by simp)) (.inr (by simp))
  | byRelationAugmented rel =>
    have hitems := isWordy_target he hrelation ("augItemsBy" ++ rel.accessorName) rfl
    have hwordy := isWordy_of_isIdentifying (hrelation rel rfl)
    exact selectsWithin_equal (haccessor rel rfl) hwordy haugmented hitems (.inr (by simp)) (.inr (by simp))
  | store =>
    have hitem : IsWordy "item" := isWordy_literal (by decide)
    exact selectsWithin_equal hprobe hwordy hitem hnew (.inl (by simp)) (.inl (by simp))

/-- From the call on, each part of the test selects declared fields, if the identity and the field by which rows
are compared are declared. -/
lemma selectsWithin_called (hprobe : probe e ∈ names) :
    SelectsWithin names (callLine e q :: (noError ++ checks e q)) :=
  List.forall_mem_append.mpr ⟨selectsWithin_callLine he hrelation hidentity haccessor,
    selectsWithin_checks he hrelation haccessor hprobe⟩

/-- A part of the test that stores nothing selects declared fields, if the identity and the field by which rows
are compared are declared. -/
lemma selectsWithin_step (hprobe : probe e ∈ names) (hq : q ≠ .store) :
    SelectsWithin names ("" :: step e domainPackage q) := by
  have hempty : bound? "" = none ∧ selections "" = [] := by decide
  obtain ⟨comment, hcomment, hstep⟩ := exists_step_eq_of_ne_store (e := e) domainPackage hq
  rw [hstep]
  refine List.forall_mem_cons.mpr ⟨?_, List.forall_mem_cons.mpr ⟨?_, ?_⟩⟩
  · rw [hempty.1, hempty.2]
    exact ⟨by simp, by simp⟩
  · rw [bound?_comment hcomment, selections_comment hcomment]
    exact ⟨by simp, by simp⟩
  · exact selectsWithin_called he hrelation hidentity haccessor hprobe

end Steps

section Bound

variable {e : Entity} {q : Query} (he : e.IsSpelled)
  (hrelation : ∀ rel ∈ q.relation?, IsIdentifying rel.accessorName)
include he hrelation

/-- A part of the test that stores nothing binds the variable of its call. -/
lemma filterMap_bound?_step (domainPackage : String) (hq : q ≠ .store) :
    ("" :: step e domainPackage q).filterMap bound? = (target? e q).toList := by
  obtain ⟨comment, hcomment, hstep⟩ := exists_step_eq_of_ne_store (e := e) domainPackage hq
  have hchecks : ∀ l ∈ noError ++ checks e q, bound? l = none := by
    refine List.forall_mem_append.mpr ⟨bound?_noError, ?_⟩
    cases q with
    | all | allAugmented | deleteByID => exact fun l hl => nomatch hl
    | _ => exact bound?_equal _ _
  rw [hstep, List.filterMap_cons_none (by decide), List.filterMap_cons_none (bound?_comment hcomment),
    List.filterMap_cons, List.filterMap_eq_nil_iff.mpr hchecks, bound?_callLine he hrelation]
  cases target? e q with
  | _ => rfl

end Bound

end Scaffold

end DeclGen
