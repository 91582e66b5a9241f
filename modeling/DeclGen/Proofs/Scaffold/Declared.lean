import DeclGen.Proofs.Config.Validation
import DeclGen.Proofs.Model.Reported
import DeclGen.Proofs.Scaffold.Selections
import DeclGen.Proofs.Source.WellNamed
import DeclGen.Proofs.ZeroValue
import Mathlib.Data.List.Forall2

/-!
# Fields that a test needs

The fields that a test selects from rows are declared in the record of its entity exactly when the identity is,
and no package is called like a variable with a row, unless what is selected from it is declared
(`Scaffold.forall_selectedFields_iff`). The identity is selected from a row in every test
(`Scaffold.identityField_mem_selectedFields`), although records without one have a repository.
-/

namespace DeclGen

open Text

/-- What a test names besides its entity is named by identifiers. -/
structure ScaffoldOptions.IsNamed (o : ScaffoldOptions) : Prop where
  domainPackage : IsIdentifying o.domainPackage
  repoPackage : IsIdentifying o.repoPackage
  sharedDb : IsIdentifying o.sharedDb

lemma ScaffoldOptions.IsNamed.unbroken {o : ScaffoldOptions} (h : o.IsNamed) :
    Unbroken [o.domainPackage, o.repoPackage, o.sharedDb] := by
  simp only [Unbroken, List.forall_mem_cons, List.not_mem_nil, false_imp_iff, implies_true, and_true]
  exact ⟨h.domainPackage.notMem _ (by decide), h.repoPackage.notMem _ (by decide),
    h.sharedDb.notMem _ (by decide)⟩

/-- A valid configuration names packages and the connection by identifiers. -/
lemma Config.isNamed_scaffoldOptions {c : Config} (h : c.validate = .ok ()) (table : String) :
    (c.scaffoldOptions table).IsNamed := by
  obtain ⟨hdomain, hrepo, hshared⟩ := Config.isIdentifier_of_validate h
  exact ⟨.inl hdomain, .inl hrepo, .inl hshared⟩

namespace Scaffold

/-! ## Storing a row -/

section Store

variable {e : Entity} {domainPackage : String} {rows names : List String}

/-- The line that sets a field of the item. -/
def assignment (f : Field) : String := "item." ++ f.name ++ " = " ++ f.storeLiteral

lemma bound?_new (type : String) : bound? ("item := new(" ++ type ++ ")") = some "item" := by
  have hspace : isNameChar ' ' = false := isNameChar_sign (by decide)
  have hline : "item := new(" ++ type ++ ")" = "item" ++ (" := new(" ++ type ++ ")") := by
    simp [← String.toList_inj]
  rw [bound?_append hline (isWordy_literal (by decide)) (by simp [hspace])]
  simp [List.isPrefixOf]

lemma bound?_assignment (f : Field) : bound? (assignment f) = none := by
  have hdot : isNameChar '.' = false := isNameChar_sign (by decide)
  have hline : assignment f = "item" ++ ("." ++ f.name ++ " = " ++ f.storeLiteral) := by
    simp [assignment, ← String.toList_inj]
  rw [bound?_append hline (isWordy_literal (by decide)) (by simp [hdot])]
  simp [List.isPrefixOf]

lemma selections_new (type : String) :
    selections ("item := new(" ++ type ++ ")") = selectionsIn type.toList := by
  have hline : "item := new(" ++ type ++ ")" = "item" ++ " := new(" ++ (type ++ ")" ++ "") := by
    simp [← String.toList_inj]
  have hitem : selectionsIn "item".toList = [] := selectionsIn_name (List.all_eq_true.mp (by decide))
  rw [selections_of_head (by simp), hline, selectionsIn_between " := new(" (by decide),
    selectionsIn_between ")" (by decide), hitem, selectionsIn_empty]
  simp

lemma selections_assignment {f : Field} (hname : IsWordy f.name) :
    selections (assignment f) = ("item", f.name) :: selectionsIn f.storeLiteral.toList := by
  have hfield : selectionsIn ("item." ++ f.name).toList = [("item", f.name)] :=
    selectionsIn_selection (isWordy_literal (by decide)) hname (.inl (by simp))
  rw [selections_of_head (by simp [assignment]), assignment, selectionsIn_between " = " (by decide), hfield]
  rfl

lemma storeFront_eq : "" :: storeFront e domainPackage =
    "" :: ("// Store " ++ article e.name ++ " " ++ e.name ++ " record.") ::
      ("item := new(" ++ (domainPackage ++ "." ++ e.name) ++ ")") ::
        (e.insertableFields.map assignment ++ [""]) := by
  have hassoc : "item := new(" ++ domainPackage ++ "." ++ e.name ++ ")" =
      "item := new(" ++ (domainPackage ++ "." ++ e.name) ++ ")" := by simp [String.append_assoc]
  rw [← hassoc]
  rfl

/-- Only the item is bound before a row is stored. -/
lemma filterMap_bound?_storeFront : ("" :: storeFront e domainPackage).filterMap bound? = ["item"] := by
  have hcomment : bound? ("// Store " ++ article e.name ++ " " ++ e.name ++ " record.") = none :=
    bound?_comment (by simp [beginsWith, List.isPrefixOf])
  have hassigned : (e.insertableFields.map assignment).filterMap bound? = [] := by
    rw [List.filterMap_map, List.filterMap_eq_nil_iff]
    exact fun f _ => bound?_assignment f
  rw [storeFront_eq, List.filterMap_cons_none (by decide), List.filterMap_cons_none hcomment,
    List.filterMap_cons_some (bound?_new _), List.filterMap_append, hassigned]
  rfl

/-- What is selected before a row is stored: the record from the package, and from the item its fields, unless
the values of fields select more. -/
lemma forall_selectedFrom_storeFront (he : e.IsSpelled) (hpackage : IsWordy domainPackage) :
    (∀ field ∈ selectedFrom rows ("" :: storeFront e domainPackage), field ∈ names) ↔
      (domainPackage ∈ rows → e.name ∈ names) ∧ ∀ f ∈ e.insertableFields, f.name ∈ names ∧
        ∀ s ∈ selectionsIn f.storeLiteral.toList, s.1 ∈ rows ++ ["item"] → s.2 ∈ names := by
  have hbegins : beginsWith "//" ("// Store " ++ article e.name ++ " " ++ e.name ++ " record.") := by
    simp [beginsWith, List.isPrefixOf]
  have hcomment := And.intro (bound?_comment hbegins) (selections_comment hbegins)
  have hempty : bound? "" = none ∧ selections "" = [] := by decide
  have hunbound : ∀ l ∈ e.insertableFields.map assignment ++ [""], bound? l = none := by
    refine List.forall_mem_append.mpr ⟨?_, List.forall_mem_singleton.mpr hempty.1⟩
    exact List.forall_mem_map.mpr fun f _ => bound?_assignment f
  have hmade : selectionsIn (domainPackage ++ "." ++ e.name).toList = [(domainPackage, e.name)] :=
    selectionsIn_selection hpackage (isWordy_of_isIdentifying he.name) (.inl (by simp))
  have hassigned : ∀ f ∈ e.insertableFields,
      (∀ s ∈ selections (assignment f), s.1 ∈ rows ++ ["item"] → s.2 ∈ names) ↔ f.name ∈ names ∧
        ∀ s ∈ selectionsIn f.storeLiteral.toList, s.1 ∈ rows ++ ["item"] → s.2 ∈ names := by
    intro f hf
    have hname := isWordy_of_isIdentifying (he.fields f (List.mem_of_mem_filter hf)).1
    rw [selections_assignment hname, List.forall_mem_cons]
    simp
  rw [storeFront_eq, selectedFrom_cons_of_silent hempty, selectedFrom_cons_of_silent hcomment, selectedFrom,
    bound?_new, Option.toList_some, selectedFrom_of_unbound hunbound, List.forall_mem_append,
    forall_mem_selected_iff, selections_new, hmade, List.forall_mem_singleton, List.forall_mem_flatMap,
    List.forall_mem_append, List.forall_mem_map, List.forall_mem_singleton, hempty.2]
  simp only [forall_mem_selected_iff]
  rw [forall₂_congr hassigned]
  simp

end Store

/-! ## Values of fields -/

section Values

variable {f : Field} {pkg id : String}

/-- The zero value of a bare name selects nothing. -/
lemma selectionsIn_zeroOfName (h : IsWordy id) : selectionsIn (zeroOfName id).toList = [] := by
  have hsign : ∀ sign, isBetween sign → selectionsIn (id ++ sign).toList = [] := by
    intro sign hsign
    have hline : id ++ sign = id ++ sign ++ "" := String.append_empty.symm
    rw [hline, selectionsIn_between sign hsign, selectionsIn_name h, selectionsIn_empty]
    rfl
  have hempty : selectionsIn "\"\"".toList = [] := selectionsIn_between "\"\"" (by decide) "" ""
  unfold zeroOfName
  split_ifs
  · exact hempty
  · exact selectionsIn_name (List.all_eq_true.mp (by decide))
  · exact selectionsIn_name (List.all_eq_true.mp (by decide))
  · exact hsign "(0)" (by decide)
  · exact hsign "\x7b\x7d" (by decide)

/-- A value of a predeclared type selects nothing, unless the fraction of a number counts. -/
lemma selectionsIn_storeLiteral_of_isWordy (hname : IsWordy f.name) (htype : f.signature = .value id)
    (hid : IsWordy id) : ∀ s ∈ selectionsIn f.storeLiteral.toList, s.1 = "1000" := by
  have hfloat : selectionsIn "1000.0".toList = [("1000", "0")] :=
    selectionsIn_selection (isWordy_literal (by decide)) (isWordy_literal (by decide)) (.inl (by decide))
  have htext : selectionsIn ("\"test" ++ f.name ++ "\"").toList = [] := by
    have hline : "\"test" ++ f.name ++ "\"" = "" ++ "\"" ++ ("test" ++ f.name ++ "\"" ++ "") := by
      simp [← String.toList_inj]
    have htest : IsWordy ("test" ++ f.name) := isWordy_append.mpr ⟨isWordy_literal (by decide), hname⟩
    rw [hline, selectionsIn_between "\"" (by decide), selectionsIn_between "\"" (by decide),
      selectionsIn_name htest, selectionsIn_empty]
    rfl
  have hzero : selectionsIn f.signature.zeroValue.toList = [] := by
    rw [htype]
    exact selectionsIn_zeroOfName hid
  unfold Field.storeLiteral
  split_ifs
  · simp [hzero]
  · rw [htext]
    simp
  · rw [selectionsIn_name (List.all_eq_true.mp (by decide))]
    simp
  · rw [selectionsIn_name (List.all_eq_true.mp (by decide))]
    simp
  · rw [hfloat]
    simp
  · simp [hzero]

/-- A value of another type selects the type from its package. -/
lemma selectionsIn_storeLiteral_of_dot (hpkg : IsWordy pkg) (hid : IsWordy id)
    (htype : f.signature = .value (pkg ++ "." ++ id)) : selectionsIn f.storeLiteral.toList = [(pkg, id)] := by
  have htypeName : f.typeName = pkg ++ "." ++ id := by rw [Field.typeName, htype, TypeSignature.value]
  have hprimitive : Naming.isPrimitive f.typeName = false := isPrimitive_false_of_dot (by simp [htypeName])
  have hne : ∀ n ∈ Naming.primitives, f.typeName ≠ n := fun n => ne_of_isPrimitive_false hprimitive
  have hinteger : Naming.isInteger f.typeName = false :=
    contains_eq_false_of_isPrimitive_false hprimitive (by decide)
  have hfloat : Naming.isFloat f.typeName = false :=
    contains_eq_false_of_isPrimitive_false hprimitive (by decide)
  have hzero : f.signature.zeroValue = pkg ++ "." ++ id ++ "\x7b\x7d" := by
    rw [← htypeName, ← zeroOfName_of_isPrimitive_false hprimitive, Field.typeName, htype]
    rfl
  have hliteral : f.storeLiteral = pkg ++ "." ++ id ++ "\x7b\x7d" := by
    simp [Field.storeLiteral, hne "string" (by decide), hne "bool" (by decide), hinteger, hfloat, hzero]
  have hline : f.storeLiteral = pkg ++ "." ++ id ++ "\x7b\x7d" ++ "" := by rw [hliteral, String.append_empty]
  rw [hline, selectionsIn_between "\x7b\x7d" (by decide), selectionsIn_selection hpkg hid (.inl (by simp)),
    selectionsIn_empty]
  rfl

/-- What the value of a field selects from variables with rows is the type, where the package is called like
one. -/
lemma forall_selectionsIn_storeLiteral_iff {rows names : List String} (hrows : "1000" ∉ rows)
    (hname : IsWordy f.name) (hpkg : Source.IsName pkg) (hid : Source.IsName id)
    (htype : f.signature = .value (TypeExpr.qualifiedName id pkg true)) :
    (∀ s ∈ selectionsIn f.storeLiteral.toList, s.1 ∈ rows → s.2 ∈ names) ↔
      (pkg ∈ rows → ∀ type, f.typeName = pkg ++ "." ++ type → type ∈ names) := by
  have hwordy : IsWordy id := isWordy_of_isIdentifying (.inr hid)
  have htypeName : f.typeName = TypeExpr.qualifiedName id pkg true := by
    rw [Field.typeName, htype, TypeSignature.value]
  cases hprimitive : Naming.isPrimitive id with
  | true =>
    have hbare : TypeExpr.qualifiedName id pkg true = id := by simp [TypeExpr.qualifiedName, hprimitive]
    have hnumber := selectionsIn_storeLiteral_of_isWordy hname (hbare ▸ htype) hwordy
    constructor
    · intro _ _ type hselected
      -- no predeclared name has a dot
      rw [htypeName, hbare] at hselected
      have hdot : '.' ∈ id.toList := by simp [hselected]
      rw [isPrimitive_false_of_dot hdot] at hprimitive
      cases hprimitive
    · intro _ s hs hmem
      exact absurd (hnumber s hs ▸ hmem) hrows
  | false =>
    have hseen : TypeExpr.qualifiedName id pkg true = pkg ++ "." ++ id := by
      simp [TypeExpr.qualifiedName, hprimitive, hpkg.ne_empty]
    have hselected := selectionsIn_storeLiteral_of_dot (isWordy_of_isIdentifying (.inr hpkg)) hwordy
      (hseen ▸ htype)
    rw [hselected, htypeName, hseen, List.forall_mem_singleton]
    simp [String.append_right_inj]

end Values

/-! ## The test -/

/-- The variables that the test gives rows to before it stores one. -/
def rowVariables (e : Entity) (relations : List Relation) : List String :=
  ((Query.ofEntity e relations).takeWhile (· != .store)).filterMap (target? e)

section Test

variable {e : Entity} {relations : List Relation} {o : ScaffoldOptions} {names : List String}

/-- No variable is given a row where the repository is made. -/
lemma bound?_making (h : IsIdentifying o.repoPackage) : bound? (making e o) = none := by
  have hspace : isNameChar ' ' = false := isNameChar_sign (by decide)
  obtain ⟨behind, hbehind⟩ : ∃ behind, behind = "New" ++ e.name ++ "Repo(" ++ o.sharedDb ++ ")" := ⟨_, rfl⟩
  obtain ⟨rest, hrest⟩ : ∃ rest, rest = " := " ++ (o.repoPackage ++ "." ++ behind) := ⟨_, rfl⟩
  have hline : making e o = "s" ++ rest := by simp [making, hrest, hbehind, ← String.toList_inj]
  have hlist : rest.toList = " := ".toList ++ (o.repoPackage.toList ++ '.' :: behind.toList) := by
    simp [hrest]
  -- a package that begins like the making of an item would hold a parenthesis, or end before it with a dot
  have hnew : ¬ "new(".toList <+: o.repoPackage.toList ++ '.' :: behind.toList := by
    rintro ⟨after, hafter⟩
    have hopening : '(' ∉ o.repoPackage.toList := h.notMem _ (by decide)
    rcases List.append_eq_append_iff.mp hafter with ⟨middle, hmiddle, -⟩ | ⟨middle, hmiddle, hdot⟩
    · exact hopening (by simp [hmiddle])
    · cases middle with
      | nil => exact hopening (by simp [← (List.append_nil _ ▸ hmiddle)])
      | cons c middle =>
        obtain rfl := (List.cons.inj hdot).1
        have hmem : '.' ∈ "new(".toList := by simp [hmiddle]
        exact absurd hmem (by decide)
  have hitem : " := new(".toList.isPrefixOf rest.toList = false := by
    have hparts : " := new(".toList = " := ".toList ++ "new(".toList := by decide
    rw [Bool.eq_false_iff, ne_eq, List.isPrefixOf_iff_prefix, hlist, hparts, List.prefix_append_right_inj]
    exact hnew
  rw [bound?_append hline (isWordy_literal (by decide)) (by simp [hlist, hspace]), hitem, hlist]
  simp [List.isPrefixOf]

/-- Neither the item nor what is bound before it is foreign. -/
lemma notMem_foreign_of_rowVariables : ∀ v ∈ rowVariables e relations ++ ["item"], v ∉ foreign := by
  refine List.forall_mem_append.mpr ⟨fun v hv => ?_, by decide⟩
  obtain ⟨q, -, hq⟩ := List.mem_filterMap.mp hv
  exact notMem_foreign_of_target v hq

lemma probe_mem (hidentity : Naming.identityField ∈ names) (hfields : ∀ f ∈ e.fields, f.name ∈ names) :
    probe e ∈ names := by
  unfold probe
  cases hprobe : e.probeField? with
  | none => exact hidentity
  | some f => exact hfields f (mem_fields_of_probeField? hprobe)

section Parts

variable {front : List Query} {domainPackage : String} (he : e.IsSpelled)
  (hrelations : ∀ q ∈ front, ∀ rel ∈ q.relation?, IsIdentifying rel.accessorName) (hstore : Query.store ∉ front)
include he hrelations hstore

lemma filterMap_bound?_parts :
    (front.flatMap fun q => "" :: step e domainPackage q).filterMap bound? = front.filterMap (target? e) := by
  have hpart : ∀ q ∈ front, ("" :: step e domainPackage q).filterMap bound? = (target? e q).toList :=
    fun q hq => filterMap_bound?_step he (hrelations q hq) domainPackage (ne_of_mem_of_not_mem hq hstore)
  rw [List.filterMap_flatMap, List.flatMap_congr hpart, List.filterMap_eq_flatMap_toList]

lemma selectsWithin_parts (hidentity : Naming.identityField ∈ names) (hprobe : probe e ∈ names)
    (haccessors : ∀ q ∈ front, ∀ rel ∈ q.relation?, rel.accessorName ∈ names) :
    SelectsWithin names (front.flatMap fun q => "" :: step e domainPackage q) := by
  intro l hl
  obtain ⟨q, hq, hl⟩ := List.mem_flatMap.mp hl
  exact selectsWithin_step he (hrelations q hq) hidentity (haccessors q hq) hprobe
    (ne_of_mem_of_not_mem hq hstore) l hl

end Parts

/-- The lines of the test from the call on that stores a row. -/
def storeBack (e : Entity) (domainPackage : String) : List String :=
  callLine e .store :: (noError ++ checks e .store) ++ ("" :: step e domainPackage .deleteByID) ++ ["\x7d", ""]

lemma selectsWithin_storeBack (he : e.IsSpelled) (hidentity : Naming.identityField ∈ names)
    (hprobe : probe e ∈ names) (domainPackage : String) : SelectsWithin names (storeBack e domainPackage) := by
  have hstored : SelectsWithin names (callLine e .store :: (noError ++ checks e .store)) :=
    selectsWithin_called he (fun rel hrel => nomatch hrel) hidentity (fun rel hrel => nomatch hrel) hprobe
  have hdeleted : SelectsWithin names ("" :: step e domainPackage .deleteByID) :=
    selectsWithin_step he (fun rel hrel => nomatch hrel) hidentity (fun rel hrel => nomatch hrel) hprobe
      (by decide)
  have hend : ∀ l ∈ ["\x7d", ""], bound? l = none ∧ selections l = [] := by decide
  refine List.forall_mem_append.mpr ⟨List.forall_mem_append.mpr ⟨hstored, hdeleted⟩, fun l hl => ?_⟩
  rw [(hend l hl).1, (hend l hl).2]
  exact ⟨by simp, by simp⟩

/-- The row that was stored is deleted by its identity, whether it has one or not. -/
lemma identityField_mem_storeBack (he : e.IsSpelled) (rows : List String) (domainPackage : String) :
    Naming.identityField ∈ selectedFrom rows (storeBack e domainPackage) := by
  obtain ⟨comment, -, hstep⟩ := exists_step_eq_of_ne_store (e := e) (q := .deleteByID) domainPackage (by decide)
  have hlines : storeBack e domainPackage =
      (callLine e .store :: (noError ++ checks e .store) ++ ["", comment]) ++
        callLine e .deleteByID :: (noError ++ ["\x7d", ""]) := by
    have hnone : checks e .deleteByID = [] := rfl
    simp [storeBack, hstep, hnone]
  have hbound : bound? (callLine e .store) = some ("new" ++ e.name) :=
    bound?_callLine he fun rel hrel => nomatch hrel
  have hcall : selections (callLine e .deleteByID) =
      [("s", "DeleteByID"), ("fmt", "Sprint"), ("new" ++ e.name, Naming.identityField)] := by
    have hnone : ∀ rel ∈ Query.deleteByID.relation?, IsIdentifying rel.accessorName :=
      fun rel hrel => nomatch hrel
    have hidentity : IsWordy Naming.identityField := isWordy_literal (by decide)
    rw [selections_callLine he hnone, argument, selectionsIn_printed,
      selectionsIn_selection (isWordy_rows he).2.2 hidentity (.inl (by simp))]
    rfl
  have hselected : ("new" ++ e.name, Naming.identityField) ∈ selections (callLine e .deleteByID) := by
    simp [hcall]
  rw [hlines]
  refine mem_selectedFrom hselected ?_
  rw [List.cons_append, List.filterMap_cons_some hbound]
  simp

/-- The lines of the test function, parted where a row is stored. -/
lemma exists_bodyLines_eq (e : Entity) (relations : List Relation) (o : ScaffoldOptions) :
    ∃ front ⊆ Query.ofEntity e relations, Query.store ∉ front ∧
      rowVariables e relations = front.filterMap (target? e) ∧
      bodyLines e relations o ++ ["\x7d", ""] =
        making e o :: (front.flatMap fun q => "" :: step e o.domainPackage q) ++
          (("" :: storeFront e o.domainPackage) ++ storeBack e o.domainPackage) := by
  obtain ⟨front, hqueries, hfront⟩ := exists_ofEntity_eq e relations
  have hbefore : ∀ q ∈ front, (q != .store) = true := by
    intro q hq
    simpa using ne_of_mem_of_not_mem hq hfront
  refine ⟨front, by simp [hqueries], hfront, ?_, ?_⟩
  · rw [rowVariables, hqueries, List.takeWhile_append_of_pos hbefore]
    simp
  · have hchecks : checks e .store = equal ("item." ++ probe e) ("new" ++ e.name ++ "." ++ probe e) := rfl
    simp [bodyLines, hqueries, step_store, storeBack, hchecks]

section Read

variable (he : e.IsSpelled) (hrelations : ∀ rel ∈ relations, IsIdentifying rel.accessorName) (ho : o.IsNamed)
include he hrelations ho

/-- The selections of a test are those in front of the item, those that make it, and those behind. -/
lemma exists_selectedFields_eq : ∃ front ⊆ Query.ofEntity e relations, Query.store ∉ front ∧
    selectedFields (text e relations o) =
      selectedFrom [] (front.flatMap fun q => "" :: step e o.domainPackage q) ++
        (selectedFrom (rowVariables e relations) ("" :: storeFront e o.domainPackage) ++
          selectedFrom (rowVariables e relations ++ ["item"]) (storeBack e o.domainPackage)) := by
  obtain ⟨front, hfront, hstore, hrows, hlines⟩ := exists_bodyLines_eq e relations o
  have hspelled : ∀ q ∈ front, ∀ rel ∈ q.relation?, IsIdentifying rel.accessorName :=
    fun q hq rel hrel => hrelations rel (Query.mem_relations (hfront hq) hrel)
  refine ⟨front, hfront, hstore, ?_⟩
  -- no row is there where the repository is made, so nothing is selected from one
  rw [selectedFields, lastFunction_text he hrelations ho.unbroken, hlines, List.cons_append, selectedFrom,
    bound?_making ho.repoPackage, selectedFrom_append, selectedFrom_append, filterMap_bound?_storeFront,
    Option.toList_none, List.append_nil, filterMap_bound?_parts he hspelled hstore, hrows]
  simp

/-- The test selects the identity from a row, whether it is declared or not. -/
lemma identityField_mem_selectedFields : Naming.identityField ∈ selectedFields (text e relations o) := by
  obtain ⟨front, -, -, hselected⟩ := exists_selectedFields_eq he hrelations ho
  rw [hselected]
  exact List.mem_append_right _ (List.mem_append_right _ (identityField_mem_storeBack he _ _))

/-- The test selects declared fields from rows exactly when the identity is declared, a package that is called
like a variable with a row is captured with a declared field, and so are the packages in values. -/
lemma forall_selectedFields_text_iff (hfields : ∀ f ∈ e.fields, f.name ∈ names)
    (haccessors : ∀ rel ∈ relations, rel.accessorName ∈ names) :
    (∀ field ∈ selectedFields (text e relations o), field ∈ names) ↔
      Naming.identityField ∈ names ∧ (o.domainPackage ∈ rowVariables e relations → e.name ∈ names) ∧
        ∀ f ∈ e.insertableFields, ∀ s ∈ selectionsIn f.storeLiteral.toList,
          s.1 ∈ rowVariables e relations ++ ["item"] → s.2 ∈ names := by
  obtain ⟨front, hfront, hstore, hselected⟩ := exists_selectedFields_eq he hrelations ho
  have hspelled : ∀ q ∈ front, ∀ rel ∈ q.relation?, IsIdentifying rel.accessorName :=
    fun q hq rel hrel => hrelations rel (Query.mem_relations (hfront hq) hrel)
  have hdeclared : ∀ q ∈ front, ∀ rel ∈ q.relation?, rel.accessorName ∈ names :=
    fun q hq rel hrel => haccessors rel (Query.mem_relations (hfront hq) hrel)
  have hinserted : ∀ f ∈ e.insertableFields, f.name ∈ names :=
    fun f hf => hfields f (List.mem_of_mem_filter hf)
  have hpackageName := isWordy_of_isIdentifying ho.domainPackage
  constructor
  · intro h
    have hidentity := h _ (identityField_mem_selectedFields he hrelations ho)
    rw [hselected, List.forall_mem_append, List.forall_mem_append,
      forall_selectedFrom_storeFront he hpackageName] at h
    exact ⟨hidentity, h.2.1.1, fun f hf => (h.2.1.2 f hf).2⟩
  · rintro ⟨hidentity, hpackage, hvalues⟩
    have hprobe := probe_mem hidentity hfields
    rw [hselected, List.forall_mem_append, List.forall_mem_append,
      forall_selectedFrom_storeFront he hpackageName]
    refine ⟨?_, ⟨hpackage, fun f hf => ⟨hinserted f hf, hvalues f hf⟩⟩, ?_⟩
    · have hparts : SelectsWithin names (front.flatMap fun q => "" :: step e o.domainPackage q) :=
        selectsWithin_parts he hspelled hstore hidentity hprobe hdeclared
      exact hparts.forall_mem fun v hv => nomatch hv
    · exact (selectsWithin_storeBack he hidentity hprobe _).forall_mem notMem_foreign_of_rowVariables

end Read

end Test

end Scaffold

/-! ## Declared fields -/

/-- The name of an embedded field: that of its type, without a star, a package and type arguments. -/
def TypeExpr.embeddedName : TypeExpr → String
  | name id | qualified _ id => id
  | pointer e => e.embeddedName
  | unsupported _ text =>
    String.ofList (Unicode.trim (((text.toList.takeWhile (· != '[')).splitOn '.').getLastD []))
  | slice _ | variadic _ | openType => ""

/-- The fields that a record declares, whether they are columns or not. -/
def StructDecl.fieldNames (d : StructDecl) : List String :=
  d.fields.flatMap fun g => if g.names.isEmpty then [g.type.embeddedName] else g.names

/-- Only a bare name resolves to a plain named type. -/
lemma TypeExpr.exists_name_of_kind_eq_value {t : TypeExpr} {ns : String} {s : TypeSignature}
    (h : t.resolve ns = some s) (hkind : s.kind = .value) :
    ∃ id, t = .name id ∧ s = .value (TypeExpr.qualifiedName id ns true) := by
  cases t with
  | name id =>
    by_cases hany : id = Naming.anyType
    · obtain rfl : TypeSignature.openAs Naming.anyType = s := by
        simpa [TypeExpr.resolve, TypeExpr.resolveWith, hany] using h
      cases hkind
    · refine ⟨id, rfl, ?_⟩
      simpa [TypeExpr.resolve, TypeExpr.resolveWith, hany] using h.symm
  | slice t | pointer t | variadic t =>
    obtain ⟨inner, -, rfl⟩ := Option.map_eq_some_iff.mp h
    cases hkind
  | openType =>
    obtain rfl := Option.some.inj h
    cases hkind
  | qualified t id =>
    obtain ⟨package, -, rfl⟩ := Option.map_eq_some_iff.mp h
    cases hkind
  | unsupported shape text => cases h

section Built

variable {d : StructDecl} {pkg : String} {structNames : List String}

/-- A column of an entity is a field that the record declares, of a type that is called by a name. -/
lemma StructDecl.exists_of_mem_built {f : Field} (hf : f ∈ (d.built pkg structNames).fields) :
    ∃ g ∈ d.fields, f.name ∈ g.names ∧
      ∃ id, g.type = .name id ∧ f.signature = .value (TypeExpr.qualifiedName id pkg true) := by
  obtain ⟨⟨g, name⟩, hscanned, hpersisted⟩ := List.mem_filterMap.mp hf
  obtain ⟨g', hg, hpair⟩ := List.mem_flatMap.mp ((List.takeWhile_sublist _).subset hscanned)
  obtain ⟨name', hname, heq⟩ := List.mem_map.mp hpair
  obtain ⟨rfl, rfl⟩ := Prod.mk.inj heq
  unfold FieldDecl.persisted? at hpersisted
  cases hresolve : g'.type.resolve pkg with
  | none => simp [hresolve] at hpersisted
  | some signature =>
    by_cases hkind : signature.kind = .value
    · obtain ⟨column, -, rfl⟩ : ∃ column, Tag.column (g'.tag.getD "") = some column ∧
          ⟨name', signature, g'.tag.getD "", column⟩ = f := by
        simpa [hresolve, hkind] using hpersisted
      obtain ⟨id, htype, hsignature⟩ := TypeExpr.exists_name_of_kind_eq_value hresolve hkind
      exact ⟨g', hg, hname, id, htype, hsignature⟩
    · simp [hresolve, hkind] at hpersisted

lemma StructDecl.mem_fieldNames_of_mem_built {f : Field} (hf : f ∈ (d.built pkg structNames).fields) :
    f.name ∈ d.fieldNames := by
  obtain ⟨g, hg, hname, -⟩ := exists_of_mem_built hf
  refine List.mem_flatMap.mpr ⟨g, hg, ?_⟩
  rwa [if_neg (by simpa using List.ne_nil_of_mem hname)]

variable (hname : Source.IsName d.name) (hfields : ∀ g ∈ d.fields, g.WellNamed)
include hfields

lemma StructDecl.isName_of_mem_built {f : Field} (hf : f ∈ (d.built pkg structNames).fields) :
    Source.IsName f.name ∧
      ∃ id, Source.IsName id ∧ f.signature = .value (TypeExpr.qualifiedName id pkg true) := by
  obtain ⟨g, hg, hmem, id, htype, hsignature⟩ := exists_of_mem_built hf
  obtain ⟨hnames, hwell⟩ := hfields g hg
  exact ⟨hnames _ hmem, id, hwell.2 id (by simp [htype, TypeExpr.names]), hsignature⟩

include hname

lemma StructDecl.isSpelled_built (hpkg : Source.IsName pkg) : (d.built pkg structNames).IsSpelled where
  name := .inr hname
  fields f hf := by
    obtain ⟨hf, id, hid, hsignature⟩ := isName_of_mem_built hfields hf
    have hline : ∀ n, Source.IsName n → '\n' ∉ n.toList :=
      fun n hn => IsIdentifying.notMem (.inr hn) _ (by decide)
    refine ⟨.inr hf, ?_⟩
    have htypeName : f.typeName = TypeExpr.qualifiedName id pkg true := by
      rw [Field.typeName, hsignature, TypeSignature.value]
    rw [htypeName, TypeExpr.qualifiedName]
    split_ifs
    · exact hline id hid
    · simp [hline pkg hpkg, hline id hid]

end Built

namespace Scaffold

/-- For every text that is loaded, each record and its entity, every table and all options: the fields that the
test selects from rows are declared in the record exactly when the identity is, and no package is called like
a variable with a row by then, unless what is selected from it is declared. -/
theorem forall_selectedFields_iff [ErrorRecovery] {source : String} {o : BuildOptions} {model : FileModel}
    (hload : (FileModel.load source o).report.1 = .ok model) :
    ∃ f, SourceFile.parse source = .ok f ∧
      List.Forall₂ (fun d e => ∀ (table : String) (so : ScaffoldOptions), so.IsNamed →
        ((∀ field ∈ selectedFields (text e (Relation.ofEntity e table) so), field ∈ d.fieldNames) ↔
          Naming.identityField ∈ d.fieldNames ∧
          (so.domainPackage ∈ rowVariables e (Relation.ofEntity e table) → e.name ∈ d.fieldNames) ∧
          (f.package ∈ rowVariables e (Relation.ofEntity e table) ++ ["item"] → ∀ field ∈ e.insertableFields,
            ∀ type, field.typeName = f.package ++ "." ++ type → type ∈ d.fieldNames)))
        f.structs model.entities := by
  obtain ⟨f, hparse, rfl⟩ := exists_built_of_load hload
  have hf := wellNamed_of_parse hparse
  refine ⟨f, hparse, List.forall₂_map_right_iff.mpr (List.forall₂_same.mpr fun d hd table so hso => ?_)⟩
  obtain ⟨hname, hfields⟩ := wellNamed_struct hf hd
  obtain ⟨e, he⟩ : ∃ e, e = d.built f.package (f.structs.map (·.name)) := ⟨_, rfl⟩
  have hspelled : e.IsSpelled := he ▸ StructDecl.isSpelled_built hname hfields hf.package
  have hdeclared : ∀ field ∈ e.fields, field.name ∈ d.fieldNames :=
    fun field hfield => StructDecl.mem_fieldNames_of_mem_built (he ▸ hfield)
  have haccessor : ∀ rel ∈ Relation.ofEntity e table, ∃ field ∈ e.fields, rel.accessorName = field.name := by
    intro rel hrel
    obtain ⟨field, hfield, joined, -, rfl⟩ := Relation.mem_ofEntity_iff.mp hrel
    exact ⟨field, List.mem_of_mem_filter hfield, rfl⟩
  have hidentifying : ∀ rel ∈ Relation.ofEntity e table, IsIdentifying rel.accessorName := by
    intro rel hrel
    obtain ⟨field, hfield, heq⟩ := haccessor rel hrel
    exact heq ▸ (hspelled.fields field hfield).1
  have haccessors : ∀ rel ∈ Relation.ofEntity e table, rel.accessorName ∈ d.fieldNames := by
    intro rel hrel
    obtain ⟨field, hfield, heq⟩ := haccessor rel hrel
    exact heq ▸ hdeclared field hfield
  have hnumber : "1000" ∉ rowVariables e (Relation.ofEntity e table) ++ ["item"] :=
    fun hmem => notMem_foreign_of_rowVariables "1000" hmem (by decide)
  have hvalue : ∀ field ∈ e.insertableFields, (∀ s ∈ selectionsIn field.storeLiteral.toList,
      s.1 ∈ rowVariables e (Relation.ofEntity e table) ++ ["item"] → s.2 ∈ d.fieldNames) ↔
      (f.package ∈ rowVariables e (Relation.ofEntity e table) ++ ["item"] →
        ∀ type, field.typeName = f.package ++ "." ++ type → type ∈ d.fieldNames) := by
    intro field hfield
    have hmem := List.mem_of_mem_filter hfield
    obtain ⟨hfieldName, id, hid, htype⟩ := StructDecl.isName_of_mem_built hfields (he ▸ hmem)
    have hwordy := isWordy_of_isIdentifying (.inr hfieldName)
    exact forall_selectionsIn_storeLiteral_iff hnumber hwordy hf.package hid htype
  rw [← he, forall_selectedFields_text_iff hspelled hidentifying hso hdeclared haccessors,
    forall₂_congr hvalue]
  refine and_congr_right' (and_congr_right' ⟨?_, ?_⟩)
  · exact fun h hpackage field hfield => h field hfield hpackage
  · exact fun h field hfield hpackage => h hpackage field hfield

/-- An invoice with an identity. -/
def invoiceRecord : String :=
  "package shop;type Invoice struct\x7bID int64 `db:\"id\"`;Payer string `db:\"account_id\"`;" ++
    "Total Money `db:\"total\"`\x7d;"

/-- The invoice as it is declared. -/
def invoiceDecl : StructDecl := ⟨"Invoice", [⟨["ID"], .name "int64", some "db:\"id\""⟩,
  ⟨["Payer"], .name "string", some "db:\"account_id\""⟩, ⟨["Total"], .name "Money", some "db:\"total\""⟩]⟩

/-- The columns of the invoice. -/
def invoice : Entity := ⟨"Invoice", [⟨"ID", .value "int64", "db:\"id\"", "id"⟩,
  ⟨"Payer", .value "string", "db:\"account_id\"", "account_id"⟩,
  ⟨"Total", .value "shop.Money", "db:\"total\"", "total"⟩], false⟩

lemma parse_invoiceRecord : SourceFile.parse invoiceRecord = .ok ⟨"shop", [.struct invoiceDecl]⟩ := by
  decide +kernel

lemma load_invoiceRecord :
    (FileModel.load invoiceRecord {}).report.1 = .ok ⟨"shop", [invoice], [], []⟩ := by
  rw [FileModel.load_of_parse parse_invoiceRecord]
  decide

/-- The test of the invoice selects declared fields. -/
theorem forall_selectedFields_invoice :
    ∃ model, (FileModel.load invoiceRecord {}).report.1 = .ok model ∧ invoice ∈ model.entities ∧
      (Config.scaffoldOptions {} "invoice").IsNamed ∧
      ∀ field ∈ selectedFields (text invoice (Relation.ofEntity invoice "invoice")
        (Config.scaffoldOptions {} "invoice")), field ∈ ["ID", "Payer", "Total"] := by
  have hnamed : (Config.scaffoldOptions {} "invoice").IsNamed :=
    Config.isNamed_scaffoldOptions (by decide) "invoice"
  obtain ⟨f, hparse, hall⟩ := forall_selectedFields_iff load_invoiceRecord
  obtain rfl := Except.ok.inj (parse_invoiceRecord.symm.trans hparse)
  have hiff := (List.forall₂_cons.mp hall).1 "invoice" _ hnamed
  refine ⟨_, load_invoiceRecord, List.mem_cons_self, hnamed, hiff.mpr ⟨by decide, ?_, ?_⟩⟩
  · decide
  · exact fun hshop => absurd hshop (by decide)

/-- A note without an identity. -/
def noteRecord : String := "package shop;type Note struct\x7bText string `db:\"text\"`\x7d;"

/-- The note as it is declared. -/
def noteDecl : StructDecl := ⟨"Note", [⟨["Text"], .name "string", some "db:\"text\""⟩]⟩

/-- The columns of the note. -/
def note : Entity := ⟨"Note", [⟨"Text", .value "string", "db:\"text\"", "text"⟩], false⟩

lemma parse_noteRecord : SourceFile.parse noteRecord = .ok ⟨"shop", [.struct noteDecl]⟩ := by decide +kernel

lemma load_noteRecord : (FileModel.load noteRecord {}).report.1 = .ok ⟨"shop", [note], [], []⟩ := by
  rw [FileModel.load_of_parse parse_noteRecord]
  decide

/-- The test of the note selects an identity, which is not declared. -/
theorem not_forall_selectedFields_note :
    SourceFile.parse noteRecord = .ok ⟨"shop", [.struct noteDecl]⟩ ∧
    (FileModel.load noteRecord {}).report.1 = .ok ⟨"shop", [note], [], []⟩ ∧
    noteDecl.fieldNames = ["Text"] ∧
    "ID" ∈ selectedFields (text note (Relation.ofEntity note "note") (Config.scaffoldOptions {} "note")) := by
  have hspelled : note.IsSpelled := by
    refine ⟨.inl (by decide), ?_⟩
    simp only [note, List.forall_mem_singleton]
    exact ⟨.inl (by decide), by decide⟩
  have hrelations : Relation.ofEntity note "note" = [] := by decide
  have hnamed : (Config.scaffoldOptions {} "note").IsNamed :=
    Config.isNamed_scaffoldOptions (by decide) "note"
  refine ⟨parse_noteRecord, load_noteRecord, by decide, ?_⟩
  rw [hrelations]
  exact identityField_mem_selectedFields hspelled (fun rel hrel => nomatch hrel) hnamed

end Scaffold

end DeclGen
