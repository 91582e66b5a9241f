import DeclGen.Proofs.Model.Scan

/-!
# Fields that opt out

A tag names no column when it has nothing under the key of columns, and also when what it has there is empty, a
dash, or begins with a comma: then the field opts out of the columns. The builder does not tell the two apart. It
omits a field that opts out as one without a column tag, and a strict run fails with that cause exactly when the
first omitted field of the file is of the one kind or of the other (`FileModel.load_missingTag_iff`).
-/

namespace DeclGen

open Logged

namespace Tag

/-- What a value under the key of columns names: its part before the first comma, without white space around
it. -/
def columnPart (value : String) : String :=
  String.ofList (Unicode.trim (value.toList.takeWhile (· != ',')))

/-- The tag has a value under the key of columns by which its field is not to persist. -/
def OptsOut (tag : String) : Prop :=
  ∃ value, lookup tag Naming.columnKey = some value ∧ (columnPart value = "" ∨ columnPart value = "-")

/-- A tag names no column when it has no value under the key of columns, or opts out. -/
lemma column_eq_none_iff {tag : String} :
    column tag = none ↔ lookup tag Naming.columnKey = none ∨ OptsOut tag := by
  unfold column OptsOut
  cases lookup tag Naming.columnKey with
  | none => simp
  | some value => simp [columnPart, or_iff_not_imp_left]

end Tag

/-! ## The first omission -/

/-- The fields of a file that are omitted, in order, each with the record that it belongs to. -/
def SourceFile.omittedFields (f : SourceFile) : List (String × ScannedField) :=
  f.structs.flatMap fun d => (d.scannedFields.filter (·.isOmitted f.package)).map (d.name, ·)

section Faults

variable {pkg ns : String}

/-- The records of a file report the omitted fields, in order. -/
lemma flatMap_notices (f : SourceFile) :
    f.structs.flatMap (·.notices f.package) =
      f.omittedFields.map fun x => .omitting (x.2.omission f.package x.1) := by
  simp only [SourceFile.omittedFields, List.map_flatMap, List.map_map, notices_eq_map_omission]
  rfl

lemma isOmitted_of_mem_omittedFields {f : SourceFile} {x : String × ScannedField} (h : x ∈ f.omittedFields) :
    x.2.isOmitted f.package := by
  obtain ⟨d, -, hd⟩ := List.mem_flatMap.mp h
  obtain ⟨t, ht, rfl⟩ := List.mem_map.mp hd
  exact (List.mem_filter.mp ht).2

/-- An omitted field lacks a column tag when its type is a plain named one. -/
lemma ScannedField.omission_eq_missingTag_iff {t : ScannedField} {record owner name : String}
    (h : t.isOmitted pkg) :
    t.omission pkg owner = .missingTag record name ↔
      owner = record ∧ t.name = name ∧ t.isPlain pkg ∧ Tag.column t.tagText = none := by
  unfold isOmitted omission isUnresolved isPlain namesColumn at *
  cases hresolve : t.type.resolve pkg with
  | none => simp
  | some signature =>
    have hplain : signature.kind = .value ∧ Tag.column t.tagText = none := by
      simpa [hresolve] using h
    simp [hplain]

/-- A strict run fails only with a fault among what there is to report. -/
lemma Logged.exists_fault_of_ending {α : Type} {a : α} {added log : List Notice} {cause : ModelError}
    (h : (ending true a added log).1 = .error cause) : ∃ n ∈ added, n.fault? = some cause := by
  induction added generalizing log with
  | nil => cases h
  | cons n added ih =>
    cases hn : n.fault? with
    | none =>
      have hrest : (ending true a added (log ++ [n])).1 = .error cause := by simpa [ending, hn] using h
      obtain ⟨n', hmem, hfault⟩ := ih hrest
      exact ⟨n', List.mem_cons_of_mem n hmem, hfault⟩
    | some cause' =>
      obtain rfl : cause' = cause := by simpa [ending, hn] using h
      exact ⟨n, List.mem_cons_self, hn⟩

/-- Of methods no missing tag is reported. -/
lemma Contract.fault?_ne_missingTag {c : Contract} {n : Notice} (hn : n ∈ c.notices) (record name : String) :
    n.fault? ≠ some (.missingTag record name) := by
  have hgroup : ∀ {groups : List ParamDecl}, n ∈ groups.flatMap (·.notices c.owner c.name c.ns) →
      n.fault? ≠ some (.missingTag record name) := by
    intro groups hmem
    obtain ⟨g, -, hg⟩ := List.mem_flatMap.mp hmem
    unfold ParamDecl.notices at hg
    split at hg
    · obtain rfl := List.mem_singleton.mp hg
      simp [Notice.fault?]
    · cases hg
  rcases List.mem_append.mp hn with hparam | hresult
  · exact hgroup hparam
  rcases List.mem_append.mp hresult with hresult | hdropped
  · exact hgroup hresult
  · obtain ⟨p, -, hp⟩ := List.mem_flatMap.mp hdropped
    unfold Param.notices at hp
    split at hp
    · obtain rfl := List.mem_singleton.mp hp
      simp [Notice.fault?]
    · cases hp

end Faults

/-! ## Strict runs -/

/-- A strict run fails with a missing column tag exactly when the first omitted field of the file has that record
and name, is of a plain named type, and its tag either has nothing under the key of columns or opts out. -/
theorem FileModel.load_missingTag_iff [ErrorRecovery] {source ns record name : String} :
    (FileModel.load source ⟨ns, true⟩).report.1 = .error (.model (.missingTag record name)) ↔
      ∃ f, SourceFile.parse source = .ok f ∧
        ∃ t, f.omittedFields.head? = some (record, t) ∧ t.name = name ∧ t.isPlain f.package ∧
          (Tag.lookup t.tagText Naming.columnKey = none ∨ Tag.OptsOut t.tagText) := by
  cases hparse : SourceFile.parse source with
  | error e =>
    have hload : (FileModel.load source ⟨ns, true⟩).report.1 = .error (.source e) := by
      rw [FileModel.load_of_parse_error hparse]
      rfl
    simp [hload]
  | ok f =>
    have hload : (FileModel.load source ⟨ns, true⟩).report.1 = .error (.model (.missingTag record name)) ↔
        (ending true (f.built ns) (f.notices ns) []).1 = .error (.missingTag record name) := by
      rw [report_load hparse]
      cases (ending true (f.built ns) (f.notices ns) []).1 <;> simp [Except.mapError]
    have hnotices : f.notices ns = (f.omittedFields.map fun x => .omitting (x.2.omission f.package x.1)) ++
        (f.contracts ns).flatMap (·.notices) := by
      rw [SourceFile.notices, flatMap_notices]
    rw [hload, hnotices, ending_append (f.built ns), ending_omitting]
    simp only [Except.ok.injEq, exists_eq_left']
    cases hfirst : f.omittedFields.head? with
    | none =>
      -- no field is omitted, and of methods no missing tag is reported
      simp only [Option.elim_none, reduceCtorEq, false_and, exists_false, iff_false]
      intro hfails
      obtain ⟨n, hn, hfault⟩ := exists_fault_of_ending hfails
      obtain ⟨c, -, hc⟩ := List.mem_flatMap.mp hn
      exact Contract.fault?_ne_missingTag hc record name hfault
    | some x =>
      obtain ⟨owner, t⟩ := x
      have homitted : t.isOmitted f.package := isOmitted_of_mem_omittedFields (List.mem_of_head? hfirst)
      simp only [Option.elim_some, Except.error.injEq, Option.some.injEq, Prod.mk.injEq,
        ScannedField.omission_eq_missingTag_iff homitted, Tag.column_eq_none_iff]
      constructor
      · rintro ⟨howner, hname, hplain, htag⟩
        exact ⟨t, ⟨howner, rfl⟩, hname, hplain, htag⟩
      · rintro ⟨t', ⟨howner, ht⟩, hname, hplain, htag⟩
        subst ht
        exact ⟨howner, hname, hplain, htag⟩

/-- A record with one field, whose tag says that it is not to persist. -/
def draftSource : String :=
  "package desk\n\ntype Draft struct \x7b\n\tText string \x60db:\"-\"\x60\n\x7d\n"

/-- A strict run on a field that opts out fails with a missing column tag, though the tag has one. -/
theorem load_draftSource :
    (FileModel.load draftSource ⟨"domain", true⟩).report.1 = .error (.model (.missingTag "Draft" "Text")) ∧
      ∃ f, SourceFile.parse draftSource = .ok f ∧
        f.omittedFields = [("Draft", ⟨"Text", .name "string", some "db:\"-\""⟩)] ∧
        Tag.lookup "db:\"-\"" Naming.columnKey = some "-" := by
  have hfile : SourceFile.parse draftSource =
      .ok ⟨"desk", [.struct ⟨"Draft", [⟨["Text"], .name "string", some "db:\"-\""⟩]⟩]⟩ := by decide +kernel
  refine ⟨?_, _, hfile, by decide, by decide⟩
  rw [FileModel.load_of_parse hfile]
  decide

end DeclGen
