import DeclGen.Proofs.Model.Fields
import DeclGen.Proofs.Model.Reported
import DeclGen.Proofs.Unicode
import Mathlib.Data.List.Forall2

/-!
# The scan of a record

A record is scanned for columns name by name, up to the sentinel, which may stand in the middle of a group
(`StructDecl.scannedFields`). Of the scanned fields some persist, some are omitted with a notice, and the others
are passed over in silence. What is built of a record, what is reported of it and how a strict run on it ends
depend on these fields and on its name alone (`Build.entity_scan`).
-/

namespace DeclGen

open Logged

/-! ## Columns that tags name -/

namespace Tag

/-- A text that can stand as the column that a tag names: something, and not only a dash, without a comma and
without white space around it. -/
structure IsColumnName (column : String) : Prop where
  ne_empty : column ≠ ""
  ne_dash : column ≠ "-"
  whole : ',' ∉ column.toList
  first : ∀ c ∈ column.toList.head?, Unicode.isBlank c = false
  last : ∀ c ∈ column.toList.getLast?, Unicode.isBlank c = false

lemma isColumnName_of_column {tag column : String} (h : Tag.column tag = some column) :
    IsColumnName column := by
  have hwhole := comma_notMem_column h
  unfold Tag.column at h
  split at h
  · cases h
  · rename_i value _
    dsimp only at h
    split at h
    · cases h
    · rename_i hname
      rw [Bool.or_eq_true, not_or, beq_iff_eq, beq_iff_eq] at hname
      obtain rfl := Option.some.inj h
      refine ⟨hname.1, hname.2, hwhole, fun c hc => ?_, fun c hc => ?_⟩
      · exact Unicode.isBlank_head?_trim (by simpa using hc)
      · exact Unicode.isBlank_getLast?_trim (by simpa using hc)

end Tag

/-! ## Scanned fields -/

/-- One name of a group of fields, with the type and the tag of the group. -/
structure ScannedField where
  name : String
  type : TypeExpr
  tag : Option String
deriving DecidableEq, Repr

/-- The names of the fields of a record in order, with their types and tags. An embedded field has none. -/
def StructDecl.namedFields (d : StructDecl) : List ScannedField :=
  d.fields.flatMap fun g => g.names.map (⟨·, g.type, g.tag⟩)

/-- The fields up to the first one that is called like the sentinel. -/
def StructDecl.scannedFields (d : StructDecl) : List ScannedField :=
  d.namedFields.takeWhile (·.name != Naming.sentinelField)

namespace ScannedField

variable (pkg : String) (t : ScannedField)

/-- The text of the tag; a missing tag counts as an empty one. -/
def tagText : String := t.tag.getD ""

/-- The type does not resolve. -/
def isUnresolved : Bool := (t.type.resolve pkg).isNone

/-- The type resolves to a plain named one. -/
def isPlain : Bool := (t.type.resolve pkg).any (·.kind == .value)

/-- The tag names a column. -/
def namesColumn : Bool := (Tag.column t.tagText).isSome

/-- The field is a column: its type is a plain named one, and its tag names a column. -/
def persists : Bool := t.isPlain pkg && t.namesColumn

/-- The field is omitted with a notice: its type does not resolve, or it is a plain named one and the tag names
no column. -/
def isOmitted : Bool := t.isUnresolved pkg || t.isPlain pkg && !t.namesColumn

/-- Why the field of a record is omitted. -/
def omission (record : String) : ModelError :=
  if t.isUnresolved pkg then .unsupportedFieldType record t.name t.type.text else .missingTag record t.name

/-- The column that a field becomes has its name, the type that its own resolves to, which is a plain named one,
its tag, and the column that the tag names. -/
structure Becomes (f : Field) : Prop where
  name : f.name = t.name
  type : t.type.resolve pkg = some f.signature
  plain : f.signature.kind = .value
  tag : f.tag = t.tagText
  column : Tag.column t.tagText = some f.column

end ScannedField

/-! ## What is built and reported -/

namespace Logged

variable {α β : Type} {strict : Bool}

/-- What is made of the outcome of a run changes nothing about how the run ends. -/
lemma ending_map (g : α → β) (a : α) (added log : List Notice) :
    ((ending strict a added log).1.map g, (ending strict a added log).2) = ending strict (g a) added log := by
  induction added generalizing log with
  | nil => rfl
  | cons n added ih =>
    cases strict with
    | false => exact ih _
    | true =>
      cases hn : n.fault? with
      | none => simpa [ending, hn] using ih (log ++ [n])
      | some cause => simp [ending, hn, Except.map]

/-- A strict run with nothing but omissions to report ends with the first of them, if there is one. -/
lemma ending_omitting (a : β) (cause : α → ModelError) (items : List α) :
    ending true a (items.map fun x => .omitting (cause x)) [] =
      (items.head?.elim (.ok a) fun x => .error (cause x), []) := by
  cases items <;> rfl

end Logged

section Scan

variable {pkg : String}

/-- A field as a group of its own. -/
def ScannedField.decl (t : ScannedField) : FieldDecl := ⟨[t.name], t.type, t.tag⟩

/-- The builder scans the names up to the sentinel, each with its group. -/
lemma map_scanned (d : StructDecl) :
    (Build.scanned d.fields).map (fun x => ScannedField.mk x.2 x.1.type x.1.tag) = d.scannedFields := by
  have hnamed : d.namedFields = (d.fields.flatMap fun g => g.names.map (g, ·)).map
      fun x => ScannedField.mk x.2 x.1.type x.1.tag := by
    simp [StructDecl.namedFields, List.map_flatMap, Function.comp_def]
  rw [StructDecl.scannedFields, hnamed, List.takeWhile_map]
  rfl

/-- The columns of an entity are made of the scanned fields one by one. -/
lemma fields_built (d : StructDecl) (structNames : List String) :
    (d.built pkg structNames).fields = d.scannedFields.filterMap fun t => t.decl.persisted? pkg t.name := by
  rw [← map_scanned, List.filterMap_map]
  rfl

/-- The scanned fields are reported one by one. -/
lemma notices_scanned (d : StructDecl) :
    d.notices pkg = d.scannedFields.flatMap fun t => t.decl.notices d.name pkg t.name := by
  rw [← map_scanned, List.flatMap_map]
  rfl

namespace ScannedField

/-- What is reported of a field is its omission, if it is omitted. -/
lemma notices_decl (t : ScannedField) (record : String) :
    t.decl.notices record pkg t.name =
      if t.isOmitted pkg then [.omitting (t.omission pkg record)] else [] := by
  unfold FieldDecl.notices isOmitted omission isUnresolved isPlain namesColumn tagText decl
  cases t.type.resolve pkg with
  | none => simp
  | some signature =>
    by_cases hkind : signature.kind = .value
    · cases Tag.column (t.tag.getD "") <;> simp [hkind]
    · simp [hkind]

/-- A field is made a column when it persists. -/
lemma isSome_persisted? (t : ScannedField) : (t.decl.persisted? pkg t.name).isSome = t.persists pkg := by
  unfold FieldDecl.persisted? persists isPlain namesColumn tagText decl
  cases t.type.resolve pkg with
  | none => simp
  | some signature =>
    by_cases hkind : signature.kind = .value
    · simp [hkind]
    · simp [hkind]

lemma becomes_of_persisted? {t : ScannedField} {f : Field} (h : t.decl.persisted? pkg t.name = some f) :
    t.Becomes pkg f := by
  unfold FieldDecl.persisted? at h
  split at h
  · cases h
  · rename_i signature hresolve
    split at h
    · cases h
    · rename_i hkind
      obtain ⟨column, hcolumn, rfl⟩ := Option.map_eq_some_iff.mp h
      exact ⟨rfl, hresolve, by simpa using hkind, rfl, hcolumn⟩

end ScannedField

/-- The notices of a record are the omissions of its omitted fields, in order. -/
lemma notices_eq_map_omission (d : StructDecl) :
    d.notices pkg =
      (d.scannedFields.filter (·.isOmitted pkg)).map fun t => .omitting (t.omission pkg d.name) := by
  rw [notices_scanned]
  induction d.scannedFields with
  | nil => rfl
  | cons t rest ih =>
    rw [List.flatMap_cons, ih, ScannedField.notices_decl, List.filter_cons]
    split <;> rfl

/-- The columns of an entity are what its persisting fields become, in order. -/
lemma forall₂_becomes (d : StructDecl) (structNames : List String) :
    List.Forall₂ (ScannedField.Becomes pkg) (d.scannedFields.filter (·.persists pkg))
      (d.built pkg structNames).fields := by
  rw [fields_built]
  induction d.scannedFields with
  | nil => exact .nil
  | cons t rest ih =>
    rw [List.filter_cons, List.filterMap_cons, ← ScannedField.isSome_persisted?]
    cases hfield : t.decl.persisted? pkg t.name with
    | none => exact ih
    | some f => exact .cons (ScannedField.becomes_of_persisted? hfield) ih

namespace Build

/-- The outcome of a run on a record as far as it does not depend on the other records: the columns or the
error, and the notices. -/
def columnsOf (r : Except ModelError Entity × List Notice) : Except ModelError (List Field) × List Notice :=
  (r.1.map (·.fields), r.2)

lemma report_entity (strict : Bool) (structNames : List String) (d : StructDecl) :
    (entity strict pkg structNames d).report =
      Logged.ending strict (d.built pkg structNames) (d.notices pkg) [] := by
  rw [report_eq_runFrom, entity_tells]

/-- A lenient run on a record makes columns of the scanned fields that persist, in order, and reports the omitted
ones, in order, and nothing else. A strict one makes the same columns, or fails with the first omission. Records
of one name whose scanned fields agree come to the same columns, notices and errors, whatever follows. -/
theorem entity_scan (pkg : String) (structNames : List String) (d : StructDecl) :
    (∃ e, (entity false pkg structNames d).report =
        (.ok e, (d.scannedFields.filter (·.isOmitted pkg)).map fun t => .omitting (t.omission pkg d.name)) ∧
      (entity true pkg structNames d).report =
        ((d.scannedFields.find? (·.isOmitted pkg)).elim (.ok e) fun t => .error (t.omission pkg d.name), []) ∧
      e.name = d.name ∧
      List.Forall₂ (ScannedField.Becomes pkg) (d.scannedFields.filter (·.persists pkg)) e.fields ∧
      ∀ f ∈ e.fields, Tag.IsColumnName f.column) ∧
    ∀ (d' : StructDecl) (structNames' : List String) (strict : Bool),
      d'.name = d.name → d'.scannedFields = d.scannedFields →
        columnsOf (entity strict pkg structNames' d').report =
          columnsOf (entity strict pkg structNames d).report := by
  have hnotices : d.notices pkg = (d.scannedFields.filter (·.isOmitted pkg)).map
      fun t => .omitting (t.omission pkg d.name) := notices_eq_map_omission d
  constructor
  · refine ⟨d.built pkg structNames, ?_, ?_, rfl, forall₂_becomes d structNames, fun f hf => ?_⟩
    · rw [report_entity, ending_lenient, hnotices, List.nil_append]
    · rw [report_entity, hnotices, ending_omitting, List.head?_filter]
    · rw [fields_built] at hf
      obtain ⟨t, -, hpersisted⟩ := List.mem_filterMap.mp hf
      exact Tag.isColumnName_of_column (ScannedField.becomes_of_persisted? hpersisted).column
  · intro d' structNames' strict hname hscanned
    rw [report_entity, report_entity, columnsOf, columnsOf, ending_map, ending_map, fields_built, fields_built,
      hnotices, notices_eq_map_omission, hname, hscanned]

/-- A record with the sentinel in the middle of a group. -/
def seatRecord : StructDecl where
  name := "Seat"
  fields :=
    [⟨["ID"], .name "int", some "db:\"seat_id\""⟩,
     ⟨["Marks"], .unsupported .map "map[string]int", none⟩,
     ⟨["Row", "CreatedAt", "Side"], .name "string", some "db:\"row, omitempty\""⟩]

/-- A record of the same name that is scanned alike, with other fields from the sentinel on. -/
def widerSeatRecord : StructDecl where
  name := "Seat"
  fields :=
    [⟨["ID"], .name "int", some "db:\"seat_id\""⟩,
     ⟨[], .pointer (.name "Base"), none⟩,
     ⟨["Marks"], .unsupported .map "map[string]int", none⟩,
     ⟨["Row"], .name "string", some "db:\"row, omitempty\""⟩,
     ⟨["CreatedAt"], .qualified (.name "time") "Time", none⟩,
     ⟨["Price", "Discount"], .name "int", none⟩]

/-- Both records come to the same two columns and the same notice. -/
theorem entity_scan_seatRecord :
    widerSeatRecord.name = seatRecord.name ∧ widerSeatRecord.scannedFields = seatRecord.scannedFields ∧
      columnsOf (entity false "hall" [] widerSeatRecord).report =
        (.ok [⟨"ID", .value "int", "db:\"seat_id\"", "seat_id"⟩,
            ⟨"Row", .value "string", "db:\"row, omitempty\"", "row"⟩],
          [.omitting (.unsupportedFieldType "Seat" "Marks" "map[string]int")]) := by
  have hname : widerSeatRecord.name = seatRecord.name := rfl
  have hscanned : widerSeatRecord.scannedFields = seatRecord.scannedFields := by decide
  refine ⟨hname, hscanned, ?_⟩
  rw [(entity_scan "hall" [] seatRecord).2 widerSeatRecord [] false hname hscanned]
  decide

end Build

end Scan

end DeclGen
