import DeclGen.Proofs.Model.Built
import DeclGen.Proofs.Source.WellNamed

/-!
# Fields of loaded models

What the tags and the declarations of a text leave of the fields of its entities: a field is called by a name
as it is read, and its column is what its tag names (`declared_of_load`). A column is therefore almost any text;
only a comma cannot stand in it.
-/

namespace DeclGen

open Logged

/-- A field as it is found in a declaration: its name and its tag. -/
structure Field.Declared (f : Field) : Prop where
  name : Source.IsName f.name
  column : Tag.column f.tag = some f.column

/-- An entity as it is found in a declaration. -/
structure Entity.Declared (e : Entity) : Prop where
  name : Source.IsName e.name
  fields : ∀ f ∈ e.fields, f.Declared

section Build

variable {strict : Bool} {pkg : String}

/-- A field that is built keeps its name, and its column is that of its tag. -/
lemma field?_returns (record name : String) (decl : FieldDecl) :
    Returns (Build.field? strict record pkg decl name) fun f? =>
      ∀ f ∈ f?, f.name = name ∧ Tag.column f.tag = some f.column := by
  unfold Build.field?
  cases decl.type.resolve pkg with
  | none => exact (leaveOut_returns _).bind fun _ _ => .pure (by simp)
  | some signature =>
    dsimp only
    split
    · exact .pure (by simp)
    · cases hcolumn : Tag.column (decl.tag.getD "") with
      | none => exact (leaveOut_returns _).bind fun _ _ => .pure (by simp)
      | some column => exact .pure (by simp [hcolumn])

/-- An entity that is built from a record with names as they are read is declared. -/
lemma entity_returns {names : List String} {decl : StructDecl}
    (h : (Declaration.struct decl).WellNamed) :
    Returns (Build.entity strict pkg names decl) Entity.Declared := by
  unfold Build.entity
  refine (Returns.mapM_forall fun d _ => field?_returns decl.name d.2 d.1).bind fun fields hfields => ?_
  refine .pure ⟨h.1, fun f hf => ?_⟩
  obtain ⟨f?, hmem, hf⟩ := List.mem_filterMap.mp hf
  obtain ⟨⟨d, name⟩, hscanned, hbuilt⟩ := hfields f? hmem
  obtain ⟨hname, hcolumn⟩ := hbuilt f hf
  have hgroup : (d, name) ∈ decl.fields.flatMap fun d => d.names.map (d, ·) :=
    (List.takeWhile_sublist _).subset hscanned
  obtain ⟨d', hd', hpair⟩ := List.mem_flatMap.mp hgroup
  obtain ⟨n, hn, heq⟩ := List.mem_map.mp hpair
  obtain ⟨rfl, rfl⟩ := Prod.mk.inj heq
  exact ⟨hname ▸ (h.2 d' hd').1 n hn, hcolumn⟩

end Build

/-- The entities of a model that was loaded are declared, whatever the text. -/
theorem declared_of_load [ErrorRecovery] {source : String} {o : BuildOptions} {model : FileModel}
    (h : (FileModel.load source o).report.1 = .ok model) : ∀ e ∈ model.entities, e.Declared := by
  obtain ⟨f, hparse, hall⟩ := exists_parse_returns_of_load h
  have hrecord : ∀ d ∈ f.structs, (Declaration.struct d).WellNamed :=
    fun d => wellNamed_struct (wellNamed_of_parse hparse)
  refine hall (fun m => ∀ e ∈ m.entities, e.Declared) ?_
  refine (Returns.mapM_forall fun d hd => entity_returns (hrecord d hd)).bind fun entities hentities => ?_
  have hinterfaces : Returns (f.interfaces.mapM (Build.interface o.strict f.package)) fun _ => True :=
    fun _ _ _ => trivial
  have hservices : Returns (Build.services o f.methods) fun _ => True := fun _ _ _ => trivial
  refine hinterfaces.bind fun _ _ => hservices.bind fun _ _ => .pure fun e he => ?_
  obtain ⟨d, -, hdeclared⟩ := hentities e he
  exact hdeclared

/-! ## Columns -/

/-- Trimming leaves nothing that was not there. -/
lemma Unicode.mem_of_mem_trim {c : Char} {s : List Char} (h : c ∈ Unicode.trim s) : c ∈ s := by
  unfold Unicode.trim Unicode.trimEnd at h
  rw [List.mem_reverse] at h
  have hback := (List.dropWhile_sublist _).subset h
  rw [List.mem_reverse] at hback
  exact (List.dropWhile_sublist _).subset hback

/-- A tag cannot name a column with a comma. -/
lemma Tag.comma_notMem_column {tag column : String} (h : Tag.column tag = some column) :
    ',' ∉ column.toList := by
  unfold Tag.column at h
  split at h
  · cases h
  · rename_i value _
    dsimp only at h
    split at h
    · cases h
    · obtain rfl := Option.some.inj h
      rw [String.toList_ofList]
      intro hmem
      have hkept := List.all_eq_true.mp List.all_takeWhile _ (Unicode.mem_of_mem_trim hmem)
      simp at hkept

end DeclGen
