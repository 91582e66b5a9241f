import DeclGen.Declaration.SourceFile
import DeclGen.Text.Layout

/-!
# Written declarations

The canonical text of a declaration file: the package clause, then every declaration with one field or
method a line. Types are written in their canonical form, tags between back quotes, and bodies are empty.
-/

namespace DeclGen

open Text (Block)

/-- Names before the type that they share; without names only the type. -/
def namesBefore (names : List String) (type : String) : String :=
  if names.isEmpty then type else ", ".intercalate names ++ " " ++ type

/-- A group of parameters as it is written. -/
def ParamDecl.text (p : ParamDecl) : String := namesBefore p.names p.type.text

namespace Signature

/-- A list of parameters in parentheses. -/
def listText (params : List ParamDecl) : String :=
  "(" ++ ", ".intercalate (params.map (·.text)) ++ ")"

/-- The type of a single result that stands without parentheses: it has no name and is not variadic. -/
def single? : List ParamDecl → Option TypeExpr
  | [⟨[], .variadic _⟩] => none
  | [⟨[], type⟩] => some type
  | _ => none

/-- The results as they are written: nothing, a single type, or a list. -/
def resultText (results : List ParamDecl) : String :=
  if results.isEmpty then ""
  else match single? results with
    | some type => " " ++ type.text
    | none => " " ++ listText results

/-- Parameters and results as they are written after a name. -/
def text (s : Signature) : String := listText s.params ++ resultText s.results

end Signature

/-- A method of an interface as it is written. -/
def MethodSpec.text (m : MethodSpec) : String := m.name ++ m.signature.text

/-- A group of fields as it is written. -/
def FieldDecl.text (f : FieldDecl) : String :=
  namesBefore f.names f.type.text ++
    match f.tag with
    | none => ""
    | some tag => " \x60" ++ tag ++ "\x60"

/-- A receiver in its parentheses. -/
def Receiver.text (r : Receiver) : String :=
  "(" ++ namesBefore r.name.toList ((if r.pointer then "*" else "") ++ r.typeName) ++ ")"

/-- A declaration as it is written. -/
def Declaration.block : Declaration → Block
  | .struct d => Block.braces ("type " ++ d.name ++ " struct \x7b") (.ofTexts (d.fields.map (·.text)))
  | .interface d =>
    Block.braces ("type " ++ d.name ++ " interface \x7b") (.ofTexts (d.methods.map (·.text)))
  | .method d =>
    .ofTexts ["func " ++ d.receiver.text ++ " " ++ d.name ++ d.signature.text ++ " \x7b\x7d"]
  | .function d => .ofTexts ["func " ++ d.name ++ d.signature.text ++ " \x7b\x7d"]

/-- The canonical text of a declaration file. -/
def SourceFile.text (f : SourceFile) : String :=
  Block.render (.ofTexts ["package " ++ f.package] ++ f.declarations.flatMap (·.block))

end DeclGen
