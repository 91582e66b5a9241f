import DeclGen.Declaration.SourceFile
import DeclGen.Model.FileModel
import DeclGen.Model.Notice
import DeclGen.Tag

/-!
# From declarations to the model

Records become entities, interfaces keep their methods, and the methods on service receivers are
gathered by receiver. A part that cannot be modelled is left out with a notice, or is an error when the
run is strict.
-/

namespace DeclGen

/-- How a model is built: the namespace of the types in service methods, and whether an omission is an
error. -/
structure BuildOptions where
  serviceNamespace : String := "domain"
  strict : Bool := false

namespace Build

/-- Reports an omission, or fails with it in a strict run. -/
def leaveOut (strict : Bool) (cause : ModelError) : Logged ModelError Unit :=
  if strict then throw cause else Logged.notify (.omitting cause)

/-- The field of one name of a group, if it is a persisted column. Only plain named types with a column
in their tag are; pointers, sequences, open and qualified types are passed over without a notice. -/
def field? (strict : Bool) (record pkg : String) (decl : FieldDecl) (name : String) :
    Logged ModelError (Option Field) := do
  match decl.type.resolve pkg with
  | none =>
    leaveOut strict (.unsupportedFieldType record name decl.type.text)
    return none
  | some signature =>
    if signature.kind != .value then return none
    let tag := decl.tag.getD ""
    match Tag.column tag with
    | none =>
      leaveOut strict (.missingTag record name)
      return none
    | some column => return some { name, signature, tag, column }

/-- The names of the fields with their groups, up to the sentinel. Embedded fields have no name and do
not count. -/
def scanned (fields : List FieldDecl) : List (FieldDecl × String) :=
  (fields.flatMap fun d => d.names.map (d, ·)).takeWhile (·.2 != Naming.sentinelField)

/-- The persisted columns of a record. -/
def entity (strict : Bool) (pkg : String) (structNames : List String) (decl : StructDecl) :
    Logged ModelError Entity := do
  let fields ← (scanned decl.fields).mapM fun (d, name) => field? strict decl.name pkg d name
  return {
    name := decl.name
    fields := fields.filterMap id
    isAugmented := structNames.contains (Naming.augmentedName decl.name)
  }

/-- One slot for each name of a group, or a single one for an unnamed group. -/
def slots (strict : Bool) (owner method ns : String) (decl : ParamDecl) :
    Logged ModelError (List Param) := do
  let signature := decl.type.resolve ns
  if signature.isNone then leaveOut strict (.unresolvedType owner method decl.type.text)
  if decl.names.isEmpty then return [⟨"", signature⟩]
  return decl.names.map (⟨·, signature⟩)

/-- A variadic result is no result: the slot stays, without a type. -/
def dropVariadic (owner method : String) (p : Param) : Logged ModelError Param := do
  if p.isVariadic then
    Logged.notify (.variadicReturnDropped owner method)
    return { p with signature := none }
  return p

/-- A method whose types are declared in `ns`. -/
def method (strict : Bool) (owner ns name : String) (sig : Signature) : Logged ModelError Method := do
  let params ← sig.params.mapM (slots strict owner name ns)
  let results ← sig.results.mapM (slots strict owner name ns)
  let returns ← results.flatten.mapM (dropVariadic owner name)
  return { name, params := params.flatten, returns }

/-- The methods of an interface, in its own package. -/
def interface (strict : Bool) (pkg : String) (decl : InterfaceDecl) :
    Logged ModelError Interface := do
  let methods ← decl.methods.mapM fun m => method strict decl.name pkg m.name m.signature
  return { name := decl.name, methods, package := pkg }

/-- Adds a method to the set of its receiver, or opens a new set after the others. -/
def insertMethod (receiver : String) (m : Method) : List ServiceMethodSet → List ServiceMethodSet
  | [] => [⟨receiver, [m]⟩]
  | s :: rest =>
    if s.receiver == receiver then { s with methods := s.methods ++ [m] } :: rest
    else s :: insertMethod receiver m rest

/-- The service method sets of a file, in the order in which their receivers first appear. Methods on
other receivers are passed over. -/
def services (o : BuildOptions) (decls : List MethodDecl) :
    Logged ModelError (List ServiceMethodSet) :=
  decls.foldlM (fun sets d => do
    let receiver := d.receiver.typeName
    if (Naming.serviceBase? receiver).isNone then return sets
    let m ← method o.strict receiver o.serviceNamespace d.name d.signature
    return insertMethod receiver m sets) []

end Build

/-- The model of a declaration file: entities first, then interfaces, then services. -/
def SourceFile.model (f : SourceFile) (o : BuildOptions) : Logged ModelError FileModel := do
  let structNames := f.structs.map (·.name)
  let entities ← f.structs.mapM (Build.entity o.strict f.package structNames)
  let interfaces ← f.interfaces.mapM (Build.interface o.strict f.package)
  let services ← Build.services o f.methods
  return { package := f.package, entities, interfaces, services }

end DeclGen
