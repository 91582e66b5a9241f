import DeclGen.Model.FileModel
import DeclGen.Relation
import DeclGen.Text.Json

/-!
# Reports on models

A report shows the model of a file and the relations that each entity has in a table. The members of
every object are in the order of their names.
-/

namespace DeclGen.Inspect

open Text (Json)

/-- A layer of a type and those inside it. -/
def layers (l : Layer) : List Layer → Json
  | [] => .object [("kind", .text l.kind.label), ("rendered", .text l.rendered)]
  | m :: rest =>
    .object [("inner", layers m rest), ("kind", .text l.kind.label), ("rendered", .text l.rendered)]

/-- A type. -/
def signature (s : TypeSignature) : Json := layers s.toLayer s.inner

/-- A parameter or result; a type that was not resolved is not shown. -/
def param (p : Param) : Json :=
  .object [("name", .text p.name), ("signature", p.signature.elim .null signature)]

/-- A method. -/
def method (m : Method) : Json :=
  .object [("name", .text m.name), ("params", .list (m.params.map param)),
    ("returns", .list (m.returns.map param))]

/-- A persisted field. -/
def field (f : Field) : Json :=
  .object [("column", .text f.column), ("name", .text f.name), ("signature", signature f.signature),
    ("tag", .text f.tag)]

/-- A relation. -/
def relation (r : Relation) : Json :=
  .object [("accessor_name", .text r.accessorName), ("column_name", .text r.columnName),
    ("joined_entity_name", .text r.joinedEntityName)]

/-- An entity with its relations. -/
def entity (table : String) (e : Entity) : Json :=
  .object [
    ("entity", .object [("fields", .list (e.fields.map field)), ("is_augmented", .truth e.isAugmented),
      ("name", .text e.name)]),
    ("relations", .list ((Relation.ofEntity e table).map relation))]

/-- An interface. -/
def interface (i : Interface) : Json :=
  .object [("methods", .list (i.methods.map method)), ("name", .text i.name),
    ("namespace", .text i.package)]

/-- The methods of a service. -/
def service (s : ServiceMethodSet) : Json :=
  .object [("methods", .list (s.methods.map method)), ("receiver", .text s.receiver)]

/-- The report on a model. -/
def report (m : FileModel) (table : String) : Json :=
  .object [("entities", .list (m.entities.map (entity table))),
    ("interfaces", .list (m.interfaces.map interface)), ("namespace", .text m.package),
    ("services", .list (m.services.map service)), ("table", .text table)]

end DeclGen.Inspect
