import DeclGen.Model.Entity

/-!
# Relations

A column that ends in `_id` refers to another entity: what remains without the ending and without the
owning table's own name in front is the entity joined. Relations keep the order of the fields, and two
columns that refer to one entity give two of them.
-/

namespace DeclGen

/-- A column without the table's name and a low line in front of it, unless nothing would be left. -/
def stripTablePrefix (column table : String) : String :=
  match Text.afterHead? (table ++ "_") column with
  | some rest => if rest == "" then column else rest
  | none => column

namespace Relation

/-- The entity that a column refers to. A column without the relation ending refers to none, nor does
the table's own identity. -/
def joinedEntityName? (column table : String) : Option String :=
  match Text.beforeTail? Naming.relationTail column with
  | none => none
  | some stem =>
    let joined := stripTablePrefix stem table
    if joined == "" || joined == table then none else some joined

/-- The relation of a field. The identity field has none. -/
def ofField? (table : String) (f : Field) : Option Relation :=
  if f.isIdentity then none
  else (joinedEntityName? f.column table).map fun joined =>
    { accessorName := f.name, columnName := f.column, joinedEntityName := joined }

/-- The relations of an entity's columns, in order of the fields. -/
def ofEntity (e : Entity) (table : String) : List Relation := e.fields.filterMap (ofField? table)

/-- One step of the search for repeated joins: the names met so far and the repeated ones. -/
def repeatedStep (acc : List String × List String) (name : String) : List String × List String :=
  (acc.1 ++ [name],
    if acc.1.contains name && !acc.2.contains name then acc.2 ++ [name] else acc.2)

/-- The entities that more than one relation joins, each once, in the order in which they are met for
the second time. -/
def repeatedJoins (relations : List Relation) : List String :=
  ((relations.map (·.joinedEntityName)).foldl repeatedStep ([], [])).2

end Relation

end DeclGen
