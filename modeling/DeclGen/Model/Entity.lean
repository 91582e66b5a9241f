import DeclGen.Model.TypeSignature
import DeclGen.Naming

/-!
# Entities

An entity is a record with its persisted columns.
-/

namespace DeclGen

/-- A persisted column of an entity: the field, its type, the whole text of its tag and the column that
the tag names. -/
structure Field where
  name : String
  signature : TypeSignature
  tag : String
  column : String
deriving DecidableEq, Repr, Inhabited

namespace Field

/-- The field that identifies the entity. -/
def isIdentity (f : Field) : Bool := f.name == Naming.identityField

/-- The text of the field's type. -/
def typeName (f : Field) : String := f.signature.rendered

end Field

/-- A record and its columns in order of declaration. It is augmented when the same file declares its
augmented sibling. -/
structure Entity where
  name : String
  fields : List Field
  isAugmented : Bool
deriving DecidableEq, Repr, Inhabited

namespace Entity

/-- The name of the augmented sibling. -/
def augmentedName (e : Entity) : String := Naming.augmentedName e.name

/-- The identity field, if the entity has one. -/
def identity? (e : Entity) : Option Field := e.fields.find? (·.isIdentity)

/-- The fields that an insert writes: all but the identity. -/
def insertableFields (e : Entity) : List Field := e.fields.filter (!·.isIdentity)

/-- The field by which generated tests compare rows: the first one that is not the identity, or else
the first one. -/
def probeField? (e : Entity) : Option Field := e.insertableFields.head? <|> e.fields.head?

/-- The entity is itself the augmented sibling of another. -/
def isAugmentedSibling (e : Entity) : Bool := Text.finishesWith Naming.augmentedTail e.name

end Entity

/-- A reference from a column of one entity to another entity. The accessor is the name of the field,
which names the generated lookup methods. -/
structure Relation where
  accessorName : String
  columnName : String
  joinedEntityName : String
deriving DecidableEq, Repr, Inhabited

end DeclGen
