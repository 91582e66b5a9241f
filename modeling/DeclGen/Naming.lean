import DeclGen.Text.Affix
import DeclGen.Unicode.Numeral

/-!
# Naming conventions

The fixed names by which declarations are recognised and generated ones are formed. They are
conventions shared by all artifacts and not part of the configuration.
-/

namespace DeclGen.Naming

/-- The field name that ends the scan of a record for persisted columns. -/
def sentinelField : String := "CreatedAt"

/-- The end of a column that refers to another entity. -/
def relationTail : String := "_id"

/-- The end of a receiver type that marks a service. -/
def serviceTail : String := "Service"

/-- The end of the repository type that belongs to a service. -/
def repositoryTail : String := "Repo"

/-- The end of the sibling record that carries the joined relations. -/
def augmentedTail : String := "Augmented"

/-- The end of the field of a mock that holds a callback. -/
def callbackTail : String := "Callback"

/-- The beginning of a mock type. -/
def mockHead : String := "Mock"

/-- The beginning of a generated interface type. -/
def interfaceHead : String := "I"

/-- The field that identifies an entity. -/
def identityField : String := "ID"

/-- The tag key under which a column is named. -/
def columnKey : String := "db"

/-- The identity column that joins and lookups refer to. -/
def identityColumn : String := "id"

/-- The column that marks a row as deleted. -/
def deletedColumn : String := "deleted_at"

/-- The empty interface as a type. -/
def openType : String := "interface\x7b\x7d"

/-- The predeclared name of the open type. -/
def anyType : String := "any"

/-- Signed and unsigned integers, with the byte and rune names. -/
def integerTypes : List String :=
  ["int", "int8", "int16", "int32", "int64", "uint", "uint8", "uint16", "uint32", "uint64",
   "uintptr", "byte", "rune"]

/-- Floating-point types. -/
def floatTypes : List String := ["float32", "float64"]

/-- Complex types. -/
def complexTypes : List String := ["complex64", "complex128"]

/-- The names that are never qualified with a namespace. -/
def primitives : List String :=
  ["bool", "string"] ++ integerTypes ++ floatTypes ++ complexTypes ++ ["error", "interface", anyType]

/-- A predeclared type name. -/
def isPrimitive (name : String) : Bool := primitives.contains name

/-- An integer type name. -/
def isInteger (name : String) : Bool := integerTypes.contains name

/-- A floating-point type name. -/
def isFloat (name : String) : Bool := floatTypes.contains name

/-- A complex type name. -/
def isComplex (name : String) : Bool := complexTypes.contains name

/-- The receiver type without the service ending, if it has that ending. -/
def serviceBase? (receiver : String) : Option String := Text.beforeTail? serviceTail receiver

/-- The augmented sibling of an entity. -/
def augmentedName (entity : String) : String := entity ++ augmentedTail

/-- The service type over a base name. -/
def serviceName (base : String) : String := base ++ serviceTail

/-- The repository type over a base name. -/
def repositoryName (base : String) : String := base ++ repositoryTail

/-- The interface of a generated type. -/
def interfaceName (name : String) : String := interfaceHead ++ name

/-- The callback field of a method. -/
def callbackName (method : String) : String := method ++ callbackTail

/-- The mock of an interface. -/
def mockName (interface : String) : String := mockHead ++ interface

/-- A text that can stand as a name in generated source: a letter or low line, then letters, numbers
and low lines. -/
def isIdentifier (name : String) : Bool :=
  match name.toList with
  | [] => false
  | c :: rest =>
    (Unicode.isAlphabetic c || c == '_') && rest.all fun c => Unicode.isAlphanumeric c || c == '_'

end DeclGen.Naming
