import DeclGen.Generate.Queries
import DeclGen.ZeroValue

/-!
# Test scaffolds

The test of a repository calls each of its methods once, in the order in which they are written, and
compares rows by a field of the entity.
-/

namespace DeclGen

open Text

/-- What a test scaffold depends on: the table and the names of packages, imports and the connection. -/
structure ScaffoldOptions where
  table : String
  repoPackage : String
  repoImport : String
  domainPackage : String
  domainImport : String
  sharedDb : String
deriving DecidableEq, Repr

/-- The value that a test stores in a field: one for an integer, a round number for a float, a text
with the field's name, false, or else the zero value of the type. -/
def Field.storeLiteral (f : Field) : String :=
  if f.signature.kind != .value then f.signature.zeroValue
  else if f.typeName == "string" then "\"test" ++ f.name ++ "\""
  else if f.typeName == "bool" then "false"
  else if Naming.isInteger f.typeName then "1"
  else if Naming.isFloat f.typeName then "1000.0"
  else f.signature.zeroValue

namespace Scaffold

/-- No error may have happened. -/
def noError : List String := ["assert.NoError(t, err)"]

/-- The first and second expression must be equal. -/
def equal (a b : String) : List String := ["assert.Equal(t, " ++ a ++ ", " ++ b ++ ")"]

/-- The field by which rows are compared; the identity for an entity without fields. -/
def probe (e : Entity) : String := e.probeField?.elim Naming.identityField (·.name)

/-- The variable that holds all rows. -/
def allRows (e : Entity) : String := "all" ++ e.name

/-- The variable that holds all augmented rows. -/
def allAugmentedRows (e : Entity) : String := "all" ++ e.augmentedName

/-- The text of a value, as an argument. -/
def printed (expression : String) : String := "fmt.Sprint(" ++ expression ++ ")"

/-- The part of the test that calls one repository method. -/
def step (e : Entity) (domainPackage : String) : Query → List String
  | .all =>
    ["// Get all " ++ e.name ++ " records in the database.", allRows e ++ ", err := s.All()"] ++ noError
  | .byID =>
    ["// Get first " ++ e.name ++ " record by ID.",
     "item0, err := s.ByID(" ++ printed (allRows e ++ "[0]." ++ Naming.identityField) ++ ")"] ++
    noError ++ equal (allRows e ++ "[0]." ++ probe e) ("item0." ++ probe e)
  | .allAugmented =>
    ["// Get all augmented " ++ e.name ++ " records in the database.",
     allAugmentedRows e ++ ", err := s.AllAugmented()"] ++ noError
  | .byIDAugmented =>
    ["// Get first augmented " ++ e.name ++ " record by ID.",
     "augItem0, err := s.ByIDAugmented("
      ++ printed (allAugmentedRows e ++ "[0]." ++ Naming.identityField) ++ ")"] ++
    noError ++ equal (allAugmentedRows e ++ "[0]." ++ probe e) ("augItem0." ++ probe e)
  | .byRelation rel =>
    let items := "itemsBy" ++ rel.accessorName
    let given := allRows e ++ "[0]." ++ rel.accessorName
    ["// Get " ++ e.name ++ " records by " ++ rel.accessorName ++ ".",
     items ++ ", err := s.By" ++ rel.accessorName ++ "(" ++ printed given ++ ")"] ++
    noError ++ equal given (items ++ "[0]." ++ rel.accessorName)
  | .byRelationAugmented rel =>
    let items := "augItemsBy" ++ rel.accessorName
    let given := allAugmentedRows e ++ "[0]." ++ rel.accessorName
    ["// Get augmented " ++ e.name ++ " records by " ++ rel.accessorName ++ ".",
     items ++ ", err := s.By" ++ rel.accessorName ++ "Augmented(" ++ printed given ++ ")"] ++
    noError ++ equal given (items ++ "[0]." ++ rel.accessorName)
  | .store =>
    ["// Store " ++ article e.name ++ " " ++ e.name ++ " record.",
     "item := new(" ++ domainPackage ++ "." ++ e.name ++ ")"] ++
    e.insertableFields.map (fun f => "item." ++ f.name ++ " = " ++ f.storeLiteral) ++
    ["", "new" ++ e.name ++ ", err := s.Store(item)"] ++
    noError ++ equal ("item." ++ probe e) ("new" ++ e.name ++ "." ++ probe e)
  | .deleteByID =>
    ["// Delete " ++ article e.name ++ " " ++ e.name ++ " record by its ID.",
     "err = s.DeleteByID(" ++ printed ("new" ++ e.name ++ "." ++ Naming.identityField) ++ ")"] ++
    noError

/-- The imports of a test file. -/
def imports (o : ScaffoldOptions) : Block :=
  Block.enclose "import ("
    (Block.ofTexts
      ["\"fmt\"", "\"testing\"", "", "\"" ++ o.repoImport ++ "\"", "\"" ++ o.domainImport ++ "\"", "",
       "\"github.com/stretchr/testify/assert\""]) ")"

/-- The test file of an entity. -/
def block (e : Entity) (relations : List Relation) (o : ScaffoldOptions) : Block :=
  let test := "Test" ++ e.name ++ "Repo"
  Block.ofTexts ["package " ++ o.repoPackage ++ "_test"] ++ Block.gap ++ imports o ++ Block.gap ++
  Block.ofTexts ["// " ++ test ++ " exercises every generated " ++ e.name ++ " query."] ++
  Block.braces ("func " ++ test ++ "(t *testing.T) \x7b")
    (Block.ofTexts ["s := " ++ o.repoPackage ++ ".New" ++ e.name ++ "Repo(" ++ o.sharedDb ++ ")"] ++
     (Query.ofEntity e relations).flatMap fun q => Block.gap ++ Block.ofTexts (step e o.domainPackage q))

/-- The text of the test file of an entity. -/
def text (e : Entity) (relations : List Relation) (o : ScaffoldOptions) : String :=
  (block e relations o).render

/-- The test file of the primary entity of a model. -/
def file (m : FileModel) (o : ScaffoldOptions) : Except ModelError String :=
  match m.primaryEntity? with
  | none => .error .noEntity
  | some e => .ok (text e (Relation.ofEntity e o.table) o)

end Scaffold

end DeclGen
