import DeclGen.Generate.Statement
import DeclGen.Model.FileModel
import DeclGen.Model.Notice
import DeclGen.Relation

/-!
# Queries

The repository methods of an entity: reading all rows and one row, each also with the rows joined to
it when the entity is augmented, reading by each relation, storing and deleting. `Query` says which
methods there are, `Query.statement` what each sends to the database, and `Query.block` how it is
written.
-/

namespace DeclGen

open Text

/-- What the queries of a file depend on: the table, the package of the entities, whether columns lose
the table's name, and whether a table joined twice is an error. -/
structure QueryOptions where
  table : String
  domainPackage : String
  stripTablePrefix : Bool
  strict : Bool
deriving DecidableEq, Repr

/-- A column as statements name it. -/
def QueryOptions.column (o : QueryOptions) (column : String) : String :=
  if o.stripTablePrefix then DeclGen.stripTablePrefix column o.table else column

/-- An entity with its relations, as the repository that queries it. -/
structure Repository where
  entity : Entity
  relations : List Relation
  options : QueryOptions

/-- A method of a repository. -/
inductive Query
  | all
  | byID
  | allAugmented
  | byIDAugmented
  | byRelation (relation : Relation)
  | byRelationAugmented (relation : Relation)
  | store
  | deleteByID
deriving DecidableEq, Repr

namespace Repository

/-- The repository type. -/
def typeName (r : Repository) : String := Naming.repositoryName r.entity.name

/-- The entity as the domain package exports it. -/
def external (r : Repository) : String := r.options.domainPackage ++ "." ++ r.entity.name

/-- The augmented entity as the domain package exports it. -/
def externalAugmented (r : Repository) : String :=
  r.options.domainPackage ++ "." ++ r.entity.augmentedName

/-- The column of the identity field, or the conventional one. -/
def identityColumn (r : Repository) : String :=
  r.entity.identity?.elim Naming.identityColumn fun f => r.options.column f.column

/-- A join for each relation, in order. -/
def joins (r : Repository) : List Join :=
  r.relations.map fun rel => ⟨rel.joinedEntityName, r.options.column rel.columnName⟩

end Repository

namespace Query

/-- The methods of an entity's repository, in the order in which they are written. -/
def ofEntity (e : Entity) (relations : List Relation) : List Query :=
  [all, byID] ++
  (if e.isAugmented then [allAugmented, byIDAugmented] else []) ++
  relations.flatMap (fun rel =>
    if e.isAugmented then [byRelation rel, byRelationAugmented rel] else [byRelation rel]) ++
  [store, deleteByID]

/-- The name of the method. -/
def methodName : Query → String
  | all => "All"
  | byID => "ByID"
  | allAugmented => "AllAugmented"
  | byIDAugmented => "ByIDAugmented"
  | byRelation rel => "By" ++ rel.accessorName
  | byRelationAugmented rel => "By" ++ rel.accessorName ++ "Augmented"
  | store => "Store"
  | deleteByID => "DeleteByID"

/-- The statement that the method sends. -/
def statement (r : Repository) : Query → Statement
  | all => .select r.options.table [] (.live none) [] false
  | byID => .select r.options.table [] (.equalsArgument none r.identityColumn) [.live none] true
  | allAugmented =>
    .select r.options.table r.joins (.live (some r.options.table)) [] false
  | byIDAugmented =>
    .select r.options.table r.joins (.equalsArgument (some r.options.table) r.identityColumn)
      [.live (some r.options.table)] true
  | byRelation rel =>
    .select r.options.table [] (.live (some r.options.table))
      [.equalsArgument (some r.options.table) (r.options.column rel.columnName)] false
  | byRelationAugmented rel =>
    .select r.options.table r.joins (.live (some r.options.table))
      [.equalsArgument (some r.options.table) (r.options.column rel.columnName)] false
  | store => .insert r.options.table (r.entity.insertableFields.map fun f => r.options.column f.column)
  | deleteByID => .softDelete r.options.table r.identityColumn

/-- The arguments passed with the statement. -/
def arguments (r : Repository) : Query → List String
  | all | allAugmented => []
  | byID | byIDAugmented | deleteByID => ["id"]
  | byRelation rel | byRelationAugmented rel => [r.options.column rel.columnName]
  | store => r.entity.insertableFields.map fun f => "item." ++ f.name

/-- The parameters of the method. -/
def parameters (r : Repository) : Query → List String
  | all | allAugmented => []
  | byID | byIDAugmented | deleteByID => ["id string"]
  | byRelation rel | byRelationAugmented rel => [r.options.column rel.columnName ++ " string"]
  | store => ["item *" ++ r.external]

/-- The results of the method. -/
def results (r : Repository) : Query → String
  | all | byRelation _ => "([]" ++ r.external ++ ", error)"
  | allAugmented | byRelationAugmented _ => "([]" ++ r.externalAugmented ++ ", error)"
  | byID | store => "(*" ++ r.external ++ ", error)"
  | byIDAugmented => "(*" ++ r.externalAugmented ++ ", error)"
  | deleteByID => "error"

/-- The comment over the method. -/
def comment (r : Repository) (q : Query) : String :=
  match q with
  | all => "All will retrieve all " ++ r.entity.name ++ " records in the database."
  | byID => "ByID will retrieve the " ++ r.entity.name ++ " record with the input ID."
  | allAugmented =>
    "AllAugmented will retrieve all " ++ r.entity.augmentedName ++ " records in the database."
  | byIDAugmented =>
    "ByIDAugmented will retrieve the " ++ r.entity.augmentedName ++ " record with the input ID."
  | byRelation rel =>
    q.methodName ++ " will retrieve all " ++ r.entity.name ++ " records in the database with a given "
      ++ r.options.column rel.columnName ++ "."
  | byRelationAugmented rel =>
    q.methodName ++ " will retrieve all " ++ r.entity.augmentedName
      ++ " records in the database with a given " ++ r.options.column rel.columnName ++ "."
  | store =>
    "Store will store " ++ article r.entity.name ++ " " ++ r.entity.name ++ " record in the database."
  | deleteByID =>
    "DeleteByID marks the " ++ r.entity.name ++ " record with the specified ID as deleted."

/-- A call that passes the statement as a raw string, followed by the arguments. -/
def sending (r : Repository) (opening : String) (q : Query) : Block :=
  Block.ofTexts [opening ++ "`"] ++
  ((q.statement r).lines.indent.indent) ++
  Block.indent (Block.ofTexts
    ["`" ++ String.join ((q.arguments r).map (", " ++ ·)) ++ ")"])

/-- Returns the error, if there is one. -/
def checkError : Block := Block.braces "if err != nil \x7b" (Block.ofTexts ["return nil, err"])

/-- The body of a method that reads many rows into records of type `record`, each converted by the
method `convert`. -/
def readMany (r : Repository) (q : Query) (record external convert : String) : Block :=
  let rows := "db" ++ r.entity.name ++ "Records"
  Block.ofTexts [rows ++ " := []" ++ record ++ "\x7b\x7d"] ++
  q.sending r ("err := s.db.Connection().Select(&" ++ rows ++ ", ") ++
  checkError ++ Block.gap ++
  Block.ofTexts ["result := []" ++ external ++ "\x7b\x7d"] ++
  Block.braces ("for _, record := range " ++ rows ++ " \x7b")
    (Block.ofTexts ["result = append(result, *record." ++ convert ++ "())"]) ++
  Block.gap ++ Block.ofTexts ["return result, nil"]

/-- The body of a method that reads one row into a record of type `record`. -/
def readOne (r : Repository) (q : Query) (record convert : String) : Block :=
  Block.ofTexts ["result := " ++ record ++ "\x7b\x7d"] ++
  q.sending r "err := s.db.Connection().Get(&result, " ++
  Block.ofTexts ["return result." ++ convert ++ "(), err"]

/-- The body of the method that adds a row. The identity of the row is put into the copy returned, when
the entity has one. -/
def storing (r : Repository) (q : Query) : Block :=
  match r.entity.identity? with
  | some identity =>
    q.sending r "res, err := s.db.Connection().Exec(" ++ checkError ++ Block.gap ++
    Block.ofTexts ["id, err := res.LastInsertId()"] ++ checkError ++ Block.gap ++
    Block.ofTexts ["itemCopy := *item",
      "itemCopy." ++ Naming.identityField ++ " = " ++ identity.typeName ++ "(id)"] ++
    Block.gap ++ Block.ofTexts ["return &itemCopy, nil"]
  | none =>
    q.sending r "_, err := s.db.Connection().Exec(" ++ checkError ++ Block.gap ++
    Block.ofTexts ["itemCopy := *item"] ++
    Block.gap ++ Block.ofTexts ["return &itemCopy, nil"]

/-- The body of the method. -/
def body (r : Repository) (q : Query) : Block :=
  match q with
  | all | byRelation _ => q.readMany r r.entity.name r.external "toEntity"
  | allAugmented | byRelationAugmented _ =>
    q.readMany r r.entity.augmentedName r.externalAugmented "toEntityAugmented"
  | byID => q.readOne r r.entity.name "toEntity"
  | byIDAugmented => q.readOne r r.entity.augmentedName "toEntityAugmented"
  | store => q.storing r
  | deleteByID =>
    q.sending r "_, err := s.db.Connection().Exec(" ++ Block.ofTexts ["return err"]

/-- The method with its comment. -/
def block (r : Repository) (q : Query) : Block :=
  Block.ofTexts ["// " ++ q.comment r] ++
  Block.braces
    ("func (s *" ++ r.typeName ++ ") " ++ q.methodName ++ "(" ++ ", ".intercalate (q.parameters r)
      ++ ") " ++ q.results r ++ " \x7b")
    (q.body r)

end Query

namespace Repository

/-- The methods of the repository. -/
def queries (r : Repository) : List Query := Query.ofEntity r.entity r.relations

/-- The first line of a file of queries. -/
def fileHeader : String :=
  "// Generated by Rawdog. The following methods belong after toEntity[Augmented]."

/-- The file of all methods of a repository. -/
def file (r : Repository) : String :=
  (r.queries.foldl (fun d q => d.blank.block (q.block r)) (Draft.empty.line fileHeader)).text

/-- Reports every table that is joined more than once, or fails with the first one in a strict run. -/
def checkJoins (r : Repository) : Logged ModelError Unit :=
  (Relation.repeatedJoins r.relations).forM fun joined =>
    if r.options.strict then throw (.duplicateJoin r.entity.name joined)
    else Logged.notify (.repeatedJoin r.entity.name joined)

end Repository

/-- The queries of the primary entity of a model. -/
def FileModel.queries (m : FileModel) (o : QueryOptions) : Logged ModelError String := do
  match m.primaryEntity? with
  | none => throw .noEntity
  | some e =>
    let r : Repository := ⟨e, Relation.ofEntity e o.table, o⟩
    r.checkJoins
    return r.file

end DeclGen
