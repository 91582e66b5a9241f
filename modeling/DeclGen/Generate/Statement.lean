import DeclGen.Naming
import DeclGen.Text.Layout

/-!
# Statements

The statements that generated queries send to the database. They are built from table and column names
alone; values are always passed as arguments, one for each `?`. A row counts as live while its deletion
column is null.
-/

namespace DeclGen

open Text

/-- A condition on a column. The column is qualified by a table where several tables take part. -/
inductive Condition
  | live (table : Option String)
  | equalsArgument (table : Option String) (column : String)
deriving DecidableEq, Repr

namespace Condition

/-- A column with the table in front of it, if one is given. -/
def columnOf (table : Option String) (column : String) : String :=
  table.elim column (· ++ "." ++ column)

/-- The condition as it stands in a statement. -/
def text : Condition → String
  | live table => columnOf table Naming.deletedColumn ++ " IS NULL"
  | equalsArgument table column => columnOf table column ++ " = ?"

end Condition

/-- A table joined by one of the columns of the statement's own table. -/
structure Join where
  table : String
  column : String
deriving DecidableEq, Repr

/-- A statement over the table of an entity. -/
inductive Statement
  /-- Reads live rows: the joined tables, the first condition, the others, and whether one row is
  enough. -/
  | select (table : String) (joins : List Join) (first : Condition) (others : List Condition)
      (single : Bool)
  /-- Adds a row with a value for each of the columns. -/
  | insert (table : String) (columns : List String)
  /-- Marks the live row with a key as deleted. -/
  | softDelete (table : String) (key : String)
deriving DecidableEq, Repr

namespace Statement

/-- The conditions of a statement, the first on its own line and the others below it. -/
def filterLines (first : Condition) (others : List Condition) : Block :=
  Block.ofTexts ["WHERE " ++ first.text] ++
  Block.indent (Block.ofTexts (others.map fun c => "AND " ++ c.text))

/-- A join on the identity of the joined table, restricted to live rows. -/
def joinLines (table : String) (j : Join) : Block :=
  Block.ofTexts ["LEFT JOIN " ++ j.table] ++
  Block.indent (Block.ofTexts
    ["ON " ++ table ++ "." ++ j.column ++ " = " ++ j.table ++ "." ++ Naming.identityColumn,
     "AND " ++ (Condition.live (some j.table)).text])

/-- All columns of the table and of the joined tables. -/
def selectList (table : String) (joins : List Join) : String :=
  ", ".intercalate ((table :: joins.map (·.table)).map (· ++ ".*"))

/-- The lines of a statement. -/
def lines : Statement → Block
  | select table joins first others single =>
    Block.ofTexts ["SELECT " ++ selectList table joins, "FROM " ++ table] ++
    joins.flatMap (joinLines table) ++
    filterLines first others ++
    Block.ofTexts (if single then ["LIMIT 1"] else [])
  | insert table columns =>
    Block.ofTexts
      ["INSERT INTO " ++ table, "(" ++ ", ".intercalate columns ++ ")", "VALUES",
       "(" ++ ", ".intercalate (columns.map fun _ => "?") ++ ")"]
  | softDelete table key =>
    Block.ofTexts ["UPDATE " ++ table, "SET " ++ Naming.deletedColumn ++ " = NOW()"] ++
    filterLines (.equalsArgument none key) [.live none] ++
    Block.ofTexts ["LIMIT 1"]

end Statement

end DeclGen
