import DeclGen.Naming

/-!
# Causes of failure and notices

What can be wrong with a declaration file is one of the causes of `ModelError`. In a lenient run an
omission is not an error but a `Notice`, which carries the cause; two more notices do not depend on
strictness or have a wording of their own. Each has its wording in one function.
-/

namespace DeclGen

/-- Why no model, or no artifact, could be made. -/
inductive ModelError
  | missingTag (record field : String)
  | unsupportedFieldType (record field typeText : String)
  | unresolvedType (owner method typeText : String)
  | duplicateJoin (entity joined : String)
  | noEntity
  | noService
deriving DecidableEq, Repr

/-- The wording of a cause. -/
def ModelError.message : ModelError → String
  | missingTag record field =>
    "field " ++ record ++ "." ++ field ++ " has no `" ++ Naming.columnKey ++ "` column tag"
  | unsupportedFieldType record field typeText =>
    "field " ++ record ++ "." ++ field ++ " has unsupported type `" ++ typeText ++ "`"
  | unresolvedType owner method typeText =>
    owner ++ "." ++ method ++ ": cannot resolve type `" ++ typeText ++ "`"
  | duplicateJoin entity joined => entity ++ " joins `" ++ joined ++ "` more than once"
  | noEntity => "no persisted record declaration found"
  | noService => "no methods declared on a *" ++ Naming.serviceTail ++ " receiver"

/-- What a run reports without failing. -/
inductive Notice
  | omitting (cause : ModelError)
  | variadicReturnDropped (owner method : String)
  | repeatedJoin (entity joined : String)
deriving DecidableEq, Repr

/-- The wording of a notice. -/
def Notice.message : Notice → String
  | omitting cause => "omitting: " ++ cause.message
  | variadicReturnDropped owner method =>
    owner ++ "." ++ method ++ ": variadic return slot dropped"
  | repeatedJoin entity joined => entity ++ ": `" ++ joined ++ "` is joined more than once"

/-- A computation that collects notices in order and may fail. The notices made before a failure are
kept. -/
abbrev Logged (ε : Type) := ExceptT ε (StateM (List Notice))

namespace Logged

/-- Adds a notice. -/
def notify {ε : Type} (n : Notice) : Logged ε Unit := modify (· ++ [n])

/-- The result and the notices of a computation. -/
def report {ε α : Type} (x : Logged ε α) : Except ε α × List Notice := x.run.run []

end Logged

end DeclGen
