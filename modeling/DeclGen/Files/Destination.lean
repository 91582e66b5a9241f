import DeclGen.Config.Basic
import DeclGen.Files.Path

/-!
# Names of output files

The artifacts of a declaration file are named after it: its stem, the suffix of the kind of artifact,
and the configured extension. A file whose stem has one of the suffixes is taken for an artifact.
-/

namespace DeclGen

/-- The artifacts that are made per declaration file. -/
inductive Artifact
  | queries
  | tests
deriving DecidableEq, Repr

namespace Config.Output

/-- What an artifact's stem ends in. -/
def suffix (o : Output) : Artifact → String
  | .queries => o.queriesSuffix
  | .tests => o.testsSuffix

/-- Where the artifact of `input` goes in `directory`. -/
def destination? (o : Output) (a : Artifact) (directory input : String) : Option String :=
  (Path.stem? input).map fun stem => Path.join directory (stem ++ o.suffix a ++ "." ++ o.extension)

/-- The file is named like an artifact. -/
def isGenerated (o : Output) (path : String) : Bool :=
  match Path.stem? path with
  | none => false
  | some stem =>
    Text.finishesWith o.queriesSuffix stem || Text.finishesWith o.testsSuffix stem

end Config.Output

end DeclGen
