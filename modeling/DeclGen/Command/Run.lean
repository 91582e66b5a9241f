import DeclGen.Command.Arguments
import DeclGen.Command.Failure
import DeclGen.Command.Inspect
import DeclGen.Files.Collect
import DeclGen.Generate.Controller
import DeclGen.Generate.Mock
import DeclGen.Generate.Service

/-!
# Running commands

A command reads declaration files, makes artifacts from them and writes these in one step each. On a
directory every file is taken by itself: one that fails is left out and counted.
-/

namespace DeclGen

/-- What a run of the program shows: its exit code and its two outputs. -/
structure Outcome where
  exit : Nat := 0
  out : String := ""
  err : String := ""
deriving DecidableEq, Repr

namespace Command

/-- What the user is told of a command that came to an end, which may still be a failure. -/
structure Told where
  out : String := ""
  err : String := ""
  failure : Option CommandError := none
deriving DecidableEq, Repr

/-- A command that did what was asked, with a line about it. -/
def Told.line (text : String) : Told := { err := text ++ "\n" }

/-- A command that failed. -/
def Told.failed (e : CommandError) : Told := { failure := some e }

/-- The exit code and the outputs. -/
def Told.outcome (t : Told) : Outcome :=
  match t.failure with
  | none => ⟨0, t.out, t.err⟩
  | some e => ⟨1, t.out, t.err ++ e.report⟩

/-! ## Models and artifacts -/

/-- The model of a source text that was read from a path. -/
def modelOf [ErrorRecovery] (c : Config) (path source : String) : Except CommandError FileModel :=
  match SourceFile.parse source with
  | .error e => .error (.malformed path e)
  | .ok file => (file.model c.buildOptions).report.1.mapError (.noModel path)

/-- The text of an artifact of a model. -/
def artifactText (a : Artifact) (c : Config) (table : String) (model : FileModel) :
    Except ModelError String :=
  match a with
  | .queries => (model.queries (c.queryOptions table)).report.1
  | .tests => Scaffold.file model (c.scaffoldOptions table)

/-- The table that a declaration file is about. -/
def tableOf (path : String) : Except CommandError String :=
  match Path.stem? path with
  | some stem => .ok stem
  | none => .error (.noTable path)

/-- The text of the mocks of a declaration file. -/
def mocksOf [ErrorRecovery] (c : Config) (path source : String) : Except CommandError String := do
  return Mock.file (← modelOf c path source)

/-- The text of the services of a declaration file. -/
def servicesOf [ErrorRecovery] (c : Config) (path source : String) : Except CommandError String := do
  let model ← modelOf c path source
  (Service.file model c.naming.domainPackage).mapError (.noService path)

/-- The text of an artifact of a declaration file. -/
def artifactOf [ErrorRecovery] (a : Artifact) (c : Config) (path source : String) :
    Except CommandError String := do
  let model ← modelOf c path source
  let table ← tableOf path
  (artifactText a c table model).mapError (.notGenerated path)

/-- The report on a declaration file. -/
def reportOf [ErrorRecovery] (c : Config) (path source : String) : Except CommandError String := do
  let model ← modelOf c path source
  let table ← tableOf path
  return (Inspect.report model table).pretty

/-! ## Single files -/

variable {m : Type → Type} [Monad m] [FileStore m]

/-- What is made from the text of a file. -/
def fromFile (path : String) (make : String → Except CommandError String) :
    m (Except CommandError String) := do
  match ← FileStore.readText path with
  | .error cause => return .error (.unreadable path cause)
  | .ok source => return make source

/-- Writes what is made from the text of a file. -/
def transform (input output : String) (make : String → Except CommandError String) :
    m (Except CommandError Unit) := do
  match ← fromFile input make with
  | .error e => return .error e
  | .ok text => return (← FileStore.replace output text).mapError .unwritten

/-- Writes an artifact of one declaration file. -/
def generateFile [ErrorRecovery] (a : Artifact) (c : Config) (input output : String) :
    m (Except CommandError Unit) :=
  transform input output (artifactOf a c input)

/-- A line about success, or the failure. -/
def told (line : String) (r : Except CommandError Unit) : Told :=
  match r with
  | .ok () => .line line
  | .error e => .failed e

/-! ## Directories -/

/-- The globs of an option. -/
def readGlobs (option : String) (patterns : List String) : Except CommandError (List Glob) :=
  patterns.mapM fun p => (Glob.read {} p).mapError (.badGlob option p)

/-- The filter that the options describe. -/
def readFilter (including excluding : List String) : Except CommandError FileFilter := do
  return { including := ← readGlobs "include" including, excluding := ← readGlobs "exclude" excluding }

/-- Writes the artifact of one file of a directory, to where its name says. -/
def generateInto [ErrorRecovery] (a : Artifact) (c : Config) (directory file : String) :
    m (Except CommandError String) := do
  match c.output.destination? a directory file with
  | none => return .error (.noDestination file)
  | some destination => return (← generateFile a c file destination).map fun () => destination

/-- The line about one file of a directory. Failures are silent. -/
def fileLine (file : String) : Except CommandError String → String
  | .ok destination => "  " ++ file ++ " -> " ++ destination ++ "\n"
  | .error _ => ""

/-- What the user is told of the results for the files of a directory. -/
def summary (results : List (String × Except CommandError String)) : Told :=
  let total := results.length
  let failed := (results.filter (·.2.isOk.not)).length
  { err := String.join (results.map fun (file, r) => fileLine file r)
      ++ "Generated " ++ toString (total - failed) ++ "/" ++ toString total ++ " files\n"
    failure := if failed = 0 then none else some (.someFailed failed total) }

/-- Writes the artifacts of all declaration files of a directory, one after another. -/
def generateAll [ErrorRecovery] (a : Artifact) (c : Config) (input output : String) (f : FileFilter) :
    m Told := do
  let files ← FileStore.declarationFiles input f c.output
  if files.isEmpty then return .line ("No declaration files found under " ++ input)
  else return summary (← files.mapM fun file => return (file, ← generateInto a c output file))

/-- Writes artifacts of a file or of a directory. -/
def generateFrom [ErrorRecovery] (a : Artifact) (c : Config) (input output : String)
    (including excluding : List String) : m Told := do
  if ← FileStore.isDirectory input then
    match readFilter including excluding with
    | .error e => return .failed e
    | .ok f => generateAll a c input output f
  else return told ("Wrote " ++ output) (← generateFile a c input output)

/-! ## Commands -/

/-- Writes a controller into a directory. -/
def writeController (c : Config) (name directory : String) : m Told := do
  if !Naming.isIdentifier name then return .failed (.badControllerName name)
  let path := Path.join directory (Words.route name ++ "." ++ c.output.extension)
  return told ("Wrote controller to " ++ path)
    ((← FileStore.replace path (Controller.file name)).mapError .unwritten)

/-- Shows the report on a file. -/
def showReport [ErrorRecovery] (c : Config) (input : String) : m Told := do
  match ← fromFile input (reportOf c input) with
  | .error e => return .failed e
  | .ok text => return { out := text ++ "\n" }

/-- Runs a command under a configuration. -/
def run [ErrorRecovery] (c : Config) : Command → m Told
  | mock input output => do
    return told ("Wrote mocks to " ++ output) (← transform input output (mocksOf c input))
  | service input output => do
    return told ("Wrote service to " ++ output) (← transform input output (servicesOf c input))
  | generate a input output including excluding => generateFrom a c input output including excluding
  | controller name directory => writeController c name directory
  | inspect input => showReport c input

end Command

namespace Request

/-- The name and the version of the program. -/
def versionText : String := "rawdog 0.3.0\n"

/-- How the program is used. -/
def usage : String :=
  "Usage: rawdog [--project <PROJECT>] <COMMAND>\n\n" ++
  "Commands:\n" ++
  "  mock <INPUT> <OUTPUT>         Make mocks from every interface in a file\n" ++
  "  service <INPUT> <OUTPUT>      Make service and repo interfaces from receiver methods\n" ++
  "  queries <INPUT> <OUTPUT>      Make repository queries from a model file or directory\n" ++
  "  tests <INPUT> <OUTPUT>        Make repository tests from a model file or directory\n" ++
  "  controller <NAME> <DIRECTORY> Create a controller stub with the standard routes\n" ++
  "  inspect <INPUT>               Print the parsed model of a file as JSON\n"

variable {m : Type → Type} [Monad m] [FileStore m]

/-- Serves a request. The configuration comes from the project, which is the working directory unless
another one is named. -/
def serve [ErrorRecovery] (env : Environment) : Request → m Outcome
  | help => return { out := usage }
  | version => return { out := versionText }
  | run project command => do
    let root ← match project with
      | some path => pure path
      | none => FileStore.workingDirectory
    match ← Config.load root env with
    | .error e => return (Command.Told.failed (.config e)).outcome
    | .ok c => return (← command.run c).outcome

end Request

/-- Runs the program on the words of a command line. Words that fit no request end in its usage. -/
def runProgram [ErrorRecovery] {m : Type → Type} [Monad m] [FileStore m] (env : Environment)
    (words : List String) : m Outcome :=
  match Request.read? words with
  | none => return { exit := 2, err := Request.usage }
  | some request => request.serve env

end DeclGen
