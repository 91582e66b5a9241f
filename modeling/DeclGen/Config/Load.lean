import DeclGen.Config.Document
import DeclGen.Files.Store

/-!
# Loading the configuration

A project may have a configuration document, and variables of the environment have the last word over
four of its settings. A project without a document has the defaults. What comes out is valid.
-/

namespace DeclGen

/-- Variables with their values. -/
abbrev Environment := List (String × String)

namespace Config

/-- The variables that override settings. -/
def overriding : List String :=
  ["RAWDOG_DOMAIN_PACKAGE", "RAWDOG_REPO_PACKAGE", "RAWDOG_STRICT", "RAWDOG_STRIP_TABLE_PREFIX"]

/-- The variable with a text in place of a setting. -/
def overrideText (env : Environment) (name : String) (setting : String) : String :=
  (env.lookup name).getD setting

/-- The variable with a truth value in place of a setting. Other texts mean nothing. -/
def overrideTruth (env : Environment) (name : String) (setting : Bool) : Bool :=
  match env.lookup name with
  | some "true" => true
  | some "false" => false
  | _ => setting

/-- The configuration after the variables of the environment. -/
def withEnvironment (env : Environment) (c : Config) : Config :=
  { c with
    naming := { c.naming with
      domainPackage := overrideText env "RAWDOG_DOMAIN_PACKAGE" c.naming.domainPackage
      repoPackage := overrideText env "RAWDOG_REPO_PACKAGE" c.naming.repoPackage }
    model :=
      { strict := overrideTruth env "RAWDOG_STRICT" c.model.strict
        stripTablePrefix :=
          overrideTruth env "RAWDOG_STRIP_TABLE_PREFIX" c.model.stripTablePrefix } }

/-- Why no configuration could be loaded. -/
inductive LoadError
  | unreadable (path : String) (cause : FileError)
  | malformed (path : String)
  | invalid (cause : ConfigError)
deriving DecidableEq, Repr

/-- Where the document of a project is. -/
def documentPath (project : String) : String :=
  Path.join (Path.join project ".rawdog") "config.toml"

variable {m : Type → Type} [Monad m] [FileStore m]

/-- The configuration of a project before the environment. -/
def ofProject (project : String) : m (Except LoadError Config) := do
  let path := documentPath project
  match ← FileStore.kindAt path with
  | none => return .ok {}
  | some _ =>
    match ← FileStore.readText path with
    | .error cause => return .error (.unreadable path cause)
    | .ok text =>
      match ofText? text with
      | none => return .error (.malformed path)
      | some c => return .ok c

/-- The configuration of a project. -/
def load (project : String) (env : Environment) : m (Except LoadError Config) := do
  match ← ofProject project with
  | .error e => return .error e
  | .ok c =>
    let c := c.withEnvironment env
    match c.validate with
    | .error e => return .error (.invalid e)
    | .ok () => return .ok c

end Config

end DeclGen
