import DeclGen.Generate.Scaffold
import DeclGen.Model.Build
import DeclGen.Text.Quoted

/-!
# Configuration

The names that appear in generated code, the policy for building models, and the names of output files.
Every setting has a default. A configuration is valid when its packages and the shared connection are
identifiers and output files have an extension.
-/

namespace DeclGen

namespace Config

/-- Packages, imports and the shared connection in generated code. -/
structure Naming where
  domainPackage : String := "domain"
  repoPackage : String := "mysqlrepo"
  repoImport : String := "adapter/mysqlrepo"
  domainImport : String := "domain"
  sharedDb : String := "sharedDB"
deriving DecidableEq, Repr

/-- Whether omissions are errors, and whether columns lose the table's name in statements. -/
structure Policy where
  strict : Bool := false
  stripTablePrefix : Bool := false
deriving DecidableEq, Repr

/-- The ends of the names of output files. -/
structure Output where
  queriesSuffix : String := "_generatedQueries"
  testsSuffix : String := "_generated_test"
  extension : String := "go"
deriving DecidableEq, Repr

end Config

/-- A configuration. -/
structure Config where
  naming : Config.Naming := {}
  model : Config.Policy := {}
  output : Config.Output := {}
deriving DecidableEq, Repr

/-- Why a configuration is refused: a setting that has to be an identifier is not one, or output files
have no extension. -/
inductive ConfigError
  | notIdentifier (key value : String)
  | emptyExtension
deriving DecidableEq, Repr

/-- The wording of a configuration error. -/
def ConfigError.message : ConfigError → String
  | notIdentifier key value =>
    key ++ " must be an identifier, got " ++ Text.Quoted.encode value
  | emptyExtension => "output.extension must not be empty"

namespace Config

/-- The settings that have to be identifiers, in the order in which they are checked. -/
def identifiers (c : Config) : List (String × String) :=
  [("naming.domain_package", c.naming.domainPackage),
   ("naming.repo_package", c.naming.repoPackage),
   ("naming.shared_db", c.naming.sharedDb)]

/-- Refuses an invalid configuration with the first error. -/
def validate (c : Config) : Except ConfigError Unit :=
  match c.identifiers.find? fun setting => !DeclGen.Naming.isIdentifier setting.2 with
  | some (key, value) => .error (.notIdentifier key value)
  | none => if c.output.extension == "" then .error .emptyExtension else .ok ()

/-- How models are built. -/
def buildOptions (c : Config) : BuildOptions :=
  { serviceNamespace := c.naming.domainPackage, strict := c.model.strict }

/-- What the queries of a table depend on. -/
def queryOptions (c : Config) (table : String) : QueryOptions :=
  { table, domainPackage := c.naming.domainPackage,
    stripTablePrefix := c.model.stripTablePrefix, strict := c.model.strict }

/-- What the test scaffold of a table depends on. -/
def scaffoldOptions (c : Config) (table : String) : ScaffoldOptions :=
  { table, repoPackage := c.naming.repoPackage, repoImport := c.naming.repoImport,
    domainPackage := c.naming.domainPackage, domainImport := c.naming.domainImport,
    sharedDb := c.naming.sharedDb }

end Config

end DeclGen
