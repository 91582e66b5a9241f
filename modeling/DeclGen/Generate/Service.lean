import DeclGen.Generate.Qualifier
import DeclGen.Generate.Slots
import DeclGen.Model.FileModel
import DeclGen.Model.Notice

/-!
# Services

For each service receiver two interfaces with one method set are generated, the service and its
repository, and a service type that passes every call on to the repository it holds. The generated file
belongs to the domain package, so the types of that package are written without its name.
-/

namespace DeclGen.Service

open Text

/-- The receiver of the methods of a service. -/
def receiver : String := "s"

/-- The comment over a method, by the family its name belongs to. -/
def methodComment (name base : String) : String :=
  if beginsWith "All" name then name ++ " gets all " ++ base ++ " records."
  else if name == "DeleteByID" then
    name ++ " marks " ++ article base ++ " " ++ base ++ " record as deleted."
  else match afterHead? "By" name with
    | some key => name ++ " gets " ++ base ++ " records by " ++ key ++ "."
    | none =>
      if name == "Store" then name ++ " stores " ++ article base ++ " " ++ base ++ " record."
      else name ++ " delegates to the " ++ base ++ " repository."

/-- An interface with the given methods. -/
def interfaceBlock (name : String) (methods : List Method) : Block :=
  Block.braces ("type " ++ name ++ " interface \x7b") (Block.ofTexts (methods.map (·.spec)))

/-- A method of the service that calls the repository's method of the same name. -/
def delegating (service base : String) (m : Method) : Block :=
  let call := receiver ++ ".repo." ++ m.name ++ "(" ++ Slots.callArgs m.params receiver ++ ")"
  Block.ofTexts ["// " ++ methodComment m.name base] ++
  Block.braces ("func (" ++ receiver ++ " *" ++ service ++ ") " ++ m.header receiver ++ " \x7b")
    (Block.ofTexts [if m.returns.isEmpty then call else "return " ++ call])

/-- The interfaces, the type, the constructor and the methods for one receiver, all types qualified. -/
def ofSet (s : ServiceMethodSet) : Block :=
  let base := s.baseName
  let service := Naming.serviceName base
  let repo := Naming.repositoryName base
  let serviceInterface := Naming.interfaceName service
  let repoInterface := Naming.interfaceName repo
  Block.ofTexts ["// " ++ serviceInterface ++ " is the interface for " ++ base ++ " items."] ++
  interfaceBlock serviceInterface s.methods ++
  Block.gap ++
  Block.ofTexts
    ["// " ++ repoInterface ++ " represents the service for storage of " ++ base ++ " items."] ++
  interfaceBlock repoInterface s.methods ++
  Block.gap ++
  Block.ofTexts ["// " ++ service ++ " implements the service for " ++ base ++ " items."] ++
  Block.braces ("type " ++ service ++ " struct \x7b") (Block.ofTexts ["repo " ++ repoInterface]) ++
  Block.gap ++
  Block.ofTexts
    ["// New" ++ service ++ " returns the service for managing " ++ base ++ " items."] ++
  Block.braces ("func New" ++ service ++ "(repo " ++ repoInterface ++ ") *" ++ service ++ " \x7b")
    (Block.ofTexts [receiver ++ " := new(" ++ service ++ ")", receiver ++ ".repo = repo",
      "return " ++ receiver]) ++
  s.methods.flatMap fun m => Block.gap ++ delegating service base m

/-- The text for one receiver as it stands in the domain package. -/
def text (s : ServiceMethodSet) (domainPackage : String) : String :=
  Qualifier.strip (ofSet s).render domainPackage

/-- The file of all services, as it stands in the domain package. A file without services is refused. -/
def file (m : FileModel) (domainPackage : String) : Except ModelError String :=
  if m.services.isEmpty then .error .noService
  else
    let draft := m.services.foldl (fun d s => d.blank.block (ofSet s))
      (Draft.empty.line ("package " ++ domainPackage))
    .ok (Qualifier.strip draft.text domainPackage)

end DeclGen.Service
