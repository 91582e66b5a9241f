import DeclGen.Model.Entity
import DeclGen.Model.Method

/-!
# The model of a declaration file
-/

namespace DeclGen

/-- All that is extracted from one declaration file. -/
structure FileModel where
  package : String
  entities : List Entity
  interfaces : List Interface
  services : List ServiceMethodSet
deriving DecidableEq, Repr, Inhabited

namespace FileModel

/-- The first entity that is not an augmented sibling. -/
def primaryEntity? (m : FileModel) : Option Entity := m.entities.find? (!·.isAugmentedSibling)

/-- The first entity of a name. -/
def entity? (m : FileModel) (name : String) : Option Entity := m.entities.find? (·.name == name)

end FileModel

end DeclGen
