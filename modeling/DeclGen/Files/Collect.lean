import DeclGen.Files.Destination
import DeclGen.Files.Ignore
import DeclGen.Files.Replace

/-!
# Collecting declaration files

The declaration files of a directory are found at any depth, without what ignore files and dots hide,
without tests and without artifacts, and perhaps only those that some globs stand for or do not stand
for. They come in the order of their paths, name by name.
-/

namespace DeclGen

/-- Which files of a directory are meant, by their paths in it: those of at least one of the first globs,
if there are any, and of none of the second. -/
structure FileFilter where
  including : List Glob := []
  excluding : List Glob := []

/-- The file at these names is meant. -/
def FileFilter.admits (f : FileFilter) (names : List String) : Bool :=
  let path := String.intercalate "/" names
  (f.including.isEmpty || f.including.any (·.isMatch path)) && !f.excluding.any (·.isMatch path)

/-- The file of this name declares something that artifacts are made from. -/
def Config.Output.isDeclarationFile (o : Config.Output) (name : String) : Bool :=
  Path.extension? name == some "go"
    && !(Path.stem? name).any (Text.finishesWith "_test")
    && !o.isGenerated name

namespace FileStore

variable {m : Type → Type} [Monad m] [FileStore m]

/-! ## Ignore files -/

/-- The rules of an ignore file, if it is there. -/
def ignoreRules (path : String) : m (List IgnoreRule) := do
  match ← readText path with
  | .ok text => return Ignore.rules text
  | .error _ => return []

/-- The first line of a file. -/
def firstLine? (path : String) : m (Option String) := do
  match ← readText path with
  | .ok text => return (Ignore.lines text).head?.map String.ofList
  | .error _ => return none

/-- Where the files of a repository are whose top has a mark at some path. The mark is a directory, or a
file that says where the directory is. -/
def repositoryOf? (mark : String) : m (Option String) := do
  match ← kindAt mark with
  | some .file =>
    match (← firstLine? mark).bind (Text.afterHead? "gitdir: ") with
    | none => return none
    | some directory =>
      match ← firstLine? (Path.join directory "commondir") with
      | none => return none
      | some common =>
        return some (if Text.beginsWith "." common then Path.join directory common else common)
  | _ => return some mark

/-- What a directory says about ignored paths. -/
def ignoreScope (directory : String) (location : Location) : m Ignore.Scope := do
  let mark := Path.join directory ".git"
  let general ← ignoreRules (Path.join directory ".ignore")
  let repository ← ignoreRules (Path.join directory ".gitignore")
  let exclusions ← match ← repositoryOf? mark with
    | some files => ignoreRules (Path.join files "info/exclude")
    | none => pure []
  return { location, general, repository, exclusions, isTop := (← kindAt mark).isSome }

/-- What the directories above a place say, the innermost first. -/
def ignoreScopesAbove (location : Location) : m (List Ignore.Scope) :=
  ((List.range location.length).reverse.mapM fun n =>
    ignoreScope (Location.path (location.take n)) (location.take n) : m (List Ignore.Scope))

/-! ## Walking -/

/-- The places of all files in a directory that are not passed over, down to a depth. A name stands for a
file if the path that it makes denotes one; a path that is too long denotes nothing. -/
def filesWithin : Nat → List Ignore.Scope → String → Location → m (List Location)
  | 0, _, _, _ => return []
  | depth + 1, scopes, directory, location => do
    let scopes := (← ignoreScope directory location) :: scopes
    let found ← (← namesIn directory).mapM fun (name, kind) => do
      let place := location ++ [name]
      if Ignore.isSkipped scopes place (kind == .directory) then return []
      let path := Path.join directory name
      match kind with
      | .file => return if (← kindAt path) == some .file then [place] else []
      | .directory => filesWithin depth scopes path place
    return found.flatten

/-- The files of a directory that are not passed over, by the names that lead to them. No path is longer
than the limit of a file system, so no file is deeper than that. -/
def filesBelow (directory : String) : m (List (List String)) := do
  let location : Location := match ← fullPath? directory with
    | some path => (Path.parts path).filter (· != "")
    | none => []
  let places ← filesWithin FileTree.pathLimit (← ignoreScopesAbove location) directory location
  return places.map (·.drop location.length)

/-- The order of paths: name by name. -/
def namesLE : List String → List String → Bool
  | [], _ => true
  | _ :: _, [] => false
  | a :: as, b :: bs => a < b || a == b && namesLE as bs

/-- The declaration files of a directory that a filter admits. -/
def declarationFiles (directory : String) (f : FileFilter) (o : Config.Output) : m (List String) := do
  let found ← filesBelow directory
  let meant := found.filter fun names => o.isDeclarationFile (names.getLastD "") && f.admits names
  return (meant.mergeSort namesLE).map (·.foldl Path.join directory)

end FileStore

end DeclGen
