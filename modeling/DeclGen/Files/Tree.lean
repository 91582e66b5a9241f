import DeclGen.Files.Failure
import DeclGen.Files.Path

/-!
# Trees of files

A tree of directories and text files with a working directory. Paths are followed part by part: what
stands before a slash has to be a directory, `..` leads to the directory above, and the root is above
itself. Every operation either changes what it says it changes or refuses and leaves the tree as it was.
-/

namespace DeclGen

/-- What stands at a place. -/
inductive Node
  | directory
  | file (text : String)
deriving DecidableEq, Repr

/-- The two kinds of things in a tree. -/
inductive FileKind
  | directory
  | file
deriving DecidableEq, Repr

/-- The kind of a node. -/
def Node.kind : Node → FileKind
  | directory => .directory
  | file _ => .file

/-- A place in a tree: the names that lead to it from the root. -/
abbrev Location := List String

/-- The absolute path of a place. -/
def Location.path (l : Location) : String := "/" ++ String.intercalate "/" l

/-- Directories and files by their places, seen from a working directory. The root is always there and
has no entry. -/
structure FileTree where
  workingDirectory : Location := []
  entries : List (Location × Node) := []
deriving DecidableEq, Repr

namespace FileTree

/-! ## Places -/

/-- What stands at a place. -/
def find? (t : FileTree) (l : Location) : Option Node :=
  if l = [] then some .directory else t.entries.lookup l

/-- The tree without what stands at a place. -/
def erase (t : FileTree) (l : Location) : FileTree :=
  { t with entries := t.entries.filter (·.1 ≠ l) }

/-- The tree with a node at a place, instead of what was there. -/
def put (t : FileTree) (l : Location) (n : Node) : FileTree :=
  { t with entries := (l, n) :: (t.erase l).entries }

/-- The names in a directory with their kinds. -/
def namesAt (t : FileTree) (l : Location) : List (String × FileKind) :=
  t.entries.filterMap fun (place, node) =>
    match place.getLast? with
    | some name => if place.dropLast = l then some (name, node.kind) else none
    | none => none

/-! ## Following paths -/

/-- The longest name in bytes. -/
def nameLimit : Nat := 255

/-- The longest path in bytes. -/
def pathLimit : Nat := 4095

/-- From a directory to what the next part of a path denotes there. -/
def step (t : FileTree) (l : Location) (part : String) : Except FileError Location :=
  match t.find? l with
  | none => .error .notFound
  | some (.file _) => .error .notADirectory
  | some .directory =>
    if Path.isSilent part then .ok l
    else if part == ".." then .ok l.dropLast
    else if nameLimit < part.utf8ByteSize then .error .nameTooLong
    else .ok (l ++ [part])

/-- From a directory along the parts of a path. -/
def follow (t : FileTree) (l : Location) (parts : List String) : Except FileError Location :=
  parts.foldlM t.step l

/-- Where a path starts, unless it cannot be a path at all. -/
def start (t : FileTree) (path : String) : Except FileError Location :=
  if path.toList.contains '\x00' then .error .zeroInName
  else if path == "" then .error .notFound
  else if pathLimit < path.utf8ByteSize then .error .nameTooLong
  else .ok (if Path.isAbsolute path then [] else t.workingDirectory)

/-- The place that a path denotes; nothing may stand there. -/
def locate (t : FileTree) (path : String) : Except FileError Location := do
  t.follow (← t.start path) (Path.parts path)

/-- What a path denotes, and where. -/
def lookup (t : FileTree) (path : String) : Except FileError (Location × Node) := do
  let l ← t.locate path
  match t.find? l with
  | some n => .ok (l, n)
  | none => .error .notFound

/-- A path taken apart for making something: the directory, the last part, and whether a slash
follows it. The last part is empty for the root. -/
structure Site where
  directory : Location
  last : String
  closed : Bool
deriving DecidableEq, Repr

/-- The site of a path. Its directory has to be there. -/
def site (t : FileTree) (path : String) : Except FileError Site := do
  let reversed := (Path.parts path).reverse
  let telling := reversed.dropWhile (· == "")
  let directory ← t.follow (← t.start path) (telling.tail.reverse ++ [""])
  return ⟨directory, telling.headD "", reversed.head? == some ""⟩

/-- The last part is a name and not the root or a way back. -/
def Site.isNamed (s : Site) : Bool := !Path.isSilent s.last && s.last != ".."

/-- The place of a named site. -/
def Site.place (s : Site) : Location := s.directory ++ [s.last]

/-! ## Operations -/

/-- The text of the file at a path. -/
def readText (t : FileTree) (path : String) : Except FileError String := do
  match ← t.lookup path with
  | (_, .file text) => .ok text
  | (_, .directory) => .error .isADirectory

/-- What kind of thing a path denotes, if anything. -/
def kindAt (t : FileTree) (path : String) : Option FileKind :=
  match t.lookup path with
  | .ok (_, n) => some n.kind
  | .error _ => none

/-- The absolute path of what a path denotes, without ways back. -/
def fullPath? (t : FileTree) (path : String) : Option String :=
  match t.lookup path with
  | .ok (l, _) => some l.path
  | .error _ => none

/-- The names in the directory at a path, with their kinds. -/
def namesIn (t : FileTree) (path : String) : List (String × FileKind) :=
  match t.lookup path with
  | .ok (l, .directory) => t.namesAt l
  | _ => []

/-- The tree with a new directory at a path. Nothing may stand there. -/
def makeDirectory (t : FileTree) (path : String) : Except FileError FileTree := do
  let s ← t.site path
  if !s.isNamed then .error .alreadyExists
  else if nameLimit < s.last.utf8ByteSize then .error .nameTooLong
  else if (t.find? s.place).isSome then .error .alreadyExists
  else .ok (t.put s.place .directory)

/-- A name for a temporary file that is free in a directory. There are more names to choose from than
there is anything in the tree. -/
def temporaryName? (t : FileTree) (directory : Location) : Option String :=
  ((List.range (t.entries.length + 1)).map fun n => ".tmp" ++ toString n).find? fun name =>
    (t.find? (directory ++ [name])).isNone

/-- The tree with a new file of some text in the directory at a path, and the new file's path. -/
def makeTemporary (t : FileTree) (directory text : String) :
    Except FileError (String × FileTree) := do
  let l ← t.follow (← t.start directory) (Path.parts directory ++ [""])
  match t.temporaryName? l with
  | none => .error .alreadyExists
  | some name =>
    let path := Path.join directory name
    return (path, t.put (← t.locate path) (.file text))

/-- The tree with a file moved over what another path denotes, which may not be a directory. -/
def moveFile (t : FileTree) (source target : String) : Except FileError FileTree := do
  match ← t.lookup source with
  | (_, .directory) => .error .isADirectory
  | (l, .file text) =>
    let s ← t.site target
    if !s.isNamed then .error .busy
    else if nameLimit < s.last.utf8ByteSize then .error .nameTooLong
    else if s.closed then .error .notADirectory
    else
      match t.find? s.place with
      | some .directory => .error .isADirectory
      | _ => .ok ((t.erase l).put s.place (.file text))

/-- The tree without the file at a path. -/
def removeFile (t : FileTree) (path : String) : FileTree :=
  match t.lookup path with
  | .ok (l, .file _) => t.erase l
  | _ => t

/-! ## Whole trees -/

/-- The directories above a place, from the top down, and not the root. -/
def above (l : Location) : List Location :=
  (List.range (l.length - 1)).map fun n => l.take (n + 1)

/-- The tree with a file at a place and the directories above it. -/
def addFile (t : FileTree) (l : Location) (text : String) : FileTree :=
  let t := (above l).foldl (fun t d => if (t.find? d).isSome then t else t.put d .directory) t
  t.put l (.file text)

/-- The files below a directory with their texts, by the names that lead to them from there. -/
def filesBelow (t : FileTree) (l : Location) : List (Location × String) :=
  t.entries.filterMap fun (place, node) =>
    match node, l.isPrefixOf? place with
    | .file text, some rest => some (rest, text)
    | _, _ => none

end FileTree

end DeclGen
