import DeclGen.Text.Affix

/-!
# Paths

A path is a text whose parts stand between slashes. An empty part and the part `.` say nothing, except
that a leading slash makes the path absolute and that a relative path may begin with `.`. The last part
that says something names the file; a path that ends in `..`, or has no such part, names none.
-/

namespace DeclGen.Path

/-- The parts between the slashes; one more than there are slashes. -/
def splitAtSlashes : List Char → List (List Char)
  | [] => [[]]
  | c :: rest =>
    match c, splitAtSlashes rest with
    | '/', parts => [] :: parts
    | c, [] => [[c]]
    | c, part :: parts => (c :: part) :: parts

/-- The parts of a path as texts. -/
def parts (path : String) : List String := (splitAtSlashes path.toList).map String.ofList

/-- A leading slash makes a path absolute. -/
def isAbsolute (path : String) : Bool := path.toList.head? == some '/'

/-- A part that says nothing: it is empty or `.`. -/
def isSilent (part : String) : Bool := part == "" || part == "."

/-- A list without its silent end. -/
def trimEnd (parts : List String) : List String := (parts.reverse.dropWhile isSilent).reverse

/-- The name of the file that a path denotes, if its last telling part is a name. -/
def fileName? (path : String) : Option String :=
  match ((parts path).filter (!isSilent ·)).getLast? with
  | some ".." => none
  | name => name

/-- A name cut at its last dot. A dot at the very beginning does not count, as it hides the file. -/
def cutName (name : String) : String × Option String :=
  let reversed := name.toList.reverse
  match reversed.dropWhile (· != '.') with
  | [] | [_] => (name, none)
  | _ :: before =>
    (String.ofList before.reverse, some (String.ofList (reversed.takeWhile (· != '.')).reverse))

/-- The name of the file without its extension. -/
def stem? (path : String) : Option String := (fileName? path).map (cutName · |>.1)

/-- The end of the file's name after its last dot. -/
def extension? (path : String) : Option String := (fileName? path).bind (cutName · |>.2)

/-- The path of the directory that holds what `path` denotes; it is empty for a single part. The root
and the empty path have none. -/
def parent? (path : String) : Option String :=
  match parts path with
  | [] => none
  | first :: rest =>
    match trimEnd rest with
    | [] => if first == "" then none else some ""
    | telling =>
      match first, trimEnd telling.dropLast with
      | "", [] => some "/"
      | first, above => some (String.intercalate "/" (first :: above))

/-- `path` as seen from `directory`: an absolute path stays as it is. -/
def join (directory path : String) : String :=
  if isAbsolute path || directory == "" then path
  else if Text.finishesWith "/" directory then directory ++ path
  else directory ++ "/" ++ path

/-- The path of `path`'s directory, where an empty one is the current directory. -/
def directoryOf (path : String) : String :=
  match parent? path with
  | none | some "" => "."
  | some directory => directory

end DeclGen.Path
