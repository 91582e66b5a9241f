import DeclGen.Files.Glob
import DeclGen.Files.Path
import DeclGen.Text.Affix
import DeclGen.Unicode.Blank

/-!
# Ignored paths

A directory may hold files that say, line by line, which paths below it are to be passed over. A later
line has the last word over an earlier one, a directory over those above it, and the kinds of files have
an order too. Two of the kinds only count in the working tree of a repository, and not above the
directory in which it is kept.
-/

namespace DeclGen

/-- A line of an ignore file: a glob, whether matching paths are taken back in, and whether it speaks of
directories only. -/
structure IgnoreRule where
  glob : Glob
  keeps : Bool := false
  directoriesOnly : Bool := false
deriving DecidableEq, Repr

namespace IgnoreRule

/-- How globs are read in ignore files. -/
def globOptions : Glob.Options := { slashesStand := true, openSets := true }

/-- A line without its meaningless end. A blank after a backslash has a meaning. -/
def significant (line : List Char) : List Char :=
  if ['\\', ' '].isSuffixOf line then line else Unicode.trimEnd line

/-- The end of a directory's name is not part of the glob, nor a backslash before it. -/
def withoutSlash (line : List Char) : List Char :=
  let body := line.dropLast
  if body.getLast? == some '\\' then body.dropLast else body

/-- The glob that a line asks for. Without a slash in it, it may match at any depth. What is in a
directory does not include the directory itself. -/
def globText (anchored : Bool) (line : List Char) : String :=
  let text := String.ofList line
  let anywhere := !anchored && !line.contains '/' && text != "**"
  let text := if anywhere then "**/" ++ text else text
  if Text.finishesWith "/**" text then text ++ "/*" else text

/-- The rule after the mark that takes paths back in. -/
def ofBody? (keeps anchored : Bool) (body : List Char) : Option IgnoreRule :=
  let directoriesOnly := body.getLast? == some '/'
  let line := if directoriesOnly then withoutSlash body else body
  match Glob.read globOptions (globText anchored line) with
  | .ok glob => some ⟨glob, keeps, directoriesOnly⟩
  | .error _ => none

/-- The rule that a line states. Comments, empty lines and faulty globs state none. -/
def ofLine? (line : List Char) : Option IgnoreRule :=
  if line.head? == some '#' then none
  else
    match significant line with
    | [] => none
    | '\\' :: '!' :: rest => ofBody? false false ('!' :: rest)
    | '\\' :: '#' :: rest => ofBody? false false ('#' :: rest)
    | '!' :: '/' :: rest => ofBody? true true rest
    | '!' :: rest => ofBody? true false rest
    | '/' :: rest => ofBody? false true rest
    | rest => ofBody? false false rest

/-- The rule speaks of a path below its directory. -/
def covers (r : IgnoreRule) (path : String) (isDirectory : Bool) : Bool :=
  (!r.directoriesOnly || isDirectory) && r.glob.isMatch path

end IgnoreRule

/-- What ignore files say of a path. -/
inductive Verdict
  | ignored
  | kept
deriving DecidableEq, Repr

namespace Ignore

/-- The lines of a text, without a carriage return at their ends. -/
def lines (text : String) : List (List Char) :=
  (splitLines text.toList).map fun line =>
    if line.getLast? == some '\r' then line.dropLast else line
where
  /-- What stands between the line feeds. -/
  splitLines : List Char → List (List Char)
    | [] => [[]]
    | '\n' :: rest => [] :: splitLines rest
    | c :: rest =>
      match splitLines rest with
      | [] => [[c]]
      | line :: lines => (c :: line) :: lines

/-- The rules of an ignore file. A byte order mark at its start is no part of it. -/
def rules (text : String) : List IgnoreRule :=
  (lines (String.ofList (text.toList.dropWhile (· == '\ufeff')))).filterMap IgnoreRule.ofLine?

/-- What the rules of one file say of a path. -/
def verdict? (rules : List IgnoreRule) (path : String) (isDirectory : Bool) : Option Verdict :=
  (rules.reverse.find? (·.covers path isDirectory)).map fun r => if r.keeps then .kept else .ignored

/-- The rules that a directory adds: those of everybody, and those of a repository in two kinds. -/
structure Scope where
  /-- The names that lead from the root to the directory. -/
  location : List String
  general : List IgnoreRule := []
  repository : List IgnoreRule := []
  exclusions : List IgnoreRule := []
  /-- The directory is the top of a repository. -/
  isTop : Bool := false

/-- The elements up to the first with a property, and that one. -/
def upTo {α : Type} (p : α → Bool) : List α → List α
  | [] => []
  | a :: rest => a :: if p a then [] else upTo p rest

/-- What the directories around a place say of it, the innermost first. -/
def decide? (scopes : List Scope) (place : List String) (isDirectory : Bool) : Option Verdict :=
  let first (rules : Scope → List IgnoreRule) (scopes : List Scope) : Option Verdict :=
    scopes.findSome? fun s =>
      verdict? (rules s) (String.intercalate "/" (place.drop s.location.length)) isDirectory
  let tree := if scopes.any (·.isTop) then upTo (·.isTop) scopes else []
  first (·.general) scopes <|> first (·.repository) tree <|> first (·.exclusions) tree

/-- A place is passed over if it is ignored, or hidden by a dot and not taken back in. -/
def isSkipped (scopes : List Scope) (place : List String) (isDirectory : Bool) : Bool :=
  match decide? scopes place isDirectory with
  | some .ignored => true
  | some .kept => false
  | none => (place.getLastD "").toList.head? == some '.'

end Ignore

end DeclGen
