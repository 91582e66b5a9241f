import DeclGen.Files.Store

/-!
# Writing a file in one step

A text is first written to a temporary file in the directory of its destination, which is made if it is
not there. The temporary file is then moved over the destination, so that no reader sees a part of it,
and a refused move removes it again. Whatever is refused, no file has changed.
-/

namespace DeclGen

/-- Why a file was not written: in which step it was refused, and the cause. -/
inductive WriteError
  | noDirectory (directory : String) (cause : FileError)
  | noTemporary (directory : String) (cause : FileError)
  | notReplaced (path : String) (cause : FileError)
deriving DecidableEq, Repr

namespace WriteError

/-- What was being done. -/
def message : WriteError → String
  | noDirectory directory _ => "failed to create output directory " ++ directory
  | noTemporary directory _ => "failed to create temporary file in " ++ directory
  | notReplaced path _ => "failed to write " ++ path

/-- Why it was refused. -/
def cause : WriteError → FileError
  | noDirectory _ cause => cause
  | noTemporary _ cause => cause
  | notReplaced _ cause => cause

end WriteError

namespace Path

/-- A path and the paths above it, at most as many as the first number says. -/
def chain : Nat → String → List String
  | 0, _ => []
  | limit + 1, path =>
    path :: match parent? path with
      | none => []
      | some above => chain limit above

/-- A path and all paths above it. Every one has fewer parts than the one before. -/
def withAncestors (path : String) : List String := chain ((parts path).length + 1) path

end Path

namespace FileStore

variable {m : Type → Type} [Monad m] [FileStore m]

/-- Whether a path denotes a directory. -/
def isDirectory (path : String) : m Bool := return (← kindAt path) == some .directory

/-- Makes the first path a directory, after the others where it has to stand in one of them. An empty
path needs no directory. -/
def makeChain : List String → m (Except FileError Unit)
  | [] | "" :: _ => return .ok ()
  | path :: above => do
    match ← makeDirectory path with
    | .ok () => return .ok ()
    | .error .notFound =>
      match ← makeChain above with
      | .error cause => return .error cause
      | .ok () => settled path (← makeDirectory path)
    | refused => settled path refused
where
  /-- A directory that is already there is as good as a new one. -/
  settled (path : String) : Except FileError Unit → m (Except FileError Unit)
    | .ok () => return .ok ()
    | .error cause => return if ← isDirectory path then .ok () else .error cause

/-- Makes a directory and those above it. -/
def makeDirectories (path : String) : m (Except FileError Unit) := makeChain (Path.withAncestors path)

/-- Writes a file in one step. -/
def replace (path text : String) : m (Except WriteError Unit) := do
  let directory := Path.directoryOf path
  match ← makeDirectories directory with
  | .error cause => return .error (.noDirectory directory cause)
  | .ok () =>
    match ← makeTemporary directory text with
    | .error cause => return .error (.noTemporary directory cause)
    | .ok temporary =>
      match ← moveFile temporary path with
      | .ok () => return .ok ()
      | .error cause =>
        removeFile temporary
        return .error (.notReplaced path cause)

end FileStore

end DeclGen
