import DeclGen.Files.Tree

/-!
# File stores

What the program asks of a file system. The same program runs on a `FileTree`, where every question and
change is a function, and on the files of the machine.
-/

namespace DeclGen

/-- Access to files by path, as effects of `m`. Operations that can be refused answer with the cause;
questions about something that is not there answer with nothing. -/
class FileStore (m : Type → Type) where
  /-- The absolute path of the working directory. -/
  workingDirectory : m String
  /-- The kind of what a path denotes. -/
  kindAt : String → m (Option FileKind)
  /-- The text of a file. -/
  readText : String → m (Except FileError String)
  /-- The names in a directory, in any order. -/
  namesIn : String → m (List (String × FileKind))
  /-- The absolute path of what a path denotes, without ways back. -/
  fullPath? : String → m (Option String)
  /-- Makes one directory. -/
  makeDirectory : String → m (Except FileError Unit)
  /-- Makes a new file with a text in a directory and answers with its path. -/
  makeTemporary : (directory text : String) → m (Except FileError String)
  /-- Moves a file over what another path denotes, in one step. -/
  moveFile : (source target : String) → m (Except FileError Unit)
  /-- Removes a file. -/
  removeFile : String → m Unit

namespace FileTree

/-- A question about a tree. -/
def ask {α : Type} (question : FileTree → α) : StateM FileTree α := fun t => (question t, t)

/-- A change of a tree, which a refusal leaves out. -/
def change {α : Type} (f : FileTree → Except FileError (α × FileTree)) :
    StateM FileTree (Except FileError α) := fun t =>
  match f t with
  | .ok (a, changed) => (.ok a, changed)
  | .error e => (.error e, t)

instance : FileStore (StateM FileTree) where
  workingDirectory := ask (·.workingDirectory.path)
  kindAt path := ask (·.kindAt path)
  readText path := ask (·.readText path)
  namesIn path := ask (·.namesIn path)
  fullPath? path := ask (·.fullPath? path)
  makeDirectory path := change fun t => (t.makeDirectory path).map (((), ·))
  makeTemporary directory text := change (·.makeTemporary directory text)
  moveFile source target := change fun t => (t.moveFile source target).map (((), ·))
  removeFile path := fun t => ((), t.removeFile path)

end FileTree

end DeclGen
