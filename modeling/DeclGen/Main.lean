import DeclGen.Command.Run

/-!
# The program

The program on the files of the machine, with the command line and the environment of its process.
-/

namespace DeclGen.Machine

/-- The cause for which the system refuses an operation. -/
def refusal (e : IO.Error) : FileError :=
  match e with
  | .noFileOrDirectory .. | .noSuchThing .. => .notFound
  | .alreadyExists .. => .alreadyExists
  | .resourceBusy .. => .busy
  | .userError _ => .notText
  | .otherError code details | .illegalOperation code details | .permissionDenied _ code details
  | .invalidArgument _ code details | .resourceExhausted _ code details
  | .inappropriateType _ code details => ofCode code.toNat details
  | e => .other 5 (toString e)
where
  /-- The cause that the system has a number for. -/
  ofCode : Nat → String → FileError
    | 16, _ => .busy
    | 17, _ => .alreadyExists
    | 20, _ => .notADirectory
    | 21, _ => .isADirectory
    | 36, _ => .nameTooLong
    | code, details => .other code details

/-- The answer of an operation that may be refused. -/
def answer {α : Type} (operation : IO α) : IO (Except FileError α) := do
  match ← operation.toBaseIO with
  | .ok a => return .ok a
  | .error e => return .error (refusal e)

/-- The answer of a question about something that may not be there. -/
def answer? {α : Type} (operation : IO α) : IO (Option α) := do
  match ← operation.toBaseIO with
  | .ok a => return some a
  | .error _ => return none

/-- The name of a temporary file. -/
def temporaryName : IO String := do
  let letters := "abcdefghijklmnopqrstuvwxyzABCDEFGHIJKLMNOPQRSTUVWXYZ0123456789".toList
  let drawn ← (List.range 6).mapM fun _ => IO.rand 0 (letters.length - 1)
  return ".tmp" ++ String.ofList (drawn.map fun n => letters.getD n 'a')

/-- Makes a new file with a text. -/
def makeTemporary (directory text : String) : IO String := do
  let path := Path.join directory (← temporaryName)
  let file ← IO.FS.Handle.mk path .writeNew
  file.putStr text
  file.flush
  return path

/-- The names in a directory with their kinds; links to directories are left out. -/
def namesIn (path : String) : IO (List (String × FileKind)) := do
  let entries ← (← IO.FS.realPath path).readDir
  let named ← entries.toList.mapM fun e => do
    match (← e.path.symlinkMetadata).type with
    | .dir => return some (e.fileName, .directory)
    | .file => return some (e.fileName, .file)
    | .symlink =>
      return if (← answer? e.path.metadata).any (·.type == .file) then some (e.fileName, .file) else none
    | .other => return none
  return named.filterMap id

instance : FileStore IO where
  workingDirectory := return (← IO.currentDir).toString
  kindAt path := do
    let data ← answer? (do (← IO.FS.realPath path).metadata)
    return data.map fun d => if d.type == .dir then .directory else .file
  readText path := answer (IO.FS.readFile path)
  namesIn path := return (← answer? (namesIn path)).getD []
  fullPath? path := answer? (do return (← IO.FS.realPath path).toString)
  makeDirectory path := answer (IO.FS.createDir path)
  makeTemporary directory text := answer (makeTemporary directory text)
  moveFile source target := answer (IO.FS.rename source target)
  removeFile path := do
    let _ ← answer? (IO.FS.removeFile path)

/-- The variables that the configuration looks at, as far as they are set. -/
def environment : IO Environment := do
  let found ← Config.overriding.mapM fun name => return (← IO.getEnv name).map (name, ·)
  return found.filterMap id

end DeclGen.Machine

/-- Runs the program on the words of its command line. -/
def main (words : List String) : IO UInt32 := do
  let outcome ← DeclGen.runProgram (← DeclGen.Machine.environment) words
  IO.print outcome.out
  IO.eprint outcome.err
  return outcome.exit.toUInt32
