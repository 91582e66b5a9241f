import DeclGen.Config.Load
import DeclGen.Files.Glob
import DeclGen.Files.Replace
import DeclGen.Source.Reader

/-!
# Failures of commands

A command fails with what it could not do and, mostly, with why. Both are shown to the user.
-/

namespace DeclGen

/-- The wording of what is wrong with a glob. -/
def GlobError.message : GlobError → String
  | unclosedSet => "unclosed character class; missing ']'"
  | emptyRange low high =>
    "invalid range; '" ++ low.toString ++ "' > '" ++ high.toString ++ "'"
  | danglingEscape => "dangling '\\'"
  | unclosedGroup =>
    "unclosed alternate group; missing '\x7d' (maybe escape '\x7b' with '[\x7b]'?)"
  | unopenedGroup =>
    "unopened alternate group; missing '\x7b' (maybe escape '\x7d' with '[\x7d]'?)"

/-- Why a command failed. -/
inductive CommandError
  | config (cause : Config.LoadError)
  | unreadable (path : String) (cause : FileError)
  | malformed (path : String) (cause : SourceError)
  | noModel (path : String) (cause : ModelError)
  | noService (path : String) (cause : ModelError)
  | notGenerated (path : String) (cause : ModelError)
  | noTable (path : String)
  | noDestination (path : String)
  | unwritten (cause : WriteError)
  | badGlob (option pattern : String) (cause : GlobError)
  | badControllerName (name : String)
  | someFailed (failed total : Nat)
deriving DecidableEq, Repr

namespace CommandError

/-- What could not be done. -/
def message : CommandError → String
  | config (.unreadable path _) => "failed to read " ++ path
  | config (.malformed path) => "failed to parse " ++ path
  | config (.invalid cause) => cause.message
  | unreadable path _ => "failed to read " ++ path
  | malformed path _ => "failed to parse " ++ path
  | noModel path _ => "failed to parse " ++ path
  | noService path _ => "cannot build a service from " ++ path
  | notGenerated path _ => "cannot generate from " ++ path
  | noTable path => "cannot derive a table name from " ++ path
  | noDestination path => "cannot name output for " ++ path
  | unwritten cause => cause.message
  | badGlob option pattern _ => "invalid --" ++ option ++ " glob: " ++ pattern
  | badControllerName name =>
    "controller name must be an identifier, got " ++ Text.Quoted.encode name
  | someFailed failed total => toString failed ++ " of " ++ toString total ++ " files failed"

/-- Why it could not be done. -/
def cause? : CommandError → Option String
  | config (.unreadable _ cause) => some cause.message
  | config (.malformed _) => some "TOML parse error"
  | unreadable _ cause => some cause.message
  | malformed _ cause => some cause.message
  | noModel _ cause | noService _ cause | notGenerated _ cause => some cause.message
  | unwritten cause => some cause.cause.message
  | badGlob _ pattern cause => some ("error parsing glob '" ++ pattern ++ "': " ++ cause.message)
  | config (.invalid _) | noTable _ | noDestination _ | badControllerName _ | someFailed .. => none

/-- A text that is indented on each of its lines. -/
def indented (text : String) : String :=
  let margin := List.replicate 4 ' '
  String.ofList (margin ++ text.toList.flatMap fun c => if c == '\n' then c :: margin else [c])

/-- What the user sees. -/
def report (e : CommandError) : String :=
  "Error: " ++ e.message ++ "\n" ++
    match e.cause? with
    | some cause => "\nCaused by:\n" ++ indented cause ++ "\n"
    | none => ""

end CommandError

end DeclGen
