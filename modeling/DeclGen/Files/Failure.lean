/-!
# Failures of file operations

The causes for which a file operation is refused, with the system's wording and number.
-/

namespace DeclGen

/-- Why a file operation is refused. -/
inductive FileError
  | notFound
  | busy
  | alreadyExists
  | notADirectory
  | isADirectory
  | nameTooLong
  | zeroInName
  | notText
  | other (number : Nat) (wording : String)
deriving DecidableEq, Repr

/-- The wording of the system with its error number. -/
def FileError.numbered (wording : String) (number : Nat) : String :=
  wording ++ " (os error " ++ toString number ++ ")"

/-- The wording of a refusal. -/
def FileError.message : FileError → String
  | notFound => numbered "No such file or directory" 2
  | busy => numbered "Device or resource busy" 16
  | alreadyExists => numbered "File exists" 17
  | notADirectory => numbered "Not a directory" 20
  | isADirectory => numbered "Is a directory" 21
  | nameTooLong => numbered "File name too long" 36
  | zeroInName => "file name contained an unexpected NUL byte"
  | notText => "stream did not contain valid UTF-8"
  | other number wording => numbered wording number

end DeclGen
