import DeclGen.Unicode.Lowercase
import DeclGen.Unicode.Uppercase

/-!
# Words of a name

A name in camel case is a row of words, each of which begins with an upper-case character. They are
written in lower case.
-/

namespace DeclGen.Words

/-- Splits the rest of a name, given the word that has been begun, in lower case. -/
def splitAfter (current : List Char) : List Char → List (List Char)
  | [] => if current.isEmpty then [] else [current]
  | c :: rest =>
    if Unicode.isUppercase c && !current.isEmpty then
      current :: splitAfter (Unicode.toLower c) rest
    else splitAfter (current ++ Unicode.toLower c) rest

/-- The words of a name in lower case, split before each upper-case character. -/
def ofName (name : String) : List String := (splitAfter [] name.toList).map String.ofList

/-- The words joined by low lines. -/
def route (name : String) : String := "_".intercalate (ofName name)

/-- The words joined by spaces. -/
def description (name : String) : String := " ".intercalate (ofName name)

end DeclGen.Words
