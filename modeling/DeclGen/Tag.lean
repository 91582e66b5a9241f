import DeclGen.Naming
import DeclGen.Text.Scan
import DeclGen.Unicode.Blank

/-!
# Struct tags

A tag is a text in which pairs `key:"value"` stand at any place. Keys are made of ASCII letters, digits
and `_`, `.`, `-` and begin with a letter or `_`; in a value a backslash and the character after it
belong together, so that an escaped quote does not end it. A value keeps its escapes.
-/

namespace DeclGen.Tag

/-- A character that may open a key. -/
def isKeyStart (c : Char) : Bool := c.isAlpha || c == '_'

/-- A character that may continue a key. -/
def isKeyPart (c : Char) : Bool := c.isAlphanum || c == '_' || c == '.' || c == '-'

/-- The value at the front of a text, up to the quote that closes it. A backslash takes the next
character with it, which may not be a line feed. -/
def value? : List Char → Option (List Char)
  | [] => none
  | '"' :: _ => some []
  | ['\\'] => none
  | '\\' :: c :: rest => if c == '\n' then none else (value? rest).map (['\\', c] ++ ·)
  | c :: rest => (value? rest).map (c :: ·)

/-- The pair that begins at the front of a text. -/
def pair : Text.Pattern (List Char × List Char)
  | [] => none
  | c :: rest =>
    if isKeyStart c then
      let key := c :: rest.takeWhile isKeyPart
      match rest.dropWhile isKeyPart with
      | ':' :: '"' :: body => (value? body).map fun v => ((key, v), key.length + v.length + 3)
      | _ => none
    else none

/-- The pairs of a tag, in order. -/
def pairs (tag : String) : List (List Char × List Char) := pair.matches tag.toList

/-- The value of the first pair with the key. -/
def lookup (tag key : String) : Option String :=
  ((pairs tag).find? (·.1 == key.toList)).map (String.ofList ·.2)

/-- The column that a tag names: the part of the column key's value before the first comma, without
white space around it. An empty name and `-` mean that there is none. -/
def column (tag : String) : Option String :=
  match lookup tag Naming.columnKey with
  | none => none
  | some value =>
    let name := String.ofList (Unicode.trim (value.toList.takeWhile (· != ',')))
    if name == "" || name == "-" then none else some name

end DeclGen.Tag
