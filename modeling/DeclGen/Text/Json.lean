/-!
# Printed JSON

Reports are printed as JSON over several lines: every item and every member on a line of its own, two
spaces deeper than what holds it. Texts are escaped only where JSON asks for it.
-/

namespace DeclGen.Text

/-- A JSON value as far as reports need it. The members of an object are printed as they come. -/
inductive Json
  | null
  | truth (b : Bool)
  | text (s : String)
  | list (items : List Json)
  | object (members : List (String × Json))

namespace Json

/-- A hexadecimal digit. -/
def hexDigit (n : Nat) : Char := (Nat.digitChar n)

/-- The written form of a character between the quotes. -/
def encodeChar (c : Char) : List Char :=
  match c with
  | '"' => ['\\', '"']
  | '\\' => ['\\', '\\']
  | '\x08' => ['\\', 'b']
  | '\t' => ['\\', 't']
  | '\n' => ['\\', 'n']
  | '\x0c' => ['\\', 'f']
  | '\r' => ['\\', 'r']
  | c =>
    if c.toNat < 0x20 then
      ['\\', 'u', '0', '0', hexDigit (c.toNat / 16), hexDigit (c.toNat % 16)]
    else [c]

/-- A text between quotes. -/
def quote (s : String) : String := String.ofList ('"' :: s.toList.flatMap encodeChar ++ ['"'])

/-- A new line at a depth. -/
def newLine (depth : Nat) : String := "\n" ++ String.ofList (List.replicate (2 * depth) ' ')

mutual

/-- The text of a value whose last line is at a depth. -/
def print (depth : Nat) : Json → String
  | null => "null"
  | truth b => if b then "true" else "false"
  | text s => quote s
  | list [] => "[]"
  | list (v :: vs) =>
    "[" ++ newLine (depth + 1) ++ print (depth + 1) v ++ printItems (depth + 1) vs ++ newLine depth
      ++ "]"
  | object [] => "\x7b\x7d"
  | object ((k, v) :: ms) =>
    "\x7b" ++ newLine (depth + 1) ++ quote k ++ ": " ++ print (depth + 1) v
      ++ printMembers (depth + 1) ms ++ newLine depth ++ "\x7d"

/-- The text of the items after the first one. -/
def printItems (depth : Nat) : List Json → String
  | [] => ""
  | v :: vs => "," ++ newLine depth ++ print depth v ++ printItems depth vs

/-- The text of the members after the first one. -/
def printMembers (depth : Nat) : List (String × Json) → String
  | [] => ""
  | (k, v) :: ms =>
    "," ++ newLine depth ++ quote k ++ ": " ++ print depth v ++ printMembers depth ms

end

/-- The whole text of a value. -/
def pretty (j : Json) : String := print 0 j

end Json

end DeclGen.Text
