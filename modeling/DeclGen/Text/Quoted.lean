import DeclGen.Unicode.Printable

/-!
# Quoted text in messages

A value shown in a message stands between double quotes. The quote and the backslash are escaped by a
backslash, four control characters have short forms, and every other character that does not show by
itself is written as its code point in braces.
-/

namespace DeclGen.Text.Quoted

/-- A code point in braces, in lower-case hexadecimal digits without padding. -/
def codePoint (c : Char) : List Char :=
  ['\\', 'u', '\x7b'] ++ Nat.toDigits 16 c.toNat ++ ['\x7d']

/-- The written form of one character between the quotes. -/
def encodeChar (c : Char) : List Char :=
  match c with
  | '"' => ['\\', '"']
  | '\\' => ['\\', '\\']
  | '\n' => ['\\', 'n']
  | '\r' => ['\\', 'r']
  | '\t' => ['\\', 't']
  | '\x00' => ['\\', '0']
  | c => if Unicode.isPrintable c then [c] else codePoint c

/-- The text between double quotes, every character in its written form. -/
def encode (s : String) : String :=
  String.ofList ('"' :: s.toList.flatMap encodeChar ++ ['"'])

end DeclGen.Text.Quoted
