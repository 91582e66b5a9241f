import DeclGen.Unicode.Numeral

/-!
# Removing a qualifier

A package does not name itself in front of its own types. Where `qualifier.` starts a name in generated
text it is removed; in the middle of a longer name, or after a dot, it stays.
-/

namespace DeclGen.Qualifier

/-- A character after which no name can start: it belongs to a name or selects from one. -/
def joinsName (c : Char) : Bool := Unicode.isAlphanumeric c || c == '_' || c == '.'

/-- A name can start after the character, or at the start of a text. -/
def startsName (previous : Option Char) : Bool := !previous.any joinsName

/-- Reads a text from left to right. `previous` is the last character that was kept or read over, and
the next `skip` characters belong to an occurrence of `needle` that has been dealt with: they are kept
when `keep` is set. -/
def stripAfter (needle : List Char) (keep : Bool) :
    Option Char → Nat → List Char → List Char
  | _, _, [] => []
  | previous, skip + 1, c :: rest =>
    if keep then c :: stripAfter needle keep (some c) skip rest
    else stripAfter needle keep previous skip rest
  | previous, 0, c :: rest =>
    if needle.isPrefixOf (c :: rest) then
      if startsName previous then stripAfter needle false previous (needle.length - 1) rest
      else c :: stripAfter needle true (some c) (needle.length - 1) rest
    else c :: stripAfter needle keep (some c) 0 rest

/-- The text without the occurrences of `qualifier.` that start a name. An empty qualifier removes
nothing. -/
def strip (text qualifier : String) : String :=
  if qualifier == "" then text
  else String.ofList (stripAfter (qualifier.toList ++ ['.']) false none 0 text.toList)

end DeclGen.Qualifier
