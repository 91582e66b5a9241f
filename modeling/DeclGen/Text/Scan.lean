/-!
# Leftmost matches

A text is searched for a pattern from left to right; matches do not overlap. A pattern is a function
that answers, for what is left of the text, the value of a match that begins right there and the number
of its characters.
-/

namespace DeclGen.Text

/-- A pattern: the match that begins at the front of a text, with its length. -/
abbrev Pattern (α : Type) := List Char → Option (α × Nat)

/-- The values of the leftmost matches, when the next `skip` characters belong to a match already. -/
def Pattern.matchesAfter {α : Type} (p : Pattern α) : Nat → List Char → List α
  | _, [] => []
  | skip + 1, _ :: rest => p.matchesAfter skip rest
  | 0, c :: rest =>
    match p (c :: rest) with
    | some (a, n) => a :: p.matchesAfter (n - 1) rest
    | none => p.matchesAfter 0 rest

/-- The values of the leftmost matches that do not overlap. -/
def Pattern.matches {α : Type} (p : Pattern α) (s : List Char) : List α := p.matchesAfter 0 s

end DeclGen.Text
