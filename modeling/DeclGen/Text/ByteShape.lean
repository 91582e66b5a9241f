/-!
# Shapes of byte strings

A shape says which byte strings are meant: one byte out of a set, any number of bytes out of a set, one
shape after another, or one of two shapes. A shape is matched by following all the ways to match a
beginning of the bytes at once.
-/

namespace DeclGen.Text

/-- A set of bytes: those in one of the ranges, or those in none. -/
structure ByteSet where
  negated : Bool := false
  ranges : List (UInt8 × UInt8) := []
deriving DecidableEq, Repr

namespace ByteSet

/-- The byte is in the set. -/
def contains (s : ByteSet) (b : UInt8) : Bool :=
  s.negated != s.ranges.any fun (low, high) => low ≤ b && b ≤ high

/-- Every byte. -/
def any : ByteSet := { negated := true }

/-- One byte. -/
def only (b : UInt8) : ByteSet := { ranges := [(b, b)] }

/-- Every byte but one. -/
def except (b : UInt8) : ByteSet := { negated := true, ranges := [(b, b)] }

end ByteSet

/-- The bytes of a text. -/
def bytes (s : String) : List UInt8 := s.toUTF8.data.toList

/-- Which byte strings are meant. -/
inductive ByteShape
  | nothing
  | one (s : ByteSet)
  | many (s : ByteSet)
  | both (first second : ByteShape)
  | either (first second : ByteShape)
deriving DecidableEq, Repr

namespace ByteShape

/-- What may be left when any number of bytes of a set is taken. -/
def restsOfMany (s : ByteSet) : List UInt8 → List (List UInt8)
  | [] => [[]]
  | b :: rest => (b :: rest) :: if s.contains b then restsOfMany s rest else []

/-- What may be left when a beginning of this shape is taken. -/
def rests : ByteShape → List UInt8 → List (List UInt8)
  | nothing, input => [input]
  | one _, [] => []
  | one s, b :: rest => if s.contains b then [rest] else []
  | many s, input => restsOfMany s input
  | both first second, input => ((first.rests input).flatMap second.rests).eraseDups
  | either first second, input => (first.rests input ++ second.rests input).eraseDups

/-- The whole input has this shape. -/
def isMatch (p : ByteShape) (input : List UInt8) : Bool := (p.rests input).contains []

/-- Exactly these bytes. -/
def exactly (bs : List UInt8) : ByteShape := bs.foldr (fun b p => join (one (.only b)) p) nothing
where
  /-- One shape after another, where nothing adds nothing. -/
  join : ByteShape → ByteShape → ByteShape
    | nothing, p => p
    | p, nothing => p
    | p, q => both p q

/-- Shapes one after another. -/
def sequence (ps : List ByteShape) : ByteShape := ps.foldr exactly.join nothing

/-- One of some shapes; nothing, if there are none. -/
def choice : List ByteShape → ByteShape
  | [] => nothing
  | [p] => p
  | p :: ps => either p (choice ps)

end ByteShape

end DeclGen.Text
