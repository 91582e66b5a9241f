/-!
# Sets of characters

A Unicode property is a set of characters, kept as the list of its maximal ranges of code points in
increasing order. The sets are those of version 17.0, but for the characters of names: these belong to
the grammar of the declaration language and stand as version 15.0 has them.
-/

namespace DeclGen.Unicode

/-- A set of characters, as ranges of code points with both ends included, in increasing order. -/
structure RangeSet where
  ranges : List (Nat × Nat)

namespace RangeSet

/-- Looks `n` up among ranges in increasing order; the first range that begins beyond `n` ends the
search. -/
def search (n : Nat) : List (Nat × Nat) → Bool
  | [] => false
  | (lo, hi) :: rest => if n < lo then false else n ≤ hi || search n rest

/-- Membership of a character. -/
def contains (s : RangeSet) (c : Char) : Bool := search c.toNat s.ranges

end RangeSet

end DeclGen.Unicode
