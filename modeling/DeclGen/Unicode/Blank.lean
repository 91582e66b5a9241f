import DeclGen.Unicode.RangeSet

/-!
# White space

The property `White_Space`.
-/

namespace DeclGen.Unicode

/-- The ranges of `White_Space`, in increasing order. -/
def whiteSpace : RangeSet := ⟨
   [(0x9, 0xd), (0x20, 0x20), (0x85, 0x85), (0xa0, 0xa0), (0x1680, 0x1680), (0x2000, 0x200a),
    (0x2028, 0x2029), (0x202f, 0x202f), (0x205f, 0x205f), (0x3000, 0x3000)]⟩

/-- A character with the property `White_Space`. -/
def isBlank (c : Char) : Bool := whiteSpace.contains c

/-- The text without the white space at its end. -/
def trimEnd (s : List Char) : List Char := (s.reverse.dropWhile isBlank).reverse

/-- The text without the white space at its two ends. -/
def trim (s : List Char) : List Char := trimEnd (s.dropWhile isBlank)

end DeclGen.Unicode
