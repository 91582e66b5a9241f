/-!
# Beginnings and ends of texts

Names and columns are taken apart at a fixed beginning or end. Both cuts answer with what is left, or
with nothing when the text does not begin (end) that way.
-/

namespace DeclGen.Text

/-- What follows `head` at the start of `text`. -/
def afterHead? (head text : String) : Option String :=
  (head.toList.isPrefixOf? text.toList).map String.ofList

/-- What precedes `tail` at the end of `text`. -/
def beforeTail? (tail text : String) : Option String :=
  (tail.toList.isSuffixOf? text.toList).map String.ofList

/-- The text begins with `head`. -/
def beginsWith (head text : String) : Bool := head.toList.isPrefixOf text.toList

/-- The text ends with `tail`. -/
def finishesWith (tail text : String) : Bool := tail.toList.isSuffixOf text.toList

end DeclGen.Text
