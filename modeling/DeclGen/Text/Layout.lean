/-!
# Lines and blocks

Generated text is laid out as lines, each at a depth of indentation. A `Block` is a list of lines and a
`Draft` is the text of a file under construction together with the depth at which its next line goes.
One line is rendered in one place, `Line.render`: the tabs of its depth, its text and a line feed; an
empty line gets no tabs.
-/

namespace DeclGen.Text

/-- A line of generated text and its depth. -/
structure Line where
  depth : Nat
  text : String
deriving DecidableEq, Repr

/-- The line as it stands in the file. An empty line has no trailing white space. -/
def Line.render (l : Line) : String :=
  if l.text.isEmpty then "\n" else String.ofList (List.replicate l.depth '\t') ++ l.text ++ "\n"

/-- Consecutive lines. -/
abbrev Block := List Line

namespace Block

/-- The block one level deeper. -/
def indent (b : Block) : Block := b.map fun l => { l with depth := l.depth + 1 }

/-- The text of the block. -/
def render (b : Block) : String := String.join (b.map Line.render)

/-- Lines at depth zero. -/
def ofTexts (texts : List String) : Block := texts.map (Line.mk 0)

/-- An empty line. -/
def gap : Block := [⟨0, ""⟩]

/-- A header, a body one level deeper and the closing line. -/
def enclose (header : String) (body : Block) (closing : String) : Block :=
  ⟨0, header⟩ :: indent body ++ [⟨0, closing⟩]

/-- A header that ends in an opening brace, a body one level deeper, and the closing brace. -/
def braces (header : String) (body : Block) : Block := enclose header body "\x7d"

end Block

/-- Pads `name` with spaces up to `width` characters. -/
def padTo (width : Nat) (name : String) : String :=
  name ++ String.ofList (List.replicate (width - name.length) ' ')

/-- The width of a column of names: the size in bytes of the longest one. -/
def columnWidth (pairs : List (String × String)) : Nat :=
  pairs.foldl (fun w p => max w p.1.utf8ByteSize) 0

/-- Names and types as struct fields, the types after one common column of names. The column is as wide
as the largest name in bytes, and a name is padded to it by counting characters. -/
def alignedFields (pairs : List (String × String)) : List String :=
  pairs.map fun p => padTo (columnWidth pairs) p.1 ++ " " ++ p.2

/-- A file under construction: the text so far and the depth of the next line. -/
structure Draft where
  text : String := ""
  depth : Nat := 0
deriving DecidableEq, Repr

namespace Draft

/-- The draft of an empty file. -/
def empty : Draft := {}

/-- Nothing has been written yet. -/
def isEmpty (d : Draft) : Bool := d.text.isEmpty

/-- Appends text as it is, whatever the depth. -/
def raw (d : Draft) (s : String) : Draft := { d with text := d.text ++ s }

/-- Appends a line at the current depth. -/
def line (d : Draft) (s : String) : Draft := d.raw (Line.render ⟨d.depth, s⟩)

/-- Appends an empty line. -/
def blank (d : Draft) : Draft := d.raw "\n"

/-- Goes one level deeper. -/
def indent (d : Draft) : Draft := { d with depth := d.depth + 1 }

/-- Goes back one level; at depth zero it stays there. -/
def dedent (d : Draft) : Draft := { d with depth := d.depth - 1 }

/-- Writes the header of a brace block and goes one level deeper. -/
def openBlock (d : Draft) (header : String) : Draft := (d.line header).indent

/-- Goes back one level and writes the closing brace. -/
def closeBlock (d : Draft) : Draft := d.dedent.line "\x7d"

/-- Appends struct fields with their types in one column. -/
def fields (d : Draft) (pairs : List (String × String)) : Draft :=
  (alignedFields pairs).foldl line d

/-- Appends a block as it is, whatever the depth. -/
def block (d : Draft) (b : Block) : Draft := d.raw b.render

end Draft

/-- The indefinite article of a word, by its first letter. -/
def article (word : String) : String :=
  match word.toList.head?.map Char.toLower with
  | some 'a' | some 'e' | some 'i' | some 'o' | some 'u' => "an"
  | _ => "a"

end DeclGen.Text
