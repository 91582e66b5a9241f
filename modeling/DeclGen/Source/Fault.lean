/-!
# Faults of source texts

A text that does not fit the grammar is refused with the place of its first fault. Where that is depends on
how the parser goes on behind a fault, and the parser is no part of the program: the tree that it makes of
such a text is given (`ErrorRecovery`), and what is proved about the program holds for any. The program
itself looks for the first faulty node of the tree and tells its line, its column and its text.
-/

namespace DeclGen

namespace Source

/-- A node of the tree of a text: whether it stands for something that has no place in the text, or for
something that the text lacks; where its text begins and ends, in characters; and its parts, in order. -/
inductive SyntaxNode
  | mk (faulty : Bool) (start stop : Nat) (parts : List SyntaxNode)

namespace SyntaxNode

/-- The node is faulty, or a node below it is. -/
def hasFault : SyntaxNode → Bool
  | mk faulty _ _ parts => faulty || anyHasFault parts
where
  /-- One of the nodes has a fault. -/
  anyHasFault : List SyntaxNode → Bool
    | [] => false
    | n :: rest => hasFault n || anyHasFault rest

/-- The first faulty node, a node before its parts. Parts without a fault are passed over. -/
def firstFault? : SyntaxNode → Option SyntaxNode
  | mk faulty start stop parts =>
    if faulty then some (mk faulty start stop parts) else firstFaultIn? parts
where
  /-- The first faulty node of a row of nodes. -/
  firstFaultIn? : List SyntaxNode → Option SyntaxNode
    | [] => none
    | n :: rest =>
      if n.hasFault then (firstFault? n).orElse fun () => firstFaultIn? rest else firstFaultIn? rest

end SyntaxNode

/-- What is told of a faulty node: its line and its column, both counted from one, the column in bytes,
and the beginning of its text. -/
structure Fault where
  line : Nat
  column : Nat
  snippet : String
deriving DecidableEq, Repr

namespace Fault

/-- The number of characters that are told of the text of a node. -/
def snippetLength : Nat := 32

/-- The last line of a text. -/
def lastLine (text : List Char) : String := String.ofList (text.reverse.takeWhile (· != '\n')).reverse

/-- The fault that a node of a text is. -/
def ofNode (source : String) : SyntaxNode → Fault
  | .mk _ start stop _ =>
    let front := source.toList.take start
    { line := front.count '\n' + 1
      column := (lastLine front).utf8ByteSize + 1
      snippet := String.ofList ((source.toList.extract start stop).take snippetLength) }

end Fault

end Source

/-- The parser, as far as it is asked about texts that do not fit the grammar: the tree that it makes of
such a text. -/
class ErrorRecovery where
  tree : String → Source.SyntaxNode

/-- A parser that does not go on behind a fault: all of the text is one faulty node. -/
instance : ErrorRecovery := ⟨fun source => .mk true 0 source.length []⟩

/-- The first fault of a text. A tree without a faulty node counts as faulty itself. -/
def Source.Fault.ofText [ErrorRecovery] (source : String) : Fault :=
  let root := ErrorRecovery.tree source
  ofNode source (root.firstFault?.getD root)

end DeclGen
