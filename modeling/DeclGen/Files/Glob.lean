import DeclGen.Text.ByteShape

/-!
# Globs

A glob is a text that stands for paths. `?` is any byte and `*` any bytes; `[ab-d]` is one of some
characters and `[!ab-d]` none of them; `{a,b}` is one of two alternatives; a backslash takes the next
character as it is. A part `**` stands for any number of directories. Whether
`?` and `*` may stand for a slash, and whether a bracket that is never closed stands for itself, is up
to the user of the globs. Globs speak of the bytes of a path: a set of characters is a set of bytes.
-/

namespace DeclGen

open Text (ByteSet ByteShape)

/-- Why a text is no glob. -/
inductive GlobError
  | unclosedSet
  | emptyRange (low high : Char)
  | danglingEscape
  | unclosedGroup
  | unopenedGroup
deriving DecidableEq, Repr

namespace Glob

/-- What globs mean where users differ. -/
structure Options where
  /-- Only a slash, or `**`, stands for a slash. -/
  slashesStand : Bool := false
  /-- A bracket that is never closed stands for itself. -/
  openSets : Bool := false
deriving DecidableEq, Repr

/-! ## Pieces -/

/-- What a glob's text is made of. -/
inductive Piece
  | literal (c : Char)
  | escaped (c : Char)
  | one
  | star
  | set (negated : Bool) (ranges : List (Char × Char))
  | openGroup
  | closeGroup
  | comma
deriving DecidableEq, Repr

/-- The character that a piece ends in. -/
def Piece.lastChar : Piece → Char
  | literal c => c
  | escaped c => c
  | one => '?'
  | star => '*'
  | set .. => ']'
  | openGroup => '\x7b'
  | closeGroup => '\x7d'
  | comma => ','

/-- The ranges of a set in the order of reading backwards. A hyphen between two characters makes them
a range; `pending` says that a hyphen was read after a range. -/
structure SetState where
  ranges : List (Char × Char) := []
  pending : Bool := false
  isFirst : Bool := true

/-- The set after one more character. -/
def SetState.add (s : SetState) (c : Char) : Except GlobError SetState :=
  match s.pending, s.ranges with
  | true, (low, _) :: others =>
    if c < low then .error (.emptyRange low c) else .ok ⟨(low, c) :: others, false, false⟩
  | _, ranges =>
    if c == '-' && !s.isFirst then .ok ⟨ranges, true, false⟩
    else .ok ⟨(c, c) :: ranges, false, false⟩

/-- Reads a set up to its closing bracket: its ranges and the number of characters, or nothing if it is
never closed. A closing bracket that comes first is in the set, as is a hyphen that comes last. -/
def readSet (s : SetState) : List Char → Except GlobError (Option (List (Char × Char) × Nat))
  | [] => .ok none
  | c :: rest =>
    if c == ']' && !s.isFirst then
      .ok (some ((if s.pending then ('-', '-') :: s.ranges else s.ranges).reverse, 1))
    else do
      let read ← readSet (← s.add c) rest
      return read.map fun (ranges, n) => (ranges, n + 1)

/-- A set after its opening bracket, with the number of its characters. -/
def setAt (chars : List Char) : Except GlobError (Option (Piece × Nat)) :=
  match chars with
  | '!' :: rest | '^' :: rest =>
    (readSet {} rest).map (·.map fun (ranges, n) => (.set true ranges, n + 1))
  | rest => (readSet {} rest).map (·.map fun (ranges, n) => (.set false ranges, n))

/-- The pieces of a glob's text, when the next `skip` characters belong to a piece already. -/
def pieces (o : Options) : Nat → List Char → Except GlobError (List Piece)
  | _, [] => .ok []
  | skip + 1, _ :: rest => pieces o skip rest
  | 0, '\\' :: c :: rest => return .escaped c :: (← pieces o 1 (c :: rest))
  | 0, ['\\'] => .error .danglingEscape
  | 0, c :: rest =>
    match c with
    | '?' => return .one :: (← pieces o 0 rest)
    | '*' => return .star :: (← pieces o 0 rest)
    | '\x7b' => return .openGroup :: (← pieces o 0 rest)
    | '\x7d' => return .closeGroup :: (← pieces o 0 rest)
    | ',' => return .comma :: (← pieces o 0 rest)
    | '[' => do
      match ← setAt rest with
      | some (p, n) => return p :: (← pieces o n rest)
      | none =>
        if o.openSets then return .literal '[' :: (← pieces o 0 rest) else .error .unclosedSet
    | c => return .literal c :: (← pieces o 0 rest)

/-! ## Terms -/

/-- What a glob asks for in turn. Directories stand at the front, between two slashes, or at the end;
everything else is a shape of its own. -/
inductive Term
  | shape (p : ByteShape)
  | directoriesFirst
  | directoriesBetween
  | directoriesLast
deriving DecidableEq, Repr

/-- The slash as a byte. -/
def slash : UInt8 := 47

/-- What `?` stands for, and `*` any number of. -/
def Options.wild (o : Options) : ByteSet := if o.slashesStand then .except slash else .any

/-- The byte ranges of a range of characters. The bytes of the two ends stand for themselves, except
that the last of the low end and the first of the high end make a range. -/
def byteRanges (range : Char × Char) : List (UInt8 × UInt8) :=
  let low := Text.bytes range.1.toString
  let high := Text.bytes range.2.toString
  let alone (bs : List UInt8) := bs.map fun b => (b, b)
  if range.1 == range.2 then alone low
  else
    match low.getLast?, high with
    | some l, h :: rest => alone low.dropLast ++ (l, h) :: alone rest
    | _, _ => []

/-- The shape of a term. -/
def Term.toShape : Term → ByteShape
  | shape p => p
  | directoriesFirst =>
    .either (.either .nothing (.one (.only slash))) (.both (.many .any) (.one (.only slash)))
  | directoriesBetween =>
    .either (.one (.only slash))
      (.both (.one (.only slash)) (.both (.many .any) (.one (.only slash))))
  | directoriesLast => .both (.one (.only slash)) (.many .any)

/-- A group of alternatives while it is read: those that are complete, and the terms of the last one,
both backwards. -/
structure Group where
  complete : List ByteShape := []
  terms : List Term := []

namespace Group

/-- One more term. -/
def push (g : Group) (t : Term) : Group := { g with terms := t :: g.terms }

/-- The shape of the last alternative. -/
def lastShape (g : Group) : ByteShape := .sequence (g.terms.reverse.map Term.toShape)

/-- The last alternative is complete and another begins. -/
def next (g : Group) : Group := ⟨g.lastShape :: g.complete, []⟩

/-- The shape of a finished group. Alternatives that stand for nothing do not count. -/
def toShape (g : Group) : ByteShape :=
  .choice (g.next.complete.reverse.filter (· ≠ .nothing))

/-- Directories in place of the last term, unless that already stands for directories there. -/
def replaceLast (g : Group) (t : Term) : Group :=
  match g.terms with
  | .directoriesFirst :: _ | .directoriesLast :: _ => g
  | _ :: rest => { g with terms := t :: rest }
  | [] => g.push t

end Group

/-- The shape that pieces ask for, inside the groups `outer`, when the last character was `previous`. -/
def assemble (o : Options) :
    Option Char → Group → List Group → List Piece → Except GlobError ByteShape
  | _, g, outer, [] =>
    if !outer.isEmpty then .error .unclosedGroup
    else if g.terms = [.directoriesFirst] then .ok (.many .any)
    else .ok g.lastShape
  | previous, g, outer, .star :: .star :: rest =>
    let twice := (g.push (.shape (.many o.wild))).push (.shape (.many o.wild))
    if g.terms.isEmpty then
      match rest with
      | [] => assemble o (some '*') (g.push .directoriesFirst) outer []
      | .literal '/' :: rest => assemble o (some '/') (g.push .directoriesFirst) outer rest
      | rest => assemble o (some '*') twice outer rest
    else if previous != some '/'
        && (outer.isEmpty || previous != some ',' && previous != some '\x7b') then
      assemble o (some '*') twice outer rest
    else
      match rest with
      | [] => assemble o (some '*') (g.replaceLast .directoriesLast) outer []
      | .literal '/' :: rest =>
        assemble o (some '/') (g.replaceLast .directoriesBetween) outer rest
      | p :: rest =>
        if !outer.isEmpty && (p = .comma || p = .closeGroup) then
          assemble o (some '*') (g.replaceLast .directoriesLast) outer (p :: rest)
        else assemble o (some '*') twice outer (p :: rest)
  | _, g, outer, p :: rest =>
    let plain (s : ByteShape) := assemble o (some p.lastChar) (g.push (.shape s)) outer rest
    match p with
    | .literal c | .escaped c => plain (.exactly (Text.bytes c.toString))
    | .one => plain (.one o.wild)
    | .star => plain (.many o.wild)
    | .set negated ranges => plain (.one ⟨negated, ranges.flatMap byteRanges⟩)
    | .openGroup => assemble o (some '\x7b') {} (g :: outer) rest
    | .comma =>
      if outer.isEmpty then plain (.exactly (Text.bytes ","))
      else assemble o (some ',') g.next outer rest
    | .closeGroup =>
      match outer with
      | [] => .error .unopenedGroup
      | around :: outer => assemble o (some '\x7d') (around.push (.shape g.toShape)) outer rest

end Glob

/-- A glob, as the shape of the paths that it stands for. -/
structure Glob where
  shape : Text.ByteShape
deriving DecidableEq, Repr

namespace Glob

/-- Reads a glob. -/
def read (o : Options) (text : String) : Except GlobError Glob := do
  return ⟨← assemble o none {} [] (← pieces o 0 text.toList)⟩

/-- The glob stands for a path. -/
def isMatch (g : Glob) (path : String) : Bool := g.shape.isMatch (Text.bytes path)

end Glob

end DeclGen
