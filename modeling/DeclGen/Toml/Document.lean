import DeclGen.Toml.Quoted

/-!
# Documents

A document is read line by line: a header opens a table, a key with a value adds to the open one. Blanks
and comments mean nothing, and a byte order mark may come first. Between brackets and braces a value may
go on over several lines.
-/

namespace DeclGen.Toml

/-- Reads a value from the front of a text. -/
abbrev Reader := StateT (List Char) Option

namespace Reader

/-- The next character is what is expected. -/
def char (c : Char) : Reader Unit
  | d :: rest => if c == d then some ((), rest) else none
  | [] => none

/-- Passes over blanks in a line. -/
def blanks : Reader Unit := fun cs => some ((), cs.dropWhile fun c => c == ' ' || c == '\t')

/-- Passes over a comment up to the end of the line. -/
def comment : Reader Unit := fun cs =>
  match cs with
  | '#' :: rest => some ((), (rest.dropWhile Quoted.isPlain))
  | cs => some ((), cs)

/-- The end of a line or of the text. -/
def lineEnd : Reader Unit
  | [] => some ((), [])
  | '\n' :: rest | '\r' :: '\n' :: rest => some ((), rest)
  | _ => none

/-- Passes over blanks, comments and line ends, when a comment is being read or not. -/
def skip : Bool → List Char → List Char
  | _, [] => []
  | inComment, c :: rest =>
    if c == '\n' then skip false rest
    else if c == '\r' && rest.head? == some '\n' then skip false rest
    else if inComment && Quoted.isPlain c then skip true rest
    else if !inComment && (c == ' ' || c == '\t') then skip false rest
    else if !inComment && c == '#' then skip true rest
    else c :: rest

/-- Passes over blanks, comments and line ends. -/
def gap : Reader Unit := fun cs => some ((), skip false cs)

/-! ## Keys -/

/-- A character of a key without quotes. -/
def isBareKey (c : Char) : Bool :=
  Scalar.isDigit c || 'a' ≤ c && c ≤ 'z' || 'A' ≤ c && c ≤ 'Z' || c == '_' || c == '-'

/-- A part of a key. -/
def keyPart : Reader String := fun cs =>
  match cs.span isBareKey with
  | ([], rest) => Quoted.read?.line? rest
  | (bare, rest) => some (String.ofList bare, rest)

/-- A key with dots, at most as many as the first number says: the path and the last part. -/
def keyWithin : Nat → Reader (List String × String)
  | 0 => failure
  | limit + 1 => do
    blanks
    let part ← keyPart
    blanks
    (do char '.'; let (path, last) ← keyWithin limit; return (part :: path, last)) <|>
      return ([], part)

/-- A key with dots. -/
def key : Reader (List String × String) := do keyWithin ((← get).length + 1)

/-! ## Values -/

/-- A character that ends a value without quotes. -/
def isEnd (c : Char) : Bool := [' ', '\t', '\r', '\n', ',', ']', '\x7d', '#'].contains c

/-- A value without quotes. A time of day may follow a date after a blank. -/
def bareValue : Reader Value := fun cs =>
  let (text, rest) := cs.span (!isEnd ·)
  let (text, rest) :=
    match rest with
    | ' ' :: d :: more =>
      if Scalar.afterDate? text == some [] && Scalar.isDigit d then
        let (time, left) := (d :: more).span (!isEnd ·)
        (text ++ ' ' :: time, left)
      else (text, rest)
    | _ => (text, rest)
  (Scalar.ofText? text).map (·, rest)

mutual

/-- A value. The number bounds how deep and how far it goes. -/
def value : Nat → Reader Value
  | 0 => failure
  | limit + 1 => fun cs =>
    match cs with
    | '[' :: rest => (items limit [] rest).map fun (vs, left) => (.array vs, left)
    | '\x7b' :: rest =>
      (members limit ⟨.braces, []⟩ rest).map fun (t, left) => (.table .braces t.entries, left)
    | '"' :: _ | '\'' :: _ => (Quoted.read? cs).map fun (s, left) => (.text s, left)
    | _ => bareValue cs

/-- The values of an array after those already read, up to its closing bracket. -/
def items : Nat → List Value → Reader (List Value)
  | 0, _ => failure
  | limit + 1, done => do
    gap
    (do char ']'; return done) <|> do
      let v ← value limit
      gap
      (do char ','; items limit (done ++ [v])) <|> (do char ']'; return done ++ [v])

/-- The keys and values between braces after those already read, up to the closing brace. -/
def members : Nat → Table → Reader Table
  | 0, _ => failure
  | limit + 1, done => do
    gap
    (do char '\x7d'; return done) <|> do
      let (path, last) ← key
      char '='
      blanks
      let v ← value limit
      match done.addAt? path last v with
      | none => failure
      | some done =>
        gap
        (do char ','; members limit done) <|> (do char '\x7d'; return done)

end

/-! ## Lines -/

/-- A header. -/
def header : Reader Header := do
  char '['
  (do
    char '['
    let (path, last) ← key
    char ']'
    char ']'
    return ⟨path, last, true⟩) <|> do
      let (path, last) ← key
      char ']'
      return ⟨path, last, false⟩

/-- What a line adds to a document. -/
def line (d : Draft) : Reader Draft := fun cs =>
  match cs with
  | '[' :: _ => do
    let (h, rest) ← header cs
    return (← d.openHeader? h, rest)
  | [] | '#' :: _ | '\n' :: _ | '\r' :: _ => some (d, cs)
  | _ => do
    let ((path, last), rest) ← key cs
    let ((), rest) ← char '=' rest
    let ((), rest) ← blanks rest
    let (v, rest) ← value (2 * rest.length + 2) rest
    return (← d.add? path last v, rest)

/-- The rest of a document, at most as many lines as the first number says. -/
def document : Nat → Draft → Reader Draft
  | 0, _ => failure
  | limit + 1, d => do
    blanks
    let d ← line d
    blanks
    comment
    lineEnd
    if (← get).isEmpty then return d else document limit d

end Reader

/-- The table that a document describes. -/
def read? (text : String) : Option Table := do
  let cs := match text.toList with
    | '\ufeff' :: rest => rest
    | cs => cs
  let (d, _) ← Reader.document (cs.length + 1) {} cs
  d.close?

end DeclGen.Toml
