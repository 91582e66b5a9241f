import DeclGen.Toml.Scalar

/-!
# Quoted texts

A text stands between double quotes, where a backslash begins an escape, or between single quotes, where
it is just a character. Three quotes enclose a text of several lines; a line feed right after the opening
ones is dropped, and in double quotes a backslash at the end of a line joins it with the next text.
-/

namespace DeclGen.Toml.Quoted

/-- A character that may stand for itself. Of the control characters only the tab may. -/
def isPlain (c : Char) : Bool := c == '\t' || (0x20 ≤ c.toNat && c.toNat != 0x7F)

/-- The character of a code point; halves of pairs are no characters. -/
def scalar? (n : Nat) : Option Char := if n.isValidChar then some (Char.ofNat n) else none

/-- The character that some hexadecimal digits stand for. -/
def codePoint? (digits : List Char) : Option Char := do
  let values ← digits.mapM Scalar.digitValue?
  scalar? (values.foldl (fun n d => 16 * n + d) 0)

/-- The character of a short escape. -/
def short? : Char → Option Char
  | 'b' => some '\x08'
  | 't' => some '\t'
  | 'n' => some '\n'
  | 'f' => some '\x0c'
  | 'r' => some '\r'
  | 'e' => some '\x1b'
  | '"' => some '"'
  | '\\' => some '\\'
  | _ => none

/-- The number of hexadecimal digits after an escape that names a code point. -/
def digitCount? : Char → Option Nat
  | 'x' => some 2
  | 'u' => some 4
  | 'U' => some 8
  | _ => none

/-- The character of an escape after its backslash, with the number of characters of the escape. -/
def escape? : List Char → Option (Char × Nat)
  | [] => none
  | mark :: rest =>
    match digitCount? mark with
    | none => (short? mark).map (·, 1)
    | some n =>
      if (rest.take n).length == n then (codePoint? (rest.take n)).map (·, n + 1) else none

/-- The text up to the closing double quote and what follows it, when the next `skip` characters
belong to an escape already. -/
def basic? : Nat → List Char → Option (List Char × List Char)
  | _, [] => none
  | skip + 1, _ :: rest => basic? skip rest
  | 0, c :: rest =>
    if c == '"' then some ([], rest)
    else if c == '\\' then do
      let (e, n) ← escape? rest
      let (text, left) ← basic? n rest
      return (e :: text, left)
    else if isPlain c then do
      let (text, left) ← basic? 0 rest
      return (c :: text, left)
    else none

/-- The text up to the closing single quote and what follows it. -/
def literal? : List Char → Option (List Char × List Char)
  | [] => none
  | c :: rest =>
    if c == '\'' then some ([], rest)
    else if isPlain c then do
      let (text, left) ← literal? rest
      return (c :: text, left)
    else none

/-- Where a text of several lines is being read: in the text, after a number of characters that are
done with already, after a backslash that has to end its line, or in the blanks that it joins. -/
inductive Place
  | text
  | done (count : Nat)
  | lineEnd
  | joining
deriving DecidableEq, Repr

/-- What three closing quotes leave: up to two more quotes belong to the text. -/
def closing (quote : Char) : List Char → List Char × List Char
  | a :: b :: rest =>
    if a == quote && b == quote then ([quote, quote], rest)
    else if a == quote then ([quote], b :: rest)
    else ([], a :: b :: rest)
  | [a] => if a == quote then ([quote], []) else ([], [a])
  | [] => ([], [])

/-- A text of several lines up to its closing quotes and what follows them. A line ends with a line
feed, whether a carriage return stands before it or not. -/
def several? (quote : Char) : Place → List Char → Option (List Char × List Char)
  | _, [] => none
  | .done (n + 1), _ :: rest => several? quote (if n == 0 then .text else .done n) rest
  | .lineEnd, c :: rest =>
    if c == ' ' || c == '\t' then several? quote .lineEnd rest
    else if c == '\n' then several? quote .joining rest
    else if c == '\r' && rest.head? == some '\n' then several? quote .lineEnd rest
    else none
  | .joining, c :: rest =>
    if c == ' ' || c == '\t' || c == '\n' then several? quote .joining rest
    else if c == '\r' && rest.head? == some '\n' then several? quote .joining rest
    else inText c rest (several? quote · rest)
  | _, c :: rest => inText c rest (several? quote · rest)
where
  /-- One character of the text itself; `go` reads on from the next one. -/
  inText (c : Char) (rest : List Char) (go : Place → Option (List Char × List Char)) :
      Option (List Char × List Char) :=
    if c == quote && rest.head? == some quote && rest.tail.head? == some quote then
      some (closing quote (rest.drop 2))
    else if c == '\\' && quote == '"' then
      match escape? rest with
      | some (e, n) => (go (.done n)).map fun (text, left) => (e :: text, left)
      | none => go .lineEnd
    else if c == '\n' || isPlain c then (go .text).map fun (text, left) => (c :: text, left)
    else if c == '\r' && rest.head? == some '\n' then go .text
    else none

/-- A text of several lines after its opening quotes. -/
def lines? (quote : Char) (cs : List Char) : Option (List Char × List Char) :=
  several? quote .text <|
    match cs with
    | '\n' :: rest => rest
    | '\r' :: '\n' :: rest => rest
    | rest => rest

/-- A text that begins with a quote, which may be three, and what follows it. -/
def read? : List Char → Option (String × List Char)
  | '"' :: '"' :: '"' :: rest => (lines? '"' rest).map fun (t, left) => (String.ofList t, left)
  | '\'' :: '\'' :: '\'' :: rest => (lines? '\'' rest).map fun (t, left) => (String.ofList t, left)
  | cs => line? cs
where
  /-- A text of one line. -/
  line? : List Char → Option (String × List Char)
    | '"' :: rest => (basic? 0 rest).map fun (t, left) => (String.ofList t, left)
    | '\'' :: rest => (literal? rest).map fun (t, left) => (String.ofList t, left)
    | _ => none

end DeclGen.Toml.Quoted
