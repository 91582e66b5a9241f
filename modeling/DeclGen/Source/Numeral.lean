/-!
# Number literals

The numbers of the declaration language: integers in four bases, fractions with exponents, hexadecimal
fractions, and any of them with an imaginary mark. A single low line may stand between two digits. Of
several readings the longest counts.
-/

namespace DeclGen.Source.Numeral

/-- A hexadecimal digit. -/
def isHex (c : Char) : Bool :=
  c.isDigit || ('a' ≤ c && c ≤ 'f') || ('A' ≤ c && c ≤ 'F')

/-- An octal digit. -/
def isOctal (c : Char) : Bool := '0' ≤ c && c ≤ '7'

/-- A binary digit. -/
def isBinary (c : Char) : Bool := c == '0' || c == '1'

/-- The number of characters of the digits at the front of a text, in which a low line may stand between
two digits. -/
def digits (isDigit : Char → Bool) : List Char → Nat
  | [] => 0
  | '_' :: _ => 0
  | [c] => if isDigit c then 1 else 0
  | c :: '_' :: d :: rest =>
    if isDigit c then if isDigit d then 2 + digits isDigit (d :: rest) else 1 else 0
  | c :: rest => if isDigit c then 1 + digits isDigit rest else 0

/-- The length of a digit sequence that must be there, counted after `before` characters. -/
def after (before : Nat) (n : Nat) : Option Nat := if n == 0 then none else some (before + n)

/-- Length of an optional low line. -/
def lowLine (s : List Char) : Nat := if s.head? == some '_' then 1 else 0

/-- An integer with a base mark of one of the given letters. -/
def based (marks : List Char) (isDigit : Char → Bool) : List Char → Option Nat
  | '0' :: m :: rest =>
    if marks.contains m then
      let gap := lowLine rest
      after (2 + gap) (digits isDigit (rest.drop gap))
    else none
  | _ => none

/-- An octal integer without a letter, or zero. -/
def zeroLed : List Char → Option Nat
  | '0' :: rest =>
    let gap := lowLine rest
    some ((after (1 + gap) (digits isOctal (rest.drop gap))).getD 1)
  | _ => none

/-- A decimal integer that does not begin with zero. -/
def plain : List Char → Option Nat
  | c :: rest => if c == '0' then none else after 0 (digits Char.isDigit (c :: rest))
  | [] => none

/-- An exponent with a mark of one of the given letters. -/
def exponent (marks : List Char) : List Char → Option Nat
  | m :: rest =>
    if marks.contains m then
      let sign := if rest.head? == some '+' || rest.head? == some '-' then 1 else 0
      after (1 + sign) (digits Char.isDigit (rest.drop sign))
    else none
  | [] => none

/-- A decimal fraction: digits with a point or an exponent, or a point with digits. -/
def fraction (s : List Char) : Option Nat :=
  let whole := digits Char.isDigit s
  match s.drop whole with
  | '.' :: rest =>
    let part := digits Char.isDigit rest
    if whole + part == 0 then none
    else
      let n := whole + 1 + part
      some (n + (exponent ['e', 'E'] (s.drop n)).getD 0)
  | rest => if whole == 0 then none else (exponent ['e', 'E'] rest).map (whole + ·)

/-- A hexadecimal fraction, which must have an exponent. -/
def hexFraction : List Char → Option Nat
  | '0' :: m :: rest =>
    if m == 'x' || m == 'X' then
      let gap := lowLine rest
      let whole := digits isHex (rest.drop gap)
      let n := if whole == 0 then 0 else gap + whole
      let mantissa := match rest.drop n with
        | '.' :: tail => n + 1 + digits isHex tail
        | _ => n
      if whole == 0 && mantissa ≤ n + 1 then none
      else (exponent ['p', 'P'] (rest.drop mantissa)).map (2 + mantissa + ·)
    else none
  | _ => none

/-- The lengths of all readings of a number at the front of a text. -/
def readings (s : List Char) : List Nat :=
  let real := [based ['x', 'X'] isHex s, based ['o', 'O'] isOctal s, based ['b', 'B'] isBinary s,
    zeroLed s, plain s, fraction s, hexFraction s].filterMap id
  let imaginary := (after 0 (digits Char.isDigit s)).toList ++ real
  real ++ (imaginary.filter fun n => s[n]? == some 'i').map (· + 1)

/-- The length of the number at the front of a text, if there is one. -/
def length? (s : List Char) : Option Nat := (readings s).max?

end DeclGen.Source.Numeral
