import DeclGen.Toml.Value

/-!
# Bare scalars

Truth values, numbers and points in time stand without quotes. Numbers have to fit into 128 bits; their
digits may be grouped by single underscores between two digits.
-/

namespace DeclGen.Toml.Scalar

/-- A decimal digit. -/
def isDigit (c : Char) : Bool := '0' ≤ c && c ≤ '9'

/-- The value of a hexadecimal digit. -/
def digitValue? (c : Char) : Option Nat :=
  if isDigit c then some (c.toNat - '0'.toNat)
  else if 'a' ≤ c && c ≤ 'f' then some (c.toNat - 'a'.toNat + 10)
  else if 'A' ≤ c && c ≤ 'F' then some (c.toNat - 'A'.toNat + 10)
  else none

/-- The digits of a row in which single underscores may stand between two digits. -/
def ungroup? : List Char → Option (List Char)
  | [] => some []
  | c :: '_' :: d :: rest => do
    if c == '_' || d == '_' then none else return c :: (← ungroup? (d :: rest))
  | c :: rest => do if c == '_' then none else return c :: (← ungroup? rest)

/-- The value of a row of digits to a base, at least one. -/
def natural? (base : Nat) (cs : List Char) : Option Nat := do
  let digits ← ungroup? cs
  if digits.isEmpty then none
  else
    let values ← digits.mapM digitValue?
    if values.all (· < base) then some (values.foldl (fun n d => base * n + d) 0) else none

/-- A decimal number without leading zeros. -/
def decimal? (cs : List Char) : Option Nat :=
  match cs with
  | '0' :: _ :: _ => none
  | _ => natural? 10 cs

/-- The sign of a number, if it has one, and the rest. -/
def splitSign : List Char → Option Char × List Char
  | '+' :: rest => (some '+', rest)
  | '-' :: rest => (some '-', rest)
  | rest => (none, rest)

/-- The text is an integer of 128 bits, with or without a sign. -/
def isInteger (cs : List Char) : Bool :=
  match splitSign cs with
  | (none, '0' :: 'x' :: digits) => (natural? 16 digits).any (· < Nat.pow 2 128)
  | (none, '0' :: 'o' :: digits) => (natural? 8 digits).any (· < Nat.pow 2 128)
  | (none, '0' :: 'b' :: digits) => (natural? 2 digits).any (· < Nat.pow 2 128)
  | (some '-', digits) => (decimal? digits).any (· ≤ Nat.pow 2 127)
  | (_, digits) => (decimal? digits).any (· < Nat.pow 2 128)

/-- The text is an exponent with its mark. -/
def isExponent : List Char → Bool
  | 'e' :: rest | 'E' :: rest => (natural? 10 (splitSign rest).2).isSome
  | _ => false

/-- The text is a number with a fraction or an exponent, or one of the special numbers. -/
def isFloat (cs : List Char) : Bool :=
  let unsigned := (splitSign cs).2
  let (whole, rest) := unsigned.span fun c => isDigit c || c == '_'
  unsigned == ['i', 'n', 'f'] || unsigned == ['n', 'a', 'n'] ||
    (decimal? whole).isSome &&
      match rest with
      | '.' :: rest =>
        let (fraction, exponent) := rest.span fun c => isDigit c || c == '_'
        (natural? 10 fraction).isSome && (exponent.isEmpty || isExponent exponent)
      | exponent => isExponent exponent

/-! ## Points in time -/

/-- The number that a row of digits of a fixed length begins with, and the rest. -/
def fixed? (length : Nat) (cs : List Char) : Option (Nat × List Char) := do
  let digits := cs.take length
  if digits.length == length && digits.all isDigit then
    return (← natural? 10 digits, cs.drop length)
  else none

/-- A leap year has 29 days in February. -/
def isLeapYear (year : Nat) : Bool := year % 4 == 0 && (year % 100 != 0 || year % 400 == 0)

/-- The number of days of a month. -/
def daysIn (year month : Nat) : Nat :=
  if month == 2 then if isLeapYear year then 29 else 28
  else if [4, 6, 9, 11].contains month then 30
  else 31

/-- What follows a date. -/
def afterDate? (cs : List Char) : Option (List Char) := do
  let (year, rest) ← fixed? 4 cs
  let (month, rest) ← fixed? 2 (← afterChar? '-' rest)
  let (day, rest) ← fixed? 2 (← afterChar? '-' rest)
  if 1 ≤ month && month ≤ 12 && 1 ≤ day && day ≤ daysIn year month then some rest else none
where
  /-- What follows a character. -/
  afterChar? (c : Char) : List Char → Option (List Char)
    | d :: rest => if d == c then some rest else none
    | [] => none

/-- What follows a time of day: hours and minutes, perhaps seconds and a fraction of a second. -/
def afterTime? (cs : List Char) : Option (List Char) := do
  let (hour, rest) ← fixed? 2 cs
  let (minute, rest) ← fixed? 2 (← afterDate?.afterChar? ':' rest)
  if 23 < hour || 59 < minute then none
  else
    match rest with
    | ':' :: rest =>
      let (second, rest) ← fixed? 2 rest
      if 60 < second then none
      else
        match rest with
        | '.' :: c :: rest => if isDigit c then some (rest.dropWhile isDigit) else none
        | rest => some rest
    | rest => some rest

/-- The text is a difference to universal time, or empty. -/
def isOffset : List Char → Bool
  | [] | ['Z'] | ['z'] => true
  | '+' :: rest | '-' :: rest =>
    match fixed? 2 rest with
    | some (hours, ':' :: rest) =>
      hours ≤ 23 && match fixed? 2 rest with
        | some (minutes, []) => minutes ≤ 59
        | _ => false
    | _ => false
  | _ => false

/-- The text is a date, a time of day, or both with a letter or a blank between them. -/
def isMoment (cs : List Char) : Bool :=
  match afterDate? cs with
  | some [] => true
  | some (c :: rest) => (c == 'T' || c == 't' || c == ' ') && (afterTime? rest).any isOffset
  | none => afterTime? cs == some []

/-- The value of a text without quotes. -/
def ofText? (cs : List Char) : Option Value :=
  if cs == "true".toList then some (.truth true)
  else if cs == "false".toList then some (.truth false)
  else if isInteger cs || isFloat cs then some .number
  else if isMoment cs then some .moment
  else none

end DeclGen.Toml.Scalar
