import DeclGen.Source.Token

/-!
# Phrases

Where only the extent of a part of the source matters, its grammar is given as data. A `Phrase` is an
expression over terminals with ordered choice: an alternative is taken when the ones before it do not
fit. A `Grammar` says what each of its rules stands for, and `Phrase.run` reads a phrase from the front
of a row of tokens and answers with what is left.

A line feed ends a statement wherever the statement could end, and is white space elsewhere. A phrase
therefore marks each place where it goes on although it could end with `onLine`: where line feeds count,
the next token must then stand on the same line.
-/

namespace DeclGen.Source

/-- How the surroundings of a phrase are read: whether a line feed can end it, and whether a brace after
a type name opens a literal rather than a block. -/
structure Mode where
  lines : Bool
  literals : Bool
deriving DecidableEq, Repr

namespace Mode

/-- Between statements and between the parts of a record or an interface. -/
def block : Mode := ⟨true, true⟩

/-- Between parentheses or brackets, or in a literal. -/
def inside : Mode := ⟨false, true⟩

/-- In the header of a statement, before its block. -/
def header : Mode := ⟨false, false⟩

end Mode

/-- A class of tokens. -/
inductive Terminal
  | keyword (text : String)
  | symbol (text : String)
  | oneOf (symbols : List String)
  | someName
  | named (text : String)
  | number
  | rune
  | text
deriving DecidableEq, Repr

/-- A lexeme belongs to a class. -/
def Terminal.accepts : Terminal → Lexeme → Bool
  | keyword k, .keyword t => k == t
  | symbol s, .symbol t => s == t
  | oneOf ss, .symbol t => ss.contains t
  | someName, .name _ => true
  | named n, .name t => n == t
  | number, .number _ => true
  | rune, .rune _ => true
  | text, .text _ => true
  | _, _ => false

/-- A phrase over the rules `ρ`. -/
inductive Phrase (ρ : Type)
  /-- One token of a class. -/
  | token (t : Terminal)
  /-- All phrases one after the other. -/
  | all (phrases : List (Phrase ρ))
  /-- The first phrase that fits. -/
  | first (phrases : List (Phrase ρ))
  /-- The phrase, or nothing. -/
  | optional (phrase : Phrase ρ)
  /-- The phrase as often as it fits. -/
  | many (phrase : Phrase ρ)
  /-- The phrase, from a token on the same line where line feeds count. -/
  | onLine (phrase : Phrase ρ)
  /-- The phrase, with other surroundings. -/
  | within (mode : Mode) (phrase : Phrase ρ)
  /-- Nothing, where the phrase would fit. -/
  | ahead (phrase : Phrase ρ)
  /-- Nothing, where a brace opens a literal. -/
  | literals
  /-- A terminator: a line feed, a semicolon or a NUL. -/
  | terminator
  /-- What a rule stands for. -/
  | rule (r : ρ)

/-- What each rule stands for. -/
abbrev Grammar (ρ : Type) := ρ → Phrase ρ

/-- Reads a terminator. A line feed takes precedence over a token after it. -/
def terminator? : List Token → Option (List Token)
  | [] => none
  | t :: rest =>
    if t.newLine then some (t :: rest)
    else if t.lexeme == .symbol ";" || t.lexeme == .nul then some rest
    else none

namespace Phrase

variable {ρ : Type}

/-- Reads a phrase and answers with the tokens after it. `fuel` bounds the depth of the reading. -/
def run (g : Grammar ρ) : Nat → Phrase ρ → Mode → List Token → Option (List Token)
  | 0, _, _, _ => none
  | fuel + 1, p, m, s =>
    match p with
    | token t =>
      match s with
      | u :: rest => if t.accepts u.lexeme then some rest else none
      | [] => none
    | all ps => ps.foldlM (fun s p => run g fuel p m s) s
    | first ps => ps.findSome? fun p => run g fuel p m s
    | optional p => some ((run g fuel p m s).getD s)
    | many p =>
      match run g fuel p m s with
      | some rest => run g fuel (many p) m rest
      | none => some s
    | onLine p =>
      if m.lines && (s.head?.any (·.newLine)) then none else run g fuel p m s
    | within m' p => run g fuel p m' s
    | ahead p => if (run g fuel p m s).isSome then some s else none
    | literals => if m.literals then some s else none
    | terminator => terminator? s
    | rule r => run g fuel (g r) m s

/-- The depth that a reading of the tokens may need. Between two tokens that are read, a reading goes
down through fewer than `depthPerToken` phrases. -/
def depthPerToken : Nat := 100

/-- Reads a phrase from the front of the tokens. -/
def read? (g : Grammar ρ) (p : Phrase ρ) (m : Mode) (s : List Token) : Option (List Token) :=
  p.run g (depthPerToken * (s.length + 1)) m s

end Phrase

end DeclGen.Source
