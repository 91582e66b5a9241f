import DeclGen.Proofs.Source.Lexed
import DeclGen.Proofs.Unicode
import DeclGen.Text.Layout
import Mathlib.Data.List.Forall2
import Mathlib.Tactic.Lemma

/-!
# How a row of tokens is spelled

What the readers look at in a token is its lexeme and whether a line ended in front of it: its mark. A
text spells a row of lexemes (`Spells`) when the lexer cuts it into that row and blanks, whatever text is
put behind it up to a first character that could still belong to it. Spelled texts are put together
piece by piece, and lines into blocks (`marks?_render`).
-/

namespace DeclGen.Source

/-- What a reader sees of a token: the lexeme, and whether a line ended in front of it. -/
abbrev Mark := Lexeme × Bool

/-- The mark of a token. -/
def Token.mark (t : Token) : Mark := (t.lexeme, t.newLine)

/-- A row of lexemes on one line; in front of the first one a line ended if `newLine`. -/
def onOneLine (newLine : Bool) : List Lexeme → List Mark
  | [] => []
  | l :: row => (l, newLine) :: row.map (·, false)

/-- Whether a line has ended in front of what follows a row on one line. -/
def stillNew (newLine : Bool) (row : List Lexeme) : Bool := newLine && row.isEmpty

lemma onOneLine_append (newLine : Bool) (row row' : List Lexeme) :
    onOneLine newLine (row ++ row') =
      onOneLine newLine row ++ onOneLine (stillNew newLine row) row' := by
  cases row with
  | nil => simp [onOneLine, stillNew]
  | cons l row =>
    cases row' <;> simp [onOneLine, stillNew]

lemma stillNew_append (newLine : Bool) (row row' : List Lexeme) :
    stillNew newLine (row ++ row') = stillNew (stillNew newLine row) row' := by
  cases row <;> cases row' <;> simp [stillNew]

/-! ## The marks of a text -/

namespace Lexer

/-- The marks of the tokens of a row of pieces. -/
def marksAfter (newLine : Bool) : List Piece → List Mark
  | [] => [(.finish, newLine)]
  | .lexeme l :: rest => (l, newLine) :: marksAfter false rest
  | .blank c :: rest => marksAfter (newLine || c == '\n') rest
  | .comment _ :: rest => marksAfter newLine rest

lemma map_mark_tokensAfter (gap : List Char) (newLine : Bool) (pieces : List Piece) :
    (tokensAfter gap newLine pieces).map Token.mark = marksAfter newLine pieces := by
  induction pieces generalizing gap newLine with
  | nil => rfl
  | cons piece rest ih =>
    cases piece with
    | lexeme l => simp [tokensAfter, marksAfter, ih, Token.mark]
    | blank c => exact ih _ _
    | comment text => exact ih _ _

/-- The marks of the tokens of a text, after a line has ended or not. -/
def marks? (newLine : Bool) (text : List Char) : Option (List Mark) :=
  (piecesAfter 0 text).map (marksAfter newLine)

lemma piecesAfter_append {front : List Char} (rest : List Char) :
    piecesAfter front.length (front ++ rest) = piecesAfter 0 rest := by
  induction front with
  | nil => rfl
  | cons c front ih => exact ih

/-- A piece at the front of a text, before the pieces of what is behind it. -/
lemma piecesAfter_cons {c : Char} {front rest : List Char} {p : Piece}
    (h : piece? (c :: front ++ rest) = some (p, front.length + 1)) :
    piecesAfter 0 (c :: front ++ rest) = (piecesAfter 0 rest).map (p :: ·) := by
  rw [List.cons_append] at h ⊢
  rw [piecesAfter, h]
  exact congrArg (Option.map (p :: ·)) (piecesAfter_append rest)

lemma marks?_nil (newLine : Bool) : marks? newLine [] = some [(.finish, newLine)] := rfl

lemma piece?_blank {c : Char} (h : isBlank c) (rest : List Char) :
    piece? (c :: rest) = some (.blank c, 1) := by
  have hsix : c = ' ' ∨ c = '\t' ∨ c = '\n' ∨ c = '\x0b' ∨ c = '\x0c' ∨ c = '\r' := by
    simpa [isBlank, or_assoc] using h
  rcases hsix with rfl | rfl | rfl | rfl | rfl | rfl <;> rfl

lemma marks?_blank {c : Char} (h : isBlank c) (newLine : Bool) (rest : List Char) :
    marks? newLine (c :: rest) = marks? (newLine || c == '\n') rest := by
  have hcut : piecesAfter 0 (c :: [] ++ rest) = (piecesAfter 0 rest).map (.blank c :: ·) :=
    piecesAfter_cons (piece?_blank h rest)
  rw [List.cons_append, List.nil_append] at hcut
  rw [marks?, marks?, hcut, Option.map_map]
  rfl

lemma marks?_lexeme {c : Char} {front rest : List Char} {l : Lexeme}
    (h : piece? (c :: front ++ rest) = some (.lexeme l, front.length + 1)) (newLine : Bool) :
    marks? newLine (c :: front ++ rest) = (marks? false rest).map ((l, newLine) :: ·) := by
  rw [marks?, marks?, piecesAfter_cons h, Option.map_map, Option.map_map]
  rfl

end Lexer

open Lexer

/-! ## Spelled rows -/

/-- The text begins with a character of the class. -/
def Opens (text : String) (class' : Char → Prop) : Prop :=
  ∃ c rest, text.toList = c :: rest ∧ class' c

/-- The text is cut into the row and spaces, whatever is put behind it, as long as that begins with a
character of the class `border`. -/
def Spells (text : String) (row : List Lexeme) (border : Char → Prop) : Prop :=
  ∀ newLine rest, (∀ c ∈ rest.head?, border c) →
    marks? newLine (text.toList ++ rest) =
      (marks? (stillNew newLine row) rest).map (onOneLine newLine row ++ ·)

/-- Any character. -/
def anyChar (_ : Char) : Prop := True

/-- A character that ends a word before it. -/
def endsWord (c : Char) : Prop := Unicode.isNamePart c = false

instance : DecidablePred endsWord := fun c => inferInstanceAs (Decidable (Unicode.isNamePart c = false))

lemma Opens.append {text : String} {class' : Char → Prop} (h : Opens text class') (behind : String) :
    Opens (text ++ behind) class' := by
  obtain ⟨c, rest, hlist, hc⟩ := h
  exact ⟨c, rest ++ behind.toList, by simp [hlist], hc⟩

lemma Opens.mono {text : String} {class' wider : Char → Prop} (h : Opens text class')
    (hclass : ∀ c, class' c → wider c) : Opens text wider := by
  obtain ⟨c, rest, hlist, hc⟩ := h
  exact ⟨c, rest, hlist, hclass c hc⟩

namespace Spells

variable {text behind : String} {row row' : List Lexeme} {border border' : Char → Prop}

lemma empty : Spells "" [] border := by
  intro newLine rest _
  simp [stillNew, onOneLine]

/-- Two texts, of which the second begins with a character that may follow the first. -/
lemma append (h : Spells text row border) (hbehind : Spells behind row' border')
    (hopens : Opens behind border) : Spells (text ++ behind) (row ++ row') border' := by
  intro newLine rest hrest
  obtain ⟨c, tail, hlist, hc⟩ := hopens
  have hnext : ∀ d ∈ (behind.toList ++ rest).head?, border d := by
    intro d hd
    obtain rfl : c = d := by simpa [hlist] using hd
    exact hc
  rw [String.toList_append, List.append_assoc, h newLine _ hnext, hbehind _ rest hrest,
    Option.map_map, onOneLine_append, stillNew_append]
  simp [Function.comp_def]

lemma mono (h : Spells text row border) (hborder : ∀ c, border' c → border c) :
    Spells text row border' :=
  fun newLine rest hrest => h newLine rest fun c hc => hborder c (hrest c hc)

/-- A text after which anything may stand goes before any other. -/
lemma before (h : Spells text row anyChar) (hbehind : Spells behind row' border') :
    Spells (text ++ behind) (row ++ row') border' := by
  intro newLine rest hrest
  rw [String.toList_append, List.append_assoc, h newLine _ fun _ _ => trivial,
    hbehind _ rest hrest, Option.map_map, onOneLine_append, stillNew_append]
  simp [Function.comp_def]

/-- A space spells nothing. -/
lemma space : Spells " " [] border := by
  intro newLine rest _
  have hblank := marks?_blank (c := ' ') (by decide) newLine rest
  simpa [stillNew, onOneLine] using hblank

/-- A text that is one lexeme. -/
lemma lexeme {l : Lexeme} (hne : text ≠ "")
    (h : ∀ rest, (∀ c ∈ rest.head?, border c) →
      piece? (text.toList ++ rest) = some (.lexeme l, text.toList.length)) :
    Spells text [l] border := by
  intro newLine rest hrest
  have hpiece := h rest hrest
  cases hlist : text.toList with
  | nil => exact absurd (String.toList_eq_nil_iff.mp hlist) hne
  | cons c front =>
    rw [hlist] at hpiece
    rw [marks?_lexeme hpiece]
    simp [stillNew, onOneLine]

/-! ### Words -/

lemma piece?_word {c : Char} (hc : Unicode.isNameStart c) (rest : List Char) :
    piece? (c :: rest) = some (literal word (c :: rest.takeWhile Unicode.isNamePart)) := by
  have hfirst : ∀ d, Unicode.isNameStart d = false → c ≠ d := by
    rintro d hd rfl
    exact Bool.false_ne_true (hd.symm.trans hc)
  have hblank : isBlank c = false := by
    cases h : isBlank c with
    | false => rfl
    | true =>
      have hsix : c = ' ' ∨ c = '\t' ∨ c = '\n' ∨ c = '\x0b' ∨ c = '\x0c' ∨ c = '\r' := by
        simpa [isBlank, or_assoc] using h
      rcases hsix with rfl | rfl | rfl | rfl | rfl | rfl <;> revert hc <;> decide
  unfold piece?
  split
  case h_1 heq => exact absurd heq (by simp)
  case h_2 heq => exact absurd (List.cons.inj heq).1 (hfirst '/' (by decide))
  case h_3 heq => exact absurd (List.cons.inj heq).1 (hfirst '/' (by decide))
  case h_4 heq => exact absurd (List.cons.inj heq).1 (hfirst '\x60' (by decide))
  case h_5 heq => exact absurd (List.cons.inj heq).1 (hfirst '"' (by decide))
  case h_6 heq => exact absurd (List.cons.inj heq).1 (hfirst '\'' (by decide))
  case h_7 heq =>
    obtain ⟨rfl, rfl⟩ := List.cons.inj heq
    rw [if_neg (by simp [hblank]), if_neg (by simpa using hfirst '\x00' (by decide)), if_pos hc]

/-- A word spells what it is, before a character that ends it. -/
lemma ofWord {c : Char} {rest : List Char} (hlist : text.toList = c :: rest)
    (hc : Unicode.isNameStart c) (hrest : ∀ d ∈ rest, Unicode.isNamePart d) :
    Spells text [word text] endsWord := by
  refine lexeme (by rintro rfl; simp at hlist) fun behind hbehind => ?_
  have htail : behind.takeWhile Unicode.isNamePart = [] := by
    cases behind with
    | nil => rfl
    | cons d tail =>
      have hd : Unicode.isNamePart d = false := hbehind d rfl
      simp [hd]
  rw [hlist, List.cons_append, piece?_word hc, List.takeWhile_append_of_pos hrest, htail,
    List.append_nil, literal, ← hlist, String.ofList_toList]

lemma name {id : String} (h : IsName id) : Spells id [.name id] endsWord := by
  obtain ⟨c, rest, hlist, hc, hrest⟩ := h.start
  have hword := ofWord hlist hc hrest
  rwa [word, if_neg (by simpa using h.notKeyword)] at hword

lemma keyword {key : String} (h : key ∈ keywords) : Spells key [.keyword key] endsWord := by
  have hletters : ∀ k ∈ keywords, isSpelledAsName k := by decide
  obtain ⟨c, rest, hlist, hc, hrest⟩ := isSpelledAsName_iff.mp (hletters key h)
  have hword := ofWord hlist hc hrest
  rwa [word, if_pos (by simpa using h)] at hword

/-! ### Signs -/

lemma digits_eq_zero {isDigit : Char → Bool} {c : Char} {rest : List Char} (h : isDigit c = false) :
    Numeral.digits isDigit (c :: rest) = 0 := by
  unfold Numeral.digits
  split <;> simp_all

/-- No number begins with a sign, except with a point before a digit. -/
lemma length?_eq_none {c : Char} {rest : List Char} (hc : c.isDigit = false)
    (hpoint : c = '.' → ∀ d ∈ rest.head?, d.isDigit = false) :
    Numeral.length? (c :: rest) = none := by
  have hzero : c ≠ '0' := by
    rintro rfl
    exact absurd hc (by decide)
  have hdigits : Numeral.digits Char.isDigit (c :: rest) = 0 := digits_eq_zero hc
  -- none of the ways to read a numeral begins with this character
  have hbased : ∀ marks isDigit, Numeral.based marks isDigit (c :: rest) = none := by
    intro marks isDigit
    unfold Numeral.based
    split <;> simp_all
  have hled : Numeral.zeroLed (c :: rest) = none := by
    unfold Numeral.zeroLed
    split <;> simp_all
  have hplain : Numeral.plain (c :: rest) = none := by
    simp [Numeral.plain, hzero, hdigits, Numeral.after]
  have hfraction : Numeral.fraction (c :: rest) = none := by
    unfold Numeral.fraction
    simp only [hdigits, List.drop_zero]
    split
    · rename_i tail heq
      obtain ⟨rfl, rfl⟩ := List.cons.inj heq
      have hpart : Numeral.digits Char.isDigit rest = 0 := by
        cases rest with
        | nil => rfl
        | cons d tail => exact digits_eq_zero (hpoint rfl d rfl)
      simp [hpart]
    · simp
  have hhex : Numeral.hexFraction (c :: rest) = none := by
    unfold Numeral.hexFraction
    split <;> simp_all
  simp [Numeral.length?, Numeral.readings, hbased, hled, hplain, hfraction, hhex, hdigits,
    Numeral.after]

/-- Where no other piece can begin there may be a sign. -/
lemma piece?_eq_symbol? {c : Char} {rest : List Char} (hplain : Unicode.isNameStart c = false)
    (hblank : isBlank c = false) (hother : c ∉ ['/', '\x60', '"', '\'', '\x00'])
    (hnumber : Numeral.length? (c :: rest) = none) :
    piece? (c :: rest) = (symbol? (c :: rest)).map fun x => literal .symbol x.toList := by
  have hne : ∀ d ∈ ['/', '\x60', '"', '\'', '\x00'], c ≠ d := fun d hd => by
    rintro rfl
    exact hother hd
  unfold piece?
  split
  case h_1 heq => exact absurd heq (by simp)
  case h_2 heq => exact absurd (List.cons.inj heq).1 (hne '/' (by simp))
  case h_3 heq => exact absurd (List.cons.inj heq).1 (hne '/' (by simp))
  case h_4 heq => exact absurd (List.cons.inj heq).1 (hne '\x60' (by simp))
  case h_5 heq => exact absurd (List.cons.inj heq).1 (hne '"' (by simp))
  case h_6 heq => exact absurd (List.cons.inj heq).1 (hne '\'' (by simp))
  case h_7 heq =>
    obtain ⟨rfl, rfl⟩ := List.cons.inj heq
    rw [if_neg (by simp [hblank]), if_neg (by simpa using hne '\x00' (by simp)),
      if_neg (by simp [hplain]), hnumber]

lemma piece?_symbol {c : Char} {rest : List Char} {x : String} (hplain : Unicode.isNameStart c = false)
    (hblank : isBlank c = false) (hother : c ∉ ['/', '\x60', '"', '\'', '\x00'])
    (hnumber : Numeral.length? (c :: rest) = none) (hsymbol : symbol? (c :: rest) = some x) :
    piece? (c :: rest) = some (.lexeme (.symbol x), x.toList.length) := by
  rw [piece?_eq_symbol? hplain hblank hother hnumber, hsymbol]
  simp [literal]

/-- The first sign with the first character of a text is read, if the text begins with it. -/
lemma symbol?_eq_some {c : Char} {rest : List Char} {x : String}
    (hfirst : symbols.find? (fun y => y.toList.head? == some c) = some x)
    (hbegins : x.toList.isPrefixOf (c :: rest)) : symbol? (c :: rest) = some x := by
  have hnonempty : ∀ y ∈ symbols, y.toList ≠ [] := by decide
  obtain ⟨-, before, after, hsplit, hother⟩ := List.find?_eq_some_iff_append.mp hfirst
  refine List.find?_eq_some_iff_append.mpr ⟨hbegins, before, after, hsplit, fun y hy => ?_⟩
  have hmem : y ∈ symbols := hsplit ▸ List.mem_append_left _ hy
  have hhead := hother y hy
  cases hlist : y.toList with
  | nil => exact absurd hlist (hnonempty y hmem)
  | cons d tail =>
    have hne : d ≠ c := by simpa [hlist] using hhead
    simp [List.isPrefixOf, hne]

/-- The signs of a single character with which no other sign begins. -/
def soleSigns : List String := ["(", ")", "[", "]", "\x7b", "\x7d", ","]

lemma sole {x : String} (h : x ∈ soleSigns) : Spells x [.symbol x] anyChar := by
  have hsigns : ∀ x ∈ soleSigns, ∃ c, x.toList = [c] ∧ Unicode.isNameStart c = false ∧
      isBlank c = false ∧ c ∉ ['/', '\x60', '"', '\'', '\x00'] ∧ c.isDigit = false ∧ c ≠ '.' ∧
      symbols.find? (fun y => y.toList.head? == some c) = some x := by
    simp only [soleSigns, List.forall_mem_cons, List.not_mem_nil, false_implies, implies_true, and_true]
    exact ⟨⟨'(', by decide⟩, ⟨')', by decide⟩, ⟨'[', by decide⟩, ⟨']', by decide⟩,
      ⟨'\x7b', by decide⟩, ⟨'\x7d', by decide⟩, ⟨',', by decide⟩⟩
  obtain ⟨c, hlist, hplain, hblank, hother, hdigit, hpoint, hfirst⟩ := hsigns x h
  refine lexeme (by rintro rfl; simp at hlist) fun rest _ => ?_
  have hnumber : Numeral.length? (c :: rest) = none :=
    length?_eq_none hdigit fun heq => absurd heq hpoint
  have hsymbol : symbol? (c :: rest) = some x := symbol?_eq_some hfirst (by simp [hlist])
  rw [hlist]
  exact (piece?_symbol hplain hblank hother hnumber hsymbol).trans (by simp [hlist])

/-- A star, before anything but an equals sign. -/
lemma star : Spells "*" [.symbol "*"] (· ≠ '=') := by
  refine lexeme (by decide) fun rest hrest => ?_
  have hnumber : Numeral.length? ('*' :: rest) = none := length?_eq_none (by decide) (by simp)
  have hsymbol : symbol? ('*' :: rest) = some "*" := by
    cases rest with
    | nil => decide
    | cons d tail =>
      have hd : d ≠ '=' := hrest d rfl
      simp [symbol?, symbols, List.isPrefixOf, hd.symm]
  exact piece?_symbol (by decide) (by decide) (by decide) hnumber hsymbol

/-- A point, before a name. -/
lemma point : Spells "." [.symbol "."] (Unicode.isNameStart ·) := by
  refine lexeme (by decide) fun rest hrest => ?_
  have hname : ∀ d ∈ rest.head?, d.isDigit = false ∧ d ≠ '.' := by
    intro d hd
    have hstart := hrest d hd
    refine ⟨Unicode.isDigit_of_isNameStart hstart, ?_⟩
    rintro rfl
    exact absurd hstart (by decide)
  have hnumber : Numeral.length? ('.' :: rest) = none :=
    length?_eq_none (by decide) fun _ d hd => (hname d hd).1
  have hsymbol : symbol? ('.' :: rest) = some "." := by
    cases rest with
    | nil => decide
    | cons d tail =>
      have hd : d ≠ '.' := (hname d rfl).2
      simp [symbol?, symbols, List.isPrefixOf, hd.symm]
  exact piece?_symbol (by decide) (by decide) (by decide) hnumber hsymbol

lemma dots : Spells "..." [.symbol "..."] anyChar := by
  refine lexeme (by decide) fun rest _ => ?_
  have hnumber : Numeral.length? ('.' :: '.' :: '.' :: rest) = none :=
    length?_eq_none (by decide) (by simp)
  have hsymbol : symbol? ('.' :: '.' :: '.' :: rest) = some "..." :=
    symbol?_eq_some (by decide) (by simp)
  exact piece?_symbol (by decide) (by decide) (by decide) hnumber hsymbol

/-- A byte order mark belongs to no piece. -/
lemma marks?_byteOrderMark (newLine : Bool) (rest : List Char) :
    marks? newLine ('\ufeff' :: rest) = none := by
  have hplain : Unicode.isNameStart '\ufeff' = false := by decide +kernel
  have hnumber : Numeral.length? ('\ufeff' :: rest) = none :=
    length?_eq_none (by decide) fun h => absurd h (by decide)
  have hsymbol : symbol? ('\ufeff' :: rest) = none := by simp [symbol?, symbols, List.isPrefixOf]
  have hpiece := piece?_eq_symbol? hplain (by decide) (by decide) hnumber
  rw [hsymbol] at hpiece
  simp [marks?, piecesAfter, hpiece]

/-! ### Raw strings -/

lemma rawString?_append {body : List Char} (h : ∀ c ∈ body, c ≠ '\x60' ∧ c ≠ '\x00')
    (rest : List Char) : rawString? (body ++ '\x60' :: rest) = some (body ++ ['\x60']) := by
  induction body with
  | nil => rfl
  | cons c body ih =>
    obtain ⟨⟨hquote, hnul⟩, hbody⟩ := List.forall_mem_cons.mp h
    rw [List.cons_append, rawString?]
    · rw [ih hbody]
      rfl
    · exact hquote
    · exact hnul

/-- A text between back quotes, unless one or a NUL stands in it. -/
lemma rawText {body : String} (h : ∀ c ∈ body.toList, c ≠ '\x60' ∧ c ≠ '\x00') :
    Spells ("\x60" ++ body ++ "\x60") [.text ("\x60" ++ body ++ "\x60")] anyChar := by
  refine lexeme (by simp) fun rest _ => ?_
  have hlist : ("\x60" ++ body ++ "\x60").toList ++ rest =
      '\x60' :: (body.toList ++ '\x60' :: rest) := by
    simp
  rw [hlist]
  show (rawString? (body.toList ++ '\x60' :: rest)).map _ = _
  rw [rawString?_append h]
  have hback : String.ofList ('\x60' :: (body.toList ++ ['\x60'])) = "\x60" ++ body ++ "\x60" := by
    rw [← String.toList_inj]
    simp
  rw [Option.map_some, literal, hback]
  simp

/-! ### Lists -/

/-- Items with commas between them. -/
lemma commaSeparated {items : List (String × List Lexeme)}
    (h : ∀ x ∈ items, Spells x.1 x.2 endsWord) :
    Spells (", ".intercalate (items.map (·.1)))
      ([Lexeme.symbol ","].intercalate (items.map (·.2))) endsWord := by
  induction items with
  | nil => exact empty
  | cons x items ih =>
    obtain ⟨hx, hitems⟩ := List.forall_mem_cons.mp h
    cases items with
    | nil => simpa using hx
    | cons y items =>
      have hcomma : Spells ("," ++ " ") [.symbol ","] anyChar := (sole (by decide)).before space
      have hopens : Opens (", " ++ ", ".intercalate ((y :: items).map (·.1))) endsWord :=
        Opens.append ⟨',', [' '], by decide, by decide⟩ _
      have hall := hx.append (hcomma.before (ih hitems)) hopens
      simpa [List.intercalate, String.intercalate_cons_cons, String.append_assoc] using hall

end Spells

/-- A text whose marks are known has tokens with these marks. -/
lemma exists_tokens?_of_marks? {source : String} {row : List Mark}
    (h : marks? false source.toList = some row) :
    ∃ tokens, tokens? source = some tokens ∧ tokens.map Token.mark = row := by
  obtain ⟨pieces, hpieces, rfl⟩ := Option.map_eq_some_iff.mp h
  refine ⟨tokensAfter [] false pieces, ?_, map_mark_tokensAfter _ _ _⟩
  unfold tokens?
  split
  · rename_i rest hlist
    rw [hlist, Spells.marks?_byteOrderMark] at h
    exact absurd h (by simp)
  · exact congrArg (Option.map (tokensAfter [] false)) hpieces

/-! ## Spelled lines -/

open Text

/-- The marks of lines, in front of the first of which a line ended if `newLine`. -/
def onLines : Bool → List (List Lexeme) → List Mark
  | _, [] => []
  | newLine, row :: rows => onOneLine newLine row ++ onLines true rows

lemma onLines_true (rows : List (List Lexeme)) : onLines true rows = rows.flatMap (onOneLine true) := by
  induction rows with
  | nil => rfl
  | cons row rows ih => rw [onLines, ih, List.flatMap_cons]

lemma marks?_lineFeed (newLine : Bool) (rest : List Char) :
    marks? newLine ('\n' :: rest) = marks? true rest := by
  rw [marks?_blank (by decide)]
  simp

lemma marks?_tabs (n : Nat) (newLine : Bool) (rest : List Char) :
    marks? newLine (List.replicate n '\t' ++ rest) = marks? newLine rest := by
  induction n with
  | zero => rfl
  | succ n ih =>
    rw [List.replicate_succ, List.cons_append, marks?_blank (by decide), ← ih]
    simp

/-- A line spells its row at whatever depth it is put. -/
lemma marks?_line {l : Line} {row : List Lexeme} (h : Spells l.text row endsWord) (newLine : Bool)
    (rest : List Char) :
    marks? newLine (l.render.toList ++ rest) =
      (marks? true rest).map (onOneLine newLine row ++ ·) := by
  have hend : ∀ c ∈ ('\n' :: rest).head?, endsWord c := by
    intro c hc
    obtain rfl : '\n' = c := by simpa using hc
    decide
  have htext := h newLine ('\n' :: rest) hend
  rw [marks?_lineFeed] at htext
  by_cases hempty : l.text = ""
  · have hrender : l.render.toList ++ rest = l.text.toList ++ '\n' :: rest := by
      simp [Line.render, hempty]
    rw [hrender, htext]
  · have hrender : l.render.toList ++ rest =
        List.replicate l.depth '\t' ++ (l.text.toList ++ '\n' :: rest) := by
      simp [Line.render, hempty]
    rw [hrender, marks?_tabs, htext]

/-- The marks of a block whose lines are spelled. -/
theorem marks?_render {b : Block} {rows : List (List Lexeme)}
    (h : List.Forall₂ (fun l row => Spells l.text row endsWord) b rows) (newLine : Bool) :
    marks? newLine b.render.toList =
      some (onLines newLine rows ++ [(.finish, newLine || !rows.isEmpty)]) := by
  have hrender : ∀ (l : Line) (b : Block), (Block.render (l :: b)).toList =
      l.render.toList ++ (Block.render b).toList := by
    simp [Block.render]
  induction h generalizing newLine with
  | nil => simp [Block.render, marks?_nil, onLines]
  | cons hl _ ih =>
    rw [hrender, marks?_line hl, ih, Option.map_some, onLines, List.append_assoc]
    simp

end DeclGen.Source
