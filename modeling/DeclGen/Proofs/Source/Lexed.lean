import DeclGen.Source.Lexer
import Mathlib.Tactic.Lemma

/-!
# Names as they are read

What the lexer makes a name of: a word that begins as names do, goes on as names do, and is no keyword.
Every name among the tokens of a text is of this form (`namesRead_of_mem_tokens?`). The name with which a
generated text begins is cut out in the same way (`leadingName`).
-/

namespace DeclGen.Source

open Lexer

/-- A text that is read as a name when it stands by itself. -/
structure IsName (text : String) : Prop where
  start : ∃ c rest, text.toList = c :: rest ∧ Unicode.isNameStart c ∧ ∀ d ∈ rest, Unicode.isNamePart d
  notKeyword : text ∉ keywords

/-- Whether a text is made of the characters of names, as a name and a keyword are. -/
def isSpelledAsName (text : String) : Bool :=
  match text.toList with
  | [] => false
  | c :: rest => Unicode.isNameStart c && rest.all Unicode.isNamePart

lemma isSpelledAsName_iff {text : String} :
    isSpelledAsName text ↔ ∃ c rest, text.toList = c :: rest ∧ Unicode.isNameStart c ∧
      ∀ d ∈ rest, Unicode.isNamePart d := by
  unfold isSpelledAsName
  cases text.toList with
  | nil => simp
  | cons c rest =>
    rw [Bool.and_eq_true, List.all_eq_true]
    constructor
    · exact fun h => ⟨c, rest, rfl, h⟩
    · rintro ⟨d, others, heq, h⟩
      obtain ⟨rfl, rfl⟩ := List.cons.inj heq
      exact h

lemma isName_iff {text : String} :
    IsName text ↔ !keywords.contains text && isSpelledAsName text := by
  rw [Bool.and_eq_true, isSpelledAsName_iff]
  constructor
  · rintro ⟨hstart, hkeyword⟩
    exact ⟨by simpa using hkeyword, hstart⟩
  · rintro ⟨hkeyword, hstart⟩
    exact ⟨hstart, by simpa using hkeyword⟩

lemma IsName.ne_empty {text : String} (h : IsName text) : text ≠ "" := by
  obtain ⟨c, rest, hlist, -⟩ := h.start
  rintro rfl
  simp at hlist

/-- A character that neither begins nor continues a name stands in none. -/
lemma IsName.notMem {text : String} {c : Char} (h : IsName text) (hstart : Unicode.isNameStart c = false)
    (hpart : Unicode.isNamePart c = false) : c ∉ text.toList := by
  obtain ⟨first, rest, hlist, hfirst, hrest⟩ := h.start
  rw [hlist, List.mem_cons]
  rintro (rfl | hmem)
  · exact Bool.false_ne_true (hstart.symm.trans hfirst)
  · exact Bool.false_ne_true (hpart.symm.trans (hrest c hmem))

instance : DecidablePred IsName := fun _ => decidable_of_iff _ isName_iff.symm

/-- A token that is a name is one that can be read as such. -/
def NamesRead (t : Token) : Prop := ∀ id, t.lexeme = .name id → IsName id

namespace Lexer

/-- The word at the front of a text is a name when it is no keyword. -/
lemma isName_of_word {c : Char} {rest : List Char} {id : String} (hc : Unicode.isNameStart c)
    (h : word (String.ofList (c :: rest.takeWhile Unicode.isNamePart)) = .name id) : IsName id := by
  unfold word at h
  split at h
  · exact Lexeme.noConfusion h
  · rename_i hkeyword
    obtain rfl : String.ofList (c :: rest.takeWhile Unicode.isNamePart) = id := Lexeme.name.inj h
    refine ⟨⟨c, rest.takeWhile Unicode.isNamePart, by simp, hc, ?_⟩, by simpa using hkeyword⟩
    exact List.all_eq_true.mp List.all_takeWhile

/-- A piece that is a name is made of a word. -/
lemma isName_of_piece? {s : List Char} {id : String} {n : Nat}
    (h : piece? s = some (.lexeme (.name id), n)) : IsName id := by
  unfold piece? at h
  split at h
  case h_7 c rest _ _ _ _ _ =>
    split at h
    · simp at h
    split at h
    · simp at h
    split at h
    · rename_i hstart
      have hlexeme : word (String.ofList (c :: rest.takeWhile Unicode.isNamePart)) = .name id := by
        simp only [literal, Option.some.injEq, Prod.mk.injEq, Piece.lexeme.injEq] at h
        exact h.1
      exact isName_of_word hstart hlexeme
    split at h <;> simp [literal] at h
  all_goals simp [literal] at h

/-- A name among the pieces of a text is made of a word. -/
lemma isName_of_mem_piecesAfter {skip : Nat} {s : List Char} {pieces : List Piece} {id : String}
    (h : piecesAfter skip s = some pieces) (hmem : .lexeme (.name id) ∈ pieces) : IsName id := by
  induction s generalizing skip pieces with
  | nil =>
    have hnil : pieces = [] := by simpa [piecesAfter] using h.symm
    simp [hnil] at hmem
  | cons c rest ih =>
    cases skip with
    | succ skip => exact ih h hmem
    | zero =>
      rw [piecesAfter] at h
      split at h
      · exact absurd h (by simp)
      · rename_i piece n hpiece
        obtain ⟨tail, htail, rfl⟩ := Option.map_eq_some_iff.mp h
        rcases List.mem_cons.mp hmem with rfl | hrest
        · exact isName_of_piece? hpiece
        · exact ih htail hrest

/-- The lexeme of a token is one of the pieces, or the end. -/
lemma lexeme_of_mem_tokensAfter {gap : List Char} {newLine : Bool} {pieces : List Piece} {t : Token}
    (h : t ∈ tokensAfter gap newLine pieces) : t.lexeme = .finish ∨ .lexeme t.lexeme ∈ pieces := by
  induction pieces generalizing gap newLine with
  | nil =>
    obtain rfl : t = ⟨.finish, String.ofList gap, newLine⟩ := by simpa [tokensAfter] using h
    exact .inl rfl
  | cons piece rest ih =>
    cases piece with
    | lexeme l =>
      rcases List.mem_cons.mp h with rfl | hrest
      · exact .inr List.mem_cons_self
      · exact (ih hrest).imp_right (List.mem_cons_of_mem _)
    | blank c => exact (ih h).imp_right (List.mem_cons_of_mem _)
    | comment text => exact (ih h).imp_right (List.mem_cons_of_mem _)

end Lexer

/-- The names among the tokens of a text are read as names. -/
theorem namesRead_of_mem_tokens? {source : String} {tokens : List Token}
    (h : tokens? source = some tokens) {t : Token} (ht : t ∈ tokens) : NamesRead t := by
  obtain ⟨pieces, hpieces, rfl⟩ := Option.map_eq_some_iff.mp h
  intro id hid
  rcases lexeme_of_mem_tokensAfter ht with hfinish | hmem
  · exact absurd (hid.symm.trans hfinish) (by simp)
  · exact isName_of_mem_piecesAfter hpieces (hid ▸ hmem)

/-! ## The name at the front of a text -/

/-- The word with which a text begins, if it begins with one. -/
def leadingName (text : String) : String :=
  match text.toList with
  | c :: rest =>
    if Unicode.isNameStart c then String.ofList (c :: rest.takeWhile Unicode.isNamePart) else ""
  | [] => ""

/-- A name is the word at the front of what it is followed by, up to a character of no name. -/
lemma leadingName_append {name behind : String} (hname : IsName name)
    (hbehind : ∀ c ∈ behind.toList.head?, Unicode.isNamePart c = false) :
    leadingName (name ++ behind) = name := by
  obtain ⟨c, rest, hlist, hstart, hpart⟩ := hname.start
  have htail : behind.toList.takeWhile Unicode.isNamePart = [] := by
    cases hb : behind.toList with
    | nil => rfl
    | cons d s => simp [hbehind d (by simp [hb])]
  rw [leadingName, String.toList_append, hlist, List.cons_append]
  dsimp only
  rw [if_pos hstart, List.takeWhile_append_of_pos hpart, htail, List.append_nil, ← hlist,
    String.ofList_toList]

end DeclGen.Source
