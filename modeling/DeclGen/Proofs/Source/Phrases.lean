import DeclGen.Source.Grammar
import Mathlib.Tactic.Lemma

/-!
# How phrases begin

A phrase that cannot begin with a lexeme fails in front of it, whatever comes behind. Whether it can is
found by a search through the grammar (`Phrase.shuns`), which can be carried out for the phrases at hand.
From that follow the few facts about the grammar on which the readers of declarations rely.
-/

namespace DeclGen.Source

namespace Phrase

variable {ρ : Type}

/-- The phrase cannot begin with the lexeme, as far as a search of some depth shows. In a sequence, parts
that take nothing in front of the lexeme are passed over. -/
def shuns (g : Grammar ρ) : Nat → Phrase ρ → Lexeme → Bool
  | 0, _, _ => false
  | depth + 1, p, l =>
    match p with
    | token t => !t.accepts l
    | first ps => ps.all fun p => shuns g depth p l
    | onLine p | within _ p => shuns g depth p l
    | rule r => shuns g depth (g r) l
    | all ps =>
      let telling := ps.dropWhile fun
        | optional p | many p => shuns g depth p l
        | literals => true
        | _ => false
      telling.head?.any fun p => shuns g depth p l
    | optional _ | many _ | ahead _ | literals | terminator => false

variable {g : Grammar ρ} {l : Lexeme}

/-- A sequence fails when its first part that is not idle does. -/
lemma foldlM_eq_none {step : List Token → Phrase ρ → Option (List Token)} {s : List Token}
    {ps : List (Phrase ρ)} {idle fails : Phrase ρ → Bool}
    (hidle : ∀ p, idle p → step s p = none ∨ step s p = some s)
    (hfails : ∀ p, fails p → step s p = none) (h : (ps.dropWhile idle).head?.any fails) :
    ps.foldlM step s = none := by
  induction ps with
  | nil => simp at h
  | cons p ps ih =>
    rw [List.foldlM_cons]
    cases hp : idle p with
    | true =>
      rw [List.dropWhile_cons_of_pos hp] at h
      rcases hidle p hp with hnone | hstay
      · rw [hnone]
        rfl
      · rw [hstay]
        exact ih h
    | false =>
      rw [List.dropWhile_cons_of_neg (by simp [hp])] at h
      rw [hfails p (by simpa using h)]
      rfl

/-! ## Failing -/

/-- The phrase fails in front of the tokens, however deep it is read and in whatever surroundings. -/
def Fails (g : Grammar ρ) (p : Phrase ρ) (s : List Token) : Prop :=
  ∀ fuel m, p.run g fuel m s = none

namespace Fails

variable {p : Phrase ρ} {ps : List (Phrase ρ)} {s : List Token}

lemma rule {r : ρ} (h : Fails g (g r) s) : Fails g (.rule r) s := by
  intro fuel m
  cases fuel with
  | zero => rfl
  | succ fuel => exact h fuel m

lemma within {mode : Mode} (h : Fails g p s) : Fails g (.within mode p) s := by
  intro fuel m
  cases fuel with
  | zero => rfl
  | succ fuel => exact h fuel mode

/-- A sequence fails when its first part does. -/
lemma all_head (h : Fails g p s) : Fails g (.all (p :: ps)) s := by
  intro fuel m
  cases fuel with
  | zero => rfl
  | succ fuel => simp [run, h fuel m]

/-- A sequence fails when the others fail behind a first token. -/
lemma all_token {terminal : Terminal} {t : Token} (h : Fails g (.all ps) s) :
    Fails g (.all (.token terminal :: ps)) (t :: s) := by
  intro fuel m
  cases fuel with
  | zero => rfl
  | succ fuel =>
    have hrest : ps.foldlM (fun s p => run g fuel p m s) s = none := h (fuel + 1) m
    cases fuel with
    | zero => rfl
    | succ fuel =>
      rw [run, List.foldlM_cons, run]
      split
      · exact hrest
      · rfl

lemma read? {m : Mode} (h : Fails g p s) : p.read? g m s = none := h _ m

end Fails

/-- In front of a lexeme with which it cannot begin a phrase fails. -/
theorem fails_of_shuns (depth : Nat) {p : Phrase ρ} (h : p.shuns g depth l) {t : Token}
    (ht : t.lexeme = l) (rest : List Token) : Fails g p (t :: rest) := by
  -- every part that is searched is run with less fuel, in front of the same token
  intro fuel m
  induction depth generalizing p fuel m with
  | zero => exact absurd h Bool.false_ne_true
  | succ depth ih =>
    cases fuel with
    | zero => rfl
    | succ fuel =>
      cases p with
      | token terminal =>
        have hrefused : terminal.accepts t.lexeme = false := by
          rw [ht]
          simpa [shuns] using h
        simp [run, hrefused]
      | first ps =>
        have hall : ∀ p ∈ ps, p.shuns g depth l := by simpa [shuns] using h
        rw [run, List.findSome?_eq_none_iff]
        exact fun p hp => ih (hall p hp) fuel m
      | onLine p =>
        have hp := ih (p := p) h fuel m
        simp [run, hp]
      | within mode p => exact ih (p := p) h fuel mode
      | rule r => exact ih (p := g r) h fuel m
      | all ps =>
        refine foldlM_eq_none (fun p hp => ?_) (fun p hp => ih hp fuel m) (by simpa [shuns] using h)
        -- an idle part takes nothing, if it can be read at all
        cases fuel with
        | zero => exact .inl rfl
        | succ fuel =>
          split at hp
          · rename_i q
            simp [run, ih hp fuel m]
          · rename_i q
            simp [run, ih hp fuel m]
          · rw [run]
            split <;> simp
          · exact absurd hp Bool.false_ne_true
      | optional _ => simp [shuns] at h
      | many _ => simp [shuns] at h
      | ahead _ => simp [shuns] at h
      | literals => simp [shuns] at h
      | terminator => simp [shuns] at h

/-! ## Taking -/

section Taking

variable {p : Phrase ρ} {ps : List (Phrase ρ)} {m : Mode} {n : Nat} {s : List Token}

lemma run_rule (r : ρ) : (Phrase.rule r).run g (n + 1) m s = (g r).run g n m s := rfl

lemma run_within (mode : Mode) : (Phrase.within mode p).run g (n + 1) m s = p.run g n mode s := rfl

lemma run_optional : (Phrase.optional p).run g (n + 1) m s = some ((p.run g n m s).getD s) := rfl

lemma run_onLine : (Phrase.onLine p).run g (n + 1) m s =
    if m.lines && s.head?.any (·.newLine) then none else p.run g n m s := rfl

lemma run_ahead : (Phrase.ahead p).run g (n + 1) m s =
    if (p.run g n m s).isSome then some s else none := rfl

lemma run_terminator : (Phrase.terminator : Phrase ρ).run g (n + 1) m s = terminator? s := rfl

lemma run_token (terminal : Terminal) (t : Token) : (Phrase.token terminal).run g (n + 1) m (t :: s) =
    if terminal.accepts t.lexeme then some s else none := rfl

lemma run_all_nil : (Phrase.all []).run g (n + 1) m s = some s := rfl

lemma run_all_cons : (Phrase.all (p :: ps)).run g (n + 1) m s =
    (p.run g n m s).bind fun rest => (Phrase.all ps).run g (n + 1) m rest := by
  rw [run, List.foldlM_cons]
  rfl

lemma run_first_nil : (Phrase.first []).run g (n + 1) m s = none := rfl

lemma run_first_cons : (Phrase.first (p :: ps)).run g (n + 1) m s =
    (p.run g n m s).or ((Phrase.first ps).run g (n + 1) m s) := by
  rw [run, List.findSome?_cons, run]
  cases p.run g n m s <;> rfl

/-- A phrase is read as deep as is needed for what is in front. -/
lemma exists_read?_eq (g : Grammar ρ) (p : Phrase ρ) (m : Mode) (s : List Token) :
    ∃ n, p.read? g m s = p.run g (n + 12) m s := by
  obtain ⟨n, hn⟩ : ∃ n, depthPerToken * (s.length + 1) = n + 12 :=
    ⟨depthPerToken * s.length + 88, by rw [Nat.mul_succ]; rfl⟩
  exact ⟨n, by rw [read?, hn]⟩

end Taking

end Phrase

namespace Grammar

open Phrase

variable {m : Mode} {t u : Token} {rest : List Token}

/-! ## The grammar of declarations -/

/-- Brackets without anything between them hold no type arguments. -/
lemma typeArguments_fails (hu : u.lexeme = .symbol "]") :
    Fails rules (.rule .typeArguments) (t :: u :: rest) := by
  have hinner : Fails rules (.rule .typeElement) (u :: rest) := fails_of_shuns 10 (by decide) hu rest
  exact .rule (.all_token (.all_head (.within (.all_head (.all_head hinner)))))

/-- An item of a parameter list ends before a comma or the closing parenthesis. -/
lemma read?_itemEnd (ht : t.lexeme = .symbol "," ∨ t.lexeme = .symbol ")") :
    (Phrase.ahead (anySign [",", ")"])).read? rules m (t :: rest) = some (t :: rest) := by
  obtain ⟨n, hn⟩ := exists_read?_eq rules (Phrase.ahead (anySign [",", ")"])) m (t :: rest)
  have haccepts : (Terminal.oneOf [",", ")"]).accepts t.lexeme = true := by
    rcases ht with ht | ht <;> rw [ht] <;> decide
  rw [hn, run_ahead, anySign, run_token, if_pos haccepts]
  rfl

/-- The lexemes with which the line behind an embedded field can begin. -/
def opensField (l : Lexeme) : Prop := (∃ id, l = .name id) ∨ l = .symbol "*" ∨ l = .symbol "\x7d"

/-- An embedded field ends before its tag, or at the end of its line. -/
lemma read?_fieldEnd (ht : (∃ x, t.lexeme = .text x) ∧ t.newLine = false ∨
      opensField t.lexeme ∧ t.newLine = true) :
    (Phrase.ahead (.rule .fieldEnd)).read? rules .block (t :: rest) = some (t :: rest) := by
  obtain ⟨n, hn⟩ := exists_read?_eq rules (Phrase.ahead (.rule .fieldEnd)) .block (t :: rest)
  suffices hend : ((Phrase.rule Rule.fieldEnd).run rules (n + 11) .block (t :: rest)).isSome by
    rw [hn, run_ahead, if_pos hend]
  rw [run_rule]
  show ((Phrase.first [sign "\x7d", .onLine (.token .text), .all [.terminator,
    .first [aName, sign "*", sign "\x7d"]]]).run rules (n + 10) .block (t :: rest)).isSome
  rcases ht with ⟨⟨x, hx⟩, hline⟩ | ⟨⟨id, hid⟩ | hstar | hbrace, hline⟩
  · simp [run_first_cons, run_onLine, sign, run_token, Terminal.accepts, hx, hline]
  · simp [run_first_cons, run_onLine, run_all_cons, run_terminator, run_all_nil, sign, aName, run_token,
      terminator?, Terminal.accepts, hid, hline]
  · simp [run_first_cons, run_onLine, run_all_cons, run_terminator, run_all_nil, sign, aName, run_token,
      terminator?, Terminal.accepts, hstar, hline]
  · simp [run_first_cons, sign, run_token, Terminal.accepts, hbrace]

/-- What follows a name on its line, but is no tag, does not end an embedded field. -/
lemma read?_fieldEnd_eq_none (hline : t.newLine = false)
    (ht : t.lexeme ∉ [.symbol "\x7d", .symbol ";", .nul]) (htext : ∀ x, t.lexeme ≠ .text x) :
    (Phrase.ahead (.rule .fieldEnd)).read? rules .block (t :: rest) = none := by
  obtain ⟨n, hn⟩ := exists_read?_eq rules (Phrase.ahead (.rule .fieldEnd)) .block (t :: rest)
  suffices hend : (Phrase.rule Rule.fieldEnd).run rules (n + 11) .block (t :: rest) = none by
    rw [hn, run_ahead, hend]
    rfl
  rw [run_rule]
  show (Phrase.first [sign "\x7d", .onLine (.token .text), .all [.terminator,
    .first [aName, sign "*", sign "\x7d"]]]).run rules (n + 10) .block (t :: rest) = none
  obtain ⟨hclose, hsemicolon, hnul⟩ : t.lexeme ≠ .symbol "\x7d" ∧ t.lexeme ≠ .symbol ";" ∧
      t.lexeme ≠ .nul := by simpa using ht
  have hbrace : Terminal.accepts (.symbol "\x7d") t.lexeme = false := by
    cases hl : t.lexeme with
    | symbol x =>
      have hx : "\x7d" ≠ x := by
        rintro rfl
        exact hclose hl
      simp [Terminal.accepts, hx]
    | _ => rfl
  have htag : Terminal.accepts .text t.lexeme = false := by
    cases hl : t.lexeme with
    | text x => exact absurd hl (htext x)
    | _ => rfl
  have hterminator : terminator? (t :: rest) = none := by
    simp [terminator?, hline, hsemicolon, hnul]
  simp [run_first_cons, run_first_nil, run_onLine, run_all_cons, run_terminator, sign, run_token,
    hbrace, htag, hterminator]

/-- An empty body is taken as a whole. -/
lemma read?_body (ht : t.lexeme = .symbol "\x7b") (hline : t.newLine = false)
    (hu : u.lexeme = .symbol "\x7d") :
    (Phrase.optional (.onLine (.rule .block))).read? rules .block (t :: u :: rest) = some rest := by
  obtain ⟨n, hn⟩ :=
    exists_read?_eq rules (Phrase.optional (.onLine (.rule .block))) .block (t :: u :: rest)
  suffices hblock : (Phrase.rule Rule.block).run rules (n + 10) .block (t :: u :: rest) =
      some rest by
    simp [hn, run_optional, run_onLine, hline, hblock]
  rw [run_rule]
  show (Phrase.all [sign "\x7b", .within .block (.optional (.rule .statements)), sign "\x7d"]).run rules
    (n + 9) .block (t :: u :: rest) = some rest
  have hstatements : Fails rules (.rule .statements) (u :: rest) := fails_of_shuns 30 (by decide) hu rest
  have hnone := hstatements (n + 6) .block
  simp [run_all_cons, run_all_nil, run_within, run_optional, sign, run_token, Terminal.accepts, ht, hu,
    hnone]

/-- In front of the parameters stand no type parameters. -/
lemma read?_typeParameters (ht : t.lexeme = .symbol "(") :
    (Phrase.optional (.rule .typeParameters)).read? rules m (t :: rest) = some (t :: rest) := by
  have hnone : Fails rules (.rule .typeParameters) (t :: rest) := fails_of_shuns 10 (by decide) ht rest
  obtain ⟨n, hn⟩ := exists_read?_eq rules (Phrase.optional (.rule .typeParameters)) m (t :: rest)
  rw [hn, run_optional, hnone]
  rfl

end Grammar

end DeclGen.Source
