import DeclGen.Proofs.Declaration.Spelled
import DeclGen.Proofs.Declaration.Unqualified
import DeclGen.Proofs.Source.Parsing
import DeclGen.Proofs.Source.Phrases
import DeclGen.Proofs.Source.Trees

/-!
# Types and parameters in any layout

`LaidOut` relates types, items of parameter lists, parameter lists and results as they are written to the
rows of tokens that may stand for them: parentheses may stand around a type at any depth, and lines may end
wherever they do not count. Each such row is read as what it stands for. Where a reader chooses between
forms that begin alike, as a name alone and a name with a type, the forms that come first are refused by
what stands behind the name.
-/

namespace DeclGen.Source

open Reader

/-! ## Marks behind the first of a line -/

/-- The marks of a row behind the first token of its line. -/
def inLine (row : List Lexeme) : List Mark := row.map (·, false)

lemma inLine_append (row row' : List Lexeme) : inLine (row ++ row') = inLine row ++ inLine row' :=
  List.map_append

lemma onOneLine_false (row : List Lexeme) : onOneLine false row = inLine row := by
  cases row <;> rfl

@[simp] lemma commas_nil : commas [] = [] := rfl

lemma commas_cons (row : List Lexeme) (rows : List (List Lexeme)) :
    commas (row :: rows) = row ++ rows.flatMap (.symbol "," :: ·) := by
  induction rows generalizing row with
  | nil => simp [commas]
  | cons row' rows ih =>
    have hstep : commas (row :: row' :: rows) = row ++ .symbol "," :: commas (row' :: rows) := by
      simp [commas, List.intercalate]
    rw [hstep, ih, List.flatMap_cons, List.cons_append]

/-- Rows on one line with commas between them are cut at the commas. -/
lemma exists_inTurn_of_commas {α : Type} {row : α → List Lexeme} {P : α → List Token → Prop} {a : α}
    {l : List α} (hP : ∀ b ∈ a :: l, ∀ s : List Token, s.map Token.mark = inLine (row b) → P b s)
    {s : List Token} (hs : s.map Token.mark = inLine (commas ((a :: l).map row))) :
    ∃ front rest, s = front ++ rest ∧ P a front ∧ InTurn (afterComma P) l rest := by
  rw [List.map_cons, commas_cons, inLine_append] at hs
  obtain ⟨front, rest, rfl, hfront, hrest⟩ := List.map_eq_append_iff.mp hs
  obtain ⟨ha, hl⟩ := List.forall_mem_cons.mp hP
  have hrows : rest.map Token.mark = l.flatMap fun b => (.symbol ",", false) :: inLine (row b) := by
    rw [hrest]
    simp [inLine, List.map_flatMap, List.flatMap_map]
  have hcomma : ∀ b ∈ l, ∀ s : List Token, s.map Token.mark = (.symbol ",", false) :: inLine (row b) →
      afterComma P b s := by
    intro b hb s hs
    obtain ⟨u, s, rfl, hu, hrow⟩ := List.map_eq_cons_iff.mp hs
    exact ⟨u, s, rfl, congrArg Prod.fst hu, hl b hb s hrow⟩
  have hturn := inTurn_of_flatMap (P := afterComma P) hcomma hrows
  rw [List.map_id'] at hturn
  exact ⟨front, rest, rfl, ha front hfront, hturn⟩

/-! ## Phrases -/

section Phrases

variable {m : Mode} {p : Phrase Rule} {behind : Mark → Prop}

/-- A phrase that takes nothing. -/
lemma Takes.phrase (h : ∀ t rest, behind t.mark →
    p.read? Grammar.rules m (t :: rest) = some (t :: rest)) :
    Takes (Reader.phrase m p) [] () (Begins behind) := by
  rintro _ ⟨t, rest, rfl, ht⟩
  show (p.read? Grammar.rules m (t :: rest)).map _ = _
  rw [h t rest ht]
  rfl

/-- A phrase that cannot begin with a lexeme. -/
lemma Refuses.phrase {l : Lexeme} (depth : Nat) (h : p.shuns Grammar.rules depth l) :
    Refuses (Reader.phrase m p) [] (·.1 = l) := by
  intro s t rest hs ht
  obtain rfl : s = [] := by simpa using hs
  show (p.read? Grammar.rules m (t :: rest)).map _ = _
  rw [(Phrase.fails_of_shuns depth h ht rest).read?]
  rfl

end Phrases

/-! ## Types -/

/-- What does not go on with a type before it. -/
def endsType (m : Mark) : Prop := m.1 ≠ .symbol "." ∧ m.1 ≠ .symbol "["

/-- The lexemes with which a type can begin. -/
def opensType (l : Lexeme) : Prop :=
  (∃ id, l = .name id) ∨ l ∈ [.symbol "[", .symbol "*", .symbol "(", .keyword "interface"]

/-- Where no type can begin. -/
lemma Refuses.type {m : Mode} : Refuses (typeTerm m) []
    (fun w => w.1 ∈ [.symbol ",", .symbol ")", .symbol ".", .symbol "\x7b", .symbol "..."]) := by
  intro s t rest hs ht
  obtain rfl : s = [] := by simpa using hs
  have hlexeme : t.lexeme ∈ [.symbol ",", .symbol ")", .symbol ".", .symbol "\x7b", .symbol "..."] := ht
  simp only [List.mem_cons, List.not_mem_nil, or_false] at hlexeme
  show TypeTerm.read? m (t :: rest) = none
  unfold TypeTerm.read?
  rcases hlexeme with h | h | h | h | h <;> simp [h]

namespace TypeTerm

/-- The rows that a type can be written as. A line may end anywhere in it, but in front of the point of a
selection only where line feeds do not count. Types of the shapes that are kept as text are left out. -/
inductive LaidOut : Mode → TypeTerm → List Token → Prop
  | name {m : Mode} {id : String} {u : Token} (hu : u.lexeme = .name id) : LaidOut m (.name id) [u]
  | selection {m : Mode} {package id : String} {u v w : Token} (hu : u.lexeme = .name package)
      (hv : v.lexeme = .symbol ".") (hline : m.lines → v.newLine = false) (hw : w.lexeme = .name id) :
      LaidOut m (.selection package id) [u, v, w]
  | pointer {m : Mode} {t : TypeTerm} {u : Token} {s : List Token} (hu : u.lexeme = .symbol "*")
      (h : LaidOut m t s) : LaidOut m (.pointer t) (u :: s)
  | slice {m : Mode} {t : TypeTerm} {u v : Token} {s : List Token} (hu : u.lexeme = .symbol "[")
      (hv : v.lexeme = .symbol "]") (h : LaidOut m t s) : LaidOut m (.slice t) (u :: v :: s)
  | parenthesised {m : Mode} {t : TypeTerm} {u v : Token} {s : List Token} (hu : u.lexeme = .symbol "(")
      (h : LaidOut .inside t s) (hv : v.lexeme = .symbol ")") :
      LaidOut m (.parenthesised t) (u :: (s ++ [v]))
  | emptyInterface {m : Mode} {u v w : Token} (hu : u.lexeme = .keyword "interface")
      (hv : v.lexeme = .symbol "\x7b") (hw : w.lexeme = .symbol "\x7d") :
      LaidOut m .emptyInterface [u, v, w]

/-- A name or a selection. -/
def IsNamed : TypeTerm → Prop
  | name _ | selection _ _ => True
  | _ => False

variable {m : Mode} {t : TypeTerm} {u : Token} {s rest : List Token}

lemma LaidOut.opens (h : t.LaidOut m s) : Begins (opensType ·.1) s := by
  cases h with
  | name hu => exact ⟨_, _, rfl, .inl ⟨_, hu⟩⟩
  | selection hu _ _ _ => exact ⟨_, _, rfl, .inl ⟨_, hu⟩⟩
  | pointer hu _ => exact ⟨_, _, rfl, .inr (by simp [Token.mark, hu])⟩
  | slice hu _ _ => exact ⟨_, _, rfl, .inr (by simp [Token.mark, hu])⟩
  | parenthesised hu _ _ => exact ⟨_, _, rfl, .inr (by simp [Token.mark, hu])⟩
  | emptyInterface hu _ _ => exact ⟨_, _, rfl, .inr (by simp [Token.mark, hu])⟩

/-- A named type begins with a name. -/
lemma LaidOut.exists_name (h : t.LaidOut m s) (hnamed : t.IsNamed) :
    ∃ u rest id, s = u :: rest ∧ u.lexeme = .name id := by
  cases h with
  | name hu => exact ⟨_, _, _, rfl, hu⟩
  | selection hu _ _ _ => exact ⟨_, _, _, rfl, hu⟩
  | _ => exact hnamed.elim

lemma continues_eq_false {l : Lexeme} (h : u.lexeme ≠ l) : continues m l (u :: rest) = false := by
  simp [continues, h]

/-- A name or a selection has no type arguments, unless a bracket that opens some follows. -/
lemma withArguments_eq {plain : TypeTerm} (h : u.lexeme ≠ .symbol "[" ∨
    Phrase.Fails Grammar.rules (.rule .typeArguments) (u :: rest)) :
    withArguments m plain s (u :: rest) = (plain, u :: rest) := by
  unfold withArguments
  rcases h with hother | hfails
  · rw [continues_eq_false hother]
    rfl
  · rw [hfails.read?]
    split <;> rfl

/-- A name alone. -/
lemma readNamed?_name {id : String} {v : Token} (hv : v.lexeme = .name id)
    (hpoint : u.lexeme ≠ .symbol ".") (h : u.lexeme ≠ .symbol "[" ∨
      Phrase.Fails Grammar.rules (.rule .typeArguments) (u :: rest)) :
    readNamed? m (v :: u :: rest) = some (.name id, u :: rest) := by
  simp [readNamed?, hv, continues_eq_false hpoint, withArguments_eq h]

/-- Names and selections are read, in front of what does not go on with them. -/
lemma LaidOut.takesNamed (h : t.LaidOut m s) (hnamed : t.IsNamed) :
    Takes (readNamed? m) s t (Begins endsType) := by
  rintro _ ⟨x, rest, rfl, hx⟩
  cases h with
  | name hu => exact readNamed?_name hu hx.1 (.inl hx.2)
  | @selection _ _ _ _ v _ hu hv hline hw =>
    have hsame : (m.lines && v.newLine) = false := by
      cases hm : m.lines with
      | false => rfl
      | true => exact hline hm
    simp [readNamed?, continues, hu, hv, hsame, hw, withArguments_eq (.inl hx.2)]
  | _ => exact hnamed.elim

/-- What begins with a name is read as a named type. -/
lemma typeTerm_name {id : String} (hu : u.lexeme = .name id) :
    typeTerm m (u :: rest) = readNamed? m (u :: rest) := by
  unfold typeTerm read?
  simp [hu]

/-- A type is read as it is written, with its parentheses, in front of what does not go on with it. -/
theorem LaidOut.takes (h : t.LaidOut m s) : Takes (typeTerm m) s t (Begins endsType) := by
  induction h with
  | @name m id u hu =>
    intro rest hrest
    have hread := (name (m := m) hu).takesNamed trivial rest hrest
    exact (typeTerm_name hu).trans hread
  | @selection m package id u v w hu hv hline hw =>
    intro rest hrest
    have hread := (selection (m := m) hu hv hline hw).takesNamed trivial rest hrest
    exact (typeTerm_name hu).trans hread
  | @pointer m t u s hu h ih =>
    intro rest hrest
    have hread : read? m (s ++ rest) = some (t, rest) := ih rest hrest
    show read? m (u :: (s ++ rest)) = _
    unfold read?
    simp [hu, hread]
  | @slice m t u v s hu hv h ih =>
    intro rest hrest
    have hread : read? m (s ++ rest) = some (t, rest) := ih rest hrest
    show read? m (u :: v :: (s ++ rest)) = _
    unfold read?
    simp [hu, hv, hread]
  | @parenthesised m t u v s hu h hv ih =>
    intro rest _
    -- the closing parenthesis ends the type inside, whatever stands behind it
    have hclose : Begins endsType (v :: rest) := ⟨v, rest, rfl, by simp [endsType, Token.mark, hv]⟩
    have hread : read? .inside (s ++ v :: rest) = some (t, v :: rest) := ih _ hclose
    show read? m (u :: (s ++ [v] ++ rest)) = _
    rw [List.append_assoc, List.singleton_append]
    unfold read?
    simp [hu, hv, hread]
  | emptyInterface hu hv hw =>
    intro rest _
    show read? _ (_ :: _ :: _ :: rest) = _
    unfold read?
    simp [hu, hv, hw]

end TypeTerm

/-! ## Items of parameter lists -/

/-- What ends an item. -/
def endsItem (m : Mark) : Prop := m.1 = .symbol "," ∨ m.1 = .symbol ")"

lemma endsType_of_endsItem {m : Mark} (h : endsItem m) : endsType m := by
  rcases h with h | h <;> simp [endsType, h]

lemma takes_itemEnd : Takes itemEnd [] () (Begins endsItem) :=
  .phrase fun _ _ ht => Grammar.read?_itemEnd ht

section Items

variable {α : Type} {m : Mode} {t : TypeTerm} {u : Token} {s rest : List Token}

lemma sign_bind_eq_none {text : String} {f : Unit → Reader α} (hu : u.lexeme ≠ .symbol text) :
    (sign text >>= f) (u :: rest) = none :=
  Refuses.sign.bind.at_begin ⟨u, rest, rfl, hu⟩

lemma name_bind_eq {id : String} {f : String → Reader α} (hu : u.lexeme = .name id) :
    (Reader.name >>= f) (u :: rest) = f id rest := by
  show (Option.map (·, rest) _).bind _ = _
  rw [hu]
  rfl

lemma name_bind_eq_none {f : String → Reader α} (hu : ∀ id, u.lexeme ≠ .name id) :
    (Reader.name >>= f) (u :: rest) = none :=
  Refuses.name.bind.at_begin ⟨u, rest, rfl, hu⟩

namespace TypeTerm.LaidOut

/-- No type begins with dots. -/
lemma dots_eq_none (h : t.LaidOut m s) {f : Unit → Reader α} :
    (sign "..." >>= f) (s ++ rest) = none := by
  obtain ⟨u, s, rfl, hu⟩ := h.opens
  refine sign_bind_eq_none ?_
  rcases hu with ⟨id, hu⟩ | hu
  · simp [show u.lexeme = .name id from hu]
  · intro hdots
    simp [Token.mark, hdots] at hu

/-- In a type alone a name is followed by a point, or by the end of the item. -/
lemma name_bind_eq_none (h : t.LaidOut m s) {f : String → Reader α}
    (hf : ∀ id, Refuses (f id) [] (·.1 ∈ [.symbol ".", .symbol ",", .symbol ")"]))
    (hrest : Begins endsItem rest) : (Reader.name >>= f) (s ++ rest) = none := by
  cases h with
  | @name _ id u hu =>
    refine (name_bind_eq hu).trans ((hf id).at_begin (hrest.mono fun m hm => ?_))
    rcases hm with hm | hm <;> simp [hm]
  | selection hu hv hline hw =>
    refine (name_bind_eq hu).trans ((hf _).at_begin ⟨_, _, rfl, ?_⟩)
    simp [Token.mark, hv]
  | pointer hu _ => exact Source.name_bind_eq_none (by simp [hu])
  | slice hu _ _ => exact Source.name_bind_eq_none (by simp [hu])
  | parenthesised hu _ _ => exact Source.name_bind_eq_none (by simp [hu])
  | emptyInterface hu _ _ => exact Source.name_bind_eq_none (by simp [hu])

end TypeTerm.LaidOut

end Items

namespace ParamItem

/-- The type of an item. -/
def type : ParamItem → TypeTerm
  | bare t | named _ t | variadic _ t => t

/-- The rows that an item can be written as. Where some part of its type is of a shape that is kept as text,
these are all that are read so. -/
inductive LaidOut : ParamItem → List Token → Prop
  | bare {t : TypeTerm} {s : List Token} (h : t.LaidOut .inside s) : LaidOut (.bare t) s
  | named {id : String} {t : TypeTerm} {u : Token} {s : List Token} (hu : u.lexeme = .name id)
      (h : t.LaidOut .inside s) : LaidOut (.named id t) (u :: s)
  | variadic {t : TypeTerm} {u : Token} {s : List Token} (hu : u.lexeme = .symbol "...")
      (h : t.LaidOut .inside s) : LaidOut (.variadic none t) (u :: s)
  | namedVariadic {id : String} {t : TypeTerm} {u v : Token} {s : List Token} (hu : u.lexeme = .name id)
      (hv : v.lexeme = .symbol "...") (h : t.LaidOut .inside s) :
      LaidOut (.variadic (some id) t) (u :: v :: s)
  | other {i : ParamItem} {s : List Token} (hother : i.type.expr.isSupported = false)
      (h : Takes paramItem s i (Begins endsItem)) : LaidOut i s

/-- An item is read as it is written, in front of what ends it. -/
lemma LaidOut.takes {i : ParamItem} {s : List Token} (h : i.LaidOut s) :
    Takes paramItem s i (Begins endsItem) := by
  cases h with
  | @bare t s h =>
    have hread : Takes (do let t ← typeTerm .inside; itemEnd; return ParamItem.bare t) s (.bare t)
        (Begins endsItem) :=
      h.takes.bind_last (takes_itemEnd.bind_nil .pure fun _ hrest => hrest)
        fun rest hrest => hrest.mono fun _ => endsType_of_endsItem
    -- there are no dots in front, none behind a name, and no type behind a name either
    refine .orElse_right (fun rest _ => h.dots_eq_none) ?_
    refine .orElse_right (fun rest hrest => h.name_bind_eq_none (fun id => Refuses.sign.bind.mono ?_)
      hrest) ?_
    · rintro m hm heq
      simp [heq] at hm
    refine .orElse_right (fun rest hrest => h.name_bind_eq_none (fun id => Refuses.type.bind.mono ?_)
      hrest) hread
    intro m hm
    simp only [List.mem_cons, List.not_mem_nil, or_false] at hm ⊢
    tauto
  | @named id t u s hu h =>
    have hread : Takes (do let t ← typeTerm .inside; itemEnd; return ParamItem.named id t) s
        (.named id t) (Begins endsItem) :=
      h.takes.bind_last (takes_itemEnd.bind_nil .pure fun _ hrest => hrest)
        fun rest hrest => hrest.mono fun _ => endsType_of_endsItem
    refine .orElse_right (fun rest _ => sign_bind_eq_none (by simp [hu])) ?_
    refine .orElse_right (fun rest _ => (name_bind_eq hu).trans h.dots_eq_none) ?_
    exact (Takes.name_bind hu hread).orElse_left
  | variadic hu h =>
    have hread := h.takes.mono fun rest (hrest : Begins endsItem rest) =>
      hrest.mono fun _ => endsType_of_endsItem
    exact (Takes.sign_bind hu hread.bind_pure).orElse_left
  | namedVariadic hu hv h =>
    have hread := h.takes.mono fun rest (hrest : Begins endsItem rest) =>
      hrest.mono fun _ => endsType_of_endsItem
    refine .orElse_right (fun rest _ => sign_bind_eq_none (by simp [hu])) ?_
    exact (Takes.name_bind hu (.sign_bind hv hread.bind_pure)).orElse_left
  | other _ h => exact h

/-! ## Parameter lists -/

/-- No item begins with the parenthesis that closes a list. -/
lemma refuses_paramItem : Refuses paramItem [] (·.1 = .symbol ")") :=
  .orElse (Refuses.sign.bind.mono fun m hm => by simp [hm]) <|
    .orElse (Refuses.name.bind.mono fun m hm => by simp [hm]) <|
    .orElse (Refuses.name.bind.mono fun m hm => by simp [hm])
      (Refuses.type.bind.mono fun m hm => by simp [hm])

/-- The rows of a list of items: in parentheses, with commas between them. A comma may follow the last
item. -/
inductive ListLaidOut : List ParamItem → List Token → Prop
  | empty {u v : Token} (hu : u.lexeme = .symbol "(") (hv : v.lexeme = .symbol ")") :
      ListLaidOut [] [u, v]
  | items {i : ParamItem} {items : List ParamItem} {u v : Token} {s rest : List Token}
      {comma : Option Token} (hu : u.lexeme = .symbol "(") (h : i.LaidOut s)
      (hrest : InTurn (afterComma LaidOut) items rest) (hcomma : ∀ w ∈ comma, w.lexeme = .symbol ",")
      (hv : v.lexeme = .symbol ")") :
      ListLaidOut (i :: items) (u :: (s ++ rest ++ (comma.toList ++ [v])))

/-- The end of a list: a comma or none, and the closing parenthesis. -/
lemma takes_listEnd {comma : Option Token} {v : Token} (hcomma : ∀ w ∈ comma, w.lexeme = .symbol ",")
    (hv : v.lexeme = .symbol ")") {α : Type} (a : α) :
    Takes (do let _ ← optional (sign ","); sign ")"; return a) (comma.toList ++ [v]) a
      fun _ => True := by
  have hclose : Takes (do sign ")"; return a) [v] a fun _ => True := .sign_bind hv .pure
  cases comma with
  | none =>
    have hnone : Takes (optional (sign ",")) [] none (Begins (·.1 = .symbol ")")) :=
      .optional_none fun rest hrest => (Refuses.sign.mono fun m hm => by simp [hm]).at_begin hrest
    exact hnone.bind_nil hclose fun rest _ => ⟨v, rest, rfl, hv⟩
  | some w =>
    have hsign : Takes (sign ",") [w] () fun _ => True := .next (by simp [hcomma w rfl])
    exact hsign.optional_some.bind hclose fun _ _ => trivial

/-- A list is read as its items. -/
lemma ListLaidOut.takes {items : List ParamItem} {s : List Token} (h : ListLaidOut items s) :
    Takes parameters s (ParamGroup.ofItems [] items) fun _ => True := by
  cases h with
  | @empty u v hu hv =>
    have hnone : Takes (optional (commaSeparated paramItem)) [] none (Begins (·.1 = .symbol ")")) :=
      .optional_none fun rest hrest => refuses_paramItem.bind.at_begin hrest
    have hend : ∀ w ∈ (none : Option Token), w.lexeme = .symbol "," := by simp
    exact .sign_bind hu (hnone.bind_nil (takes_listEnd hend hv _) fun rest _ => ⟨v, rest, rfl, hv⟩)
  | @items i items u v s rest comma hu h hrest hcomma hv =>
    let ending : List Token → Prop := fun tail => ∃ tail', tail = comma.toList ++ v :: tail'
    have hends : ∀ tail, ending tail → Begins endsItem tail := by
      rintro _ ⟨tail, rfl⟩
      cases comma with
      | none => exact ⟨v, tail, rfl, .inr hv⟩
      | some w => exact ⟨w, v :: tail, rfl, .inl (hcomma w rfl)⟩
    -- behind the last item there is no comma, or one that the closing parenthesis follows
    have hstop : ∀ tail, ending tail → (do sign ","; paramItem) tail = none := by
      rintro _ ⟨tail, rfl⟩
      cases comma with
      | none => exact sign_bind_eq_none (by simp [hv])
      | some w =>
        have hsign : Takes (sign ",") [w] () fun _ => True := .next (by simp [hcomma w rfl])
        exact hsign.bind_eq_none trivial (refuses_paramItem.at_begin ⟨v, tail, rfl, hv⟩)
    have hread : InTurn (afterComma fun i s => Takes paramItem s i (Begins endsItem)) items rest := by
      refine hrest.mono fun i s hs => ?_
      obtain ⟨w, s, rfl, hw, hs⟩ := hs
      exact ⟨w, s, rfl, hw, hs.takes⟩
    have hall := h.takes.commaSeparated hread (fun m hm => .inl hm) hends hstop
    exact .sign_bind hu (hall.optional_some.bind (takes_listEnd hcomma hv _)
      fun tail _ => ⟨tail, by simp⟩)

end ParamItem

namespace ParamGroup

/-- The rows of a list of groups. -/
def ListLaidOut (groups : List ParamGroup) (s : List Token) : Prop :=
  ∃ items, ParamItem.ListLaidOut items s ∧ ofItems [] items = groups

/-- A list begins with its parenthesis. -/
lemma ListLaidOut.opens {groups : List ParamGroup} {s : List Token} (h : ListLaidOut groups s) :
    Begins (·.1 = .symbol "(") s := by
  obtain ⟨items, hitems, -⟩ := h
  cases hitems with
  | empty hu _ => exact ⟨_, _, rfl, hu⟩
  | items hu _ _ _ _ => exact ⟨_, _, rfl, hu⟩

lemma ListLaidOut.takes {groups : List ParamGroup} {s : List Token} (h : ListLaidOut groups s) :
    Takes parameters s groups fun _ => True := by
  obtain ⟨items, hitems, rfl⟩ := h
  exact hitems.takes

end ParamGroup

/-! ## Signatures -/

/-- What ends the header of a method or a function: the next line, or a body. -/
def endsHeader (m : Mark) : Prop := m.2 = true ∧ endsType m ∨ m = (.symbol "\x7b", false)

lemma endsType_of_endsHeader {m : Mark} (h : endsHeader m) : endsType m := by
  rcases h with ⟨-, h⟩ | rfl
  · exact h
  · simp [endsType]

namespace SignatureTerm

/-- The rows of results, on the line on which the parameters end: a list, a single type that does not
begin with a parenthesis, or nothing. -/
inductive ResultsLaidOut : List ParamGroup → List Token → Prop
  | none : ResultsLaidOut [] []
  | list {groups : List ParamGroup} {s : List Token} (hline : Begins (·.2 = false) s)
      (h : ParamGroup.ListLaidOut groups s) : ResultsLaidOut groups s
  | single {t : TypeTerm} {s : List Token} (hline : Begins (·.2 = false) s)
      (hopens : Begins (·.1 ≠ .symbol "(") s)
      (h : t.LaidOut .block s ∨
        t.expr.isSupported = false ∧ Takes (typeTerm .block) s t (Begins endsType)) :
      ResultsLaidOut [⟨[], false, t⟩] s

/-- Results that are there, on the line of what they belong to. -/
def writtenResults : Reader (List ParamGroup) := do
  sameLine .block
  parameters <|> (do let t ← typeTerm .block; return [⟨[], false, t⟩])

/-- At the end of a header there are no results. -/
lemma writtenResults_eq_none {rest : List Token} (h : Begins endsHeader rest) :
    writtenResults rest = none := by
  obtain ⟨t, tail, rfl, ht⟩ := h
  rcases ht with ⟨hline, -⟩ | hbrace
  · exact Refuses.sameLine.bind.at_begin ⟨t, tail, rfl, hline⟩
  · have hparameters : Refuses parameters [] (·.1 = .symbol "\x7b") :=
      Refuses.sign.bind.mono fun m hm => by simp [hm]
    have htype : Refuses (do let t ← typeTerm .block; return [(⟨[], false, t⟩ : ParamGroup)]) []
        (·.1 = .symbol "\x7b") := Refuses.type.bind.mono fun m hm => by simp [hm]
    exact Takes.sameLine.bind_eq_none ⟨t, tail, rfl, congrArg Prod.snd hbrace⟩
      ((hparameters.orElse htype).at_begin ⟨t, tail, rfl, congrArg Prod.fst hbrace⟩)

/-- Results are read as they are written, at the end of the header. -/
lemma ResultsLaidOut.takes {groups : List ParamGroup} {s : List Token} (h : ResultsLaidOut groups s) :
    Takes Source.results s groups (Begins endsHeader) := by
  suffices hread : ∃ read : Option (List ParamGroup), read.getD [] = groups ∧
      Takes (optional writtenResults) s read (Begins endsHeader) by
    obtain ⟨read, rfl, hread⟩ := hread
    exact hread.bind_pure
  cases h with
  | none =>
    exact ⟨Option.none, rfl, .optional_none fun rest => writtenResults_eq_none⟩
  | list hline h =>
    have hread : Takes writtenResults s groups (Begins endsHeader) :=
      Takes.sameLine.bind_nil (h.takes.mono fun _ _ => trivial).orElse_left fun rest _ =>
        hline.append rest
    exact ⟨some groups, rfl, hread.optional_some⟩
  | @single t s hline hopens h =>
    have htype : Takes (typeTerm .block) s t (Begins endsType) := by
      rcases h with h | ⟨-, h⟩
      · exact h.takes
      · exact h
    have hsole : Takes (do let t ← typeTerm .block; return [(⟨[], false, t⟩ : ParamGroup)]) s
        [⟨[], false, t⟩] (Begins endsHeader) :=
      (htype.mono fun rest hrest => hrest.mono fun _ => endsType_of_endsHeader).bind_pure
    have hlist : ∀ rest, Begins endsHeader rest → parameters (s ++ rest) = Option.none := by
      obtain ⟨u, s, rfl, hu⟩ := hopens
      exact fun _ _ => sign_bind_eq_none hu
    have hread : Takes writtenResults s [⟨[], false, t⟩] (Begins endsHeader) :=
      Takes.sameLine.bind_nil (.orElse_right hlist hsole) fun rest _ => hline.append rest
    exact ⟨some [⟨[], false, t⟩], rfl, hread.optional_some⟩

/-- The rows of a signature. -/
def LaidOut (g : SignatureTerm) (s : List Token) : Prop :=
  ∃ front back, s = front ++ back ∧ ParamGroup.ListLaidOut g.params front ∧
    ResultsLaidOut g.results back

/-- A signature is read as it is written, in front of what ends the header. -/
theorem LaidOut.takes {g : SignatureTerm} {s : List Token} (h : g.LaidOut s) :
    Takes read s g (Begins endsHeader) := by
  obtain ⟨front, back, rfl, hparams, hresults⟩ := h
  exact hparams.takes.bind hresults.takes.bind_pure fun _ _ => trivial

/-- A signature begins with the parenthesis of its parameters. -/
lemma LaidOut.opens {g : SignatureTerm} {s : List Token} (h : g.LaidOut s) :
    Begins (·.1 = .symbol "(") s := by
  obtain ⟨front, back, rfl, hparams, -⟩ := h
  exact hparams.opens.append back

end SignatureTerm

end DeclGen.Source
