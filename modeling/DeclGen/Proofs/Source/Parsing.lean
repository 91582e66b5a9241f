import DeclGen.Proofs.Source.Spelling
import DeclGen.Source.Reader
import Mathlib.Data.List.Basic

/-!
# What readers make of a row

`Takes` says of a reader that it makes a value of a row of tokens and leaves what stands behind it, if that is
of some class, and `Reads` the same of all rows with certain marks. `Refuses` says that it fails there. They go
through sequences, choices and repetitions, so that what a rule of the reader makes of a row is shown from its
parts.
-/

namespace DeclGen.Source

/-! ## Rows and what stands behind them -/

/-- The tokens begin with one whose mark is of a class. -/
def Begins (class' : Mark → Prop) (s : List Token) : Prop := ∃ t rest, s = t :: rest ∧ class' t.mark

/-- The reader makes `a` of the tokens and leaves those behind them, if these are of the class `behind`. -/
def Takes {α : Type} (r : Reader α) (s : List Token) (a : α) (behind : List Token → Prop) : Prop :=
  ∀ rest, behind rest → r (s ++ rest) = some (a, rest)

/-- The reader makes `a` of every row with these marks and leaves the tokens behind it, if the mark of the
first of those is of the class `behind`. -/
def Reads {α : Type} (r : Reader α) (row : List Mark) (a : α) (behind : Mark → Prop) : Prop :=
  ∀ s t rest, s.map Token.mark = row → behind t.mark → r (s ++ t :: rest) = some (a, t :: rest)

/-- The reader fails on every row with these marks, if the mark of the token behind it is of the class
`behind`. -/
def Refuses {α : Type} (r : Reader α) (row : List Mark) (behind : Mark → Prop) : Prop :=
  ∀ s t rest, s.map Token.mark = row → behind t.mark → r (s ++ t :: rest) = none

/-- Any mark. -/
def anyMark (_ : Mark) : Prop := True

namespace Begins

variable {class' wider : Mark → Prop} {s : List Token}

lemma mono (h : Begins class' s) (hclass : ∀ m, class' m → wider m) : Begins wider s := by
  obtain ⟨t, rest, rfl, ht⟩ := h
  exact ⟨t, rest, rfl, hclass _ ht⟩

@[simp] lemma cons_iff {t : Token} : Begins class' (t :: s) ↔ class' t.mark := by
  constructor
  · rintro ⟨_, _, heq, ht⟩
    obtain ⟨rfl, rfl⟩ := List.cons.inj heq
    exact ht
  · exact fun ht => ⟨t, s, rfl, ht⟩

lemma append (h : Begins class' s) (rest : List Token) : Begins class' (s ++ rest) := by
  obtain ⟨t, tail, rfl, ht⟩ := h
  exact ⟨t, tail ++ rest, rfl, ht⟩

end Begins

section Sequences

variable {α β : Type} {r r' : Reader α} {f : α → Reader β} {s s' rest : List Token} {a : α} {b : β}
  {behind behind' : List Token → Prop} {class' wider : Mark → Prop} {row : List Mark}

lemma reads_of_takes (h : ∀ s, s.map Token.mark = row → Takes r s a (Begins class')) :
    Reads r row a class' :=
  fun s t rest hs ht => h s hs _ ⟨t, rest, rfl, ht⟩

/-- A sequence fails where its first part does. -/
lemma bind_eq_none (h : r s = none) : (r >>= f) s = none := by
  show (r s).bind _ = none
  rw [h]
  rfl

/-! ### Refusing -/

namespace Refuses

lemma eq_none (h : Refuses r row class') (hs : s.map Token.mark = row) (hrest : Begins class' rest) :
    r (s ++ rest) = none := by
  obtain ⟨t, rest, rfl, ht⟩ := hrest
  exact h s t rest hs ht

/-- What is refused in front of a class of marks is refused where the tokens begin so. -/
lemma at_begin (h : Refuses r [] class') (hs : Begins class' s) : r s = none :=
  h.eq_none (s := []) rfl hs

lemma mono (h : Refuses r row class') (hclass : ∀ m, wider m → class' m) : Refuses r row wider :=
  fun s t rest hs ht => h s t rest hs (hclass _ ht)

/-- What is refused in front of the first mark of a row is refused there. -/
lemma at_head {w : Mark} (h : Refuses r [] class') (hw : class' w) : Refuses r (w :: row) wider := by
  intro s t rest hs _
  obtain ⟨u, s, rfl, hu, -⟩ := List.map_eq_cons_iff.mp hs
  exact h.at_begin ⟨u, s ++ t :: rest, rfl, by rwa [hu]⟩

lemma bind (h : Refuses r row class') : Refuses (r >>= f) row class' :=
  fun s t rest hs ht => bind_eq_none (h s t rest hs ht)

lemma orElse (h : Refuses r row class') (h' : Refuses r' row class') : Refuses (r <|> r') row class' := by
  intro s t rest hs ht
  show (r (s ++ t :: rest) <|> r' (s ++ t :: rest)) = _
  rw [h s t rest hs ht]
  exact h' s t rest hs ht

/-- A token without a value is refused. -/
lemma next {value : Lexeme → Option α} : Refuses (Reader.next value) [] (fun m => value m.1 = none) := by
  intro s t rest hs ht
  obtain rfl : s = [] := by simpa using hs
  show (value t.lexeme).map (·, rest) = none
  rw [show value t.lexeme = none from ht]
  rfl

lemma sign {text : String} : Refuses (Reader.sign text) [] (·.1 ≠ .symbol text) :=
  next.mono fun m hm => by simpa using hm

lemma key {text : String} : Refuses (Reader.key text) [] (·.1 ≠ .keyword text) :=
  next.mono fun m hm => by simpa using hm

lemma name : Refuses Reader.name [] (fun m => ∀ id, m.1 ≠ .name id) :=
  next.mono fun m hm => by
    split
    · rename_i id hid
      exact absurd hid (hm id)
    · rfl

/-- Behind a keyword the rest is refused. -/
lemma key_bind {text : String} {newLine : Bool} {g : Unit → Reader β} (h : Refuses (g ()) row class') :
    Refuses (Reader.key text >>= g) ((.keyword text, newLine) :: row) class' := by
  intro s t rest hs ht
  obtain ⟨u, s, rfl, hu, hs⟩ := List.map_eq_cons_iff.mp hs
  have hkey : u.lexeme = .keyword text := congrArg Prod.fst hu
  have hread : Reader.key text (u :: s ++ t :: rest) = some ((), s ++ t :: rest) := by
    simp [Reader.key, Reader.next, hkey]
  show (Reader.key text (u :: s ++ t :: rest)).bind _ = none
  rw [hread]
  exact h s t rest hs ht

lemma sameLine : Refuses (Reader.sameLine .block) [] (·.2 = true) := by
  intro s t rest hs ht
  obtain rfl : s = [] := by simpa using hs
  have hline : t.newLine = true := ht
  simp [Reader.sameLine, hline, Mode.block]

end Refuses

/-! ### Taking -/

namespace Takes

lemma mono (h : Takes r s a behind) (hbehind : ∀ rest, behind' rest → behind rest) :
    Takes r s a behind' :=
  fun rest hrest => h rest (hbehind rest hrest)

lemma pure : Takes (Pure.pure a) [] a behind := fun _ _ => rfl

/-- A sequence: the first part may be followed by what the second one takes. -/
lemma bind (h : Takes r s a behind) (hf : Takes (f a) s' b behind')
    (hnext : ∀ rest, behind' rest → behind (s' ++ rest)) : Takes (r >>= f) (s ++ s') b behind' := by
  intro rest hrest
  have hfirst : r (s ++ s' ++ rest) = some (a, s' ++ rest) := by
    rw [List.append_assoc]
    exact h _ (hnext rest hrest)
  show (r (s ++ s' ++ rest)).bind (fun x => f x.1 x.2) = _
  rw [hfirst]
  exact hf rest hrest

/-- A sequence fails where its second part does. -/
lemma bind_eq_none (h : Takes r s a behind) (hrest : behind rest) (hf : f a rest = none) :
    (r >>= f) (s ++ rest) = none := by
  show (r (s ++ rest)).bind (fun x => f x.1 x.2) = none
  rw [h rest hrest]
  exact hf

/-- A sequence whose first part takes nothing. -/
lemma bind_nil (h : Takes r [] a behind) (hf : Takes (f a) s b behind')
    (hnext : ∀ rest, behind' rest → behind (s ++ rest)) : Takes (r >>= f) s b behind' :=
  h.bind hf hnext

/-- A sequence whose second part takes nothing. -/
lemma bind_last (h : Takes r s a behind) (hf : Takes (f a) [] b behind')
    (hnext : ∀ rest, behind' rest → behind rest) : Takes (r >>= f) s b behind' := by
  have hbind := h.bind hf hnext
  rwa [List.append_nil] at hbind

/-- What is taken, in another form. -/
lemma bind_pure {g : α → β} (h : Takes r s a behind) :
    Takes (do let x ← r; return g x) s (g a) behind :=
  h.bind_last pure fun _ hrest => hrest

lemma map {g : α → β} (h : Takes r s a behind) : Takes (g <$> r) s (g a) behind := by
  rw [← bind_pure_comp]
  exact h.bind_pure

lemma orElse_left (h : Takes r s a behind) : Takes (r <|> r') s a behind := by
  intro rest hrest
  show (r (s ++ rest) <|> r' (s ++ rest)) = _
  rw [h rest hrest]
  rfl

lemma orElse_right (h : ∀ rest, behind rest → r (s ++ rest) = none) (h' : Takes r' s a behind) :
    Takes (r <|> r') s a behind := by
  intro rest hrest
  show (r (s ++ rest) <|> r' (s ++ rest)) = _
  rw [h rest hrest]
  exact h' rest hrest

lemma optional_some (h : Takes r s a behind) : Takes (optional r) s (some a) behind :=
  h.map.orElse_left

lemma optional_none (h : ∀ rest, behind rest → r rest = none) : Takes (optional r) [] none behind := by
  refine orElse_right (fun rest hrest => ?_) pure
  rw [← bind_pure_comp]
  exact Source.bind_eq_none (h rest hrest)

/-! ### Single tokens -/

lemma sameLine {m : Mode} : Takes (Reader.sameLine m) [] () (Begins (·.2 = false)) := by
  rintro _ ⟨t, rest, rfl, ht⟩
  have hline : t.newLine = false := ht
  simp [Reader.sameLine, hline]

/-- The end of a line is a terminator, and stays where it is. -/
lemma terminator : Takes Reader.terminator [] () (Begins (·.2 = true)) := by
  rintro _ ⟨t, rest, rfl, ht⟩
  have hline : t.newLine = true := ht
  simp [Reader.terminator, terminator?, hline]

lemma next {value : Lexeme → Option α} {u : Token} (h : value u.lexeme = some a) :
    Takes (Reader.next value) [u] a behind := by
  intro rest _
  show (value u.lexeme).map (·, rest) = _
  rw [h]
  rfl

lemma next_bind {value : Lexeme → Option α} {u : Token} (h : value u.lexeme = some a)
    (hf : Takes (f a) s b behind) : Takes (Reader.next value >>= f) (u :: s) b behind := by
  have hnext : Takes (Reader.next value) [u] a fun _ => True := next h
  exact hnext.bind hf fun _ _ => trivial

variable {u : Token} {text id : String}

lemma sign_bind {f : Unit → Reader β} (hu : u.lexeme = .symbol text) (hf : Takes (f ()) s b behind) :
    Takes (Reader.sign text >>= f) (u :: s) b behind :=
  next_bind (by simp [hu]) hf

lemma key_bind {f : Unit → Reader β} (hu : u.lexeme = .keyword text) (hf : Takes (f ()) s b behind) :
    Takes (Reader.key text >>= f) (u :: s) b behind :=
  next_bind (by simp [hu]) hf

lemma name_bind {f : String → Reader β} (hu : u.lexeme = .name id) (hf : Takes (f id) s b behind) :
    Takes (Reader.name >>= f) (u :: s) b behind :=
  next_bind (by simp [hu]) hf

end Takes

end Sequences

/-! ## Repetitions -/

/-- Values whose rows stand one after the other. -/
inductive InTurn {α : Type} (P : α → List Token → Prop) : List α → List Token → Prop
  | nil : InTurn P [] []
  | cons {a : α} {l : List α} {s rest : List Token} (h : P a s) (hrest : InTurn P l rest) :
      InTurn P (a :: l) (s ++ rest)

/-- Rows with certain marks one after the other. -/
lemma inTurn_of_flatMap {α β : Type} {row : β → List Mark} {value : β → α}
    {P : α → List Token → Prop} {items : List β}
    (hP : ∀ x ∈ items, ∀ s : List Token, s.map Token.mark = row x → P (value x) s) {s : List Token}
    (hs : s.map Token.mark = items.flatMap row) : InTurn P (items.map value) s := by
  induction items generalizing s with
  | nil =>
    obtain rfl : s = [] := by simpa using hs
    exact .nil
  | cons x items ih =>
    obtain ⟨hx, hitems⟩ := List.forall_mem_cons.mp hP
    obtain ⟨front, rest, rfl, hfront, hrest⟩ := List.map_eq_append_iff.mp hs
    exact .cons (hx front hfront) (ih hitems hrest)

/-- The reader makes `a` of the row, behind which another such row may stand. -/
structure TakesInTurn {α : Type} (r : Reader α) (behind : Mark → Prop) (a : α) (s : List Token) :
    Prop where
  takes : Takes r s a (Begins behind)
  opens : Begins behind s

namespace InTurn

variable {α : Type} {P Q : α → List Token → Prop} {l : List α} {s : List Token}

lemma mono (h : InTurn P l s) (hPQ : ∀ a s, P a s → Q a s) : InTurn Q l s := by
  induction h with
  | nil => exact nil
  | cons h _ ih => exact cons (hPQ _ _ h) ih

variable {class' : Mark → Prop}

/-- There are no more values than tokens. -/
lemma length_le (h : InTurn P l s) (hopens : ∀ a s, P a s → Begins class' s) : l.length ≤ s.length := by
  induction h with
  | nil => exact Nat.le_refl 0
  | cons h _ ih =>
    obtain ⟨t, tail, rfl, -⟩ := hopens _ _ h
    simp only [List.length_cons, List.length_append]
    omega

/-- Rows that each begin with a mark of a class begin so together with what stands behind them. -/
lemma begins (h : InTurn P l s) (hopens : ∀ a s, P a s → Begins class' s) {rest : List Token}
    (hrest : Begins class' rest) : Begins class' (s ++ rest) := by
  cases h with
  | nil => exact hrest
  | cons h _ =>
    rw [List.append_assoc]
    exact (hopens _ _ h).append _

end InTurn

/-- A comma in front of a row. -/
def afterComma {α : Type} (P : α → List Token → Prop) (a : α) (s : List Token) : Prop :=
  ∃ u rest, s = u :: rest ∧ u.lexeme = .symbol "," ∧ P a rest

namespace Takes

variable {α : Type} {r : Reader α} {a : α} {l : List α} {s s' : List Token} {behind : Mark → Prop}
  {last : List Token → Prop}

/-- One value more. -/
lemma manyWithin_cons (h : Takes r s a (Begins behind)) {fuel : Nat}
    (hrest : Takes (Reader.manyWithin fuel r) s' l last)
    (hnext : ∀ rest, last rest → Begins behind (s' ++ rest)) :
    Takes (Reader.manyWithin (fuel + 1) r) (s ++ s') (a :: l) last := by
  have hvalues : Takes (do let l ← Reader.manyWithin fuel r; return a :: l) s' (a :: l) last :=
    hrest.bind_pure
  exact orElse_left (h.bind hvalues hnext)

/-- Values one after the other, up to where no further one can be read. -/
lemma manyWithin (h : InTurn (TakesInTurn r behind) l s) (hlast : ∀ rest, last rest → Begins behind rest)
    (hend : ∀ rest, last rest → r rest = none) {fuel : Nat} (hfuel : l.length ≤ fuel) :
    Takes (Reader.manyWithin fuel r) s l last := by
  induction h generalizing fuel with
  | nil =>
    cases fuel with
    | zero => exact pure
    | succ fuel => exact orElse_right (fun rest hrest => Source.bind_eq_none (hend rest hrest)) pure
  | @cons a l s s' h hrest ih =>
    obtain ⟨fuel, rfl⟩ : ∃ n, fuel = n + 1 := ⟨fuel - 1, by simp at hfuel; omega⟩
    exact h.takes.manyWithin_cons (ih (by simpa using hfuel)) fun rest hrest' =>
      hrest.begins (fun _ _ h => h.opens) (hlast rest hrest')

/-- Values one after the other; each takes a token, so that there are enough tries. -/
lemma many (h : InTurn (TakesInTurn r behind) l s) (hlast : ∀ rest, last rest → Begins behind rest)
    (hend : ∀ rest, last rest → r rest = none) : Takes (Reader.many r) s l last := by
  intro rest hrest
  have hlength : l.length ≤ (s ++ rest).length := by
    have hvalues := h.length_le fun _ _ h => h.opens
    rw [List.length_append]
    omega
  exact manyWithin h hlast hend hlength rest hrest

/-- A first value, whose row need not be one that may follow another. -/
lemma many_cons (hfirst : Takes r s a (Begins behind)) (h : InTurn (TakesInTurn r behind) l s')
    (hlast : ∀ rest, last rest → Begins behind rest) (hend : ∀ rest, last rest → r rest = none) :
    Takes (Reader.many r) (s ++ s') (a :: l) last := by
  intro rest hrest
  have hvalues := h.length_le fun _ _ h => h.opens
  obtain ⟨fuel, hfuel, hlength⟩ : ∃ n, (s ++ s' ++ rest).length = n + 1 ∧ l.length ≤ n := by
    obtain ⟨t, tail, rfl, -⟩ := hlast rest hrest
    exact ⟨s.length + s'.length + tail.length, by simp; omega, by omega⟩
  have hall := hfirst.manyWithin_cons (manyWithin h hlast hend hlength) fun rest hrest =>
    h.begins (fun _ _ h => h.opens) (hlast rest hrest)
  show Reader.manyWithin (s ++ s' ++ rest).length r _ = _
  rw [hfuel]
  exact hall rest hrest

/-- Values with commas between them, up to where no further one follows a comma. -/
lemma commaSeparated (h : Takes r s a (Begins behind))
    (hrest : InTurn (afterComma fun a s => Takes r s a (Begins behind)) l s')
    (hcomma : ∀ m, m.1 = .symbol "," → behind m) (hlast : ∀ rest, last rest → Begins behind rest)
    (hend : ∀ rest, last rest → (do Reader.sign ","; r) rest = none) :
    Takes (Reader.commaSeparated r) (s ++ s') (a :: l) last := by
  have hnext : InTurn (TakesInTurn (do Reader.sign ","; r) behind) l s' := by
    refine hrest.mono fun a s hs => ?_
    obtain ⟨u, rest, rfl, hu, hread⟩ := hs
    exact ⟨sign_bind hu hread, u, rest, rfl, hcomma _ hu⟩
  have hvalues : Takes (do let l ← Reader.many (do Reader.sign ","; r); return a :: l) s' (a :: l)
      last := (many hnext hlast hend).bind_pure
  exact h.bind hvalues fun rest hrest' => hnext.begins (fun _ _ h => h.opens) (hlast rest hrest')

/-- Rows on lines of their own between braces. The closing brace may follow the opening one, but else it
stands on a line of its own too. -/
lemma braced {u v : Token} (hopen : u.lexeme = .symbol "\x7b") (h : InTurn (TakesInTurn r behind) l s)
    (hline : ∀ m, behind m → m.2 = true) (hclose : v.lexeme = .symbol "\x7d")
    (hlast : l ≠ [] → behind v.mark) (hend : Refuses r [] (·.1 = .symbol "\x7d")) :
    Takes (Reader.braced r) (u :: (s ++ [v])) l fun _ => True := by
  let closing : List Token → Prop := fun rest => ∃ tail, rest = v :: tail
  have hstop : ∀ rest, closing rest → r rest = none := by
    rintro _ ⟨tail, rfl⟩
    exact hend.at_begin ⟨v, tail, rfl, hclose⟩
  suffices hparts : ∃ parts : Option (List α), parts.getD [] = l ∧
      Takes (optional do
        let a ← r
        let rest ← Reader.many (do Reader.terminator; r)
        let _ ← optional Reader.terminator
        return a :: rest) s parts closing by
    obtain ⟨parts, rfl, hparts⟩ := hparts
    exact sign_bind hopen (hparts.bind (sign_bind hclose pure) fun rest _ => ⟨rest, rfl⟩)
  cases h with
  | nil => exact ⟨none, rfl, optional_none fun rest hrest => Source.bind_eq_none (hstop rest hrest)⟩
  | @cons a l s s' h hrest =>
    have hbrace : behind v.mark := hlast (by simp)
    have hbegins : ∀ rest, closing rest → Begins behind rest := by
      rintro _ ⟨tail, rfl⟩
      exact ⟨v, tail, rfl, hbrace⟩
    -- a terminator takes nothing here: each line, and the closing brace, is one by beginning
    have hnext : InTurn (TakesInTurn (do Reader.terminator; r) behind) l s' := by
      refine hrest.mono fun a s hs => ⟨?_, hs.opens⟩
      exact terminator.bind_nil hs.takes fun rest _ => (hs.opens.append rest).mono hline
    have hlineEnd : ∀ rest, closing rest → Begins (·.2 = true) rest :=
      fun rest hrest => (hbegins rest hrest).mono hline
    have hmany := many hnext hbegins fun rest hrest =>
      terminator.bind_eq_none (hlineEnd rest hrest) (hstop rest hrest)
    have hending : Takes (do let _ ← optional Reader.terminator; return a :: l) [] (a :: l) closing :=
      (terminator.mono hlineEnd).optional_some.bind_nil pure fun _ hrest => hrest
    have htail : Takes (do
        let rest ← Reader.many (do Reader.terminator; r)
        let _ ← optional Reader.terminator
        return a :: rest) s' (a :: l) closing := hmany.bind_last hending fun _ hrest => hrest
    exact ⟨some (a :: l), rfl, (h.takes.bind htail fun rest hrest' =>
      hrest.begins (fun _ _ h => h.opens) (hbegins rest hrest')).optional_some⟩

end Takes

end DeclGen.Source
