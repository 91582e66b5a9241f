import DeclGen.Proofs.Source.Lexed
import DeclGen.Source.Reader
import Mathlib.Data.List.Basic

/-!
# What is read

A reader takes tokens from the front of a row and leaves the rest of it. `Yields` says that it leaves the
end of the row, and that what it makes of the tokens has a property. It goes through sequences, choices
and repetitions, so that a property of what is read is shown rule by rule of the reader.
-/

namespace DeclGen.Source

/-! ## Phrases leave the end of a row -/

lemma suffix_of_terminator? {s rest : List Token} (h : terminator? s = some rest) : rest <:+ s := by
  cases s with
  | nil => simp [terminator?] at h
  | cons t s =>
    rw [terminator?] at h
    split at h
    · obtain rfl : t :: s = rest := by simpa using h
      exact List.suffix_refl _
    · split at h
      · obtain rfl : s = rest := by simpa using h
        exact List.suffix_cons t s
      · simp at h

lemma suffix_of_foldlM {α : Type} {step : List Token → α → Option (List Token)} {items : List α}
    (hstep : ∀ s, ∀ x ∈ items, ∀ rest, step s x = some rest → rest <:+ s) {s rest : List Token}
    (h : items.foldlM step s = some rest) : rest <:+ s := by
  induction items generalizing s with
  | nil =>
    obtain rfl : s = rest := by simpa using h
    exact List.suffix_refl s
  | cons x items ih =>
    rw [List.foldlM_cons] at h
    obtain ⟨middle, hfirst, hrest⟩ := Option.bind_eq_some_iff.mp h
    have htail := ih (fun s y hy => hstep s y (List.mem_cons_of_mem x hy)) hrest
    exact htail.trans (hstep s x List.mem_cons_self middle hfirst)

/-- What a phrase leaves is the end of the row of tokens. -/
lemma suffix_of_run {ρ : Type} (g : Grammar ρ) {fuel : Nat} {p : Phrase ρ} {m : Mode}
    {s rest : List Token} (h : p.run g fuel m s = some rest) : rest <:+ s := by
  -- every part of a phrase is run with less fuel, on the end that the parts before it leave
  induction fuel generalizing p m s rest with
  | zero => simp [Phrase.run] at h
  | succ fuel ih =>
    cases p with
    | token t =>
      cases s with
      | nil => simp [Phrase.run] at h
      | cons u s =>
        simp only [Phrase.run] at h
        split at h
        · obtain rfl : s = rest := by simpa using h
          exact List.suffix_cons u s
        · simp at h
    | all ps => exact suffix_of_foldlM (fun s p _ rest hp => ih hp) h
    | first ps =>
      obtain ⟨p, -, hp⟩ := List.exists_of_findSome?_eq_some h
      exact ih hp
    | optional p =>
      cases hp : p.run g fuel m s with
      | none =>
        obtain rfl : s = rest := by simpa [Phrase.run, hp] using h
        exact List.suffix_refl s
      | some after =>
        obtain rfl : after = rest := by simpa [Phrase.run, hp] using h
        exact ih hp
    | many p =>
      cases hp : p.run g fuel m s with
      | none =>
        obtain rfl : s = rest := by simpa [Phrase.run, hp] using h
        exact List.suffix_refl s
      | some after =>
        simp only [Phrase.run, hp] at h
        exact (ih h).trans (ih hp)
    | onLine p =>
      simp only [Phrase.run] at h
      split at h
      · simp at h
      · exact ih h
    | within mode p => exact ih h
    | ahead p =>
      simp only [Phrase.run] at h
      split at h
      · obtain rfl : s = rest := by simpa using h
        exact List.suffix_refl s
      · simp at h
    | literals =>
      simp only [Phrase.run] at h
      split at h
      · obtain rfl : s = rest := by simpa using h
        exact List.suffix_refl s
      · simp at h
    | terminator => exact suffix_of_terminator? h
    | rule r => exact ih h

lemma suffix_of_read? {ρ : Type} {g : Grammar ρ} {p : Phrase ρ} {m : Mode} {s rest : List Token}
    (h : p.read? g m s = some rest) : rest <:+ s :=
  suffix_of_run g h

/-! ## What readers yield -/

/-- From tokens that are all `good`, the reader makes values with the property `P` and leaves the end of
the row. -/
def Yields {α : Type} (good : Token → Prop) (r : Reader α) (P : α → Prop) : Prop :=
  ∀ ⦃s a rest⦄, (∀ t ∈ s, good t) → r s = some (a, rest) → P a ∧ rest <:+ s

namespace Yields

open Reader

variable {α β : Type} {good : Token → Prop} {P : α → Prop} {Q : β → Prop}

lemma pure {a : α} (h : P a) : Yields good (Pure.pure a) P := by
  intro s b rest _ hrun
  obtain ⟨rfl, rfl⟩ := Prod.mk.inj (Option.some.inj hrun)
  exact ⟨h, List.suffix_refl s⟩

/-- A sequence: what the first reader leaves is good too. -/
lemma bind {r : Reader α} {f : α → Reader β} (h : Yields good r P)
    (hnext : ∀ a, P a → Yields good (f a) Q) : Yields good (r >>= f) Q := by
  intro s b rest hgood hrun
  obtain ⟨⟨a, middle⟩, hfirst, hsecond⟩ : ∃ x, r s = some x ∧ f x.1 x.2 = some (b, rest) :=
    Option.bind_eq_some_iff.mp hrun
  obtain ⟨ha, hmiddle⟩ := h hgood hfirst
  obtain ⟨hb, hrest⟩ := hnext a ha (fun t ht => hgood t (hmiddle.subset ht)) hsecond
  exact ⟨hb, hrest.trans hmiddle⟩

/-- A choice between two readers. -/
lemma orElse {r r' : Reader α} (h : Yields good r P) (h' : Yields good r' P) :
    Yields good (r <|> r') P := by
  intro s a rest hgood hrun
  have hchoice : (r s <|> r' s) = some (a, rest) := hrun
  cases hr : r s with
  | none => exact h' hgood (by simpa [hr] using hchoice)
  | some x =>
    obtain rfl : x = (a, rest) := by simpa [hr] using hchoice
    exact h hgood hr

/-- A value, if there is one. -/
lemma optionally {r : Reader α} (h : Yields good r P) :
    Yields good (optional r) fun o => ∀ a ∈ o, P a := by
  have hsome : Yields good (some <$> r) fun o => ∀ a ∈ o, P a := by
    have hmap := h.bind (f := fun a => Pure.pure (some a)) fun a ha =>
      pure (P := fun o => ∀ b ∈ o, P b) (by simpa using ha)
    rwa [bind_pure_comp] at hmap
  exact hsome.orElse (pure (by simp))

/-- One token with a value. -/
lemma next {value : Lexeme → Option α} (h : ∀ t, good t → ∀ a, value t.lexeme = some a → P a) :
    Yields good (Reader.next value) P := by
  intro s a rest hgood hrun
  cases s with
  | nil => simp [Reader.next] at hrun
  | cons t s =>
    obtain ⟨b, hb, hpair⟩ := Option.map_eq_some_iff.mp hrun
    obtain ⟨rfl, rfl⟩ : b = a ∧ s = rest := by simpa using hpair
    exact ⟨h t (hgood t List.mem_cons_self) b hb, List.suffix_cons t s⟩

lemma sign (text : String) : Yields good (Reader.sign text) fun _ => True :=
  next fun _ _ _ _ => trivial

lemma key (text : String) : Yields good (Reader.key text) fun _ => True :=
  next fun _ _ _ _ => trivial

lemma literal : Yields good Reader.literal fun _ => True :=
  next fun _ _ _ _ => trivial

/-- A phrase of which only the extent matters. -/
lemma phrase (m : Mode) (p : Phrase Rule) : Yields good (Reader.phrase m p) fun _ => True := by
  intro s a rest _ hrun
  obtain ⟨after, hafter, hpair⟩ := Option.map_eq_some_iff.mp hrun
  obtain rfl : after = rest := by simpa using hpair
  exact ⟨trivial, suffix_of_read? hafter⟩

lemma terminator : Yields good Reader.terminator fun _ => True := by
  intro s a rest _ hrun
  obtain ⟨after, hafter, hpair⟩ := Option.map_eq_some_iff.mp hrun
  obtain rfl : after = rest := by simpa using hpair
  exact ⟨trivial, suffix_of_terminator? hafter⟩

lemma sameLine (m : Mode) : Yields good (Reader.sameLine m) fun _ => True := by
  intro s a rest _ hrun
  unfold Reader.sameLine at hrun
  split at hrun
  · simp at hrun
  · obtain rfl : s = rest := by simpa using hrun
    exact ⟨trivial, List.suffix_refl s⟩

lemma finish : Yields good Reader.finish fun _ => True := by
  intro s a rest _ hrun
  unfold Reader.finish at hrun
  split at hrun
  · split at hrun
    · obtain rfl : [_] = rest := by simpa using hrun
      exact ⟨trivial, List.suffix_refl _⟩
    · simp at hrun
  · simp at hrun

/-! ### Repetitions -/

lemma manyWithin {r : Reader α} (h : Yields good r P) (fuel : Nat) :
    Yields good (Reader.manyWithin fuel r) fun l => ∀ a ∈ l, P a := by
  induction fuel with
  | zero => exact pure (by simp)
  | succ fuel ih =>
    refine orElse (h.bind fun a ha => ih.bind fun l hl => pure ?_) (pure (by simp))
    simpa using ⟨ha, hl⟩

lemma many {r : Reader α} (h : Yields good r P) :
    Yields good (Reader.many r) fun l => ∀ a ∈ l, P a :=
  fun s _ _ hgood hrun => h.manyWithin s.length hgood hrun

lemma commaSeparated {r : Reader α} (h : Yields good r P) :
    Yields good (Reader.commaSeparated r) fun l => ∀ a ∈ l, P a := by
  refine h.bind fun a ha => ?_
  refine (many ((sign ",").bind fun _ _ => h)).bind fun l hl => pure ?_
  simpa using ⟨ha, hl⟩

lemma braced {r : Reader α} (h : Yields good r P) :
    Yields good (Reader.braced r) fun l => ∀ a ∈ l, P a := by
  have hparts : Yields good (do
      let a ← r
      let rest ← Reader.many (do Reader.terminator; r)
      let _ ← optional Reader.terminator
      return a :: rest) fun l => ∀ a ∈ l, P a := by
    refine h.bind fun a ha => ?_
    refine (many (terminator.bind fun _ _ => h)).bind fun l hl => ?_
    exact terminator.optionally.bind fun _ _ => pure (by simpa using ⟨ha, hl⟩)
  refine (sign "\x7b").bind fun _ _ => hparts.optionally.bind fun o ho => ?_
  refine (sign "\x7d").bind fun _ _ => pure ?_
  cases o with
  | none => simp
  | some l => exact ho l rfl

end Yields

end DeclGen.Source
