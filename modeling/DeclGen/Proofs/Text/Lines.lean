import DeclGen.Text.Affix
import DeclGen.Text.Layout
import Mathlib.Algebra.Ring.Nat
import Mathlib.Data.List.Basic
import Mathlib.Tactic.Lemma

/-!
# Reading laid out text by its lines

A generated file is read back as the list of its lines, each without the tabs in front of it
(`readLines`). A block whose pieces of text hold no line feed of their own, and do not begin with a tab,
is read back as it was laid out (`readLines_render`), so that what a file says line by line follows from
the texts of its blocks (`Block.texts`).
-/

namespace DeclGen.Text

/-- The lines of a text, each without its tabs. Behind the last line feed stands one more line. -/
def readLines (text : String) : List String :=
  (text.toList.splitOn '\n').map fun l => String.ofList (l.dropWhile (· == '\t'))

/-- A text that is read back as one line: it has no line feed, and tabs in front of it are not its own. -/
structure IsLine (text : String) : Prop where
  line : '\n' ∉ text.toList
  start : text.toList.head? ≠ some '\t'

/-! ## The texts of a block -/

namespace Block

/-- The texts of the lines, whatever their depth. -/
def texts (b : Block) : List String := b.map (·.text)

@[simp] lemma texts_nil : texts [] = [] := rfl

@[simp] lemma texts_cons (l : Line) (b : Block) : texts (l :: b) = l.text :: texts b := rfl

@[simp] lemma texts_append (a b : Block) : texts (a ++ b) = texts a ++ texts b := by
  simp [texts]

@[simp] lemma texts_indent (b : Block) : (indent b).texts = b.texts := by
  simp [texts, indent]

@[simp] lemma texts_ofTexts (ts : List String) : (ofTexts ts).texts = ts := by
  simp [texts, ofTexts, Function.comp_def]

@[simp] lemma texts_gap : gap.texts = [""] := rfl

@[simp] lemma texts_enclose (header closing : String) (b : Block) :
    (enclose header b closing).texts = header :: b.texts ++ [closing] := by
  simp [enclose]

@[simp] lemma texts_braces (header : String) (b : Block) :
    (braces header b).texts = header :: b.texts ++ ["\x7d"] := by
  simp [braces]

@[simp] lemma texts_flatMap {α : Type} (f : α → Block) (items : List α) :
    texts (items.flatMap f) = items.flatMap fun x => (f x).texts := by
  simp [texts, List.map_flatMap]

end Block

/-! ## Reading lines back -/

lemma render_append (a b : Block) : (a ++ b).render = a.render ++ b.render := by
  rw [← String.toList_inj]
  simp [Block.render]

lemma render_nil : Block.render [] = "" := rfl

lemma render_cons (l : Line) (b : Block) : Block.render (l :: b) = l.render ++ b.render := by
  rw [← String.toList_inj]
  simp [Block.render]

lemma render_flatMap {α : Type} (f : α → Block) (items : List α) :
    Block.render (items.flatMap f) = String.join (items.map fun x => (f x).render) := by
  induction items with
  | nil => rfl
  | cons x rest ih =>
    rw [List.flatMap_cons, render_append, ih, List.map_cons, ← String.toList_inj]
    simp

lemma render_line {text : String} (h : text ≠ "") (n : Nat) :
    Line.render ⟨n, text⟩ = String.ofList (List.replicate n '\t') ++ text ++ "\n" := by
  simp [Line.render, h]

/-- A line stands in a file with its tabs in front and a line feed behind. An empty one has no tabs. -/
lemma exists_render_eq (l : Line) :
    ∃ n, l.render = String.ofList (List.replicate n '\t') ++ l.text ++ "\n" := by
  unfold Line.render
  split
  · rename_i hempty
    exact ⟨0, by rw [String.isEmpty_iff.mp hempty]; rfl⟩
  · exact ⟨l.depth, rfl⟩

lemma readLines_append (a b : String) : readLines (a ++ "\n" ++ b) = readLines a ++ readLines b := by
  have hlist : (a ++ "\n" ++ b).toList = a.toList ++ '\n' :: b.toList := by simp
  rw [readLines, hlist, List.splitOn_append_cons_self, List.map_append]
  rfl

lemma readLines_line {text : String} (h : IsLine text) (n : Nat) :
    readLines (String.ofList (List.replicate n '\t') ++ text) = [text] := by
  have hfree : '\n' ∉ List.replicate n '\t' ++ text.toList := by
    simp [List.mem_replicate, h.line]
  have hkept : text.toList.dropWhile (· == '\t') = text.toList := by
    cases htext : text.toList with
    | nil => rfl
    | cons c rest => exact List.dropWhile_cons_of_neg (by simpa [htext] using h.start)
  rw [readLines, String.toList_append, String.toList_ofList, List.splitOn_eq_singleton hfree]
  simp [List.dropWhile_append_of_pos, List.mem_replicate, hkept]

/-- A block is read back line by line, and what follows it is read as if it stood alone. -/
lemma readLines_render_append {b : Block} (h : ∀ t ∈ b.texts, IsLine t) (rest : String) :
    readLines (b.render ++ rest) = b.texts ++ readLines rest := by
  induction b with
  | nil => simp [Block.render]
  | cons l b ih =>
    obtain ⟨n, hl⟩ := exists_render_eq l
    have htexts := List.forall_mem_cons.mp h
    rw [render_cons, hl, String.append_assoc, readLines_append, readLines_line htexts.1, ih htexts.2]
    rfl

lemma readLines_render {b : Block} (h : ∀ t ∈ b.texts, IsLine t) :
    readLines b.render = b.texts ++ [""] := by
  have hend : readLines "" = [""] := by decide
  simpa [hend] using readLines_render_append h ""

/-! ## Paragraphs -/

/-- The lines between empty ones. -/
def paragraphs (ls : List String) : List (List String) := ls.splitOn ""

/-- Paragraphs are read back from the lines that they make with an empty line in front of each but the first. -/
lemma paragraphs_eq {first : List String} {rest : List (List String)} (hfirst : "" ∉ first)
    (hrest : ∀ p ∈ rest, "" ∉ p) : paragraphs (first ++ rest.flatMap ("" :: ·)) = first :: rest := by
  induction rest generalizing first with
  | nil => rw [List.flatMap_nil, List.append_nil, paragraphs, List.splitOn_eq_singleton hfirst]
  | cons second rest ih =>
    obtain ⟨hsecond, hrest⟩ := List.forall_mem_cons.mp hrest
    have hsplit := ih hsecond hrest
    rw [paragraphs] at hsplit
    rw [List.flatMap_cons, List.cons_append, paragraphs, List.splitOn_append_cons_self,
      List.splitOn_eq_singleton hfirst, hsplit, List.singleton_append]

lemma infix_of_mem_paragraphs {first p : List String} {rest : List (List String)} (hp : p ∈ first :: rest) :
    p <:+: first ++ rest.flatMap ("" :: ·) := by
  obtain rfl | hp := List.mem_cons.mp hp
  · exact (List.prefix_append _ _).isInfix
  · obtain ⟨front, back, rfl⟩ := List.append_of_mem hp
    refine ⟨first ++ front.flatMap ("" :: ·) ++ [""], back.flatMap ("" :: ·), ?_⟩
    simp

/-- A line on which something stands, and no tab in front. -/
structure IsFilled (text : String) : Prop where
  line : '\n' ∉ text.toList
  start : ∃ c, c ≠ '\t' ∧ text.toList.head? = some c

lemma IsFilled.isLine {text : String} (h : IsFilled text) : IsLine text where
  line := h.line
  start := by
    obtain ⟨c, hc, hhead⟩ := h.start
    rw [hhead]
    exact fun heq => hc (Option.some.inj heq)

lemma IsFilled.ne_empty {text : String} (h : IsFilled text) : text ≠ "" := by
  rintro rfl
  obtain ⟨c, -, hhead⟩ := h.start
  cases hhead

/-- Filled lines with empty ones between them are read back as paragraphs. The last one is that of the line
behind the last line feed. -/
lemma paragraphs_readLines_render {b : Block} {first : List String} {rest : List (List String)}
    (htexts : b.texts = first ++ rest.flatMap ("" :: ·))
    (hfilled : ∀ p ∈ first :: rest, ∀ t ∈ p, IsFilled t) :
    paragraphs (readLines b.render) = first :: (rest ++ [[]]) := by
  have hfree : ∀ p ∈ first :: rest, "" ∉ p := fun p hp hmem => (hfilled p hp "" hmem).ne_empty rfl
  obtain ⟨hfirst, hrest⟩ := List.forall_mem_cons.mp hfree
  have hlast : ∀ p ∈ rest ++ [[]], "" ∉ p := by
    rw [List.forall_mem_append]
    exact ⟨hrest, by simp⟩
  have hlines : ∀ t ∈ b.texts, IsLine t := by
    rw [htexts, List.forall_mem_append]
    refine ⟨fun t ht => (hfilled first List.mem_cons_self t ht).isLine, fun t ht => ?_⟩
    obtain ⟨p, hp, hmem⟩ := List.mem_flatMap.mp ht
    rcases List.mem_cons.mp hmem with rfl | hmem
    · exact ⟨by decide, by decide⟩
    · exact (hfilled p (List.mem_cons_of_mem _ hp) t hmem).isLine
  have hend : first ++ rest.flatMap ("" :: ·) ++ [""] = first ++ (rest ++ [[]]).flatMap ("" :: ·) := by
    simp
  rw [readLines_render hlines, htexts, hend, paragraphs_eq hfirst hlast]

/-! ## Words in lines -/

lemma notMem_literal {c : Char} {l : List Char} (h : c ∉ l) : c ∉ (String.ofList l).toList := by
  rwa [String.toList_ofList]

lemma beginsWith_iff {head text : String} :
    beginsWith head text ↔ ∃ rest, text.toList = head.toList ++ rest := by
  rw [beginsWith, List.isPrefixOf_iff_prefix]
  exact ⟨fun ⟨rest, h⟩ => ⟨rest, h.symm⟩, fun ⟨rest, h⟩ => ⟨rest, h.symm⟩⟩

lemma head?_of_beginsWith {head text : String} {c : Char} (h : beginsWith head text)
    (hc : head.toList.head? = some c) : text.toList.head? = some c := by
  obtain ⟨rest, hrest⟩ := beginsWith_iff.mp h
  rw [hrest, List.head?_append, hc]
  rfl

lemma afterHead?_eq_some_iff {head text rest : String} :
    afterHead? head text = some rest ↔ text = head ++ rest := by
  rw [afterHead?, Option.map_eq_some_iff]
  constructor
  · rintro ⟨l, hl, rfl⟩
    rw [List.isPrefixOf?_eq_some_iff_append_eq] at hl
    rw [← String.toList_inj, String.toList_append, String.toList_ofList, hl]
  · rintro rfl
    refine ⟨rest.toList, ?_, String.ofList_toList⟩
    rw [List.isPrefixOf?_eq_some_iff_append_eq, String.toList_append]

lemma beforeTail?_eq_some_iff {tail text rest : String} :
    beforeTail? tail text = some rest ↔ text = rest ++ tail := by
  rw [beforeTail?, Option.map_eq_some_iff]
  constructor
  · rintro ⟨l, hl, rfl⟩
    rw [List.isSuffixOf?_eq_some_iff_append_eq] at hl
    rw [← String.toList_inj, String.toList_append, String.toList_ofList, hl]
  · rintro rfl
    refine ⟨rest.toList, ?_, String.ofList_toList⟩
    rw [List.isSuffixOf?_eq_some_iff_append_eq, String.toList_append]

lemma article_eq (word : String) : article word = "an" ∨ article word = "a" := by
  unfold article
  split <;> simp

/-! ## Cutting texts -/

section Cuts

variable {α : Type} [BEq α] [LawfulBEq α] {c : α} {a b : List α}

lemma takeWhile_ne_append (a b : List α) :
    (a ++ c :: b).takeWhile (· != c) = a.takeWhile (· != c) := by
  induction a with
  | nil => simp
  | cons x a ih => simp [List.takeWhile_cons, ih]

lemma takeWhile_ne_of_notMem (h : c ∉ a) : a.takeWhile (· != c) = a := by
  have hall : ∀ x ∈ a, (x != c) = true := by
    intro x hx
    simpa using fun heq : x = c => h (heq ▸ hx)
  have htake : (a ++ []).takeWhile (· != c) = a ++ [].takeWhile (· != c) :=
    List.takeWhile_append_of_pos hall
  simpa using htake

lemma dropWhile_ne_append (h : c ∉ a) : (a ++ c :: b).dropWhile (· != c) = c :: b := by
  rw [List.dropWhile_append_of_pos]
  · simp
  · intro x hx
    simpa using fun heq : x = c => h (heq ▸ hx)

/-- Behind a text that is cut nothing is read on, and behind another one all is. -/
lemma mem_takeWhile_ne_append {x : α} {a b : List α} :
    x ∈ (a ++ b).takeWhile (· != c) ↔
      x ∈ a.takeWhile (· != c) ∨ (c ∉ a ∧ x ∈ b.takeWhile (· != c)) := by
  by_cases h : c ∈ a
  · obtain ⟨front, back, rfl⟩ := List.append_of_mem h
    rw [List.append_assoc, List.cons_append, takeWhile_ne_append, takeWhile_ne_append]
    simp
  · have hall : ∀ y ∈ a, (y != c) = true := by
      intro y hy
      simpa using fun heq : y = c => h (heq ▸ hy)
    rw [List.takeWhile_append_of_pos hall, takeWhile_ne_of_notMem h, List.mem_append]
    simp [h]

end Cuts

/-! ## Counting characters -/

/-- How often a character stands in a text. -/
def occurrences (c : Char) (text : String) : Nat := text.toList.count c

@[simp] lemma occurrences_append (c : Char) (a b : String) :
    occurrences c (a ++ b) = occurrences c a + occurrences c b := by
  simp [occurrences]

lemma occurrences_eq_zero_iff {c : Char} {text : String} :
    occurrences c text = 0 ↔ c ∉ text.toList := List.count_eq_zero

/-- Texts that hold a character zero times in all are texts without it. -/
lemma sum_occurrences_eq_zero_iff {c : Char} {texts : List String} :
    (texts.map (occurrences c)).sum = 0 ↔ ∀ t ∈ texts, c ∉ t.toList := by
  induction texts with
  | nil => simp
  | cons t rest ih => simp [ih, occurrences_eq_zero_iff]

/-- Texts with a separator between them hold what the texts hold, and the separators. -/
lemma occurrences_intercalate {c : Char} {separator : String} (h : occurrences c separator = 0)
    (items : List String) :
    occurrences c (separator.intercalate items) = (items.map (occurrences c)).sum := by
  induction items with
  | nil => rfl
  | cons x rest ih =>
    cases rest with
    | nil => simp
    | cons y rest =>
      simp only [String.intercalate_cons_cons, occurrences_append, h, ih, List.map_cons, List.sum_cons,
        Nat.add_zero]

/-- A block holds what its texts hold, apart from line feeds and tabs. -/
lemma occurrences_render {c : Char} (hfeed : c ≠ '\n') (htab : c ≠ '\t') (b : Block) :
    occurrences c b.render = (b.texts.map (occurrences c)).sum := by
  have hend : occurrences c "\n" = 0 := occurrences_eq_zero_iff.mpr (by simpa using hfeed)
  induction b with
  | nil => rfl
  | cons l b ih =>
    obtain ⟨n, hl⟩ := exists_render_eq l
    have htabs : occurrences c (String.ofList (List.replicate n '\t')) = 0 := by
      simp [occurrences, List.count_replicate, htab.symm]
    rw [render_cons, hl]
    simp [ih, htabs, hend]

end DeclGen.Text
