import DeclGen.Text.Layout
import Mathlib.Algebra.GroupWithZero.Nat
import Mathlib.Data.List.MinMax
import Mathlib.Tactic.Lemma

/-!
# Struct fields in columns

Struct fields are laid out one on a line, and their types begin in one column. That column is found by
measuring the names in bytes, but a name is padded to it by counting characters; the two agree only on
characters of one byte. So the types stand in one column whatever the names are, but there is no more room
than the longest name asks for exactly when a name of the largest size is made of ASCII characters
(`Text.tight_fields_iff`).
-/

namespace DeclGen.Text

/-! ## Sizes and lengths -/

/-- The text is made of characters of one byte. -/
def IsAscii (s : String) : Prop := ∀ c ∈ s.toList, c.utf8Size = 1

instance : DecidablePred IsAscii := fun s => List.decidableBAll (fun c : Char => c.utf8Size = 1) s.toList

/-- A text is as large as its characters together. -/
lemma utf8ByteSize_ofList (l : List Char) :
    (String.ofList l).utf8ByteSize = (l.map Char.utf8Size).sum := by
  induction l with
  | nil => rfl
  | cons c l ih =>
    have hsplit : String.ofList (c :: l) = String.singleton c ++ String.ofList l := by
      rw [← String.toList_inj]
      simp
    rw [hsplit, String.utf8ByteSize_append, String.utf8ByteSize_singleton, ih, List.map_cons,
      List.sum_cons]

/-- Every character takes a byte, so that a text is at least as large as it is long; it is no larger when
no character takes a second one. -/
lemma length_le_sum_utf8Size (l : List Char) : l.length ≤ (l.map Char.utf8Size).sum ∧
    (l.length = (l.map Char.utf8Size).sum ↔ ∀ c ∈ l, c.utf8Size = 1) := by
  induction l with
  | nil => simp
  | cons c l ih =>
    obtain ⟨hle, heq⟩ := ih
    have hpos := c.utf8Size_pos
    rw [List.map_cons, List.sum_cons, List.length_cons, List.forall_mem_cons, ← heq]
    omega

lemma length_le_utf8ByteSize (s : String) : s.length ≤ s.utf8ByteSize := by
  rw [← String.ofList_toList (s := s), utf8ByteSize_ofList, String.length_ofList]
  exact (length_le_sum_utf8Size s.toList).1

lemma length_eq_utf8ByteSize_iff (s : String) : s.length = s.utf8ByteSize ↔ IsAscii s := by
  have hlist := (length_le_sum_utf8Size s.toList).2
  rwa [← utf8ByteSize_ofList, String.ofList_toList, String.length_toList] at hlist

/-! ## The width of a column -/

section Width

variable {pairs : List (String × String)}

/-- A width that is carried on is at least what it was and what is met, and it is one of these. -/
lemma foldl_max_size (pairs : List (String × String)) (w : Nat) :
    w ≤ pairs.foldl (fun w p => max w p.1.utf8ByteSize) w ∧
    (∀ p ∈ pairs, p.1.utf8ByteSize ≤ pairs.foldl (fun w p => max w p.1.utf8ByteSize) w) ∧
    (pairs.foldl (fun w p => max w p.1.utf8ByteSize) w = w ∨
      ∃ p ∈ pairs, pairs.foldl (fun w p => max w p.1.utf8ByteSize) w = p.1.utf8ByteSize) := by
  induction pairs generalizing w with
  | nil => simp
  | cons q pairs ih =>
    obtain ⟨hstart, hall, hreached⟩ := ih (max w q.1.utf8ByteSize)
    rw [List.foldl_cons]
    refine ⟨by omega, ?_, ?_⟩
    · rw [List.forall_mem_cons]
      exact ⟨by omega, hall⟩
    · rcases hreached with hstay | ⟨p, hp, heq⟩
      · rcases Nat.le_total q.1.utf8ByteSize w with hle | hle
        · left
          rw [hstay, Nat.max_eq_left hle]
        · right
          exact ⟨q, List.mem_cons_self, by rw [hstay, Nat.max_eq_right hle]⟩
      · right
        exact ⟨p, List.mem_cons_of_mem q hp, heq⟩

lemma size_le_columnWidth {p : String × String} (hp : p ∈ pairs) :
    p.1.utf8ByteSize ≤ columnWidth pairs :=
  (foldl_max_size pairs 0).2.1 p hp

lemma length_le_columnWidth {p : String × String} (hp : p ∈ pairs) : p.1.length ≤ columnWidth pairs :=
  Nat.le_trans (length_le_utf8ByteSize p.1) (size_le_columnWidth hp)

/-- The column is as wide as one of the names is large. -/
lemma exists_size_eq_columnWidth (h : pairs ≠ []) :
    ∃ p ∈ pairs, columnWidth pairs = p.1.utf8ByteSize := by
  rcases (foldl_max_size pairs 0).2.2 with hzero | hreached
  · obtain ⟨q, rest, rfl⟩ := List.exists_cons_of_ne_nil h
    have hq : q.1.utf8ByteSize ≤ columnWidth (q :: rest) := size_le_columnWidth List.mem_cons_self
    have hwidth : columnWidth (q :: rest) = 0 := hzero
    exact ⟨q, List.mem_cons_self, by omega⟩
  · exact hreached

lemma exists_longest (h : pairs ≠ []) : ∃ p ∈ pairs, ∀ q ∈ pairs, q.1.length ≤ p.1.length := by
  obtain ⟨p, hp⟩ := Option.ne_none_iff_exists'.mp
    (mt (List.argmax_eq_none (f := fun p : String × String => p.1.length)).mp h)
  exact ⟨p, List.argmax_mem hp, fun q hq => List.le_of_mem_argmax (f := fun p => p.1.length) hq hp⟩

end Width

/-! ## The lines of fields -/

/-- A struct field as it stands on its line: the tabs of the depth, the name, spaces up to the column,
which is counted in characters behind the tabs, and the type. -/
def fieldLine (depth column : Nat) (p : String × String) : List Char :=
  List.replicate depth '\t' ++ p.1.toList ++ List.replicate (column - p.1.length) ' ' ++ p.2.toList

/-- The text holds one line for each field, all types begin in the column, and at least one space stands
in front of each of them. -/
structure InColumn (depth column : Nat) (pairs : List (String × String)) (text : String) : Prop where
  lines : text.toList.splitOn '\n' = pairs.map (fieldLine depth column) ++ [[]]
  apart : ∀ p ∈ pairs, p.1.length < column

/-- Behind the longest names stands a single space. -/
def IsTight (column : Nat) (pairs : List (String × String)) : Prop :=
  ∀ p ∈ pairs, (∀ q ∈ pairs, q.1.length ≤ p.1.length) → p.1.length + 1 = column

section Lines

variable {pairs : List (String × String)}

/-- The text of fields, each in its line. -/
def columnText (depth column : Nat) (pairs : List (String × String)) : String :=
  String.ofList (pairs.flatMap fun p => fieldLine depth column p ++ ['\n'])

/-- Lines without line feeds of their own are cut at the line feeds behind them. -/
lemma splitOn_flatMap {α : Type} {items : List α} {line : α → List Char}
    (h : ∀ x ∈ items, '\n' ∉ line x) :
    (items.flatMap fun x => line x ++ ['\n']).splitOn '\n' = items.map line ++ [[]] := by
  induction items with
  | nil => rfl
  | cons x items ih =>
    obtain ⟨hx, hitems⟩ := List.forall_mem_cons.mp h
    rw [List.flatMap_cons, List.append_assoc, List.singleton_append, List.splitOn_append_cons_self,
      List.splitOn_eq_singleton hx, ih hitems, List.map_cons, List.singleton_append, List.cons_append]

/-- A name is padded by one space more than its distance from the width of the column. -/
lemma line_eq_raw {width : Nat} {p : String × String} (hp : p.1.length ≤ width) (d : Draft) :
    d.line (padTo width p.1 ++ " " ++ p.2) =
      d.raw (String.ofList (fieldLine d.depth (width + 1) p ++ ['\n'])) := by
  have hfilled : (padTo width p.1 ++ " " ++ p.2).isEmpty = false := by
    rw [Bool.eq_false_iff, ne_eq, String.isEmpty_iff, ← String.toList_inj]
    simp
  have hspaces : width + 1 - p.1.length = width - p.1.length + 1 := by omega
  rw [Draft.line, Line.render, if_neg (by simp [hfilled])]
  congr 1
  rw [← String.toList_inj, fieldLine, hspaces, List.replicate_succ']
  simp [padTo]

/-- Fields are appended line by line. -/
lemma foldl_line_eq_raw {width : Nat} (hpairs : ∀ p ∈ pairs, p.1.length ≤ width) (d : Draft) :
    (pairs.map fun p => padTo width p.1 ++ " " ++ p.2).foldl Draft.line d =
      d.raw (columnText d.depth (width + 1) pairs) := by
  induction pairs generalizing d with
  | nil => simp [columnText, Draft.raw]
  | cons p pairs ih =>
    obtain ⟨hp, hrest⟩ := List.forall_mem_cons.mp hpairs
    rw [List.map_cons, List.foldl_cons, line_eq_raw hp, ih hrest]
    simp [columnText, Draft.raw, String.append_assoc]

lemma fields_eq_raw (d : Draft) (pairs : List (String × String)) :
    d.fields pairs = d.raw (columnText d.depth (columnWidth pairs + 1) pairs) :=
  foldl_line_eq_raw (fun _ hp => length_le_columnWidth hp) d

/-- Names and types without line feeds stand in the column that is as wide as the largest name. -/
lemma inColumn_columnText (depth : Nat)
    (hlines : ∀ p ∈ pairs, '\n' ∉ p.1.toList ∧ '\n' ∉ p.2.toList) :
    InColumn depth (columnWidth pairs + 1) pairs
      (columnText depth (columnWidth pairs + 1) pairs) where
  lines := by
    rw [columnText, String.toList_ofList]
    refine splitOn_flatMap fun p hp => ?_
    obtain ⟨hname, htype⟩ := hlines p hp
    simp [fieldLine, hname, htype]
  apart := fun p hp => Nat.lt_succ_of_le (length_le_columnWidth hp)

/-- The room is tight when the largest name in bytes is a longest one in characters, and this it is when
none of its characters takes more than a byte. -/
lemma isTight_columnWidth_iff (hsome : pairs ≠ []) : IsTight (columnWidth pairs + 1) pairs ↔
    ∃ p ∈ pairs, IsAscii p.1 ∧ ∀ q ∈ pairs, q.1.utf8ByteSize ≤ p.1.utf8ByteSize := by
  constructor
  · intro htight
    -- some name is a longest one, and it fills the column
    obtain ⟨p, hp, hlongest⟩ := exists_longest hsome
    have hfills : p.1.length = columnWidth pairs := by
      have hroom := htight p hp hlongest
      omega
    have hlength := length_le_utf8ByteSize p.1
    have hsize := size_le_columnWidth hp
    refine ⟨p, hp, (length_eq_utf8ByteSize_iff p.1).mp (by omega), fun q hq => ?_⟩
    have hother := size_le_columnWidth hq
    omega
  · rintro ⟨p, hp, hascii, hlargest⟩ q hq hlongest
    obtain ⟨r, hr, hwidth⟩ := exists_size_eq_columnWidth hsome
    have hlength := (length_eq_utf8ByteSize_iff p.1).mpr hascii
    have hsize := hlargest r hr
    have hreach := hlongest p hp
    have hbound := length_le_columnWidth hq
    omega

/-- Fields are appended one on a line, at the depth of the draft, with all types in one column and a space
at least in front of each. The longest names are followed by a single space exactly when a name of the
largest size is made of characters of one byte. -/
theorem tight_fields_iff (d : Draft) (hsome : pairs ≠ [])
    (hlines : ∀ p ∈ pairs, '\n' ∉ p.1.toList ∧ '\n' ∉ p.2.toList) :
    ∃ added, d.fields pairs = d.raw added ∧
      InColumn d.depth (columnWidth pairs + 1) pairs added ∧
      (IsTight (columnWidth pairs + 1) pairs ↔
        ∃ p ∈ pairs, IsAscii p.1 ∧ ∀ q ∈ pairs, q.1.utf8ByteSize ≤ p.1.utf8ByteSize) :=
  ⟨_, fields_eq_raw d pairs, inColumn_columnText d.depth hlines, isTight_columnWidth_iff hsome⟩

end Lines

/-! Two callbacks, of which the shorter one has characters of two bytes; and such a callback alone. -/

/-- Callbacks whose names are padded to the longer one. -/
def sumCallbacks : List (String × String) :=
  [("GrößeCallback", "func() int"), ("SummaryCallback", "func() int")]

/-- Both types begin in one column, one space behind the longer name. -/
theorem tight_fields_sumCallbacks : sumCallbacks ≠ [] ∧
    (∀ p ∈ sumCallbacks, '\n' ∉ p.1.toList ∧ '\n' ∉ p.2.toList) ∧
    (Draft.empty.indent.fields sumCallbacks).text =
      "\tGrößeCallback   func() int\n\tSummaryCallback func() int\n" ∧
    ∃ added, Draft.empty.indent.fields sumCallbacks = Draft.empty.indent.raw added ∧
      InColumn 1 16 sumCallbacks added ∧ IsTight 16 sumCallbacks := by
  have hsome : sumCallbacks ≠ [] := by decide
  have hlines : ∀ p ∈ sumCallbacks, '\n' ∉ p.1.toList ∧ '\n' ∉ p.2.toList := by decide
  have hwidth : columnWidth sumCallbacks + 1 = 16 := by decide
  obtain ⟨added, hfields, hcolumn, htight⟩ := tight_fields_iff Draft.empty.indent hsome hlines
  rw [hwidth] at hcolumn htight
  -- the longer name is the largest one too, and its characters are of one byte
  have hroom : IsTight 16 sumCallbacks :=
    htight.mpr ⟨("SummaryCallback", "func() int"), by decide, by decide, by decide⟩
  exact ⟨hsome, hlines, by decide, added, hfields, hcolumn, hroom⟩

/-- Alone the shorter name is followed by three spaces: one, and one more for each of its two characters
of two bytes. That is no tight layout, whatever is taken for the column. -/
theorem not_tight_fields_sumCallback :
    (Draft.empty.indent.fields [("GrößeCallback", "func() int")]).text =
      "\tGrößeCallback   func() int\n" ∧
    ¬ ∃ added column,
      Draft.empty.indent.fields [("GrößeCallback", "func() int")] = Draft.empty.indent.raw added ∧
      InColumn 1 column [("GrößeCallback", "func() int")] added ∧
      IsTight column [("GrößeCallback", "func() int")] := by
  have htext : (Draft.empty.indent.fields [("GrößeCallback", "func() int")]).text =
      "\tGrößeCallback   func() int\n" := by decide
  refine ⟨htext, ?_⟩
  rintro ⟨added, column, hfields, hcolumn, htight⟩
  have hadded : added = "\tGrößeCallback   func() int\n" := by
    rw [← htext, hfields]
    rfl
  -- behind the only name, which is a longest one, a single space would stand
  obtain rfl : "GrößeCallback".length + 1 = column := htight _ List.mem_cons_self (by simp)
  have hlines := hcolumn.lines
  rw [hadded] at hlines
  exact absurd hlines (by decide)

end DeclGen.Text
