import DeclGen.Generate.Slots
import DeclGen.Proofs.Text.Lines

/-!
# Lists of slots as they are read

A list that is written with commas is read back part by part (`Slots.partsOf_commaList`). From the parts of a
parameter list come the names and types of the slots, and from those of a call what is passed and what of it
is spread, in order, as long as the names are without spaces, commas and dots and the types without commas.
-/

namespace DeclGen.Slots

open Text

/-! ## Parts -/

/-- The parts of a list, without the spaces in front of them. Where nothing is written there are none. -/
def partsOf (text : List Char) : List String :=
  if text = [] then [] else (text.splitOn ',').map fun part => String.ofList (part.dropWhile (· == ' '))

/-- A text that is read back as one part of a list. -/
structure IsPart (text : String) : Prop where
  ne_empty : text ≠ ""
  whole : ',' ∉ text.toList
  start : text.toList.head? ≠ some ' '

/-- A part has no space in front that could be taken off. -/
lemma IsPart.dropWhile {part : String} (h : IsPart part) :
    String.ofList (part.toList.dropWhile (· == ' ')) = part := by
  cases hpart : part.toList with
  | nil => exact absurd (String.toList_eq_nil_iff.mp hpart) h.ne_empty
  | cons c rest =>
    have hc : c ≠ ' ' := fun heq => h.start (by rw [hpart, heq]; rfl)
    rw [List.dropWhile_cons_of_neg (by simpa using hc), ← hpart, String.ofList_toList]

/-- Behind the first part of a list every other one has a comma and a space in front of it. -/
lemma splitOn_intercalate {first : String} {rest : List String} (hfirst : ',' ∉ first.toList)
    (hrest : ∀ part ∈ rest, ',' ∉ part.toList) :
    ((commaList (first :: rest)).toList).splitOn ',' = first.toList :: rest.map (' ' :: ·.toList) := by
  induction rest generalizing first with
  | nil => simpa [commaList] using List.splitOn_eq_singleton hfirst
  | cons second rest ih =>
    have hparts := List.forall_mem_cons.mp hrest
    have hsecond : ',' ∉ (" " ++ second).toList := by simpa using hparts.1
    have hlist : (commaList (first :: second :: rest)).toList =
        first.toList ++ ',' :: (commaList ((" " ++ second) :: rest)).toList := by
      cases rest with
      | nil => simp [commaList]
      | cons third rest => simp [commaList, String.intercalate_cons_cons]
    rw [hlist, List.splitOn_append_cons_self, List.splitOn_eq_singleton hfirst, ih hsecond hparts.2]
    simp

/-- A list is read back as its parts. -/
lemma partsOf_commaList {parts : List String} (h : ∀ part ∈ parts, IsPart part) :
    partsOf (commaList parts).toList = parts := by
  cases parts with
  | nil => rfl
  | cons first rest =>
    obtain ⟨hfirst, hrest⟩ := List.forall_mem_cons.mp h
    have hsplit := splitOn_intercalate hfirst.whole fun part hpart => (hrest part hpart).whole
    have hne : (commaList (first :: rest)).toList ≠ [] := by
      intro hempty
      rw [hempty] at hsplit
      exact hfirst.ne_empty (String.toList_eq_nil_iff.mp (List.cons.inj hsplit).1.symm)
    have hparts : ∀ part ∈ rest, String.ofList ((' ' :: part.toList).dropWhile (· == ' ')) = part := by
      intro part hpart
      rw [List.dropWhile_cons_of_pos (by decide), (hrest part hpart).dropWhile]
    rw [partsOf, if_neg hne, hsplit, List.map_cons, List.map_map, hfirst.dropWhile]
    exact congrArg (first :: ·) ((List.map_congr_left hparts).trans (List.map_id rest))

/-! ## Slots and arguments -/

/-- The name and the type of a slot. -/
def slotOf (part : String) : String × String :=
  (String.ofList (part.toList.takeWhile (· != ' ')),
    String.ofList ((part.toList.dropWhile (· != ' ')).drop 1))

/-- What is passed, and whether it is spread. -/
def argumentOf (part : String) : String × Bool :=
  match beforeTail? "..." part with
  | some name => (name, true)
  | none => (part, false)

/-- The names and types in a parameter list. -/
def readSlots (text : List Char) : List (String × String) := (partsOf text).map slotOf

/-- What is passed in a list of arguments. -/
def readArguments (text : List Char) : List (String × Bool) := (partsOf text).map argumentOf

/-- A name that can be told from what stands around it in a list. -/
structure IsPlain (name : String) : Prop where
  ne_empty : name ≠ ""
  space : ' ' ∉ name.toList
  comma : ',' ∉ name.toList
  dot : '.' ∉ name.toList

section Lists

variable {params : List Param} {receiver : String}

lemma IsPlain.isPart_append {name behind : String} (h : IsPlain name) (hbehind : ',' ∉ behind.toList) :
    IsPart (name ++ behind) := by
  obtain ⟨c, rest, hlist⟩ := List.exists_cons_of_ne_nil fun heq => h.ne_empty (String.toList_eq_nil_iff.mp heq)
  have hc : c ≠ ' ' := fun heq => h.space (by rw [hlist, heq]; exact List.mem_cons_self)
  refine ⟨?_, ?_, ?_⟩
  · intro hempty
    simp [← String.toList_inj, hlist] at hempty
  · simp [h.comma, hbehind]
  · simpa [hlist] using hc

lemma slotOf_append {name : String} (h : ' ' ∉ name.toList) (type : String) :
    slotOf (name ++ " " ++ type) = (name, type) := by
  have hlist : (name ++ " " ++ type).toList = name.toList ++ ' ' :: type.toList := by simp
  rw [slotOf, hlist, takeWhile_ne_append, takeWhile_ne_of_notMem h, dropWhile_ne_append h,
    String.ofList_toList]
  simp

/-- A parameter list is read back as the names of the slots with their types. -/
lemma readSlots_paramList (hnames : ∀ n ∈ names params receiver, IsPlain n)
    (htypes : ∀ p ∈ params, ',' ∉ p.slotType.toList) :
    readSlots (paramList params receiver).toList =
      (names params receiver).zip (params.map (·.slotType)) := by
  rw [readSlots, paramList, partsOf_commaList, List.map_map, List.zip_map_right]
  · apply List.map_congr_left
    rintro ⟨n, p⟩ hpair
    exact slotOf_append (hnames n (List.of_mem_zip hpair).1).space p.slotType
  · intro part hpart
    obtain ⟨⟨n, p⟩, hpair, rfl⟩ := List.mem_map.mp hpart
    obtain ⟨hn, hp⟩ := List.of_mem_zip hpair
    show IsPart (n ++ " " ++ p.slotType)
    rw [String.append_assoc]
    apply (hnames n hn).isPart_append
    simp [htypes p hp]

lemma argumentOf_spread (name : String) : argumentOf (name ++ "...") = (name, true) := by
  rw [argumentOf, beforeTail?_eq_some_iff.mpr rfl]

lemma argumentOf_of_notMem {name : String} (h : '.' ∉ name.toList) : argumentOf name = (name, false) := by
  unfold argumentOf
  split
  · next front hfront =>
    rw [beforeTail?_eq_some_iff.mp hfront] at h
    exact absurd (by simp) h
  · rfl

/-- A list of arguments is read back as the names of the slots, those of variadic ones spread. -/
lemma readArguments_callArgs (hnames : ∀ n ∈ names params receiver, IsPlain n) :
    readArguments (callArgs params receiver).toList =
      (names params receiver).zip (params.map (·.isVariadic)) := by
  rw [readArguments, callArgs, partsOf_commaList, List.map_map, List.zip_map_right]
  · apply List.map_congr_left
    rintro ⟨n, p⟩ hpair
    have hn := hnames n (List.of_mem_zip hpair).1
    show argumentOf (if p.isVariadic then n ++ "..." else n) = (n, p.isVariadic)
    by_cases hp : p.isVariadic
    · rw [if_pos hp, argumentOf_spread, hp]
    · rw [if_neg hp, argumentOf_of_notMem hn.dot, Bool.eq_false_iff.mpr hp]
  · intro part hpart
    obtain ⟨⟨n, p⟩, hpair, rfl⟩ := List.mem_map.mp hpart
    have hn := hnames n (List.of_mem_zip hpair).1
    show IsPart (if p.isVariadic then n ++ "..." else n)
    by_cases hp : p.isVariadic
    · rw [if_pos hp]
      exact hn.isPart_append (by decide)
    · rw [if_neg hp, ← String.append_empty (s := n)]
      exact hn.isPart_append (by decide)

end Lists

end DeclGen.Slots
