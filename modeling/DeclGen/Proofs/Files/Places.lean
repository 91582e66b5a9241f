import DeclGen.Files.Tree
import DeclGen.Proofs.Files.Paths
import Mathlib.Data.List.Induction
import Mathlib.Logic.Function.Basic
import Mathlib.Tactic.Lemma

/-!
# Places in trees

Following a path leads to a place that the path alone says, given the working directory
(`FileTree.placeOf`); what stands in the tree only says whether it can be followed. A tree in which there
are more directories (`FileTree.Grows`) lets the same paths be followed, so a file is read there if it
stands at the same place. The files of a tree are a function from places to texts (`FileTree.fileAt`).
-/

namespace DeclGen

/-- A sequence succeeds when its parts do, one after the other. -/
lemma Except.bind_eq_ok_iff {ε α β : Type} {x : Except ε α} {f : α → Except ε β} {b : β} :
    (x >>= f) = .ok b ↔ ∃ a, x = .ok a ∧ f a = .ok b := by
  cases x <;> simp [bind, Except.bind]

namespace Location

/-- Along one part of a path, whatever stands there. -/
def walk (l : Location) (part : String) : Location :=
  if Path.isSilent part then l else if part == ".." then l.dropLast else l ++ [part]

lemma walk_of_isSilent {part : String} (h : Path.isSilent part) (l : Location) : l.walk part = l := by
  simp [walk, h]

lemma walk_of_name {part : String} (hsilent : Path.isSilent part = false) (hback : part ≠ "..")
    (l : Location) : l.walk part = l ++ [part] := by
  simp [walk, hsilent, hback]

/-- A walk ends in the last part that says something, if that is a name. -/
lemma getLast?_foldl_walk {parts : List String} {name : String}
    (h : (parts.filter (!Path.isSilent ·)).getLast? = some name) (hback : name ≠ "..") (l : Location) :
    (parts.foldl walk l).getLast? = some name := by
  -- by the last part, as it is the one that is looked at
  induction parts using List.reverseRecOn with
  | nil => cases h
  | append_singleton parts part ih =>
    rw [List.foldl_append, List.foldl_cons, List.foldl_nil]
    by_cases hsilent : Path.isSilent part
    · rw [walk_of_isSilent hsilent]
      exact ih (by simpa [hsilent] using h)
    · obtain rfl : part = name := by simpa [hsilent] using h
      rw [walk_of_name (by simpa using hsilent) hback, List.getLast?_concat]

end Location

/-- The text of a node, if it is a file. -/
def Node.text? : Node → Option String
  | .directory => none
  | .file text => some text

lemma Node.text?_eq_some_iff {n : Node} {text : String} : n.text? = some text ↔ n = .file text := by
  cases n <;> simp [text?]

namespace FileTree

variable {t t' : FileTree} {l m : Location} {path text : String}

/-! ## What stands at a place -/

/-- The text of the file at a place. -/
def fileAt (t : FileTree) (l : Location) : Option String := (t.find? l).bind Node.text?

lemma fileAt_eq_some_iff : t.fileAt l = some text ↔ t.find? l = some (.file text) := by
  simp [fileAt, Option.bind_eq_some_iff, Node.text?_eq_some_iff]

lemma fileAt_of_find?_eq_none (h : t.find? l = none) : t.fileAt l = none := by simp [fileAt, h]

lemma lookup_filter_ne (entries : List (Location × Node)) (l m : Location) :
    (entries.filter (·.1 ≠ l)).lookup m = if m = l then none else entries.lookup m := by
  induction entries with
  | nil => simp
  | cons e entries ih =>
    by_cases he : e.1 = l
    · rw [List.filter_cons_of_neg (by simpa using he), ih, List.lookup_cons, he]
      by_cases hm : m = l
      · simp [hm]
      · simp [hm, beq_eq_false_iff_ne.mpr hm]
    · rw [List.filter_cons_of_pos (by simpa using he), List.lookup_cons, ih, List.lookup_cons]
      by_cases hm : m = e.1
      · simp [hm, he]
      · simp [beq_eq_false_iff_ne.mpr hm]

@[simp]
lemma find?_nil (t : FileTree) : t.find? [] = some .directory := rfl

lemma find?_erase (t : FileTree) (hm : m ≠ []) :
    (t.erase l).find? m = if m = l then none else t.find? m := by
  simp only [find?, erase, if_neg hm]
  exact lookup_filter_ne t.entries l m

lemma find?_put (t : FileTree) (n : Node) (hm : m ≠ []) :
    (t.put l n).find? m = if m = l then some n else t.find? m := by
  by_cases h : m = l
  · simp [find?, put, ← h, hm]
  · have := find?_erase t (l := l) hm
    simp only [find?, put, if_neg hm, if_neg h, List.lookup_cons, beq_eq_false_iff_ne.mpr h] at this ⊢
    exact this

lemma fileAt_put (t : FileTree) (n : Node) (hl : l ≠ []) :
    (t.put l n).fileAt = Function.update t.fileAt l n.text? := by
  funext m
  by_cases hm : m = []
  · rw [Function.update_of_ne (by rintro rfl; exact hl hm)]
    simp [hm, fileAt]
  · rw [Function.update_apply, fileAt, find?_put t n hm]
    split <;> rfl

lemma fileAt_erase (t : FileTree) (hl : l ≠ []) :
    (t.erase l).fileAt = Function.update t.fileAt l none := by
  funext m
  by_cases hm : m = []
  · rw [Function.update_of_ne (by rintro rfl; exact hl hm)]
    simp [hm, fileAt]
  · rw [Function.update_apply, fileAt, find?_erase t hm]
    split <;> rfl

/-! ## Growing trees -/

/-- Every directory of the one tree is a directory of the other. -/
structure Grows (t t' : FileTree) : Prop where
  workingDirectory : t'.workingDirectory = t.workingDirectory
  directories : ∀ l, t.find? l = some .directory → t'.find? l = some .directory

lemma Grows.refl (t : FileTree) : Grows t t := ⟨rfl, fun _ => id⟩

lemma Grows.trans {t'' : FileTree} (h : Grows t t') (h' : Grows t' t'') : Grows t t'' :=
  ⟨h'.workingDirectory.trans h.workingDirectory,
    fun l hl => h'.directories l (h.directories l hl)⟩

/-- Where no directory is, something may be put. -/
lemma grows_put (n : Node) (h : t.find? l ≠ some .directory) : Grows t (t.put l n) := by
  refine ⟨rfl, fun m hm => ?_⟩
  by_cases hnil : m = []
  · simp [hnil]
  · rw [find?_put t n hnil, if_neg (by rintro rfl; exact h hm)]
    exact hm

lemma grows_erase (h : t.find? l ≠ some .directory) : Grows t (t.erase l) := by
  refine ⟨rfl, fun m hm => ?_⟩
  by_cases hnil : m = []
  · simp [hnil]
  · rw [find?_erase t hnil, if_neg (by rintro rfl; exact h hm)]
    exact hm

/-- The files are the same, and so are the directories but for new ones. -/
structure Keeps (t t' : FileTree) : Prop extends Grows t t' where
  files : t'.fileAt = t.fileAt

lemma Keeps.refl (t : FileTree) : Keeps t t := ⟨.refl t, rfl⟩

lemma Keeps.trans {t'' : FileTree} (h : Keeps t t') (h' : Keeps t' t'') : Keeps t t'' :=
  ⟨h.toGrows.trans h'.toGrows, h'.files.trans h.files⟩

/-! ## Following paths -/

/-- The place that a path leads to, if it can be followed. -/
def placeOf (t : FileTree) (path : String) : Location :=
  (Path.parts path).foldl Location.walk (if Path.isAbsolute path then [] else t.workingDirectory)

/-- The place of a file ends in its name. -/
lemma getLast?_placeOf {name : String} (h : Path.fileName? path = some name) :
    (t.placeOf path).getLast? = some name := by
  obtain ⟨hlast, hback⟩ := Path.fileName?_eq_some_iff.mp h
  exact Location.getLast?_foldl_walk hlast hback _

lemma Grows.placeOf (h : Grows t t') (path : String) : t'.placeOf path = t.placeOf path := by
  simp [FileTree.placeOf, h.workingDirectory]

section Following

variable {part : String} {parts : List String}

/-- One part is followed in a directory, and a name has to be short enough. -/
lemma step_eq_ok_iff :
    t.step l part = .ok m ↔ t.find? l = some .directory ∧ m = l.walk part
      ∧ (Path.isSilent part = false → part ≠ ".." → part.utf8ByteSize ≤ nameLimit) := by
  unfold step Location.walk
  split
  · next h => simp [h]
  · next h => simp [h]
  · next h =>
      rw [eq_comm (a := m)]
      by_cases hsilent : Path.isSilent part
      · simp [h, hsilent]
      by_cases hback : part = ".."
      · simp [h, hback, Path.isSilent]
      · by_cases hlong : nameLimit < part.utf8ByteSize
        · simp [hsilent, hback, hlong]
        · simp [h, hsilent, hback, hlong, Nat.le_of_not_lt hlong]

lemma follow_cons_eq_ok_iff :
    t.follow l (part :: parts) = .ok m
      ↔ ∃ next, t.step l part = .ok next ∧ t.follow next parts = .ok m := by
  rw [follow, List.foldlM_cons, Except.bind_eq_ok_iff]
  rfl

lemma follow_append_eq_ok_iff {before after : List String} :
    t.follow l (before ++ after) = .ok m
      ↔ ∃ next, t.follow l before = .ok next ∧ t.follow next after = .ok m := by
  rw [follow, List.foldlM_append, Except.bind_eq_ok_iff]
  rfl

lemma follow_singleton : t.follow l [part] = t.step l part := by
  unfold follow
  simp

/-- Whoever reaches a place along a path has walked along its parts. -/
lemma eq_foldl_walk_of_follow (h : t.follow l parts = .ok m) : m = parts.foldl Location.walk l := by
  induction parts generalizing l with
  | nil => exact (Except.ok.inj h).symm
  | cons part parts ih =>
    obtain ⟨next, hstep, hrest⟩ := follow_cons_eq_ok_iff.mp h
    rw [List.foldl_cons, ← (step_eq_ok_iff.mp hstep).2.1]
    exact ih hrest

/-- A silent part at the end asks for a directory and nothing else. -/
lemma follow_append_silent_iff (hsilent : Path.isSilent part) :
    t.follow l (parts ++ [part]) = .ok m ↔ t.follow l parts = .ok m ∧ t.find? m = some .directory := by
  rw [follow_append_eq_ok_iff]
  simp only [follow_singleton, step_eq_ok_iff, Location.walk_of_isSilent hsilent, hsilent]
  constructor
  · rintro ⟨next, hnext, hdirectory, rfl, -⟩
    exact ⟨hnext, hdirectory⟩
  · rintro ⟨hm, hdirectory⟩
    exact ⟨m, hm, hdirectory, rfl, by simp⟩

lemma Grows.follow (h : Grows t t') (hm : t.follow l parts = .ok m) : t'.follow l parts = .ok m := by
  induction parts generalizing l with
  | nil => exact hm
  | cons part parts ih =>
    obtain ⟨next, hstep, hrest⟩ := follow_cons_eq_ok_iff.mp hm
    rw [step_eq_ok_iff] at hstep
    exact follow_cons_eq_ok_iff.mpr
      ⟨next, step_eq_ok_iff.mpr ⟨h.directories l hstep.1, hstep.2⟩, ih hrest⟩

/-- Where a path starts does not depend on what is in the tree. -/
lemma start_eq_ok_iff {s : Location} :
    t.start path = .ok s
      ↔ (path.toList.contains '\x00' = false ∧ path ≠ "" ∧ path.utf8ByteSize ≤ pathLimit)
        ∧ s = if Path.isAbsolute path then [] else t.workingDirectory := by
  unfold start
  rw [eq_comm (a := s)]
  by_cases hzero : '\x00' ∈ path.toList
  · simp [hzero]
  by_cases hempty : path = ""
  · simp [hempty]
  · by_cases hlong : pathLimit < path.utf8ByteSize
    · simp [hzero, hempty, hlong, Nat.not_le_of_lt hlong]
    · simp [hzero, hempty, hlong, Nat.le_of_not_lt hlong]

lemma Grows.start (h : Grows t t') {s : Location} (hs : t.start path = .ok s) :
    t'.start path = .ok s := by
  rw [start_eq_ok_iff] at hs ⊢
  rwa [h.workingDirectory]

end Following

/-! ## Reading -/

lemma locate_eq_ok_iff :
    t.locate path = .ok l
      ↔ ∃ s, t.start path = .ok s ∧ t.follow s (Path.parts path) = .ok l :=
  Except.bind_eq_ok_iff

lemma eq_placeOf_of_locate (h : t.locate path = .ok l) : l = t.placeOf path := by
  obtain ⟨s, hs, hl⟩ := locate_eq_ok_iff.mp h
  rw [placeOf, ← (start_eq_ok_iff.mp hs).2]
  exact eq_foldl_walk_of_follow hl

lemma Grows.locate (h : Grows t t') (hl : t.locate path = .ok l) : t'.locate path = .ok l := by
  rw [locate_eq_ok_iff] at hl ⊢
  obtain ⟨s, hs, hl⟩ := hl
  exact ⟨s, h.start hs, h.follow hl⟩

lemma lookup_eq_ok_iff {n : Node} :
    t.lookup path = .ok (l, n) ↔ t.locate path = .ok l ∧ t.find? l = some n := by
  unfold lookup
  rw [Except.bind_eq_ok_iff]
  constructor
  · rintro ⟨m, hm, h⟩
    split at h
    · next n' hn =>
        obtain ⟨rfl, rfl⟩ := Prod.mk.inj (Except.ok.inj h)
        exact ⟨hm, hn⟩
    · cases h
  · rintro ⟨hl, hn⟩
    exact ⟨l, hl, by simp [hn]⟩

/-- A file is read when its path can be followed to it. -/
lemma readText_eq_ok_iff :
    t.readText path = .ok text
      ↔ t.locate path = .ok (t.placeOf path) ∧ t.fileAt (t.placeOf path) = some text := by
  unfold readText
  rw [fileAt_eq_some_iff, Except.bind_eq_ok_iff]
  constructor
  · rintro ⟨⟨l, n⟩, hlookup, h⟩
    obtain ⟨hl, hn⟩ := lookup_eq_ok_iff.mp hlookup
    cases n with
    | directory => cases h
    | file text' =>
      obtain rfl := Except.ok.inj h
      rw [← eq_placeOf_of_locate hl]
      exact ⟨hl, hn⟩
  · intro h
    exact ⟨_, lookup_eq_ok_iff.mpr h, rfl⟩

/-- Where there are more directories, the same file is read if it stands at the same place. -/
lemma Grows.readText (h : Grows t t') (hfile : t'.fileAt (t.placeOf path) = t.fileAt (t.placeOf path))
    (htext : t.readText path = .ok text) : t'.readText path = .ok text := by
  rw [readText_eq_ok_iff] at htext ⊢
  rw [h.placeOf path, hfile]
  exact ⟨h.locate htext.1, htext.2⟩

/-! ## Files that can be read -/

lemma kindAt_eq_file_iff : t.kindAt path = some .file ↔ ∃ text, t.readText path = .ok text := by
  unfold kindAt readText
  rcases t.lookup path with e | ⟨l, _ | text⟩
  · simp [bind, Except.bind]
  · simp [bind, Except.bind, Node.kind]
  · simp [bind, Except.bind, Node.kind]

/-- What is still a file at its place can still be followed there. -/
lemma Grows.kindAt_file (h : Grows t t') (hfile : t'.fileAt (t.placeOf path) = some text)
    (hkind : t.kindAt path = some .file) : t'.kindAt path = some .file := by
  obtain ⟨before, hbefore⟩ := kindAt_eq_file_iff.mp hkind
  have hlocate : t'.locate path = .ok (t.placeOf path) := h.locate (readText_eq_ok_iff.mp hbefore).1
  refine kindAt_eq_file_iff.mpr ⟨text, readText_eq_ok_iff.mpr ?_⟩
  rw [h.placeOf]
  exact ⟨hlocate, hfile⟩

lemma Keeps.kindAt_file (h : Keeps t t') (hkind : t.kindAt path = some .file) :
    t'.kindAt path = some .file := by
  obtain ⟨text, htext⟩ := kindAt_eq_file_iff.mp hkind
  have hfile : t'.fileAt (t.placeOf path) = some text := by
    rw [h.files]
    exact (readText_eq_ok_iff.mp htext).2
  exact h.toGrows.kindAt_file hfile hkind

end FileTree

end DeclGen
