import DeclGen.Files.Destination
import Mathlib.Data.List.Basic
import Mathlib.Tactic.Lemma

/-!
# Parts and names of paths

What a path that was put together consists of, which file it names, and how the name of an artifact is
taken apart again. A path is never taken apart by its text: what later modules know of paths they know
by their parts.
-/

namespace DeclGen

namespace Path

/-! ## Parts -/

section Split

variable {c : Char} {cs part : List Char}

@[simp]
lemma splitAtSlashes_slash (cs : List Char) :
    splitAtSlashes ('/' :: cs) = [] :: splitAtSlashes cs := rfl

lemma splitAtSlashes_ne_nil (cs : List Char) : splitAtSlashes cs ≠ [] := by
  cases cs with
  | nil => simp [splitAtSlashes]
  | cons c cs => unfold splitAtSlashes; split <;> simp

lemma splitAtSlashes_cons (hc : c ≠ '/') (cs : List Char) :
    splitAtSlashes (c :: cs) = (splitAtSlashes cs).modifyHead (c :: ·) := by
  obtain ⟨first, others, h⟩ := List.exists_cons_of_ne_nil (splitAtSlashes_ne_nil cs)
  rw [h]
  unfold splitAtSlashes
  split <;> simp_all

lemma splitAtSlashes_append_slash (as bs : List Char) :
    splitAtSlashes (as ++ '/' :: bs) = splitAtSlashes as ++ splitAtSlashes bs := by
  induction as with
  | nil => rfl
  | cons a as ih =>
    by_cases ha : a = '/'
    · simp [ha, ih]
    · obtain ⟨first, others, h⟩ := List.exists_cons_of_ne_nil (splitAtSlashes_ne_nil as)
      rw [List.cons_append, splitAtSlashes_cons ha, splitAtSlashes_cons ha, ih, h]
      rfl

lemma splitAtSlashes_of_notMem (h : '/' ∉ cs) : splitAtSlashes cs = [cs] := by
  induction cs with
  | nil => rfl
  | cons c cs ih =>
    rw [List.mem_cons, not_or] at h
    rw [splitAtSlashes_cons (Ne.symm h.1), ih h.2]
    rfl

lemma notMem_of_mem_splitAtSlashes (h : part ∈ splitAtSlashes cs) : '/' ∉ part := by
  induction cs generalizing part with
  | nil => simp_all [splitAtSlashes]
  | cons c cs ih =>
    by_cases hc : c = '/'
    · rw [hc, splitAtSlashes_slash, List.mem_cons] at h
      rcases h with rfl | h
      · exact List.not_mem_nil
      · exact ih h
    · obtain ⟨first, others, hcs⟩ := List.exists_cons_of_ne_nil (splitAtSlashes_ne_nil cs)
      rw [splitAtSlashes_cons hc, hcs, List.modifyHead_cons, List.mem_cons] at h
      rcases h with rfl | h
      · rw [List.mem_cons, not_or]
        exact ⟨Ne.symm hc, ih (by simp [hcs])⟩
      · exact ih (by simp [hcs, h])

end Split

section Parts

variable {path directory name part stem : String}

/-- A path without slashes is its only part. -/
lemma parts_of_notMem (h : '/' ∉ path.toList) : parts path = [path] := by
  simp [parts, splitAtSlashes_of_notMem h]

lemma notMem_of_mem_parts (h : part ∈ parts path) : '/' ∉ part.toList := by
  obtain ⟨cs, hcs, rfl⟩ := List.mem_map.mp h
  simpa using notMem_of_mem_splitAtSlashes hcs

lemma parts_append_slash (above path : String) :
    parts (above ++ "/" ++ path) = parts above ++ parts path := by
  have : (above ++ "/" ++ path).toList = above.toList ++ '/' :: path.toList := by simp
  rw [parts, this, splitAtSlashes_append_slash, List.map_append]
  rfl

lemma isAbsolute_of_notMem (h : '/' ∉ path.toList) : isAbsolute path = false := by
  unfold isAbsolute
  cases hp : path.toList with
  | nil => rfl
  | cons c cs =>
    rw [hp, List.mem_cons, not_or] at h
    simpa using Ne.symm h.1

/-- A path is joined to a directory with one slash, which may stand there already. -/
lemma exists_join (hd : directory ≠ "") (hp : isAbsolute path = false) :
    ∃ above, join directory path = above ++ "/" ++ path
      ∧ (directory = above ∨ directory = above ++ "/") := by
  by_cases hend : Text.finishesWith "/" directory
  · obtain ⟨above, h⟩ : ['/'] <:+ directory.toList := List.isSuffixOf_iff_suffix.mp hend
    have hdirectory : directory = String.ofList above ++ "/" := by
      rw [← String.toList_inj, ← h]
      simp
    refine ⟨String.ofList above, ?_, .inr hdirectory⟩
    rw [← hdirectory]
    simp [join, hp, hd, hend]
  · exact ⟨directory, by simp [join, hp, hd, hend], .inl rfl⟩

@[simp]
lemma join_empty (path : String) : join "" path = path := by simp [join]

lemma isAbsolute_append (hd : directory ≠ "") (path : String) :
    isAbsolute (directory ++ path) = isAbsolute directory := by
  have : directory.toList ≠ [] := by simpa using hd
  obtain ⟨c, cs, h⟩ := List.exists_cons_of_ne_nil this
  simp [isAbsolute, h]

/-- What is joined to a directory is absolute when the directory is. -/
lemma isAbsolute_join (hd : directory ≠ "") (hp : isAbsolute path = false) :
    isAbsolute (join directory path) = isAbsolute directory := by
  unfold join
  simp only [hp, hd, Bool.false_or, beq_iff_eq]
  split
  · contradiction
  · split
    · exact isAbsolute_append hd path
    · rw [String.append_assoc, isAbsolute_append hd]

/-- Different names in one directory give different paths. -/
lemma join_inj {p q : String} (hp : isAbsolute p = false) (hq : isAbsolute q = false) :
    join directory p = join directory q ↔ p = q := by
  unfold join
  simp only [hp, hq, Bool.false_or]
  split
  · rfl
  · split <;> simp [← String.toList_inj]

/-! ## Names -/

lemma fileName?_eq_some_iff :
    fileName? path = some name
      ↔ ((parts path).filter (!isSilent ·)).getLast? = some name ∧ name ≠ ".." := by
  unfold fileName?
  split
  · next h => simp [h, eq_comm]
  · next h =>
      refine ⟨fun hname => ⟨hname, ?_⟩, And.left⟩
      rintro rfl
      exact h hname

/-- The name of a file is one of the parts of its path. -/
lemma mem_parts_of_fileName? (h : fileName? path = some name) : name ∈ parts path :=
  List.mem_of_mem_filter (List.mem_of_getLast? (fileName?_eq_some_iff.mp h).1)

lemma not_isSilent_of_fileName? (h : fileName? path = some name) : isSilent name = false := by
  have := List.of_mem_filter (List.mem_of_getLast? (fileName?_eq_some_iff.mp h).1)
  simpa using this

lemma notMem_of_fileName? (h : fileName? path = some name) : '/' ∉ name.toList :=
  notMem_of_mem_parts (mem_parts_of_fileName? h)

/-- The name of a file names that file. -/
lemma fileName?_self (hslash : '/' ∉ name.toList) (hsilent : isSilent name = false)
    (hback : name ≠ "..") : fileName? name = some name := by
  simp [fileName?_eq_some_iff, parts_of_notMem hslash, hsilent, hback]

lemma fileName?_idem (h : fileName? path = some name) : fileName? name = some name :=
  fileName?_self (notMem_of_fileName? h) (not_isSilent_of_fileName? h) (fileName?_eq_some_iff.mp h).2

/-- A path in a directory names what it names by itself. -/
lemma fileName?_join (h : fileName? path = some name) : fileName? (join directory path) = some name := by
  by_cases hp : isAbsolute path
  · simpa [join, hp] using h
  by_cases hd : directory = ""
  · simpa [hd] using h
  · obtain ⟨above, hjoin, -⟩ := exists_join hd (by simpa using hp)
    rw [fileName?_eq_some_iff] at h ⊢
    simp [hjoin, parts_append_slash, h]

/-! ## Stems -/

/-- A name that goes on with a dot and has no other dot behind that is cut there. -/
lemma cutName_append {tail : String} (hstem : stem ≠ "") (htail : '.' ∉ tail.toList) :
    cutName (stem ++ "." ++ tail) = (stem, some tail) := by
  have hne : stem.toList.reverse ≠ [] := by simpa using hstem
  obtain ⟨c, cs, hcs⟩ := List.exists_cons_of_ne_nil hne
  -- read backwards, the tail is everything up to the first dot
  have hall : ∀ d ∈ tail.toList.reverse, (d != '.') = true := by
    intro d hd
    rw [List.mem_reverse] at hd
    exact bne_iff_ne.mpr fun h => htail (h ▸ hd)
  have hrev : (stem ++ "." ++ tail).toList.reverse
      = tail.toList.reverse ++ '.' :: stem.toList.reverse := by simp
  have hdrop : (tail.toList.reverse ++ '.' :: stem.toList.reverse).dropWhile (· != '.')
      = '.' :: stem.toList.reverse := by
    rw [List.dropWhile_append_of_pos hall]
    rfl
  have htake : (tail.toList.reverse ++ '.' :: stem.toList.reverse).takeWhile (· != '.')
      = tail.toList.reverse := by
    rw [List.takeWhile_append_of_pos hall]
    simp
  have hstemBack : String.ofList (c :: cs).reverse = stem := by simp [← hcs]
  unfold cutName
  dsimp only
  rw [hrev, hdrop, htake, hcs]
  simp [← hstemBack]

/-- The stem is the beginning of the name, and there is something of it if there is a name. -/
lemma cutName_fst (name : String) :
    (cutName name).1.toList <+: name.toList ∧ (name ≠ "" → (cutName name).1 ≠ "") := by
  have hsuffix := List.dropWhile_suffix (l := name.toList.reverse) (· != '.')
  simp only [cutName]
  split
  · exact ⟨List.prefix_rfl, id⟩
  · exact ⟨List.prefix_rfl, id⟩
  · next dot before hne h =>
      have hbefore : before ≠ [] := fun hnil => by simp [hnil] at hne
      rw [h, ← List.reverse_prefix, List.reverse_reverse, List.reverse_cons] at hsuffix
      refine ⟨?_, fun _ => by simpa [← String.toList_inj] using hbefore⟩
      simpa using (List.prefix_append _ _).trans hsuffix

lemma stem?_eq_some_iff :
    stem? path = some stem ↔ ∃ name, fileName? path = some name ∧ (cutName name).1 = stem := by
  simp [stem?]

lemma stem_ne_empty (h : stem? path = some stem) : stem ≠ "" := by
  obtain ⟨name, hname, rfl⟩ := stem?_eq_some_iff.mp h
  refine (cutName_fst name).2 ?_
  rintro rfl
  simpa [isSilent] using not_isSilent_of_fileName? hname

lemma notMem_stem (h : stem? path = some stem) : '/' ∉ stem.toList := by
  obtain ⟨name, hname, rfl⟩ := stem?_eq_some_iff.mp h
  exact fun hmem => notMem_of_fileName? hname ((cutName_fst name).1.subset hmem)

/-- What is said of a file by its name holds of its path. -/
lemma stem?_of_fileName? (h : fileName? path = some name) : stem? path = stem? name := by
  rw [stem?, stem?, h, fileName?_idem h]

end Parts

end Path

end DeclGen
