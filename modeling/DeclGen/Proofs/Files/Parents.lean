import DeclGen.Proofs.Files.Writing
import Mathlib.Data.List.TakeWhile

/-!
# The directory above a path

A path whose last part says something (`Path.Trimmed`) is in the directory that the parts before it lead
to. The path of that directory is put together anew, without the silent parts at its end, and is again
such a path or one of `""`, `"."` and `"/"` (`Path.exists_parent`); whoever follows it gets where the
parts before the last one lead (`FileTree.follow_front`).
-/

namespace DeclGen

namespace Path

/-- The last part says something. -/
def Trimmed (path : String) : Prop :=
  ∃ front last, parts path = front ++ [last] ∧ isSilent last = false

/-- The last part is a name. -/
def EndsInName (path : String) : Prop :=
  ∃ front last, parts path = front ++ [last] ∧ isSilent last = false ∧ last ≠ ".."

lemma Trimmed.ne_empty {path : String} (h : Trimmed path) : path ≠ "" := by
  rintro rfl
  obtain ⟨front, last, hparts, hlast⟩ := h
  have hend : some "" = some last := by
    have hlist : [""] = front ++ [last] := hparts
    simpa using congrArg List.getLast? hlist
  obtain rfl := Option.some.inj hend
  exact absurd hlast (by decide)

/-! ## Parts and texts -/

lemma parts_ne_nil (path : String) : parts path ≠ [] := by
  simp [parts, splitAtSlashes_ne_nil]

/-- Parts are put together to a path that has them. -/
lemma parts_intercalate {ps : List String} (hsome : ps ≠ []) (h : ∀ p ∈ ps, '/' ∉ p.toList) :
    parts (String.intercalate "/" ps) = ps := by
  induction ps with
  | nil => exact absurd rfl hsome
  | cons p ps ih =>
    obtain ⟨hp, hps⟩ := List.forall_mem_cons.mp h
    cases ps with
    | nil => simpa using parts_of_notMem hp
    | cons p' ps =>
      rw [String.intercalate_cons_cons, parts_append_slash, parts_of_notMem hp, ih (by simp) hps]
      rfl

/-- A path is absolute when its first part is empty, and is not all of it. -/
lemma isAbsolute_iff {path first : String} {rest : List String} (h : parts path = first :: rest)
    (hne : path ≠ "") : isAbsolute path = true ↔ first = "" := by
  cases hlist : path.toList with
  | nil => exact absurd (String.toList_eq_nil_iff.mp hlist) hne
  | cons c cs =>
    rw [isAbsolute, hlist, List.head?_cons]
    rw [parts, hlist] at h
    by_cases hc : c = '/'
    · subst hc
      have hfirst : "" = first := (List.cons.inj h).1
      simp [hfirst.symm]
    · obtain ⟨part, others, hcs⟩ := List.exists_cons_of_ne_nil (splitAtSlashes_ne_nil cs)
      rw [splitAtSlashes_cons hc, hcs] at h
      obtain rfl : String.ofList (c :: part) = first := (List.cons.inj h).1
      simp [hc, ← String.toList_inj]

/-! ## Silent ends -/

lemma exists_silent_end (ps : List String) :
    ∃ silent, (∀ s ∈ silent, isSilent s) ∧ ps = trimEnd ps ++ silent := by
  refine ⟨(ps.reverse.takeWhile isSilent).reverse, ?_, ?_⟩
  · intro s hs
    exact List.mem_takeWhile_imp (List.mem_reverse.mp hs)
  · rw [trimEnd, ← List.reverse_append, List.takeWhile_append_dropWhile, List.reverse_reverse]

lemma trimEnd_concat {front : List String} {last : String} (h : isSilent last = false) :
    trimEnd (front ++ [last]) = front ++ [last] := by
  simp [trimEnd, h]

/-- What is left without a silent end ends in a part that says something. -/
lemma exists_last_trimEnd {ps : List String} (h : trimEnd ps ≠ []) :
    ∃ front last, trimEnd ps = front ++ [last] ∧ isSilent last = false := by
  unfold trimEnd at h ⊢
  cases hdrop : ps.reverse.dropWhile isSilent with
  | nil => simp [hdrop] at h
  | cons last front =>
    refine ⟨front.reverse, last, by simp, ?_⟩
    have hhead := List.head_dropWhile_not (l := ps.reverse) isSilent (by simp [hdrop])
    simpa [hdrop] using hhead

/-! ## The path of the directory above -/

/-- The directory above a path with the parts `front` before its last one: nothing is before it, or
only a slash, or the directory's path consists of these parts without their silent end. -/
inductive Above (front : List String) : String → Prop
  | none (h : front = []) : Above front ""
  | root (silent : List String) (hsilent : ∀ s ∈ silent, isSilent s) (h : front = "" :: silent) :
      Above front "/"
  | path {directory : String} (silent : List String) (hsilent : ∀ s ∈ silent, isSilent s)
      (h : front = parts directory ++ silent) (hne : directory ≠ "")
      (htrimmed : directory = "." ∨ Trimmed directory) : Above front directory

section Put

variable {first : String} {rest : List String}

/-- The parts in front, without their silent end, are put together to a path with these parts. -/
lemma parts_front (hslash : ∀ p ∈ first :: rest, '/' ∉ p.toList) :
    parts (String.intercalate "/" (first :: trimEnd rest)) = first :: trimEnd rest := by
  refine parts_intercalate (by simp) fun p hp => hslash p ?_
  obtain ⟨silent, -, hrest⟩ := exists_silent_end rest
  rw [hrest]
  rcases List.mem_cons.mp hp with rfl | hp
  · exact List.mem_cons_self
  · exact List.mem_cons_of_mem _ (List.mem_append_left _ hp)

/-- If that path is not the root, its last part says something, or it is a point alone. -/
lemma trimmed_front
    (hparts : parts (String.intercalate "/" (first :: trimEnd rest)) = first :: trimEnd rest)
    (hroot : ¬(first = "" ∧ trimEnd rest = [])) :
    String.intercalate "/" (first :: trimEnd rest) = "." ∨
      Trimmed (String.intercalate "/" (first :: trimEnd rest)) := by
  by_cases hnone : trimEnd rest = []
  · -- only the first part is left, which is not empty
    rw [hnone] at hparts hroot ⊢
    have hfirst : first ≠ "" := fun hempty => hroot ⟨hempty, rfl⟩
    by_cases hsilent : isSilent first
    · exact .inl (by simpa [isSilent, hfirst] using hsilent)
    · exact .inr ⟨[], first, hparts, by simpa using hsilent⟩
  · obtain ⟨front, last, hend, hlast⟩ := exists_last_trimEnd hnone
    rw [hend] at hparts ⊢
    exact .inr ⟨first :: front, last, hparts, hlast⟩

end Put

/-- A path whose last part says something has a directory above it. -/
lemma exists_parent {path last : String} {front : List String} (h : parts path = front ++ [last])
    (hlast : isSilent last = false) : ∃ directory, parent? path = some directory ∧ Above front directory := by
  unfold parent?
  cases front with
  | nil =>
    have hne : last ≠ "" := by
      rintro rfl
      exact absurd hlast (by decide)
    refine ⟨"", ?_, .none rfl⟩
    rw [h]
    simp [trimEnd, hne]
  | cons first rest =>
    have htelling : trimEnd (rest ++ [last]) = rest ++ [last] := trimEnd_concat hlast
    obtain ⟨silent, hsilent, hrest⟩ := exists_silent_end rest
    have hparts : parts (String.intercalate "/" (first :: trimEnd rest)) = first :: trimEnd rest :=
      parts_front fun p hp => notMem_of_mem_parts (h ▸ List.mem_append_left _ hp)
    rw [h, List.cons_append]
    dsimp only
    rw [htelling]
    by_cases hroot : first = "" ∧ trimEnd rest = []
    · obtain ⟨rfl, hnone⟩ := hroot
      refine ⟨"/", by simp [hnone], .root silent hsilent ?_⟩
      rw [hrest, hnone, List.nil_append]
    · refine ⟨String.intercalate "/" (first :: trimEnd rest), ?_,
        .path silent hsilent ?_ ?_ (trimmed_front hparts hroot)⟩
      · split
        · rename_i hnil
          exact absurd hnil (by simp)
        · rw [List.dropLast_concat]
          split
          · rename_i hnone
            exact absurd ⟨rfl, hnone⟩ hroot
          · rfl
      · rw [hparts, List.cons_append, ← hrest]
      · intro hempty
        rw [hempty] at hparts
        exact hroot ⟨(List.cons.inj hparts).1.symm, (List.cons.inj hparts).2.symm⟩

/-- The path of a directory that is not there in every tree says something. -/
lemma Above.trimmed {directory : String} {front : List String} (h : Above front directory)
    (hbase : ¬(directory = "" ∨ directory = "." ∨ directory = "/")) :
    Trimmed directory ∧ parts directory <+: front := by
  obtain ⟨hnone, hpoint, hroot⟩ : directory ≠ "" ∧ directory ≠ "." ∧ directory ≠ "/" := by
    simpa using hbase
  cases h with
  | none => exact absurd rfl hnone
  | root => exact absurd rfl hroot
  | path silent _ hfront _ htrimmed => exact ⟨htrimmed.resolve_left hpoint, silent, hfront.symm⟩

/-- The directory to write in: the working directory, if nothing is above the file. -/
lemma directoryOf_eq {path directory : String} (h : parent? path = some directory) :
    directoryOf path = if directory = "" then "." else directory := by
  unfold directoryOf
  rw [h]
  split
  · rename_i heq
    cases heq
  · rename_i heq
    rw [if_pos (Option.some.inj heq)]
  · rename_i d hne heq
    obtain rfl := Option.some.inj heq
    rw [if_neg hne]

lemma directoryOf_ne_empty (path : String) : directoryOf path ≠ "" := by
  unfold directoryOf
  split
  · decide
  · decide
  · next hne _ => exact hne

end Path

namespace FileTree

variable {t t' : FileTree} {l : Location} {path directory : String} {front silent ps : List String}

/-- Where following a path begins. -/
def origin (t : FileTree) (path : String) : Location :=
  if Path.isAbsolute path then [] else t.workingDirectory

/-- The directory that a path leads to. -/
def enter (t : FileTree) (path : String) : Except FileError Location :=
  t.follow (t.origin path) (Path.parts path ++ [""])

lemma follow_append (before after : List String) :
    t.follow l (before ++ after) = t.follow l before >>= (t.follow · after) := by
  unfold follow
  rw [List.foldlM_append]

/-- A silent part only asks for a directory. -/
lemma step_of_isSilent {part : String} (h : Path.isSilent part) : t.step l part = t.step l "" := by
  have hempty : Path.isSilent "" = true := rfl
  unfold step
  cases t.find? l with
  | none => rfl
  | some n => cases n <;> simp [h, hempty]

/-- Silent parts in front of a slash at the end say nothing. -/
lemma follow_silent (silent : List String) (hsilent : ∀ s ∈ silent, Path.isSilent s) :
    t.follow l (silent ++ [""]) = t.step l "" := by
  induction silent with
  | nil => exact follow_singleton
  | cons s silent ih =>
    obtain ⟨hs, hsilent⟩ := List.forall_mem_cons.mp hsilent
    have hcons : t.follow l (s :: silent ++ [""]) = t.step l s >>= (t.follow · (silent ++ [""])) := rfl
    rw [hcons, step_of_isSilent hs]
    cases h : t.step l "" with
    | error e => rfl
    | ok m =>
      -- the step stays where it is
      obtain rfl : m = l := (step_eq_ok_iff.mp h).2.1
      exact (ih hsilent).trans h

lemma follow_append_silent (hsilent : ∀ s ∈ silent, Path.isSilent s) :
    t.follow l (ps ++ silent ++ [""]) = t.follow l (ps ++ [""]) := by
  rw [List.append_assoc, follow_append, follow_append]
  refine congrArg (t.follow l ps >>= ·) (funext fun m => ?_)
  rw [follow_silent silent hsilent, follow_singleton]

lemma origin_of_isAbsolute (h : Path.isAbsolute path) : t.origin path = [] := if_pos h

lemma origin_of_relative (h : Path.isAbsolute path = false) : t.origin path = t.workingDirectory :=
  if_neg (by simp [h])

/-- Paths that begin with the same part are followed from the same place. -/
lemma origin_of_prefix (hne : path ≠ "") (hne' : directory ≠ "")
    (h : Path.parts directory <+: Path.parts path) : t.origin path = t.origin directory := by
  obtain ⟨first, rest, hfirst⟩ := List.exists_cons_of_ne_nil (Path.parts_ne_nil directory)
  obtain ⟨behind, hparts⟩ := h
  rw [hfirst, List.cons_append] at hparts
  unfold origin
  simp only [Path.isAbsolute_iff hparts.symm hne, Path.isAbsolute_iff hfirst hne']

/-- The parts before the last one lead to the directory above. -/
lemma follow_front {last : String} (hparts : Path.parts path = front ++ [last])
    (hlast : Path.isSilent last = false) (habove : Path.Above front directory) :
    t.follow (t.origin path) (front ++ [""]) = t.enter directory := by
  have hne : path ≠ "" := Path.Trimmed.ne_empty ⟨front, last, hparts, hlast⟩
  cases habove with
  | none h =>
    subst h
    have hlast' : last ≠ "" := by
      rintro rfl
      exact absurd hlast (by decide)
    have hrelative : Path.isAbsolute path = false := by
      rw [← Bool.not_eq_true, Path.isAbsolute_iff hparts hne]
      exact hlast'
    rw [origin_of_relative hrelative, follow_silent [] (by simp)]
    exact (follow_silent [""] (by decide)).symm
  | root silent hsilent h =>
    subst h
    have habsolute : Path.isAbsolute path := (Path.isAbsolute_iff hparts hne).mpr rfl
    rw [origin_of_isAbsolute habsolute, follow_silent _ (List.forall_mem_cons.mpr ⟨by decide, hsilent⟩)]
    exact (follow_silent ["", ""] (by decide)).symm
  | path silent hsilent h hne' htrimmed =>
    subst h
    have horigin : t.origin path = t.origin directory :=
      origin_of_prefix hne hne' ⟨silent ++ [last], by rw [hparts, List.append_assoc]⟩
    rw [horigin, follow_append_silent hsilent]
    rfl

end FileTree

end DeclGen
