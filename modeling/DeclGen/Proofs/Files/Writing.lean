import DeclGen.Files.Replace
import DeclGen.Proofs.Files.Places
import Mathlib.Order.Defs.Unbundled

/-!
# Writing files

What writing a file does to a tree: when it succeeds, the file that the path denotes has the text and all
others are as they were (`FileTree.Writes`); when it is refused, no file has changed
(`FileTree.Keeps`). Either way there may be more directories, and the temporary file is gone.
-/

namespace DeclGen

namespace Path

lemma parts_empty : parts "" = [""] := rfl

end Path

namespace FileTree

variable {t t' : FileTree} {l : Location} {directory path name text : String}

/-! ## Places of joined paths -/

/-- A path in a directory is followed from where the directory is. -/
lemma placeOf_join (hp : Path.isAbsolute path = false) :
    t.placeOf (Path.join directory path)
      = (Path.parts path).foldl Location.walk (t.placeOf directory) := by
  by_cases hd : directory = ""
  · simp [hd, placeOf, Path.parts_empty, hp, Location.walk, Path.isSilent,
      show Path.isAbsolute "" = false from rfl]
  · obtain ⟨above, hjoin, habove⟩ := Path.exists_join hd hp
    rw [placeOf, placeOf, Path.isAbsolute_join hd hp, hjoin, Path.parts_append_slash, List.foldl_append]
    congr 1
    rcases habove with h | h
    · rw [h]
    · rw [h, show above ++ "/" = above ++ "/" ++ "" by simp, Path.parts_append_slash, List.foldl_append,
        Path.parts_empty, List.foldl_cons, Location.walk_of_isSilent rfl, List.foldl_nil]

/-- A name in a directory is one name further. -/
lemma placeOf_join_name (hslash : '/' ∉ name.toList) (hsilent : Path.isSilent name = false)
    (hback : name ≠ "..") : t.placeOf (Path.join directory name) = t.placeOf directory ++ [name] := by
  rw [placeOf_join (Path.isAbsolute_of_notMem hslash), Path.parts_of_notMem hslash, List.foldl_cons,
    Location.walk_of_name hsilent hback, List.foldl_nil]

/-! ## Single operations -/

/-- A new directory stands at its site, where nothing was. -/
lemma makeDirectory_eq_ok (h : t.makeDirectory path = .ok t') :
    ∃ s, t.site path = .ok s ∧ t.find? s.place = none ∧ t' = t.put s.place .directory := by
  obtain ⟨s, hs, h⟩ := Except.bind_eq_ok_iff.mp h
  split at h
  · cases h
  split at h
  · cases h
  split at h
  · cases h
  · next hfree => exact ⟨s, hs, by simpa using hfree, (Except.ok.inj h).symm⟩

lemma keeps_makeDirectory (h : t.makeDirectory path = .ok t') : Keeps t t' := by
  obtain ⟨s, -, hnone, rfl⟩ := makeDirectory_eq_ok h
  refine ⟨grows_put _ (by simp [hnone]), ?_⟩
  rw [fileAt_put t _ (by simp [Site.place])]
  exact Function.update_eq_self_iff.mpr (fileAt_of_find?_eq_none hnone).symm

lemma temporaryName?_spec (h : t.temporaryName? l = some name) :
    t.find? (l ++ [name]) = none ∧ ∃ n : Nat, name = ".tmp" ++ toString n := by
  refine ⟨by simpa using List.find?_some h, ?_⟩
  obtain ⟨n, -, rfl⟩ := List.mem_map.mp (List.mem_of_find?_eq_some h)
  exact ⟨n, rfl⟩

/-- A temporary name is a name, as digits are no slashes. -/
lemma temporaryName_isName (n : Nat) :
    '/' ∉ (".tmp" ++ toString n).toList ∧ Path.isSilent (".tmp" ++ toString n) = false
      ∧ ".tmp" ++ toString n ≠ ".." := by
  have htoList : (".tmp" ++ toString n).toList = '.' :: 't' :: 'm' :: 'p' :: (toString n).toList := by
    simp
  refine ⟨?_, ?_, ?_⟩
  · rw [htoList, Nat.toString_eq_ofList_toDigits, String.toList_ofList]
    intro hmem
    have : '/' ∈ Nat.toDigits 10 n := by simpa using hmem
    exact absurd (Nat.isDigit_of_mem_toDigits (by decide) (by decide) this) (by decide)
  · simp [Path.isSilent, ← String.toList_inj]
  · simp [← String.toList_inj]

/-- A temporary file is a new file, and its path leads there. -/
lemma makeTemporary_eq_ok (h : t.makeTemporary directory text = .ok (path, t')) :
    ∃ l, t.locate path = .ok l ∧ l ≠ [] ∧ t.find? l = none ∧ t' = t.put l (.file text) := by
  obtain ⟨s, hs, h⟩ := Except.bind_eq_ok_iff.mp h
  obtain ⟨l, hl, h⟩ := Except.bind_eq_ok_iff.mp h
  split at h
  · cases h
  · next name hname =>
      obtain ⟨m, hm, h⟩ := Except.bind_eq_ok_iff.mp h
      obtain ⟨rfl, rfl⟩ := Prod.mk.inj (Except.ok.inj h)
      obtain ⟨hfree, n, rfl⟩ := temporaryName?_spec hname
      obtain ⟨hslash, hsilent, hback⟩ := temporaryName_isName n
      -- the directory is where its path leads, so the new file is one name further
      have hplace : l = t.placeOf directory := by
        have hl' := eq_foldl_walk_of_follow ((follow_append_silent_iff rfl).mp hl).1
        rwa [(start_eq_ok_iff.mp hs).2] at hl'
      have hm' : m = l ++ [".tmp" ++ toString n] := by
        rw [eq_placeOf_of_locate hm, placeOf_join_name hslash hsilent hback, ← hplace]
      refine ⟨m, hm, by simp [hm'], ?_, rfl⟩
      rw [hm']
      exact hfree

/-- The site of a path that can be written is its place. -/
lemma locate_of_site {s : Site} (h : t.site path = .ok s) (hnamed : s.isNamed) (hopen : s.closed = false)
    (hshort : s.last.utf8ByteSize ≤ nameLimit) : t.locate path = .ok s.place := by
  obtain ⟨start, hstart, h⟩ := Except.bind_eq_ok_iff.mp h
  obtain ⟨directory, hdirectory, h⟩ := Except.bind_eq_ok_iff.mp h
  obtain rfl := Except.ok.inj h
  rw [locate_eq_ok_iff]
  refine ⟨start, hstart, ?_⟩
  -- no slash stands at the end, so the last part is the one that says something
  cases hparts : (Path.parts path).reverse with
  | nil => simp [hparts, Site.isNamed, Path.isSilent] at hnamed
  | cons last above =>
    have hlast : last ≠ "" := by
      rintro rfl
      simp [hparts] at hopen
    have hpath : Path.parts path = above.reverse ++ [last] := by
      rw [← List.reverse_reverse (Path.parts path), hparts, List.reverse_cons]
    simp only [hparts, List.dropWhile_cons, beq_iff_eq, hlast, if_false, List.tail_cons,
      List.headD_cons] at hdirectory hnamed hshort ⊢
    obtain ⟨habove, hfound⟩ := (follow_append_silent_iff rfl).mp hdirectory
    have hname : Path.isSilent last = false ∧ last ≠ ".." := by simpa [Site.isNamed] using hnamed
    rw [hpath, follow_append_eq_ok_iff]
    refine ⟨directory, habove, ?_⟩
    rw [follow_singleton, step_eq_ok_iff, Location.walk_of_name hname.1 hname.2]
    exact ⟨hfound, rfl, fun _ _ => hshort⟩

/-- A moved file stands where the target's path leads, and nowhere else. -/
lemma moveFile_eq_ok {source target : String} (h : t.moveFile source target = .ok t')
    (hsource : t.lookup source = .ok (l, .file text)) :
    t.locate target = .ok (t.placeOf target) ∧ t.placeOf target ≠ []
      ∧ t.find? (t.placeOf target) ≠ some .directory
      ∧ t' = (t.erase l).put (t.placeOf target) (.file text) := by
  unfold moveFile at h
  obtain ⟨found, hfound, h⟩ := Except.bind_eq_ok_iff.mp h
  obtain rfl := Except.ok.inj (hsource.symm.trans hfound)
  obtain ⟨s, hs, h⟩ := Except.bind_eq_ok_iff.mp h
  split at h
  · cases h
  next hnamed =>
  split at h
  · cases h
  next hshort =>
  split at h
  · cases h
  next hopen =>
  split at h
  · cases h
  next hfree =>
  obtain rfl := Except.ok.inj h
  have hlocate := locate_of_site hs (by simpa using hnamed) (by simpa using hopen)
    (Nat.le_of_not_lt hshort)
  rw [← eq_placeOf_of_locate hlocate]
  exact ⟨hlocate, by simp [Site.place], hfree, rfl⟩

/-! ## Runs -/

section Runs

variable {α β : Type} {p : StateM FileTree α} {f : α → StateM FileTree β}

lemma run_bind (p : StateM FileTree α) (f : α → StateM FileTree β) (t : FileTree) :
    (p >>= f).run t = (f (p.run t).1).run (p.run t).2 := rfl

instance : IsPreorder FileTree Keeps where
  refl := Keeps.refl
  trans _ _ _ := Keeps.trans

/-- However it is run, what it leaves is so related to what it found. -/
def Within (R : FileTree → FileTree → Prop) (p : StateM FileTree α) : Prop := ∀ t, R t (p.run t).2

namespace Within

variable {R : FileTree → FileTree → Prop} [IsPreorder FileTree R]

lemma pure (a : α) : Within R (Pure.pure a : StateM FileTree α) := fun t => refl_of R t

lemma ask (question : FileTree → α) : Within R (FileTree.ask question) := fun t => refl_of R t

lemma bind (hp : Within R p) (hf : ∀ a, Within R (f a)) : Within R (p >>= f) := fun t =>
  trans_of R (hp t) (hf _ _)

lemma mapM {g : α → StateM FileTree β} {as : List α} (h : ∀ a ∈ as, Within R (g a)) :
    Within R (as.mapM g) := by
  induction as with
  | nil => exact pure []
  | cons a as ih =>
    rw [List.mapM_cons]
    exact bind (h a List.mem_cons_self) fun _ =>
      bind (ih fun b hb => h b (List.mem_cons_of_mem a hb)) fun _ => pure _

end Within

lemma run_mapM_cons (g : α → StateM FileTree β) (a : α) (as : List α) (t : FileTree) :
    ((a :: as).mapM g).run t
      = (((g a).run t).1 :: ((as.mapM g).run ((g a).run t).2).1, ((as.mapM g).run ((g a).run t).2).2) := by
  rw [List.mapM_cons]
  rfl

lemma run_change (f : FileTree → Except FileError (α × FileTree)) (t : FileTree) :
    (change f).run t = match f t with
      | .ok (a, changed) => (.ok a, changed)
      | .error e => (.error e, t) := rfl

/-- A change that keeps the files when it succeeds also keeps them when it is refused. -/
lemma within_change {f : FileTree → Except FileError (α × FileTree)}
    (h : ∀ t a t', f t = .ok (a, t') → Keeps t t') : Within Keeps (change f) := by
  intro t
  rw [run_change]
  cases hf : f t with
  | error e => exact .refl t
  | ok made => exact h t made.1 made.2 hf

end Runs

section Stores

open FileStore

lemma within_makeDirectory (path : String) :
    Within Keeps (FileStore.makeDirectory path : StateM FileTree (Except FileError Unit)) := by
  refine within_change fun t a t' h => ?_
  cases hmake : t.makeDirectory path with
  | error e => simp [hmake, Except.map] at h
  | ok changed =>
    obtain rfl : changed = t' := by simpa [hmake, Except.map] using h
    exact keeps_makeDirectory hmake

section Chains

variable {R : FileTree → FileTree → Prop} [IsPreorder FileTree R]

lemma within_settled (path : String) (answer : Except FileError Unit) :
    Within R (makeChain.settled path answer : StateM FileTree (Except FileError Unit)) := by
  unfold makeChain.settled
  split
  · exact .pure _
  · exact .bind (.bind (.ask _) fun _ => .pure _) fun _ => .pure _

/-- Directories are made one by one. -/
lemma within_makeChain
    (hmake : ∀ path, Within R (FileStore.makeDirectory path : StateM FileTree (Except FileError Unit)))
    (paths : List String) :
    Within R (makeChain paths : StateM FileTree (Except FileError Unit)) := by
  induction paths with
  | nil => exact .pure _
  | cons path above ih =>
    unfold makeChain
    split
    · exact .pure _
    · exact .pure _
    · next path' above' hne heq =>
      obtain ⟨rfl, rfl⟩ := List.cons.inj heq
      refine .bind (hmake path) fun answer => ?_
      split
      · exact .pure _
      · refine .bind ih fun answer => ?_
        split
        · exact .pure _
        · exact .bind (hmake path) (within_settled path)
      · exact within_settled path _

end Chains

/-- A path has the text, and but for new directories nothing else has changed. -/
structure Writes (t t' : FileTree) (path text : String) : Prop extends Grows t t' where
  files : t'.fileAt = Function.update t.fileAt (t.placeOf path) (some text)
  reads : t'.readText path = .ok text

/-- A file that is written over is a file. -/
lemma Writes.kindAt_file {target : String} (h : Writes t t' target text)
    (hkind : t.kindAt path = some .file) : t'.kindAt path = some .file := by
  obtain ⟨before, hbefore⟩ := kindAt_eq_file_iff.mp hkind
  by_cases htarget : t.placeOf path = t.placeOf target
  · have hfile : t'.fileAt (t.placeOf path) = some text := by
      rw [h.files, htarget, Function.update_self]
    exact h.toGrows.kindAt_file hfile hkind
  · have hfile : t'.fileAt (t.placeOf path) = some before := by
      rw [h.files, Function.update_of_ne htarget]
      exact (readText_eq_ok_iff.mp hbefore).2
    exact h.toGrows.kindAt_file hfile hkind

/-- A file that is put where nothing was and taken away again leaves nothing behind. -/
lemma keeps_erase_put (hplace : l ≠ []) (hfree : t.find? l = none) :
    Keeps t ((t.put l (.file text)).erase l) := by
  have hput : Grows t (t.put l (.file text)) := grows_put _ (by simp [hfree])
  refine ⟨hput.trans (grows_erase (by simp [find?_put t _ hplace])), ?_⟩
  rw [fileAt_erase _ hplace, fileAt_put _ _ hplace, Function.update_idem]
  exact Function.update_eq_self_iff.mpr (fileAt_of_find?_eq_none hfree).symm

section Temporary

variable {temporary : String} (hplace : l ≠ []) (hfree : t.find? l = none)
  (hlocate : t.locate temporary = .ok l)
include hplace hfree hlocate

/-- The path of a temporary file leads to it. -/
lemma lookup_temporary : (t.put l (.file text)).lookup temporary = .ok (l, .file text) := by
  have hgrows : Grows t (t.put l (.file text)) := grows_put _ (by simp [hfree])
  exact lookup_eq_ok_iff.mpr ⟨hgrows.locate hlocate, by simp [find?_put t _ hplace]⟩

lemma keeps_removeFile : Keeps t ((t.put l (.file text)).removeFile temporary) := by
  rw [removeFile, lookup_temporary hplace hfree hlocate]
  exact keeps_erase_put hplace hfree

lemma writes_of_moveFile (h : (t.put l (.file text)).moveFile temporary path = .ok t') :
    Writes t t' path text := by
  obtain ⟨htarget, hnil, hdirectory, rfl⟩ :=
    moveFile_eq_ok h (lookup_temporary hplace hfree hlocate)
  have hgrows : Grows t (t.put l (.file text)) := grows_put _ (by simp [hfree])
  rw [hgrows.placeOf] at htarget hnil hdirectory ⊢
  have hkeeps : Keeps t ((t.put l (.file text)).erase l) := keeps_erase_put hplace hfree
  have hput : Grows ((t.put l (.file text)).erase l)
      (((t.put l (.file text)).erase l).put (t.placeOf path) (.file text)) := by
    refine grows_put _ ?_
    rw [find?_erase _ hnil]
    split
    · simp
    · exact hdirectory
  -- the target was followed while the temporary file was there, and can still be followed without it
  have herase : Grows (t.put l (.file text)) ((t.put l (.file text)).erase l) :=
    grows_erase (by simp [find?_put t _ hplace])
  have hfiles : (((t.put l (.file text)).erase l).put (t.placeOf path) (.file text)).fileAt
      = Function.update t.fileAt (t.placeOf path) (some text) := by
    rw [fileAt_put _ _ hnil, hkeeps.files]
    rfl
  refine ⟨hkeeps.toGrows.trans hput, hfiles, ?_⟩
  rw [readText_eq_ok_iff, (hkeeps.toGrows.trans hput).placeOf, hfiles, Function.update_self]
  exact ⟨(herase.trans hput).locate htarget, rfl⟩

end Temporary

lemma Keeps.trans_writes {t'' : FileTree} (h : Keeps t t') (h' : Writes t' t'' path text) :
    Writes t t'' path text := by
  refine ⟨h.toGrows.trans h'.toGrows, ?_, h'.reads⟩
  rw [h'.files, h.files, h.placeOf]

/-- A text was written, or else a refusal has kept the files. -/
def Settles (t : FileTree) (path text : String) : Except WriteError Unit × FileTree → Prop
  | (.ok _, t') => Writes t t' path text
  | (.error _, t') => Keeps t t'

lemma run_isDirectory (t : FileTree) (path : String) :
    (isDirectory path : StateM FileTree _).run t = (t.kindAt path == some .directory, t) := rfl

lemma run_makeTemporary (t : FileTree) (directory text : String) :
    (FileStore.makeTemporary directory text : StateM FileTree _).run t
      = match t.makeTemporary directory text with
        | .ok (path, t') => (.ok path, t')
        | .error e => (.error e, t) := by
  show (change (·.makeTemporary directory text)).run t = _
  rw [run_change]
  cases t.makeTemporary directory text <;> rfl

lemma run_moveFile (t : FileTree) (source target : String) :
    (FileStore.moveFile source target : StateM FileTree _).run t
      = match t.moveFile source target with
        | .ok t' => (.ok (), t')
        | .error e => (.error e, t) := by
  show (change fun t => (t.moveFile source target).map (((), ·))).run t = _
  rw [run_change]
  cases t.moveFile source target <;> rfl

/-- Writing a file either writes it, or is refused and keeps all files. -/
theorem settles_replace (t : FileTree) (path text : String) :
    t.Settles path text ((replace path text : StateM FileTree _).run t) := by
  unfold replace
  rw [run_bind]
  have hmade : Keeps t ((makeDirectories (Path.directoryOf path) : StateM FileTree _).run t).2 :=
    within_makeChain within_makeDirectory _ t
  rcases hrun : (makeDirectories (Path.directoryOf path) : StateM FileTree _).run t with ⟨_ | _, t₁⟩
  · rw [hrun] at hmade
    exact hmade
  rw [hrun] at hmade
  dsimp only at hmade ⊢
  rw [run_bind, run_makeTemporary]
  cases htemporary : t₁.makeTemporary (Path.directoryOf path) text with
  | error e => exact hmade
  | ok made =>
    obtain ⟨temporary, t₂⟩ := made
    obtain ⟨l, hlocate, hplace, hfree, rfl⟩ := makeTemporary_eq_ok htemporary
    dsimp only
    rw [run_bind, run_moveFile]
    cases hmove : (t₁.put l (.file text)).moveFile temporary path with
    | error e => exact hmade.trans (keeps_removeFile hplace hfree hlocate)
    | ok t₃ => exact hmade.trans_writes (writes_of_moveFile hplace hfree hlocate hmove)

end Stores

end FileTree

end DeclGen
