import DeclGen.Proofs.Files.Directories
import Mathlib.Data.List.Nodup
import Mathlib.Data.List.Perm.Subperm

/-!
# Writing is all or nothing

A write puts the text in the place of its path or keeps every file. It is refused for what stands in its
way (`FileTree.Hindered`): a file where a directory has to be, a directory in the file's own place, or a
path that does not end in a name. Apart from what is too long there are no other reasons, since a name for
the temporary file is always free. After any number of writes each place has the text of the last one that
came through there (`FileTree.replace_atomic`).
-/

namespace DeclGen

open FileStore

namespace FileTree

variable {t t' : FileTree} {l d : Location} {path directory last : String} {front : List String}
  {e : FileError}

/-! ## Making the temporary file -/

lemma step_eq_error_of_directory {part : String} (hd : t.find? d = some .directory)
    (h : t.step d part = .error e) : e.IsLimit := by
  rcases step_eq_error h with rfl | hlimit | hfile
  · rw [step, hd] at h
    dsimp only at h
    split at h
    · cases h
    split at h
    · cases h
    split at h <;> cases h
  · exact hlimit
  · simp [fileAt, hd, Node.text?] at hfile

lemma temporaryName_injective : Function.Injective fun n : Nat => ".tmp" ++ toString n := by
  intro m n h
  have hlist := congrArg String.toList h
  have hdigits : Nat.toDigits 10 m = Nat.toDigits 10 n := by
    simpa [Nat.toString_eq_ofList_toDigits] using hlist
  calc m = Nat.ofDigitChars 10 (Nat.toDigits 10 m) 0 := Nat.ofDigitChars_ten_toDigits.symm
    _ = Nat.ofDigitChars 10 (Nat.toDigits 10 n) 0 := by rw [hdigits]
    _ = n := Nat.ofDigitChars_ten_toDigits

/-- There are more names than anything in the tree. -/
lemma exists_temporaryName (t : FileTree) (d : Location) : ∃ name, t.temporaryName? d = some name := by
  by_contra hnone
  have hall : ∀ n < t.entries.length + 1, (t.find? (d ++ [".tmp" ++ toString n])).isSome := by
    intro n hn
    have hfind : t.temporaryName? d = none := by simpa [Option.eq_none_iff_forall_ne_some] using hnone
    have htaken := List.find?_eq_none.mp hfind _ (List.mem_map.mpr ⟨n, List.mem_range.mpr hn, rfl⟩)
    simpa [Option.isSome_iff_ne_none] using htaken
  -- so every name stands at a place of its own
  have hnodup : ((List.range (t.entries.length + 1)).map fun n => d ++ [".tmp" ++ toString n]).Nodup := by
    refine List.Nodup.map (fun m n h => temporaryName_injective ?_) List.nodup_range
    simpa using h
  have hsubset : ((List.range (t.entries.length + 1)).map fun n => d ++ [".tmp" ++ toString n]) ⊆
      t.entries.map (·.1) := by
    intro place hplace
    obtain ⟨n, hn, rfl⟩ := List.mem_map.mp hplace
    obtain ⟨node, hnode⟩ := Option.isSome_iff_exists.mp (hall n (List.mem_range.mp hn))
    rw [find?, if_neg (by simp)] at hnode
    exact List.mem_map.mpr ⟨_, mem_of_lookup hnode, rfl⟩
  have hlength := (hnodup.subperm hsubset).length_le
  simp only [List.length_map, List.length_range] at hlength
  omega

/-- A name in a directory is refused only if it or its path is too long. -/
lemma locate_join_eq_error {name : String} (hne : directory ≠ "") (hslash : '/' ∉ name.toList)
    (hd : t.enter directory = .ok d) (h : t.locate (Path.join directory name) = .error e) :
    e.IsLimit := by
  have hrelative : Path.isAbsolute name = false := Path.isAbsolute_of_notMem hslash
  obtain ⟨above, hjoin, habove⟩ := Path.exists_join hne hrelative
  have hparts : Path.parts (Path.join directory name) = Path.parts above ++ [name] := by
    rw [hjoin, Path.parts_append_slash, Path.parts_of_notMem hslash]
  have horigin : t.origin (Path.join directory name) = t.origin directory := by
    unfold origin
    rw [Path.isAbsolute_join hne hrelative]
  obtain ⟨hfollow, hdirectory⟩ := enter_eq_ok_iff.mp hd
  have hfront : t.follow (t.origin directory) (Path.parts above) = .ok d := by
    rcases habove with rfl | rfl
    · exact hfollow
    · have hslashed : Path.parts (above ++ "/") = Path.parts above ++ [""] := by
        rw [show above ++ "/" = above ++ "/" ++ "" by simp, Path.parts_append_slash]
        rfl
      rw [hslashed, follow_append_silent_iff rfl] at hfollow
      exact hfollow.1
  have hjoined : Path.join directory name ≠ "" := by
    rw [hjoin]
    simp
  cases hs : t.start (Path.join directory name) with
  | error e' =>
    have hlocate : t.locate (Path.join directory name) = .error e' := by
      rw [locate, hs]
      rfl
    obtain rfl : e' = e := Except.error.inj (hlocate.symm.trans h)
    exact start_eq_error hjoined hs
  | ok s =>
    have hlocate : t.locate (Path.join directory name) = t.step d name := by
      rw [locate, hs, start_eq_origin hs]
      show t.follow _ _ = _
      rw [hparts, horigin, follow_append, hfront]
      exact follow_singleton
    exact step_eq_error_of_directory hdirectory (hlocate.symm.trans h)

/-- In a directory that is there a temporary file can be made. -/
lemma makeTemporary_eq_error {text : String} (hne : directory ≠ "") (hd : t.enter directory = .ok d)
    (h : t.makeTemporary directory text = .error e) : e.IsLimit := by
  unfold makeTemporary at h
  cases hs : t.start directory with
  | error e' =>
    rw [hs] at h
    obtain rfl : e' = e := Except.error.inj h
    exact start_eq_error hne hs
  | ok s =>
    obtain rfl := start_eq_origin hs
    obtain ⟨name, hname⟩ := exists_temporaryName t d
    have hslash : '/' ∉ name.toList := by
      obtain ⟨-, n, rfl⟩ := temporaryName?_spec hname
      exact (temporaryName_isName n).1
    have hfollow : t.follow (t.origin directory) (Path.parts directory ++ [""]) = .ok d := hd
    rw [hs] at h
    simp only [bind, Except.bind, hfollow, hname] at h
    cases hlocate : t.locate (Path.join directory name) with
    | error e' =>
      rw [hlocate] at h
      obtain rfl : e' = e := Except.error.inj h
      exact locate_join_eq_error hne hslash hd hlocate
    | ok l =>
      rw [hlocate] at h
      cases h

/-- A file can be moved over whatever is no directory. -/
lemma moveFile_eq_error {source text : String} (hsource : t.lookup source = .ok (l, .file text))
    (hparts : Path.parts path = front ++ [last]) (hlast : Path.isSilent last = false)
    (hback : last ≠ "..") (habove : Path.Above front directory) (hd : t.enter directory = .ok d)
    (h : t.moveFile source path = .error e) :
    e.IsLimit ∨ t.find? (t.placeOf path) = some .directory := by
  unfold moveFile at h
  rw [hsource] at h
  simp only [bind, Except.bind] at h
  rcases site_cases (t := t) hparts hlast habove with ⟨e', he, hsite⟩ | ⟨e', hnone, -⟩ | ⟨s, d', hs, hd'⟩
  · rw [hsite] at h
    exact .inl (Except.error.inj h ▸ he)
  · rw [hd] at hnone
    cases hnone
  · obtain rfl : d = d' := Except.ok.inj (hd.symm.trans hd')
    have hnamed : (Site.mk d last false).isNamed := by simp [Site.isNamed, hlast, hback]
    have hplace : (Site.mk d last false).place = t.placeOf path :=
      (placeOf_eq hparts hlast habove hd hback).symm
    rw [site_of_enter hparts hlast habove hs hd] at h
    dsimp only at h
    rw [hnamed, hplace] at h
    split at h
    · next hnot => cases hnot
    split at h
    · exact .inl (.inl (Except.error.inj h).symm)
    split at h
    · next hclosed => cases hclosed
    split at h
    · next hthere => exact .inr hthere
    · cases h

/-! ## Reasons for a refusal -/

/-- What keeps a file from being written at a path: the path does not end in a name, a file stands where
a directory above has to be, or a directory stands at the place itself. That one may have been made on the
way there, and so it is looked for in the tree that the write leaves. -/
inductive Hindered (t t' : FileTree) (path : String) : Prop
  | noName (h : ¬ Path.EndsInName path)
  | fileAbove (h : t.Barred (t.origin path) (Path.parts path).dropLast)
  | directory (h : t'.find? (t.placeOf path) = some .directory)

lemma Hindered.mono {t'' : FileTree} (h : Hindered t t' path) (hgrows : Grows t' t'') :
    Hindered t t'' path := by
  cases h with
  | noName h => exact .noName h
  | fileAbove h => exact .fileAbove h
  | directory h => exact .directory (hgrows.directories _ h)

/-- A write that is refused was hindered, or something is too long or has a NUL. -/
lemma hindered_of_refused {text : String} {refusal : WriteError} (ht : t.Rooted)
    (h : (replace path text : StateM FileTree _).run t = (.error refusal, t')) :
    refusal.cause.IsLimit ∨ Hindered t t' path := by
  by_cases hname : Path.EndsInName path
  swap
  · exact .inr (.noName hname)
  obtain ⟨front, last, hparts, hlast, hback⟩ := hname
  obtain ⟨directory, hparent, habove⟩ := Path.exists_parent hparts hlast
  have hopens := opens_makeDirectories hparts hlast hparent habove ht
  have hmade : Keeps t ((makeDirectories (Path.directoryOf path) : StateM FileTree _).run t).2 :=
    within_makeChain within_makeDirectory _ t
  unfold replace at h
  rw [run_bind] at h
  rcases hrun : (makeDirectories (Path.directoryOf path) : StateM FileTree _).run t with ⟨c | _, t₁⟩
  · rw [hrun] at h hopens
    obtain ⟨hanswer, rfl⟩ := Prod.mk.inj h
    obtain rfl := Except.error.inj hanswer
    have hfront : (Path.parts path).dropLast = front := by rw [hparts, List.dropLast_concat]
    exact hopens.imp_right fun hbarred => .fileAbove (hfront ▸ hbarred)
  rw [hrun] at h hopens hmade
  obtain ⟨d, hd, hentered⟩ := hopens
  dsimp only at h hmade
  rw [run_bind, run_makeTemporary] at h
  cases htemporary : t₁.makeTemporary (Path.directoryOf path) text with
  | error c =>
    rw [htemporary] at h
    obtain ⟨hanswer, -⟩ := Prod.mk.inj h
    obtain rfl := Except.error.inj hanswer
    exact .inl (makeTemporary_eq_error (Path.directoryOf_ne_empty path) hentered htemporary)
  | ok made =>
    obtain ⟨temporary, t₂⟩ := made
    obtain ⟨l, hlocate, hplace, hfree, rfl⟩ := makeTemporary_eq_ok htemporary
    have hgrows : Grows t₁ (t₁.put l (.file text)) := grows_put _ (by simp [hfree])
    have hsource : (t₁.put l (.file text)).lookup temporary = .ok (l, .file text) :=
      lookup_temporary hplace hfree hlocate
    rw [htemporary] at h
    dsimp only at h
    rw [run_bind, run_moveFile] at h
    cases hmove : (t₁.put l (.file text)).moveFile temporary path with
    | ok t₃ =>
      rw [hmove] at h
      cases (Prod.mk.inj h).1
    | error c =>
      rw [hmove] at h
      obtain ⟨hanswer, htree⟩ := Prod.mk.inj h
      obtain rfl := Except.error.inj hanswer
      have hremoved : t' = (t₁.put l (.file text)).erase l := by
        have hremove : (t₁.put l (.file text)).removeFile temporary = t' := htree
        rw [← hremove, removeFile, hsource]
      have hreason := moveFile_eq_error hsource hparts hlast hback habove (hgrows.enter hd) hmove
      refine hreason.imp_right fun hdirectory => .directory ?_
      rw [(hmade.toGrows.trans hgrows).placeOf] at hdirectory
      rw [hremoved]
      exact (grows_erase (by simp [find?_put t₁ _ hplace])).directories _ hdirectory

/-- A file was moved to the path of a write that came through. -/
lemma exists_moveFile {text : String} {u : Unit}
    (h : (replace path text : StateM FileTree _).run t = (.ok u, t')) :
    ∃ t₁ source, moveFile t₁ source path = .ok t' := by
  unfold replace at h
  rw [run_bind] at h
  rcases hrun : (makeDirectories (Path.directoryOf path) : StateM FileTree _).run t with ⟨_ | _, t₁⟩
  · rw [hrun] at h
    cases (Prod.mk.inj h).1
  rw [hrun] at h
  dsimp only at h
  rw [run_bind, run_makeTemporary] at h
  cases htemporary : t₁.makeTemporary (Path.directoryOf path) text with
  | error c =>
    rw [htemporary] at h
    cases (Prod.mk.inj h).1
  | ok made =>
    rw [htemporary] at h
    dsimp only at h
    rw [run_bind, run_moveFile] at h
    cases hmove : made.2.moveFile made.1 path with
    | error c =>
      rw [hmove] at h
      cases (Prod.mk.inj h).1
    | ok t₃ =>
      rw [hmove] at h
      exact ⟨made.2, made.1, hmove.trans (congrArg Except.ok (Prod.mk.inj h).2)⟩

/-- A file is only moved to a path that ends in a name. -/
lemma endsInName_of_moveFile {source : String} (h : t.moveFile source path = .ok t') :
    Path.EndsInName path := by
  unfold moveFile at h
  obtain ⟨⟨l, _ | text⟩, -, h⟩ := Except.bind_eq_ok_iff.mp h
  · cases h
  obtain ⟨s, hs, h⟩ := Except.bind_eq_ok_iff.mp h
  split at h
  · cases h
  next hnamed =>
  split at h
  · cases h
  split at h
  · cases h
  next hopen =>
  obtain ⟨start, -, hs⟩ := Except.bind_eq_ok_iff.mp hs
  obtain ⟨d, -, hs⟩ := Except.bind_eq_ok_iff.mp hs
  obtain rfl := Except.ok.inj hs
  cases hparts : (Path.parts path).reverse with
  | nil => exact absurd (List.reverse_eq_nil_iff.mp hparts) (Path.parts_ne_nil path)
  | cons last above =>
    rw [hparts] at hnamed hopen
    have hlast : last ≠ "" := by simpa using hopen
    refine ⟨above.reverse, last, by rw [← List.reverse_reverse (Path.parts path), hparts]; simp, ?_⟩
    simpa [Site.isNamed, hlast] using hnamed

/-- Whoever follows a path goes through directories. -/
lemma directory_of_follow {before after : List String} {part : String}
    (h : t.follow d (before ++ part :: after) = .ok l) :
    t.find? (before.foldl Location.walk d) = some .directory := by
  obtain ⟨m, hbefore, hrest⟩ := follow_append_eq_ok_iff.mp h
  obtain ⟨next, hstep, -⟩ := follow_cons_eq_ok_iff.mp hrest
  rw [← eq_foldl_walk_of_follow hbefore]
  exact (step_eq_ok_iff.mp hstep).1

lemma fileAt_of_directory (h : t.find? l = some .directory) : t.fileAt l = none := by
  simp [fileAt, h, Node.text?]

lemma exists_behind {parts before : List String} (hsome : parts ≠ []) (h : before <+: parts.dropLast) :
    ∃ part after, parts = before ++ part :: after := by
  obtain ⟨behind, hfront⟩ := h
  have hparts : parts = before ++ (behind ++ [parts.getLast hsome]) := by
    rw [← List.append_assoc, hfront, List.dropLast_append_getLast]
  obtain ⟨part, after, hcons⟩ :=
    List.exists_cons_of_ne_nil (List.append_ne_nil_of_right_ne_nil behind (List.cons_ne_nil _ []))
  exact ⟨part, after, hparts.trans (congrArg (before ++ ·) hcons)⟩

/-- A write that is hindered is refused. -/
lemma refused_of_hindered {text : String}
    (h : Hindered t ((replace path text : StateM FileTree _).run t).2 path) :
    ∃ refusal, ((replace path text : StateM FileTree _).run t).1 = .error refusal := by
  have hsettles := settles_replace t path text
  rcases hrun : (replace path text : StateM FileTree _).run t with ⟨refusal | u, t'⟩
  · exact ⟨refusal, rfl⟩
  rw [hrun] at h hsettles
  have hwrites : Writes t t' path text := hsettles
  have hfile : t'.fileAt (t.placeOf path) = some text := by rw [hwrites.files, Function.update_self]
  exfalso
  cases h with
  | noName h =>
    obtain ⟨t₁, source, hmove⟩ := exists_moveFile hrun
    exact h (endsInName_of_moveFile hmove)
  | fileAbove h =>
    obtain ⟨before, hbefore, hthere⟩ := h
    obtain ⟨part, after, hparts⟩ := exists_behind (Path.parts_ne_nil path) hbefore
    obtain ⟨s, hs, hfollow⟩ := locate_eq_ok_iff.mp (readText_eq_ok_iff.mp hwrites.reads).1
    rw [start_eq_origin hs, hwrites.toGrows.origin, hparts] at hfollow
    have hnone := fileAt_of_directory (directory_of_follow hfollow)
    rw [hwrites.files, Function.update_apply] at hnone
    split at hnone
    · cases hnone
    · rw [hnone] at hthere
      cases hthere
  | directory h =>
    rw [fileAt_of_directory h] at hfile
    cases hfile

/-! ## New directories -/

/-- At a place nothing has changed, but a directory may be new there. -/
def Untouched (t t' : FileTree) (l : Location) : Prop :=
  t'.find? l = t.find? l ∨ t.find? l = none ∧ t'.find? l = some .directory

/-- Where the file is the same, all is the same but for a new directory. -/
lemma Grows.untouched (h : Grows t t') (hfile : t'.fileAt l = t.fileAt l) : Untouched t t' l := by
  unfold Untouched
  cases hl : t.find? l with
  | some n =>
    left
    cases n with
    | directory => exact h.directories l hl
    | file text => rwa [fileAt_eq_some_iff.mpr hl, fileAt_eq_some_iff] at hfile
  | none =>
    rw [fileAt_of_find?_eq_none hl] at hfile
    cases hl' : t'.find? l with
    | none => exact .inl rfl
    | some n =>
      cases n with
      | directory => exact .inr ⟨rfl, rfl⟩
      | file text =>
        rw [fileAt_eq_some_iff.mpr hl'] at hfile
        cases hfile

/-! ## Many writes -/

/-- A write that was asked for, a path and a text, with the answer to it. -/
abbrev Answered := (String × String) × Except WriteError Unit

/-- The text that a write has put at a place. -/
def writtenAt (t : FileTree) (l : Location) : Answered → Option String
  | ((path, text), .ok _) => if t.placeOf path = l then some text else none
  | (_, .error _) => none

/-- The text of the last write that came through at a place. -/
def lastWritten (t : FileTree) (done : List Answered) (l : Location) : Option String :=
  done.reverse.findSome? (t.writtenAt l)

lemma lastWritten_cons (t : FileTree) (a : Answered) (done : List Answered) (l : Location) :
    t.lastWritten (a :: done) l = (t.lastWritten done l).or (t.writtenAt l a) := by
  simp [lastWritten, List.findSome?_append]

/-- Writes one after the other, and the answers to them. -/
def writeAll (ws : List (String × String)) : StateM FileTree (List (Except WriteError Unit)) :=
  ws.mapM fun w => replace w.1 w.2

lemma Settles.grows {text : String} {r : Except WriteError Unit × FileTree} (h : t.Settles path text r) :
    Grows t r.2 := by
  obtain ⟨_ | _, t'⟩ := r
  · exact Keeps.toGrows h
  · exact Writes.toGrows h

/-- One write changes no place but its own, and that only if it comes through. -/
lemma Settles.fileAt {text : String} {r : Except WriteError Unit × FileTree} (h : t.Settles path text r)
    (l : Location) : r.2.fileAt l = (t.writtenAt l ((path, text), r.1)).or (t.fileAt l) := by
  obtain ⟨refusal | u, t'⟩ := r
  · have hkeeps : Keeps t t' := h
    rw [hkeeps.files]
    rfl
  · have hwrites : Writes t t' path text := h
    rw [hwrites.files, Function.update_apply]
    by_cases hl : l = t.placeOf path
    · simp [writtenAt, hl]
    · simp [writtenAt, hl, Ne.symm hl]

lemma lastWritten_of_grows (h : Grows t t') (done : List Answered) (l : Location) :
    t'.lastWritten done l = t.lastWritten done l := by
  have hwritten : t'.writtenAt l = t.writtenAt l := by
    funext ⟨⟨path, text⟩, answer⟩
    cases answer with
    | error refusal => rfl
    | ok u => simp [writtenAt, h.placeOf]
  rw [lastWritten, lastWritten, hwritten]

/-- After a run of writes every place has the text of the last one that came through there, or what it
had before. -/
lemma fileAt_writeAll (ws : List (String × String)) (t : FileTree) (l : Location) :
    ((writeAll ws).run t).2.fileAt l =
      (t.lastWritten (ws.zip ((writeAll ws).run t).1) l).or (t.fileAt l) := by
  -- the writes behind the first one start from the tree that it leaves
  induction ws generalizing t with
  | nil => rfl
  | cons w ws ih =>
    have hsettles := settles_replace t w.1 w.2
    have hrest := ih ((replace w.1 w.2 : StateM FileTree _).run t).2
    rw [writeAll, run_mapM_cons]
    dsimp only
    rw [List.zip_cons_cons, lastWritten_cons, Option.or_assoc, ← hsettles.fileAt l,
      ← lastWritten_of_grows hsettles.grows]
    exact hrest

lemma length_writeAll (ws : List (String × String)) (t : FileTree) :
    ((writeAll ws).run t).1.length = ws.length := by
  induction ws generalizing t with
  | nil => rfl
  | cons w ws ih =>
    rw [writeAll, run_mapM_cons]
    exact congrArg (· + 1) (ih _)

lemma grows_writeAll (ws : List (String × String)) (t : FileTree) :
    Grows t ((writeAll ws).run t).2 := by
  induction ws generalizing t with
  | nil => exact .refl t
  | cons w ws ih =>
    rw [writeAll, run_mapM_cons]
    exact (settles_replace t w.1 w.2).grows.trans (ih _)

/-- A path that could be read still can be after a run of writes. -/
lemma reads_writeAll {text : String} (ws : List (String × String)) (h : t.readText path = .ok text) :
    ∃ text', ((writeAll ws).run t).2.readText path = .ok text' := by
  obtain ⟨hlocate, hfile⟩ := readText_eq_ok_iff.mp h
  have hgrows := grows_writeAll ws t
  have hfinal := fileAt_writeAll ws t (t.placeOf path)
  obtain ⟨text', htext'⟩ : ∃ text', ((writeAll ws).run t).2.fileAt (t.placeOf path) = some text' := by
    rw [hfinal, hfile]
    cases t.lastWritten _ (t.placeOf path) with
    | none => exact ⟨text, rfl⟩
    | some last => exact ⟨last, rfl⟩
  refine ⟨text', readText_eq_ok_iff.mpr ?_⟩
  rw [hgrows.placeOf]
  exact ⟨hgrows.locate hlocate, htext'⟩

/-- A path to which a write came through can be read after the run. -/
lemma reads_written {text : String} (ws : List (String × String)) (t : FileTree)
    (h : ((path, text), .ok ()) ∈ ws.zip ((writeAll ws).run t).1) :
    ∃ text', ((writeAll ws).run t).2.readText path = .ok text' := by
  induction ws generalizing t with
  | nil => cases h
  | cons w ws ih =>
    have hsettles := settles_replace t w.1 w.2
    rw [writeAll, run_mapM_cons] at h ⊢
    rcases List.mem_cons.mp h with hfirst | hrest
    · obtain ⟨rfl, hanswer⟩ := Prod.mk.inj hfirst
      rcases hrun : (replace path text : StateM FileTree _).run t with ⟨_ | _, t'⟩
      · rw [hrun] at hanswer
        cases hanswer
      · rw [hrun] at hsettles
        exact reads_writeAll ws (Writes.reads hsettles)
    · exact ih _ hrest

/-! ## All or nothing -/

/-- A write that comes through gives the file of its path the text, and one that is refused gives it to no
file, not even a temporary one; apart from that there may be new directories. A path that is hindered is
refused, and in a rooted tree no other is, unless something is too long or has a NUL. So after a run of
writes the file at each place has the text of the last write that came through there, or else what it had
before, and is read under every path that could be read before or was written to. -/
theorem replace_atomic (t : FileTree) (path text : String) :
    (∀ u t', (replace path text : StateM FileTree _).run t = (.ok u, t') →
      t'.readText path = .ok text ∧
      t'.fileAt = Function.update t.fileAt (t.placeOf path) (some text) ∧
      ∀ l, l ≠ t.placeOf path → Untouched t t' l) ∧
    (∀ refusal t', (replace path text : StateM FileTree _).run t = (.error refusal, t') →
      t'.fileAt = t.fileAt ∧ (∀ l, Untouched t t' l) ∧
      (t.Rooted → refusal.cause.IsLimit ∨ Hindered t t' path)) ∧
    (Hindered t t path ∨ Hindered t ((replace path text : StateM FileTree _).run t).2 path →
      ∃ refusal, ((replace path text : StateM FileTree _).run t).1 = .error refusal) ∧
    ∀ ws : List (String × String), ∃ answers final, (writeAll ws).run t = (answers, final) ∧
      answers.length = ws.length ∧
      (∀ l, final.fileAt l = (t.lastWritten (ws.zip answers) l).or (t.fileAt l)) ∧
      ∀ p, (∃ before, t.readText p = .ok before) ∨ (∃ x, ((p, x), .ok ()) ∈ ws.zip answers) →
        ∃ after, final.readText p = .ok after ∧
          (t.lastWritten (ws.zip answers) (t.placeOf p)).or (t.fileAt (t.placeOf p)) = some after := by
  have hsettles := settles_replace t path text
  refine ⟨fun u t' hrun => ?_, fun refusal t' hrun => ?_, fun h => refused_of_hindered ?_, fun ws => ?_⟩
  · rw [hrun] at hsettles
    have hwrites : Writes t t' path text := hsettles
    refine ⟨hwrites.reads, hwrites.files, fun l hl => hwrites.toGrows.untouched ?_⟩
    rw [hwrites.files, Function.update_of_ne hl]
  · rw [hrun] at hsettles
    have hkeeps : Keeps t t' := hsettles
    exact ⟨hkeeps.files, fun l => hkeeps.toGrows.untouched (congrFun hkeeps.files l),
      fun ht => hindered_of_refused ht hrun⟩
  · exact h.elim (·.mono hsettles.grows) id
  · refine ⟨_, _, rfl, length_writeAll ws t, fileAt_writeAll ws t, fun p hp => ?_⟩
    obtain ⟨after, hafter⟩ : ∃ after, ((writeAll ws).run t).2.readText p = .ok after := by
      rcases hp with ⟨before, hbefore⟩ | ⟨x, hx⟩
      · exact reads_writeAll ws hbefore
      · exact reads_written ws t hx
    have hfile := (readText_eq_ok_iff.mp hafter).2
    rw [(grows_writeAll ws t).placeOf, fileAt_writeAll] at hfile
    exact ⟨after, hafter, hfile⟩

/-- A tree with one file. -/
def shelf : FileTree := { entries := [(["a"], .file "old")] }

lemma rooted_shelf : shelf.Rooted := ⟨rfl, by simp [shelf]⟩

/-- Two writes to that file, with one that it hinders and one to a new directory between them. -/
def orders : List (String × String) := [("a", "one"), ("a/b", "two"), ("c/d", "three"), ("a", "four")]

/-- A write below a new directory comes through, one below a file does not, and of all writes to one
path the last one counts. -/
theorem replace_shelf :
    (∃ t', (replace "c/d" "new" : StateM FileTree _).run shelf = (.ok (), t') ∧
      t'.readText "c/d" = .ok "new" ∧ Untouched shelf t' ["a"]) ∧
    (Hindered shelf shelf "a/b" ∧
      ∃ refusal, ((replace "a/b" "new" : StateM FileTree _).run shelf).1 = .error refusal) ∧
    (∃ refusal, (replace "a/b" "new" : StateM FileTree _).run shelf = (.error refusal, shelf) ∧
      shelf.Rooted ∧ (refusal.cause.IsLimit ∨ Hindered shelf shelf "a/b")) ∧
    ∃ answers final, (writeAll orders).run shelf = (answers, final) ∧
      answers = [.ok (), .error (.noDirectory "a" .alreadyExists), .ok (), .ok ()] ∧
      final.fileAt ["a"] = some "four" ∧ final.readText "c/d" = .ok "three" := by
  have hwritten : ((replace "c/d" "new" : StateM FileTree _).run shelf).1 = .ok () := by decide +kernel
  have hhindered : Hindered shelf shelf "a/b" := .fileAbove ⟨["a"], by decide, by decide⟩
  have hrefused : (replace "a/b" "new" : StateM FileTree _).run shelf =
      (.error (.noDirectory "a" .alreadyExists), shelf) := rfl
  have hanswers : ((writeAll orders).run shelf).1 =
      [.ok (), .error (.noDirectory "a" .alreadyExists), .ok (), .ok ()] := by decide +kernel
  refine ⟨⟨_, Prod.ext hwritten rfl, ?_⟩,
    ⟨hhindered, (replace_atomic shelf "a/b" "new").2.2.1 (.inl hhindered)⟩,
    ⟨_, hrefused, rooted_shelf, ?_⟩, ?_⟩
  · obtain ⟨hread, -, huntouched⟩ := (replace_atomic shelf "c/d" "new").1 () _ (Prod.ext hwritten rfl)
    exact ⟨hread, huntouched _ (by decide)⟩
  · exact ((replace_atomic shelf "a/b" "new").2.1 _ _ hrefused).2.2 rooted_shelf
  · obtain ⟨answers, final, hrun, -, hfile, hread⟩ := (replace_atomic shelf "a" "one").2.2.2 orders
    rw [hrun] at hanswers
    obtain rfl := hanswers
    refine ⟨_, final, hrun, rfl, (hfile ["a"]).trans (by decide +kernel), ?_⟩
    obtain ⟨after, hafter, hlast⟩ := hread "c/d" (.inr ⟨"three", by simp [orders]⟩)
    have hthree : shelf.lastWritten (orders.zip [.ok (), .error (.noDirectory "a" .alreadyExists),
        .ok (), .ok ()]) (shelf.placeOf "c/d") = some "three" := by decide +kernel
    rw [hthree, Option.some_or] at hlast
    rw [hafter, Option.some.inj hlast]

end FileTree

end DeclGen
