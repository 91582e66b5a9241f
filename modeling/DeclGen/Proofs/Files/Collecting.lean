import DeclGen.Files.Collect
import DeclGen.Proofs.Files.Writing

/-!
# Collected files and their artifacts

Collecting the declaration files of a directory only asks questions, so a tree stays as it is. Every
collected file has a name that says so, which no artifact has, as long as suffix and extension do not
open directories of their own. The artifacts of two files have the same path just when the files have the
same stem, wherever the files are.
-/

namespace DeclGen

open DeclGen.Path (stem? fileName?)

namespace FileTree

section Asking

variable {α β : Type} {t : FileTree}

/-- The computation leaves the tree as it is. -/
abbrev Asks (p : StateM FileTree α) : Prop := Within Eq p

open FileStore

lemma asks_ignoreRules (path : String) : Asks (ignoreRules path) := by
  refine .bind (.ask _) fun answer => ?_
  cases answer <;> exact .pure _

lemma asks_firstLine? (path : String) : Asks (firstLine? path) := by
  refine .bind (.ask _) fun answer => ?_
  cases answer <;> exact .pure _

lemma asks_repositoryOf? (mark : String) : Asks (repositoryOf? mark) := by
  refine .bind (.ask _) fun kind => ?_
  split
  · refine .bind (asks_firstLine? mark) fun line => ?_
    split
    · exact .pure _
    · refine .bind (asks_firstLine? _) fun common => ?_
      split <;> exact .pure _
  · exact .pure _

lemma asks_ignoreScope (directory : String) (location : Location) :
    Asks (ignoreScope directory location) := by
  refine .bind (asks_ignoreRules _) fun general => .bind (asks_ignoreRules _) fun repository =>
    .bind (asks_repositoryOf? _) fun files => ?_
  split
  · exact .bind (asks_ignoreRules _) fun exclusions => .bind (.ask _) fun kind => .pure _
  · exact .bind (.pure _) fun exclusions => .bind (.ask _) fun kind => .pure _

lemma asks_filesWithin (depth : Nat) (scopes : List Ignore.Scope) (directory : String)
    (location : Location) : Asks (filesWithin depth scopes directory location) := by
  induction depth generalizing scopes directory location with
  | zero => exact .pure _
  | succ depth ih =>
    refine .bind (asks_ignoreScope directory location) fun scope => .bind (.ask _) fun names =>
      .bind (.mapM (R := Eq) fun entry _ => ?_) fun found => .pure _
    obtain ⟨name, kind⟩ := entry
    dsimp only
    split
    · exact .pure _
    · cases kind with
      | file => exact .bind (.ask _) fun found => .pure _
      | directory => exact ih _ _ _

lemma asks_filesBelow (directory : String) : Asks (FileStore.filesBelow directory) := by
  refine .bind (.ask _) fun path => ?_
  split <;>
    exact .bind (.mapM fun n _ => asks_ignoreScope _ _) fun above =>
      .bind (asks_filesWithin _ _ _ _) fun places => .pure _

/-- The declaration files of a directory of a tree. -/
def declarationFiles (t : FileTree) (directory : String) (f : FileFilter) (o : Config.Output) :
    List String :=
  ((FileStore.declarationFiles directory f o : StateM FileTree _).run t).1

lemma declarationFiles_eq (t : FileTree) (directory : String) (f : FileFilter) (o : Config.Output) :
    t.declarationFiles directory f o
      = (((((FileStore.filesBelow directory : StateM FileTree _).run t).1.filter fun names =>
          o.isDeclarationFile (names.getLastD "") && f.admits names).mergeSort namesLE).map
            (·.foldl Path.join directory)) := rfl

/-- Files that are found in order stay in that order. -/
lemma declarationFiles_of_filesBelow {t : FileTree} {directory : String} {f : FileFilter}
    {o : Config.Output} (found : List (List String))
    (hfound : ((FileStore.filesBelow directory : StateM FileTree _).run t).1 = found)
    (hsorted : (found.filter fun names =>
      o.isDeclarationFile (names.getLastD "") && f.admits names).Pairwise
        fun names others => namesLE names others) :
    t.declarationFiles directory f o
      = (found.filter fun names => o.isDeclarationFile (names.getLastD "") && f.admits names).map
          (·.foldl Path.join directory) := by
  rw [declarationFiles_eq, hfound, List.mergeSort_of_pairwise hsorted]

lemma run_declarationFiles (t : FileTree) (directory : String) (f : FileFilter) (o : Config.Output) :
    (FileStore.declarationFiles directory f o : StateM FileTree _).run t
      = (t.declarationFiles directory f o, t) := by
  have : Asks (FileStore.declarationFiles directory f o) :=
    .bind (asks_filesBelow directory) fun found => .pure _
  exact Prod.ext rfl (this t).symm

/-! ## Collected files are files -/

/-- Asked of a tree, the computation leaves it as it is and answers with something that has the property. -/
def Answers (t : FileTree) (p : StateM FileTree α) (P : α → Prop) : Prop :=
  (p.run t).2 = t ∧ P (p.run t).1

namespace Answers

variable {P : α → Prop} {Q : β → Prop} {p : StateM FileTree α}

lemma pure {a : α} (h : P a) : Answers t (Pure.pure a) P := ⟨rfl, h⟩

lemma ask (question : FileTree → α) : Answers t (FileTree.ask question) (· = question t) := ⟨rfl, rfl⟩

lemma of_asks (h : Asks p) : Answers t p fun _ => True := ⟨(h t).symm, trivial⟩

lemma bind {f : α → StateM FileTree β} (hp : Answers t p P) (hf : ∀ a, P a → Answers t (f a) Q) :
    Answers t (p >>= f) Q := by
  obtain ⟨htree, hP⟩ := hp
  show ((f (p.run t).1).run (p.run t).2).2 = t ∧ Q ((f (p.run t).1).run (p.run t).2).1
  rw [htree]
  exact hf _ hP

lemma mapM {g : α → StateM FileTree β} {as : List α} (h : ∀ a ∈ as, Answers t (g a) Q) :
    Answers t (as.mapM g) fun bs => ∀ b ∈ bs, Q b := by
  induction as with
  | nil => exact pure (by simp)
  | cons a as ih =>
    rw [List.mapM_cons]
    refine bind (h a List.mem_cons_self) fun b hb => ?_
    refine bind (ih fun a' ha' => h a' (List.mem_cons_of_mem a ha')) fun bs hbs => pure ?_
    exact List.forall_mem_cons.mpr ⟨hb, hbs⟩

end Answers

/-- The places are those of files: the names that lead to one from a location make a path of it from the
directory there. -/
def AreFiles (t : FileTree) (directory : String) (location : Location) (places : List Location) : Prop :=
  ∀ place ∈ places, ∃ names, place = location ++ names
    ∧ t.kindAt (names.foldl Path.join directory) = some .file

/-- Every place that is found in a directory is one of a file. -/
lemma answers_filesWithin (depth : Nat) (scopes : List Ignore.Scope) (directory : String)
    (location : Location) :
    Answers t (filesWithin depth scopes directory location) (t.AreFiles directory location) := by
  -- by the depth, as a directory is gone through with one less
  induction depth generalizing scopes directory location with
  | zero => exact .pure (by simp [AreFiles])
  | succ depth ih =>
    refine .bind (.of_asks (asks_ignoreScope directory location)) fun scope _ =>
      .bind (.ask _) fun names _ =>
      .bind (.mapM (Q := t.AreFiles directory location) fun entry _ => ?_) fun found hfound => .pure ?_
    · obtain ⟨name, kind⟩ := entry
      dsimp only
      split
      · exact .pure (by simp [AreFiles])
      cases kind with
      | file =>
        refine .bind (.ask _) fun kind hkind => .pure ?_
        split
        · next hfile =>
          intro place hplace
          refine ⟨[name], List.mem_singleton.mp hplace, ?_⟩
          rw [List.foldl_cons, List.foldl_nil, ← hkind]
          exact beq_iff_eq.mp hfile
        · simp [AreFiles]
      | directory =>
        obtain ⟨htree, hplaces⟩ := ih (scope :: scopes) (Path.join directory name) (location ++ [name])
        refine ⟨htree, fun place hplace => ?_⟩
        obtain ⟨names, rfl, hfile⟩ := hplaces place hplace
        exact ⟨name :: names, by simp, hfile⟩
    · intro place hplace
      obtain ⟨places, hplaces, hmem⟩ := List.mem_flatten.mp hplace
      exact hfound places hplaces place hmem

lemma answers_filesBelow (directory : String) :
    Answers t (FileStore.filesBelow directory)
      fun found => ∀ names ∈ found, t.kindAt (names.foldl Path.join directory) = some .file := by
  have hwithin (above : List Ignore.Scope) (location : Location) :
      Answers t (do
        let places ← filesWithin pathLimit above directory location
        return places.map (·.drop location.length))
        fun found => ∀ names ∈ found, t.kindAt (names.foldl Path.join directory) = some .file := by
    refine .bind (answers_filesWithin _ _ _ _) fun places hplaces => .pure fun names hnames => ?_
    obtain ⟨place, hplace, rfl⟩ := List.mem_map.mp hnames
    obtain ⟨names, rfl, hfile⟩ := hplaces place hplace
    rw [List.drop_left]
    exact hfile
  refine .bind (.ask _) fun path _ => ?_
  split <;>
    exact .bind (.of_asks (.mapM fun n _ => asks_ignoreScope _ _)) fun above _ => hwithin above _

/-- Every collected file is a file. -/
lemma kindAt_of_mem_declarationFiles {f : FileFilter} {o : Config.Output} {file : String}
    (h : file ∈ t.declarationFiles directory f o) : t.kindAt file = some .file := by
  rw [declarationFiles_eq] at h
  obtain ⟨names, hnames, rfl⟩ := List.mem_map.mp h
  rw [List.mem_mergeSort] at hnames
  exact (answers_filesBelow directory).2 names (List.mem_filter.mp hnames).1

end Asking

end FileTree

namespace Config.Output

variable {o : Config.Output} {a : Artifact} {path name stem : String}

/-! ## Names of declaration files -/

lemma isDeclarationFile_of_fileName? (h : fileName? path = some name) :
    o.isDeclarationFile path = o.isDeclarationFile name := by
  have hextension : Path.extension? path = Path.extension? name := by
    rw [Path.extension?, Path.extension?, h, Path.fileName?_idem h]
  simp only [isDeclarationFile, isGenerated, hextension, Path.stem?_of_fileName? h]

/-- What is called like a declaration file has a name, and is not called like an artifact. -/
lemma exists_fileName?_of_isDeclarationFile (h : o.isDeclarationFile path) :
    ∃ name, fileName? path = some name ∧ o.isGenerated name = false := by
  cases hname : fileName? path with
  | none => simp [isDeclarationFile, Path.extension?, hname] at h
  | some name =>
    rw [isDeclarationFile_of_fileName? hname, isDeclarationFile] at h
    exact ⟨name, rfl, by simpa using (Bool.and_eq_true_iff.mp h).2⟩

/-- Every name ends in nothing, so suffixes are not empty where there are declaration files. -/
lemma suffix_ne_empty (hname : fileName? path = some name) (h : o.isGenerated name = false)
    (a : Artifact) : o.suffix a ≠ "" := by
  have hstem : stem? name = some (Path.cutName name).1 := by simp [stem?, Path.fileName?_idem hname]
  have hends : ∀ text : String, Text.finishesWith "" text = true := fun text =>
    List.isSuffixOf_iff_suffix.mpr (List.nil_suffix)
  simp only [isGenerated, hstem, Bool.or_eq_false_iff] at h
  cases a with
  | queries => exact fun hempty => by simp [show o.queriesSuffix = "" from hempty, hends] at h
  | tests => exact fun hempty => by simp [show o.testsSuffix = "" from hempty, hends] at h

/-! ## Names of artifacts -/

/-- The name of the artifact for a stem. -/
def artifactName (o : Config.Output) (a : Artifact) (stem : String) : String :=
  stem ++ o.suffix a ++ "." ++ o.extension

lemma destination?_eq_map (o : Config.Output) (a : Artifact) (directory input : String) :
    o.destination? a directory input
      = (stem? input).map fun stem => Path.join directory (o.artifactName a stem) := rfl

/-- Artifacts stand in the output directory itself: neither suffix nor extension goes on to another. -/
def IsFlat (o : Config.Output) (a : Artifact) : Prop :=
  '/' ∉ (o.suffix a).toList ∧ '/' ∉ o.extension.toList

instance (o : Config.Output) (a : Artifact) : Decidable (o.IsFlat a) :=
  inferInstanceAs (Decidable (_ ∧ _))

lemma artifactName_inj {p q : String} : o.artifactName a p = o.artifactName a q ↔ p = q := by
  simp [artifactName, ← String.toList_inj]

lemma isAbsolute_artifactName (hempty : stem ≠ "") (hslash : '/' ∉ stem.toList) :
    Path.isAbsolute (o.artifactName a stem) = false := by
  rw [artifactName, String.append_assoc, String.append_assoc, Path.isAbsolute_append hempty]
  exact Path.isAbsolute_of_notMem hslash

/-- The name of an artifact is a single part of a path, and neither silent nor a way back. -/
lemma artifactName_isName (hflat : o.IsFlat a) (hempty : stem ≠ "") (hslash : '/' ∉ stem.toList)
    (hends : o.suffix a ≠ "" ∨ o.extension ≠ "") :
    '/' ∉ (o.artifactName a stem).toList ∧ Path.isSilent (o.artifactName a stem) = false
      ∧ o.artifactName a stem ≠ ".." := by
  -- a stem, a dot and something more make a name longer than every part that is none
  have hlength : 2 < (o.artifactName a stem).toList.length := by
    have hstem : 0 < stem.toList.length := List.length_pos_iff.mpr (by simpa using hempty)
    have hends : 0 < (o.suffix a).toList.length ∨ 0 < o.extension.toList.length :=
      hends.imp (fun h => List.length_pos_iff.mpr (by simpa using h))
        (fun h => List.length_pos_iff.mpr (by simpa using h))
    simp only [artifactName, String.toList_append, List.length_append]
    have : ".".toList.length = 1 := rfl
    omega
  have hshort : ∀ text : String, text.toList.length ≤ 2 → o.artifactName a stem ≠ text := by
    rintro text htext rfl
    omega
  refine ⟨?_, ?_, hshort ".." (by decide)⟩
  · simp [artifactName, hslash, hflat.1, hflat.2]
  · simp [Path.isSilent, hshort "" (by decide), hshort "." (by decide)]

/-- What of its extension an artifact has in its stem: the dot behind the suffix and all that is in front of
the last dot. There is nothing of it if the extension has no dot. -/
def stemTail (o : Config.Output) : String :=
  String.ofList ((("." ++ o.extension).toList.reverse.dropWhile (· != '.')).tail.reverse)

lemma stemTail_of_extension {front last : String} (hextension : "." ++ o.extension = front ++ "." ++ last)
    (hlast : '.' ∉ last.toList) : o.stemTail = front := by
  have hreverse : ("." ++ o.extension).toList.reverse
      = last.toList.reverse ++ '.' :: front.toList.reverse := by simp [hextension]
  have hall : ∀ d ∈ last.toList.reverse, (d != '.') = true :=
    fun d hd => bne_iff_ne.mpr fun heq => hlast (heq ▸ List.mem_reverse.mp hd)
  rw [stemTail, hreverse, List.dropWhile_append_of_pos hall]
  simp

lemma exists_extension_eq (o : Config.Output) :
    ∃ last, "." ++ o.extension = o.stemTail ++ "." ++ last ∧ '.' ∉ last.toList := by
  have hmem : '.' ∈ ("." ++ o.extension).toList.reverse := by simp
  obtain ⟨last, front, hsplit, hlast⟩ := List.eq_append_cons_of_mem hmem
  have hextension : "." ++ o.extension
      = String.ofList front.reverse ++ "." ++ String.ofList last.reverse := by
    rw [← String.toList_inj, ← List.reverse_inj, hsplit]
    simp
  have hfree : '.' ∉ (String.ofList last.reverse).toList := by simpa using hlast
  refine ⟨String.ofList last.reverse, ?_, hfree⟩
  rw [stemTail_of_extension hextension hfree]
  exact hextension

lemma stemTail_of_notMem (h : '.' ∉ o.extension.toList) : o.stemTail = "" := by
  have hextension : "." ++ o.extension = "" ++ "." ++ o.extension := by simp
  exact stemTail_of_extension hextension h

/-- The stem of an artifact goes down to the last dot of the extension. -/
lemma stem?_artifactName (hflat : o.IsFlat a) (hempty : stem ≠ "") (hslash : '/' ∉ stem.toList)
    (hends : o.suffix a ≠ "" ∨ o.extension ≠ "") :
    stem? (o.artifactName a stem) = some (stem ++ o.suffix a ++ o.stemTail) := by
  obtain ⟨hslash', hsilent, hback⟩ := artifactName_isName hflat hempty hslash hends
  obtain ⟨last, hextension, hlast⟩ := exists_extension_eq o
  have hname : o.artifactName a stem = stem ++ o.suffix a ++ o.stemTail ++ "." ++ last := by
    rw [artifactName, String.append_assoc, hextension]
    simp only [String.append_assoc]
  rw [stem?, Path.fileName?_self hslash' hsilent hback, Option.map_some, hname,
    Path.cutName_append ?_ hlast]
  simp [hempty]

lemma isGenerated_iff :
    o.isGenerated path ↔ ∃ stem, stem? path = some stem ∧ ∃ b, Text.finishesWith (o.suffix b) stem := by
  unfold isGenerated
  cases hstem : stem? path with
  | none => simp
  | some stem =>
    simp only [Option.some.injEq, exists_eq_left', Bool.or_eq_true]
    constructor
    · rintro (hqueries | htests)
      · exact ⟨.queries, hqueries⟩
      · exact ⟨.tests, htests⟩
    · rintro ⟨_ | _, hends⟩
      · exact .inl hends
      · exact .inr hends

/-! ## Destinations -/

/-- Two files go to the same destination when they have the same stem. -/
lemma destination?_inj {directory p q : String} :
    o.destination? a directory p = o.destination? a directory q ↔ stem? p = stem? q := by
  simp only [destination?_eq_map]
  constructor
  · intro h
    cases hp : stem? p with
    | none =>
      rw [hp, Option.map_none, eq_comm, Option.map_eq_none_iff] at h
      exact h.symm
    | some stem =>
      cases hq : stem? q with
      | none => simp [hp, hq] at h
      | some stem' =>
        rw [hp, hq, Option.map_some, Option.map_some, Option.some.injEq,
          Path.join_inj (isAbsolute_artifactName (Path.stem_ne_empty hp) (Path.notMem_stem hp))
            (isAbsolute_artifactName (Path.stem_ne_empty hq) (Path.notMem_stem hq)),
          artifactName_inj] at h
        rw [h]
  · intro h
    rw [h]

/-- Every file with a stem has a destination, and it is known for an artifact exactly when its stem, with
what it has of the extension, ends in a suffix. -/
lemma exists_destination (hflat : o.IsFlat a) (hends : o.suffix a ≠ "" ∨ o.extension ≠ "")
    (directory : String) {input : String} (hstem : stem? input = some stem) :
    ∃ destination, o.destination? a directory input = some destination ∧
      (o.isGenerated destination ↔
        ∃ b, Text.finishesWith (o.suffix b) (stem ++ o.suffix a ++ o.stemTail)) := by
  have hempty := Path.stem_ne_empty hstem
  have hslash := Path.notMem_stem hstem
  obtain ⟨hslash', hsilent, hback⟩ := artifactName_isName hflat hempty hslash hends
  have hname : fileName? (Path.join directory (o.artifactName a stem)) = some (o.artifactName a stem) :=
    Path.fileName?_join (Path.fileName?_self hslash' hsilent hback)
  refine ⟨_, by rw [destination?_eq_map, hstem, Option.map_some], ?_⟩
  rw [isGenerated_iff, Path.stem?_of_fileName? hname, stem?_artifactName hflat hempty hslash hends]
  simp

/-- A destination whose extension has no dot is known for an artifact. -/
lemma isGenerated_destination (hflat : o.IsFlat a) (hdot : '.' ∉ o.extension.toList)
    (hends : o.suffix a ≠ "" ∨ o.extension ≠ "") {directory input destination : String}
    (h : o.destination? a directory input = some destination) : o.isGenerated destination := by
  cases hstem : stem? input with
  | none => simp [destination?_eq_map, hstem] at h
  | some stem =>
    obtain ⟨destination', hdestination, hiff⟩ := exists_destination hflat hends directory hstem
    obtain rfl := Option.some.inj (hdestination.symm.trans h)
    refine hiff.mpr ⟨a, ?_⟩
    rw [stemTail_of_notMem hdot]
    exact List.isSuffixOf_iff_suffix.mpr (by simp)

end Config.Output

namespace FileTree

variable {t : FileTree} {directory file : String} {f : FileFilter} {o : Config.Output}

/-- A collected file is called like a declaration file. -/
lemma isDeclarationFile_of_mem_declarationFiles (h : file ∈ t.declarationFiles directory f o) :
    o.isDeclarationFile file := by
  rw [declarationFiles_eq] at h
  obtain ⟨names, hnames, rfl⟩ := List.mem_map.mp h
  rw [List.mem_mergeSort] at hnames
  have hdeclares : o.isDeclarationFile (names.getLastD "") :=
    (Bool.and_eq_true_iff.mp (List.mem_filter.mp hnames).2).1
  rcases names.eq_nil_or_concat with rfl | ⟨above, last, rfl⟩
  · -- no file is called by the empty name
    obtain ⟨name, hname, -⟩ := Config.Output.exists_fileName?_of_isDeclarationFile hdeclares
    rw [show fileName? ([].getLastD "") = none by decide] at hname
    cases hname
  · simp only [List.concat_eq_append, List.getLastD_concat, List.foldl_append, List.foldl_cons,
      List.foldl_nil] at hdeclares ⊢
    obtain ⟨name, hname, -⟩ := Config.Output.exists_fileName?_of_isDeclarationFile hdeclares
    rw [Config.Output.isDeclarationFile_of_fileName? (Path.fileName?_join hname),
      ← Config.Output.isDeclarationFile_of_fileName? hname]
    exact hdeclares

/-- A collected file has a name, which is not the name of an artifact. -/
lemma exists_fileName?_of_mem_declarationFiles (h : file ∈ t.declarationFiles directory f o) :
    ∃ name, fileName? file = some name ∧ o.isGenerated name = false :=
  Config.Output.exists_fileName?_of_isDeclarationFile (isDeclarationFile_of_mem_declarationFiles h)

/-- What is known for an artifact does not stand where a declaration file does. -/
lemma placeOf_ne_of_isGenerated {path : String} (hfile : file ∈ t.declarationFiles directory f o)
    (h : o.isGenerated path) (t' : FileTree) : t'.placeOf path ≠ t'.placeOf file := by
  obtain ⟨name, hname, hgenerated⟩ := exists_fileName?_of_mem_declarationFiles hfile
  obtain ⟨stem, hstem, hends⟩ := Config.Output.isGenerated_iff.mp h
  obtain ⟨other, hother, -⟩ := Path.stem?_eq_some_iff.mp hstem
  intro heq
  -- a place ends in the name of its file
  have hlast := getLast?_placeOf (t := t') hname
  rw [← heq, getLast?_placeOf hother, Option.some.injEq] at hlast
  have hknown : o.isGenerated name :=
    Config.Output.isGenerated_iff.mpr
      ⟨stem, by rw [← hlast, ← Path.stem?_of_fileName? hother, hstem], hends⟩
  rw [hgenerated] at hknown
  cases hknown

lemma exists_stem?_of_mem_declarationFiles (h : file ∈ t.declarationFiles directory f o) :
    ∃ stem, stem? file = some stem := by
  obtain ⟨name, hname, -⟩ := exists_fileName?_of_mem_declarationFiles h
  exact ⟨_, by rw [stem?, hname, Option.map_some]⟩

end FileTree

end DeclGen
