import DeclGen.Proofs.Files.Parents

/-!
# Making the directories above a file

In a tree whose working directory is there and whose nodes all stand in directories (`FileTree.Rooted`),
the directories above a path are made, unless a file stands where one of them has to be or the path is
too long (`FileTree.opens_makeDirectories`). A directory that is refused for another reason is there
already; and once the path above can be entered, no directory is missing any more.
-/

namespace DeclGen

/-- The text of a path is refused, whatever is in the tree. -/
def FileError.IsLimit (e : FileError) : Prop := e = .nameTooLong ∨ e = .zeroInName

namespace FileTree

variable {t t' : FileTree} {l d : Location} {path directory last : String} {front ps : List String}
  {e : FileError}

/-! ## Rooted trees -/

/-- The working directory is there, and whatever is there stands in a directory. -/
structure Rooted (t : FileTree) : Prop where
  working : t.find? t.workingDirectory = some .directory
  parents : ∀ entry ∈ t.entries, t.find? entry.1.dropLast = some .directory

lemma mem_of_lookup {entries : List (Location × Node)} {n : Node} (h : entries.lookup l = some n) :
    (l, n) ∈ entries := by
  obtain ⟨before, after, rfl, -⟩ := List.lookup_eq_some_iff.mp h
  exact List.mem_append_right _ List.mem_cons_self

lemma Rooted.dropLast {n : Node} (h : t.Rooted) (hl : t.find? l = some n) :
    t.find? l.dropLast = some .directory := by
  by_cases hnil : l = []
  · simp [hnil]
  · rw [find?, if_neg hnil] at hl
    exact h.parents _ (mem_of_lookup hl)

lemma Rooted.put (h : t.Rooted) (hfree : t.find? l ≠ some .directory)
    (hdirectory : t.find? l.dropLast = some .directory) (n : Node) : (t.put l n).Rooted := by
  have hgrows : Grows t (t.put l n) := grows_put n hfree
  refine ⟨hgrows.directories _ h.working, fun entry hentry => ?_⟩
  rcases List.mem_cons.mp hentry with rfl | hold
  · exact hgrows.directories _ hdirectory
  · exact hgrows.directories _ (h.parents entry (List.mem_of_mem_filter hold))

/-! ## Refused steps -/

/-- A file stands where one of the parts leads. -/
def Barred (t : FileTree) (l : Location) (parts : List String) : Prop :=
  ∃ before, before <+: parts ∧ (t.fileAt (before.foldl Location.walk l)).isSome

lemma Barred.mono {parts parts' : List String} (h : t.Barred l parts) (hparts : parts <+: parts') :
    t.Barred l parts' := by
  obtain ⟨before, hbefore, hfile⟩ := h
  exact ⟨before, hbefore.trans hparts, hfile⟩

lemma step_eq_error {part : String} (h : t.step l part = .error e) :
    e = .notFound ∨ e.IsLimit ∨ (t.fileAt l).isSome := by
  unfold step at h
  split at h
  · exact .inl (Except.error.inj h).symm
  · next text hfile => exact .inr (.inr (by simp [fileAt_eq_some_iff.mpr hfile]))
  · split at h
    · cases h
    split at h
    · cases h
    split at h
    · exact .inr (.inl (.inl (Except.error.inj h).symm))
    · cases h

/-- Whoever cannot follow the parts finds nothing or a file where a directory has to be, or the parts
are too long. -/
lemma follow_eq_error (h : t.follow l ps = .error e) : e = .notFound ∨ e.IsLimit ∨ t.Barred l ps := by
  induction ps generalizing l with
  | nil => cases h
  | cons part ps ih =>
    have hcons : t.follow l (part :: ps) = t.step l part >>= (t.follow · ps) := rfl
    rw [hcons] at h
    cases hstep : t.step l part with
    | error e' =>
      obtain rfl : e' = e := by simpa [hstep, bind, Except.bind] using h
      refine (step_eq_error hstep).imp_right (Or.imp_right fun hfile => ?_)
      exact ⟨[], List.nil_prefix, hfile⟩
    | ok m =>
      rw [hstep] at h
      obtain rfl : m = l.walk part := (step_eq_ok_iff.mp hstep).2.1
      refine (ih h).imp_right (Or.imp_right ?_)
      rintro ⟨before, hbefore, hfile⟩
      exact ⟨part :: before, List.cons_prefix_cons.mpr ⟨rfl, hbefore⟩, hfile⟩

/-- A slash at the end asks for nothing new. -/
lemma Barred.of_slash (h : t.Barred l (ps ++ [""])) : t.Barred l ps := by
  obtain ⟨before, hbefore, hfile⟩ := h
  rcases List.prefix_concat_iff.mp hbefore with rfl | hbefore
  · refine ⟨ps, List.prefix_rfl, ?_⟩
    rwa [List.foldl_append, List.foldl_cons, List.foldl_nil, Location.walk_of_isSilent rfl] at hfile
  · exact ⟨before, hbefore, hfile⟩

lemma start_eq_error (hne : path ≠ "") (h : t.start path = .error e) : e.IsLimit := by
  unfold start at h
  split at h
  · exact .inr (Except.error.inj h).symm
  split at h
  · next hempty => exact absurd (by simpa using hempty) hne
  split at h
  · exact .inl (Except.error.inj h).symm
  · cases h

lemma start_eq_origin {s : Location} (h : t.start path = .ok s) : s = t.origin path :=
  (start_eq_ok_iff.mp h).2

lemma enter_eq_ok_iff : t.enter path = .ok l ↔
    t.follow (t.origin path) (Path.parts path) = .ok l ∧ t.find? l = some .directory :=
  follow_append_silent_iff rfl

/-- The paths of directories are those that can be entered. -/
lemma kindAt_eq_directory_iff : t.kindAt path = some .directory ↔
    (∃ s, t.start path = .ok s) ∧ ∃ l, t.enter path = .ok l := by
  unfold kindAt
  constructor
  · intro h
    split at h
    · next l n hlookup =>
      obtain ⟨hlocate, hfind⟩ := lookup_eq_ok_iff.mp hlookup
      obtain ⟨s, hs, hl⟩ := locate_eq_ok_iff.mp hlocate
      obtain rfl := start_eq_origin hs
      obtain rfl : n = .directory := by
        cases n with
        | directory => rfl
        | file text => cases h
      exact ⟨⟨_, hs⟩, l, enter_eq_ok_iff.mpr ⟨hl, hfind⟩⟩
    · cases h
  · rintro ⟨⟨s, hs⟩, l, hl⟩
    obtain ⟨hfollow, hfind⟩ := enter_eq_ok_iff.mp hl
    obtain rfl := start_eq_origin hs
    have hlookup : t.lookup path = .ok (l, .directory) :=
      lookup_eq_ok_iff.mpr ⟨locate_eq_ok_iff.mpr ⟨_, hs, hfollow⟩, hfind⟩
    rw [hlookup]
    rfl

lemma Grows.origin (h : Grows t t') : t'.origin path = t.origin path := by
  simp [FileTree.origin, h.workingDirectory]

lemma Grows.enter (h : Grows t t') (hl : t.enter path = .ok l) : t'.enter path = .ok l := by
  rw [FileTree.enter, h.origin]
  exact h.follow hl

/-- The paths that stand for a directory of every tree can be entered. -/
lemma Rooted.exists_enter (h : t.Rooted) (hpath : path = "" ∨ path = "." ∨ path = "/") :
    ∃ l, t.enter path = .ok l := by
  have hstep : ∀ l, t.find? l = some .directory → t.step l "" = .ok l := fun l hl =>
    step_eq_ok_iff.mpr ⟨hl, rfl, by decide⟩
  rcases hpath with rfl | rfl | rfl
  · exact ⟨_, (follow_silent [""] (by decide)).trans (hstep _ h.working)⟩
  · exact ⟨_, (follow_silent ["."] (by decide)).trans (hstep _ h.working)⟩
  · exact ⟨_, (follow_silent ["", ""] (by decide)).trans (hstep [] rfl)⟩

/-! ## Making a directory -/

/-- A name that is short enough is followed in a directory. -/
lemma step_of_name (hd : t.find? d = some .directory) (hlast : Path.isSilent last = false)
    (hback : last ≠ "..") (hshort : last.utf8ByteSize ≤ nameLimit) :
    t.step d last = .ok (d ++ [last]) :=
  step_eq_ok_iff.mpr ⟨hd, (Location.walk_of_name hlast hback d).symm, fun _ _ => hshort⟩

lemma makeDirectory_of_site (h : t.site path = .error e) : t.makeDirectory path = .error e := by
  unfold makeDirectory
  rw [h]
  rfl

section Sites

variable (hparts : Path.parts path = front ++ [last]) (hlast : Path.isSilent last = false)
include hparts hlast

/-- The site of a path whose last part says something. -/
lemma site_eq : t.site path = (do
    let s ← t.start path
    let d ← t.follow s (front ++ [""])
    return ⟨d, last, false⟩) := by
  have hne : last ≠ "" := by
    rintro rfl
    exact absurd hlast (by decide)
  have hopen : (last == "") = false := beq_eq_false_iff_ne.mpr hne
  unfold site
  simp [hparts, hopen]

variable (habove : Path.Above front directory)
include habove

lemma site_of_enter {s : Location} (hs : t.start path = .ok s) (hd : t.enter directory = .ok d) :
    t.site path = .ok ⟨d, last, false⟩ := by
  rw [site_eq hparts hlast, hs, start_eq_origin hs]
  show (t.follow (t.origin path) (front ++ [""]) >>= _) = _
  rw [follow_front hparts hlast habove, hd]
  rfl

lemma site_of_enter_error {s : Location} (hs : t.start path = .ok s)
    (hd : t.enter directory = .error e) : t.site path = .error e := by
  rw [site_eq hparts hlast, hs, start_eq_origin hs]
  show (t.follow (t.origin path) (front ++ [""]) >>= _) = _
  rw [follow_front hparts hlast habove, hd]
  rfl

/-- In the directory above, a directory is made under a name that is short enough and free. -/
lemma makeDirectory_of_enter {s : Location} (hs : t.start path = .ok s)
    (hd : t.enter directory = .ok d) : t.makeDirectory path =
      if last = ".." then .error .alreadyExists
      else if nameLimit < last.utf8ByteSize then .error .nameTooLong
      else if (t.find? (d ++ [last])).isSome then .error .alreadyExists
      else .ok (t.put (d ++ [last]) .directory) := by
  unfold makeDirectory
  rw [site_of_enter hparts hlast habove hs hd]
  by_cases hback : last = ".."
  · simp [Site.isNamed, hback, bind, Except.bind]
  · simp [Site.isNamed, hlast, hback, Site.place, bind, Except.bind]
    rfl

/-- The parts before the last one are followed to the directory above. -/
lemma follow_of_enter (hd : t.enter directory = .ok d) : t.follow (t.origin path) front = .ok d := by
  rw [← follow_front hparts hlast habove] at hd
  exact ((follow_append_silent_iff rfl).mp hd).1

/-- The last part leads from the directory above. -/
lemma enter_of_step (hd : t.enter directory = .ok d) (hstep : t.step d last = .ok l)
    (hl : t.find? l = some .directory) : t.enter path = .ok l := by
  have hfollow := follow_of_enter hparts hlast habove hd
  rw [enter_eq_ok_iff, hparts, follow_append_eq_ok_iff]
  exact ⟨⟨d, hfollow, follow_singleton.trans hstep⟩, hl⟩

/-- A path is refused for its text, or for what is above it, unless it can be followed to the directory
above. -/
lemma site_cases : (∃ e, e.IsLimit ∧ t.site path = .error e) ∨
    (∃ e, t.enter directory = .error e ∧ t.site path = .error e) ∨
    ∃ s d, t.start path = .ok s ∧ t.enter directory = .ok d := by
  have hne : path ≠ "" := Path.Trimmed.ne_empty ⟨front, last, hparts, hlast⟩
  cases hs : t.start path with
  | error e =>
    refine .inl ⟨e, start_eq_error hne hs, ?_⟩
    rw [site_eq hparts hlast, hs]
    rfl
  | ok s =>
    cases hd : t.enter directory with
    | error e => exact .inr (.inl ⟨e, rfl, site_of_enter_error hparts hlast habove hs hd⟩)
    | ok d => exact .inr (.inr ⟨s, d, rfl, rfl⟩)

/-- What keeps the directory above from being entered also stands in the way of the path. -/
lemma enter_eq_error (h : t.enter directory = .error e) :
    e = .notFound ∨ e.IsLimit ∨ t.Barred (t.origin path) front := by
  rw [← follow_front hparts hlast habove] at h
  exact (follow_eq_error h).imp_right (Or.imp_right Barred.of_slash)

/-- The place of a path is one name below the directory above. -/
lemma placeOf_eq (hd : t.enter directory = .ok d) (hback : last ≠ "..") :
    t.placeOf path = d ++ [last] := by
  have hfollow := follow_of_enter hparts hlast habove hd
  have hplace : t.placeOf path = (Path.parts path).foldl Location.walk (t.origin path) := rfl
  rw [hplace, hparts, List.foldl_append, ← eq_foldl_walk_of_follow hfollow, List.foldl_cons,
    List.foldl_nil, Location.walk_of_name hlast hback]

lemma makeDirectory_ne_notFound (hd : t.enter directory = .ok d) :
    t.makeDirectory path ≠ .error .notFound := by
  rcases site_cases (t := t) hparts hlast habove with ⟨e, he, hsite⟩ | ⟨e, hnone, -⟩ | ⟨s, d', hs, hd'⟩
  · rw [makeDirectory_of_site hsite]
    rintro ⟨rfl⟩
    rcases he with he | he <;> cases he
  · rw [hd] at hnone
    cases hnone
  · rw [makeDirectory_of_enter hparts hlast habove hs hd']
    split
    · simp
    split
    · simp
    split <;> simp

/-- A directory that was made can be entered. -/
lemma enter_of_makeDirectory (h : t.makeDirectory path = .ok t') : ∃ l, t'.enter path = .ok l := by
  rcases site_cases (t := t) hparts hlast habove with ⟨e, -, hsite⟩ | ⟨e, -, hsite⟩ | ⟨s, d, hs, hd⟩
  · rw [makeDirectory_of_site hsite] at h
    cases h
  · rw [makeDirectory_of_site hsite] at h
    cases h
  · have hkeeps := keeps_makeDirectory h
    rw [makeDirectory_of_enter hparts hlast habove hs hd] at h
    split at h
    · cases h
    next hback =>
    split at h
    · cases h
    next hlong =>
    split at h
    · cases h
    obtain rfl := Except.ok.inj h
    have hd' := hkeeps.toGrows.enter hd
    have hstep := step_of_name (enter_eq_ok_iff.mp hd').2 hlast hback (Nat.le_of_not_lt hlong)
    exact ⟨d ++ [last], enter_of_step hparts hlast habove hd' hstep (by simp [find?_put])⟩

/-- A directory is refused where there is one already, where a file is in the way, or where the
directory above is missing. -/
lemma makeDirectory_eq_error (ht : t.Rooted) (h : t.makeDirectory path = .error e) :
    t.kindAt path = some .directory ∨ e.IsLimit ∨ t.Barred (t.origin path) (Path.parts path) ∨
      e = .notFound := by
  have hfront : front <+: Path.parts path := hparts ▸ List.prefix_append front [last]
  rcases site_cases (t := t) hparts hlast habove with ⟨e', he, hsite⟩ | ⟨e', hnone, hsite⟩ | ⟨s, d, hs, hd⟩
  · rw [makeDirectory_of_site hsite] at h
    exact .inr (.inl (Except.error.inj h ▸ he))
  · rw [makeDirectory_of_site hsite] at h
    rw [Except.error.inj h] at hnone
    rcases enter_eq_error hparts hlast habove hnone with hmissing | hlimit | hbarred
    · exact .inr (.inr (.inr hmissing))
    · exact .inr (.inl hlimit)
    · exact .inr (.inr (.inl (hbarred.mono hfront)))
  have hdirectory := (enter_eq_ok_iff.mp hd).2
  have hthere : ∀ l, t.step d last = .ok l → t.find? l = some .directory →
      t.kindAt path = some .directory := fun l hstep hl =>
    kindAt_eq_directory_iff.mpr ⟨⟨s, hs⟩, l, enter_of_step hparts hlast habove hd hstep hl⟩
  rw [makeDirectory_of_enter hparts hlast habove hs hd] at h
  split at h
  · next hback =>
    -- the directory above a directory is there
    subst hback
    exact .inl (hthere _ (step_eq_ok_iff.mpr ⟨hdirectory, rfl, by simp⟩) (ht.dropLast hdirectory))
  next hback =>
  split at h
  · exact .inr (.inl (.inl (Except.error.inj h).symm))
  next hlong =>
  split at h
  · next hsome =>
    obtain ⟨n, hn⟩ := Option.isSome_iff_exists.mp hsome
    cases n with
    | directory =>
      exact .inl (hthere _ (step_of_name hdirectory hlast hback (Nat.le_of_not_lt hlong)) hn)
    | file text =>
      refine .inr (.inr (.inl ⟨Path.parts path, List.prefix_rfl, ?_⟩))
      show (t.fileAt (t.placeOf path)).isSome
      rw [placeOf_eq hparts hlast habove hd hback, fileAt_eq_some_iff.mpr hn]
      rfl
  · cases h

end Sites

/-- Making a directory keeps a tree rooted. -/
lemma Rooted.makeDirectory (h : t.Rooted) (hmade : t.makeDirectory path = .ok t') : t'.Rooted := by
  obtain ⟨s, hs, hnone, rfl⟩ := makeDirectory_eq_ok hmade
  have hfree : t.find? s.place ≠ some .directory := by simp [hnone]
  obtain ⟨start, -, hs⟩ := Except.bind_eq_ok_iff.mp hs
  obtain ⟨d, hd, hs⟩ := Except.bind_eq_ok_iff.mp hs
  obtain rfl := Except.ok.inj hs
  refine h.put hfree ?_ _
  rw [Site.place, List.dropLast_concat]
  exact ((follow_append_silent_iff rfl).mp hd).2

/-! ## Making the directories above a file -/

section Chains

open FileStore

/-- One tree is rooted if the other is. -/
def KeepsRooted (t t' : FileTree) : Prop := t.Rooted → t'.Rooted

instance : IsPreorder FileTree KeepsRooted where
  refl _ := id
  trans _ _ _ h h' := h' ∘ h

lemma run_makeDirectory (t : FileTree) (path : String) :
    (FileStore.makeDirectory path : StateM FileTree _).run t = match t.makeDirectory path with
      | .ok t' => (.ok (), t')
      | .error e => (.error e, t) := by
  show (change fun t => (t.makeDirectory path).map (((), ·))).run t = _
  rw [run_change]
  cases t.makeDirectory path <;> rfl

lemma rooted_makeChain (paths : List String) :
    Within KeepsRooted (makeChain paths : StateM FileTree (Except FileError Unit)) := by
  refine within_makeChain ?_ paths
  intro path t ht
  rw [run_makeDirectory]
  cases h : t.makeDirectory path with
  | error e => exact ht
  | ok made => exact ht.makeDirectory h

/-- The path can be entered, or is too long, or a file is in the way. -/
def Opens (t : FileTree) (path : String) : Except FileError Unit × FileTree → Prop
  | (.ok _, t') => ∃ l, t'.enter path = .ok l
  | (.error e, _) => e.IsLimit ∨ t.Barred (t.origin path) (Path.parts path)

lemma run_settled (t : FileTree) (path : String) (e : FileError) :
    (makeChain.settled path (.error e) : StateM FileTree _).run t =
      (if t.kindAt path = some .directory then .ok () else .error e, t) := by
  show ((if t.kindAt path == some .directory then .ok () else .error e : Except FileError Unit), t) = _
  by_cases h : t.kindAt path = some .directory <;> simp [h]

/-- A chain begins with its first path, and with the ones above if it has to. -/
lemma run_makeChain_cons (hne : path ≠ "") (above : List String) (t : FileTree) :
    (makeChain (path :: above) : StateM FileTree _).run t = match t.makeDirectory path with
      | .ok t' => (.ok (), t')
      | .error .notFound => match (makeChain above : StateM FileTree _).run t with
        | (.error e, t') => (.error e, t')
        | (.ok _, t') =>
          (FileStore.makeDirectory path >>= makeChain.settled path : StateM FileTree _).run t'
      | .error e => (makeChain.settled path (.error e) : StateM FileTree _).run t := by
  conv_lhs => rw [makeChain.eq_def]
  split
  · rename_i heq
    cases heq
  · rename_i heq
    exact absurd (List.cons.inj heq).1 hne
  · rename_i path' above' hne' heq
    obtain ⟨rfl, rfl⟩ := List.cons.inj heq
    rw [run_bind, run_makeDirectory]
    cases hmake : t.makeDirectory path with
    | ok t' => rfl
    | error e =>
      cases e with
      | notFound =>
        dsimp only
        rw [run_bind]
        rcases (makeChain above : StateM FileTree _).run t with ⟨_ | _, t'⟩ <;> rfl
      | _ => rfl

/-- A refusal is as good as a new directory if there is one already. -/
lemma opens_settled (h : t.kindAt path = some .directory ∨ e.IsLimit ∨
      t.Barred (t.origin path) (Path.parts path)) :
    t.Opens path ((makeChain.settled path (.error e) : StateM FileTree _).run t) := by
  rw [run_settled]
  by_cases hthere : t.kindAt path = some .directory
  · rw [if_pos hthere]
    exact (kindAt_eq_directory_iff.mp hthere).2
  · rw [if_neg hthere]
    exact h.resolve_left hthere

lemma Keeps.opens (h : Keeps t t') {r : Except FileError Unit × FileTree} (hr : t'.Opens path r) :
    t.Opens path r := by
  obtain ⟨_ | _, t''⟩ := r
  · refine Or.imp_right ?_ hr
    rintro ⟨before, hbefore, hfile⟩
    exact ⟨before, hbefore, by rwa [← h.origin, ← h.files]⟩
  · exact hr

/-- In a directory that is there the next one is made. -/
lemma opens_makeDirectory (hparts : Path.parts path = front ++ [last])
    (hlast : Path.isSilent last = false) (habove : Path.Above front directory) (ht : t.Rooted)
    (hd : t.enter directory = .ok d) :
    t.Opens path
      ((FileStore.makeDirectory path >>= makeChain.settled path : StateM FileTree _).run t) := by
  rw [run_bind, run_makeDirectory]
  cases hmake : t.makeDirectory path with
  | ok t' => exact enter_of_makeDirectory hparts hlast habove hmake
  | error e =>
    have hmissing : e ≠ .notFound := by
      rintro rfl
      exact makeDirectory_ne_notFound hparts hlast habove hd hmake
    have hrefused := makeDirectory_eq_error hparts hlast habove ht hmake
    exact opens_settled (hrefused.imp_right (Or.imp_right (·.resolve_right hmissing)))

/-- What comes of a path when those above it have been gone through. -/
lemma opens_of_above {above : List String} (hparts : Path.parts path = front ++ [last])
    (hlast : Path.isSilent last = false) (habove : Path.Above front directory)
    (hbegins : Path.parts directory <+: front) (hnone : directory ≠ "") (ht : t.Rooted)
    (hopens : t.Opens directory ((makeChain above : StateM FileTree _).run t)) :
    t.Opens path (match (makeChain above : StateM FileTree _).run t with
      | (.error e, t') => (.error e, t')
      | (.ok _, t') =>
        (FileStore.makeDirectory path >>= makeChain.settled path : StateM FileTree _).run t') := by
  have hne : path ≠ "" := Path.Trimmed.ne_empty ⟨front, last, hparts, hlast⟩
  have hwhole : Path.parts directory <+: Path.parts path :=
    hparts ▸ hbegins.trans (List.prefix_append front [last])
  have hkeeps := within_makeChain (R := Keeps) within_makeDirectory above t
  have hrooted := rooted_makeChain above t ht
  rcases hrun : (makeChain above : StateM FileTree _).run t with ⟨e | _, t'⟩
  · rw [hrun] at hopens
    have hbarred := hopens.imp_right (·.mono hwhole)
    rw [← origin_of_prefix hne hnone hwhole] at hbarred
    exact hbarred
  · rw [hrun] at hopens hkeeps hrooted
    obtain ⟨d, hd⟩ := hopens
    exact hkeeps.opens (opens_makeDirectory hparts hlast habove hrooted hd)

/-- The directories above a path are made one after the other, the first one last. -/
lemma opens_makeChain (ht : t.Rooted) (n : Nat) (htrimmed : Path.Trimmed path)
    (hn : (Path.parts path).length ≤ n) :
    t.Opens path ((makeChain (Path.chain n path) : StateM FileTree _).run t) := by
  induction n generalizing path with
  | zero => exact absurd (List.length_eq_zero_iff.mp (Nat.le_zero.mp hn)) (Path.parts_ne_nil path)
  | succ n ih =>
    obtain ⟨front, last, hparts, hlast⟩ := htrimmed
    obtain ⟨directory, hparent, habove⟩ := Path.exists_parent hparts hlast
    have hne : path ≠ "" := Path.Trimmed.ne_empty ⟨front, last, hparts, hlast⟩
    have hchain : Path.chain (n + 1) path = path :: Path.chain n directory := by
      rw [Path.chain, hparent]
    rw [hchain, run_makeChain_cons hne]
    cases hmake : t.makeDirectory path with
    | ok t' => exact enter_of_makeDirectory hparts hlast habove hmake
    | error e =>
      have hrefused := makeDirectory_eq_error hparts hlast habove ht hmake
      by_cases hmissing : e = .notFound
      · subst hmissing
        dsimp only
        have hbase : ¬ (directory = "" ∨ directory = "." ∨ directory = "/") := by
          intro hbase
          obtain ⟨d, hd⟩ := ht.exists_enter hbase
          exact makeDirectory_ne_notFound hparts hlast habove hd hmake
        -- the directory above is missing, and so it is itself a path that says something
        obtain ⟨htrimmed, hbegins⟩ := habove.trimmed hbase
        have hlength : (Path.parts directory).length ≤ n := by
          have hfront := hbegins.length_le
          rw [hparts, List.length_append, List.length_singleton] at hn
          omega
        exact opens_of_above hparts hlast habove hbegins htrimmed.ne_empty ht (ih htrimmed hlength)
      · have hsettled := opens_settled (e := e) (hrefused.imp_right (Or.imp_right (·.resolve_right hmissing)))
        cases e with
        | notFound => exact absurd rfl hmissing
        | _ => exact hsettled

/-- The directory of every tree is there. -/
lemma run_makeDirectories_base (ht : t.Rooted) (hpath : path = "." ∨ path = "/") :
    (makeDirectories path : StateM FileTree _).run t = (.ok (), t) := by
  have hne : path ≠ "" := by rcases hpath with rfl | rfl <;> decide
  obtain ⟨l, hl⟩ := ht.exists_enter (.inr hpath)
  have hstart : t.start path = .ok (t.origin path) := by
    rcases hpath with rfl | rfl <;> rfl
  have hthere : t.kindAt path = some .directory :=
    kindAt_eq_directory_iff.mpr ⟨⟨_, hstart⟩, l, hl⟩
  have hmake : t.makeDirectory path = .error .alreadyExists := by
    have hstep : ∀ l, t.find? l = some .directory → t.follow l [""] = .ok l := fun l hl =>
      follow_singleton.trans (step_eq_ok_iff.mpr ⟨hl, rfl, by decide⟩)
    rcases hpath with rfl | rfl
    · have hsite : t.site "." = t.follow t.workingDirectory [""] >>= fun d => .ok ⟨d, ".", false⟩ := rfl
      rw [FileTree.makeDirectory, hsite, hstep _ ht.working]
      rfl
    · have hsite : t.site "/" = t.follow [] [""] >>= fun d => .ok ⟨d, "", true⟩ := rfl
      rw [FileTree.makeDirectory, hsite, hstep [] rfl]
      rfl
  show (makeChain (Path.chain _ path) : StateM FileTree _).run t = _
  rw [Path.chain, run_makeChain_cons hne, hmake]
  dsimp only
  rw [run_settled, if_pos hthere]

lemma enter_point (t : FileTree) : t.enter "." = t.enter "" :=
  (follow_silent ["."] (by decide)).trans
    (follow_silent [""] (by decide)).symm

/-- What comes of the directory to write in: it is the one above the path, and is there, unless the path
is too long or a file is in the way. -/
lemma opens_makeDirectories (hparts : Path.parts path = front ++ [last])
    (hlast : Path.isSilent last = false) (hparent : Path.parent? path = some directory)
    (habove : Path.Above front directory) (ht : t.Rooted) :
    match (makeDirectories (Path.directoryOf path) : StateM FileTree _).run t with
    | (.ok _, t') => ∃ d, t'.enter directory = .ok d ∧ t'.enter (Path.directoryOf path) = .ok d
    | (.error e, _) => e.IsLimit ∨ t.Barred (t.origin path) front := by
  rw [Path.directoryOf_eq hparent]
  by_cases hnone : directory = ""
  · subst hnone
    obtain ⟨d, hd⟩ := ht.exists_enter (.inl rfl)
    rw [if_pos rfl, run_makeDirectories_base ht (.inl rfl)]
    exact ⟨d, hd, (enter_point t).trans hd⟩
  rw [if_neg hnone]
  by_cases hbase : directory = "." ∨ directory = "/"
  · obtain ⟨d, hd⟩ := ht.exists_enter (.inr hbase)
    rw [run_makeDirectories_base ht hbase]
    exact ⟨d, hd, hd⟩
  obtain ⟨htrimmed, hbegins⟩ := habove.trimmed (not_or.mpr ⟨hnone, hbase⟩)
  have hne : path ≠ "" := Path.Trimmed.ne_empty ⟨front, last, hparts, hlast⟩
  have horigin : t.origin path = t.origin directory :=
    origin_of_prefix hne hnone (hparts ▸ hbegins.trans (List.prefix_append front [last]))
  have hopens := opens_makeChain ht ((Path.parts directory).length + 1) htrimmed (Nat.le_succ _)
  rw [horigin]
  unfold makeDirectories Path.withAncestors
  split
  · next hrun =>
    rw [hrun] at hopens
    obtain ⟨d, hd⟩ := hopens
    exact ⟨d, hd, hd⟩
  · next hrun =>
    rw [hrun] at hopens
    exact hopens.imp_right (·.mono hbegins)

end Chains

end FileTree

end DeclGen
