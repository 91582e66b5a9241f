import DeclGen.Proofs.Qualifier.Stripping
import DeclGen.Proofs.Text.Lines
import Mathlib.Data.Nat.Find

/-!
# The occurrences that go

Two occurrences of a qualifier with its dot never overlap, so that in a text they fall into runs in which they
stand directly one behind the other. Whether a run goes is decided by the character in front of its first
occurrence alone. `IsRun` and `GoesAt` say this with positions in the text and without the scan, and stripping
leaves exactly the characters that stand in no occurrence that goes (`strip_eq_without`). Nothing is left that
would go in a second pass, since an occurrence that began in front of a gap would have to hold a character that
belongs to no name.
-/

namespace DeclGen.Qualifier

/-! ## Positions -/

/-- The number of characters of an occurrence. -/
def width (p : List Char) : Nat := p.length + 1

/-- An occurrence of the qualifier with its dot begins at the position `i`. -/
def OccursAt (p s : List Char) (i : Nat) : Prop := (p ++ ['.']) <+: s.drop i

instance (p s : List Char) : DecidablePred (OccursAt p s) :=
  fun i => inferInstanceAs (Decidable ((p ++ ['.']) <+: s.drop i))

/-- The character in front of a position, if there is one. -/
def before (s : List Char) (i : Nat) : Option Char := (s.take i).getLast?

/-- From the position `first` on `count` occurrences stand directly one behind the other, and no further one
stands directly in front of them or behind them. -/
structure IsRun (p s : List Char) (first count : Nat) : Prop where
  pos : 0 < count
  occurs : ∀ k < count, OccursAt p s (first + k * width p)
  front : ∀ i, i + width p = first → ¬ OccursAt p s i
  behind : ¬ OccursAt p s (first + count * width p)

/-- The occurrence at the position `i` belongs to a run with which a name starts. -/
def GoesAt (p s : List Char) (i : Nat) : Prop :=
  ∃ first count, IsRun p s first count ∧ startsName (before s first) ∧
    ∃ k < count, i = first + k * width p

/-- The character at the position `x` stands in an occurrence that goes. -/
def GoneAt (p s : List Char) (x : Nat) : Prop := ∃ i, GoesAt p s i ∧ i ≤ x ∧ x < i + width p

/-- The characters of a text that stand at other positions. -/
def without (s : List Char) (gone : Nat → Prop) [DecidablePred gone] : List Char :=
  (s.zipIdx.filter fun x => ¬ gone x.2).map Prod.fst

section Occurrences

variable {p s : List Char}

lemma occursAt_append (p a s : List Char) (i : Nat) :
    OccursAt p (a ++ s) (a.length + i) ↔ OccursAt p s i := by
  rw [OccursAt, List.drop_length_add_append, OccursAt]

/-- Behind the end of a text nothing occurs. -/
lemma not_occursAt_of_length_le {i : Nat} (h : s.length ≤ i) : ¬ OccursAt p s i := by
  rw [OccursAt, List.drop_eq_nil_of_le h]
  simp

/-- In front of what follows an occurrence stands its dot. -/
lemma before_of_occursAt {i : Nat} (h : OccursAt p s i) : before s (i + width p) = some '.' := by
  obtain ⟨t, ht⟩ := h
  rw [before, List.take_add, ← ht, show width p = (p ++ ['.']).length by simp [width],
    List.take_left, ← List.append_assoc]
  simp

/-- An occurrence leaves no room for another one that begins in it. -/
lemma width_le_of_occursAt (hp : IsWord p) {i : Nat} (hi : 0 < i)
    (h : OccursAt p (p ++ '.' :: s) i) : width p ≤ i := by
  by_contra hlt
  have hle : i ≤ p.length := by
    unfold width at hlt
    omega
  obtain ⟨t, ht⟩ := h
  rw [List.drop_append_of_le_length hle, List.append_assoc, List.singleton_append] at ht
  -- up to the first dot the text reads as `p` and as an end of `p`
  have hfirst := congrArg (List.takeWhile (· != '.')) ht
  have hdrop : '.' ∉ p.drop i := fun hmem => hp.dot_notMem (List.mem_of_mem_drop hmem)
  rw [Text.takeWhile_ne_append, Text.takeWhile_ne_append, Text.takeWhile_ne_of_notMem hp.dot_notMem,
    Text.takeWhile_ne_of_notMem hdrop] at hfirst
  have hlength := congrArg List.length hfirst
  have hpos := List.length_pos_of_ne_nil hp.ne_nil
  rw [List.length_drop] at hlength
  omega

end Occurrences

/-! ## Runs behind a character -/

/-- In `s`, which follows the character `previous`, a name can start at the position `first`, and from there on
`k` occurrences and one more stand directly one behind the other. -/
structure Reaches (previous : Option Char) (p s : List Char) (first k : Nat) : Prop where
  starts : startsName ((before s first).or previous)
  occurs : ∀ m ≤ k, OccursAt p s (first + m * width p)

/-- In `s`, which follows the character `previous`, the character at the position `x` stands in the last
occurrence that is reached from a position at which a name can start. -/
def GoneAfter (previous : Option Char) (p s : List Char) (x : Nat) : Prop :=
  ∃ first k, Reaches previous p s first k ∧ first + k * width p ≤ x ∧ x < first + k * width p + width p

section Runs

variable {previous : Option Char} {p s : List Char}

instance (previous : Option Char) (p s : List Char) (first k : Nat) :
    Decidable (Reaches previous p s first k) :=
  decidable_of_iff (startsName ((before s first).or previous) ∧ ∀ m ≤ k, OccursAt p s (first + m * width p))
    ⟨fun h => ⟨h.1, h.2⟩, fun h => ⟨h.1, h.2⟩⟩

/-- The positions and lengths that have to be looked at are at most the position itself. -/
lemma goneAfter_iff_bounded {x : Nat} :
    GoneAfter previous p s x ↔ ∃ first ≤ x, ∃ k ≤ x, Reaches previous p s first k ∧
      first + k * width p ≤ x ∧ x < first + k * width p + width p := by
  constructor
  · rintro ⟨first, k, hreach, hle, hlt⟩
    have hk : k ≤ k * width p := Nat.le_mul_of_pos_right k (Nat.succ_pos _)
    exact ⟨first, by omega, k, by omega, hreach, hle, hlt⟩
  · rintro ⟨first, _, k, _, hreach, hle, hlt⟩
    exact ⟨first, k, hreach, hle, hlt⟩

instance (previous : Option Char) (p s : List Char) : DecidablePred (GoneAfter previous p s) :=
  fun _ => decidable_of_iff _ goneAfter_iff_bounded.symm

/-- What is reached from a position at which a name can start is the beginning of a run, which nothing precedes
since no name can start behind a dot. -/
lemma goesAt_iff {i : Nat} :
    GoesAt p s i ↔ ∃ first k, Reaches none p s first k ∧ i = first + k * width p := by
  constructor
  · rintro ⟨first, count, hrun, hstarts, k, hk, hi⟩
    refine ⟨first, k, ⟨by simpa using hstarts, fun m hm => hrun.occurs m (by omega)⟩, hi⟩
  · rintro ⟨first, k, hreach, hi⟩
    have hstarts : startsName (before s first) := by simpa using hreach.starts
    -- the run ends with the first occurrence that is missing
    have hend : ∃ n, ¬ OccursAt p s (first + n * width p) := by
      refine ⟨s.length, not_occursAt_of_length_le ?_⟩
      have hle : s.length ≤ s.length * width p := Nat.le_mul_of_pos_right _ (Nat.succ_pos _)
      omega
    have hk : k < Nat.find hend := by
      by_contra hle
      exact Nat.find_spec hend (hreach.occurs _ (by omega))
    refine ⟨first, Nat.find hend, ⟨by omega, fun m hm => ?_, ?_, Nat.find_spec hend⟩, hstarts, k, hk, hi⟩
    · exact not_not.mp (Nat.find_min hend hm)
    · intro j hj hoccurs
      rw [← hj, before_of_occursAt hoccurs, startsName_dot] at hstarts
      exact Bool.noConfusion hstarts

lemma goneAt_iff {x : Nat} : GoneAt p s x ↔ GoneAfter none p s x := by
  constructor
  · rintro ⟨i, hgoes, hle, hlt⟩
    obtain ⟨first, k, hreach, rfl⟩ := goesAt_iff.mp hgoes
    exact ⟨first, k, hreach, hle, hlt⟩
  · rintro ⟨first, k, hreach, hle, hlt⟩
    exact ⟨_, goesAt_iff.mpr ⟨first, k, hreach, rfl⟩, hle, hlt⟩

instance (p s : List Char) : DecidablePred (GoneAt p s) :=
  fun _ => decidable_of_iff _ goneAt_iff.symm

/-- Behind a text that ends in `c` the same is reached as behind that character. -/
lemma reaches_append {a : List Char} {c : Char} (hlast : a.getLast? = some c) (s : List Char) (first k : Nat) :
    Reaches previous p (a ++ s) (a.length + first) k ↔ Reaches (some c) p s first k := by
  have hbefore : (before (a ++ s) (a.length + first)).or previous = (before s first).or (some c) := by
    rw [before, List.take_length_add_append, List.getLast?_append, hlast, before]
    cases (s.take first).getLast? <;> rfl
  have hoccurs : ∀ m, OccursAt p (a ++ s) (a.length + first + m * width p) ↔
      OccursAt p s (first + m * width p) := by
    intro m
    rw [Nat.add_assoc, occursAt_append]
  constructor
  · intro h
    exact ⟨hbefore ▸ h.starts, fun m hm => (hoccurs m).mp (h.occurs m hm)⟩
  · intro h
    exact ⟨hbefore ▸ h.starts, fun m hm => (hoccurs m).mpr (h.occurs m hm)⟩

/-- Behind an occurrence the same is reached as behind its dot. -/
lemma reaches_occurrence (s : List Char) (first k : Nat) :
    Reaches previous p (p ++ '.' :: s) (width p + first) k ↔ Reaches (some '.') p s first k := by
  have hlast : (p ++ ['.']).getLast? = some '.' := by simp
  have happend : Reaches previous p ((p ++ ['.']) ++ s) ((p ++ ['.']).length + first) k ↔
      Reaches (some '.') p s first k := reaches_append hlast s first k
  simpa [width] using happend

/-- What is reached inside a text that begins with an occurrence begins behind that. -/
lemma Reaches.width_le (hp : IsWord p) {first k : Nat} (h : Reaches previous p (p ++ '.' :: s) first k)
    (hpos : 0 < first) : width p ≤ first := by
  have hoccurs : OccursAt p (p ++ '.' :: s) first := by simpa using h.occurs 0 (Nat.zero_le k)
  exact width_le_of_occursAt hp hpos hoccurs

/-- What precedes the text does not matter to a run that begins inside it. -/
lemma Reaches.of_pos {previous' : Option Char} {first k : Nat} (h : Reaches previous p s first k)
    (hpos : 0 < first) : Reaches previous' p s first k := by
  refine ⟨?_, h.occurs⟩
  have hstarts := h.starts
  cases hlast : before s first with
  | some c => simpa [hlast] using hstarts
  | none =>
    -- nothing occurs in an empty text
    rw [before, List.getLast?_eq_none_iff, List.take_eq_nil_iff] at hlast
    obtain rfl : s = [] := hlast.resolve_left (by omega)
    exact absurd (h.occurs 0 (by omega)) (not_occursAt_of_length_le (by simp))

/-- One occurrence more in front of a run makes it longer by one. -/
lemma reaches_zero_succ (hstart : startsName previous) (s : List Char) (k : Nat) :
    Reaches previous p (p ++ '.' :: s) 0 (k + 1) ↔ Reaches previous p s 0 k := by
  have hlength : width p = (p ++ ['.']).length := by simp [width]
  have hnext : ∀ m, OccursAt p (p ++ '.' :: s) (0 + (m + 1) * width p) ↔ OccursAt p s (0 + m * width p) := by
    intro m
    rw [Nat.zero_add, Nat.zero_add, Nat.add_one_mul, Nat.add_comm,
      ← List.singleton_append, ← List.append_assoc]
    nth_rewrite 1 [hlength]
    exact occursAt_append p _ s _
  constructor
  · intro h
    exact ⟨by simpa [before] using hstart, fun m hm => (hnext m).mp (h.occurs (m + 1) (by omega))⟩
  · intro h
    refine ⟨by simpa [before] using hstart, fun m hm => ?_⟩
    cases m with
    | zero => exact ⟨s, by simp⟩
    | succ m => exact (hnext m).mpr (h.occurs m (by omega))

/-- Behind a text in which no occurrence begins that could start a name, what goes is what goes in the rest. -/
lemma goneAfter_append {a : List Char} {c : Char} (hlast : a.getLast? = some c)
    (hfront : ∀ first < a.length, ¬ Reaches previous p (a ++ s) first 0) (x : Nat) :
    GoneAfter previous p (a ++ s) x ↔ a.length ≤ x ∧ GoneAfter (some c) p s (x - a.length) := by
  constructor
  · rintro ⟨first, k, hreach, hle, hlt⟩
    have hbehind : a.length ≤ first := by
      by_contra hin
      exact hfront first (by omega) ⟨hreach.starts, fun m hm => hreach.occurs m (by omega)⟩
    obtain ⟨j, rfl⟩ := Nat.exists_eq_add_of_le hbehind
    exact ⟨by omega, j, k, (reaches_append hlast s j k).mp hreach, by omega, by omega⟩
  · rintro ⟨hx, j, k, hreach, hle, hlt⟩
    exact ⟨a.length + j, k, (reaches_append hlast s j k).mpr hreach, by omega, by omega⟩

/-- Where a name can start with the first occurrence of a text, that occurrence goes, and with it what would go
if the occurrence were not there. -/
lemma goneAfter_occurrence (hp : IsWord p) (hstart : startsName previous) (x : Nat) :
    GoneAfter previous p (p ++ '.' :: s) x ↔
      x < width p ∨ width p ≤ x ∧ GoneAfter previous p s (x - width p) := by
  constructor
  · rintro ⟨first, k, hreach, hle, hlt⟩
    by_cases hx : x < width p
    · exact .inl hx
    refine .inr ⟨by omega, ?_⟩
    rcases Nat.eq_zero_or_pos first with rfl | hpos
    · -- the run begins with the first occurrence, and goes on behind it
      obtain ⟨k, rfl⟩ : ∃ j, k = j + 1 := Nat.exists_eq_succ_of_ne_zero (by rintro rfl; omega)
      rw [Nat.add_one_mul] at hle hlt
      exact ⟨0, k, (reaches_zero_succ hstart s k).mp hreach, by omega, by omega⟩
    · -- the run begins behind the first occurrence, and not directly behind it
      obtain ⟨j, rfl⟩ := Nat.exists_eq_add_of_le (hreach.width_le hp hpos)
      have hdot := (reaches_occurrence s j k).mp hreach
      have hj : 0 < j := by
        rcases Nat.eq_zero_or_pos j with rfl | hj
        · exact absurd hdot.starts (by simp [before, startsName_dot])
        · exact hj
      exact ⟨j, k, hdot.of_pos hj, by omega, by omega⟩
  · intro h
    rcases h with hx | ⟨hx, j, k, hreach, hle, hlt⟩
    · refine ⟨0, 0, ⟨by simpa [before] using hstart, fun m hm => ?_⟩, by omega, by omega⟩
      obtain rfl : m = 0 := by omega
      exact ⟨s, by simp⟩
    · rcases Nat.eq_zero_or_pos j with rfl | hj
      · refine ⟨0, k + 1, (reaches_zero_succ hstart s k).mpr hreach, ?_, ?_⟩ <;> rw [Nat.add_one_mul] <;> omega
      · exact ⟨width p + j, k, (reaches_occurrence s j k).mpr (hreach.of_pos hj), by omega, by omega⟩

end Runs

/-! ## What is left -/

section Without

variable {s a b : List Char} {gone gone' : Nat → Prop} [DecidablePred gone] [DecidablePred gone']

/-- What is left depends only on what is gone inside the text. -/
lemma without_congr (h : ∀ x < s.length, (gone x ↔ gone' x)) : without s gone = without s gone' := by
  unfold without
  congr 1
  refine List.filter_congr fun y hy => ?_
  simp [h y.2 (List.snd_lt_of_mem_zipIdx hy)]

/-- The two parts of a text are cut by themselves. -/
lemma without_append (h : s = a ++ b) :
    without s gone = without a gone ++ without b fun x => gone (a.length + x) := by
  subst h
  unfold without
  rw [List.zipIdx_append, List.filter_append, List.map_append, Nat.zero_add]
  congr 1
  rw [List.zipIdx_eq_map_add, List.filter_map, List.map_map]
  rfl

lemma without_of_gone (h : ∀ x < s.length, gone x) : without s gone = [] := by
  unfold without
  rw [List.map_eq_nil_iff, List.filter_eq_nil_iff]
  intro y hy
  simpa using h y.2 (List.snd_lt_of_mem_zipIdx hy)

lemma without_of_not_gone (h : ∀ x < s.length, ¬ gone x) : without s gone = s := by
  have hall : ∀ y ∈ s.zipIdx, decide (¬ gone y.2) = true := by
    intro y hy
    simpa using h y.2 (List.snd_lt_of_mem_zipIdx hy)
  rw [without, List.filter_eq_self.mpr hall]
  exact List.zipIdx_map_fst 0 s

end Without

/-- A text in which no occurrence begins that could start a name stays in front of what is left of the rest. -/
lemma without_goneAfter_append {p a s text : List Char} {c : Char} {previous : Option Char} (htext : text = a ++ s)
    (hlast : a.getLast? = some c) (hfront : ∀ first < a.length, ¬ Reaches previous p text first 0) :
    without text (GoneAfter previous p text) = a ++ without s (GoneAfter (some c) p s) := by
  subst htext
  have hgone := goneAfter_append hlast hfront
  rw [without_append rfl, without_of_not_gone (s := a)]
  · congr 1
    refine without_congr fun x _ => ?_
    rw [hgone]
    simp
  · intro x hx hin
    have hle := ((hgone x).mp hin).1
    omega

/-- The scan leaves out the characters of the occurrences that go, and no others. -/
lemma scan_eq_without {p : List Char} (hp : IsWord p) (previous : Option Char) (s : List Char) :
    scan p previous s = without s (GoneAfter previous p s) := by
  induction s using scan_induction p generalizing previous with
  | nil => rfl
  | occurrence s ih =>
    have hneedle : (p ++ ['.']).length = width p := by simp [width]
    have htext : p ++ '.' :: s = (p ++ ['.']) ++ s := by simp
    cases hstart : startsName previous with
    | true =>
      have hgone := goneAfter_occurrence (s := s) hp hstart
      rw [scan_occurrence hstart, ih previous, without_append htext, without_of_gone (s := p ++ ['.']),
        List.nil_append]
      · refine without_congr fun x _ => ?_
        rw [hgone, hneedle, Nat.add_sub_cancel_left, or_iff_right (by omega), and_iff_right (by omega)]
      · intro x hx
        exact (hgone x).mpr (.inl (hneedle ▸ hx))
    | false =>
      rw [scan_kept hstart, ih, without_goneAfter_append (c := '.') htext (by simp)]
      · simp
      · -- the first occurrence starts no name, and leaves no room for another one
        intro first hfirst hreach
        rcases Nat.eq_zero_or_pos first with rfl | hpos
        · have hstarts : startsName previous := by simpa [before] using hreach.starts
          rw [hstart] at hstarts
          exact Bool.noConfusion hstarts
        · have hroom := hreach.width_le hp hpos
          omega
  | other c s hc ih =>
    have htext : c :: s = [c] ++ s := rfl
    rw [scan_cons hc, ih, without_goneAfter_append htext rfl]
    · rfl
    · intro first hfirst hreach
      obtain rfl : first = 0 := by simpa using hfirst
      exact hc (by simpa [OccursAt] using hreach.occurs 0 (by omega))

/-- Where no name can start in front of a text, what is left of it begins with characters of names and dots only
when the text does, since nothing goes before another character is passed. -/
lemma prefix_of_prefix_scan {p w s : List Char} {previous : Option Char}
    (hstart : startsName previous = false) (hw : ∀ c ∈ w, joinsName c) (h : w <+: scan p previous s) :
    w <+: s := by
  induction s using scan_induction p generalizing previous w with
  | nil => exact h
  | occurrence s ih =>
    rw [scan_kept hstart, ← List.singleton_append, ← List.append_assoc] at h
    rw [← List.singleton_append, ← List.append_assoc]
    obtain ⟨t, ht⟩ := h
    rcases List.append_eq_append_iff.mp ht with ⟨u, hu, -⟩ | ⟨u, rfl, hu⟩
    · rw [hu, List.append_assoc]
      exact List.prefix_append w _
    · -- what reaches behind the occurrence is looked for behind its dot
      have hrest : ∀ c ∈ u, joinsName c := fun c hc => hw c (List.mem_append_right _ hc)
      have hprefix : u <+: s := ih startsName_dot hrest ⟨t, hu.symm⟩
      exact (List.prefix_append_right_inj _).mpr hprefix
  | other c s hc ih =>
    rw [scan_cons hc] at h
    cases w with
    | nil => exact List.nil_prefix
    | cons d w =>
      obtain ⟨rfl, hrest⟩ := List.cons_prefix_cons.mp h
      have hd : startsName (some d) = false := by simp [startsName, hw d List.mem_cons_self]
      exact List.cons_prefix_cons.mpr ⟨rfl, ih hd (fun e he => hw e (List.mem_cons_of_mem d he)) hrest⟩

lemma joinsName_of_isWordChar {c : Char} (h : isWordChar c) : joinsName c := by
  simp only [isWordChar] at h
  simp [joinsName, h]

/-- What is left mentions the qualifier nowhere: in front of a gap stands a character that belongs to no name, so
that no occurrence reaches across. -/
lemma not_mentionsAfter_scan {p : List Char} (hp : IsWord p) (previous : Option Char) (s : List Char) :
    ¬ MentionsAfter previous p (scan p previous s) := by
  induction s using scan_induction p generalizing previous with
  | nil => exact not_mentionsAfter_of_dot_notMem (by simp [scan_nil]) _ _
  | occurrence s ih =>
    cases hstart : startsName previous with
    | true =>
      rw [scan_occurrence hstart]
      exact ih previous
    | false =>
      rw [scan_kept hstart, mentionsAfter_occurrence hp, hstart]
      simpa using ih (some '.')
  | other c s hc ih =>
    rw [scan_cons hc]
    -- an occurrence at the front would begin with `c`, and stand in the text already
    have hfront : ¬ (p ++ ['.']) <+: c :: scan p (some c) s := by
      intro hprefix
      obtain ⟨d, p', rfl⟩ := List.exists_cons_of_ne_nil hp.ne_nil
      obtain ⟨rfl, hrest⟩ := List.cons_prefix_cons.mp hprefix
      have hnext : startsName (some d) = false := startsName_of_isWordChar (hp.word d List.mem_cons_self)
      have hjoins : ∀ e ∈ p' ++ ['.'], joinsName e := by
        intro e he
        rcases List.mem_append.mp he with hword | hdot
        · exact joinsName_of_isWordChar (hp.word e (List.mem_cons_of_mem d hword))
        · obtain rfl := List.mem_singleton.mp hdot
          rfl
      exact hc (List.cons_prefix_cons.mpr ⟨rfl, prefix_of_prefix_scan hnext hjoins hrest⟩)
    rw [mentionsAfter_cons hfront]
    exact ih (some c)

/-! ## Stripping -/

/-- A text mentions the qualifier where an occurrence begins at a position at which a name can start. -/
lemma mentions_iff_exists_occursAt {q text : String} :
    Mentions q text ↔
      ∃ i, OccursAt q.toList text.toList i ∧ startsName (before text.toList i) := by
  constructor
  · rintro ⟨front, rest, htext, hstarts⟩
    refine ⟨front.length, ⟨rest, ?_⟩, ?_⟩
    · rw [htext, List.append_assoc front, List.drop_left]
      simp
    · rw [before, htext, List.append_assoc front, List.take_left]
      simpa using hstarts
  · rintro ⟨i, ⟨rest, hrest⟩, hstarts⟩
    refine ⟨text.toList.take i, rest, ?_, by simpa [before] using hstarts⟩
    rw [← List.singleton_append, List.append_assoc, ← List.append_assoc q.toList, hrest, List.take_append_drop]

/-- Stripping takes out exactly the occurrences that belong to a run with which a name starts. In what is left no
occurrence starts a name, so that nothing more goes when it is stripped again. -/
theorem strip_eq_without {q : String} (hq : Naming.isIdentifier q) (text : String) :
    strip text q = String.ofList (without text.toList (GoneAt q.toList text.toList)) ∧
    (∀ i, OccursAt q.toList (strip text q).toList i →
      startsName (before (strip text q).toList i) = false) ∧
    strip (strip text q) q = strip text q := by
  have hword := isWord_of_isIdentifier hq
  have hscan := toList_strip (ne_empty_of_isIdentifier hq) text
  have hclear : ¬ Mentions q (strip text q) := by
    rw [Mentions, hscan]
    exact not_mentionsAfter_scan hword none _
  refine ⟨?_, fun i hi => ?_, (strip_eq_self_iff hq _).mpr hclear⟩
  · rw [← String.toList_inj, String.toList_ofList, hscan, scan_eq_without hword]
    exact without_congr fun x _ => goneAt_iff.symm
  · by_contra hstarts
    rw [Bool.not_eq_false] at hstarts
    exact hclear (mentions_iff_exists_occursAt.mpr ⟨i, hi, hstarts⟩)

/-- A run of two occurrences behind a space goes; one that is selected from, and one in a longer name, stay. -/
theorem strip_eq_without_store :
    Naming.isIdentifier "store" ∧
      strip "*store.store.Item, x.store.Item, bookstore.Item" "store" =
        "*Item, x.store.Item, bookstore.Item" ∧
      without "*store.store.Item, x.store.Item, bookstore.Item".toList
        (GoneAt "store".toList "*store.store.Item, x.store.Item, bookstore.Item".toList) =
          "*Item, x.store.Item, bookstore.Item".toList := by
  have hstrip : strip "*store.store.Item, x.store.Item, bookstore.Item" "store" =
      "*Item, x.store.Item, bookstore.Item" := by decide
  refine ⟨by decide, hstrip, ?_⟩
  rw [← String.ofList_inj, ← (strip_eq_without (by decide) _).1, hstrip, String.ofList_toList]

end DeclGen.Qualifier
