import DeclGen.Generate.Qualifier
import DeclGen.Naming
import DeclGen.Proofs.Unicode
import Mathlib.Data.List.Basic
import Mathlib.Tactic.Lemma

/-!
# What stripping a qualifier leaves

`Qualifier.strip` works from left to right on characters. Two things about it are settled here, so that
the texts to which it is applied can be taken apart:

* `Mentions` says, without the scan, where a text holds an occurrence that would go. A text is left as it
  is exactly when it has none (`strip_eq_self_iff`), and what is left is always a part of the text
  (`toList_strip_sublist`);
* a character that belongs to no name is a border: what stands on its two sides is stripped by itself
  (`strip_append`), and mentions of a qualifier are found on one side or on the other
  (`mentionsAfter_append_cons`).
-/

namespace DeclGen.Qualifier

/-! ## Occurrences -/

/-- In `s`, which follows the character `previous`, a name starts with `p` and a dot. -/
def MentionsAfter (previous : Option Char) (p s : List Char) : Prop :=
  ∃ before after, s = before ++ p ++ '.' :: after ∧ startsName (before.getLast?.or previous)

/-- In `s`, which follows the character `previous`, a name starts with `p` and ends with the text. -/
def ClosesAfter (previous : Option Char) (p s : List Char) : Prop :=
  ∃ before, s = before ++ p ∧ startsName (before.getLast?.or previous)

/-- Somewhere in the text a name starts with the qualifier and a dot. -/
def Mentions (qualifier text : String) : Prop :=
  MentionsAfter none qualifier.toList text.toList

/-- The last name of the text is the qualifier. -/
def Closes (qualifier text : String) : Prop :=
  ClosesAfter none qualifier.toList text.toList

/-- A character of a name, as the scan sees it. -/
def isWordChar (c : Char) : Bool := Unicode.isAlphanumeric c || c == '_'

/-- A text that can qualify names: not empty, and made of characters of names. -/
structure IsWord (p : List Char) : Prop where
  ne_nil : p ≠ []
  word : ∀ c ∈ p, isWordChar c

lemma isWordChar_dot : isWordChar '.' = false := by decide

lemma isWordChar_lowLine : isWordChar '_' = true := by decide

lemma isWordChar_of_isDigit {c : Char} (h : c.isDigit) : isWordChar c :=
  Unicode.of_isDigit isWordChar (by decide) h

/-- A character that does not join a name belongs to none. -/
lemma isWordChar_of_joinsName {c : Char} (h : joinsName c = false) : isWordChar c = false := by
  simp only [joinsName, Bool.or_eq_false_iff] at h
  simp [isWordChar, h.1.1, h.1.2]

/-- After a character of a name no other name can start. -/
lemma startsName_of_isWordChar {c : Char} (h : isWordChar c) : startsName (some c) = false := by
  simp only [isWordChar] at h
  simp [startsName, joinsName, h]

lemma startsName_dot : startsName (some '.') = false := by
  simp [startsName, joinsName]

namespace IsWord

variable {p : List Char}

lemma notMem (hp : IsWord p) {c : Char} (hc : isWordChar c = false) : c ∉ p := by
  intro hmem
  rw [hp.word c hmem] at hc
  exact Bool.noConfusion hc

lemma dot_notMem (hp : IsWord p) : '.' ∉ p := hp.notMem isWordChar_dot

end IsWord

/-- An identifier can qualify names. -/
lemma isWord_of_isIdentifier {p : String} (h : Naming.isIdentifier p) : IsWord p.toList := by
  unfold Naming.isIdentifier at h
  split at h
  · simp at h
  · rename_i c rest hlist
    rw [hlist]
    rw [Bool.and_eq_true, List.all_eq_true] at h
    refine ⟨by simp, fun d hd => ?_⟩
    rcases List.mem_cons.mp hd with rfl | hd
    · have hfirst := h.1
      simp only [isWordChar, Unicode.isAlphanumeric, Bool.or_eq_true] at hfirst ⊢
      rcases hfirst with halpha | hlow
      · exact .inl (.inl halpha)
      · exact .inr hlow
    · exact h.2 d hd

lemma getLast?_append_cons_or (a b : List Char) (c : Char) (previous : Option Char) :
    (a ++ c :: b).getLast?.or previous = b.getLast?.or (some c) := by
  rw [List.getLast?_append, List.getLast?_cons]
  cases b.getLast? <;> rfl

/-- An occurrence of `p.` in a text lies on one side of a character that `p` does not hold, or the
character is its dot. -/
lemma mentionsAfter_append_cons {p : List Char} {c : Char} (hc : c ∉ p) (previous : Option Char)
    (a b : List Char) :
    MentionsAfter previous p (a ++ c :: b) ↔
      MentionsAfter previous p a ∨ (c = '.' ∧ ClosesAfter previous p a) ∨
        MentionsAfter (some c) p b := by
  constructor
  · rintro ⟨before, after, heq, hstart⟩
    rcases List.append_eq_append_iff.mp heq with ⟨t, hleft, hright⟩ | ⟨t, hleft, hright⟩
    · -- the dot stands behind `a`
      cases t with
      | nil =>
        obtain ⟨rfl, rfl⟩ : c = '.' ∧ b = after := by simpa using hright
        exact .inr (.inl ⟨rfl, before, by simpa using hleft.symm, hstart⟩)
      | cons d t =>
        obtain ⟨rfl, hb⟩ : c = d ∧ b = t ++ '.' :: after := by simpa using hright
        rcases List.append_eq_append_iff.mp hleft with ⟨u, -, hu⟩ | ⟨u, hu, hrest⟩
        · exact absurd (by rw [hu]; simp) hc
        · cases u with
          | nil => exact absurd (by rw [← List.nil_append p, ← hrest]; simp) hc
          | cons e u =>
            obtain ⟨rfl, rfl⟩ : c = e ∧ t = u ++ p := by simpa using hrest
            refine .inr (.inr ⟨u, after, hb, ?_⟩)
            rwa [hu, getLast?_append_cons_or] at hstart
    · -- the dot stands in `a`, or is `c`
      cases t with
      | nil =>
        obtain ⟨rfl, rfl⟩ : '.' = c ∧ after = b := by simpa using hright
        exact .inr (.inl ⟨rfl, before, by simpa using hleft, hstart⟩)
      | cons d t =>
        obtain ⟨rfl, -⟩ : '.' = d ∧ after = t ++ c :: b := by simpa using hright
        exact .inl ⟨before, t, hleft, hstart⟩
  · rintro (⟨before, after, rfl, hstart⟩ | ⟨rfl, before, rfl, hstart⟩ | ⟨before, after, rfl, hstart⟩)
    · exact ⟨before, after ++ c :: b, by simp, hstart⟩
    · exact ⟨before, b, by simp, hstart⟩
    · refine ⟨a ++ c :: before, after, by simp, ?_⟩
      rwa [getLast?_append_cons_or]

/-- A text without a dot mentions nothing. -/
lemma not_mentionsAfter_of_dot_notMem {s : List Char} (h : '.' ∉ s) (previous : Option Char)
    (p : List Char) : ¬ MentionsAfter previous p s := by
  rintro ⟨before, after, rfl, -⟩
  exact h (by simp)

/-- A word closes with the qualifier only when it is the qualifier and a name can start where it
does. -/
lemma closesAfter_word_iff {p w : List Char} (hp : IsWord p) (hw : ∀ c ∈ w, isWordChar c)
    (previous : Option Char) : ClosesAfter previous p w ↔ w = p ∧ startsName previous := by
  constructor
  · rintro ⟨before, rfl, hstart⟩
    rcases List.eq_nil_or_concat before with rfl | ⟨t, c, rfl⟩
    · exact ⟨rfl, hstart⟩
    · have hc : startsName (some c) = false := startsName_of_isWordChar (hw c (by simp))
      simp [hc] at hstart
  · rintro ⟨rfl, hstart⟩
    exact ⟨[], by simp, hstart⟩

/-- A mention after one character is a mention after any at which more names can start. -/
lemma MentionsAfter.of_startsName {previous previous' : Option Char} {p s : List Char}
    (h : MentionsAfter previous p s) (hle : startsName previous → startsName previous') :
    MentionsAfter previous' p s := by
  obtain ⟨before, after, rfl, hstart⟩ := h
  refine ⟨before, after, rfl, ?_⟩
  cases hlast : before.getLast? with
  | none => exact hle (by simpa [hlast] using hstart)
  | some c => simpa [hlast] using hstart

/-! ## The scan -/

/-- The scan of a text that follows the character `previous`. -/
def scan (p : List Char) (previous : Option Char) (s : List Char) : List Char :=
  stripAfter (p ++ ['.']) false previous 0 s

lemma toList_strip {qualifier : String} (h : qualifier ≠ "") (text : String) :
    (strip text qualifier).toList = scan qualifier.toList none text.toList := by
  simp [strip, h, scan]

lemma stripAfter_dropping (needle : List Char) (previous : Option Char) (a s : List Char) :
    stripAfter needle false previous a.length (a ++ s) = stripAfter needle false previous 0 s := by
  induction a with
  | nil => rfl
  | cons c a ih => simpa [stripAfter] using ih

lemma stripAfter_keeping (needle : List Char) (previous : Option Char) (a s : List Char) :
    stripAfter needle true previous a.length (a ++ s) =
      a ++ stripAfter needle true (a.getLast?.or previous) 0 s := by
  induction a generalizing previous with
  | nil => rfl
  | cons c a ih =>
    have hlast : (c :: a).getLast?.or previous = a.getLast?.or (some c) := by
      rw [List.getLast?_cons]
      cases a.getLast? <;> rfl
    rw [hlast, List.length_cons, List.cons_append, List.cons_append, ← ih (some c)]
    rfl

/-- Between two occurrences it does not matter how the last one was dealt with. -/
lemma stripAfter_zero (needle : List Char) (keep : Bool) (previous : Option Char) (s : List Char) :
    stripAfter needle keep previous 0 s = stripAfter needle false previous 0 s := by
  cases s with
  | nil => rfl
  | cons c s =>
    have ih := fun d => stripAfter_zero needle keep (some d) s
    simp only [stripAfter]
    rw [ih]

section Equations

variable {p : List Char} {previous : Option Char}

lemma scan_nil : scan p previous [] = [] := rfl

/-- An occurrence at which a name starts goes. -/
lemma scan_occurrence (h : startsName previous) (s : List Char) :
    scan p previous (p ++ '.' :: s) = scan p previous s := by
  obtain ⟨c, n, hn⟩ : ∃ c n, p ++ ['.'] = c :: n := by cases p <;> simp
  have htext : p ++ '.' :: s = c :: (n ++ s) := by
    rw [← List.cons_append, ← hn]
    simp
  rw [scan, scan, hn, htext, stripAfter, if_pos (by simp), if_pos h]
  exact stripAfter_dropping _ _ n s

/-- Any other occurrence stays. -/
lemma scan_kept (h : startsName previous = false) (s : List Char) :
    scan p previous (p ++ '.' :: s) = p ++ '.' :: scan p (some '.') s := by
  obtain ⟨c, n, hn⟩ : ∃ c n, p ++ ['.'] = c :: n := by cases p <;> simp
  have htext : ∀ t, p ++ '.' :: t = c :: (n ++ t) := by
    intro t
    rw [← List.cons_append, ← hn]
    simp
  have hlast : n.getLast?.or (some c) = some '.' := by
    rw [← getLast?_append_cons_or [] n c none, List.nil_append, ← hn]
    simp
  rw [scan, scan, hn, htext, htext, stripAfter, if_pos (by simp), if_neg (by simp [h])]
  rw [show (c :: n).length - 1 = n.length from rfl, stripAfter_keeping, hlast, stripAfter_zero]

/-- A character with which no occurrence begins is kept. -/
lemma scan_cons {c : Char} {s : List Char} (h : ¬ (p ++ ['.']) <+: c :: s) :
    scan p previous (c :: s) = c :: scan p (some c) s := by
  rw [scan, stripAfter, if_neg (by rwa [List.isPrefixOf_iff_prefix])]
  rfl

/-- A character that the qualifier does not begin with is kept. -/
lemma scan_cons_of_notMem {c : Char} (hp : p ≠ []) (hc : c ∉ p) (s : List Char) :
    scan p previous (c :: s) = c :: scan p (some c) s := by
  apply scan_cons
  cases p with
  | nil => exact absurd rfl hp
  | cons d p =>
    rw [List.cons_append, List.cons_prefix_cons]
    rintro ⟨rfl, -⟩
    exact hc (by simp)

/-- Characters that the qualifier does not hold are kept. -/
lemma scan_append_of_notMem (hp : p ≠ []) {a : List Char} (ha : ∀ c ∈ a, c ∉ p) (s : List Char) :
    scan p previous (a ++ s) = a ++ scan p (a.getLast?.or previous) s := by
  induction a generalizing previous with
  | nil => rfl
  | cons c a ih =>
    have hrest : ∀ d ∈ a, d ∉ p := fun d hd => ha d (List.mem_cons_of_mem c hd)
    have hlast := getLast?_append_cons_or [] a c previous
    rw [List.nil_append] at hlast
    rw [List.cons_append, scan_cons_of_notMem hp (ha c List.mem_cons_self), ih hrest, hlast]
    rfl

end Equations

/-- What holds of a text one occurrence shorter, or one character shorter where no occurrence begins,
holds of all texts. -/
lemma scan_induction (p : List Char) {motive : List Char → Prop} (nil : motive [])
    (occurrence : ∀ s, motive s → motive (p ++ '.' :: s))
    (other : ∀ c s, ¬ (p ++ ['.']) <+: c :: s → motive s → motive (c :: s)) (s : List Char) :
    motive s := by
  induction hlen : s.length using Nat.strongRecOn generalizing s with
  | _ n ih =>
    cases s with
    | nil => exact nil
    | cons c s =>
      by_cases h : (p ++ ['.']) <+: c :: s
      · obtain ⟨t, ht⟩ := h
        have htext : c :: s = p ++ '.' :: t := by simpa using ht.symm
        rw [htext]
        refine occurrence t (ih t.length ?_ t rfl)
        rw [← hlen, htext, List.length_append, List.length_cons]
        omega
      · exact other c s h (ih s.length (by simp [← hlen]) s rfl)

/-! ## What is left of a text -/

/-- The mentions in a text that begins with an occurrence. -/
lemma mentionsAfter_occurrence {p : List Char} (hp : IsWord p) (previous : Option Char)
    (s : List Char) :
    MentionsAfter previous p (p ++ '.' :: s) ↔
      startsName previous ∨ MentionsAfter (some '.') p s := by
  rw [mentionsAfter_append_cons hp.dot_notMem, closesAfter_word_iff hp hp.word]
  simp [not_mentionsAfter_of_dot_notMem hp.dot_notMem]

/-- The mentions in a text that does not begin with an occurrence are those behind its first
character. -/
lemma mentionsAfter_cons {p s : List Char} {c : Char} (h : ¬ (p ++ ['.']) <+: c :: s)
    (previous : Option Char) : MentionsAfter previous p (c :: s) ↔ MentionsAfter (some c) p s := by
  constructor
  · rintro ⟨before, after, heq, hstart⟩
    cases before with
    | nil => exact absurd ⟨after, by simpa using heq.symm⟩ h
    | cons d before =>
      obtain ⟨rfl, rfl⟩ : c = d ∧ s = before ++ p ++ '.' :: after := by simpa using heq
      refine ⟨before, after, rfl, ?_⟩
      rwa [← List.nil_append (c :: before), getLast?_append_cons_or] at hstart
  · rintro ⟨before, after, rfl, hstart⟩
    refine ⟨c :: before, after, by simp, ?_⟩
    rwa [← List.nil_append (c :: before), getLast?_append_cons_or]

/-- The scan only leaves characters out. -/
lemma scan_sublist (p : List Char) (previous : Option Char) (s : List Char) :
    (scan p previous s).Sublist s := by
  induction s using scan_induction p generalizing previous with
  | nil => exact List.Sublist.refl _
  | occurrence s ih =>
    cases hstart : startsName previous with
    | true =>
      rw [scan_occurrence hstart]
      exact (ih previous).trans ((List.sublist_cons_self _ _).trans (List.sublist_append_right _ _))
    | false =>
      rw [scan_kept hstart]
      exact ((ih _).cons_cons '.').append_left p
  | other c s hc ih =>
    rw [scan_cons hc]
    exact (ih _).cons_cons c

/-- The scan leaves a text as it is exactly when the text holds no mention. -/
lemma scan_eq_self_iff {p : List Char} (hp : IsWord p) (previous : Option Char) (s : List Char) :
    scan p previous s = s ↔ ¬ MentionsAfter previous p s := by
  induction s using scan_induction p generalizing previous with
  | nil => simp [scan_nil, not_mentionsAfter_of_dot_notMem]
  | occurrence s ih =>
    rw [mentionsAfter_occurrence hp]
    cases hstart : startsName previous with
    | true =>
      rw [scan_occurrence hstart]
      -- a text from which an occurrence goes becomes shorter
      have hlen : (scan p previous s).length ≤ s.length := (scan_sublist p previous s).length_le
      have hne : scan p previous s ≠ p ++ '.' :: s := by
        intro heq
        rw [heq, List.length_append, List.length_cons] at hlen
        omega
      simp [hne]
    | false =>
      rw [scan_kept hstart]
      simpa using ih (some '.')
  | other c s hc ih =>
    rw [scan_cons hc, mentionsAfter_cons hc]
    simpa using ih (some c)

/-- The scan depends on the character in front only by whether a name can start after it. -/
lemma scan_congr (p : List Char) {previous previous' : Option Char}
    (h : startsName previous = startsName previous') (s : List Char) :
    scan p previous s = scan p previous' s := by
  induction s using scan_induction p with
  | nil => rfl
  | occurrence s ih =>
    cases hstart : startsName previous with
    | true => rw [scan_occurrence hstart, scan_occurrence (h ▸ hstart), ih]
    | false => rw [scan_kept hstart, scan_kept (h ▸ hstart)]
  | other c s hc _ => rw [scan_cons hc, scan_cons hc]

/-- The two sides of a character that belongs to no name are scanned by themselves. -/
lemma scan_append_cons {p : List Char} (hp : IsWord p) {c : Char} (hc : joinsName c = false)
    (previous : Option Char) (a b : List Char) :
    scan p previous (a ++ c :: b) = scan p previous a ++ c :: scan p none b := by
  have hmem : c ∉ p := hp.notMem (isWordChar_of_joinsName hc)
  have hborder : startsName (some c) = startsName none := by simp [startsName, hc]
  induction a using scan_induction p generalizing previous with
  | nil =>
    rw [List.nil_append, scan_cons_of_notMem hp.ne_nil hmem, scan_congr p hborder]
    rfl
  | occurrence a ih =>
    rw [List.append_assoc, List.cons_append]
    cases hstart : startsName previous with
    | true => rw [scan_occurrence hstart, scan_occurrence hstart, ih]
    | false =>
      rw [scan_kept hstart, scan_kept hstart, ih]
      simp
  | other d a hd ih =>
    -- an occurrence that begins on the left would hold `c`
    have hd' : ¬ (p ++ ['.']) <+: d :: (a ++ c :: b) := by
      rintro ⟨t, ht⟩
      rw [← List.cons_append, List.append_eq_append_iff] at ht
      rcases ht with ⟨u, hu, -⟩ | ⟨u, hu, hrest⟩
      · exact hd ⟨u, hu.symm⟩
      · cases u with
        | nil => exact hd ⟨[], by simpa using hu⟩
        | cons e u =>
          obtain ⟨rfl, -⟩ : c = e ∧ b = u ++ t := by simpa using hrest
          have hin : c ∈ p ++ ['.'] := by rw [hu]; simp
          rcases List.mem_append.mp hin with h | h
          · exact hmem h
          · rw [List.mem_singleton] at h
            simp [h, joinsName] at hc
    rw [List.cons_append, scan_cons hd', scan_cons hd, ih]
    rfl

/-- An occurrence that stays in front of a scanned text does not give back the text. -/
lemma scan_kept_ne {p : List Char} (s : List Char) : p ++ '.' :: scan p (some '.') s ≠ s := by
  intro heq
  induction hlen : s.length using Nat.strongRecOn generalizing s with
  | _ n ih =>
    -- what is left of the text solves the same equation, and is shorter
    have hstep : p ++ '.' :: scan p (some '.') (scan p (some '.') s) = scan p (some '.') s := by
      conv_rhs => rw [← heq, scan_kept startsName_dot]
    have hshort : (scan p (some '.') s).length < s.length := by
      have hlength := congrArg List.length heq
      rw [List.length_append, List.length_cons] at hlength
      omega
    exact ih _ (hlen ▸ hshort) _ hstep rfl

/-! ## Texts -/

section Texts

variable {q : String}

lemma ne_empty_of_isIdentifier (hq : Naming.isIdentifier q) : q ≠ "" := by
  rintro rfl
  exact absurd hq (by decide)

/-- Stripping only leaves characters out. -/
theorem toList_strip_sublist (text q : String) : (strip text q).toList.Sublist text.toList := by
  by_cases hq : q = ""
  · simp [strip, hq]
  · rw [toList_strip hq]
    exact scan_sublist _ _ _

/-- Stripping leaves a text as it is exactly when the text mentions the qualifier nowhere. -/
theorem strip_eq_self_iff (hq : Naming.isIdentifier q) (text : String) :
    strip text q = text ↔ ¬ Mentions q text := by
  rw [← String.toList_inj, toList_strip (ne_empty_of_isIdentifier hq)]
  exact scan_eq_self_iff (isWord_of_isIdentifier hq) none text.toList

/-- A text that is empty or ends in a character that belongs to no name. -/
def EndsClear (text : String) : Prop :=
  text = "" ∨ ∃ s c, text.toList = s ++ [c] ∧ joinsName c = false

/-- A text that is empty or begins with a character that belongs to no name. -/
def StartsClear (text : String) : Prop :=
  text = "" ∨ ∃ c s, text.toList = c :: s ∧ joinsName c = false

lemma EndsClear.append {b : String} (hb : EndsClear b) (hne : b ≠ "") (a : String) :
    EndsClear (a ++ b) := by
  obtain ⟨s, c, hs, hc⟩ := hb.resolve_left hne
  exact .inr ⟨a.toList ++ s, c, by simp [hs], hc⟩

lemma StartsClear.append {a : String} (ha : StartsClear a) (hne : a ≠ "") (b : String) :
    StartsClear (a ++ b) := by
  obtain ⟨c, s, hs, hc⟩ := ha.resolve_left hne
  exact .inr ⟨c, s ++ b.toList, by simp [hs], hc⟩

/-- Two texts are stripped by themselves when a character that belongs to no name parts them. -/
theorem strip_append (hq : Naming.isIdentifier q) {a b : String} (h : EndsClear a ∨ StartsClear b) :
    strip (a ++ b) q = strip a q ++ strip b q := by
  have hword := isWord_of_isIdentifier hq
  have hne := ne_empty_of_isIdentifier hq
  rw [← String.toList_inj, String.toList_append, toList_strip hne, toList_strip hne, toList_strip hne,
    String.toList_append]
  -- the border is the last character of `a` or the first of `b`, if the text is not empty
  rcases h with (rfl | ⟨s, c, hs, hc⟩) | (rfl | ⟨c, s, hs, hc⟩)
  · rfl
  · rw [hs, List.append_assoc, List.singleton_append, scan_append_cons hword hc,
      scan_append_cons hword hc, scan_nil]
    simp
  · simp [scan_nil]
  · rw [hs, scan_append_cons hword hc, ← List.nil_append (c :: s), scan_append_cons hword hc, scan_nil]
    rfl

/-- Two parts of two texts make up the whole only when each is the whole of its text. -/
lemma append_eq_append_iff_of_sublist {a a' b b' : String} (ha : a.toList.Sublist a'.toList)
    (hb : b.toList.Sublist b'.toList) : a ++ b = a' ++ b' ↔ a = a' ∧ b = b' := by
  constructor
  · intro heq
    have hlists := congrArg String.toList heq
    rw [String.toList_append, String.toList_append] at hlists
    have hla := ha.length_le
    have hlb := hb.length_le
    have hlength := congrArg List.length hlists
    rw [List.length_append, List.length_append] at hlength
    have hparts := List.append_inj hlists (by omega)
    exact ⟨String.toList_inj.mp hparts.1, String.toList_inj.mp hparts.2⟩
  · rintro ⟨rfl, rfl⟩
    rfl

/-- Mentions in a text that a character that belongs to no name parts are mentions on one side. -/
theorem mentions_append (hq : Naming.isIdentifier q) {a b : String}
    (h : EndsClear a ∨ StartsClear b) : Mentions q (a ++ b) ↔ Mentions q a ∨ Mentions q b := by
  rw [← not_iff_not, not_or, ← strip_eq_self_iff hq, ← strip_eq_self_iff hq, ← strip_eq_self_iff hq,
    strip_append hq h]
  exact append_eq_append_iff_of_sublist (toList_strip_sublist a q) (toList_strip_sublist b q)

lemma not_mentions_of_dot_notMem {text : String} (h : '.' ∉ text.toList) (q : String) :
    ¬ Mentions q text :=
  not_mentionsAfter_of_dot_notMem h none q.toList

/-- In front of a dot the last name of a text counts too. -/
lemma mentions_dot (hq : Naming.isIdentifier q) (text : String) :
    Mentions q (text ++ ".") ↔ Mentions q text ∨ Closes q text := by
  have hdot : (text ++ ".").toList = text.toList ++ '.' :: [] := by simp
  have hnil : ¬ MentionsAfter (some '.') q.toList [] := not_mentionsAfter_of_dot_notMem (by simp) _ _
  rw [Mentions, hdot, mentionsAfter_append_cons (isWord_of_isIdentifier hq).dot_notMem]
  simp [Mentions, Closes, hnil]

/-- The mentions on the two sides of a dot. -/
lemma mentions_append_dot (hq : Naming.isIdentifier q) (text rest : String) :
    Mentions q (text ++ "." ++ rest) ↔
      Mentions q (text ++ ".") ∨ MentionsAfter (some '.') q.toList rest.toList := by
  have hdot : (text ++ "." ++ rest).toList = text.toList ++ '.' :: rest.toList := by simp
  rw [mentions_dot hq, Mentions, hdot,
    mentionsAfter_append_cons (isWord_of_isIdentifier hq).dot_notMem]
  simp [Mentions, Closes, or_assoc]

/-- A text of characters of names, which may be empty. -/
def WordText (text : String) : Prop := ∀ c ∈ text.toList, isWordChar c

instance : DecidablePred WordText := fun text =>
  List.decidableBAll (fun c => isWordChar c = true) text.toList

lemma wordText_append {a b : String} : WordText (a ++ b) ↔ WordText a ∧ WordText b := by
  simp [WordText, or_imp, forall_and]

/-- A word mentions nothing. -/
lemma WordText.not_mentions {word : String} (hw : WordText word) (q : String) : ¬ Mentions q word :=
  not_mentions_of_dot_notMem (fun h => by simpa [isWordChar_dot] using hw '.' h) q

/-- A word closes with the qualifier only when it is the qualifier. -/
lemma closes_word_iff (hq : Naming.isIdentifier q) {word : String} (hw : WordText word) :
    Closes q word ↔ word = q := by
  rw [Closes, closesAfter_word_iff (isWord_of_isIdentifier hq) hw, String.toList_inj]
  simp [startsName]

/-- A text without a dot after which a name can start. -/
def isLead (text : String) : Bool :=
  !text.toList.contains '.' && text.toList.getLast?.any (!joinsName ·)

/-- A text without a dot before which a name ends. -/
def isTrail (text : String) : Bool :=
  !text.toList.contains '.' && text.toList.head?.any (!joinsName ·)

lemma dot_notMem_of_isLead {text : String} (h : isLead text) : '.' ∉ text.toList := by
  rw [isLead, Bool.and_eq_true] at h
  simpa using h.1

lemma dot_notMem_of_isTrail {text : String} (h : isTrail text) : '.' ∉ text.toList := by
  rw [isTrail, Bool.and_eq_true] at h
  simpa using h.1

lemma endsClear_of_isLead {text : String} (h : isLead text) : EndsClear text := by
  rw [isLead, Bool.and_eq_true] at h
  rcases List.eq_nil_or_concat text.toList with hnil | ⟨s, c, hs⟩
  · simp [hnil] at h
  · rw [List.concat_eq_append] at hs
    exact .inr ⟨s, c, hs, by simpa [hs] using h.2⟩

lemma startsClear_of_isTrail {text : String} (h : isTrail text) : StartsClear text := by
  rw [isTrail, Bool.and_eq_true] at h
  cases hs : text.toList with
  | nil => simp [hs] at h
  | cons c s => exact .inr ⟨c, s, hs, by simpa [hs] using h.2⟩

/-- Such a text in front adds no mention. -/
lemma mentions_lead (hq : Naming.isIdentifier q) {lead : String} (h : isLead lead) (text : String) :
    Mentions q (lead ++ text) ↔ Mentions q text := by
  rw [mentions_append hq (.inl (endsClear_of_isLead h)),
    or_iff_right (not_mentions_of_dot_notMem (dot_notMem_of_isLead h) q)]

/-- Such a text behind adds no mention. -/
lemma mentions_trail (hq : Naming.isIdentifier q) {trail : String} (h : isTrail trail)
    (text : String) : Mentions q (text ++ trail) ↔ Mentions q text := by
  rw [mentions_append hq (.inr (startsClear_of_isTrail h)),
    or_iff_left (not_mentions_of_dot_notMem (dot_notMem_of_isTrail h) q)]

/-- Around such a text the mentions are those on its two sides. -/
lemma mentions_gap (hq : Naming.isIdentifier q) {gap : String} (h : isTrail gap ∧ isLead gap)
    (a b : String) : Mentions q (a ++ gap ++ b) ↔ Mentions q a ∨ Mentions q b := by
  have hne : gap ≠ "" := by
    rintro rfl
    simp [isTrail] at h
  rw [String.append_assoc,
    mentions_append hq (.inr ((startsClear_of_isTrail h.1).append hne b)), mentions_lead hq h.2]

/-- Further dots add no mention. -/
lemma mentions_dots (hq : Naming.isIdentifier q) (text : String) :
    Mentions q (text ++ "...") ↔ Mentions q (text ++ ".") := by
  have hword := isWord_of_isIdentifier hq
  -- two dots have no room for a word
  have hdots : ¬ MentionsAfter (some '.') q.toList "..".toList := by
    rintro ⟨before, after, heq, -⟩
    obtain ⟨c, hc⟩ := List.exists_mem_of_ne_nil _ hword.ne_nil
    have hmem : c ∈ "..".toList := by
      rw [heq]
      simp [hc]
    obtain rfl : c = '.' := by simpa using hmem
    exact hword.dot_notMem hc
  have hsplit : text ++ "..." = text ++ "." ++ ".." := by
    rw [String.append_assoc]
    rfl
  rw [hsplit, mentions_append_dot hq, or_iff_left hdots]

/-- A word in front of a dot is a mention when it is the qualifier. -/
lemma mentions_word_dot (hq : Naming.isIdentifier q) {word : String} (hw : WordText word) :
    Mentions q (word ++ ".") ↔ word = q := by
  rw [mentions_dot hq, closes_word_iff hq hw, or_iff_right (hw.not_mentions q)]

end Texts

end DeclGen.Qualifier
