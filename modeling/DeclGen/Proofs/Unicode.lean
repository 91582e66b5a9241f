import DeclGen.Unicode.Blank
import DeclGen.Unicode.Identifier
import DeclGen.Unicode.Numeral
import Mathlib.Data.List.DropRight
import Mathlib.Tactic.Lemma

/-!
# Sets of characters

A character is in a set exactly when it lies in one of its ranges, so that one set is known to hold another as
soon as the ranges of the one lie in those of the other (`RangeSet.contains_of_isWithin`). This is a comparison
of two tables, and it is how the characters that open a name are found among those that continue one. Digits
are so few that they are looked up one by one (`of_isDigit`).
-/

namespace DeclGen.Unicode

/-! ## Ranges -/

namespace RangeSet

/-- The ranges begin in increasing order. -/
def isAscending : List (Nat × Nat) → Bool
  | r :: r' :: rest => r.1 ≤ r'.1 && isAscending (r' :: rest)
  | _ => true

/-- Every one of the inner ranges lies in one of the others: each of these takes away the next inner ranges that
lie in it, and none is left. -/
def isWithin : List (Nat × Nat) → List (Nat × Nat) → Bool
  | inner, [] => inner.isEmpty
  | inner, r :: rest => isWithin (inner.dropWhile fun q => r.1 ≤ q.1 && q.2 ≤ r.2) rest

variable {n : Nat} {ranges inner : List (Nat × Nat)}

lemma exists_of_search (h : search n ranges) : ∃ r ∈ ranges, r.1 ≤ n ∧ n ≤ r.2 := by
  induction ranges with
  | nil => exact absurd h Bool.false_ne_true
  | cons r rest ih =>
    obtain ⟨lo, hi⟩ := r
    rw [search] at h
    split at h
    · exact absurd h Bool.false_ne_true
    next hlo =>
    rw [Bool.or_eq_true, decide_eq_true_eq] at h
    rcases h with h | h
    · exact ⟨(lo, hi), List.mem_cons_self, by dsimp only; omega, h⟩
    · obtain ⟨r, hr, hn⟩ := ih h
      exact ⟨r, List.mem_cons_of_mem _ hr, hn⟩

/-- Ascending ranges begin behind the beginning of the first one. -/
lemma fst_le_of_isAscending {r q : Nat × Nat} (h : isAscending (r :: ranges)) (hq : q ∈ ranges) :
    r.1 ≤ q.1 := by
  induction ranges generalizing r with
  | nil => exact absurd hq List.not_mem_nil
  | cons r' rest ih =>
    rw [isAscending, Bool.and_eq_true, decide_eq_true_eq] at h
    rcases List.mem_cons.mp hq with rfl | hq
    · exact h.1
    · exact Nat.le_trans h.1 (ih h.2 hq)

lemma search_cons_of_mem {lo hi : Nat} (hlo : lo ≤ n) (hhi : n ≤ hi) (rest : List (Nat × Nat)) :
    search n ((lo, hi) :: rest) := by
  simp [search, Nat.not_lt.mpr hlo, hhi]

lemma search_of_mem (h : isAscending ranges) {r : Nat × Nat} (hr : r ∈ ranges) (hlo : r.1 ≤ n)
    (hhi : n ≤ r.2) : search n ranges := by
  induction ranges with
  | nil => exact absurd hr List.not_mem_nil
  | cons q rest ih =>
    have hrest : isAscending rest := by
      cases rest with
      | nil => rfl
      | cons q' rest =>
        rw [isAscending, Bool.and_eq_true] at h
        exact h.2
    rcases List.mem_cons.mp hr with rfl | hr
    · exact search_cons_of_mem hlo hhi rest
    · have hbegin := Nat.le_trans (fst_le_of_isAscending h hr) hlo
      simp [search, Nat.not_lt_of_le hbegin, ih hrest hr]

lemma exists_of_isWithin (h : isWithin inner ranges) {q : Nat × Nat} (hq : q ∈ inner) :
    ∃ r ∈ ranges, r.1 ≤ q.1 ∧ q.2 ≤ r.2 := by
  induction ranges generalizing inner with
  | nil =>
    rw [isWithin, List.isEmpty_iff] at h
    exact absurd (h ▸ hq) List.not_mem_nil
  | cons r rest ih =>
    rw [isWithin] at h
    rw [← List.takeWhile_append_dropWhile (p := fun q : Nat × Nat => r.1 ≤ q.1 && q.2 ≤ r.2) (l := inner),
      List.mem_append] at hq
    rcases hq with hq | hq
    · have hin := List.all_eq_true.mp List.all_takeWhile q hq
      rw [Bool.and_eq_true, decide_eq_true_eq, decide_eq_true_eq] at hin
      exact ⟨r, List.mem_cons_self, hin⟩
    · obtain ⟨r', hr', hin⟩ := ih h hq
      exact ⟨r', List.mem_cons_of_mem r hr', hin⟩

/-- A set holds what a set within it holds. -/
lemma contains_of_isWithin {s s' : RangeSet} (hascending : isAscending s'.ranges)
    (hwithin : isWithin s.ranges s'.ranges) {c : Char} (h : s.contains c) : s'.contains c := by
  obtain ⟨q, hq, hlo, hhi⟩ := exists_of_search h
  obtain ⟨r, hr, hfirst, hlast⟩ := exists_of_isWithin hwithin hq
  exact search_of_mem hascending hr (Nat.le_trans hfirst hlo) (Nat.le_trans hhi hlast)

end RangeSet

/-! ## Characters of names -/

/-- What may open a name may also continue it. -/
lemma isNamePart_of_isNameStart {c : Char} (h : isNameStart c) : isNamePart c := by
  unfold isNameStart at h
  unfold isNamePart
  rw [Bool.or_eq_true] at h ⊢
  exact h.imp_right (RangeSet.contains_of_isWithin (by decide +kernel) (by decide +kernel))

/-! ## Letters, numbers and digits -/

/-- A letter or a number is no other character. -/
lemma ne_of_isAlphanumeric {c d : Char} (h : isAlphanumeric c) (hd : isAlphanumeric d = false) : c ≠ d := by
  rintro rfl
  exact Bool.false_ne_true (hd.symm.trans h)

/-- What holds of ten characters holds of every digit. -/
lemma of_isDigit (p : Char → Bool) (hall : ∀ n < 10, p (Char.ofNat (n + 48))) {c : Char} (h : c.isDigit) :
    p c := by
  have hrange : 48 ≤ c.toNat ∧ c.toNat ≤ 57 := by
    simp only [Char.isDigit, Bool.and_eq_true, decide_eq_true_eq, ge_iff_le,
      UInt32.le_iff_toNat_le] at h
    exact h
  have hdigit := hall (c.toNat - 48) (by omega)
  rwa [Nat.sub_add_cancel hrange.1, Char.ofNat_toNat] at hdigit

/-- What holds of no digit tells a character from the digits. -/
lemma isDigit_eq_false (p : Char → Bool) (hall : ∀ n < 10, !p (Char.ofNat (n + 48))) {c : Char} (h : p c) :
    c.isDigit = false := by
  rw [← Bool.not_eq_true]
  intro hdigit
  have hnot := of_isDigit (!p ·) hall hdigit
  simp [h] at hnot

lemma isDigit_of_isAlphabetic {c : Char} (h : isAlphabetic c) : c.isDigit = false :=
  isDigit_eq_false isAlphabetic (by decide) h

lemma isDigit_of_isNameStart {c : Char} (h : isNameStart c) : c.isDigit = false :=
  isDigit_eq_false isNameStart (by decide) h

/-- Every digit can stand in a name. -/
lemma isNamePart_of_isDigit {c : Char} (h : c.isDigit) : isNamePart c := of_isDigit isNamePart (by decide) h

/-! ## White space -/

/-- What is trimmed begins with no white space. -/
lemma isBlank_head?_trim {s : List Char} {c : Char} (h : c ∈ (trim s).head?) :
    isBlank c = false := by
  -- trimming at the end leaves a beginning of what was trimmed at the start
  obtain ⟨rest, hrest⟩ : trim s <+: s.dropWhile isBlank := List.rdropWhile_prefix _ _
  have hhead : (s.dropWhile isBlank).head? = some c := by
    rw [← hrest, List.head?_append, Option.mem_def.mp h]
    rfl
  have hfirst := List.head?_dropWhile_not isBlank s
  rw [hhead] at hfirst
  exact hfirst

/-- What is trimmed ends with no white space. -/
lemma isBlank_getLast?_trim {s : List Char} {c : Char} (h : c ∈ (trim s).getLast?) :
    isBlank c = false := by
  have hne : trim s ≠ [] := by
    intro hnil
    simp [hnil] at h
  have hlast := List.rdropWhile_last_not isBlank (s.dropWhile isBlank) hne
  rw [List.getLast?_eq_some_getLast hne, Option.mem_some_iff] at h
  rw [← h]
  exact Bool.eq_false_iff.mpr hlast

end DeclGen.Unicode
