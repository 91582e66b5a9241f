import DeclGen.ZeroValue
import Mathlib.Data.List.Basic
import Mathlib.Tactic.SplitIfs

/-!
# Zero values

A zero value is a word of its own, or the type with a sign behind it: a conversion of zero for the predeclared
numbers, and a composite literal for every name that is not predeclared (`zeroOfName_of_isPrimitive_false`). What
separates the parts of a line stands in it no more than in the type (`notMem_zeroValueFor`).
-/

namespace DeclGen

/-! ## Names that are not predeclared -/

section Names

variable {id : String}

lemma ne_of_isPrimitive_false (h : Naming.isPrimitive id = false) {n : String}
    (hn : n ∈ Naming.primitives) : id ≠ n := by
  rintro rfl
  simp [Naming.isPrimitive, hn] at h

/-- No predeclared name has a dot. -/
lemma isPrimitive_false_of_dot (h : '.' ∈ id.toList) : Naming.isPrimitive id = false := by
  have hplain : ∀ n ∈ Naming.primitives, '.' ∉ n.toList := by decide
  cases hprim : Naming.isPrimitive id with
  | false => rfl
  | true => exact absurd h (hplain id (by simpa [Naming.isPrimitive] using hprim))

/-- A name that is not predeclared is in no list of predeclared names. -/
lemma contains_eq_false_of_isPrimitive_false (h : Naming.isPrimitive id = false) {l : List String}
    (hl : l ⊆ Naming.primitives) : l.contains id = false := by
  simpa using fun hmem => ne_of_isPrimitive_false h (hl hmem) rfl

/-- A name that is not predeclared has a composite literal. -/
lemma zeroOfName_of_isPrimitive_false (h : Naming.isPrimitive id = false) :
    zeroOfName id = id ++ "\x7b\x7d" := by
  have hne : ∀ n ∈ Naming.primitives, id ≠ n := fun n => ne_of_isPrimitive_false h
  have hinteger : Naming.isInteger id = false := contains_eq_false_of_isPrimitive_false h (by decide)
  have hfloat : Naming.isFloat id = false := contains_eq_false_of_isPrimitive_false h (by decide)
  have hcomplex : Naming.isComplex id = false := contains_eq_false_of_isPrimitive_false h (by decide)
  simp [zeroOfName, hinteger, hfloat, hcomplex, hne "string" (by decide), hne "bool" (by decide),
    hne "error" (by decide), hne Naming.anyType (by decide), hne "interface" (by decide)]

end Names

/-! ## Characters of zero values -/

/-- What does not stand in a type stands in its zero value neither, if it is a space, a comma or a line
feed. -/
lemma notMem_zeroValueFor {kind : TypeKind} {rendered : String} {c : Char} (hc : c ∈ [' ', ',', '\n'])
    (h : c ∉ rendered.toList) : c ∉ (zeroValueFor kind rendered).toList := by
  have hwords : ∀ word ∈ ["\"\"", "false", "nil", "(0)", "\x7b\x7d"], c ∉ word.toList := by
    have hall : ∀ c ∈ [' ', ',', '\n'],
        ∀ word ∈ ["\"\"", "false", "nil", "(0)", "\x7b\x7d"], c ∉ word.toList := by
      simp only [List.forall_mem_cons, List.not_mem_nil, false_imp_iff, implies_true, and_true]
      decide
    exact hall c hc
  simp only [List.forall_mem_cons, List.not_mem_nil, false_imp_iff, implies_true, and_true] at hwords
  obtain ⟨hempty, hfalse, hnil, hzero, hbraces⟩ := hwords
  cases kind with
  | value =>
    show c ∉ (zeroOfName rendered).toList
    unfold zeroOfName
    split_ifs
    · exact hempty
    · exact hfalse
    · exact hnil
    · rw [String.toList_append, List.mem_append, not_or]
      exact ⟨h, hzero⟩
    · rw [String.toList_append, List.mem_append, not_or]
      exact ⟨h, hbraces⟩
  | qualifiedValue =>
    show c ∉ (rendered ++ "\x7b\x7d").toList
    rw [String.toList_append, List.mem_append, not_or]
    exact ⟨h, hbraces⟩
  | pointer | sequence | variadic | openType => exact hnil

lemma zeroValueFor_ne_empty (kind : TypeKind) (rendered : String) : zeroValueFor kind rendered ≠ "" := by
  cases kind with
  | value =>
    show zeroOfName rendered ≠ ""
    unfold zeroOfName
    split_ifs <;> simp
  | qualifiedValue =>
    show rendered ++ "\x7b\x7d" ≠ ""
    simp
  | pointer | sequence | variadic | openType =>
    show "nil" ≠ ""
    decide

end DeclGen
