import DeclGen.Declaration.TypeExpr
import DeclGen.Proofs.Qualifier.Stripping

/-!
# Stripping what resolving has qualified

A type that is resolved in a package carries the name of the package in front of its innermost name. Here
it is settled when stripping that package gives back the type as it stands without a package. The text of
a type is a row of signs and a path of names (`resolveWith_rendered`), and the package stands between
them. A scan that comes from the signs removes it unless the last sign ends in a dot, so stripping fails
exactly where a variadic slot stands directly around a name (`TypeExpr.spreadsName`).
-/

namespace DeclGen

open Qualifier

namespace TypeExpr

/-- No part of the expression is of an unsupported shape. -/
def isSupported : TypeExpr → Bool
  | unsupported _ _ => false
  | slice e | pointer e | variadic e | qualified e _ => e.isSupported
  | name _ | openType => true

/-- The signs of the wrappers, from the outside in. -/
def signs : TypeExpr → String
  | slice e => "[]" ++ e.signs
  | pointer e => "*" ++ e.signs
  | variadic e => "..." ++ e.signs
  | qualified e _ => e.signs
  | name _ | openType | unsupported _ _ => ""

/-- The innermost name with what is selected from it. -/
def path : TypeExpr → String
  | name id => id
  | slice e | pointer e | variadic e => e.path
  | openType => Naming.openType
  | qualified e id => e.path ++ "." ++ id
  | unsupported _ text => text

/-- The innermost name is one that resolving qualifies. -/
def qualifies : TypeExpr → Bool → Bool
  | name id, qualify => qualify && !Naming.isPrimitive id
  | slice e, _ | pointer e, _ | variadic e, _ => e.qualifies true
  | qualified e _, _ => e.qualifies false
  | openType, _ | unsupported _ _, _ => false

/-- A variadic slot stands directly around a name that is not predeclared. -/
def spreadsName : TypeExpr → Bool
  | variadic (name id) => !Naming.isPrimitive id
  | slice e | pointer e | variadic e | qualified e _ => e.spreadsName
  | name _ | openType | unsupported _ _ => false

/-- The names in the expression. -/
def names : TypeExpr → List String
  | name id => [id]
  | slice e | pointer e | variadic e => e.names
  | qualified e id => e.names ++ [id]
  | openType | unsupported _ _ => []

/-- What is selected is selected from a bare name. -/
def packagesAreNames : TypeExpr → Bool
  | qualified (name _) _ => true
  | qualified _ _ => false
  | slice e | pointer e | variadic e => e.packagesAreNames
  | name _ | openType | unsupported _ _ => true

/-- Something is selected from the bare name `p`. -/
def selectsFrom (p : String) : TypeExpr → Bool
  | qualified (name id) _ => id == p
  | slice e | pointer e | variadic e | qualified e _ => e.selectsFrom p
  | name _ | openType | unsupported _ _ => false

/-- The path of a type as it is seen from the namespace `ns`. -/
def pathIn (ns : String) (e : TypeExpr) (qualify : Bool) : String :=
  if ns != "" && e.qualifies qualify then ns ++ "." ++ e.path else e.path

/-! ## The text of a resolved type -/

lemma isPrimitive_anyType : Naming.isPrimitive Naming.anyType = true := by decide

/-- A supported expression resolves, to its signs and its path. -/
lemma resolveWith_rendered {e : TypeExpr} (he : e.isSupported) (ns : String) (qualify : Bool) :
    ∃ t, resolveWith ns e qualify = some t ∧ t.rendered = e.signs ++ e.pathIn ns qualify := by
  induction e generalizing qualify with
  | name id =>
    by_cases hany : id = Naming.anyType
    · subst hany
      exact ⟨.openAs Naming.anyType, by simp [resolveWith], by
        simp [TypeSignature.openAs, signs, pathIn, qualifies, isPrimitive_anyType, path]⟩
    · refine ⟨.value (qualifiedName id ns qualify), by simp [resolveWith, hany], ?_⟩
      cases qualify <;> cases hns : ns == "" <;> cases hprim : Naming.isPrimitive id <;>
        simp_all [TypeSignature.value, signs, pathIn, qualifies, path, qualifiedName]
  | slice e ih =>
    obtain ⟨t, ht, htext⟩ := ih he true
    refine ⟨.wrap .sequence t, by simp [resolveWith, ht], ?_⟩
    rw [signs, String.append_assoc]
    exact congrArg ("[]" ++ ·) htext
  | pointer e ih =>
    obtain ⟨t, ht, htext⟩ := ih he true
    refine ⟨.wrap .pointer t, by simp [resolveWith, ht], ?_⟩
    rw [signs, String.append_assoc]
    exact congrArg ("*" ++ ·) htext
  | variadic e ih =>
    obtain ⟨t, ht, htext⟩ := ih he true
    refine ⟨.wrap .variadic t, by simp [resolveWith, ht], ?_⟩
    rw [signs, String.append_assoc]
    exact congrArg ("..." ++ ·) htext
  | openType => exact ⟨.openAs Naming.openType, rfl, by simp [TypeSignature.openAs, signs, pathIn,
      qualifies, path]⟩
  | qualified e id ih =>
    obtain ⟨t, ht, htext⟩ := ih he false
    refine ⟨.qualified t id, by simp [resolveWith, ht], ?_⟩
    rw [TypeSignature.qualified, htext, signs, pathIn, pathIn, qualifies, path]
    split <;> simp only [String.append_assoc]
  | unsupported shape text => exact absurd he (by simp [isSupported])

/-- Without a namespace no name is qualified. -/
lemma pathIn_empty (e : TypeExpr) (qualify : Bool) : e.pathIn "" qualify = e.path := by
  simp [pathIn]

/-! ## The border between signs and path -/

lemma isWordChar_of_all {text : String} (h : text.toList.all fun c => !isWordChar c) :
    ∀ c ∈ text.toList, isWordChar c = false := by
  simpa using h

/-- Signs hold no character of a name. -/
lemma isWordChar_of_mem_signs {e : TypeExpr} {c : Char} (h : c ∈ e.signs.toList) :
    isWordChar c = false := by
  have hsequence : ∀ c ∈ "[]".toList, isWordChar c = false := isWordChar_of_all (by decide)
  have hpointer : ∀ c ∈ "*".toList, isWordChar c = false := isWordChar_of_all (by decide)
  have hvariadic : ∀ c ∈ "...".toList, isWordChar c = false := isWordChar_of_all (by decide)
  induction e with
  | slice e ih =>
    rw [signs, String.toList_append, List.mem_append] at h
    exact h.elim (hsequence c) ih
  | pointer e ih =>
    rw [signs, String.toList_append, List.mem_append] at h
    exact h.elim (hpointer c) ih
  | variadic e ih =>
    rw [signs, String.toList_append, List.mem_append] at h
    exact h.elim (hvariadic c) ih
  | qualified e id ih => exact ih h
  | name _ | openType | unsupported _ _ => simp [signs] at h

/-- Below no wrapper a name is not qualified unless it is asked for. -/
lemma qualifies_false_of_signs_eq {e : TypeExpr} (h : e.signs = "") : e.qualifies false = false := by
  induction e with
  | qualified e id ih => exact ih h
  | slice e _ | pointer e _ | variadic e _ =>
    have hlist := congrArg String.toList h
    simp [signs] at hlist
  | name _ | openType | unsupported _ _ => rfl

/-- A name can start behind a further wrapper when it can behind its last sign. -/
lemma startsName_getLast?_append {a b : String} (ha : startsName a.toList.getLast?) :
    startsName (a ++ b).toList.getLast? = startsName b.toList.getLast? := by
  rw [String.toList_append, List.getLast?_append]
  cases b.toList.getLast? with
  | none => simpa [startsName] using ha
  | some c => rfl

/-- Around anything but a bare name a variadic slot leaves it as it is. -/
lemma spreadsName_variadic {e : TypeExpr} (h : ∀ id, e ≠ name id) :
    (variadic e).spreadsName = e.spreadsName := by
  cases e with
  | name id => exact absurd rfl (h id)
  | _ => rfl

/-- Below no wrapper only a bare name is qualified. -/
lemma qualifies_eq_false {e : TypeExpr} (h : ∀ id, e ≠ name id) (hsigns : e.signs = "")
    (qualify : Bool) : e.qualifies qualify = false := by
  have hfalse := qualifies_false_of_signs_eq hsigns
  cases e with
  | name id => exact absurd rfl (h id)
  | _ => exact hfalse

/-- No name can start behind the signs of exactly those types that spread a qualified name. -/
lemma qualifies_and_not_startsName (e : TypeExpr) (qualify : Bool) :
    (e.qualifies qualify && !startsName e.signs.toList.getLast?) = e.spreadsName := by
  induction e generalizing qualify with
  | name id => simp [signs, startsName, spreadsName]
  | slice e ih =>
    rw [signs, startsName_getLast?_append (by decide)]
    exact ih true
  | pointer e ih =>
    rw [signs, startsName_getLast?_append (by decide)]
    exact ih true
  | variadic e ih =>
    by_cases hname : ∃ id, e = name id
    · obtain ⟨id, rfl⟩ := hname
      simp [signs, startsName_dot, qualifies, spreadsName]
    · have hother : ∀ id, e ≠ name id := fun id heq => hname ⟨id, heq⟩
      rw [spreadsName_variadic hother, ← ih true]
      by_cases hsigns : e.signs = ""
      · simp [qualifies, qualifies_eq_false hother hsigns]
      · -- another sign follows the dots
        have hlast : (variadic e).signs.toList.getLast? = e.signs.toList.getLast? := by
          rw [signs, String.toList_append, List.getLast?_append_of_ne_nil]
          simpa using hsigns
        rw [hlast, qualifies]
  | openType => rfl
  | qualified e id ih => exact ih false
  | unsupported shape text => rfl

/-! ## Stripping a resolved type -/

section Stripping

variable {p : String}

/-- Stripping keeps the signs and scans the path. -/
lemma toList_strip_signs_append (hp : Naming.isIdentifier p) (e : TypeExpr) (text : String) :
    (strip (e.signs ++ text) p).toList =
      e.signs.toList ++ scan p.toList e.signs.toList.getLast? text.toList := by
  have hword := isWord_of_isIdentifier hp
  have hsigns : ∀ c ∈ e.signs.toList, c ∉ p.toList :=
    fun c hc => hword.notMem (isWordChar_of_mem_signs hc)
  rw [toList_strip (ne_empty_of_isIdentifier hp), String.toList_append,
    scan_append_of_notMem hword.ne_nil hsigns, Option.or_none]

/-- What stripping leaves of the qualified path is the path exactly when a name can start behind the
signs and the path itself mentions nothing. -/
lemma scan_qualified_eq_iff (hp : Naming.isIdentifier p) (previous : Option Char) (s : List Char) :
    scan p.toList previous (p.toList ++ '.' :: s) = s ↔
      startsName previous ∧ ¬ MentionsAfter previous p.toList s := by
  cases hstart : startsName previous with
  | true => simp [scan_occurrence hstart, scan_eq_self_iff (isWord_of_isIdentifier hp)]
  | false => simp [scan_kept hstart, scan_kept_ne]

/-- A path of identifiers, in which nothing is selected from `p`, does not mention `p`. -/
lemma not_mentionsAfter_path (hp : Naming.isIdentifier p) {e : TypeExpr}
    (hsupported : e.isSupported) (hpackages : e.packagesAreNames)
    (hnames : ∀ n ∈ e.names, Naming.isIdentifier n) (hselects : e.selectsFrom p = false)
    (previous : Option Char) : ¬ MentionsAfter previous p.toList e.path.toList := by
  have hplain : ∀ n, Naming.isIdentifier n → '.' ∉ n.toList :=
    fun n hn => (isWord_of_isIdentifier hn).dot_notMem
  induction e with
  | name id => exact not_mentionsAfter_of_dot_notMem (hplain id (hnames id (by simp [names]))) _ _
  | slice e ih => exact ih hsupported hpackages hnames hselects
  | pointer e ih => exact ih hsupported hpackages hnames hselects
  | variadic e ih => exact ih hsupported hpackages hnames hselects
  | openType => exact not_mentionsAfter_of_dot_notMem (by decide) _ _
  | qualified e id _ =>
    cases e with
    | name package =>
      have hne : package ≠ p := by simpa [selectsFrom] using hselects
      have hpackage := hnames package (by simp [names])
      have hid := hnames id (by simp [names])
      -- the only dot stands between two names, and what is in front of it is not `p`
      have hpath : (qualified (name package) id).path.toList =
          package.toList ++ '.' :: id.toList := by simp [path]
      rw [hpath, mentionsAfter_append_cons (isWord_of_isIdentifier hp).dot_notMem,
        closesAfter_word_iff (isWord_of_isIdentifier hp) (isWord_of_isIdentifier hpackage).word]
      simp [String.toList_inj, hne, not_mentionsAfter_of_dot_notMem (hplain _ hpackage),
        not_mentionsAfter_of_dot_notMem (hplain _ hid)]
    | _ => simp [packagesAreNames] at hpackages
  | unsupported shape text => simp [isSupported] at hsupported

/-- For every identifier and every supported type, stripping the identifier from the type as it is
resolved in the package of that name gives the type as it is without a package, exactly when no variadic
slot stands directly around a name that resolving qualifies and the bare type does not mention the
package itself. A type over identifiers with bare packages, none of which is `p`, never mentions `p`. -/
theorem strip_resolve_eq_iff (hp : Naming.isIdentifier p) {e : TypeExpr} (he : e.isSupported) :
    ∃ own bare, e.resolve p = some own ∧ e.resolve "" = some bare ∧
      (strip own.rendered p = bare.rendered ↔
        e.spreadsName = false ∧ ¬ Mentions p bare.rendered) ∧
      (e.packagesAreNames → (∀ n ∈ e.names, Naming.isIdentifier n) → e.selectsFrom p = false →
        ¬ Mentions p bare.rendered) := by
  obtain ⟨own, hown, howntext⟩ := resolveWith_rendered he p true
  obtain ⟨bare, hbare, hbaretext⟩ := resolveWith_rendered he "" true
  have hword := isWord_of_isIdentifier hp
  rw [pathIn_empty] at hbaretext
  have hmentions : Mentions p bare.rendered ↔
      MentionsAfter e.signs.toList.getLast? p.toList e.path.toList := by
    rw [← not_iff_not, ← strip_eq_self_iff hp, hbaretext, ← String.toList_inj,
      toList_strip_signs_append hp, String.toList_append, List.append_cancel_left_eq,
      scan_eq_self_iff hword]
  refine ⟨own, bare, hown, hbare, ?_, ?_⟩
  · rw [hmentions, howntext, hbaretext, ← String.toList_inj, toList_strip_signs_append hp,
      String.toList_append, List.append_cancel_left_eq, ← qualifies_and_not_startsName e true, pathIn]
    cases hqualifies : e.qualifies true with
    | true =>
      have hpath : (p ++ "." ++ e.path).toList = p.toList ++ '.' :: e.path.toList := by simp
      rw [if_pos (by simp [ne_empty_of_isIdentifier hp]), hpath, scan_qualified_eq_iff hp]
      simp
    | false => simp [scan_eq_self_iff hword]
  · intro hpackages hnames hselects
    rw [hmentions]
    exact not_mentionsAfter_path hp he hpackages hnames hselects _

/-- A pointer to a type of the package loses the package. -/
theorem strip_resolve_pointer :
    (Naming.isIdentifier "domain" ∧ (pointer (name "Account")).isSupported) ∧
      ∃ own bare, (pointer (name "Account")).resolve "domain" = some own ∧
        (pointer (name "Account")).resolve "" = some bare ∧
        strip own.rendered "domain" = bare.rendered := by
  have hdomain : Naming.isIdentifier "domain" := by decide
  obtain ⟨own, bare, hown, hbare, hiff, hclear⟩ :=
    strip_resolve_eq_iff hdomain (show (pointer (name "Account")).isSupported by decide)
  exact ⟨⟨hdomain, by decide⟩, own, bare, hown, hbare,
    hiff.mpr ⟨by decide, hclear (by decide) (by decide) (by decide)⟩⟩

/-- A variadic slot of a type of the package keeps the package. -/
theorem strip_resolve_variadic :
    Naming.isIdentifier "domain" ∧
      ∃ own bare, (variadic (name "Account")).resolve "domain" = some own ∧
        (variadic (name "Account")).resolve "" = some bare ∧
        strip own.rendered "domain" ≠ bare.rendered :=
  ⟨by decide, _, _, rfl, rfl, by decide⟩

end Stripping

end TypeExpr

end DeclGen
