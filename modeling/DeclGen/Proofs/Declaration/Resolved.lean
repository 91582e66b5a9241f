import DeclGen.Proofs.Declaration.Unqualified

/-!
# What resolving makes of a type

A type resolves unless some part of it is of an unsupported shape. Its text is that of the expression with the
namespace in front of certain names: those directly below a wrapper, and the root itself when that is asked for
(`TypeExpr.qualifiedIn`). Which names these are is said of the expression alone, without the switch that
resolving hands down. The layers of the signature are the wrappers of the expression from the root down and the
first node that is none (`TypeExpr.resolveWith_characterization`).
-/

namespace DeclGen

namespace TypeSignature

/-! ## The chain of a signature -/

/-- The signatures of a layer and of those below it, from the outside in. -/
def chainFrom (l : Layer) : List Layer → List TypeSignature
  | [] => [{ toLayer := l }]
  | m :: rest => { toLayer := l, inner := m :: rest } :: chainFrom m rest

/-- The signature, the one that it wraps, and so on down to the innermost one. -/
def chain (s : TypeSignature) : List TypeSignature := chainFrom s.toLayer s.inner

/-- The outer signature wraps the inner one and puts its sign in front of it. -/
def Wraps (outer inner : TypeSignature) : Prop :=
  outer.inner? = some inner ∧
    ∃ sign, outer.kind.sigil? = some sign ∧ outer.rendered = sign ++ inner.rendered

variable {s : TypeSignature} {kind : TypeKind} {sign : String}

/-- The chain goes on with the signature below for as long as there is one. -/
lemma chain_eq (s : TypeSignature) : s.chain = s :: s.inner?.elim [] chain := by
  obtain ⟨l, _ | ⟨m, rest⟩⟩ := s
  · rfl
  · rfl

/-- A wrapper kind puts a layer around a signature, and all below stays. -/
lemma inner?_wrap (h : kind.sigil? = some sign) : (wrap kind s).inner? = some s := by
  simp only [wrap, h]
  rfl

lemma kind_wrap (h : kind.sigil? = some sign) : (wrap kind s).kind = kind := by
  simp only [wrap, h]

lemma rendered_wrap (h : kind.sigil? = some sign) : (wrap kind s).rendered = sign ++ s.rendered := by
  simp only [wrap, h]

lemma depth_wrap (h : kind.sigil? = some sign) : (wrap kind s).depth = s.depth + 1 := by
  simp only [wrap, h]
  rfl

lemma innermost_wrap (h : kind.sigil? = some sign) : (wrap kind s).innermost = s.innermost := by
  simp only [wrap, h, innermost, List.getLastD_cons]

lemma chain_wrap (h : kind.sigil? = some sign) : (wrap kind s).chain = wrap kind s :: s.chain := by
  rw [chain_eq, inner?_wrap h]
  rfl

lemma wraps_wrap (h : kind.sigil? = some sign) : Wraps (wrap kind s) s :=
  ⟨inner?_wrap h, sign, by rw [kind_wrap h, h], rendered_wrap h⟩

end TypeSignature

namespace TypeExpr

/-! ## The expression with its namespace -/

/-- The namespace in front of a name, unless it is empty or the name is predeclared. Other nodes stay. -/
def qualifyName (ns : String) : TypeExpr → TypeExpr
  | name id => if ns = "" ∨ Naming.isPrimitive id then name id else name (ns ++ "." ++ id)
  | e => e

/-- The namespace in front of the names directly below a wrapper. -/
def qualifyWrapped (ns : String) : TypeExpr → TypeExpr
  | slice e => slice ((e.qualifyWrapped ns).qualifyName ns)
  | pointer e => pointer ((e.qualifyWrapped ns).qualifyName ns)
  | variadic e => variadic ((e.qualifyWrapped ns).qualifyName ns)
  | qualified e id => qualified (e.qualifyWrapped ns) id
  | e => e

/-- The namespace in front of the names directly below a wrapper and, if asked for, of the root. -/
def qualifiedIn (ns : String) (e : TypeExpr) (qualify : Bool) : TypeExpr :=
  if qualify then (e.qualifyWrapped ns).qualifyName ns else e.qualifyWrapped ns

/-! ## The wrappers of an expression -/

/-- The kinds of the wrappers from the root down to the first node that is none. -/
def wrappers : TypeExpr → List TypeKind
  | slice e => .sequence :: e.wrappers
  | pointer e => .pointer :: e.wrappers
  | variadic e => .variadic :: e.wrappers
  | name _ | openType | qualified _ _ | unsupported _ _ => []

/-- The first node from the root down that is no wrapper. -/
def core : TypeExpr → TypeExpr
  | slice e | pointer e | variadic e => e.core
  | e => e

/-- The kind of a node; an unsupported one has none. -/
def kind? : TypeExpr → Option TypeKind
  | name id => some (if id = Naming.anyType then .openType else .value)
  | slice _ => some .sequence
  | pointer _ => some .pointer
  | variadic _ => some .variadic
  | openType => some .openType
  | qualified _ _ => some .qualifiedValue
  | unsupported _ _ => none

/-! ## Resolved expressions -/

/-- What the signature of a type says about the expression in its namespace. -/
structure Describes (s : TypeSignature) (ns : String) (e : TypeExpr) (qualify : Bool) : Prop where
  rendered : s.rendered = (e.qualifiedIn ns qualify).text
  kinds : s.chain.map (·.kind) = e.wrappers ++ [s.innermost.kind]
  core : e.core.kind? = some s.innermost.kind
  wraps : s.chain.IsChain TypeSignature.Wraps
  depth : s.depth = e.wrappers.length
  last : s.chain.getLast? = some s.innermost
  bare : s.innermost.inner? = none

variable {ns : String} {e outer : TypeExpr} {qualify : Bool} {s : TypeSignature} {kind : TypeKind}
  {sign : String}

/-- A signature of a single layer has the innermost one in itself. -/
lemma Describes.single {l : Layer} (hrendered : l.rendered = (e.qualifiedIn ns qualify).text)
    (hwrappers : e.wrappers = []) (hcore : e.core.kind? = some l.kind) :
    Describes { toLayer := l } ns e qualify where
  rendered := hrendered
  kinds := by rw [hwrappers]; rfl
  core := hcore
  wraps := .singleton _
  depth := by rw [hwrappers]; rfl
  last := rfl
  bare := rfl

/-- One more wrapper around the expression is one more layer around its signature. -/
lemma Describes.wrap (h : Describes s ns e true) (hkind : kind.sigil? = some sign)
    (htext : (outer.qualifiedIn ns qualify).text = sign ++ (e.qualifiedIn ns true).text)
    (hwrappers : outer.wrappers = kind :: e.wrappers) (hcore : outer.core = e.core) :
    Describes (.wrap kind s) ns outer qualify where
  rendered := by rw [TypeSignature.rendered_wrap hkind, h.rendered, htext]
  kinds := by
    rw [TypeSignature.chain_wrap hkind, TypeSignature.innermost_wrap hkind, List.map_cons, h.kinds,
      TypeSignature.kind_wrap hkind, hwrappers, List.cons_append]
  core := by rw [hcore, TypeSignature.innermost_wrap hkind, h.core]
  wraps := by
    rw [TypeSignature.chain_wrap hkind, TypeSignature.chain_eq s, List.isChain_cons_cons,
      ← TypeSignature.chain_eq]
    exact ⟨TypeSignature.wraps_wrap hkind, h.wraps⟩
  depth := by rw [TypeSignature.depth_wrap hkind, h.depth, hwrappers, List.length_cons]
  last := by
    rw [TypeSignature.chain_wrap hkind, TypeSignature.innermost_wrap hkind, TypeSignature.chain_eq s,
      List.getLast?_cons_cons, ← TypeSignature.chain_eq, h.last]
  bare := by rw [TypeSignature.innermost_wrap hkind, h.bare]

/-- The kind of a signature is that of the root of its expression. -/
lemma Describes.root (h : Describes s ns e qualify) : e.kind? = some s.kind := by
  have hkinds := h.kinds
  rw [TypeSignature.chain_eq, List.map_cons] at hkinds
  cases e with
  | slice e | pointer e | variadic e => exact congrArg some (List.cons.inj hkinds).1.symm
  | name _ | openType | qualified _ _ | unsupported _ _ =>
    exact h.core.trans (congrArg some (List.cons.inj hkinds).1.symm)

/-- A name with its namespace is the same text, whether it is qualified as a text or as an expression. -/
lemma text_qualifyName (id ns : String) (qualify : Bool) :
    ((name id).qualifiedIn ns qualify).text = qualifiedName id ns qualify := by
  unfold qualifiedIn qualifyWrapped qualifyName qualifiedName
  cases qualify <;> by_cases hns : ns = "" <;> cases hid : Naming.isPrimitive id <;>
    simp [hns, hid, text]

/-- What an expression resolves to: nothing if some part of it is unsupported, and else a signature that
describes it. -/
def Resolution (ns : String) (e : TypeExpr) (qualify : Bool) : Option TypeSignature → Prop
  | none => e.isSupported = false
  | some s => e.isSupported = true ∧ Describes s ns e qualify

/-- A wrapper resolves with what it wraps. -/
lemma Resolution.wrap {s? : Option TypeSignature} (h : Resolution ns e true s?)
    (hkind : kind.sigil? = some sign)
    (htext : (outer.qualifiedIn ns qualify).text = sign ++ (e.qualifiedIn ns true).text)
    (hwrappers : outer.wrappers = kind :: e.wrappers) (hcore : outer.core = e.core)
    (hsupported : outer.isSupported = e.isSupported) :
    Resolution ns outer qualify (s?.map (.wrap kind)) := by
  cases s? with
  | none => exact hsupported.trans h
  | some s => exact ⟨hsupported.trans h.1, h.2.wrap hkind htext hwrappers hcore⟩

/-- A type resolves exactly when no part of it is of an unsupported shape. The signature then has the text of
the expression with the namespace in front of each name that is not predeclared and stands directly below a
wrapper, or is the whole expression while that is asked for. Its layers are the wrappers from the root down
and the first node that is none; each of them but the last is its sign in front of the next one. -/
theorem resolveWith_characterization (ns : String) (e : TypeExpr) (qualify : Bool) :
    Resolution ns e qualify (resolveWith ns e qualify) := by
  induction e generalizing qualify with
  | name id =>
    unfold resolveWith
    by_cases hany : id = Naming.anyType
    · subst hany
      refine ⟨rfl, .single ?_ rfl (by simp [core, kind?])⟩
      rw [text_qualifyName, qualifiedName, isPrimitive_anyType, Bool.or_true, if_pos rfl]
    · rw [if_neg (by simpa using hany)]
      exact ⟨rfl, .single (text_qualifyName id ns qualify).symm rfl (by simp [core, kind?, hany])⟩
  | slice e ih => exact (ih true).wrap rfl (by cases qualify <;> rfl) rfl rfl rfl
  | pointer e ih => exact (ih true).wrap rfl (by cases qualify <;> rfl) rfl rfl rfl
  | variadic e ih => exact (ih true).wrap rfl (by cases qualify <;> rfl) rfl rfl rfl
  | openType => exact ⟨rfl, .single (by cases qualify <;> rfl) rfl rfl⟩
  | qualified e id ih =>
    -- a selection is a single layer, whatever layers its package has
    have ih := ih false
    unfold resolveWith
    cases hresolved : resolveWith ns e false with
    | none => rwa [hresolved] at ih
    | some s =>
      rw [hresolved] at ih
      refine ⟨ih.1, .single ?_ rfl rfl⟩
      show s.rendered ++ "." ++ id = _
      rw [ih.2.rendered]
      cases qualify <;> rfl
  | unsupported shape text => rfl

/-- Below a wrapper names are qualified again, even inside a selection. -/
example :
    (resolveWith "store" (slice (qualified (pointer (name "Shelf")) "Row")) false).map (·.rendered)
      = some "[]*store.Shelf.Row" := by decide

end TypeExpr

end DeclGen
