/-!
# Type signatures

A type signature describes one occurrence of a type in a declaration: its kind, its text, and, for a
wrapper, what it wraps. It is kept as the chain of its layers from the outside in.
-/

namespace DeclGen

/-- How a type occurrence is classified. -/
inductive TypeKind
  | value
  | pointer
  | sequence
  | variadic
  | openType
  | qualifiedValue
deriving DecidableEq, Repr, Inhabited

/-- The name of a kind in reports. -/
def TypeKind.label : TypeKind → String
  | .value => "value"
  | .pointer => "pointer"
  | .sequence => "sequence"
  | .variadic => "variadic"
  | .openType => "open_type"
  | .qualifiedValue => "qualified_value"

/-- The sign that a wrapper kind puts in front of what it wraps; the other kinds have none. -/
def TypeKind.sigil? : TypeKind → Option String
  | .pointer => some "*"
  | .sequence => some "[]"
  | .variadic => some "..."
  | .value | .openType | .qualifiedValue => none

/-- One layer of a type: its kind and its text. -/
structure Layer where
  kind : TypeKind
  rendered : String
deriving DecidableEq, Repr, Inhabited

/-- The outermost layer of a type and the layers that it wraps, from the outside in. -/
structure TypeSignature extends Layer where
  inner : List Layer := []
deriving DecidableEq, Repr, Inhabited

namespace TypeSignature

/-- A named type. -/
def value (name : String) : TypeSignature := { kind := .value, rendered := name }

/-- The open type, in the given spelling. -/
def openAs (token : String) : TypeSignature := { kind := .openType, rendered := token }

/-- A name selected from a package, which is itself given by a signature. -/
def qualified (package : TypeSignature) (name : String) : TypeSignature :=
  { kind := .qualifiedValue, rendered := package.rendered ++ "." ++ name }

/-- Puts a layer of a wrapper kind around a signature. A kind that wraps nothing leaves it as it is. -/
def wrap (kind : TypeKind) (s : TypeSignature) : TypeSignature :=
  match kind.sigil? with
  | some sigil => { kind, rendered := sigil ++ s.rendered, inner := s.toLayer :: s.inner }
  | none => s

/-- The signature below the outermost layer. -/
def inner? (s : TypeSignature) : Option TypeSignature :=
  match s.inner with
  | [] => none
  | l :: rest => some { toLayer := l, inner := rest }

/-- The number of layers around the innermost one. -/
def depth (s : TypeSignature) : Nat := s.inner.length

/-- The innermost layer, which wraps nothing. -/
def innermost (s : TypeSignature) : TypeSignature :=
  { toLayer := s.inner.getLastD s.toLayer }

/-- A plain named type, not wrapped and not qualified. -/
def isBareValue (s : TypeSignature) : Bool := s.kind == .value

end TypeSignature

end DeclGen
