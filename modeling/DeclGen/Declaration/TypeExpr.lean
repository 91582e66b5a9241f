import DeclGen.Model.TypeSignature
import DeclGen.Naming

/-!
# Type expressions

The types that a declaration may use. Names, selections from a package, slices, pointers, variadic
slots and the open type are told apart; every other type is kept as its shape and its source text.
Resolving an expression in a namespace gives a type signature, in which the names of the namespace are
qualified with it.
-/

namespace DeclGen

/-- The shapes of types that are kept as text. -/
inductive Shape
  | map
  | channel
  | function
  | array
  | generic
  | struct
  | interface
  | negated
  | other (label : String)
deriving DecidableEq, Repr

/-- The label of a shape. -/
def Shape.label : Shape → String
  | .map => "map_type"
  | .channel => "channel_type"
  | .function => "function_type"
  | .array => "array_type"
  | .generic => "generic_type"
  | .struct => "struct_type"
  | .interface => "interface_type"
  | .negated => "negated_type"
  | .other label => label

/-- A type as it is declared. -/
inductive TypeExpr
  | name (id : String)
  | slice (element : TypeExpr)
  | pointer (target : TypeExpr)
  | variadic (element : TypeExpr)
  | openType
  | qualified (package : TypeExpr) (id : String)
  | unsupported (shape : Shape) (text : String)
deriving DecidableEq, Repr

namespace TypeExpr

/-- The canonical text of a type expression. -/
def text : TypeExpr → String
  | name id => id
  | slice e => "[]" ++ e.text
  | pointer e => "*" ++ e.text
  | variadic e => "..." ++ e.text
  | openType => Naming.openType
  | qualified p id => p.text ++ "." ++ id
  | unsupported _ t => t

/-- A name as it is seen from outside the namespace, unless it is predeclared or the namespace is
empty. -/
def qualifiedName (id ns : String) (qualify : Bool) : String :=
  if !qualify || ns == "" || Naming.isPrimitive id then id else ns ++ "." ++ id

/-- The signature of a type declared in the namespace `ns`. A bare name is qualified when `qualify` is
set; below a wrapper names are always qualified, and the package of a selection never is. A type that
holds an unsupported shape has no signature. -/
def resolveWith (ns : String) : TypeExpr → Bool → Option TypeSignature
  | name id, qualify =>
    if id == Naming.anyType then some (.openAs Naming.anyType)
    else some (.value (qualifiedName id ns qualify))
  | slice e, _ => (resolveWith ns e true).map (.wrap .sequence)
  | pointer e, _ => (resolveWith ns e true).map (.wrap .pointer)
  | variadic e, _ => (resolveWith ns e true).map (.wrap .variadic)
  | openType, _ => some (.openAs Naming.openType)
  | qualified p id, _ => (resolveWith ns p false).map (.qualified · id)
  | unsupported _ _, _ => none

/-- The signature of a type declared in the namespace `ns`, with bare names qualified. -/
def resolve (e : TypeExpr) (ns : String) : Option TypeSignature := resolveWith ns e true

end TypeExpr

end DeclGen
