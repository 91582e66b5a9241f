import DeclGen.Model.Method

/-!
# Zero values

The expression that stands for a value when none is given. All artifacts take it from here.
-/

namespace DeclGen

/-- The zero value of a named type. Numbers are conversions of zero, and a name that is not predeclared
is a composite literal. -/
def zeroOfName (name : String) : String :=
  if name == "string" then "\"\""
  else if name == "bool" then "false"
  else if name == "error" || name == Naming.anyType || name == "interface" then "nil"
  else if Naming.isInteger name || Naming.isFloat name || Naming.isComplex name then name ++ "(0)"
  else name ++ "\x7b\x7d"

/-- The zero value of a type of the given kind and text. -/
def zeroValueFor (kind : TypeKind) (rendered : String) : String :=
  match kind with
  | .value => zeroOfName rendered
  | .qualifiedValue => rendered ++ "\x7b\x7d"
  | .pointer | .sequence | .variadic | .openType => "nil"

/-- The zero value of a type signature. -/
def TypeSignature.zeroValue (s : TypeSignature) : String := zeroValueFor s.kind s.rendered

/-- The zero value of a result slot. -/
def Param.zeroValue (p : Param) : String := p.signature.elim "nil" (·.zeroValue)

end DeclGen
