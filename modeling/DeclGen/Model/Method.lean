import DeclGen.Model.TypeSignature
import DeclGen.Naming

/-!
# Methods, interfaces and services
-/

namespace DeclGen

/-- A parameter or a result of a method. The name is empty for an unnamed slot, and a slot whose type
could not be resolved has no signature. -/
structure Param where
  name : String
  signature : Option TypeSignature
deriving DecidableEq, Repr, Inhabited

namespace Param

/-- The text of the type; empty for an unresolved slot. -/
def renderedType (p : Param) : String := p.signature.elim "" (·.rendered)

/-- A slot that takes any number of arguments. -/
def isVariadic (p : Param) : Bool := p.signature.any (·.kind == .variadic)

end Param

/-- A method of an interface or of a receiver type. -/
structure Method where
  name : String
  params : List Param
  returns : List Param
deriving DecidableEq, Repr, Inhabited

/-- An interface with the package it is declared in. -/
structure Interface where
  name : String
  methods : List Method
  package : String
deriving DecidableEq, Repr, Inhabited

/-- The methods declared on one service receiver type, in order of declaration. -/
structure ServiceMethodSet where
  receiver : String
  methods : List Method
deriving DecidableEq, Repr, Inhabited

/-- The receiver type without the service ending. -/
def ServiceMethodSet.baseName (s : ServiceMethodSet) : String :=
  (Naming.serviceBase? s.receiver).getD s.receiver

end DeclGen
