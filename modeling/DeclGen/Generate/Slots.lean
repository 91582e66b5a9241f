import DeclGen.Text.Layout
import DeclGen.ZeroValue

/-!
# Method headers

The parts of a method header and of a call that passes its parameters on: parameter names, types,
result clause, arguments and zero values. Mocks and services take them from here.
-/

namespace DeclGen

/-- The text of a slot's type. An unresolved slot has the open type, so that the declaration around it
stays well formed. -/
def Param.slotType (p : Param) : String := p.signature.elim Naming.openType (·.rendered)

namespace Slots

/-- A declared name that may stand in a method on `receiver`: not empty, not blank and not the
receiver's own. -/
def keeps (receiver name : String) : Bool := name != "" && name != "_" && name != receiver

/-- The names that are in use before any name is made up: the kept ones and the receiver. -/
def reserved (params : List Param) (receiver : String) : List String :=
  (params.map (·.name)).filter (keeps receiver) ++ if receiver == "" then [] else [receiver]

/-- Appends low lines to `name` until it is not taken; `fuel` of them at most. -/
def freshWithin (taken : List String) : Nat → String → String
  | 0, name => name
  | fuel + 1, name => if taken.contains name then freshWithin taken fuel (name ++ "_") else name

/-- The name followed by the least number of low lines that makes it new. As many tries as there are
taken names, and one more, are enough, since the candidates differ from each other. -/
def fresh (taken : List String) (name : String) : String :=
  freshWithin taken (taken.length + 1) name

/-- The names of the slots from position `i` on, given the names in use. -/
def namesFrom (receiver : String) : Nat → List String → List Param → List String
  | _, _, [] => []
  | i, taken, p :: rest =>
    if keeps receiver p.name then p.name :: namesFrom receiver (i + 1) taken rest
    else
      let name := fresh taken ("arg" ++ toString i)
      name :: namesFrom receiver (i + 1) (name :: taken) rest

/-- The parameter names of a method on `receiver`. A slot without a usable name is called by its
position; an empty `receiver` reserves no name. -/
def names (params : List Param) (receiver : String) : List String :=
  namesFrom receiver 0 (reserved params receiver) params

/-- The items with commas between them. -/
def commaList (items : List String) : String := ", ".intercalate items

/-- The parameter list of a method on `receiver`, without parentheses. -/
def paramList (params : List Param) (receiver : String) : String :=
  commaList (((names params receiver).zip params).map fun (n, p) => n ++ " " ++ p.slotType)

/-- The result clause with the space in front of it. Result names are not carried over. -/
def resultClause : List Param → String
  | [] => ""
  | [r] => " " ++ r.slotType
  | returns => " (" ++ commaList (returns.map (·.slotType)) ++ ")"

/-- The arguments that pass every parameter on, with a variadic one spread. -/
def callArgs (params : List Param) (receiver : String) : String :=
  commaList (((names params receiver).zip params).map fun (n, p) =>
    if p.isVariadic then n ++ "..." else n)

/-- The zero values of the results. -/
def zeroReturns (returns : List Param) : String := commaList (returns.map (·.zeroValue))

end Slots

namespace Method

/-- The header of the method in a declaration on `receiver`, from its name on. -/
def header (m : Method) (receiver : String) : String :=
  m.name ++ "(" ++ Slots.paramList m.params receiver ++ ")" ++ Slots.resultClause m.returns

/-- The method as a line of an interface. -/
def spec (m : Method) : String := m.header ""

/-- The type of a function with the method's parameters and results. -/
def funcType (m : Method) : String :=
  "func(" ++ Slots.paramList m.params "" ++ ")" ++ Slots.resultClause m.returns

end Method

end DeclGen
