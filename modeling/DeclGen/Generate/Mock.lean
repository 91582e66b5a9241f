import DeclGen.Generate.Slots
import DeclGen.Model.FileModel

/-!
# Mocks

The mock of an interface has a callback field for each method. Each of its methods calls the callback
when it is set, and otherwise returns the zero values of the results.
-/

namespace DeclGen.Mock

open Text

/-- The first line of a file of mocks. -/
def fileHeader : String := "// Generated by Rawdog"

/-- The receiver of the methods of a mock. -/
def receiver : String := "m"

/-- The callback fields of a mock with their types. -/
def callbacks (i : Interface) : List (String × String) :=
  i.methods.map fun m => (Naming.callbackName m.name, m.funcType)

/-- A method of a mock that forwards to its callback. -/
def forwarding (mock : String) (m : Method) : Block :=
  let callback := receiver ++ "." ++ Naming.callbackName m.name
  let call := callback ++ "(" ++ Slots.callArgs m.params receiver ++ ")"
  Block.braces ("func (" ++ receiver ++ " *" ++ mock ++ ") " ++ m.header receiver ++ " \x7b") <|
    Block.braces ("if " ++ callback ++ " != nil \x7b")
      (Block.ofTexts (if m.returns.isEmpty then [call, "return"] else ["return " ++ call]))
    ++ Block.ofTexts (if m.returns.isEmpty then [] else ["return " ++ Slots.zeroReturns m.returns])

/-- The method of a mock that clears its callbacks. -/
def reset (mock : String) (i : Interface) : Block :=
  Block.ofTexts ["// ResetMock clears every callback."] ++
  Block.braces ("func (" ++ receiver ++ " *" ++ mock ++ ") ResetMock() \x7b")
    (Block.ofTexts (i.methods.map fun m =>
      receiver ++ "." ++ Naming.callbackName m.name ++ " = nil"))

/-- The mock of one interface. -/
def ofInterface (i : Interface) : Block :=
  let mock := Naming.mockName i.name
  Block.ofTexts
    ["// " ++ mock ++ " is a configurable stand-in for " ++ i.package ++ "." ++ i.name ++ "."] ++
  Block.braces ("type " ++ mock ++ " struct \x7b") (Block.ofTexts (alignedFields (callbacks i))) ++
  i.methods.flatMap (fun m => Block.gap ++ forwarding mock m) ++
  Block.gap ++ reset mock i

/-- The file of the mocks of all interfaces that ask for a method. -/
def file (m : FileModel) : String :=
  ((m.interfaces.filter (!·.methods.isEmpty)).foldl (fun d i => d.blank.block (ofInterface i))
    (Draft.empty.line fileHeader)).text

end DeclGen.Mock
