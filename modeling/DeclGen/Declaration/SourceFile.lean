import DeclGen.Declaration.TypeExpr

/-!
# Declarations

The declarations of a file that matter: records, interfaces, methods on receivers and functions. All
else at the top of a file (imports, constants, variables, aliases, statements) is left out.
-/

namespace DeclGen

/-- A group of fields of one type. An embedded field has no names. -/
structure FieldDecl where
  names : List String
  type : TypeExpr
  tag : Option String
deriving DecidableEq, Repr

/-- A group of parameters of one type; an unnamed parameter has no names. -/
structure ParamDecl where
  names : List String
  type : TypeExpr
deriving DecidableEq, Repr

/-- The parameters and results of a function. -/
structure Signature where
  params : List ParamDecl
  results : List ParamDecl
deriving DecidableEq, Repr

/-- A method that an interface asks for. -/
structure MethodSpec where
  name : String
  signature : Signature
deriving DecidableEq, Repr

/-- The receiver of a method: its name, if it has one, and its type with or without a star. -/
structure Receiver where
  name : Option String
  typeName : String
  pointer : Bool
deriving DecidableEq, Repr

/-- A record with its fields. -/
structure StructDecl where
  name : String
  fields : List FieldDecl
deriving DecidableEq, Repr

/-- An interface with the methods that it lists itself. -/
structure InterfaceDecl where
  name : String
  methods : List MethodSpec
deriving DecidableEq, Repr

/-- A method with its receiver. -/
structure MethodDecl where
  receiver : Receiver
  name : String
  signature : Signature
deriving DecidableEq, Repr

/-- A function without receiver. -/
structure FunctionDecl where
  name : String
  signature : Signature
deriving DecidableEq, Repr

/-- A declaration at the top of a file. -/
inductive Declaration
  | struct (decl : StructDecl)
  | interface (decl : InterfaceDecl)
  | method (decl : MethodDecl)
  | function (decl : FunctionDecl)
deriving DecidableEq, Repr

/-- A declaration file: its package and its declarations in order. -/
structure SourceFile where
  package : String
  declarations : List Declaration
deriving DecidableEq, Repr

namespace SourceFile

/-- The records of the file. -/
def structs (f : SourceFile) : List StructDecl :=
  f.declarations.filterMap fun
    | .struct d => some d
    | _ => none

/-- The interfaces of the file. -/
def interfaces (f : SourceFile) : List InterfaceDecl :=
  f.declarations.filterMap fun
    | .interface d => some d
    | _ => none

/-- The methods of the file. -/
def methods (f : SourceFile) : List MethodDecl :=
  f.declarations.filterMap fun
    | .method d => some d
    | _ => none

end SourceFile

end DeclGen
