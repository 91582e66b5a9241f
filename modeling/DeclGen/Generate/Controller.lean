import DeclGen.Generate.Words
import DeclGen.Naming
import DeclGen.Text.Layout

/-!
# Controllers

The stub of a web controller: it holds the service of its name and offers three routes.
-/

namespace DeclGen.Controller

open Text

/-- A handler that a controller offers. -/
inductive Handler
  | store
  | index
  | show
deriving DecidableEq, Repr

/-- The name of a handler's method. -/
def Handler.name : Handler → String
  | .store => "Store"
  | .index => "Index"
  | .show => "Show"

/-- What a handler does, for a controller of the given description. -/
def Handler.comment (description : String) : Handler → String
  | .store => "saves a new " ++ description ++ " to the database."
  | .index => "shows all " ++ description ++ " in the system."
  | .show => "returns a particular " ++ description ++ " with a particular ID in the system."

/-- The body of a handler's stub. -/
def Handler.body : Handler → List String
  | .show => ["id := router.Param(r, \"id\")", "_ = id"]
  | .store | .index => []

/-- The method of a handler on the controller type. -/
def handlerBlock (name description : String) (h : Handler) : Block :=
  Block.ofTexts ["// " ++ h.name ++ " " ++ h.comment description] ++
  Block.braces
    ("func (h *" ++ name ++ ") " ++ h.name ++ "(w http.ResponseWriter, r *http.Request) \x7b")
    (Block.ofTexts h.body)

/-- The imports of a controller file. -/
def imports : Block :=
  Block.enclose "import ("
    (Block.ofTexts ["\"lib/router\"", "\"net/http\"", "", "\"app/webapi/logic\"", "\"domain\""]) ")"

/-- The controller type. -/
def typeBlock (name service : String) : Block :=
  Block.ofTexts ["// " ++ name ++ " represents the services required for this controller."] ++
  Block.braces ("type " ++ name ++ " struct \x7b")
    (Block.ofTexts (alignedFields
      [(name, "logic." ++ service), ("View", "domain.IViewAdapter"), ("Parser", "domain.IViewParser")]))

/-- The constructor of the controller type. -/
def constructor (name service description : String) : Block :=
  Block.ofTexts
    ["// New" ++ name ++ " returns a new instance of " ++ article description ++ " " ++ description
      ++ "."] ++
  Block.braces
    ("func New" ++ name ++ "(svc logic." ++ service
      ++ ", v domain.IViewAdapter, p domain.IViewParser) *" ++ name ++ " \x7b")
    (Block.ofTexts ["s := new(" ++ name ++ ")", "s." ++ name ++ " = svc", "s.View = v",
      "s.Parser = p", "return s"])

/-- The method that adds the three routes. -/
def routes (name route : String) : Block :=
  Block.ofTexts
    ["// AddRoutes adds routes for interacting with domain " ++ name ++ " via the webapi."] ++
  Block.braces ("func (h *" ++ name ++ ") AddRoutes() \x7b")
    (Block.ofTexts
      ["router.Post(\"/" ++ route ++ "\", h.Store)", "router.Get(\"/" ++ route ++ "\", h.Index)",
       "router.Get(\"/" ++ route ++ "/:id\", h.Show)"])

/-- The file of a controller. -/
def block (name : String) : Block :=
  let description := Words.description name
  let service := Naming.interfaceName (Naming.serviceName name)
  Block.ofTexts ["package controller"] ++ Block.gap ++ imports ++ Block.gap ++
  typeBlock name service ++ Block.gap ++ constructor name service description ++ Block.gap ++
  routes name (Words.route name) ++
  [Handler.store, .index, .show].flatMap fun h => Block.gap ++ handlerBlock name description h

/-- The text of a controller file. -/
def file (name : String) : String := (block name).render

end DeclGen.Controller
