import DeclGen.Files.Destination

/-!
# Arguments

What a user asks for is written as a row of words. The words are read from left to right: the first word
that is no option names the command, and options may stand anywhere. After `--` every word is taken as it
is. A request for help or for the version counts as soon as it is read; a word that does not fit spoils
the request.
-/

namespace DeclGen

/-- What the program can do. -/
inductive Command
  | mock (input output : String)
  | service (input output : String)
  | generate (artifact : Artifact) (input output : String) (including excluding : List String)
  | controller (name directory : String)
  | inspect (input : String)
deriving DecidableEq, Repr

/-- What a user asks for. -/
inductive Request
  | help
  | version
  | run (project : Option String) (command : Command)
deriving DecidableEq, Repr

namespace Arguments

/-- The options. -/
inductive Flag
  | project
  | including
  | excluding
  | help
  | version
deriving DecidableEq, Repr

/-- The commands, by what their words mean. -/
inductive Verb
  | mock
  | service
  | generate (artifact : Artifact)
  | controller
  | inspect
deriving DecidableEq, Repr

/-- The name of a command. -/
def Verb.named? : String → Option Verb
  | "mock" => some .mock
  | "service" => some .service
  | "queries" => some (.generate .queries)
  | "tests" => some (.generate .tests)
  | "controller" => some .controller
  | "inspect" => some .inspect
  | _ => none

/-- The long name of an option, before a command is named or after. -/
def longFlag? (verb : Option Verb) (name : String) : Option Flag :=
  match name, verb with
  | "project", _ => some .project
  | "help", _ => some .help
  | "version", none => some .version
  | "include", some (.generate _) => some .including
  | "exclude", some (.generate _) => some .excluding
  | _, _ => none

/-- The letter of an option. -/
def shortFlag? (verb : Option Verb) (letter : Char) : Option Flag :=
  match letter, verb with
  | 'p', _ => some .project
  | 'h', _ => some .help
  | 'V', none => some .version
  | _, _ => none

/-- A word, by what it is for. -/
inductive Word
  | plain (s : String)
  | dashes
  | flag (f : Flag) (attached : Option String)
  | unknown
deriving DecidableEq, Repr

/-- The name of a long option and the value attached to it. -/
def splitAttached (cs : List Char) : String × Option String :=
  match cs.span (· != '=') with
  | (name, _ :: value) => (String.ofList name, some (String.ofList value))
  | (name, []) => (String.ofList name, none)

/-- The value attached to a letter, with or without an equals sign. -/
def attachedToLetter : List Char → Option String
  | [] => none
  | '=' :: value => some (String.ofList value)
  | value => some (String.ofList value)

/-- What a word is for. A single dash is a plain word. -/
def Word.read (verb : Option Verb) (word : String) : Word :=
  match word.toList with
  | ['-', '-'] => .dashes
  | '-' :: '-' :: rest =>
    let (name, attached) := splitAttached rest
    (longFlag? verb name).elim .unknown (.flag · attached)
  | '-' :: letter :: rest =>
    match shortFlag? verb letter with
    | some .project => .flag .project (attachedToLetter rest)
    | some f => .flag f none
    | none => .unknown
  | _ => .plain word

/-- The options that were read on one level, before a command or after. -/
structure Options where
  project : Option String := none
  including : List String := []
  excluding : List String := []
deriving DecidableEq, Repr

/-- Takes the value of an option. A project is given once on a level and is a path; a path is not
empty. -/
def Options.take? (o : Options) (f : Flag) (value : String) : Option Options :=
  match f with
  | .project =>
    if o.project.isSome || value == "" then none else some { o with project := some value }
  | .including => some { o with including := o.including ++ [value] }
  | .excluding => some { o with excluding := o.excluding ++ [value] }
  | .help | .version => none

/-- The number of plain words that a command takes. -/
def Verb.count : Verb → Nat
  | .inspect => 1
  | _ => 2

/-- The command takes one more plain word after those before. All are paths except the name of a
controller. -/
def Verb.accepts (v : Verb) (before : List String) (word : String) : Bool :=
  before.length < v.count && (word != "" || v == .controller && before.isEmpty)

/-- The command with its words and options. -/
def Verb.command? (v : Verb) (words : List String) (o : Options) : Option Command :=
  match v, words with
  | .mock, [input, output] => some (.mock input output)
  | .service, [input, output] => some (.service input output)
  | .generate a, [input, output] => some (.generate a input output o.including o.excluding)
  | .controller, [name, directory] => some (.controller name directory)
  | .inspect, [input] => some (.inspect input)
  | _, _ => none

/-- The request of a command's words and options; `project` was given before the command. -/
def finish? (v : Verb) (project : Option String) (words : List String) (o : Options) :
    Option Request :=
  (v.command? words o).map (.run (o.project <|> project))

/-- Reads the words after `--`. -/
def readPlain? (v : Verb) (project : Option String) (o : Options) :
    List String → List String → Option Request
  | words, [] => finish? v project words o
  | words, word :: rest =>
    if v.accepts words word then readPlain? v project o (words ++ [word]) rest else none

/-- Reads the words after the command's name. -/
def readAfter? (v : Verb) (project : Option String) :
    Options → List String → List String → Option Request
  | o, words, [] => finish? v project words o
  | o, words, word :: rest =>
    match Word.read (some v) word with
    | .plain s => if v.accepts words s then readAfter? v project o (words ++ [s]) rest else none
    | .dashes => readPlain? v project o words rest
    | .unknown => none
    | .flag .help none => some .help
    | .flag f (some value) => do readAfter? v project (← o.take? f value) words rest
    | .flag f none =>
      match rest with
      | [] => none
      | value :: rest =>
        match Word.read (some v) value with
        | .plain value => do readAfter? v project (← o.take? f value) words rest
        | _ => none

/-- The help on a command, or on all. -/
def readHelp? : List String → Option Request
  | [] => some .help
  | [word] => if (Verb.named? word).isSome || word == "help" then some .help else none
  | _ => none

/-- Reads the words before and after the command's name. -/
def readFrom? : Options → List String → Option Request
  | _, [] => none
  | o, word :: rest =>
    match Word.read none word with
    | .plain "help" => readHelp? rest
    | .plain s => do readAfter? (← Verb.named? s) o.project {} [] rest
    | .dashes | .unknown => none
    | .flag .help none => some .help
    | .flag .version none => some .version
    | .flag f (some value) => do readFrom? (← o.take? f value) rest
    | .flag f none =>
      match rest with
      | [] => none
      | value :: rest =>
        match Word.read none value with
        | .plain value => do readFrom? (← o.take? f value) rest
        | _ => none

end Arguments

/-- What a row of words asks for, if it fits. -/
def Request.read? (words : List String) : Option Request := Arguments.readFrom? {} words

end DeclGen
