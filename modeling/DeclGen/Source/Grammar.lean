import DeclGen.Source.Phrase

/-!
# The grammar of the declaration language

Types, expressions and statements as phrases. Declarations that end up in the model are read by
`DeclGen.Source.Reader`; of all other source text only the extent matters, and it is given here.

Two choices are not forced by the grammar. A record line such as `G[T]`, followed by a line that could
be the element of an array, is an embedded field; and `type A [N * M]T` is an array type and not a
parametrised one.
-/

namespace DeclGen.Source

/-- The rules of the grammar. -/
inductive Rule
  | type
  | simpleType
  | mapType
  | channelType
  | functionType
  | sliceType
  | arrayType
  | structType
  | interfaceType
  | negatedType
  | namedType
  | typeElement
  | typeArguments
  | parameters
  | parameter
  | result
  | field
  | fieldEnd
  | element
  | typeParameters
  | typeParameter
  | typeSpec
  | constSpec
  | varSpec
  | importSpec
  | importDeclaration
  | expression
  | expressions
  | unary
  | primary
  | operand
  | composite
  | conversion
  | suffix
  | index
  | item
  | arguments
  | literalValue
  | value
  | block
  | statements
  | statement
  | declaration
  | simpleStatement
  | labelled
  | ifStatement
  | forStatement
  | switchStatement
  | typeSwitchHeader
  | selectStatement
  | switchCase
  | caseItem
  | communicationCase
  | defaultCase
deriving DecidableEq, Repr

namespace Grammar

open Phrase Terminal

/-- A keyword. -/
def key (text : String) : Phrase Rule := token (keyword text)

/-- A sign. -/
def sign (text : String) : Phrase Rule := token (symbol text)

/-- One of several signs. -/
def anySign (texts : List String) : Phrase Rule := token (oneOf texts)

/-- A name. -/
def aName : Phrase Rule := token someName

/-- A phrase at least once, with commas between. -/
def commaSeparated (p : Phrase Rule) : Phrase Rule := all [p, many (all [sign ",", p])]

/-- A list in which a comma may follow the last item. -/
def trailingList (p : Phrase Rule) : Phrase Rule :=
  all [optional (commaSeparated p), optional (sign ",")]

/-- A phrase between parentheses. -/
def parenthesised (p : Phrase Rule) : Phrase Rule := all [sign "(", within .inside p, sign ")"]

/-- A phrase between brackets. -/
def bracketed (p : Phrase Rule) : Phrase Rule := all [sign "[", within .inside p, sign "]"]

/-- Parts with terminators between them; one may follow the last part. -/
def terminated (p : Phrase Rule) : Phrase Rule :=
  optional (all [p, many (all [terminator, p]), optional terminator])

/-- A declaration of one specification, or of a group of them in parentheses. -/
def specifications (word : String) (spec : Phrase Rule) : Phrase Rule :=
  all [key word, first [spec, all [sign "(", within .block (terminated spec), sign ")"]]]

/-- A declaration of one specification, or of a group in which each is terminated. -/
def terminatedSpecifications (word : String) (spec : Phrase Rule) : Phrase Rule :=
  all [key word,
    first [spec, all [sign "(", within .block (many (all [spec, terminator])), sign ")"]]]

/-- The operators between two expressions. -/
def binaryOperators : List String :=
  ["*", "/", "%", "<<", ">>", "&", "&^", "+", "-", "|", "^", "==", "!=", "<", "<=", ">", ">=", "&&",
   "||"]

/-- The operators before an expression. -/
def unaryOperators : List String := ["+", "-", "!", "^", "*", "&", "<-"]

/-- The signs of an assignment. -/
def assignments : List String :=
  [":=", "=", "+=", "-=", "*=", "/=", "%=", "<<=", ">>=", "&=", "&^=", "|=", "^="]

/-- What each rule stands for. -/
def rules : Grammar Rule
  | .type => first [parenthesised (rule .type), rule .simpleType]
  | .simpleType =>
    first [all [sign "*", rule .type], rule .sliceType, rule .arrayType, rule .mapType,
      rule .channelType, rule .functionType, rule .structType, rule .interfaceType,
      rule .negatedType, rule .namedType]
  | .mapType => all [key "map", bracketed (rule .type), rule .type]
  | .channelType =>
    first [all [key "chan", optional (sign "<-"), rule .type],
      all [sign "<-", key "chan", rule .type]]
  | .functionType => all [key "func", rule .parameters, rule .result]
  | .sliceType => all [sign "[", sign "]", rule .type]
  | .arrayType => all [bracketed (rule .expression), rule .type]
  | .structType =>
    all [key "struct", sign "\x7b", within .block (terminated (rule .field)), sign "\x7d"]
  | .interfaceType =>
    all [key "interface", sign "\x7b", within .block (terminated (rule .element)), sign "\x7d"]
  | .negatedType => all [sign "~", rule .type]
  | .namedType =>
    all [aName, optional (onLine (all [sign ".", aName])), optional (onLine (rule .typeArguments))]
  | .typeElement => all [rule .type, many (onLine (all [sign "|", rule .type]))]
  | .typeArguments =>
    bracketed (all [commaSeparated (rule .typeElement), optional (sign ",")])
  | .parameters => parenthesised (trailingList (rule .parameter))
  | .parameter =>
    first [all [sign "...", rule .type], all [aName, sign "...", rule .type],
      all [aName, rule .type, ahead (anySign [",", ")"])],
      all [rule .type, ahead (anySign [",", ")"])]]
  | .result => optional (onLine (first [rule .parameters, rule .simpleType]))
  | .field =>
    all [first [all [sign "*", rule .namedType], all [rule .namedType, ahead (rule .fieldEnd)],
        all [aName, sign ",", commaSeparated aName, rule .type], all [aName, onLine (rule .type)]],
      optional (onLine (token text))]
  | .fieldEnd =>
    first [sign "\x7d", onLine (token text),
      all [terminator, first [aName, sign "*", sign "\x7d"]]]
  | .element =>
    first [all [aName, onLine (rule .parameters), rule .result], rule .typeElement]
  | .typeParameters =>
    bracketed (all [commaSeparated (rule .typeParameter), optional (sign ",")])
  | .typeParameter => all [commaSeparated aName, rule .typeElement]
  | .typeSpec =>
    first [all [aName, sign "=", rule .type], all [aName, rule .type],
      all [aName, rule .typeParameters, optional (sign "="), rule .type]]
  | .constSpec =>
    all [aName, many (onLine (all [sign ",", aName])),
      optional (onLine (all [optional (rule .type), sign "=", rule .expressions]))]
  | .varSpec =>
    all [commaSeparated aName,
      first [all [sign "=", rule .expressions],
        all [rule .type, optional (onLine (all [sign "=", rule .expressions]))]]]
  | .importSpec => all [optional (first [sign ".", aName]), token text]
  | .importDeclaration => specifications "import" (rule .importSpec)
  | .expression => all [rule .unary, many (onLine (all [anySign binaryOperators, rule .unary]))]
  | .expressions => all [rule .expression, many (onLine (all [sign ",", rule .expression]))]
  | .unary => first [all [anySign unaryOperators, rule .unary], rule .primary]
  | .primary => all [rule .operand, many (onLine (rule .suffix))]
  | .operand =>
    first [token number, token rune, token text,
      all [key "func", rule .parameters, rule .result, rule .block],
      rule .composite, rule .conversion,
      all [first [token (named "new"), token (named "make")],
        onLine (parenthesised (all [rule .type, many (all [sign ",", rule .expression]),
          optional (sign ",")]))],
      aName, parenthesised (rule .expression),
      all [parenthesised (rule .type), ahead (onLine (sign "("))]]
  | .composite =>
    first [all [sign "[", sign "...", sign "]", rule .type, rule .literalValue],
      all [first [rule .sliceType, rule .arrayType, rule .mapType, rule .structType],
        onLine (rule .literalValue)],
      all [literals, rule .namedType, onLine (rule .literalValue)]]
  | .conversion =>
    all [first [rule .sliceType, rule .arrayType, rule .mapType, rule .structType, rule .channelType,
        rule .interfaceType, rule .functionType],
      onLine (parenthesised (all [rule .expression, optional (sign ",")]))]
  | .suffix =>
    first [all [sign ".", first [aName, parenthesised (rule .type)]], rule .index, rule .arguments]
  | .index =>
    let bounds := all [optional (rule .expression), optional (all [sign ":", rule .expression])]
    bracketed (first [all [sign ":", bounds],
      all [rule .item,
        first [all [sign ":", bounds],
          all [many (all [sign ",", rule .item]), optional (sign ",")]]]])
  | .item =>
    first [all [rule .expression, ahead (anySign [",", "]", ":"])], rule .typeElement]
  | .arguments => parenthesised (trailingList (all [rule .expression, optional (sign "...")]))
  | .literalValue =>
    all [sign "\x7b",
      within .inside (trailingList (all [rule .value, optional (all [sign ":", rule .value])])),
      sign "\x7d"]
  | .value => first [rule .literalValue, rule .expression]
  | .block => all [sign "\x7b", within .block (optional (rule .statements)), sign "\x7d"]
  | .statements =>
    all [rule .statement, many (all [terminator, rule .statement]), optional terminator]
  | .statement =>
    first [rule .declaration, all [key "return", optional (onLine (rule .expressions))],
      all [key "go", rule .expression], all [key "defer", rule .expression],
      rule .ifStatement, rule .forStatement, rule .switchStatement, rule .selectStatement,
      key "fallthrough", all [key "break", optional (onLine aName)],
      all [key "continue", optional (onLine aName)], all [key "goto", aName],
      rule .block, sign ";", rule .labelled, rule .simpleStatement]
  | .declaration =>
    first [specifications "type" (rule .typeSpec),
      terminatedSpecifications "const" (rule .constSpec),
      terminatedSpecifications "var" (rule .varSpec)]
  | .simpleStatement =>
    let more := onLine (all [sign ",", rule .expression])
    all [rule .expression,
      first [all [more, many more, onLine (anySign assignments), rule .expressions],
        optional (onLine (first [all [anySign assignments, rule .expressions],
          anySign ["++", "--"], all [sign "<-", rule .expression]]))]]
  | .labelled =>
    all [aName, onLine (sign ":"),
      first [rule .statement, ahead (first [sign "\x7d", key "case", key "default"])]]
  | .ifStatement =>
    all [key "if",
      within .header (first [all [rule .simpleStatement, sign ";", rule .expression],
        rule .expression]),
      rule .block, optional (onLine (all [key "else", first [rule .ifStatement, rule .block]]))]
  | .forStatement =>
    all [key "for",
      within .header (first [
        all [optional (all [rule .expressions, anySign [":=", "="]]), key "range", rule .expression],
        all [optional (rule .simpleStatement), sign ";", optional (rule .expression), sign ";",
          optional (rule .simpleStatement)],
        optional (rule .expression)]),
      rule .block]
  | .typeSwitchHeader =>
    all [optional (all [rule .simpleStatement, sign ";"]),
      optional (all [rule .expressions, sign ":="]), rule .primary, sign ".", sign "(", key "type",
      sign ")"]
  | .switchStatement =>
    all [key "switch",
      within .header (first [rule .typeSwitchHeader,
        all [optional (all [rule .simpleStatement, sign ";"]), optional (rule .expression)]]),
      sign "\x7b", within .block (many (first [rule .switchCase, rule .defaultCase])), sign "\x7d"]
  | .selectStatement =>
    all [key "select", sign "\x7b",
      within .block (many (first [rule .communicationCase, rule .defaultCase])), sign "\x7d"]
  | .switchCase =>
    all [key "case", within .inside (commaSeparated (rule .caseItem)), sign ":",
      optional (rule .statements)]
  | .caseItem => first [all [rule .expression, ahead (anySign [",", ":"])], rule .type]
  | .communicationCase =>
    all [key "case", within .inside (rule .simpleStatement), sign ":", optional (rule .statements)]
  | .defaultCase => all [key "default", sign ":", optional (rule .statements)]

end Grammar

end DeclGen.Source
