import DeskScript.Keyword

/-!
Tokens: the words, numbers, texts and signs of a script, each with the line it starts on.
-/

namespace DeskScript

inductive Token.Kind where
  | keyword
  | identifier
  | integer
  | float
  | time
  | string
  | operator
  | eof
  deriving DecidableEq, Repr

namespace Token.Kind

def label : Kind → String
  | .keyword => "KEYWORD"
  | .identifier => "ID"
  | .integer => "INTEGER"
  | .float => "FLOAT"
  | .time => "TIME"
  | .string => "STRING"
  | .operator => "OPERATOR"
  | .eof => "EOF"

def isNumeric : Kind → Bool
  | .integer | .float | .time => true
  | _ => false

def describe (kind : Kind) (text : String) : String :=
  match kind with
  | .keyword => s!"keyword '{text}'"
  | .identifier => s!"identifier '{text}'"
  | .integer => s!"integer {text}"
  | .float => s!"float {text}"
  | .time => s!"time {text}s"
  | .string => s!"string \"{text}\""
  | .operator => s!"'{text}'"
  | .eof => "end of file"

end Token.Kind

/--
A token. Its value is the text as written, apart from a time, whose value is its length in
seconds; the end of the file has none.
-/
structure Token where
  kind : Token.Kind
  value : Option String
  line : Nat
  deriving DecidableEq, Repr

namespace Token

def eof (line : Nat) : Token :=
  ⟨.eof, none, line⟩

def text (token : Token) : String :=
  token.value.getD ""

def isEof (token : Token) : Bool :=
  token.kind == .eof

def isKeyword (token : Token) (word : String) : Bool :=
  token.kind == .keyword && Text.sameWord token.text word

def isOperator (token : Token) (sign : String) : Bool :=
  token.kind == .operator && token.text == sign

def isStep (token : Token) : Bool :=
  token.isOperator "++" || token.isOperator "--"

def category? (token : Token) : Option Keyword.Category :=
  if token.kind == .keyword then Keyword.category? token.text else none

def describe (token : Token) : String :=
  token.kind.describe token.text

/-- How tightly a binary operator binds its operands, from 1 to 6; none for other tokens. -/
def precedence? (token : Token) : Option Nat :=
  match token.kind with
  | .operator =>
    let sign := token.text
    if sign == "||" then some 1
    else if sign == "&&" then some 2
    else if ["==", "!="].contains sign then some 3
    else if ["<", ">", "<=", ">="].contains sign then some 4
    else if ["+", "-"].contains sign then some 5
    else if ["*", "/", "%"].contains sign then some 6
    else none
  | .keyword =>
    if token.isKeyword "OR" then some 1
    else if token.isKeyword "AND" then some 2
    else none
  | _ => none

def operatorName (token : Token) : String :=
  if token.kind == .keyword then Text.upper token.text else token.text

def startsExpression (token : Token) : Bool :=
  match token.kind with
  | .integer | .float | .time | .string | .identifier => true
  | .keyword => token.isKeyword "TRUE" || token.isKeyword "FALSE"
  | .operator => ["(", "-", "++", "--"].contains token.text
  | .eof => false

end Token

end DeskScript
