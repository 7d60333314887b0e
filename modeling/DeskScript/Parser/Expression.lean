import DeskScript.Decimal.Reader
import DeskScript.Parser.Basic

/-!
Expressions, by precedence climbing. `expression levels least` reads an expression whose
operators bind at least as tightly as `least`; `levels` is how many more statements and
expressions can open inside one another, and the recursion is on it. Every other rule takes the
parser one level down as an argument.
-/

namespace DeskScript.Parser

def readInt64? (text : String) : Option Int64 :=
  (Decimal.readInt? text).bind Decimal.toInt64?

def literal (kind : Token.Kind) (text : String) (line : Nat) : Parser Node :=
  match kind with
  | .integer =>
    match readInt64? text with
    | some value => return .integer value
    | none => fail (.integerOutOfRange text) line
  | .float =>
    match Decimal.readFloat? text with
    | some value => return .float value
    | none => fail (.malformedNumber text) line
  | _ =>
    match Decimal.readFloat? text with
    | some value => return .time value Node.seconds
    | none => fail (.malformedNumber text) line

def requireVariable (settings : Settings) (name : String) : Parser Unit := do
  if settings.options.resolveNames && !(← scopes).seesVariable name then
    fail (.undefinedVariable name) (← previousLine)
  else
    return ()

def checkCall (settings : Settings) (name : String) (given line : Nat) : Parser Unit := do
  let scopes ← scopes
  if settings.options.resolveNames && !scopes.seesFunction name then
    fail (.undefinedFunction name) line
  else if settings.options.checkArity then
    match scopes.parametersOf? name with
    | some parameters =>
      if parameters.length = given then return ()
      else fail (.wrongArity name parameters.length given) line
    | none => return ()
  else
    return ()

def arguments (settings : Settings) (expression : Parser Node) : Parser (List Node) := do
  if (← current).isOperator ")" then return []
  else commaList expression [] settings.bound

def call (settings : Settings) (expression : Parser Node) (name : String) : Parser Node := do
  let line ← previousLine
  advance
  let arguments ← arguments settings expression
  expectOperator ")" (.closeArguments name)
  checkCall settings name arguments.length line
  return .functionCall name arguments

def updateBefore (settings : Settings) : Parser Node := do
  let operation := (← current).text
  advance
  let name ← expectIdentifier (.variableAfter operation)
  requireVariable settings name
  return .update name operation true

def updateAfter (name : String) (line : Nat) : Parser Node := do
  let token ← current
  if token.isStep && token.line == line then
    advance
    return .update name token.text false
  else
    return .identifier name

def named (settings : Settings) (expression : Parser Node) : Parser Node := do
  let token ← current
  advance
  if (← current).isOperator "(" then
    call settings expression token.text
  else
    requireVariable settings token.text
    updateAfter token.text token.line

def enclosed (expression : Parser Node) : Parser Node := do
  advance
  let inner ← expression
  expectOperator ")" .closeExpression
  return inner

def negated : Parser Node := do
  advance
  let number ← current
  if number.kind.isNumeric then
    advance
    literal number.kind ("-" ++ number.text) number.line
  else
    unexpected .negatedLiteral

def primary (settings : Settings) (expression : Parser Node) : Parser Node := do
  let token ← current
  match token.kind with
  | .integer | .float | .time =>
    advance
    literal token.kind token.text token.line
  | .string =>
    advance
    return .string token.text
  | .keyword =>
    if token.isKeyword "TRUE" then
      advance
      return .boolean true
    else if token.isKeyword "FALSE" then
      advance
      return .boolean false
    else
      unexpected .expression
  | .identifier => named settings expression
  | .operator =>
    if token.isOperator "(" then enclosed expression
    else if token.isOperator "-" then negated
    else if token.isStep then updateBefore settings
    else unexpected .expression
  | .eof => unexpected .expression

def operators (operand : Nat → Parser Node) (least : Nat) : Nat → Node → Parser Node
  | 0, left => return left
  | rounds + 1, left => do
    let token ← current
    match token.precedence? with
    | some precedence =>
      if precedence < least then
        return left
      else
        advance
        let right ← operand (precedence + 1)
        operators operand least rounds (.binaryOperation token.operatorName left right)
    | none => return left

def expression (settings : Settings) : Nat → Nat → Parser Node
  | 0, _ => tooDeep settings
  | levels + 1, least =>
    nested settings do
      let left ← primary settings (expression settings levels 1)
      operators (expression settings levels) least settings.bound left

end DeskScript.Parser
