import DeskScript.Parser.Expression

/-!
Statements. Each rule takes the parsers for the expressions and statements inside it, one level
down; `statement` ties them together by recursion on the number of levels.
-/

namespace DeskScript.Parser

structure Body where
  statements : List Node
  braced : Bool

def statementsUntil (closes : Token → Bool) (missing : Expectation) (statement : Parser Node)
    (read : List Node) : Nat → Parser (List Node)
  | 0 => return read.reverse
  | rounds + 1 => do
    let token ← current
    if closes token then
      return read.reverse
    else if token.isEof then
      unexpected missing
    else
      let next ← statement
      statementsUntil closes missing statement (next :: read) rounds

def body (settings : Settings) (statement : Parser Node) (construct : Construct)
    (closers : List String) : Parser Body := do
  if ← acceptOperator "\x7b" then
    let statements ←
      statementsUntil (·.isOperator "\x7d") (.closing "\x7d" construct) statement [] settings.bound
    advance
    return ⟨statements, true⟩
  else
    let statements ←
      statementsUntil (fun token => closers.any token.isKeyword)
        (.closing construct.closer construct) statement [] settings.bound
    return ⟨statements, false⟩

def closeBody (body : Body) : Parser (List Node) := do
  if body.braced then
    return body.statements
  else
    advance
    return body.statements

def typeHint : Parser String := do
  let token ← current
  if token.kind = .identifier ∨ token.kind = .keyword then
    advance
    let name := Text.upper token.text
    if typeNames.contains name then
      return name
    else
      fail (.invalidType token.text) token.line
  else
    unexpected .typeName

def fits (type : String) (value : Node) : Bool :=
  match value with
  | .integer _ => ["INT", "FLOAT", "TIME"].contains type
  | .float _ => ["FLOAT", "TIME"].contains type
  | .time .. => type == "TIME"
  | .string _ => type == "STR"
  | .boolean _ => type == "BOOL"
  | _ => true

def annotation? : Parser (Option String) := do
  if ← acceptOperator ":" then
    let name ← typeHint
    return some name
  else
    return none

def lateAnnotation? (target : String) (early : Option String) : Parser (Option String) := do
  if ← acceptOperator ":" then
    if early.isSome then
      fail (.annotatedTwice target) (← previousLine)
    else
      let name ← typeHint
      return some name
  else
    return early

def declare (target : String) (value : Node) (type : Option String) (line : Nat) :
    Parser Node := do
  match type.filter fun expected => !fits expected value with
  | some expected => fail (.typeMismatch value.kind.label target expected) line
  | none =>
    note (.assignment target type)
    change (.declareVariable target type)
    return .assignment target value type

/--
`SET name [: TYPE] = value [: TYPE]`. Without a type the variable keeps the one it has in the
current scope. It is declared after its value has been read.
-/
def assignment (expression : Parser Node) : Parser Node := do
  let line := (← current).line
  advance
  let target ← expectIdentifier (.variableAfter "SET")
  let early ← annotation?
  expectOperator "=" (.equalsAfter target)
  let value ← expression
  let stated ← lateAnnotation? target early
  declare target value (stated.or ((← scopes).currentTypeOf? target)) line

def parameters (function : String) (seen : List String) : Nat → Parser (List String)
  | 0 => return seen
  | rounds + 1 => do
    let parameter ← expectIdentifier .parameterName
    if seen.contains parameter then
      fail (.duplicateParameter parameter function) (← previousLine)
    else if ← acceptOperator "," then
      parameters function (seen ++ [parameter]) rounds
    else
      return seen ++ [parameter]

def parameterList (settings : Settings) (function : String) : Parser (List String) := do
  if (← current).isOperator ")" then return []
  else parameters function [] settings.bound

def enterFunction (parameters : List String) : List Command :=
  .scope .enter ::
    parameters.map (fun parameter => .scope (.declareVariable parameter none)) ++
      [.scope (.push .function)]

def leaveFunction : List Command :=
  [.scope (.pop .function), .scope .exit]

/--
`DEFUN name(parameters) body`. The function is declared before its body is read, so that it can
call itself; what its body declares is forgotten.
-/
def functionDefinition (settings : Settings) (statement : Parser Node) : Parser Node := do
  advance
  let name ← expectIdentifier .functionName
  expectOperator "(" .openParameters
  let parameters ← parameterList settings name
  expectOperator ")" .closeParameters
  note (.function name parameters.length)
  change (.declareFunction name parameters)
  let body ←
    between (enterFunction parameters) (body settings statement (.function name) ["ENDDEFUN"])
      leaveFunction
  let statements ← closeBody body
  return .functionDefinition name parameters statements

def loopBody (settings : Settings) (statement : Parser Node) (construct : Construct) :
    Parser (List Node) := do
  let body ←
    between [.scope (.push .loop)] (body settings statement construct [construct.closer])
      [.scope (.pop .loop)]
  closeBody body

def whileLoop (settings : Settings) (expression statement : Parser Node) : Parser Node := do
  advance
  let condition ← expression
  let statements ← loopBody settings statement .whileLoop
  return .whileLoop condition statements

def repeatLoop (settings : Settings) (expression statement : Parser Node) : Parser Node := do
  advance
  let count ← expression
  expectKeyword "TIMES" .times
  let statements ← loopBody settings statement .repeatLoop
  return .repeatLoop count statements

def branchClosers : List String :=
  ["ELSEIF", "ELSE", "ENDIF"]

def acceptElseIf : Parser Bool := do
  if ← acceptKeyword "ELSEIF" then
    return true
  else
    let token ← current
    let follows := (← next?).any fun next => next.isKeyword "IF" && next.line == token.line
    if token.isKeyword "ELSE" && follows then
      advance
      advance
      return true
    else
      return false

def branch (settings : Settings) (expression statement : Parser Node) : Parser (Node × Body) := do
  let condition ← expression
  let _ ← acceptKeyword "THEN"
  let body ← body settings statement .conditional branchClosers
  return (condition, body)

def elseIfs (settings : Settings) (expression statement : Parser Node)
    (read : List (Node × Body)) : Nat → Parser (List (Node × Body))
  | 0 => return read.reverse
  | rounds + 1 => do
    if ← acceptElseIf then
      let next ← branch settings expression statement
      elseIfs settings expression statement (next :: read) rounds
    else
      return read.reverse

def elseBranch? (settings : Settings) (statement : Parser Node) : Parser (Option Body) := do
  if ← acceptKeyword "ELSE" then
    let body ← body settings statement .conditional ["ENDIF"]
    return some body
  else
    return none

def closeConditional (bodies : List Body) : Parser Unit := do
  if bodies.all (·.braced) then return ()
  else expectKeyword "ENDIF" (.closing "ENDIF" .conditional)

/--
`IF condition [THEN] body`, further branches, and `ENDIF` if and only if some branch is not in
braces.
-/
def ifStatement (settings : Settings) (expression statement : Parser Node) : Parser Node := do
  advance
  let (condition, thenBody) ← branch settings expression statement
  let others ← elseIfs settings expression statement [] settings.bound
  let last ← elseBranch? settings statement
  closeConditional (thenBody :: others.map (·.2) ++ last.toList)
  return .ifStatement condition thenBody.statements (others.map (·.1))
    (others.map (·.2.statements)) (last.map (·.statements))

/-- The value of a control statement, if an expression starts on the line of the word. -/
def controlValue (expression : Parser Node) (control : Control) (line : Nat) :
    Parser (Option Node) := do
  let token ← current
  if control.carriesValue && token.line == line && token.startsExpression then
    let value ← expression
    return some value
  else
    return none

def controlStatement (expression : Parser Node) (control : Control) : Parser Node := do
  let line := (← current).line
  advance
  let value ← controlValue expression control line
  if (← scopes).inside control.context then
    return .controlStatement control value
  else
    fail (.misplaced control value) line

def closeCoordinates (enclosed : Bool) : Parser Unit := do
  if enclosed then expectOperator ")" .closeCoordinates
  else return ()

def moveMouse (expression : Parser Node) : Parser Node := do
  advance
  expectKeyword "MOUSE" .mouse
  expectKeyword "TO" .destination
  let enclosed ← acceptOperator "("
  let x ← expression
  expectOperator "," .coordinateComma
  let y ← expression
  closeCoordinates enclosed
  return .moveMouse x y

def keyName? (token : Token) : Option String :=
  match token.kind with
  | .keyword =>
    if token.category? = some .keyboardKey then some (Text.upper token.text) else none
  | .identifier | .integer => if token.text.length = 1 then some token.text else none
  | .string => some token.text
  | _ => none

def inputOperation (operation : String) : Parser Node := do
  advance
  if ← acceptKeyword "KEY" then
    match keyName? (← current) with
    | some key =>
      advance
      return .keyOperation operation key
    | none => unexpected .keyName
  else if ← acceptKeyword "BUTTON" then
    let token ← current
    if token.category? = some .mouseButton then
      advance
      return .buttonOperation (Text.upper token.text)
    else
      unexpected .mouseButton
  else
    unexpected (.keyOrButton operation)

def identifierStatement (settings : Settings) (expression : Parser Node) : Parser Node := do
  let token ← current
  let next ← next?
  if next.any (·.isStep) then
    advance
    requireVariable settings token.text
    let operation := (← current).text
    advance
    return .update token.text operation false
  else if next.any (·.isOperator "(") then
    advance
    call settings expression token.text
  else
    fail (.strayIdentifier token.text) token.line

def wordStatement (settings : Settings) (expression statement : Parser Node) (token : Token)
    (word : String) : Parser Node :=
  match Control.ofWord? word with
  | some control => controlStatement expression control
  | none =>
    match word with
    | "SET" => assignment expression
    | "DEFUN" => functionDefinition settings statement
    | "PRINT" | "PRINTLN" => do
      advance
      let value ← expression
      return .printStatement word value
    | "WAIT" => do
      advance
      let value ← expression
      return .waitStatement value
    | "MOVE" => moveMouse expression
    | "HOLD" | "RELEASE" | "PRESS" => inputOperation word
    | "IF" => ifStatement settings expression statement
    | "WHILE" => whileLoop settings expression statement
    | "REPEAT" => repeatLoop settings expression statement
    | "PASS" => do
      advance
      return .emptyStatement
    | _ => fail (.unexpectedKeyword token.text) token.line

def keywordStatement (settings : Settings) (expression statement : Parser Node) :
    Parser Node := do
  let token ← current
  let word := Text.upper token.text
  note (.statement word token.line)
  wordStatement settings expression statement token word

def unterminated (settings : Settings) (expression statement : Parser Node) : Parser Node := do
  let token ← current
  match token.kind with
  | .keyword => keywordStatement settings expression statement
  | .identifier => identifierStatement settings expression
  | .operator => if token.isStep then updateBefore settings else unexpected .statement
  | _ => unexpected .statement

def terminated (settings : Settings) (expression statement : Parser Node) : Parser Node := do
  if ← acceptOperator ";" then
    return .emptyStatement
  else
    let node ← unterminated settings expression statement
    let _ ← acceptOperator ";"
    return node

def statement (settings : Settings) : Nat → Parser Node
  | 0 => tooDeep settings
  | levels + 1 =>
    nested settings
      (terminated settings (expression settings levels 1) (statement settings levels))

end DeskScript.Parser
