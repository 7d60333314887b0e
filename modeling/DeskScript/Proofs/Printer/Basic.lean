import DeskScript.Proofs.Decimal.Text
import DeskScript.Proofs.Grammar.Basic

/-!
Scripts written from trees. A statement starts on a line of its own and ends with a semicolon; an
operand that is itself an operation stands in parentheses, and so do the coordinates of the mouse.
What is left open is chosen by a layout: for each body whether it stands in braces, for each
further condition whether it begins with one word or two, and for each branch of a conditional
whether `THEN` precedes it.
-/

namespace DeskScript.Printer

open Grammar

def operators : List String :=
  ["||", "OR", "&&", "AND", "==", "!=", "<", ">", "<=", ">=", "+", "-", "*", "/", "%"]

def steps : List String :=
  ["++", "--"]

def printWords : List String :=
  ["PRINT", "PRINTLN"]

def keyWords : List String :=
  ["HOLD", "RELEASE", "PRESS"]

def buttons : List String :=
  ["LEFT", "RIGHT", "MIDDLE", "WHEEL_UP", "WHEEL_DOWN", "SCROLL_UP", "SCROLL_DOWN"]

mutual

def isExpression : Node → Bool
  | .binaryOperation operator left right =>
    operators.contains operator && isExpression left && isExpression right
  | .identifier _ | .integer _ | .string _ | .boolean _ => true
  | .float value => value.isFinite
  | .time value unit => value.isFinite && unit == Node.seconds
  | .functionCall _ arguments => areExpressions arguments
  | .update _ operation _ => steps.contains operation
  | _ => false

def areExpressions : List Node → Bool
  | [] => true
  | first :: others => isExpression first && areExpressions others

end

/-- Whether the type of an assignment is the one it gets: a stated type must suit the value, and
no type is left out where an earlier assignment gave one. -/
def suits (site : Site) (target : String) (value : Node) : Option String → Bool
  | some type => typeNames.contains type && Parser.fits type value
  | none => latestType site.earlier target == none

def isControlValue (control : Control) : Option Node → Bool
  | some value => control.carriesValue && isExpression value
  | none => true

mutual

/-- Whether a node can stand where a statement is read, at a place in a script. -/
def isStatement (site : Site) : Node → Bool
  | .functionDefinition _ parameters body =>
    decide parameters.Nodup && areStatements site.inFunction body
  | .assignment target value type => isExpression value && suits site target value type
  | .printStatement form value => printWords.contains form && isExpression value
  | .waitStatement value => isExpression value
  | .moveMouse x y => isExpression x && isExpression y
  | .keyOperation operation _ => keyWords.contains operation
  | .buttonOperation button => buttons.contains button
  | .emptyStatement => true
  | .functionCall _ arguments => areExpressions arguments
  | .whileLoop condition body | .repeatLoop condition body =>
    isExpression condition && areStatements site.inLoop body
  | .controlStatement control value =>
    decide (control.context ∈ site.contexts) && isControlValue control value
  | .update _ operation _ => steps.contains operation
  | .ifStatement condition thenBody conditions bodies elseBody =>
    let later := site.after (Node.assignmentsOf thenBody)
    isExpression condition && areStatements site thenBody && areExpressions conditions &&
      conditions.length == bodies.length && areBodies later bodies &&
      isElseBody (later.after (Node.assignmentsOfAll bodies)) elseBody
  | _ => false

def areStatements (site : Site) : List Node → Bool
  | [] => true
  | first :: others => isStatement site first && areStatements (site.after first.assignments) others

def areBodies (site : Site) : List (List Node) → Bool
  | [] => true
  | first :: others =>
    areStatements site first && areBodies (site.after (Node.assignmentsOf first)) others

def isElseBody (site : Site) : Option (List Node) → Bool
  | none => true
  | some body => areStatements site body

end

def isOperation : Node → Bool
  | .binaryOperation .. => true
  | _ => false

def operandLevels (node : Node) (levels : Nat) : Nat :=
  if isOperation node then levels + 1 else levels

mutual

def levels : Node → Nat
  | .functionDefinition _ _ body => levelsOf body + 1
  | .assignment _ value _ | .printStatement _ value | .waitStatement value => levels value + 1
  | .moveMouse x y => max (levels x) (levels y) + 1
  | .binaryOperation _ left right =>
    max (operandLevels left (levels left)) (operandLevels right (levels right) + 1)
  | .functionCall _ arguments => levelsOf arguments + 1
  | .whileLoop condition body | .repeatLoop condition body =>
    max (levels condition) (levelsOf body) + 1
  | .controlStatement _ (some value) => levels value + 1
  | .ifStatement condition thenBody conditions bodies elseBody =>
    max (max (levels condition) (levelsOf thenBody))
      (max (levelsOf conditions) (max (levelsOfAll bodies) (levelsOfElse elseBody))) + 1
  | _ => 1

def levelsOf : List Node → Nat
  | [] => 0
  | first :: others => max (levels first) (levelsOf others)

def levelsOfAll : List (List Node) → Nat
  | [] => 0
  | first :: others => max (levelsOf first) (levelsOfAll others)

def levelsOfElse : Option (List Node) → Nat
  | none => 0
  | some body => levelsOf body

end

structure Choice where
  braced : Bool
  oneWord : Bool
  thenWord : Bool

/-- A choice for every construct, which is named by the way to it from the root of the tree. -/
def Layout : Type :=
  List Nat → Choice

namespace Layout

def choice (layout : Layout) : Choice :=
  layout []

def part (layout : Layout) (i : Nat) : Layout :=
  fun path => layout (i :: path)

end Layout

mutual

def height : Node → Nat
  | .functionDefinition _ _ body | .whileLoop _ body | .repeatLoop _ body => heights body + 2
  | .ifStatement _ thenBody _ bodies elseBody =>
    heights thenBody + heightsOfAll bodies + heightOfElse elseBody + 2
  | _ => 1

def heights : List Node → Nat
  | [] => 0
  | first :: others => height first + heights others

def heightsOfAll : List (List Node) → Nat
  | [] => 0
  | first :: others => heights first + 1 + heightsOfAll others

def heightOfElse : Option (List Node) → Nat
  | none => 0
  | some body => heights body + 1

end

def word (line : Nat) (text : String) : Token :=
  ⟨.keyword, some text, line⟩

def sign (line : Nat) (text : String) : Token :=
  ⟨.operator, some text, line⟩

def name (line : Nat) (text : String) : Token :=
  ⟨.identifier, some text, line⟩

def number (line : Nat) (kind : Token.Kind) (negative : Bool) (digits : List Char) : List Token :=
  if negative then [sign line "-", ⟨kind, some (String.ofList digits), line⟩]
  else [⟨kind, some (String.ofList digits), line⟩]

def operator (line : Nat) (text : String) : Token :=
  if text = "AND" ∨ text = "OR" then word line text else sign line text

def operand (line : Nat) (node : Node) (tokens : List Token) : List Token :=
  if isOperation node then sign line "(" :: tokens ++ [sign line ")"] else tokens

mutual

def expression (line : Nat) : Node → List Token
  | .binaryOperation text left right =>
    operand line left (expression line left) ++
      operator line text :: operand line right (expression line right)
  | .identifier text => [name line text]
  | .integer value =>
    number line .integer (value.toInt < 0) (Decimal.integerDigits value)
  | .float value =>
    number line .float (Decimal.isNegative value) (Decimal.written value).plain
  | .time value _ =>
    number line .time (Decimal.isNegative value) (Decimal.written value).plain
  | .string text => [⟨.string, some text, line⟩]
  | .boolean value => [word line (if value then "TRUE" else "FALSE")]
  | .functionCall function [] => [name line function, sign line "(", sign line ")"]
  | .functionCall function (first :: others) =>
    name line function :: sign line "(" ::
      (expression line first ++ (arguments line others ++ [sign line ")"]))
  | .update target operation before =>
    if before then [sign line operation, name line target]
    else [name line target, sign line operation]
  | _ => []

def arguments (line : Nat) : List Node → List Token
  | [] => []
  | first :: others => sign line "," :: (expression line first ++ arguments line others)

end

def parameters (line : Nat) : List String → List Token
  | [] => []
  | first :: others => sign line "," :: name line first :: parameters line others

def parameterList (line : Nat) : List String → List Token
  | [] => []
  | first :: others => name line first :: parameters line others

def typeTokens (line : Nat) : Option String → List Token
  | none => []
  | some type => [sign line ":", name line type]

def body (braced : Bool) (line last : Nat) (inside : List Token) : List Token :=
  if braced then sign line "\x7b" :: (inside ++ [sign last "\x7d"]) else inside

def closer (line : Nat) (text : String) (braced : Bool) : List Token :=
  if braced then [] else [word line text]

def closedBody (braced : Bool) (line last : Nat) (text : String) (inside : List Token) :
    List Token :=
  body braced line last inside ++ closer last text braced

def thenWord (line : Nat) (stated : Bool) : List Token :=
  if stated then [word line "THEN"] else []

def elseIfWords (line : Nat) (oneWord : Bool) : List Token :=
  if oneWord then [word line "ELSEIF"] else [word line "ELSE", word line "IF"]

def allBraced (layout : Layout) : Nat → Bool
  | 0 => true
  | count + 1 => layout.choice.braced && allBraced (layout.part 1) count

def elseBraced (layout : Layout) (elseBody : Option (List Node)) : Bool :=
  elseBody.isNone || layout.choice.braced

mutual

def statement (layout : Layout) (line : Nat) : Node → List Token
  | .functionDefinition function names inside =>
    word line "DEFUN" :: name line function :: sign line "(" ::
      (parameterList line names ++ sign line ")" ::
        closedBody layout.choice.braced line (line + heights inside + 1) "ENDDEFUN"
          (statements (layout.part 0) (line + 1) inside))
  | .assignment target value type =>
    word line "SET" :: name line target ::
      (typeTokens line type ++ sign line "=" :: expression line value)
  | .printStatement form value => word line form :: expression line value
  | .waitStatement value => word line "WAIT" :: expression line value
  | .moveMouse x y =>
    word line "MOVE" :: word line "MOUSE" :: word line "TO" :: sign line "(" ::
      (expression line x ++ sign line "," :: (expression line y ++ [sign line ")"]))
  | .keyOperation operation key =>
    [word line operation, word line "KEY", ⟨.string, some key, line⟩]
  | .buttonOperation button => [word line "PRESS", word line "BUTTON", word line button]
  | .emptyStatement => [word line "PASS"]
  | .whileLoop condition inside =>
    word line "WHILE" :: (expression line condition ++
      closedBody layout.choice.braced line (line + heights inside + 1) "ENDWHILE"
        (statements (layout.part 0) (line + 1) inside))
  | .repeatLoop count inside =>
    word line "REPEAT" :: (expression line count ++ word line "TIMES" ::
      closedBody layout.choice.braced line (line + heights inside + 1) "ENDREPEAT"
        (statements (layout.part 0) (line + 1) inside))
  | .controlStatement control none => [word line control.word]
  | .controlStatement control (some value) => word line control.word :: expression line value
  | .ifStatement condition inside conditions bodies elseBody =>
    let next := line + heights inside + 1
    let last := next + heightsOfAll bodies
    let final := last + heightOfElse elseBody
    word line "IF" :: (expression line condition ++ (thenWord line layout.choice.thenWord ++
      (body layout.choice.braced line next (statements (layout.part 0) (line + 1) inside) ++
        (elseIfs (layout.part 1) next conditions bodies ++
          (elseBranch (layout.part 2) last elseBody ++
            closer final "ENDIF" (layout.choice.braced && allBraced (layout.part 1) bodies.length &&
              elseBraced (layout.part 2) elseBody))))))
  | node => expression line node

def statements (layout : Layout) (line : Nat) : List Node → List Token
  | [] => []
  | first :: others =>
    statement (layout.part 0) line first ++ sign (line + height first - 1) ";" ::
      statements (layout.part 1) (line + height first) others

def elseIfs (layout : Layout) (line : Nat) (conditions : List Node) :
    List (List Node) → List Token
  | [] => []
  | first :: others =>
    elseIfWords line layout.choice.oneWord ++ (conditions.head?.elim [] (expression line) ++
      (thenWord line layout.choice.thenWord ++
        (body layout.choice.braced line (line + heights first + 1)
          (statements (layout.part 0) (line + 1) first) ++
          elseIfs (layout.part 1) (line + heights first + 1) conditions.tail others)))

def elseBranch (layout : Layout) (line : Nat) : Option (List Node) → List Token
  | none => []
  | some inside =>
    word line "ELSE" :: body layout.choice.braced line (line + heights inside + 1)
      (statements (layout.part 0) (line + 1) inside)

end

def program (layout : Layout) (nodes : List Node) : List Token :=
  statements layout 1 nodes ++ [Token.eof (heights nodes + 1)]

end DeskScript.Printer
