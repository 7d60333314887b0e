import DeskScript.Control

/-!
The tree of a script. One type serves programs, statements and expressions, since saved trees
may hold any node in any place; which nodes a script gives rise to is the parser's affair.
-/

namespace DeskScript

inductive Node where
  | program (statements : List Node)
  | functionDefinition (name : String) (parameters : List String) (body : List Node)
  | assignment (target : String) (value : Node) (type : Option String)
  | printStatement (form : String) (expression : Node)
  | waitStatement (expression : Node)
  | moveMouse (x y : Node)
  | keyOperation (operation key : String)
  | buttonOperation (button : String)
  | binaryOperation (operator : String) (left right : Node)
  | identifier (name : String)
  | integer (value : Int64)
  | float (value : Float)
  | time (value : Float) (unit : String)
  | string (value : String)
  | emptyStatement
  | functionCall (function : String) (arguments : List Node)
  | boolean (value : Bool)
  | whileLoop (condition : Node) (body : List Node)
  | repeatLoop (count : Node) (body : List Node)
  | controlStatement (control : Control) (value : Option Node)
  | update (target operation : String) (before : Bool)
  | ifStatement (condition : Node) (thenBody : List Node) (elseIfConditions : List Node)
      (elseIfBodies : List (List Node)) (elseBody : Option (List Node))

namespace Node

/-- The unit of every time that a script gives rise to. -/
def seconds : String := "s"

inductive Kind where
  | program
  | functionDefinition
  | assignment
  | printStatement
  | waitStatement
  | moveMouse
  | keyOperation
  | buttonOperation
  | binaryOperation
  | identifier
  | integer
  | float
  | time
  | string
  | emptyStatement
  | functionCall
  | boolean
  | whileLoop
  | repeatLoop
  | controlStatement
  | update
  | ifStatement
  deriving DecidableEq, Repr

namespace Kind

def all : List Kind :=
  [.program, .functionDefinition, .assignment, .printStatement, .waitStatement, .moveMouse,
    .keyOperation, .buttonOperation, .binaryOperation, .identifier, .integer, .float, .time,
    .string, .emptyStatement, .functionCall, .boolean, .whileLoop, .repeatLoop,
    .controlStatement, .update, .ifStatement]

def label : Kind → String
  | .program => "PROGRAM"
  | .functionDefinition => "FUNCTION_DEFINITION"
  | .assignment => "ASSIGNMENT"
  | .printStatement => "PRINT_STATEMENT"
  | .waitStatement => "WAIT_STATEMENT"
  | .moveMouse => "MOVE_MOUSE"
  | .keyOperation => "KEY_OPERATION"
  | .buttonOperation => "BUTTON_OPERATION"
  | .binaryOperation => "BINARY_OPERATION"
  | .identifier => "IDENTIFIER"
  | .integer => "INTEGER"
  | .float => "FLOAT"
  | .time => "TIME"
  | .string => "STRING"
  | .emptyStatement => "EMPTY_STATEMENT"
  | .functionCall => "FUNCTION_CALL"
  | .boolean => "BOOLEAN"
  | .whileLoop => "WHILE_LOOP"
  | .repeatLoop => "REPEAT_LOOP"
  | .controlStatement => "CONTROL_STATEMENT"
  | .update => "INCREMENT_DECREMENT"
  | .ifStatement => "IF_STATEMENT"

def fields : Kind → List String
  | .program => ["statements"]
  | .functionDefinition => ["name", "parameters", "body"]
  | .assignment => ["variable_name", "value", "var_type"]
  | .printStatement => ["print_type", "expression"]
  | .waitStatement => ["expression"]
  | .moveMouse => ["x", "y"]
  | .keyOperation => ["operation", "key"]
  | .buttonOperation => ["button"]
  | .binaryOperation => ["operator", "left", "right"]
  | .identifier => ["name"]
  | .integer => ["value"]
  | .float => ["value"]
  | .time => ["value", "unit"]
  | .string => ["value"]
  | .emptyStatement => []
  | .functionCall => ["function_name", "arguments"]
  | .boolean => ["value"]
  | .whileLoop => ["condition", "body"]
  | .repeatLoop => ["count", "body"]
  | .controlStatement => ["statement_type", "value"]
  | .update => ["variable", "operation", "is_prefix"]
  | .ifStatement => ["condition", "then_body", "else_if_conditions", "else_if_bodies", "else_body"]

def ofLabel? (label : String) : Option Kind :=
  all.find? fun kind => kind.label == label

end Kind

def kind : Node → Kind
  | .program .. => .program
  | .functionDefinition .. => .functionDefinition
  | .assignment .. => .assignment
  | .printStatement .. => .printStatement
  | .waitStatement .. => .waitStatement
  | .moveMouse .. => .moveMouse
  | .keyOperation .. => .keyOperation
  | .buttonOperation .. => .buttonOperation
  | .binaryOperation .. => .binaryOperation
  | .identifier .. => .identifier
  | .integer .. => .integer
  | .float .. => .float
  | .time .. => .time
  | .string .. => .string
  | .emptyStatement => .emptyStatement
  | .functionCall .. => .functionCall
  | .boolean .. => .boolean
  | .whileLoop .. => .whileLoop
  | .repeatLoop .. => .repeatLoop
  | .controlStatement .. => .controlStatement
  | .update .. => .update
  | .ifStatement .. => .ifStatement

def isLiteral : Node → Bool
  | .integer .. | .float .. | .time .. | .string .. | .boolean .. => true
  | _ => false

def statements : Node → List Node
  | .program statements => statements
  | _ => []

/-- A conditional, provided that every further condition has its body. -/
def ofBranches? (condition : Node) (thenBody elseIfConditions : List Node)
    (elseIfBodies : List (List Node)) (elseBody : Option (List Node)) : Option Node :=
  if elseIfConditions.length = elseIfBodies.length then
    some (.ifStatement condition thenBody elseIfConditions elseIfBodies elseBody)
  else none

mutual

/-- Equality of trees, where doubles are compared as numbers: zero equals its negative. -/
def same : Node → Node → Bool
  | .program a, .program b => sameList a b
  | .functionDefinition n p a, .functionDefinition m q b => n == m && p == q && sameList a b
  | .assignment t v y, .assignment u w z => t == u && same v w && y == z
  | .printStatement f e, .printStatement g d => f == g && same e d
  | .waitStatement e, .waitStatement d => same e d
  | .moveMouse x y, .moveMouse z w => same x z && same y w
  | .keyOperation o k, .keyOperation p l => o == p && k == l
  | .buttonOperation b, .buttonOperation c => b == c
  | .binaryOperation o l r, .binaryOperation p m s => o == p && same l m && same r s
  | .identifier n, .identifier m => n == m
  | .integer v, .integer w => v == w
  | .float v, .float w => v == w
  | .time v u, .time w t => v == w && u == t
  | .string v, .string w => v == w
  | .emptyStatement, .emptyStatement => true
  | .functionCall f a, .functionCall g b => f == g && sameList a b
  | .boolean v, .boolean w => v == w
  | .whileLoop c a, .whileLoop d b => same c d && sameList a b
  | .repeatLoop c a, .repeatLoop d b => same c d && sameList a b
  | .controlStatement c v, .controlStatement d w => c == d && sameOption v w
  | .update t o f, .update u p g => t == u && o == p && f == g
  | .ifStatement c t cs bs e, .ifStatement d u ds as f =>
    same c d && sameList t u && sameList cs ds && sameLists bs as && sameBody e f
  | _, _ => false

def sameList : List Node → List Node → Bool
  | [], [] => true
  | a :: as, b :: bs => same a b && sameList as bs
  | _, _ => false

def sameLists : List (List Node) → List (List Node) → Bool
  | [], [] => true
  | a :: as, b :: bs => sameList a b && sameLists as bs
  | _, _ => false

def sameOption : Option Node → Option Node → Bool
  | none, none => true
  | some a, some b => same a b
  | _, _ => false

def sameBody : Option (List Node) → Option (List Node) → Bool
  | none, none => true
  | some a, some b => sameList a b
  | _, _ => false

end

end Node

end DeskScript
