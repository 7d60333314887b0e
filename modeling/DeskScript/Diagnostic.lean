import DeskScript.Node
import DeskScript.Token

/-!
Diagnostics: why a script was refused and on which line. A diagnostic keeps the cause as data;
its kind and its words follow from the cause.
-/

namespace DeskScript

inductive Construct where
  | whileLoop
  | repeatLoop
  | conditional
  | function (name : String)
  deriving DecidableEq, Repr

namespace Construct

def label : Construct → String
  | .whileLoop => "WHILE loop"
  | .repeatLoop => "REPEAT loop"
  | .conditional => "IF statement"
  | .function name => s!"function '{name}'"

def closer : Construct → String
  | .whileLoop => "ENDWHILE"
  | .repeatLoop => "ENDREPEAT"
  | .conditional => "ENDIF"
  | .function _ => "ENDDEFUN"

end Construct

inductive Expectation where
  | statement
  | expression
  | variableAfter (word : String)
  | equalsAfter (target : String)
  | typeName
  | functionName
  | openParameters
  | parameterName
  | closeParameters
  | closing (closer : String) (construct : Construct)
  | times
  | mouse
  | destination
  | coordinateComma
  | closeCoordinates
  | mouseButton
  | keyOrButton (operation : String)
  | keyName
  | closeExpression
  | negatedLiteral
  | closeArguments (function : String)
  deriving DecidableEq, Repr

namespace Expectation

def message : Expectation → String
  | .statement => "Expected statement"
  | .expression => "Expected expression"
  | .variableAfter word => s!"Expected variable name after '{word}'"
  | .equalsAfter target => s!"Expected '=' after variable '{target}'"
  | .typeName => "Expected type name after ':'"
  | .functionName => "Expected function name after 'DEFUN'"
  | .openParameters => "Expected '(' after function name"
  | .parameterName => "Expected parameter name"
  | .closeParameters => "Expected ')' after parameters"
  | .closing closer construct => s!"Expected '{closer}' to close {construct.label}"
  | .times => "Expected 'TIMES' after REPEAT count"
  | .mouse => "Expected 'MOUSE' after 'MOVE'"
  | .destination => "Expected 'TO' after 'MOVE MOUSE'"
  | .coordinateComma => "Expected ',' between mouse coordinates"
  | .closeCoordinates => "Expected ')' after mouse coordinates"
  | .mouseButton => "Expected mouse button after 'BUTTON'"
  | .keyOrButton operation => s!"Expected 'KEY' or 'BUTTON' after '{operation}'"
  | .keyName => "Expected key name after 'KEY'"
  | .closeExpression => "Expected ')' after expression"
  | .negatedLiteral => "Expected numeric literal after '-'"
  | .closeArguments function => s!"Expected ')' after arguments to '{function}'"

end Expectation

def typeNames : List String :=
  ["INT", "FLOAT", "STR", "TIME", "BOOL", "POINT"]

namespace Diagnostic

inductive Kind where
  | grammar
  | runtime
  | type
  | number
  | controlFlow (statement : Control) (value : Option Node)
  | skip

namespace Kind

def label : Kind → String
  | .grammar => "Syntax"
  | .runtime => "Runtime"
  | .type => "Type"
  | .number => "Invalid number"
  | .controlFlow .. => "Control flow"
  | .skip => "Continue"

def isControlFlow : Kind → Bool
  | .controlFlow .. => true
  | _ => false

end Kind

inductive Cause where
  | openString
  | openComment
  | malformedNumber (text : String)
  | numberOutOfRange (text : String)
  | integerOutOfRange (text : String)
  | tooDeep (limit : Nat)
  | expected (what : Expectation) (kind : Token.Kind) (text : String)
  | unexpectedKeyword (text : String)
  | strayIdentifier (text : String)
  | misplaced (control : Control) (value : Option Node)
  | annotatedTwice (target : String)
  | invalidType (text : String)
  | typeMismatch (found target type : String)
  | duplicateParameter (parameter function : String)
  | undefinedVariable (name : String)
  | undefinedFunction (name : String)
  | wrongArity (function : String) (declared given : Nat)
  | stated (kind : Kind) (message : String)

namespace Cause

def kind : Cause → Kind
  | .malformedNumber _ | .numberOutOfRange _ | .integerOutOfRange _ => .number
  | .misplaced control value => .controlFlow control value
  | .invalidType _ | .typeMismatch .. | .undefinedVariable _ | .undefinedFunction _
  | .wrongArity .. => .type
  | .stated kind _ => kind
  | .openString | .openComment | .tooDeep _ | .expected .. | .unexpectedKeyword _
  | .strayIdentifier _ | .annotatedTwice _ | .duplicateParameter .. => .grammar

def message : Cause → String
  | .openString => "Unterminated string literal"
  | .openComment => "Unterminated block comment"
  | .malformedNumber text => s!"Invalid number '{text}'"
  | .numberOutOfRange text => s!"Number literal '{text}' is out of range"
  | .integerOutOfRange text => s!"Integer literal '{text}' is out of range"
  | .tooDeep limit => s!"Nesting exceeds {limit} levels"
  | .expected what kind text => s!"{what.message}, found {kind.describe text}"
  | .unexpectedKeyword text => s!"Unexpected keyword '{text}'"
  | .strayIdentifier text => s!"Unexpected identifier '{text}' without context"
  | .misplaced control _ => s!"{control.word} statement outside of {control.context.label}"
  | .annotatedTwice target => s!"Variable '{target}' has two type annotations"
  | .invalidType text =>
    s!"Invalid type '{text}', expected one of " ++ ", ".intercalate typeNames
  | .typeMismatch found target type =>
    s!"Cannot assign {found} value to variable '{target}' of type {type}"
  | .duplicateParameter parameter function =>
    s!"Duplicate parameter '{parameter}' in function '{function}'"
  | .undefinedVariable name => s!"Undefined variable '{name}'"
  | .undefinedFunction name => s!"Undefined function '{name}'"
  | .wrongArity function declared given =>
    s!"Function '{function}' expects {declared} arguments, got {given}"
  | .stated _ message => message

end Cause

end Diagnostic

structure Diagnostic where
  cause : Diagnostic.Cause
  line : Nat

namespace Diagnostic

def kind (d : Diagnostic) : Kind :=
  d.cause.kind

def message (d : Diagnostic) : String :=
  d.cause.message

def isControlFlow (d : Diagnostic) : Bool :=
  d.kind.isControlFlow

def display (d : Diagnostic) : String :=
  s!"{d.kind.label} error at line {d.line}: {d.message}"

/-- What a control statement that nothing takes up amounts to: an error of grammar. -/
def settle (d : Diagnostic) : Diagnostic :=
  if d.isControlFlow then ⟨.stated .grammar d.message, d.line⟩ else d

end Diagnostic

end DeskScript
