import DeskScript.Journal
import DeskScript.Parser.Cursor
import DeskScript.Scope

/-!
Parsers as programs: a parser looks at the state, changes it by commands, and ends with a value
or a diagnostic. `run` carries it out. A parser may change the state also when it fails: the
scopes and the journal of a failed parse are part of its outcome.
-/

namespace DeskScript

structure Options where
  resolveNames : Bool
  checkArity : Bool
  deriving DecidableEq, Repr

namespace Options

def none : Options := ⟨false, false⟩

end Options

namespace Parser

structure Settings where
  options : Options
  limit : Nat
  /-- More than there are tokens, so that no repetition needs as many rounds. -/
  bound : Nat
  deriving DecidableEq, Repr

/-- What changes during a parse. The journal holds the latest event first. -/
structure State where
  cursor : Cursor
  depth : Nat
  scopes : Tracker
  journal : List Journal.Event

structure View where
  current : Token
  next? : Option Token
  previousLine : Nat
  depth : Nat
  scopes : Tracker

def State.view (s : State) : View :=
  ⟨s.cursor.current, s.cursor.next?, s.cursor.previous.line, s.depth, s.scopes⟩

/-- One change of the state. -/
inductive Command where
  | advance
  | deepen
  | rise
  | note (event : Journal.Event)
  | scope (change : Tracker.Change)
  deriving DecidableEq, Repr

def Command.apply : Command → State → State
  | .advance, s => { s with cursor := s.cursor.advance }
  | .deepen, s => { s with depth := s.depth + 1 }
  | .rise, s => { s with depth := s.depth - 1 }
  | .note event, s => { s with journal := event :: s.journal }
  | .scope change, s => { s with scopes := change.apply s.scopes }

def Command.applyAll (commands : List Command) (s : State) : State :=
  commands.foldl (fun s command => command.apply s) s

end Parser

inductive Parser (α : Type) where
  | done (value : α)
  | failed (diagnostic : Diagnostic)
  | look (next : Parser.View → Parser α)
  | perform (command : Parser.Command) (next : Parser α)

namespace Parser

variable {α β : Type}

protected def bind (p : Parser α) (f : α → Parser β) : Parser β :=
  match p with
  | .done a => f a
  | .failed d => .failed d
  | .look next => .look fun view => (next view).bind f
  | .perform command next => .perform command (next.bind f)

instance : Monad Parser where
  pure := .done
  bind := Parser.bind

def run : Parser α → State → Except Diagnostic α × State
  | .done a, s => (.ok a, s)
  | .failed d, s => (.error d, s)
  | .look next, s => (next s.view).run s
  | .perform command next, s => next.run (command.apply s)

def fail (cause : Diagnostic.Cause) (line : Nat) : Parser α :=
  .failed ⟨cause, line⟩

def current : Parser Token :=
  .look fun view => .done view.current

def next? : Parser (Option Token) :=
  .look fun view => .done view.next?

def previousLine : Parser Nat :=
  .look fun view => .done view.previousLine

def depth : Parser Nat :=
  .look fun view => .done view.depth

def scopes : Parser Tracker :=
  .look fun view => .done view.scopes

def advance : Parser Unit :=
  .perform .advance (.done ())

def change (change : Tracker.Change) : Parser Unit :=
  .perform (.scope change) (.done ())

def note (event : Journal.Event) : Parser Unit :=
  .perform (.note event) (.done ())

def performAll (commands : List Command) (next : Parser α) : Parser α :=
  commands.foldr .perform next

def closing (p : Parser α) (after : List Command) : Parser α :=
  match p with
  | .done a => performAll after (.done a)
  | .failed d => performAll after (.failed d)
  | .look next => .look fun view => (next view).closing after
  | .perform command next => .perform command (next.closing after)

def between (before : List Command) (p : Parser α) (after : List Command) : Parser α :=
  performAll before (p.closing after)

def tooDeep (settings : Settings) : Parser α := do
  fail (.tooDeep settings.limit) (← current).line

def nested (settings : Settings) (p : Parser α) : Parser α := do
  if settings.limit ≤ (← depth) then
    tooDeep settings
  else
    between [.deepen] p [.rise]

def unexpected (what : Expectation) : Parser α := do
  let token ← current
  fail (.expected what token.kind token.text) token.line

def accept (test : Token → Bool) : Parser Bool := do
  let token ← current
  if test token then
    advance
    return true
  else
    return false

def acceptOperator (sign : String) : Parser Bool :=
  accept (·.isOperator sign)

def acceptKeyword (word : String) : Parser Bool :=
  accept (·.isKeyword word)

def expectOperator (sign : String) (what : Expectation) : Parser Unit := do
  if ← acceptOperator sign then return ()
  else unexpected what

def expectKeyword (word : String) (what : Expectation) : Parser Unit := do
  if ← acceptKeyword word then return ()
  else unexpected what

def expectIdentifier (what : Expectation) : Parser String := do
  let token ← current
  if token.kind = .identifier then
    advance
    return token.text
  else
    unexpected what

def commaList (item : Parser α) (read : List α) : Nat → Parser (List α)
  | 0 => return read.reverse
  | rounds + 1 => do
    let next ← item
    if ← acceptOperator "," then
      commaList item (next :: read) rounds
    else
      return (next :: read).reverse

end Parser

end DeskScript
