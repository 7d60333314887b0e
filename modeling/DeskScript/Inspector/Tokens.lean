import DeskScript.Inspector.Source
import DeskScript.Token

/-!
The pane that lists the tokens, one on a row. The selected token is always in view.
-/

namespace DeskScript.Token

def onOneLine (text : String) : String :=
  String.ofList (text.toList.flatMap fun c => if c = '\n' then ['\\', 'n'] else [c])

def row (token : Token) : String :=
  let text :=
    match token.kind with
    | .eof => ""
    | .string => s!"\"{onOneLine token.text}\""
    | _ => token.text
  s!"{Text.flushRight 4 (toString token.line)}  {Text.flushLeft 8 token.kind.label} {text}"

end DeskScript.Token

namespace DeskScript.Inspector.Tokens

open Screen (Color Line Picture Style)

structure View where
  selected : Nat
  offset : Nat
  deriving DecidableEq, Repr

namespace View

def initial : View := ⟨0, 0⟩

def move (view : View) (delta : Int) (count : Nat) : View :=
  if count = 0 then { view with selected := 0 }
  else { view with selected := (max 0 (min (view.selected + delta) (count - 1 : Int))).toNat }

def follow (view : View) (visible : Nat) : View :=
  if view.selected < view.offset then { view with offset := view.selected }
  else if view.offset + visible ≤ view.selected then
    { view with offset := view.selected + 1 - visible }
  else view

end View

def color : Token.Kind → Color
  | .keyword => Theme.keyword
  | .identifier => Theme.text
  | .integer | .float | .time => Theme.number
  | .string => Theme.string
  | .operator => Theme.operator
  | .eof => Theme.comment

def line (token : Token) (selected : Bool) : Line :=
  let style := Style.colored (color token.kind)
  [⟨token.row, if selected then (style.on Theme.currentLine).emphasized else style⟩]

def visibleLines (tokens : List Token) (view : View) (visible : Nat) : List Line :=
  ((tokens.drop view.offset).take visible).zipIdx.map fun (token, index) =>
    line token (view.offset + index == view.selected)

def draw (width height : Nat) (tokens : List Token) (focused : Bool) (view : View) :
    View × Picture :=
  let visible := visibleRows height
  let view := view.follow visible
  let inner := Picture.ofLines (width - 2) (height - 2) (visibleLines tokens view visible)
  let title := s!" Tokens ({tokens.length}) "
  (view, Picture.framed (Theme.frame focused) title width height inner)

end DeskScript.Inspector.Tokens
