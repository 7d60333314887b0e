import DeskScript.Text.Case

/-!
Control statements, which leave a loop or a function, and the constructs they leave.
-/

namespace DeskScript

inductive Context where
  | loop
  | function
  deriving DecidableEq, Repr

namespace Context

def label : Context → String
  | .loop => "loop"
  | .function => "function"

end Context

inductive Control where
  | break
  | continue
  | return
  | yield
  deriving DecidableEq, Repr

namespace Control

def word : Control → String
  | .break => "BREAK"
  | .continue => "CONTINUE"
  | .return => "RETURN"
  | .yield => "YIELD"

def all : List Control :=
  [.break, .continue, .return, .yield]

def ofWord? (word : String) : Option Control :=
  all.find? fun control => control.word == word

def ofKeyword? (word : String) : Option Control :=
  ofWord? (Text.upper word)

def carriesValue : Control → Bool
  | .return | .yield => true
  | .break | .continue => false

def context : Control → Context
  | .break | .continue => .loop
  | .return | .yield => .function

end Control

end DeskScript
