import DeskScript.Text.Case

/-!
Reserved words. A word is reserved whatever the case of its letters, and belongs to the first
category that lists it. Single letters are not reserved, so that they can name keys.
-/

namespace DeskScript.Keyword

inductive Category where
  | statement
  | loop
  | io
  | inputControl
  | error
  | control
  | generator
  | type
  | target
  | assertion
  | logical
  | keyboardKey
  | mouseButton
  | boolean
  deriving DecidableEq, Repr

/-- The reserved words by category; the first category of a word counts. -/
def table : List (Category × List String) :=
  [ (.statement, ["SET", "DEFUN", "LAMBDA", "IF", "THEN", "ELSE", "ELSEIF", "ENDIF", "TIMES",
      "RETURN", "BREAK", "CONTINUE", "YIELD", "PASS", "POINT", "ENDWHILE", "ENDREPEAT",
      "ENDDEFUN"]),
    (.loop, ["REPEAT", "WHILE"]),
    (.io, ["PRINTLN", "PRINT", "INPUT", "OPEN", "WRITE", "RUN"]),
    (.inputControl, ["MOVE", "MOUSE", "WAIT", "RELEASE", "HOLD", "PRESS", "FOCUS", "SCROLL"]),
    (.error, ["TRY", "EXCEPT", "FINALLY", "ERROR"]),
    (.control, ["EXIT", "CONTINUE", "BREAK", "RAISE"]),
    (.generator, ["YIELD", "FROM"]),
    (.type, ["APP", "WINDOW", "KEY", "BUTTON"]),
    (.target, ["TO"]),
    (.assertion, ["EXISTS", "IS", "IN", "AT"]),
    (.logical, ["AND", "OR", "NOT"]),
    (.keyboardKey, ["FN", "BACKSPACE", "ENTER", "SPACE", "TAB", "CTRL", "LCTRL", "RCTRL", "ALT",
      "LALT", "RALT", "SHIFT", "LSHIFT", "RSHIFT", "WIN", "LWIN", "RWIN", "DEL", "DELETE", "END",
      "HOME", "INSERT", "PG_UP", "PG_DOWN", "ARROW_LEFT", "ARROW_RIGHT", "ARROW_UP",
      "ARROW_DOWN", "ESC", "CAPS_LOCK", "F1", "F2", "F3", "F4", "F5", "F6", "F7", "F8", "F9",
      "F10", "F11", "F12"]),
    (.mouseButton, ["LEFT", "RIGHT", "MIDDLE", "WHEEL_UP", "WHEEL_DOWN", "SCROLL_UP",
      "SCROLL_DOWN"]),
    (.boolean, ["TRUE", "FALSE"]) ]

def category? (word : String) : Option Category :=
  let word := Text.upper word
  (table.find? fun entry => entry.2.contains word).map (·.1)

def isReserved (word : String) : Bool :=
  (category? word).isSome

end DeskScript.Keyword
