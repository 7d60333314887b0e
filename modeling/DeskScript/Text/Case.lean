/-!
Letter case. Words of the language are compared without regard to the case of the letters
`a` to `z`; all other characters stand for themselves.
-/

namespace DeskScript.Text

def upper (text : String) : String :=
  String.ofList (text.toList.map Char.toUpper)

def sameWord (a b : String) : Bool :=
  upper a == upper b

def isLetter (c : Char) : Bool :=
  ('a' ≤ c && c ≤ 'z') || ('A' ≤ c && c ≤ 'Z')

def isDigit (c : Char) : Bool :=
  '0' ≤ c && c ≤ '9'

end DeskScript.Text
