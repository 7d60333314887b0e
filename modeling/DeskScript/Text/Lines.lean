/-!
Lines of a text. A line feed ends a line, a carriage return right before it belongs to that
end, and text after the last line feed is one more line unless it is empty.
-/

namespace DeskScript.Text

def linesFrom (current : List Char) : List Char → List (List Char)
  | [] => if current.isEmpty then [] else [current.reverse]
  | c :: rest =>
    if c = '\n' then
      match current with
      | '\r' :: before => before.reverse :: linesFrom [] rest
      | _ => current.reverse :: linesFrom [] rest
    else linesFrom (c :: current) rest

def lines (text : String) : List String :=
  (linesFrom [] text.toList).map String.ofList

end DeskScript.Text
