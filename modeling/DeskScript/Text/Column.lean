/-!
Fixed columns: text padded with spaces to a least width.
-/

namespace DeskScript.Text

def flushRight (width : Nat) (text : String) : String :=
  String.ofList (List.replicate (width - text.length) ' ') ++ text

def flushLeft (width : Nat) (text : String) : String :=
  text ++ String.ofList (List.replicate (width - text.length) ' ')

end DeskScript.Text
