import DeskScript.Node.Saved
import DeskScript.Parser.Program
import DeskScript.Token.Lexer

/-!
Reading a script as a whole: its tokens first, then its tree.
-/

namespace DeskScript.Script

structure Reading where
  tokens : List Token
  result : Except Diagnostic Node
  journal : List Journal.Event

def read (options : Options) (source : String) : Reading :=
  let scan := Lexer.scan source
  match Lexer.tokenize source with
  | .ok tokens =>
    let outcome := Parser.parse options tokens
    ⟨tokens, outcome.result, scan.journal ++ outcome.journal⟩
  | .error d => ⟨[], .error d, scan.journal⟩

end DeskScript.Script
