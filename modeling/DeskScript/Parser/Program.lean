import DeskScript.Parser.Statement

/-!
Programs: statements up to the first end of the file, and the outcome of reading them.
-/

namespace DeskScript.Parser

def settled {α : Type} : Parser α → Parser α
  | .done a => .done a
  | .failed d =>
    if d.isControlFlow then .perform (.note (.escaped d.line)) (.failed d.settle)
    else .failed d.settle
  | .look next => .look fun view => (next view).settled
  | .perform command next => .perform command next.settled

def topLevel (statement : Parser Node) (read : List Node) : Nat → Parser (List Node)
  | 0 => return read.reverse
  | rounds + 1 => do
    let token ← current
    if token.isEof then
      return read.reverse
    else
      let next ← settled statement
      topLevel statement (next :: read) rounds

def program (settings : Settings) (levels count : Nat) : Parser Node := do
  note (.parsing count)
  let statements ← topLevel (statement settings levels) [] settings.bound
  note (.parsed statements.length)
  return .program statements

structure Outcome where
  result : Except Diagnostic Node
  scopes : Tracker
  journal : List Journal.Event
  position : Nat

def defaultLimit : Nat := 128

def settingsFor (limit : Nat) (options : Options) (tokens : List Token) : Settings :=
  ⟨options, limit, (Cursor.complete tokens).length + 1⟩

def reader (limit : Nat) (options : Options) (tokens : List Token) : Parser Node :=
  program (settingsFor limit options tokens) limit (Cursor.complete tokens).length

def start (scopes : Tracker) (tokens : List Token) : State :=
  ⟨.ofTokens tokens, 0, scopes, []⟩

def parseFrom (limit : Nat) (options : Options) (scopes : Tracker) (tokens : List Token) :
    Outcome :=
  let (result, s) := (reader limit options tokens).run (start scopes tokens)
  ⟨result, s.scopes, s.journal.reverse, s.cursor.position⟩

def parse (options : Options) (tokens : List Token) : Outcome :=
  parseFrom defaultLimit options .initial tokens

end DeskScript.Parser
