import DeskScript.Token

/-!
A place in a list of tokens. The list holds the end of the file, and a cursor never moves past
the first such token, so there always is a current token.
-/

namespace DeskScript

structure Cursor where
  passed : List Token
  current : Token
  ahead : List Token
  unended : ∀ token ∈ passed, token.isEof = false
  ending : ∃ token ∈ current :: ahead, token.isEof = true

namespace Cursor

/-- The tokens, with the end of the file added on the line of the last one if it is missing. -/
def complete (tokens : List Token) : List Token :=
  match tokens.getLast? with
  | some last => if last.isEof then tokens else tokens ++ [Token.eof last.line]
  | none => [Token.eof 1]

theorem complete_ending (tokens : List Token) : ∃ token ∈ complete tokens, token.isEof = true := by
  unfold complete
  split
  next last h =>
    split
    · exact ⟨last, List.mem_of_getLast? h, ‹_›⟩
    · exact ⟨Token.eof last.line, by simp, rfl⟩
  · exact ⟨Token.eof 1, by simp, rfl⟩

def ofList : (tokens : List Token) → (∃ token ∈ tokens, token.isEof = true) → Cursor
  | first :: rest, ending => ⟨[], first, rest, by simp, ending⟩
  | [], ending => absurd ending (by simp)

def ofTokens (tokens : List Token) : Cursor :=
  ofList (complete tokens) (complete_ending tokens)

def toList (cursor : Cursor) : List Token :=
  cursor.passed.reverse ++ cursor.current :: cursor.ahead

def position (cursor : Cursor) : Nat :=
  cursor.passed.length

def remaining (cursor : Cursor) : List Token :=
  cursor.current :: cursor.ahead

def step (cursor : Cursor) (goesOn : cursor.current.isEof = false) : Cursor :=
  match h : cursor.ahead with
  | next :: rest =>
    { passed := cursor.current :: cursor.passed
      current := next
      ahead := rest
      unended := by simpa [goesOn] using cursor.unended
      ending := by simpa [goesOn, h] using cursor.ending }
  | [] => absurd cursor.ending (by simp [goesOn, h])

def advance (cursor : Cursor) : Cursor :=
  if ended : cursor.current.isEof = true then cursor
  else cursor.step (by simpa using ended)

/-- The token before the current one; at the very start, the current one. -/
def previous (cursor : Cursor) : Token :=
  cursor.passed.head?.getD cursor.current

def next? (cursor : Cursor) : Option Token :=
  cursor.ahead.head?

end Cursor

end DeskScript
