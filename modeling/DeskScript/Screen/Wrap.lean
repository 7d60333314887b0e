import DeskScript.Text.Blank
import DeskScript.Text.Width

/-!
Wrapping: clusters in lines that are no wider than a screen, broken at blanks where that is
possible.
-/

namespace DeskScript.Screen

def breaksAt (symbol : List Char) : Bool :=
  symbol == ['\u200b'] || (symbol.all Text.isBlank && symbol != ['\u00a0'])

def room (symbols : List (List Char)) : Nat :=
  symbols.foldl (fun total symbol => total + Text.clusterWidth symbol) 0

def dropWithin (room : Nat) : List (List Char) → List (List Char)
  | [] => []
  | symbol :: rest =>
    let width := Text.clusterWidth symbol
    if room < width then symbol :: rest else dropWithin (room - width) rest

structure Fill where
  line : List (List Char)
  blanks : List (List Char)
  word : List (List Char)
  inWord : Bool
  finished : List (List (List Char))

namespace Fill

def flush (fill : Fill) : Fill :=
  { fill with line := fill.line ++ fill.blanks ++ fill.word, blanks := [], word := [] }

def breakLine (width : Nat) (fill : Fill) : Fill :=
  { fill with
    line := []
    blanks := dropWithin (width - room fill.line) fill.blanks
    finished := fill.finished ++ [fill.line] }

/--
Takes in a cluster. A line that is full ends at any cluster, and one that is full but for blanks
and a word ends at a cluster that takes up room. A cluster wider than a line is passed over.
-/
def add (width : Nat) (fill : Fill) (symbol : List Char) : Fill :=
  let own := Text.clusterWidth symbol
  let space := breaksAt symbol
  let ended := fill.inWord && space
  let crowded := fill.line.isEmpty && decide (width < room fill.word + room fill.blanks + own)
  let flushed := if ended || crowded then fill.flush else fill
  let full :=
    decide (width ≤ room flushed.line) ||
      own != 0 && decide (width ≤ room flushed.line + room flushed.blanks + room flushed.word)
  let next := if full then flushed.breakLine width else flushed
  if width < own then fill
  else if full && space && next.blanks.isEmpty then next
  else if space then { next with blanks := next.blanks ++ [symbol], inWord := false }
  else { next with word := next.word ++ [symbol], inWord := true }

def lines (fill : Fill) : List (List (List Char)) :=
  let lead := if fill.line.isEmpty && fill.word.isEmpty && !fill.blanks.isEmpty then [[]] else []
  let last := fill.flush.line
  let all := fill.finished ++ lead ++ if last.isEmpty then [] else [last]
  if all.isEmpty then [[]] else all

end Fill

def wrap (width : Nat) (symbols : List (List Char)) : List (List (List Char)) :=
  if width = 0 then [] else (symbols.foldl (Fill.add width) ⟨[], [], [], false, []⟩).lines

end DeskScript.Screen
