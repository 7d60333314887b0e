import DeskScript.Inspector.Theme
import DeskScript.Keyword
import DeskScript.Screen.Picture
import DeskScript.Text.Alphanumeric
import DeskScript.Text.Column
import DeskScript.Text.Lines

/-!
The pane that shows the script, with numbered and coloured lines. It keeps the highlighted line
on one row of the pane as far as the ends of the script allow.
-/

namespace DeskScript.Inspector

open Screen (Color Line Picture Span Style)

def visibleRows (height : Nat) : Nat :=
  max 1 (height - 2)

namespace Source

def wordStyle (word : String) (called : Bool) : Style :=
  if word.toList.head?.any Text.isDigit then .colored Theme.number
  else
    match Keyword.category? word with
    | some .boolean => .colored Theme.number
    | some .keyboardKey | some .mouseButton => .colored Theme.keyName
    | some _ => (Style.colored Theme.keyword).emphasized
    | none => .colored (if called then Theme.function else Theme.text)

def signStyle (c : Char) : Style :=
  if ['\x7b', '\x7d', '(', ')'].contains c then .colored Theme.primary
  else if ['+', '-', '*', '/', '%', '=', '&', '|', '!', '<', '>'].contains c then
    .colored Theme.operator
  else .colored Theme.text

def isWordCharacter (c : Char) : Bool :=
  Text.isAlphanumeric c || c == '_' || c == '.'

def wordSpan (word : List Char) (called : Bool) : List Span :=
  if word.isEmpty then []
  else
    let text := String.ofList word.reverse
    [⟨text, wordStyle text called⟩]

def splitLiteral (rest : List Char) : List Char × List Char :=
  match rest.dropWhile (· != '"') with
  | quote :: after => (rest.takeWhile (· != '"') ++ [quote], after)
  | [] => (rest, [])

theorem splitLiteral_cons (c : Char) (rest : List Char) :
    splitLiteral (c :: rest) =
      if c = '"' then ([c], rest) else (c :: (splitLiteral rest).1, (splitLiteral rest).2) := by
  by_cases quote : c = '"'
  · subst quote
    rfl
  · have goesOn : (c != '"') = true := by simpa using quote
    rw [if_neg quote, splitLiteral, List.dropWhile_cons_of_pos (by exact goesOn),
      List.takeWhile_cons_of_pos (by exact goesOn), splitLiteral]
    split <;> rfl

theorem splitLiteral_append (rest : List Char) :
    (splitLiteral rest).1 ++ (splitLiteral rest).2 = rest := by
  have split := List.takeWhile_append_dropWhile (p := (· != '"')) (l := rest)
  unfold splitLiteral
  cases h : rest.dropWhile (· != '"') with
  | nil => simp
  | cons quote after =>
    rw [h] at split
    simpa using split

theorem length_splitLiteral_le (rest : List Char) :
    (splitLiteral rest).2.length ≤ rest.length := by
  have := congrArg List.length (splitLiteral_append rest)
  rw [List.length_append] at this
  omega

def highlightFrom (word : List Char) (text : List Char) : Line :=
  match text with
  | [] => wordSpan word false
  | c :: rest =>
    if c = '#' then wordSpan word false ++ [⟨String.ofList (c :: rest), .colored Theme.comment⟩]
    else if c = '"' then
      let literal := splitLiteral rest
      wordSpan word false ++ ⟨String.ofList (c :: literal.1), .colored Theme.string⟩ ::
        highlightFrom [] literal.2
    else if isWordCharacter c then highlightFrom (c :: word) rest
    else
      wordSpan word (c == '(') ++ ⟨c.toString, signStyle c⟩ :: highlightFrom [] rest
termination_by text.length
decreasing_by
  · have := length_splitLiteral_le rest
    simp only [List.length_cons]
    omega
  · simp
  · simp

def highlight (line : String) : Line :=
  highlightFrom [] line.toList

structure View where
  offset : Nat
  targetRow : Option Nat
  deriving DecidableEq, Repr

namespace View

def initial : View := ⟨0, none⟩

/--
The view for a pane with `visible` rows: the highlighted line is put on its row, which at first
is the middle one, but no blank rows are shown while lines are hidden above. A line that is not
in the script leaves the offset alone.
-/
def follow (view : View) (total visible current : Nat) : View :=
  let row := min (view.targetRow.getD (visible / 2)) (visible - 1)
  let offset :=
    if 0 < current ∧ current ≤ total then
      if visible < total then min (current - 1 - row) (total - visible) else 0
    else view.offset
  ⟨offset, some row⟩

def scroll (view : View) (delta : Int) : View :=
  let delta := max (-1000000) (min 1000000 delta)
  { view with targetRow := view.targetRow.map fun row => (row - delta : Int).toNat }

end View

def errorLine : Style :=
  ⟨some .white, some Theme.error, true⟩

def numbered (number : Nat) (line : String) (current isError : Bool) : Line :=
  let content := highlight line
  let label := Text.flushRight 4 (toString number) ++ " "
  if current && isError then
    ⟨label, (Style.colored Theme.error).emphasized⟩ ::
      content.map fun span => { span with style := errorLine }
  else if current then
    ⟨label, (Style.colored Theme.secondary).emphasized⟩ ::
      content.map fun span => { span with style := span.style.on Theme.currentLine }
  else ⟨label, .colored Theme.comment⟩ :: content

def visibleLines (source : String) (view : View) (visible current : Nat) (isError : Bool) :
    List Line :=
  let shown := ((Text.lines source).drop view.offset).take visible
  shown.zipIdx.map fun (line, index) =>
    let number := view.offset + index + 1
    numbered number line (number == current) isError

def draw (width height : Nat) (source : String) (current : Nat) (isError focused : Bool)
    (view : View) : View × Picture :=
  let visible := visibleRows height
  let view := view.follow (Text.lines source).length visible current
  let lines := visibleLines source view visible current isError
  let inner := Picture.ofLines (width - 2) (height - 2) lines
  (view, Picture.framed (Theme.frame focused) " Source " width height inner)

end Source

end DeskScript.Inspector
