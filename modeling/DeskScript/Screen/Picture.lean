import DeskScript.Screen.Style
import DeskScript.Text.Cluster
import DeskScript.Text.Width

/-!
Pictures: rectangles of cells, put together side by side, one above the other and in frames. A
cell shows a cluster; one that takes up more room leaves the cells after it blank, and one that
takes up none is not shown.
-/

namespace DeskScript.Screen

structure Cell where
  symbol : List Char
  style : Style
  deriving DecidableEq, Repr

def Cell.width (cell : Cell) : Nat :=
  Text.clusterWidth cell.symbol

def symbols (text : String) : List (List Char) :=
  (Text.clusters text.toList).filter (· != ['\n'])

def Line.cells (below : Style) (line : Line) : List Cell :=
  line.flatMap fun span => (symbols span.text).map fun symbol => ⟨symbol, span.style.atop below⟩

abbrev Row := List Cell

abbrev Picture := List Row

namespace Row

def blank (style : Style) (width : Nat) : Row :=
  List.replicate width ⟨[' '], style⟩

def spread (below : Style) (cells : List Cell) : Row :=
  cells.flatMap fun cell =>
    match cell.width with
    | 0 => []
    | more + 1 => cell :: blank below more

def ofText (style : Style) (text : String) : Row :=
  spread style ((symbols text).map (⟨·, style⟩))

/--
The clusters up to the first for which there is no room left. One that is wider than the whole
row is passed over.
-/
def within (width room : Nat) : List Cell → List Cell
  | [] => []
  | cell :: rest =>
    if width < cell.width then within width room rest
    else if room < cell.width then []
    else cell :: within width (room - cell.width) rest

def cut (below : Style) (width : Nat) (line : Line) : Row :=
  spread below (within width width (line.cells below))

def fit (below : Style) (width : Nat) (line : Line) : Row :=
  let row := cut below width line
  row ++ blank below (width - row.length)

def fitRight (below : Style) (width : Nat) (line : Line) : Row :=
  let row := cut below width line
  blank below (width - row.length) ++ row

def runs : Row → List (String × Style)
  | [] => []
  | cell :: rest =>
    let symbol := String.ofList cell.symbol
    match runs rest with
    | (text, style) :: others =>
      if cell.style = style then (symbol ++ text, style) :: others
      else (symbol, cell.style) :: (text, style) :: others
    | [] => [(symbol, cell.style)]

def text (row : Row) : String :=
  String.ofList (row.flatMap (·.symbol))

end Row

namespace Picture

def blank (style : Style) (width height : Nat) : Picture :=
  List.replicate height (Row.blank style width)

def ofRows (width height : Nat) (rows : List Row) : Picture :=
  (rows.take height).map (fun row => row.take width ++ Row.blank .plain (width - row.length)) ++
    blank .plain width (height - rows.length)

def ofLines (width height : Nat) (lines : List Line) : Picture :=
  ofRows width height (lines.map (Row.fit .plain width))

def beside (left right : Picture) : Picture :=
  List.zipWith (· ++ ·) left right

def above (top bottom : Picture) : Picture :=
  top ++ bottom

def between (left right : Char) (style : Style) (width : Nat) (inner : Row) : Row :=
  match width with
  | 0 => []
  | 1 => [⟨[left], style⟩]
  | inside + 2 => ⟨[left], style⟩ :: inner.take inside ++ [⟨[right], style⟩]

def line (style : Style) (width : Nat) : Row :=
  List.replicate width ⟨['─'], style⟩

def upperEdge (style : Style) (title : String) (width : Nat) : Row :=
  between '┌' '┐' style width (Row.ofText style title ++ line style width)

def lowerEdge (style : Style) (width : Nat) : Row :=
  between '└' '┘' style width (line style width)

/--
A picture in a frame, two cells wider and higher. Where there is one row only, it is the upper
edge.
-/
def framed (style : Style) (title : String) (width height : Nat) (inner : Picture) : Picture :=
  match height with
  | 0 => []
  | 1 => [upperEdge style title width]
  | inside + 2 =>
    upperEdge style title width ::
      (inner.take inside).map (between '│' '│' style width) ++ [lowerEdge style width]

/-- Draws a row on a screen. `covered` says that the first cell is covered by a cluster before it,
and the last part of the result whether the first cell after the row is. A covered cell keeps
what it shows. -/
def drawRow (covered : Bool) : Row → Row → Row × Bool
  | old :: olds, new :: news =>
    let (row, covers) := drawRow (decide (1 < new.width)) olds news
    ((if covered then old else new) :: row, covers)
  | _, _ => ([], covered)

def drawRows (covered : Bool) : Picture → Picture → Picture
  | old :: olds, new :: news =>
    let (row, covers) := drawRow covered old new
    row :: drawRows covers olds news
  | _, _ => []

def drawnOn (picture screen : Picture) : Picture :=
  drawRows false screen picture

end Picture

end DeskScript.Screen
