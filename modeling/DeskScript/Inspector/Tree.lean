import DeskScript.Inspector.Source
import DeskScript.Screen.Wrap

/-!
The pane that shows the tree of the script in its saved form, or why there is none.
-/

namespace DeskScript.Inspector.Tree

open Screen (Line Picture Row Span Style)

def valueStyle (value : List Char) : Style :=
  let bare := (value.reverse.dropWhile (· == ',')).reverse
  if bare.head? = some '"' then .colored Theme.string
  else if bare = "true".toList ∨ bare = "false".toList ∨
      bare.head?.any fun c => c == '-' || Text.isDigit c then .colored Theme.number
  else if bare = "null".toList then .colored Theme.comment
  else .colored Theme.text

def valueSpan (value : List Char) : Span :=
  ⟨String.ofList value, valueStyle value⟩

def splitName? : List Char → Option (List Char × List Char)
  | [] => none
  | c :: rest =>
    if "\": ".toList.isPrefixOf (c :: rest) then some ([], rest.drop 2)
    else (splitName? rest).map fun (name, value) => (c :: name, value)

def highlight (line : String) : Line :=
  let text := line.toList
  let indent : Span := ⟨String.ofList (text.takeWhile Text.isBlank), .plain⟩
  let rest := text.dropWhile Text.isBlank
  match splitName? rest with
  | some (name, value) =>
    if name.head? = some '"' then
      [indent, ⟨String.ofList (name ++ ['"', ':']), .colored Theme.primary⟩, ⟨" ", .plain⟩,
        valueSpan value]
    else [indent, valueSpan rest]
  | none => [indent, valueSpan rest]

def errorStyle : Style :=
  (Style.colored Theme.error).emphasized

def draw (width height : Nat) (tree error : Option String) (focused : Bool) (scroll : Nat) :
    Nat × Picture :=
  let frame := Picture.framed (Theme.frame focused) " AST " width height
  match error with
  | some message =>
    let lines := Screen.wrap (width - 2) (Screen.symbols message)
    let rows := lines.map fun line => Row.spread .plain (line.map (⟨·, errorStyle⟩))
    (scroll, frame (Picture.ofRows (width - 2) (height - 2) rows))
  | none =>
    let lines := Text.lines (tree.getD "")
    let visible := visibleRows height
    let scroll := min scroll (lines.length - visible)
    let shown := ((lines.drop scroll).take visible).map highlight
    (scroll, frame (Picture.ofLines (width - 2) (height - 2) shown))

end DeskScript.Inspector.Tree
