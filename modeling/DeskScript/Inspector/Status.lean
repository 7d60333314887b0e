import DeskScript.Inspector.Theme
import DeskScript.Screen.Picture

/-!
The bar at the bottom: how the script fares on the left, the keys on the right.
-/

namespace DeskScript.Inspector.Status

open Screen (Color Line Picture Row Style)

def summary (message : String) (tokens : Nat) (statements : Option Nat) : Line :=
  let badge (color : Color) : Style := ⟨some .black, some color, true⟩
  let note (color : Color) : Style := (Style.colored color).on Theme.currentLine
  match statements with
  | some count =>
    [⟨s!" {tokens} tokens, {count} statements ", badge Theme.success⟩,
      ⟨" | ", note Theme.comment⟩, ⟨s!" {message} ", note Theme.text⟩]
  | none =>
    [⟨" ERROR ", badge Theme.error⟩, ⟨" | ", note Theme.comment⟩,
      ⟨s!" {message} ", note Theme.error⟩]

def keys : Line :=
  let key : Style := ⟨some .black, some Theme.comment, false⟩
  let words : Style := (Style.colored Theme.text).on Theme.currentLine
  let bar : Style := (Style.colored Theme.comment).on Theme.currentLine
  [⟨" ⇥ ", key⟩, ⟨" focus ", words⟩, ⟨"│", bar⟩, ⟨" ", words⟩,
    ⟨" ↑/↓ ", key⟩, ⟨" move ", words⟩, ⟨"│", bar⟩, ⟨" ", words⟩,
    ⟨" PgUp/PgDn ", key⟩, ⟨" page ", words⟩, ⟨"│", bar⟩, ⟨" ", words⟩,
    ⟨"q", key⟩, ⟨" quit ", words⟩]

def halves (width : Nat) : Nat × Nat :=
  ((width + 1) / 2, width / 2)

def draw (width height : Nat) (message : String) (tokens : Nat) (statements : Option Nat) :
    Picture :=
  let below : Style := Style.plain.on Theme.currentLine
  let (left, right) := halves width
  match height with
  | 0 => []
  | rows + 1 =>
    let first :=
      Row.fit below left (summary message tokens statements) ++ Row.fitRight below right keys
    first :: Picture.blank below width rows

end DeskScript.Inspector.Status
