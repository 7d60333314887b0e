/-!
Colours and styles of what is drawn. A style may leave a colour open; laid over another style it
then shows the colour below.
-/

namespace DeskScript.Screen

inductive Color where
  | rgb (red green blue : UInt8)
  | white
  | black
  deriving DecidableEq, Repr

structure Style where
  foreground : Option Color
  background : Option Color
  bold : Bool
  deriving DecidableEq, Repr

namespace Style

def plain : Style := ⟨none, none, false⟩

def colored (color : Color) : Style := ⟨some color, none, false⟩

def emphasized (style : Style) : Style := { style with bold := true }

def on (style : Style) (color : Color) : Style := { style with background := some color }

def atop (top below : Style) : Style :=
  ⟨top.foreground.or below.foreground, top.background.or below.background, top.bold || below.bold⟩

end Style

structure Span where
  text : String
  style : Style
  deriving DecidableEq, Repr

abbrev Line := List Span

namespace Line

def text (line : Line) : String :=
  String.join (line.map (·.text))

end Line

end DeskScript.Screen
