import DeskScript.Inspector.Source
import DeskScript.Inspector.Status
import DeskScript.Inspector.Tokens
import DeskScript.Inspector.Tree
import DeskScript.Script

/-!
The inspector: a script, its tokens and its tree on one screen. Drawing fixes how far the panes
are scrolled, so it gives the next state along with the picture; keys move the focus, move within
the pane in focus or end the session.
-/

namespace DeskScript

inductive Inspector.Pane where
  | source
  | tokens
  | tree
  deriving DecidableEq, Repr

namespace Inspector.Pane

def next : Pane → Pane
  | .source => .tokens
  | .tokens => .tree
  | .tree => .source

def previous : Pane → Pane
  | .source => .tree
  | .tokens => .source
  | .tree => .tokens

end Inspector.Pane

structure Inspector where
  source : String
  tokens : List Token
  tree : Option String
  statementCount : Option Nat
  error : Option Diagnostic
  focus : Inspector.Pane
  sourceView : Inspector.Source.View
  tokenView : Inspector.Tokens.View
  treeScroll : Nat
  quitting : Bool
  status : String

namespace Inspector

open Screen (Picture Style)

def ofReading (source : String) (reading : Script.Reading) : Inspector :=
  let start (tree : Option String) (count : Option Nat) (error : Option Diagnostic)
      (status : String) : Inspector :=
    { source, tokens := reading.tokens, tree, statementCount := count, error, status
      focus := .source, sourceView := .initial, tokenView := .initial, treeScroll := 0
      quitting := false }
  match reading.result with
  | .ok program =>
    start (some program.savePretty) (some program.statements.length) none "Parsed successfully"
  | .error d => start none none (some d) d.display

def load (options : Options) (source : String) : Inspector :=
  ofReading source (Script.read options source)

def loadJournal (options : Options) (source : String) : List Journal.Event :=
  (Script.read options source).journal ++ [.inspecting (load options source).status]

def highlightedLine (inspector : Inspector) : Nat :=
  match inspector.error with
  | some d => d.line
  | none => ((inspector.tokens[inspector.tokenView.selected]?).map (·.line)).getD 0

structure Size where
  width : Nat
  height : Nat
  deriving DecidableEq, Repr

structure Layout where
  leftWidth : Nat
  rightWidth : Nat
  paneHeight : Nat
  tokensHeight : Nat
  treeHeight : Nat
  statusHeight : Nat
  deriving DecidableEq, Repr

def Size.layout (size : Size) : Layout :=
  let (left, right) := Status.halves size.width
  let height := size.height - 1
  let upper := (4 * height + 5) / 10
  ⟨left, right, height, upper, height - upper, min 1 size.height⟩

def draw (inspector : Inspector) (size : Size) : Inspector × Picture :=
  let layout := size.layout
  let (sourceView, sourcePane) :=
    Source.draw layout.leftWidth layout.paneHeight inspector.source inspector.highlightedLine
      inspector.error.isSome (inspector.focus == .source) inspector.sourceView
  let (tokenView, tokenPane) :=
    Tokens.draw layout.rightWidth layout.tokensHeight inspector.tokens
      (inspector.focus == .tokens) inspector.tokenView
  let (treeScroll, treePane) :=
    Tree.draw layout.rightWidth layout.treeHeight inspector.tree
      (inspector.error.map Diagnostic.display) (inspector.focus == .tree) inspector.treeScroll
  let bar :=
    Status.draw size.width layout.statusHeight inspector.status inspector.tokens.length
      inspector.statementCount
  ({ inspector with sourceView, tokenView, treeScroll },
    (sourcePane.beside (tokenPane.above treePane)).above bar)

def drawOn (inspector : Inspector) (screen : Picture) (size : Size) : Inspector × Picture :=
  let (inspector, picture) := inspector.draw size
  (inspector, picture.drawnOn screen)

inductive Key where
  | char (c : Char)
  | tab
  | backTab
  | up
  | down
  | pageUp
  | pageDown
  | home
  | endKey
  | escape
  | other
  deriving DecidableEq, Repr

inductive Event where
  | press (key : Key)
  /-- Anything else: a key held or released, focus, pasted text. -/
  | other
  deriving DecidableEq, Repr

def pageSize : Int := 10

def maxScroll : Int := 0xFFFFFFFFFFFFFFFF

/-- Moves within the pane in focus. -/
def move (inspector : Inspector) (delta : Int) : Inspector :=
  match inspector.focus with
  | .source => { inspector with sourceView := inspector.sourceView.scroll delta }
  | .tokens =>
    let view := inspector.tokenView.move delta inspector.tokens.length
    let status :=
      match inspector.tokens[view.selected]? with
      | some token => s!"Token {view.selected}: {token.describe}"
      | none => inspector.status
    { inspector with tokenView := view, status }
  | .tree =>
    let scroll := max 0 (min maxScroll (inspector.treeScroll + delta))
    { inspector with treeScroll := scroll.toNat }

def press (inspector : Inspector) (key : Key) : Inspector :=
  match key with
  | .char 'q' | .char 'Q' | .escape => { inspector with quitting := true }
  | .tab => { inspector with focus := inspector.focus.next }
  | .backTab => { inspector with focus := inspector.focus.previous }
  | .up => inspector.move (-1)
  | .down => inspector.move 1
  | .pageUp => inspector.move (-pageSize)
  | .pageDown => inspector.move pageSize
  | .home => inspector.move (-0x4000000000000000)
  | .endKey => inspector.move 0x3FFFFFFFFFFFFFFF
  | .char _ | .other => inspector

def handle (inspector : Inspector) (event : Event) : Inspector :=
  match event with
  | .press key => inspector.press key
  | .other => inspector

/--
One turn of a session: draw, take in an event if one has arrived, and draw again. Nothing more
happens once the session is to end. What the screen shows at last is given, and whether the
session ended.
-/
def turn (inspector : Inspector) (screen : Picture) (size : Size) (event : Option Event) :
    Inspector × Picture × Bool :=
  let (inspector, screen) := inspector.drawOn screen size
  if inspector.quitting then (inspector, screen, true)
  else
    match event with
    | none => (inspector, screen, false)
    | some event =>
      let (inspector, screen) := (inspector.handle event).drawOn screen size
      (inspector, screen, inspector.quitting)

end Inspector

end DeskScript
