import DeskScript.Proofs.Inspector.Lines
import DeskScript.Proofs.Inspector.Session
import Mathlib.Algebra.Order.Ring.Int

/-!
Sessions on a machine with words of 64 bits, on which a sum, a difference or a conversion may not
fit. A function here whose name ends in a question mark is the one of the inspector with each such
operation in its place, and gives nothing if one of them does not fit. `run?_eq` says that all of
them fit in every session, and that the sessions are the same. Main statement: `session_steady`.
-/

namespace DeskScript

namespace Word

def add? (a b : Nat) : Option Nat :=
  if a + b < 2 ^ 64 then some (a + b) else none

def sub? (a b : Nat) : Option Nat :=
  if b ≤ a then some (a - b) else none

def signed? (n : Int) : Option Int :=
  if -2 ^ 63 ≤ n ∧ n < 2 ^ 63 then some n else none

def unsigned? (n : Int) : Option Nat :=
  if 0 ≤ n then some n.toNat else none

def clamp? (low high n : Int) : Option Int :=
  if low ≤ high then some (max low (min high n)) else none

variable {a b : Nat} {low high n : Int}

theorem add?_of_lt (h : a + b < 2 ^ 64) : add? a b = some (a + b) := if_pos h

theorem sub?_of_le (h : b ≤ a) : sub? a b = some (a - b) := if_pos h

theorem signed?_of_fits (h : -2 ^ 63 ≤ n ∧ n < 2 ^ 63) : signed? n = some n := if_pos h

theorem unsigned?_of_nonneg (h : 0 ≤ n) : unsigned? n = some n.toNat := if_pos h

theorem clamp?_of_le (h : low ≤ high) : clamp? low high n = some (max low (min high n)) := if_pos h

theorem mapM_eq_some_map {α β : Type} {f : α → Option β} {g : α → β} {items : List α}
    (h : ∀ item ∈ items, f item = some (g item)) : items.mapM f = some (items.map g) := by
  induction items with
  | nil => rfl
  | cons item items ih =>
    obtain ⟨first, others⟩ := List.forall_mem_cons.1 h
    rw [List.mapM_cons, first, ih others]
    rfl

end Word

namespace Inspector

open Screen (Line Picture Span Style)
open Word

namespace Source

def literalEnd? (index : Nat) : List Char → Option Nat
  | [] => some index
  | c :: rest => do
    let next ← add? index 1
    if c = '"' then some next else literalEnd? next rest

def highlightFrom? (index : Nat) (word text : List Char) : Option Line :=
  match text with
  | [] => some (wordSpan word false)
  | c :: rest =>
    if c = '#' then
      some (wordSpan word false ++ [⟨String.ofList (c :: rest), .colored Theme.comment⟩])
    else do
      let next ← add? index 1
      if c = '"' then
        let stop ← literalEnd? next rest
        let after ← highlightFrom? stop [] (rest.drop (stop - next))
        pure (wordSpan word false ++
          ⟨String.ofList (c :: rest.take (stop - next)), .colored Theme.string⟩ :: after)
      else if isWordCharacter c then highlightFrom? next (c :: word) rest
      else
        let after ← highlightFrom? next [] rest
        pure (wordSpan word (c == '(') ++ ⟨c.toString, signStyle c⟩ :: after)
termination_by text.length

theorem take_splitLiteral (rest : List Char) :
    rest.take (splitLiteral rest).1.length = (splitLiteral rest).1 :=
  (List.prefix_iff_eq_take.1 ⟨_, splitLiteral_append rest⟩).symm

theorem drop_splitLiteral (rest : List Char) :
    rest.drop (splitLiteral rest).1.length = (splitLiteral rest).2 := by
  have whole := List.take_append_drop (splitLiteral rest).1.length rest
  rw [take_splitLiteral] at whole
  exact List.append_cancel_left (whole.trans (splitLiteral_append rest).symm)

theorem literalEnd?_eq {index : Nat} {rest : List Char} (short : index + rest.length < 2 ^ 64) :
    literalEnd? index rest = some (index + (splitLiteral rest).1.length) := by
  induction rest generalizing index with
  | nil => rfl
  | cons c rest ih =>
    rw [List.length_cons] at short
    rw [literalEnd?, add?_of_lt (by omega), splitLiteral_cons]
    dsimp only [Option.bind_eq_bind, Option.bind_some]
    split
    · rfl
    · rw [ih (by omega), List.length_cons]
      congr 1
      omega

theorem highlightFrom?_eq {index : Nat} {word text : List Char}
    (short : index + text.length < 2 ^ 64) :
    highlightFrom? index word text = some (highlightFrom word text) := by
  fun_induction highlightFrom word text generalizing index with
  | case1 word => rw [highlightFrom?]
  | case2 word rest =>
    rw [highlightFrom?, if_pos rfl]
  | case3 word rest =>
    rename_i literal notComment ih
    rw [List.length_cons] at short
    have lengths := congrArg List.length (splitLiteral_append rest)
    rw [List.length_append] at lengths
    rw [highlightFrom?, if_neg notComment, add?_of_lt (by omega)]
    simp only [Option.bind_eq_bind, Option.bind_some, if_true, Nat.add_sub_cancel_left,
      literalEnd?_eq (show index + 1 + rest.length < 2 ^ 64 by omega)]
    rw [take_splitLiteral, drop_splitLiteral,
      ih (show _ + (splitLiteral rest).2.length < _ by omega)]
    rfl
  | case4 word c rest notComment notLiteral part ih =>
    rw [List.length_cons] at short
    rw [highlightFrom?, if_neg notComment, add?_of_lt (by omega)]
    simp only [Option.bind_eq_bind, Option.bind_some, if_neg notLiteral, if_pos part]
    exact ih (by omega)
  | case5 word c rest notComment notLiteral sign ih =>
    rw [List.length_cons] at short
    rw [highlightFrom?, if_neg notComment, add?_of_lt (by omega)]
    simp only [Option.bind_eq_bind, Option.bind_some, if_neg notLiteral, if_neg sign,
      ih (show index + 1 + rest.length < 2 ^ 64 by omega)]
    rfl

def labelled (number : Nat) (content : Line) (current isError : Bool) : Line :=
  let label := Text.flushRight 4 (toString number) ++ " "
  if current && isError then
    ⟨label, (Style.colored Theme.error).emphasized⟩ ::
      content.map fun span => { span with style := errorLine }
  else if current then
    ⟨label, (Style.colored Theme.secondary).emphasized⟩ ::
      content.map fun span => { span with style := span.style.on Theme.currentLine }
  else ⟨label, .colored Theme.comment⟩ :: content

theorem labelled_highlight (number : Nat) (line : String) (current isError : Bool) :
    labelled number (highlight line) current isError = numbered number line current isError := rfl

def visibleLines? (source : String) (view : View) (visible current : Nat) (isError : Bool) :
    Option (List Line) :=
  let shown := ((Text.lines source).drop view.offset).take visible
  (shown.zipIdx view.offset).mapM fun (line, index) => do
    let number ← add? index 1
    let content ← highlightFrom? 0 [] line.toList
    pure (labelled number content (number == current) isError)

theorem visibleLines?_eq {source : String} (short : source.length < 2 ^ 64) (view : View)
    (visible current : Nat) (isError : Bool) :
    visibleLines? source view visible current isError =
      some (visibleLines source view visible current isError) := by
  have few := Text.length_lines_le source
  unfold visibleLines? visibleLines
  dsimp only
  rw [List.zipIdx_eq_map_add, List.mapM_map, mapM_eq_some_map]
  rintro ⟨line, index⟩ mem
  obtain ⟨-, inside, -⟩ := List.mem_zipIdx mem
  rw [Nat.zero_add, List.length_take, List.length_drop] at inside
  have shown := List.fst_mem_of_mem_zipIdx mem
  have length : line.toList.length ≤ source.length :=
    Text.length_line_le (List.mem_of_mem_drop (List.mem_of_mem_take shown))
  simp (disch := omega) only [Function.comp_apply, add?_of_lt, highlightFrom?_eq,
    Option.bind_eq_bind, Option.bind_some]
  exact congrArg some (labelled_highlight ..)

def View.follow? (view : View) (total visible current : Nat) : Option View :=
  let row := min (view.targetRow.getD (visible / 2)) (visible - 1)
  if 0 < current ∧ current ≤ total then do
    let index ← sub? current 1
    if visible < total then
      let most ← sub? total visible
      pure ⟨min (index - row) most, some row⟩
    else pure ⟨0, some row⟩
  else pure ⟨view.offset, some row⟩

theorem View.follow?_eq (view : View) (total visible current : Nat) :
    view.follow? total visible current = some (view.follow total visible current) := by
  unfold View.follow? View.follow
  dsimp only
  split
  next inside =>
    rw [sub?_of_le inside.1]
    dsimp only [Option.bind_eq_bind, Option.bind_some]
    split
    next more =>
      rw [sub?_of_le (Nat.le_of_lt more)]
      rfl
    next => rfl
  next => rfl

def View.scroll? (view : View) (delta : Int) : Option View :=
  match view.targetRow with
  | none => some view
  | some row => do
    let row ← signed? row
    let delta ← clamp? (-1000000) 1000000 delta
    let row ← signed? (row - delta)
    let row ← unsigned? (max row 0)
    pure { view with targetRow := some row }

theorem View.scroll?_eq {view : View} (near : ∀ row ∈ view.targetRow, row < 2 ^ 16) (delta : Int) :
    view.scroll? delta = some (view.scroll delta) := by
  obtain ⟨offset, - | row⟩ := view
  · rfl
  · have near : row < 2 ^ 16 := near row rfl
    have positive (n : Int) : (max n 0).toNat = n.toNat := by omega
    simp (disch := omega) only [View.scroll?, signed?_of_fits, clamp?_of_le, unsigned?_of_nonneg,
      Option.bind_eq_bind, Option.bind_some, positive]
    rfl

def draw? (width height : Nat) (source : String) (current : Nat) (isError focused : Bool)
    (view : View) : Option (View × Picture) := do
  let visible := visibleRows height
  let view ← view.follow? (Text.lines source).length visible current
  let lines ← visibleLines? source view visible current isError
  let inner := Picture.ofLines (width - 2) (height - 2) lines
  pure (view, Picture.framed (Theme.frame focused) " Source " width height inner)

theorem draw?_eq {source : String} (short : source.length < 2 ^ 64) (width height current : Nat)
    (isError focused : Bool) (view : View) :
    draw? width height source current isError focused view =
      some (draw width height source current isError focused view) := by
  unfold draw?
  simp only [View.follow?_eq, visibleLines?_eq short, Option.bind_eq_bind, Option.bind_some]
  rfl

end Source

namespace Tokens

def View.move? (view : View) (delta : Int) (count : Nat) : Option View :=
  if count = 0 then some { view with selected := 0 }
  else do
    let here ← signed? view.selected
    let target ← signed? (here + delta)
    let count ← signed? count
    let last ← signed? (count - 1)
    let target ← clamp? 0 last target
    let selected ← unsigned? target
    pure { view with selected }

theorem View.move?_eq {view : View} {delta : Int} {count : Nat} (near : view.selected < 2 ^ 62)
    (far : -2 ^ 62 ≤ delta ∧ delta < 2 ^ 62) (few : count < 2 ^ 62) :
    view.move? delta count = some (view.move delta count) := by
  unfold View.move? View.move
  split
  next => rfl
  next some =>
    -- a move goes through half of the range at most, so the target fits before it is clamped
    have reordered (last n : Int) : (max 0 (min last n)).toNat = (max 0 (min n last)).toNat := by
      omega
    simp (disch := omega) only [signed?_of_fits, clamp?_of_le, unsigned?_of_nonneg,
      Option.bind_eq_bind, Option.bind_some, reordered]
    rfl

def View.follow? (view : View) (visible : Nat) : Option View :=
  if view.selected < view.offset then some { view with offset := view.selected }
  else do
    let below ← add? view.offset visible
    if below ≤ view.selected then
      let next ← add? view.selected 1
      let offset ← sub? next visible
      pure { view with offset }
    else pure view

theorem View.follow?_eq {view : View} {visible : Nat} (near : view.selected < 2 ^ 62)
    (low : visible < 2 ^ 16) : view.follow? visible = some (view.follow visible) := by
  unfold View.follow? View.follow
  split
  next => rfl
  next =>
    simp (disch := omega) only [add?_of_lt, Option.bind_eq_bind, Option.bind_some]
    split
    next => simp (disch := omega) only [sub?_of_le, Option.bind_some, Option.pure_def]
    next => rfl

def draw? (width height : Nat) (tokens : List Token) (focused : Bool) (view : View) :
    Option (View × Picture) := do
  let visible := visibleRows height
  let view ← view.follow? visible
  let inner := Picture.ofLines (width - 2) (height - 2) (visibleLines tokens view visible)
  let title := s!" Tokens ({tokens.length}) "
  pure (view, Picture.framed (Theme.frame focused) title width height inner)

theorem draw?_eq {view : View} {height : Nat} (near : view.selected < 2 ^ 62)
    (low : height < 2 ^ 16) (width : Nat) (tokens : List Token) (focused : Bool) :
    draw? width height tokens focused view = some (draw width height tokens focused view) := by
  have rows : visibleRows height < 2 ^ 16 := by
    unfold visibleRows
    omega
  simp only [draw?, View.follow?_eq near rows, Option.bind_eq_bind, Option.bind_some]
  rfl

end Tokens

namespace Tree

def bytes (text : List Char) : Nat :=
  (text.map Char.utf8Size).sum

def splitAt? : Nat → List Char → Option (List Char × List Char)
  | 0, text => some ([], text)
  | _ + 1, [] => none
  | size + 1, c :: rest => do
    let left ← sub? (size + 1) c.utf8Size
    let (before, after) ← splitAt? left rest
    pure (c :: before, after)

theorem bytes_append (before after : List Char) :
    bytes (before ++ after) = bytes before + bytes after := by
  simp [bytes]

theorem splitAt?_append (before after : List Char) :
    splitAt? (bytes before) (before ++ after) = some (before, after) := by
  induction before with
  | nil => simp [bytes, splitAt?]
  | cons c before ih =>
    have sizes : bytes (c :: before) = c.utf8Size + bytes before := by simp [bytes]
    have pos := Char.utf8Size_pos c
    obtain ⟨size, same⟩ := Nat.exists_eq_add_of_lt (show 0 < bytes (c :: before) by omega)
    rw [Nat.zero_add] at same
    have left : size + 1 - c.utf8Size = bytes before := by omega
    rw [same, List.cons_append, splitAt?, sub?_of_le (by omega), left]
    simp [ih]

def spans (blanks rest : List Char) : Line :=
  let indent : Span := ⟨String.ofList blanks, .plain⟩
  match splitName? rest with
  | some (name, value) =>
    if name.head? = some '"' then
      [indent, ⟨String.ofList (name ++ ['"', ':']), .colored Theme.primary⟩, ⟨" ", .plain⟩,
        valueSpan value]
    else [indent, valueSpan rest]
  | none => [indent, valueSpan rest]

def highlight? (line : String) : Option Line := do
  let text := line.toList
  let size ← sub? (bytes text) (bytes (text.dropWhile Text.isBlank))
  let (blanks, rest) ← splitAt? size text
  pure (spans blanks rest)

theorem highlight?_eq (line : String) : highlight? line = some (highlight line) := by
  have parts := List.takeWhile_append_dropWhile (p := Text.isBlank) (l := line.toList)
  have sizes := bytes_append (line.toList.takeWhile Text.isBlank)
    (line.toList.dropWhile Text.isBlank)
  have split := splitAt?_append (line.toList.takeWhile Text.isBlank)
    (line.toList.dropWhile Text.isBlank)
  rw [parts] at sizes split
  have indent : bytes line.toList - bytes (line.toList.dropWhile Text.isBlank) =
      bytes (line.toList.takeWhile Text.isBlank) := by omega
  simp (disch := omega) only [highlight?, sub?_of_le, indent, split, Option.bind_eq_bind,
    Option.bind_some]
  rfl

def draw? (width height : Nat) (tree error : Option String) (focused : Bool) (scroll : Nat) :
    Option (Nat × Picture) :=
  match error with
  | some message => some (draw width height tree (some message) focused scroll)
  | none => do
    let lines := Text.lines (tree.getD "")
    let visible := visibleRows height
    let scroll := min scroll (lines.length - visible)
    let shown ← ((lines.drop scroll).take visible).mapM highlight?
    let inner := Picture.ofLines (width - 2) (height - 2) shown
    pure (scroll, Picture.framed (Theme.frame focused) " AST " width height inner)

theorem draw?_eq (width height : Nat) (tree error : Option String) (focused : Bool)
    (scroll : Nat) : draw? width height tree error focused scroll =
      some (draw width height tree error focused scroll) := by
  cases error with
  | some message => rfl
  | none =>
    simp only [draw?, mapM_eq_some_map fun line _ => highlight?_eq line, Option.bind_eq_bind,
      Option.bind_some]
    rfl

end Tree

def frame? (inspector : Inspector) (size : Size) : Option Frame := do
  let layout := size.layout
  let (sourceView, sourcePane) ←
    Source.draw? layout.leftWidth layout.paneHeight inspector.source inspector.highlightedLine
      inspector.error.isSome (inspector.focus == .source) inspector.sourceView
  let (tokenView, tokenPane) ←
    Tokens.draw? layout.rightWidth layout.tokensHeight inspector.tokens
      (inspector.focus == .tokens) inspector.tokenView
  let (treeScroll, treePane) ←
    Tree.draw? layout.rightWidth layout.treeHeight inspector.tree
      (inspector.error.map Diagnostic.display) (inspector.focus == .tree) inspector.treeScroll
  let bar :=
    Status.draw size.width layout.statusHeight inspector.status inspector.tokens.length
      inspector.statementCount
  pure ⟨size, { inspector with sourceView, tokenView, treeScroll },
    (sourcePane.beside (tokenPane.above treePane)).above bar⟩

theorem frame?_eq {inspector : Inspector} {size : Size}
    (short : inspector.source.length < 2 ^ 64) (near : inspector.tokenView.selected < 2 ^ 62)
    (low : size.height < 2 ^ 16) : inspector.frame? size = some (inspector.frame size) := by
  have low : size.layout.tokensHeight < 2 ^ 16 := by
    change (4 * (size.height - 1) + 5) / 10 < 2 ^ 16
    omega
  simp only [frame?, Source.draw?_eq short, Tokens.draw?_eq near low, Tree.draw?_eq,
    Option.bind_eq_bind, Option.bind_some]
  rfl

def move? (inspector : Inspector) (delta : Int) : Option Inspector :=
  match inspector.focus with
  | .source => do
    let view ← inspector.sourceView.scroll? delta
    pure { inspector with sourceView := view }
  | .tokens => do
    let view ← inspector.tokenView.move? delta inspector.tokens.length
    let status :=
      match inspector.tokens[view.selected]? with
      | some token => s!"Token {view.selected}: {token.describe}"
      | none => inspector.status
    pure { inspector with tokenView := view, status }
  | .tree =>
    -- this sum stops at the ends of its range, so it always fits
    let scroll := max 0 (min maxScroll (inspector.treeScroll + delta))
    some { inspector with treeScroll := scroll.toNat }

theorem move?_eq {inspector : Inspector} {delta : Int}
    (row : ∀ row ∈ inspector.sourceView.targetRow, row < 2 ^ 16)
    (near : inspector.tokenView.selected < 2 ^ 62) (far : -2 ^ 62 ≤ delta ∧ delta < 2 ^ 62)
    (few : inspector.tokens.length < 2 ^ 62) :
    inspector.move? delta = some (inspector.move delta) := by
  unfold move? move
  cases inspector.focus with
  | source =>
    rw [Source.View.scroll?_eq row]
    rfl
  | tokens =>
    rw [Tokens.View.move?_eq near far few]
    rfl
  | tree => rfl

def receive? (inspector : Inspector) : Option Event → Option Inspector
  | some (.press key) =>
    match key.delta? with
    | some delta => inspector.move? delta
    | none => some (inspector.press key)
  | some .other | none => some inspector

theorem delta_range {key : Key} {delta : Int} (h : key.delta? = some delta) :
    -2 ^ 62 ≤ delta ∧ delta < 2 ^ 62 := by
  cases key <;> cases h <;> decide

theorem receive?_eq {inspector : Inspector}
    (row : ∀ row ∈ inspector.sourceView.targetRow, row < 2 ^ 16)
    (near : inspector.tokenView.selected < 2 ^ 62) (few : inspector.tokens.length < 2 ^ 62)
    (event : Option Event) : inspector.receive? event = some (inspector.receive event) := by
  rcases event with - | ⟨key⟩ | -
  · rfl
  · unfold receive?
    dsimp only
    split
    next delta moves =>
      rw [move?_eq row near (delta_range moves) few, ← press_of_delta inspector moves]
      rfl
    next => rfl
  · rfl

def run? (inspector : Inspector) : List Round → Option (List Frame)
  | [] => some []
  | round :: rounds => do
    let frame ← inspector.frame? round.size
    if frame.inspector.quitting then pure [frame]
    else
      let next ← frame.inspector.receive? round.event
      let frames ← next.run? rounds
      pure (frame :: frames)

/-- All operations of a session fit. -/
theorem run?_eq {first inspector : Inspector} {rounds : List Round} (h : Steady first inspector)
    (short : first.source.length < 2 ^ 64) (few : first.tokens.length < 2 ^ 62)
    (low : ∀ round ∈ rounds, round.size.height < 2 ^ 16) :
    inspector.run? rounds = some (inspector.run rounds) := by
  have near {inspector : Inspector} (h : Steady first inspector) :
      inspector.tokenView.selected < 2 ^ 62 := by
    have selected := h.selected
    rw [h.tokens] at selected
    omega
  induction rounds generalizing inspector with
  | nil => rfl
  | cons round rounds ih =>
    obtain ⟨here, later⟩ := List.forall_mem_cons.1 low
    have drawn := h.draw round.size
    -- keys come after drawing, which has just brought the row down to the height of a screen
    have row : ∀ row ∈ (inspector.frame round.size).inspector.sourceView.targetRow,
        row < 2 ^ 16 := by
      obtain ⟨row, some, inside⟩ := (settled_frame inspector round.size).row
      have rows : visibleRows round.size.layout.paneHeight < 2 ^ 16 := by
        change max 1 (round.size.height - 1 - 2) < 2 ^ 16
        omega
      intro other mem
      rw [some, Option.mem_some] at mem
      have inside : row < visibleRows round.size.layout.paneHeight := inside
      omega
    rw [run?, run, frame?_eq (by rw [h.source]; exact short) (near h) here]
    dsimp only [Option.bind_eq_bind, Option.bind_some]
    split
    next => rfl
    next =>
      rw [receive?_eq row (near drawn) (by rw [drawn.tokens]; exact few)]
      dsimp only [Option.bind_some]
      rw [ih (drawn.receive round.event) later]
      rfl

/--
No operation on words overflows in a session, if the text and the screens are of sizes that words
can tell and there are fewer than 2^62 tokens. Whatever arrives and however the screen changes its
size, what was read stays as it is, the selection stays among the tokens, the status is the first
one or about the selected token, and in every frame the panes stand so that they show what they
have to.
-/
theorem session_steady (options : Options) (source : String) (rounds : List Round)
    (short : source.length < 2 ^ 64) (few : (load options source).tokens.length < 2 ^ 62)
    (low : ∀ round ∈ rounds, round.size.height < 2 ^ 16) :
    (load options source).run? rounds = some ((load options source).run rounds) ∧
    Steady (load options source) (load options source) ∧
    ∀ frame ∈ (load options source).run rounds,
      Steady (load options source) frame.inspector ∧ Settled frame ∧
        ∀ event, Steady (load options source) (frame.inspector.receive event) := by
  have start := steady_load options source
  rw [← load_source options source] at short
  refine ⟨run?_eq start short few low, start, fun frame mem => ?_⟩
  obtain ⟨steady, settled⟩ := run_settled start rounds frame mem
  exact ⟨steady, settled, fun event => steady.receive event⟩

def browsing : List Round :=
  [⟨⟨40, 12⟩, some (.press .tab)⟩, ⟨⟨40, 12⟩, some (.press .endKey)⟩,
    ⟨⟨0, 0⟩, some (.press (.char 'q'))⟩, ⟨⟨0, 0⟩, none⟩]

theorem session_steady_browsing :
    (load .none "PRINT 1\nPRINT").run? browsing =
      some ((load .none "PRINT 1\nPRINT").run browsing) ∧
    (∀ frame ∈ (load .none "PRINT 1\nPRINT").run browsing, Settled frame) ∧
    ((load .none "PRINT 1\nPRINT").run browsing).map (·.inspector.tokenView.selected) =
      [0, 0, 3, 3] := by
  have steady := session_steady .none "PRINT 1\nPRINT" browsing (by decide) (by decide +kernel)
    (by decide)
  exact ⟨steady.1, fun frame mem => (steady.2.2 frame mem).2.1, by decide +kernel⟩

end Inspector
end DeskScript
