import DeskScript.Inspector.Basic

/-!
Sessions of the inspector from beginning to end. A session is a sequence of rounds: in each, the
screen is drawn at the size it then has, and something may arrive from the terminal. `Steady` is
what every state of a session keeps, `Settled` what drawing adds to it, and `run_settled` says that
all frames of a session are so.
-/

namespace DeskScript.Inspector

open Screen (Picture)

variable {first inspector : Inspector}

structure Round where
  size : Size
  event : Option Event

structure Frame where
  size : Size
  inspector : Inspector
  picture : Picture

def frame (inspector : Inspector) (size : Size) : Frame :=
  ⟨size, (inspector.draw size).1, (inspector.draw size).2⟩

def receive (inspector : Inspector) (event : Option Event) : Inspector :=
  match event with
  | some event => inspector.handle event
  | none => inspector

/-- The frames of a session. The frame in which a session is found to be ending is its last. -/
def run (inspector : Inspector) : List Round → List Frame
  | [] => []
  | round :: rounds =>
    let frame := inspector.frame round.size
    frame ::
      if frame.inspector.quitting then []
      else (frame.inspector.receive round.event).run rounds

/-- A turn is a session of two rounds on a screen of one size, of one if nothing arrives. -/
theorem turn_run (inspector : Inspector) (screen : Picture) (size : Size) (event : Option Event) :
    ∃ earlier last,
      inspector.run (⟨size, event⟩ :: event.toList.map fun _ => ⟨size, none⟩) = earlier ++ [last] ∧
      inspector.turn screen size event =
        (last.inspector,
          (earlier ++ [last]).foldl (fun shown frame => frame.picture.drawnOn shown) screen,
          last.inspector.quitting) := by
  have drawn (inspector : Inspector) (screen : Picture) : inspector.drawOn screen size =
      ((inspector.frame size).inspector, (inspector.frame size).picture.drawnOn screen) := rfl
  rw [turn, drawn, run]
  by_cases ending : (inspector.frame size).inspector.quitting = true
  · exact ⟨[], inspector.frame size, by simp [ending], by simp [ending]⟩
  · cases event with
    | none => exact ⟨[], inspector.frame size, by simp [ending, run], by simp [ending]⟩
    | some event =>
      exact ⟨[inspector.frame size], ((inspector.frame size).inspector.handle event).frame size,
        by simp [ending, run, receive], by simp [ending, drawn]⟩

theorem Tree.draw_scroll (width height : Nat) (tree error : Option String) (focused : Bool)
    (scroll : Nat) : (Tree.draw width height tree error focused scroll).1 =
      if error.isSome then scroll
      else min scroll ((Text.lines (tree.getD "")).length - visibleRows height) := by
  cases error <;> rfl

theorem frame_inspector (inspector : Inspector) (size : Size) :
    (inspector.frame size).inspector =
      { inspector with
        sourceView := inspector.sourceView.follow (Text.lines inspector.source).length
          (visibleRows size.layout.paneHeight) inspector.highlightedLine
        tokenView := inspector.tokenView.follow (visibleRows size.layout.tokensHeight)
        treeScroll :=
          if inspector.error.isSome then inspector.treeScroll
          else min inspector.treeScroll ((Text.lines (inspector.tree.getD "")).length -
            visibleRows size.layout.treeHeight) } := by
  simp only [frame, draw, Tree.draw_scroll, Option.isSome_map]
  rfl

def Key.delta? : Key → Option Int
  | .up => some (-1)
  | .down => some 1
  | .pageUp => some (-pageSize)
  | .pageDown => some pageSize
  | .home => some (-0x4000000000000000)
  | .endKey => some 0x3FFFFFFFFFFFFFFF
  | .char _ | .tab | .backTab | .escape | .other => none

theorem press_of_delta (inspector : Inspector) {key : Key} {delta : Int}
    (h : key.delta? = some delta) : inspector.press key = inspector.move delta := by
  cases key <;> cases h <;> rfl

theorem press_of_none (inspector : Inspector) {key : Key} (h : key.delta? = none) :
    ∃ focus quitting,
      inspector.press key = { inspector with focus := focus, quitting := quitting } := by
  unfold press
  split
  all_goals first
    | exact ⟨_, _, rfl⟩
    | cases h

def TellsToken (inspector : Inspector) : Prop :=
  ∃ token, inspector.tokens[inspector.tokenView.selected]? = some token ∧
    inspector.status = s!"Token {inspector.tokenView.selected}: {token.describe}"

/-- What a state of a session has in common with its first state. -/
structure Steady (first inspector : Inspector) : Prop where
  source : inspector.source = first.source
  tokens : inspector.tokens = first.tokens
  tree : inspector.tree = first.tree
  statementCount : inspector.statementCount = first.statementCount
  error : inspector.error = first.error
  read : inspector.error = none ↔ inspector.tree.isSome ∧ inspector.statementCount.isSome
  selected : inspector.tokenView.selected < inspector.tokens.length ∨
    inspector.tokens = [] ∧ inspector.tokenView.selected = 0
  status : inspector.status = first.status ∨ inspector.TellsToken

theorem load_source (options : Options) (source : String) :
    (load options source).source = source := by
  rw [load, ofReading]
  split <;> rfl

theorem steady_load (options : Options) (source : String) :
    Steady (load options source) (load options source) where
  source := rfl
  tokens := rfl
  tree := rfl
  statementCount := rfl
  error := rfl
  read := by
    rw [load, ofReading]
    split <;> simp
  selected := by
    have start : (load options source).tokenView.selected = 0 := by
      rw [load, ofReading]
      split <;> rfl
    rw [start]
    rcases (load options source).tokens with - | ⟨token, tokens⟩
    · exact .inr ⟨rfl, rfl⟩
    · exact .inl (Nat.zero_lt_succ _)
  status := .inl rfl

theorem Steady.replace {next : Inspector} (h : Steady first inspector)
    (source : next.source = inspector.source) (tokens : next.tokens = inspector.tokens)
    (tree : next.tree = inspector.tree)
    (statementCount : next.statementCount = inspector.statementCount)
    (error : next.error = inspector.error)
    (selected : next.tokenView.selected = inspector.tokenView.selected)
    (status : next.status = inspector.status) : Steady first next where
  source := source.trans h.source
  tokens := tokens.trans h.tokens
  tree := tree.trans h.tree
  statementCount := statementCount.trans h.statementCount
  error := error.trans h.error
  read := by
    rw [error, tree, statementCount]
    exact h.read
  selected := by
    rw [tokens, selected]
    exact h.selected
  status := by
    rw [TellsToken, tokens, selected, status]
    exact h.status

@[simp] theorem Tokens.View.follow_selected (view : Tokens.View) (visible : Nat) :
    (view.follow visible).selected = view.selected := by
  unfold Tokens.View.follow
  split
  · rfl
  · split <;> rfl

theorem Steady.draw (h : Steady first inspector) (size : Size) :
    Steady first (inspector.frame size).inspector := by
  rw [frame_inspector]
  exact h.replace rfl rfl rfl rfl rfl (Tokens.View.follow_selected ..) rfl

theorem Tokens.View.move_selected_lt (view : Tokens.View) (delta : Int) {count : Nat}
    (some : 0 < count) : (view.move delta count).selected < count := by
  rw [Tokens.View.move, if_neg (Nat.ne_of_gt some)]
  dsimp only
  omega

theorem Steady.move (h : Steady first inspector) (delta : Int) :
    Steady first (inspector.move delta) := by
  unfold Inspector.move
  split
  next => exact h.replace rfl rfl rfl rfl rfl rfl rfl
  next =>
    by_cases none : inspector.tokens = []
    · -- nothing can be selected, so nothing is said of a token
      have zero : inspector.tokenView.selected = 0 := by
        rcases h.selected with inside | ⟨-, zero⟩
        · simp [none] at inside
        · exact zero
      exact h.replace rfl rfl rfl rfl rfl (by simp [none, Tokens.View.move, zero]) (by simp [none])
    · have inside := inspector.tokenView.move_selected_lt delta (List.length_pos_iff.2 none)
      have found := List.getElem?_eq_getElem inside
      exact ⟨h.source, h.tokens, h.tree, h.statementCount, h.error, h.read, .inl inside,
        .inr ⟨_, found, by simp only [found]⟩⟩
  next => exact h.replace rfl rfl rfl rfl rfl rfl rfl

theorem Steady.receive (h : Steady first inspector) (event : Option Event) :
    Steady first (inspector.receive event) := by
  rcases event with - | ⟨key⟩ | -
  · exact h
  · change Steady first (inspector.press key)
    cases delta : key.delta? with
    | some delta' =>
      rw [press_of_delta inspector delta]
      exact h.move delta'
    | none =>
      obtain ⟨focus, quitting, same⟩ := press_of_none inspector delta
      rw [same]
      exact h.replace rfl rfl rfl rfl rfl rfl rfl
  · exact h

/-- How the panes stand in a frame: with what they have to show in view. -/
structure Settled (frame : Frame) : Prop where
  row : ∃ row, frame.inspector.sourceView.targetRow = some row ∧
    row < visibleRows frame.size.layout.paneHeight
  selected : frame.inspector.tokenView.offset ≤ frame.inspector.tokenView.selected ∧
    frame.inspector.tokenView.selected <
      frame.inspector.tokenView.offset + visibleRows frame.size.layout.tokensHeight
  tree : frame.inspector.error = none → frame.inspector.treeScroll = 0 ∨
    frame.inspector.treeScroll + visibleRows frame.size.layout.treeHeight ≤
      (Text.lines (frame.inspector.tree.getD "")).length

theorem visibleRows_pos (height : Nat) : 0 < visibleRows height := by
  unfold visibleRows
  omega

theorem Tokens.View.follow_shows (view : Tokens.View) {visible : Nat} (some : 0 < visible) :
    (view.follow visible).offset ≤ view.selected ∧
      view.selected < (view.follow visible).offset + visible := by
  unfold Tokens.View.follow
  split
  · dsimp only
    omega
  · split
    · dsimp only
      omega
    · omega

theorem Source.View.follow_row (view : Source.View) (total current : Nat) {visible : Nat}
    (some : 0 < visible) :
    ∃ row, (view.follow total visible current).targetRow = .some row ∧ row < visible :=
  ⟨_, rfl, by omega⟩

theorem settled_frame (inspector : Inspector) (size : Size) : Settled (inspector.frame size) where
  row := by
    rw [frame_inspector]
    exact Source.View.follow_row _ _ _ (visibleRows_pos _)
  selected := by
    rw [frame_inspector, Tokens.View.follow_selected]
    exact Tokens.View.follow_shows _ (visibleRows_pos _)
  tree := by
    rw [frame_inspector]
    intro none
    have none : inspector.error = .none := none
    simp only [none, Option.isSome_none, Bool.false_eq_true, if_false]
    change min _ (_ - visibleRows size.layout.treeHeight) = 0 ∨
      min _ _ + visibleRows size.layout.treeHeight ≤ _
    omega

theorem run_frames {P : Inspector → Prop} {Q : Frame → Prop}
    (draws : ∀ inspector size, P inspector →
      P (inspector.frame size).inspector ∧ Q (inspector.frame size))
    (receives : ∀ inspector event, P inspector → P (inspector.receive event))
    (start : P inspector) (rounds : List Round) :
    ∀ frame ∈ inspector.run rounds, P frame.inspector ∧ Q frame := by
  induction rounds generalizing inspector with
  | nil => simp [run]
  | cons round rounds ih =>
    have drawn := draws inspector round.size start
    rw [run]
    refine List.forall_mem_cons.2 ⟨drawn, ?_⟩
    split
    · simp
    · exact ih (receives _ _ drawn.1)

theorem run_settled (h : Steady first inspector) (rounds : List Round) :
    ∀ frame ∈ inspector.run rounds, Steady first frame.inspector ∧ Settled frame :=
  run_frames (fun _ size steady => ⟨steady.draw size, settled_frame _ size⟩)
    (fun _ event steady => steady.receive event) h rounds

end DeskScript.Inspector
