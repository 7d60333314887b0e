import DeskScript.Proofs.Inspector.Session

/-!
Where the lines of the script are in the picture of a frame. Rows and panes have the sizes they are
asked for, so the panes come to stand next to one another row by row: the row of a line in the
source pane is one row of the picture, from its left end (`frame_row`).
-/

namespace DeskScript.Screen

variable {below style : Style} {title : String} {width height i : Nat}

namespace Row

theorem length_blank (style : Style) (width : Nat) : (blank style width).length = width :=
  List.length_replicate

theorem length_spread_cons (below : Style) (cell : Cell) (cells : List Cell) :
    (spread below (cell :: cells)).length = cell.width + (spread below cells).length := by
  rw [spread, List.flatMap_cons, List.length_append]
  congr 1
  cases cell.width with
  | zero => rfl
  | succ more => rw [List.length_cons, length_blank]

theorem length_spread_within (below : Style) (width room : Nat) (cells : List Cell) :
    (spread below (within width room cells)).length ≤ room := by
  fun_induction within width room cells with
  | case1 => exact Nat.zero_le _
  | case2 _ _ _ _ ih => exact ih
  | case3 => exact Nat.zero_le _
  | case4 room cell rest narrow fits ih =>
    rw [length_spread_cons]
    omega

theorem length_fit (below : Style) (width : Nat) (line : Line) :
    (fit below width line).length = width := by
  have short : (cut below width line).length ≤ width := length_spread_within ..
  simp only [fit, List.length_append, length_blank]
  omega

end Row

namespace Picture

theorem length_ofRows (width height : Nat) (rows : List Row) :
    (ofRows width height rows).length = height := by
  simp only [ofRows, blank, List.length_append, List.length_map, List.length_take,
    List.length_replicate]
  omega

theorem ofLines_getElem? {lines : List Line} {line : Line} (found : lines[i]? = some line)
    (inside : i < height) :
    (ofLines width height lines)[i]? = some (Row.fit .plain width line) := by
  have bound : i < lines.length := (List.getElem?_eq_some_iff.1 found).1
  have full : (Row.fit .plain width line).length = width := Row.length_fit ..
  rw [ofLines, ofRows, List.getElem?_append_left (by simp; omega), List.getElem?_map,
    List.getElem?_take_of_lt inside, List.getElem?_map, found]
  simp [full, List.take_of_length_le, Row.blank]

theorem length_framed {inner : Picture} (fits : inner.length = height - 2) :
    (framed style title width height inner).length = height := by
  unfold framed
  split
  next => rfl
  next => rfl
  next inside =>
    simp only [List.length_append, List.length_cons, List.length_map, List.length_take,
      List.length_nil]
    omega

theorem framed_getElem? {inner : Picture} {row : Row} (found : inner[i]? = some row)
    (inside : i + 2 < height) :
    (framed style title width height inner)[i + 1]? =
      some (between '│' '│' style width row) := by
  obtain ⟨rows, rfl⟩ := Nat.exists_eq_add_of_lt inside
  have bound : i < inner.length := (List.getElem?_eq_some_iff.1 found).1
  rw [show i + 2 + rows + 1 = (i + rows + 1) + 2 by omega, framed, List.cons_append,
    List.getElem?_cons_succ, List.getElem?_append_left (by simp; omega), List.getElem?_map,
    List.getElem?_take_of_lt (by omega), found]
  rfl

theorem beside_getElem? {left right : Picture} {row : Row} (found : left[i]? = some row)
    (bound : i < right.length) : ∃ other, (left.beside right)[i]? = some (row ++ other) :=
  ⟨right[i], by simp [beside, found, List.getElem?_zipWith, bound]⟩

end Picture

end DeskScript.Screen

namespace DeskScript.Inspector

open Screen (Line Picture Row)

variable {inspector : Inspector} {size : Size} {i : Nat}

theorem Tokens.length_draw (width height : Nat) (tokens : List Token) (focused : Bool)
    (view : Tokens.View) : (Tokens.draw width height tokens focused view).2.length = height :=
  Picture.length_framed (Picture.length_ofRows ..)

theorem Tree.length_draw (width height : Nat) (tree error : Option String) (focused : Bool)
    (scroll : Nat) : (Tree.draw width height tree error focused scroll).2.length = height := by
  cases error <;> exact Picture.length_framed (Picture.length_ofRows ..)

theorem Source.draw_getElem? (width : Nat) {height current : Nat} {source : String}
    {isError : Bool} (focused : Bool) {view : Source.View} {line : Line}
    (found : (Source.visibleLines source
      (view.follow (Text.lines source).length (visibleRows height) current) (visibleRows height)
      current isError)[i]? = some line) (inside : i + 2 < height) :
    (Source.draw width height source current isError focused view).2[i + 1]? =
      some (Picture.between '│' '│' (Theme.frame focused) width
        (Row.fit .plain (width - 2) line)) :=
  Picture.framed_getElem? (Picture.ofLines_getElem? found (by omega)) inside

def Frame.sourceLines (frame : Frame) : List Line :=
  Source.visibleLines frame.inspector.source frame.inspector.sourceView
    (visibleRows frame.size.layout.paneHeight) frame.inspector.highlightedLine
    frame.inspector.error.isSome

/-- A row of a frame is the row of a line in the source pane, with the other panes to its right. -/
def Frame.Draws (frame : Frame) (row : Nat) (line : Line) : Prop :=
  ∃ others, frame.picture[row]? = some
    (Picture.between '│' '│' (Theme.frame (frame.inspector.focus == .source))
      frame.size.layout.leftWidth (Row.fit .plain (frame.size.layout.leftWidth - 2) line) ++ others)

theorem highlightedLine_frame (inspector : Inspector) (size : Size) :
    (inspector.frame size).inspector.highlightedLine = inspector.highlightedLine := by
  rw [frame_inspector, highlightedLine, highlightedLine]
  simp only [Tokens.View.follow_selected]

theorem frame_row {line : Line} (found : (inspector.frame size).sourceLines[i]? = some line)
    (inside : i + 2 < size.layout.paneHeight) : (inspector.frame size).Draws (i + 1) line := by
  have lines : (inspector.frame size).sourceLines = Source.visibleLines inspector.source
      (inspector.sourceView.follow (Text.lines inspector.source).length
        (visibleRows size.layout.paneHeight) inspector.highlightedLine)
      (visibleRows size.layout.paneHeight) inspector.highlightedLine inspector.error.isSome := by
    rw [Frame.sourceLines, highlightedLine_frame, frame_inspector]
    rfl
  rw [lines] at found
  have pane := Source.draw_getElem? size.layout.leftWidth (inspector.focus == .source) found inside
  -- the right column is as high as the left one, so no row of that is cut off
  have column : (Picture.above
      (Tokens.draw size.layout.rightWidth size.layout.tokensHeight inspector.tokens
        (inspector.focus == .tokens) inspector.tokenView).2
      (Tree.draw size.layout.rightWidth size.layout.treeHeight inspector.tree
        (inspector.error.map Diagnostic.display) (inspector.focus == .tree)
        inspector.treeScroll).2).length = size.layout.paneHeight := by
    rw [Picture.above, List.length_append, Tokens.length_draw, Tree.length_draw]
    change (4 * (size.height - 1) + 5) / 10 +
      (size.height - 1 - (4 * (size.height - 1) + 5) / 10) = size.height - 1
    omega
  obtain ⟨others, whole⟩ := Picture.beside_getElem? pane (by rw [column]; omega)
  refine ⟨others, ?_⟩
  exact (List.getElem?_append_left (List.getElem?_eq_some_iff.1 whole).1).trans whole

end DeskScript.Inspector
