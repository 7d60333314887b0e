import DeskScript.Proofs.Inspector.Window

/-!
How the source pane follows the highlighted line from frame to frame. Whatever the pane showed
before and however high it was, drawing brings the line into view, on the row that is kept for it
as far as the ends of the script allow. Main statement: `draw_follows`.
-/

namespace DeskScript.Inspector.Source

open Screen (Picture Row)

variable {total visible current : Nat}

namespace View

/-- The pane stands so that the highlighted line is on the row kept for it, but neither above the
script nor so far down that there are blank rows. -/
theorem follow_offset (view : View) (visible : Nat) (inside : 0 < current ∧ current ≤ total) :
    ∃ row, (view.follow total visible current).targetRow = some row ∧
      (view.follow total visible current).offset = min (current - 1 - row) (total - visible) := by
  refine ⟨_, rfl, ?_⟩
  unfold follow
  dsimp only
  rw [if_pos inside]
  -- a script that fits into the pane has no last screenful: `total - visible` is zero
  split <;> omega

theorem follow_filled (view : View) (inside : 0 < current ∧ current ≤ total) :
    (view.follow total visible current).offset = 0 ∨
      (view.follow total visible current).offset + visible ≤ total := by
  obtain ⟨row, -, offset⟩ := view.follow_offset visible inside
  omega

theorem follow_on_row (view : View) (inside : 0 < current ∧ current ≤ total)
    (below : (view.follow total visible current).offset ≠ 0)
    (above : (view.follow total visible current).offset ≠ total - visible) :
    (view.follow total visible current).targetRow =
      some (current - 1 - (view.follow total visible current).offset) := by
  obtain ⟨row, kept, offset⟩ := view.follow_offset visible inside
  rw [kept, Option.some_inj]
  omega

theorem follow_beyond (view : View) (beyond : current = 0 ∨ total < current) :
    (view.follow total visible current).offset = view.offset := by
  unfold follow
  dsimp only
  rw [if_neg (by omega)]

end View

/--
Drawing leaves a row of the pane to keep the highlighted line on. If that is a line of the script,
it is then in view, with no blank rows below while lines are hidden above; the pane, if it has any
rows, shows it with its number, marked, below its upper edge; and it is on the row that is kept,
unless the pane stands at the top or at the end of the script. If there is no such line, the pane
stands where it stood.
-/
theorem draw_follows (width height : Nat) (source : String) (current : Nat)
    (isError focused : Bool) (view : View) :
    let total := (Text.lines source).length
    let visible := max 1 (height - 2)
    let drawn := draw width height source current isError focused view
    ∃ row, drawn.1.targetRow = some row ∧ row < visible ∧
      (1 ≤ current ∧ current ≤ total →
        (drawn.1.offset ≤ current - 1 ∧ current - 1 < drawn.1.offset + visible) ∧
        (drawn.1.offset = 0 ∨ drawn.1.offset + visible ≤ total) ∧
        (drawn.1.offset = 0 ∨ drawn.1.offset = total - visible ∨
          current - 1 = drawn.1.offset + row) ∧
        ∃ line, (Text.lines source)[current - 1]? = some line ∧
          (3 ≤ height → drawn.2[current - drawn.1.offset]? =
            some (Picture.between '│' '│' (Theme.frame focused) width
              (Row.fit .plain (width - 2) (numbered current line true isError))))) ∧
      (current = 0 ∨ total < current → drawn.1.offset = view.offset) := by
  intro total visible drawn
  have stands : view.follow total (visibleRows height) current = drawn.1 := rfl
  obtain ⟨row, kept, short⟩ := view.follow_row total current (visibleRows_pos height)
  refine ⟨row, kept, short, fun inside => ?_, fun beyond => view.follow_beyond beyond⟩
  have shown := view.follow_shows (visibleRows_pos height) inside
  refine ⟨shown, view.follow_filled inside, ?_, ?_⟩
  · by_cases top : drawn.1.offset = 0
    · exact .inl top
    by_cases last : drawn.1.offset = total - visible
    · exact .inr (.inl last)
    have same := Option.some.inj (kept.symm.trans (view.follow_on_row inside top last))
    rw [stands] at same shown
    exact .inr (.inr (by omega))
  · have found := List.getElem?_eq_getElem
      (show current - 1 < (Text.lines source).length by omega)
    refine ⟨_, found, fun room => ?_⟩
    -- with three rows or more, the pane draws as many lines as it reckons with
    have rows : visibleRows height = height - 2 := Nat.max_eq_right (Nat.le_sub_of_add_le room)
    have marked : (visibleLines source (view.follow total (visibleRows height) current)
        (visibleRows height) current isError)[current - 1 - drawn.1.offset]? = _ :=
      visibleLines_getElem? shown.1 shown.2 found
    rw [Nat.sub_add_cancel inside.1, beq_self_eq_true] at marked
    rw [stands] at shown
    have index : current - drawn.1.offset = current - 1 - drawn.1.offset + 1 := by omega
    rw [index]
    exact draw_getElem? width focused marked (by omega)

/-- A pane of three rows in which the last line of four was to be on the third row. -/
theorem draw_follows_last :
    ∃ line, (Text.lines "a\nb\nc\nd")[3]? = some line ∧
      (draw 12 5 "a\nb\nc\nd" 4 false true ⟨0, some 7⟩).1 = ⟨1, some 2⟩ ∧
      (draw 12 5 "a\nb\nc\nd" 4 false true ⟨0, some 7⟩).2[3]? =
        some (Picture.between '│' '│' (Theme.frame true) 12
          (Row.fit .plain 10 (numbered 4 line true false))) := by
  obtain ⟨row, -, -, inside, -⟩ := draw_follows 12 5 "a\nb\nc\nd" 4 false true ⟨0, some 7⟩
  obtain ⟨-, -, -, line, found, drawn⟩ := inside (by decide)
  exact ⟨line, found, by decide, drawn (by decide)⟩

end DeskScript.Inspector.Source
