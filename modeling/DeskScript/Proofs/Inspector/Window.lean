import DeskScript.Proofs.Inspector.Lines
import DeskScript.Proofs.Inspector.Panes
import DeskScript.Proofs.Token.Opening
import DeskScript.Proofs.Twins.Blame

/-!
What the source pane shows of a script in every frame of a session. The line to highlight is in
view whenever it is a line of the script. That of a selected token other than the end of the file
always is, and the token begins there (`selection_in_view`); that of an error is, unless the error
is reported behind the last line feed of the script and nothing follows it (`failing_line`).
-/

namespace DeskScript

namespace Lexer

variable {source : String} {tokens : List Token} {token : Token} {text taken rest : List Char}
variable {kind : Token.Kind} {value : String} {i : Nat}

/-- A lexeme of a script is the one that the token with an index stands for: the tokens before it
are read from the text before the lexeme, and then the lexeme is taken. -/
structure Placed (source : String) (tokens : List Token) (i : Nat)
    (before lexeme rest : List Char) : Prop where
  whole : source.toList = before ++ (lexeme ++ rest)
  earlier : Opening 1 before (lexeme ++ rest) (tokens.take i)
  here : ∃ token value, tokens[i]? = some token ∧ token.value = some value ∧
    step (lexeme ++ rest) = .token token.kind value lexeme rest

theorem placed_of_tokenize (h : tokenize source = .ok tokens) (found : tokens[i]? = some token)
    (ordinary : token.kind ≠ .eof) : ∃ before lexeme rest,
      Placed source tokens i before lexeme rest ∧ token.line = 1 + newlines before := by
  obtain ⟨others, opening, rfl⟩ := tokenize_eq_ok_iff.1 h
  have bound : i < others.length := Nat.lt_of_not_le fun beyond => by
    rw [List.getElem?_append_right beyond] at found
    obtain rfl := List.mem_singleton.1 (List.mem_of_getElem? found)
    exact ordinary rfl
  have here := List.getElem?_eq_getElem bound
  rw [List.getElem?_append_left bound, here] at found
  obtain rfl := Option.some.inj found
  rw [← List.take_append_drop i others, List.drop_eq_getElem_cons bound] at opening
  obtain ⟨before, lexeme, after, kind, value, whole, same, earlier, taken, -⟩ := opening.split
  rw [List.append_nil] at earlier taken
  refine ⟨before, lexeme, after, ⟨whole, ?_, ?_⟩, by rw [same]⟩
  · rwa [List.take_append_of_le_length (Nat.le_of_lt bound)]
  · refine ⟨⟨kind, some value, 1 + newlines before⟩, value, ?_, rfl, taken⟩
    rw [List.getElem?_append_left bound, here, same]

theorem head_of_step (h : step text = .token kind value taken rest) :
    ∃ c more, text = c :: more ∧ c ≠ '\n' ∧ c ≠ '\r' := by
  cases text with
  | nil => cases h
  | cons c text =>
    rw [step] at h
    split at h
    next => cases h
    next solid =>
      refine ⟨c, text, rfl, ?_, ?_⟩
      all_goals
        rintro rfl
        exact solid (by decide)

end Lexer

namespace Inspector

open Lexer (Placed newlines)
open Screen (Line)

variable {options : Options} {source : String} {first inspector : Inspector} {size : Size}
variable {d : Diagnostic} {i : Nat}

theorem tokenize_of_load (read : (load options source).error = none) :
    Lexer.tokenize source = .ok (load options source).tokens := by
  have tokens : (load options source).tokens = (Script.read options source).tokens := by
    rw [load, ofReading]
    split <;> rfl
  rw [tokens]
  rw [load, ofReading] at read
  unfold Script.read at read ⊢
  dsimp only at read ⊢
  cases found : Lexer.tokenize source with
  | ok tokens => rfl
  | error d => simp [found] at read

theorem read_of_load (failed : (load options source).error = some d) :
    (Script.read options source).result = .error d := by
  rw [load, ofReading] at failed
  cases result : (Script.read options source).result with
  | ok program => simp [result] at failed
  | error e =>
    obtain rfl : e = d := by simpa [result] using failed
    rfl

theorem line_of_load (failed : (load options source).error = some d) :
    1 ≤ d.line ∧ d.line ≤ 1 + newlines source.toList := by
  have refused := read_of_load failed
  unfold Script.read at refused
  dsimp only at refused
  split at refused
  next tokens read =>
    obtain ⟨some, lines⟩ := Lexer.line_of_tokenize_eq_ok read
    obtain ⟨i, token, -, found, blamed⟩ := Parser.lineBy_of_parse_eq_error refused
    obtain ⟨other, mem, same⟩ := Parser.line_of_mem_complete some (List.mem_of_getElem? found)
    rw [← blamed, ← same]
    exact lines other mem
  next e read =>
    obtain rfl : e = d := Except.error.inj refused
    exact (Lexer.line_of_tokenize_eq_error read).2

def Frame.Shows (frame : Frame) (i : Nat) : Prop :=
  frame.inspector.sourceView.offset ≤ i ∧
    i < frame.inspector.sourceView.offset + visibleRows frame.size.layout.paneHeight

theorem Source.View.follow_shows (view : Source.View) {total visible current : Nat}
    (some : 0 < visible) (inside : 0 < current ∧ current ≤ total) :
    (view.follow total visible current).offset ≤ current - 1 ∧
      current - 1 < (view.follow total visible current).offset + visible := by
  unfold Source.View.follow
  dsimp only
  rw [if_pos inside]
  split <;> omega

theorem frame_shows (inside : 0 < inspector.highlightedLine ∧
      inspector.highlightedLine ≤ (Text.lines inspector.source).length) :
    (inspector.frame size).Shows (inspector.highlightedLine - 1) := by
  rw [Frame.Shows, frame_inspector]
  exact Source.View.follow_shows _ (visibleRows_pos _) inside

theorem Source.visibleLines_getElem? {view : Source.View} {visible current : Nat}
    {isError : Bool} {line : String} (above : view.offset ≤ i) (below : i < view.offset + visible)
    (found : (Text.lines source)[i]? = some line) :
    (Source.visibleLines source view visible current isError)[i - view.offset]? =
      some (Source.numbered (i + 1) line (i + 1 == current) isError) := by
  have same : view.offset + (i - view.offset) = i := by omega
  simp only [Source.visibleLines, List.getElem?_map, List.getElem?_zipIdx]
  rw [List.getElem?_take_of_lt (by omega), List.getElem?_drop, same, found]
  simp [same]

theorem sourceLines_getElem? {frame : Frame} {line : String} (shown : frame.Shows i)
    (found : (Text.lines frame.inspector.source)[i]? = some line) :
    frame.sourceLines[i - frame.inspector.sourceView.offset]? =
      some (Source.numbered (i + 1) line (i + 1 == frame.inspector.highlightedLine)
        frame.inspector.error.isSome) :=
  Source.visibleLines_getElem? shown.1 shown.2 found

theorem of_mem_sourceLines {frame : Frame} {shown : Line} (mem : shown ∈ frame.sourceLines) :
    ∃ i line, (Text.lines frame.inspector.source)[i]? = some line ∧
      shown = Source.numbered (i + 1) line (i + 1 == frame.inspector.highlightedLine)
        frame.inspector.error.isSome := by
  obtain ⟨⟨line, index⟩, inside, rfl⟩ := List.mem_map.1 mem
  refine ⟨frame.inspector.sourceView.offset + index, line, ?_, rfl⟩
  have found := List.mem_zipIdx_iff_getElem?.1 inside
  have bound : index < visibleRows frame.size.layout.paneHeight := by
    have short := (List.getElem?_eq_some_iff.1 found).1
    rw [List.length_take] at short
    omega
  rwa [List.getElem?_take_of_lt bound, List.getElem?_drop] at found

theorem drawn_of_mem_run (h : Steady first inspector) (rounds : List Round) :
    ∀ frame ∈ inspector.run rounds,
      ∃ before size, Steady first before ∧ frame = before.frame size := by
  intro frame mem
  have drawn := run_frames (P := Steady first)
    (Q := fun frame => ∃ before size, Steady first before ∧ frame = before.frame size)
    (fun before size steady => ⟨steady.draw size, before, size, steady, rfl⟩)
    (fun _ event steady => steady.receive event) h rounds
  exact (drawn frame mem).2

/--
In every frame of a session on a script that was read, the line of the selected token is in view
if the token is not the end of the file. It is a line of the script, and on it, after the text
since the last line feed, the lexeme of the token begins.
-/
theorem selection_in_view (options : Options) (source : String) (rounds : List Round)
    (read : (load options source).error = none) :
    ∀ frame ∈ (load options source).run rounds, ∀ token,
      frame.inspector.tokens[frame.inspector.tokenView.selected]? = some token →
      token.kind ≠ .eof →
      frame.Shows (frame.inspector.highlightedLine - 1) ∧
      ∃ before lexeme rest line shown,
        Placed source frame.inspector.tokens frame.inspector.tokenView.selected
          before lexeme rest ∧
        newlines before = frame.inspector.highlightedLine - 1 ∧
        (Text.lines source)[frame.inspector.highlightedLine - 1]? = some line ∧
        line.toList = Text.sinceFeed before ++ shown ∧ shown ≠ [] ∧ shown <+: lexeme ++ rest := by
  intro frame mem token found ordinary
  obtain ⟨before, size, steady, rfl⟩ := drawn_of_mem_run (steady_load options source) rounds _ mem
  have drawn := steady.draw size
  have highlighted : (before.frame size).inspector.highlightedLine = token.line := by
    rw [highlightedLine, drawn.error, read]
    simp [found]
  have tokens := tokenize_of_load read
  rw [← drawn.tokens] at tokens
  obtain ⟨earlier, lexeme, rest, placed, counted⟩ := Lexer.placed_of_tokenize tokens found ordinary
  obtain ⟨_, _, -, -, taken⟩ := placed.here
  obtain ⟨c, more, starts, feed, ends⟩ := Lexer.head_of_step taken
  have whole := placed.whole
  rw [starts] at whole
  obtain ⟨line, shown, here, text, some, part⟩ := Text.line_at feed ends whole
  have index : newlines earlier = (before.frame size).inspector.highlightedLine - 1 := by
    rw [highlighted, counted]
    omega
  refine ⟨?_, earlier, lexeme, rest, line, shown, placed, index, ?_, text, some, ?_⟩
  · have bound := (List.getElem?_eq_some_iff.1 here).1
    have given : before.source = source := steady.source.trans (load_source options source)
    rw [highlightedLine_frame] at highlighted index ⊢
    refine frame_shows ⟨by omega, ?_⟩
    rw [given]
    omega
  · rw [← index]
    exact here
  · rw [starts]
    exact part

def selecting : List Round :=
  [⟨⟨20, 4⟩, some (.press .tab)⟩, ⟨⟨20, 4⟩, some (.press .down)⟩, ⟨⟨20, 4⟩, some (.press .down)⟩,
    ⟨⟨20, 3⟩, none⟩]

/-- The token is on the second line, of which the first part ends a text. -/
theorem selection_in_view_sign :
    ∃ frame, ((load .none "PRINT \"a\r\nb\" + 1").run selecting)[3]? = some frame ∧
      frame.inspector.highlightedLine = 2 ∧ frame.Shows 1 := by
  have facts : (((load .none "PRINT \"a\r\nb\" + 1").run selecting)[3]?).map (fun frame =>
        (frame.inspector.highlightedLine,
          frame.inspector.tokens[frame.inspector.tokenView.selected]?)) =
      some (2, some ⟨.operator, some "+", 2⟩) := by decide +kernel
  obtain ⟨frame, found, same⟩ := Option.map_eq_some_iff.1 facts
  obtain ⟨highlighted, selected⟩ := Prod.mk.inj same
  have shown := (selection_in_view .none "PRINT \"a\r\nb\" + 1" selecting (by decide +kernel)
    frame (List.mem_of_getElem? found) _ selected (by decide)).1
  rw [highlighted] at shown
  exact ⟨frame, found, highlighted, shown⟩

theorem receive_offset (inspector : Inspector) (event : Option Event) :
    (inspector.receive event).sourceView.offset = inspector.sourceView.offset := by
  rcases event with - | ⟨key⟩ | -
  · rfl
  · change (inspector.press key).sourceView.offset = _
    cases delta : key.delta? with
    | none =>
      obtain ⟨focus, quitting, same⟩ := press_of_none inspector delta
      rw [same]
    | some delta' =>
      rw [press_of_delta inspector delta, move]
      split <;> rfl
  · rfl

theorem offset_of_beyond (h : Steady first inspector) (failed : first.error = some d)
    (beyond : (Text.lines first.source).length < d.line) (top : inspector.sourceView.offset = 0)
    (rounds : List Round) :
    ∀ frame ∈ inspector.run rounds, frame.inspector.sourceView.offset = 0 := by
  intro frame mem
  have drawn := run_frames
    (P := fun inspector => Steady first inspector ∧ inspector.sourceView.offset = 0)
    (Q := fun frame => frame.inspector.sourceView.offset = 0)
    (fun inspector size kept => ?_) (fun inspector event kept => ?_) ⟨h, top⟩ rounds
  · exact (drawn frame mem).2
  · have offset : (inspector.frame size).inspector.sourceView.offset = 0 := by
      rw [frame_inspector, Source.View.follow, highlightedLine, kept.1.error, failed, kept.1.source]
      dsimp only
      rw [if_neg (by omega), kept.2]
    exact ⟨⟨kept.1.draw size, offset⟩, offset⟩
  · exact ⟨kept.1.receive event, (receive_offset inspector event).trans kept.2⟩

theorem frame_marks (failed : inspector.error = some d) (counted : 1 ≤ d.line)
    (inside : d.line ≤ (Text.lines inspector.source).length) :
    (inspector.frame size).Shows (d.line - 1) ∧
      ∃ line, (Text.lines inspector.source)[d.line - 1]? = some line ∧
        (inspector.frame size).sourceLines[
            d.line - 1 - (inspector.frame size).inspector.sourceView.offset]? =
          some (Source.numbered d.line line true true) ∧
        (3 ≤ size.layout.paneHeight →
          (inspector.frame size).Draws
            (d.line - (inspector.frame size).inspector.sourceView.offset)
            (Source.numbered d.line line true true)) := by
  have highlighted : inspector.highlightedLine = d.line := by
    rw [highlightedLine, failed]
  have shown : (inspector.frame size).Shows (d.line - 1) := by
    rw [← highlighted] at counted inside ⊢
    exact frame_shows ⟨counted, inside⟩
  have found := List.getElem?_eq_getElem
    (show d.line - 1 < (Text.lines inspector.source).length by omega)
  have row := sourceLines_getElem? shown (by rw [frame_inspector]; exact found)
  have error : (inspector.frame size).inspector.error = some d := by
    rw [frame_inspector]
    exact failed
  rw [highlightedLine_frame, highlighted, error, Nat.sub_add_cancel counted,
    beq_self_eq_true] at row
  refine ⟨shown, _, found, row, fun room => ?_⟩
  -- with three rows or more, the pane draws as many lines as it reckons with
  have rows : visibleRows size.layout.paneHeight = size.layout.paneHeight - 2 :=
    Nat.max_eq_right (Nat.le_sub_of_add_le room)
  obtain ⟨above, below⟩ := shown
  change d.line - 1 < _ + visibleRows size.layout.paneHeight at below
  have index : d.line - (inspector.frame size).inspector.sourceView.offset =
      d.line - 1 - (inspector.frame size).inspector.sourceView.offset + 1 := by omega
  rw [index]
  exact frame_row row (by omega)

theorem unmarked_of_beyond {frame : Frame} (failed : frame.inspector.error = some d)
    (beyond : (Text.lines frame.inspector.source).length < d.line) :
    ∀ shown ∈ frame.sourceLines, ∃ number line,
      shown = Source.numbered number line false true := by
  intro shown mem
  obtain ⟨i, line, found, rfl⟩ := of_mem_sourceLines mem
  have bound := (List.getElem?_eq_some_iff.1 found).1
  have other : (i + 1 == d.line) = false := by
    rw [beq_eq_false_iff_ne]
    omega
  refine ⟨i + 1, line, ?_⟩
  rw [highlightedLine, failed]
  simp only [other]
  rfl

theorem line_of_error (failed : (load options source).error = some d) :
    1 ≤ d.line ∧ d.line ≤ (Text.lines source).length ∨
      d.line = 1 + newlines source.toList ∧ d.line = (Text.lines source).length + 1 ∧
        Text.sinceFeed source.toList = [] := by
  obtain ⟨counted, last⟩ := line_of_load failed
  have lines := Text.length_lines source
  split at lines
  next nothing =>
    by_cases inside : d.line ≤ (Text.lines source).length
    · exact .inl ⟨counted, inside⟩
    · exact .inr ⟨by omega, by omega, nothing⟩
  next => exact .inl ⟨counted, by omega⟩

/--
An error is reported on a line of the script, or else behind its last line feed when nothing
follows that. In the first case every frame of a session has the line in view, among the lines it
shows and on a row of the picture if the pane has any, with its number and its text marked as an
error's. In the other case the pane stays at its top, and no line that it shows is marked.
-/
theorem failing_line (options : Options) (source : String) (d : Diagnostic) (rounds : List Round)
    (failed : (load options source).error = some d) :
    (1 ≤ d.line ∧ d.line ≤ (Text.lines source).length ∨
      d.line = 1 + newlines source.toList ∧ d.line = (Text.lines source).length + 1 ∧
        Text.sinceFeed source.toList = []) ∧
    ∀ frame ∈ (load options source).run rounds,
      (d.line ≤ (Text.lines source).length → frame.Shows (d.line - 1) ∧
        ∃ line, (Text.lines source)[d.line - 1]? = some line ∧
          frame.sourceLines[d.line - 1 - frame.inspector.sourceView.offset]? =
            some (Source.numbered d.line line true true) ∧
          (3 ≤ frame.size.layout.paneHeight →
            frame.Draws (d.line - frame.inspector.sourceView.offset)
              (Source.numbered d.line line true true))) ∧
      ((Text.lines source).length < d.line → frame.inspector.sourceView.offset = 0 ∧
        ∀ shown ∈ frame.sourceLines, ∃ number line,
          shown = Source.numbered number line false true) := by
  have start := steady_load options source
  have given := load_source options source
  refine ⟨line_of_error failed, fun frame mem => ⟨fun inside => ?_, fun beyond => ?_⟩⟩
  · obtain ⟨before, size, steady, rfl⟩ := drawn_of_mem_run start rounds _ mem
    rw [← given, ← steady.source] at inside ⊢
    exact frame_marks (steady.error.trans failed) (line_of_load failed).1 inside
  · have top : (load options source).sourceView.offset = 0 := by
      rw [load, ofReading]
      split <;> rfl
    have steady := (run_settled start rounds frame mem).1
    rw [← given] at beyond
    refine ⟨offset_of_beyond start failed beyond top rounds frame mem, ?_⟩
    rw [← steady.source] at beyond
    exact unmarked_of_beyond (steady.error.trans failed) beyond

def broken : String :=
  "PRINT 1\nPRINT 2\nBREAK\nPRINT 3\nPRINT 4"

/-- A pane with a single row shows the line of the error on it. -/
theorem failing_line_third :
    ∃ frame, (load .none broken).run [⟨⟨30, 4⟩, none⟩] = [frame] ∧
      frame.inspector.sourceView.offset = 2 ∧
      frame.Draws 1 (Source.numbered 3 "BREAK" true true) := by
  have line : (load .none broken).error.map (·.line) = some 3 := by decide +kernel
  obtain ⟨d, failed, third⟩ := Option.map_eq_some_iff.1 line
  have frames : (load .none broken).run [⟨⟨30, 4⟩, none⟩] =
      [(load .none broken).frame ⟨30, 4⟩] := by simp [run]
  have offset : ((load .none broken).frame ⟨30, 4⟩).inspector.sourceView.offset = 2 := by
    decide +kernel
  have shown := ((failing_line _ _ d [⟨⟨30, 4⟩, none⟩] failed).2 _
    (by rw [frames]; exact List.mem_singleton_self _)).1
  rw [third, offset] at shown
  obtain ⟨-, text, found, -, draws⟩ := shown (by decide)
  have third : (Text.lines broken)[2]? = some "BREAK" := by decide
  obtain rfl : "BREAK" = text := Option.some.inj (third.symm.trans found)
  exact ⟨_, frames, offset, draws (by decide)⟩

theorem error_behind_feed :
    ∃ d, (load .none "PRINT\n").error = some d ∧ d.line = 2 := by
  have line : (load .none "PRINT\n").error.map (·.line) = some 2 := by decide +kernel
  exact Option.map_eq_some_iff.1 line

/-- Not every error is reported on a line that the pane can show. -/
theorem failing_line_missing :
    ¬ ∀ options source d rounds, (load options source).error = some d →
      ∀ frame ∈ (load options source).run rounds,
        d.line - 1 < (Text.lines frame.inspector.source).length := by
  intro claimed
  obtain ⟨d, failed, line⟩ := error_behind_feed
  have short := claimed .none "PRINT\n" d [⟨⟨80, 24⟩, none⟩] failed
    ((load .none "PRINT\n").frame ⟨80, 24⟩) List.mem_cons_self
  rw [frame_inspector, load_source, line] at short
  exact absurd short (by decide)

end Inspector

end DeskScript
