import DeskScript.Inspector.Tree

/-!
What the panes make of a line before it is drawn: spans in colours. They are the line cut into
pieces, so no text is lost or doubled, in a script as in the saved form. The spans of a script are
not empty, and the first `#` outside of quotes begins the only one in the style of a comment, which
is the last. Main statement: `highlight_lossless`.
-/

namespace DeskScript

open Screen (Line Span)

theorem Screen.Line.toList_text (line : Line) :
    line.text.toList = line.flatMap (·.text.toList) := by
  rw [Line.text, String.toList_join, List.flatMap_map]

namespace Inspector

namespace Source

variable {word text before rest : List Char} {quoted called : Bool} {c : Char} {span : Span}

theorem toList_wordSpan (word : List Char) (called : Bool) :
    (wordSpan word called).flatMap (·.text.toList) = word.reverse := by
  unfold wordSpan
  split
  next none =>
    obtain rfl := List.isEmpty_iff.1 none
    rfl
  next => simp

theorem toList_highlightFrom (word text : List Char) :
    (highlightFrom word text).flatMap (·.text.toList) = word.reverse ++ text := by
  fun_induction highlightFrom word text with
  | case1 word => rw [toList_wordSpan, List.append_nil]
  | case2 word rest => simp [toList_wordSpan]
  | case3 word rest literal _ ih =>
    have whole : literal.1 ++ literal.2 = rest := splitLiteral_append rest
    simp [toList_wordSpan, ih, whole]
  | case4 word c rest _ _ _ ih => simp [ih]
  | case5 word c rest _ _ _ ih => simp [toList_wordSpan, ih]

/-- Splits a text before the first `#` outside of quotes; `quoted` says that it starts in some. -/
def splitComment (quoted : Bool) : List Char → List Char × List Char
  | [] => ([], [])
  | c :: rest =>
    if c = '#' ∧ quoted = false then ([], c :: rest)
    else
      let parts := splitComment (if c = '"' then !quoted else quoted) rest
      (c :: parts.1, parts.2)

def commentSpan (comment : List Char) : List Span :=
  if comment.isEmpty then [] else [⟨String.ofList comment, .colored Theme.comment⟩]

def IsOrdinary (span : Span) : Prop :=
  span.text ≠ "" ∧ span.style ≠ .colored Theme.comment

theorem ordinary_of_mem_wordSpan (mem : span ∈ wordSpan word called) : IsOrdinary span := by
  unfold wordSpan at mem
  split at mem
  next => cases mem
  next some =>
    obtain rfl := List.mem_singleton.1 mem
    refine ⟨by simpa using some, ?_⟩
    dsimp only [wordStyle]
    repeat' split
    all_goals decide

theorem ordinary_sign (c : Char) : IsOrdinary ⟨c.toString, signStyle c⟩ := by
  refine ⟨by simp, ?_⟩
  dsimp only [signStyle]
  repeat' split
  all_goals decide

theorem ordinary_literal (literal : List Char) :
    IsOrdinary ⟨String.ofList ('"' :: literal), .colored Theme.string⟩ :=
  ⟨by simp, show Screen.Style.colored Theme.string ≠ _ by decide⟩

theorem splitComment_literal (rest : List Char) :
    (splitComment true rest).2 = (splitComment false (splitLiteral rest).2).2 := by
  induction rest with
  | nil => rfl
  | cons c rest ih =>
    by_cases quote : c = '"'
    · subst quote
      rfl
    · rw [splitLiteral_cons, if_neg quote, ← ih]
      simp [splitComment, quote]

theorem highlightFrom_eq (word text : List Char) : ∃ spans,
    highlightFrom word text = spans ++ commentSpan (splitComment false text).2 ∧
      ∀ span ∈ spans, IsOrdinary span := by
  fun_induction highlightFrom word text with
  | case1 word =>
    exact ⟨wordSpan word false, (List.append_nil _).symm, fun _ => ordinary_of_mem_wordSpan⟩
  | case2 word rest => exact ⟨wordSpan word false, rfl, fun _ => ordinary_of_mem_wordSpan⟩
  | case3 word rest literal _ ih =>
    obtain ⟨spans, same, ordinary⟩ := ih
    have skipped : (splitComment false ('"' :: rest)).2 = (splitComment false literal.2).2 :=
      splitComment_literal rest
    refine ⟨wordSpan word false ++ ⟨String.ofList ('"' :: literal.1), .colored Theme.string⟩ ::
      spans, by rw [same, skipped, List.append_assoc, List.cons_append], ?_⟩
    refine List.forall_mem_append.2 ⟨fun _ => ordinary_of_mem_wordSpan, ?_⟩
    exact List.forall_mem_cons.2 ⟨ordinary_literal _, ordinary⟩
  | case4 word c rest hash quote _ ih =>
    obtain ⟨spans, same, ordinary⟩ := ih
    exact ⟨spans, by simpa [splitComment, hash, quote] using same, ordinary⟩
  | case5 word c rest hash quote _ ih =>
    obtain ⟨spans, same, ordinary⟩ := ih
    refine ⟨wordSpan word (c == '(') ++ ⟨c.toString, signStyle c⟩ :: spans, ?_, ?_⟩
    · simp [splitComment, hash, quote, same]
    · refine List.forall_mem_append.2 ⟨fun _ => ordinary_of_mem_wordSpan, ?_⟩
      exact List.forall_mem_cons.2 ⟨ordinary_sign c, ordinary⟩

/-- A place with an even number of quotes before it, or an odd one where the text starts in some. -/
def Outside (quoted : Bool) (before : List Char) : Prop :=
  (quoted.toNat + before.count '"') % 2 = 0

theorem outside_cons :
    Outside quoted (c :: before) ↔ Outside (if c = '"' then !quoted else quoted) before := by
  unfold Outside
  by_cases quote : c = '"'
  · subst quote
    cases quoted
    all_goals
      simp
      omega
  · simp [quote]

theorem outside_nil : Outside quoted [] ↔ quoted = false := by
  cases quoted <;> simp [Outside]

theorem splitComment_of_outside (rest : List Char) (outside : Outside quoted before)
    (first : ∀ earlier later, before = earlier ++ '#' :: later → ¬ Outside quoted earlier) :
    splitComment quoted (before ++ '#' :: rest) = (before, '#' :: rest) := by
  induction before generalizing quoted with
  | nil => exact if_pos ⟨rfl, outside_nil.1 outside⟩
  | cons c before ih =>
    have other : ¬ (c = '#' ∧ quoted = false) := by
      rintro ⟨rfl, free⟩
      exact first [] before rfl (outside_nil.2 free)
    have tail := ih (outside_cons.1 outside) fun earlier later split => by
      rw [← outside_cons]
      exact first (c :: earlier) later (congrArg (c :: ·) split)
    rw [List.cons_append, splitComment, if_neg other, tail]

theorem splitComment_of_none
    (none : ∀ before rest, text = before ++ '#' :: rest → ¬ Outside quoted before) :
    splitComment quoted text = (text, []) := by
  induction text generalizing quoted with
  | nil => rfl
  | cons c text ih =>
    have other : ¬ (c = '#' ∧ quoted = false) := by
      rintro ⟨rfl, free⟩
      exact none [] text rfl (outside_nil.2 free)
    have tail := ih fun before rest split => by
      rw [← outside_cons]
      exact none (c :: before) rest (congrArg (c :: ·) split)
    rw [splitComment, if_neg other, tail]

variable {line : String}

theorem text_highlight (line : String) : (highlight line).text = line := by
  rw [← String.toList_inj, Line.toList_text]
  exact toList_highlightFrom [] line.toList

theorem text_ne_of_mem_highlight (mem : span ∈ highlight line) : span.text ≠ "" := by
  obtain ⟨spans, same, ordinary⟩ := highlightFrom_eq [] line.toList
  rw [highlight, same] at mem
  rcases List.mem_append.1 mem with mem | mem
  · exact (ordinary span mem).1
  · unfold commentSpan at mem
    split at mem
    next => cases mem
    next some =>
      obtain rfl := List.mem_singleton.1 mem
      simpa using some

theorem highlight_of_outside (split : line.toList = before ++ '#' :: rest)
    (outside : Outside false before)
    (first : ∀ earlier later, before = earlier ++ '#' :: later → ¬ Outside false earlier) :
    ∃ spans, highlight line = spans ++ [⟨String.ofList ('#' :: rest), .colored Theme.comment⟩] ∧
      Line.text spans = String.ofList before ∧ ∀ span ∈ spans, IsOrdinary span := by
  obtain ⟨spans, same, ordinary⟩ := highlightFrom_eq [] line.toList
  have whole := toList_highlightFrom [] line.toList
  rw [split, splitComment_of_outside rest outside first] at same
  rw [split, same] at whole
  refine ⟨spans, by rw [highlight, split, same]; rfl, ?_, ordinary⟩
  rw [← String.toList_inj, Line.toList_text, String.toList_ofList]
  simpa [commentSpan] using whole

theorem highlight_of_none
    (none : ∀ before rest, line.toList = before ++ '#' :: rest → ¬ Outside false before) :
    ∀ span ∈ highlight line, IsOrdinary span := by
  obtain ⟨spans, same, ordinary⟩ := highlightFrom_eq [] line.toList
  rw [splitComment_of_none none] at same
  rw [highlight, same]
  simpa [commentSpan] using ordinary

theorem outside_false : Outside false before ↔ before.count '"' % 2 = 0 := by
  simp [Outside]

end Source

namespace Tree

theorem of_splitName? {text name value : List Char} (h : splitName? text = some (name, value)) :
    name ++ '"' :: ':' :: ' ' :: value = text := by
  fun_induction splitName? text generalizing name with
  | case1 => cases h
  | case2 c rest starts =>
    obtain ⟨rfl, rfl⟩ := Prod.mk.inj (Option.some.inj h)
    obtain ⟨after, whole⟩ := List.isPrefixOf_iff_prefix.1 starts
    have parting : "\": ".toList = ['"', ':', ' '] := by decide
    rw [parting] at whole
    obtain ⟨rfl, rfl⟩ := List.cons.inj whole
    rfl
  | case3 c rest _ ih =>
    obtain ⟨⟨first, value'⟩, found, same⟩ := Option.map_eq_some_iff.1 h
    obtain ⟨rfl, rfl⟩ := Prod.mk.inj same
    exact congrArg (c :: ·) (ih found)

theorem text_highlight (line : String) : (highlight line).text = line := by
  rw [← String.toList_inj, Line.toList_text]
  have whole : line.toList.takeWhile Text.isBlank ++ line.toList.dropWhile Text.isBlank =
      line.toList := List.takeWhile_append_dropWhile
  unfold highlight
  dsimp only
  split
  next name value found =>
    split
    next =>
      rw [← of_splitName? found] at whole
      simpa [valueSpan] using whole
    next => simp [valueSpan, whole]
  next => simp [valueSpan, whole]

end Tree

/--
No text of a line is lost when it is coloured, be it one of a script or of a saved form. No span of
a script's line is empty. The first `#` of such a line outside of quotes, which an even number of
quotes before it tells, begins the last span, and this is the only one in the style of comments; a
line without one has no span in that style.
-/
theorem highlight_lossless (line : String) :
    (Source.highlight line).text = line ∧ (Tree.highlight line).text = line ∧
    (∀ span ∈ Source.highlight line, span.text ≠ "") ∧
    (∀ before rest, line.toList = before ++ '#' :: rest → before.count '"' % 2 = 0 →
      (∀ earlier later, before = earlier ++ '#' :: later → earlier.count '"' % 2 = 1) →
      ∃ spans, Source.highlight line =
          spans ++ [⟨String.ofList ('#' :: rest), .colored Theme.comment⟩] ∧
        Line.text spans = String.ofList before ∧
        ∀ span ∈ spans, span.style ≠ .colored Theme.comment) ∧
    ((∀ before rest, line.toList = before ++ '#' :: rest → before.count '"' % 2 = 1) →
      ∀ span ∈ Source.highlight line, span.style ≠ .colored Theme.comment) := by
  refine ⟨Source.text_highlight line, Tree.text_highlight line,
    fun span => Source.text_ne_of_mem_highlight, ?_, ?_⟩
  · intro before rest split outside first
    have first' (earlier later : List Char) (inside : before = earlier ++ '#' :: later) :
        ¬ Source.Outside false earlier := by
      rw [Source.outside_false, first earlier later inside]
      decide
    obtain ⟨spans, same, text, ordinary⟩ :=
      Source.highlight_of_outside split (Source.outside_false.2 outside) first'
    exact ⟨spans, same, text, fun span mem => (ordinary span mem).2⟩
  · intro none span mem
    refine (Source.highlight_of_none (fun before rest split => ?_) span mem).2
    rw [Source.outside_false, none before rest split]
    decide

/-- A comment that holds a quote, after a text that holds the sign of comments and a word. -/
theorem highlight_lossless_quoted :
    ∃ spans, Source.highlight "\"#\"y# \"c" =
      spans ++ [⟨"# \"c", .colored Theme.comment⟩] ∧ Line.text spans = "\"#\"y" := by
  have first (earlier later : List Char) (split : ['"', '#', '"', 'y'] = earlier ++ '#' :: later) :
      earlier.count '"' % 2 = 1 := by
    obtain ⟨_, rfl, rfl, -⟩ : ∃ others, earlier = '"' :: others ∧ others = [] ∧
        later = ['"', 'y'] := by simpa [List.cons_eq_append_iff] using split
    decide
  obtain ⟨spans, same, text, -⟩ := (highlight_lossless "\"#\"y# \"c").2.2.2.1
    ['"', '#', '"', 'y'] [' ', '"', 'c'] (by decide) (by decide) first
  exact ⟨spans, same, text⟩

end Inspector

end DeskScript
