import DeskScript.Proofs.Token.Reading

/-!
Reading the first part of a text. `Opening` says into which tokens the first part is read, in the
presence of what follows, so that no number, word or sign is cut in two. What follows can be
exchanged for a text that nothing before it can tell from the old one (`Opening.exchange`).
-/

namespace DeskScript.Lexer

open Text (isBlank isDigit isLetter)

variable {text taken rest rest' : List Char} {kind : Token.Kind} {value : String}

/-- The start of a text is read into these tokens, from the given line on. -/
inductive Opening : (line : Nat) → (before rest : List Char) → List Token → Prop where
  | nil {line : Nat} {rest : List Char} : Opening line [] rest []
  | gap {line : Nat} {taken more rest : List Char} {tokens : List Token} :
    step (taken ++ (more ++ rest)) = .gap taken (more ++ rest) →
    Opening (line + newlines taken) more rest tokens → Opening line (taken ++ more) rest tokens
  | token {line : Nat} {taken more rest : List Char} {tokens : List Token} {kind : Token.Kind}
      {value : String} :
    step (taken ++ (more ++ rest)) = .token kind value taken (more ++ rest) →
    Opening (line + newlines taken) more rest tokens →
    Opening line (taken ++ more) rest (⟨kind, some value, line⟩ :: tokens)

theorem Run.takeWhile_eq {part : Char → Bool} (run : Run part taken rest) :
    (taken ++ rest).takeWhile part = taken := by
  have stop : rest.takeWhile part = [] := by
    cases rest with
    | nil => rfl
    | cons c rest => rw [List.takeWhile_cons_of_neg (by simp [run.beyond c rfl])]
  rw [List.takeWhile_append_of_pos run.inside, stop, List.append_nil]

theorem Run.dropWhile_eq {part : Char → Bool} (run : Run part taken rest) :
    (taken ++ rest).dropWhile part = rest := by
  have stop : rest.dropWhile part = rest := by
    cases rest with
    | nil => rfl
    | cons c rest => rw [List.dropWhile_cons_of_neg (by simp [run.beyond c rfl])]
  rw [List.dropWhile_append_of_pos run.inside, stop]

theorem plain_of_isWordStart {c : Char} (start : isWordStart c = true) :
    (isBlank c = false ∧ c ≠ '#' ∧ c ≠ '"' ∧ isDigit c = false) ∧
      c ≠ '\n' ∧ isNumberPart c = false ∧ isWordPart c = true ∧
      ∀ d, pairs.contains (d, c) = false := by
  -- letters and the underscore are known by their codes
  have codes : 97 ≤ c.toNat ∧ c.toNat ≤ 122 ∨ 65 ≤ c.toNat ∧ c.toNat ≤ 90 ∨ c.toNat = 95 := by
    simp only [isWordStart, isLetter, Bool.or_eq_true, Bool.and_eq_true, decide_eq_true_eq,
      beq_iff_eq, Char.le_def, UInt32.le_iff_toNat_le] at start
    rcases start with (lower | upper) | rfl
    · exact .inl lower
    · exact .inr (.inl upper)
    · exact .inr (.inr rfl)
  have apart (d : Char) (other : isWordStart d = false) : c ≠ d := by
    rintro rfl
    rw [start] at other
    cases other
  have digit : isDigit c = false := by
    have high : ¬ c.toNat ≤ 57 := by omega
    have high : ¬ c ≤ '9' := high
    simp [isDigit, high]
  have blank : isBlank c = false := by
    simp only [isBlank, Text.inRanges, Text.blankRanges, List.any_cons, List.any_nil,
      Bool.or_false, Bool.or_eq_false_iff, Bool.and_eq_false_iff, decide_eq_false_iff_not]
    omega
  refine ⟨⟨blank, apart _ rfl, apart _ rfl, digit⟩, apart _ rfl, ?_, ?_, fun d => ?_⟩
  · simp [isNumberPart, digit, apart '.' rfl]
  · simp only [isWordStart, isWordPart, Bool.or_eq_true] at start ⊢
    exact start.imp_left Or.inl
  · have signs : ∀ pair ∈ pairs, isWordStart pair.2 = false := by decide
    rw [← Bool.not_eq_true, List.contains_iff_mem]
    intro mem
    exact apart _ (signs _ mem) rfl

theorem isWordPart_of_mem_suffix {unit : TimeUnit} : ∀ c ∈ unit.suffix, isWordPart c = true := by
  rw [← List.all_eq_true]
  cases unit <;> rfl

theorem unitAt_iff_takeWhile {unit : TimeUnit} :
    UnitAt unit text ↔ text.takeWhile isWordPart = unit.suffix := by
  constructor
  · rintro ⟨rest, rfl, beyond⟩
    have run : Run isWordPart unit.suffix rest := ⟨isWordPart_of_mem_suffix, beyond⟩
    exact run.takeWhile_eq
  · intro same
    refine ⟨text.dropWhile isWordPart, ?_, (run_takeWhile isWordPart text).beyond⟩
    rw [← same, List.takeWhile_append_dropWhile]

theorem unitAt?_congr {text' : List Char}
    (same : text.takeWhile isWordPart = text'.takeWhile isWordPart) :
    unitAt? text = unitAt? text' := by
  have agree (unit : TimeUnit) : UnitAt unit text ↔ UnitAt unit text' := by
    rw [unitAt_iff_takeWhile, unitAt_iff_takeWhile, same]
  have tests : (fun unit : TimeUnit => unit.suffix.isPrefixOf text &&
        !((text.drop unit.suffix.length).head?.any isWordPart)) =
      fun unit => unit.suffix.isPrefixOf text' &&
        !((text'.drop unit.suffix.length).head?.any isWordPart) := by
    funext unit
    rw [Bool.eq_iff_iff, ← unitAt_iff, ← unitAt_iff]
    exact agree unit
  rw [unitAt?, unitAt?, tests]

theorem unitAt?_eq_none (absent : ∀ unit, ¬ UnitAt unit text) : unitAt? text = none :=
  List.find?_eq_none.2 fun unit _ found => absent unit (unitAt_iff.2 (by simpa using found))

/-- No gap and no lexeme can tell which of two texts follows it. -/
structure Resembles (rest rest' : List Char) : Prop where
  line : (rest = [] ∨ rest.head? = some '\n') ↔ (rest' = [] ∨ rest'.head? = some '\n')
  word : rest.head?.any isWordPart = rest'.head?.any isWordPart
  number : rest.head?.any isNumberPart = rest'.head?.any isNumberPart
  sign : ∀ c, rest.head?.any (fun d => pairs.contains (c, d)) =
    rest'.head?.any fun d => pairs.contains (c, d)
  unit : unitAt? rest = unitAt? rest'

theorem beyond_iff {part : Char → Bool} :
    (∀ c ∈ rest.head?, part c = false) ↔ rest.head?.any part = false := by
  cases rest <;> simp

theorem Resembles.append (same : Resembles rest rest') {more : List Char}
    (units : unitAt? (more ++ rest) = unitAt? (more ++ rest')) :
    Resembles (more ++ rest) (more ++ rest') := by
  cases more with
  | nil => exact same
  | cons c more => exact ⟨by simp, by simp, by simp, by simp, units⟩

theorem throughClose_append (seen : List Char) {inside : List Char}
    (first : ¬ ['*', '#'] <:+: inside) :
    throughClose seen (inside ++ ('*' :: '#' :: rest)) =
      some (seen.reverse ++ (inside ++ ['*', '#']), rest) := by
  induction inside generalizing seen with
  | nil => simp [throughClose]
  | cons c inside ih =>
    have later : ¬ ['*', '#'] <:+: inside :=
      fun within => first (List.infix_cons_iff.2 (.inr within))
    have goesOn : ¬ (c = '*' ∧ (inside ++ ('*' :: '#' :: rest)).head? = some '#') := by
      rintro ⟨rfl, follows⟩
      cases inside with
      | nil => simp at follows
      | cons d inside =>
        obtain rfl : d = '#' := by simpa using follows
        exact first ⟨[], inside, rfl⟩
    rw [List.cons_append, throughClose, if_neg (by simpa using goesOn), ih _ later]
    simp

theorem step_of_filler (filler : Filler taken rest) : step (taken ++ rest) = .gap taken rest := by
  cases filler with
  | blank blank => simp [step, blank]
  | @line inside rest plain ends stop =>
    have solid : isBlank '#' = false := by decide
    have run : Run (· != '\n') inside rest := by
      refine ⟨fun c mem => bne_iff_ne.2 fun feed => ends (feed ▸ mem), fun c mem => ?_⟩
      rcases stop with rfl | feed
      · simp at mem
      · simpa [Option.mem_def.1 mem] using feed
    -- a comment up to the end of its line must not look like a block comment
    have other : ∀ body, inside ++ rest ≠ '*' :: body := by
      intro body starts
      cases inside with
      | nil => rcases stop with rfl | feed <;> simp_all
      | cons c inside => exact plain (by simpa using congrArg List.head? starts)
    rw [List.cons_append, step, if_neg (by simp [solid]), if_pos rfl]
    unfold comment
    split
    next body starts => exact absurd starts (other body)
    next => rw [run.takeWhile_eq, run.dropWhile_eq]
  | @block inside rest first =>
    have solid : isBlank '#' = false := by decide
    have closes : throughClose [] (inside ++ ['*', '#'] ++ rest) =
        some (inside ++ ['*', '#'], rest) := by
      simpa using throughClose_append [] first
    rw [List.cons_append, List.cons_append, step, if_neg (by simp [solid]), if_pos rfl]
    simp only [comment, closes]

theorem step_gap_exchange (h : step (taken ++ rest) = .gap taken rest)
    (same : Resembles rest rest') : step (taken ++ rest') = .gap taken rest' := by
  apply step_of_filler
  cases filler_of_step h with
  | blank blank => exact .blank blank
  | line plain ends stop => exact .line plain ends (same.line.1 stop)
  | block first => exact .block first

def suffixOf (unit : Option TimeUnit) : List Char :=
  (unit.map TimeUnit.suffix).getD []

theorem numberLiteral_split (h : numberLiteral text = .token kind value taken rest) :
    ∃ digits unit, text = digits ++ (suffixOf unit ++ rest) ∧ taken = digits ++ suffixOf unit ∧
      Run isNumberPart digits (suffixOf unit ++ rest) ∧ unitAt? (suffixOf unit ++ rest) = unit ∧
      number digits unit = .ok (kind, value) := by
  have run := run_takeWhile isNumberPart text
  have whole := List.takeWhile_append_dropWhile (p := isNumberPart) (l := text)
  unfold numberLiteral at h
  dsimp only at h
  generalize text.takeWhile isNumberPart = digits at run whole h
  generalize text.dropWhile isNumberPart = after at run whole h
  split at h
  next kind' value' token =>
    simp only [Step.token.injEq] at h
    obtain ⟨rfl, rfl, rfl, rfl⟩ := h
    -- the suffix of a unit is what was found in front of the rest
    have left : suffixOf (unitAt? after) ++ after.drop (suffixOf (unitAt? after)).length =
        after := by
      cases found : unitAt? after with
      | none => rfl
      | some unit => exact suffix_append_of_unitAt? found
    refine ⟨digits, unitAt? after, ?_, rfl, ?_, ?_, token⟩
    · exact (congrArg (digits ++ ·) left).trans whole |>.symm
    · exact left.symm ▸ run
    · exact congrArg unitAt? left
  next => simp at h

theorem numberLiteral_append {digits : List Char} {unit : Option TimeUnit}
    (run : Run isNumberPart digits (suffixOf unit ++ rest))
    (units : unitAt? (suffixOf unit ++ rest) = unit)
    (token : number digits unit = .ok (kind, value)) :
    numberLiteral (digits ++ (suffixOf unit ++ rest)) =
      .token kind value (digits ++ suffixOf unit) rest := by
  have left : (suffixOf unit ++ rest).drop (suffixOf unit).length = rest := by simp
  unfold numberLiteral
  simp only [run.takeWhile_eq, run.dropWhile_eq, units, token]
  exact congrArg _ left

theorem numberLiteral_exchange (h : numberLiteral (taken ++ rest) = .token kind value taken rest)
    (same : Resembles rest rest') :
    numberLiteral (taken ++ rest') = .token kind value taken rest' := by
  obtain ⟨digits, unit, -, rfl, run, units, token⟩ := numberLiteral_split h
  rw [List.append_assoc]
  refine numberLiteral_append ?_ ?_ token
  · cases unit with
    | none =>
      have beyond : rest.head?.any isNumberPart = false := beyond_iff.1 run.beyond
      exact ⟨run.inside, beyond_iff.2 (same.number ▸ beyond)⟩
    | some unit => cases unit <;> exact ⟨run.inside, run.beyond⟩
  · cases unit with
    | none => exact same.unit.symm.trans units
    | some unit =>
      -- the suffix is a word of its own before either text
      have before := unitAt_iff_takeWhile.1 (unitAt_of_eq_some units)
      have beyond : rest.head?.any isWordPart = false := by
        obtain ⟨left, split, beyond⟩ := unitAt_of_eq_some units
        obtain rfl : rest = left := List.append_cancel_left split
        exact beyond_iff.1 beyond
      have run' : Run isWordPart unit.suffix rest' :=
        ⟨isWordPart_of_mem_suffix, beyond_iff.2 (same.word ▸ beyond)⟩
      exact (unitAt?_congr (run'.takeWhile_eq.trans before.symm)).trans units

theorem textLiteral_split
    (h : textLiteral text = .token kind value taken rest) :
    ∃ inside, text = inside ++ '"' :: rest ∧ taken = '"' :: inside ++ ['"'] ∧
      Run (· != '"') inside ('"' :: rest) ∧ kind = .string ∧ value = String.ofList inside := by
  have run := run_takeWhile (· != '"') text
  have whole := List.takeWhile_append_dropWhile (p := (· != '"')) (l := text)
  unfold textLiteral at h
  dsimp only at h
  generalize text.takeWhile (· != '"') = inside at run whole h
  generalize text.dropWhile (· != '"') = after at run whole h
  cases after with
  | nil => simp at h
  | cons quote after =>
    obtain rfl : quote = '"' := by simpa using run.beyond quote rfl
    simp only [Step.token.injEq] at h
    obtain ⟨rfl, rfl, rfl, rfl⟩ := h
    exact ⟨inside, whole.symm, rfl, run, rfl, rfl⟩

theorem textLiteral_append {inside : List Char} (run : Run (· != '"') inside ('"' :: rest)) :
    textLiteral (inside ++ '"' :: rest) =
      .token .string (String.ofList inside) ('"' :: inside ++ ['"']) rest := by
  unfold textLiteral
  simp only [run.takeWhile_eq, run.dropWhile_eq]

theorem word_append (run : Run isWordPart taken rest) :
    word (taken ++ rest) = .token (if Keyword.isReserved (String.ofList taken) then .keyword
      else .identifier) (String.ofList taken) taken rest := by
  unfold word
  simp only [run.takeWhile_eq, run.dropWhile_eq]

theorem textLiteral_exchange {c : Char} {more : List Char}
    (h : textLiteral (more ++ rest) = .token kind value (c :: more) rest) :
    textLiteral (more ++ rest') = .token kind value (c :: more) rest' := by
  obtain ⟨inside, -, ends, run, rfl, rfl⟩ := textLiteral_split h
  obtain ⟨rfl, rfl⟩ : c = '"' ∧ more = inside ++ ['"'] := by simpa using ends
  have run' : Run (· != '"') inside ('"' :: rest') := ⟨run.inside, run.beyond⟩
  simpa using textLiteral_append run'

theorem word_exchange (h : word (taken ++ rest) = .token kind value taken rest)
    (same : Resembles rest rest') : word (taken ++ rest') = .token kind value taken rest' := by
  have run := run_takeWhile isWordPart (taken ++ rest)
  simp only [word, Step.token.injEq] at h
  obtain ⟨rfl, rfl, letters, left⟩ := h
  rw [letters, left] at run
  rw [letters]
  have beyond : rest.head?.any isWordPart = false := beyond_iff.1 run.beyond
  exact word_append ⟨run.inside, beyond_iff.2 (same.word ▸ beyond)⟩

theorem operatorAt_exchange {c : Char} {more : List Char}
    (h : operatorAt c (more ++ rest) = c :: more) (same : Resembles rest rest') :
    operatorAt c (more ++ rest') = c :: more := by
  cases more with
  | cons d more => exact h
  | nil =>
    have alone (text : List Char) : operatorAt c text = [c] ↔
        text.head?.any (fun d => pairs.contains (c, d)) = false := by
      cases text with
      | nil => simp [operatorAt]
      | cons d text => simp [operatorAt]
    exact (alone rest').2 (same.sign c ▸ (alone rest).1 h)

theorem step_token_exchange (h : step (taken ++ rest) = .token kind value taken rest)
    (same : Resembles rest rest') : step (taken ++ rest') = .token kind value taken rest' := by
  -- the first character, which is the same, tells which rule reads the token
  obtain ⟨c, more, rfl⟩ := List.exists_cons_of_ne_nil (step_eq_token h).2
  rw [List.cons_append, step] at h ⊢
  split at h
  next => cases h
  next blank =>
  rw [if_neg blank]
  split at h
  next => exact absurd h comment_ne_token
  next hash =>
  rw [if_neg hash]
  split at h
  next quote =>
    rw [if_pos quote]
    exact textLiteral_exchange h
  next quote =>
  rw [if_neg quote]
  split at h
  next digit =>
    rw [if_pos digit, ← List.cons_append]
    rw [← List.cons_append] at h
    exact numberLiteral_exchange h same
  next digit =>
  rw [if_neg digit]
  split at h
  next start =>
    rw [if_pos start, ← List.cons_append]
    rw [← List.cons_append] at h
    exact word_exchange h same
  next start =>
    rw [if_neg start]
    simp only [Step.token.injEq] at h
    obtain ⟨rfl, rfl, sign, left⟩ := h
    simp [sign, operatorAt_exchange sign same]

variable {line : Nat} {before : List Char} {tokens : List Token}

theorem Opening.exchange (opening : Opening line before rest tokens)
    (same : ∀ more, more <:+ before → Resembles (more ++ rest) (more ++ rest')) :
    Opening line before rest' tokens := by
  induction opening with
  | nil => exact .nil
  | @gap line taken more rest tokens step _ ih =>
    have later : ∀ last, last <:+ more → Resembles (last ++ rest) (last ++ rest') :=
      fun last inside => same last (inside.trans (List.suffix_append _ _))
    exact .gap (step_gap_exchange step (later more List.suffix_rfl)) (ih later)
  | @token line taken more rest tokens kind value step _ ih =>
    have later : ∀ last, last <:+ more → Resembles (last ++ rest) (last ++ rest') :=
      fun last inside => same last (inside.trans (List.suffix_append _ _))
    exact .token (step_token_exchange step (later more List.suffix_rfl)) (ih later)

theorem Opening.scanFrom_eq (opening : Opening line before rest tokens) (seen : List Token) :
    scanFrom seen line (before ++ rest) =
      scanFrom (tokens.reverse ++ seen) (line + newlines before) rest := by
  induction opening generalizing seen with
  | nil => rfl
  | gap step _ ih =>
    rw [List.append_assoc, scanFrom_gap step, ih, newlines_append, Nat.add_assoc]
  | token step _ ih =>
    rw [List.append_assoc, scanFrom_token step, ih, newlines_append, Nat.add_assoc]
    simp

theorem Opening.append {first second : List Char} {tokens tokens' : List Token}
    (opening : Opening line first (second ++ rest) tokens)
    (further : Opening (line + newlines first) second rest tokens') :
    Opening line (first ++ second) rest (tokens ++ tokens') := by
  generalize whole : second ++ rest = left at opening
  induction opening with
  | nil => exact further
  | gap step _ ih =>
    subst whole
    rw [List.append_assoc]
    exact .gap (by simpa using step) (ih (by rwa [newlines_append, ← Nat.add_assoc] at further) rfl)
  | token step _ ih =>
    subst whole
    rw [List.append_assoc]
    exact .token (by simpa using step)
      (ih (by rwa [newlines_append, ← Nat.add_assoc] at further) rfl)

theorem opening_of_scanFrom {seen : List Token} {last : Nat}
    (h : (scanFrom seen line text).stop = .ok last) :
    ∃ tokens, Opening line text [] tokens ∧ last = line + newlines text ∧
      (scanFrom seen line text).tokens = seen.reverse ++ tokens := by
  fun_induction scanFrom seen line text with
  | case1 seen line text done =>
    obtain rfl := eq_nil_of_step done
    obtain rfl : line = last := by simpa using h
    exact ⟨[], .nil, rfl, by simp⟩
  | case2 seen line text taken rest gap shorter ih =>
    obtain ⟨tokens, opening, rfl, read⟩ := ih h
    obtain rfl : text = taken ++ rest := (step_eq_gap gap).1
    refine ⟨tokens, .gap (by simpa using gap) opening, ?_, read⟩
    rw [newlines_append, Nat.add_assoc]
  | case3 seen line text kind value taken rest token shorter ih =>
    obtain ⟨tokens, opening, rfl, read⟩ := ih h
    obtain rfl : text = taken ++ rest := (step_eq_token token).1
    refine ⟨_, .token (by simpa using token) opening, ?_, by simp [read]⟩
    rw [newlines_append, Nat.add_assoc]
  | case4 => simp at h

theorem tokenize_eq_ok_iff {source : String} :
    tokenize source = .ok tokens ↔ ∃ others, Opening 1 source.toList [] others ∧
      tokens = others ++ [.eof (1 + newlines source.toList)] := by
  constructor
  · intro h
    obtain ⟨last, stops, rfl⟩ : ∃ last, (scan source).stop = .ok last ∧
        (scan source).tokens ++ [Token.eof last] = tokens := by
      unfold tokenize at h
      dsimp only at h
      cases stop : (scan source).stop with
      | error d => simp [stop, Except.map] at h
      | ok last => exact ⟨last, rfl, by simpa [stop, Except.map] using h⟩
    obtain ⟨others, opening, rfl, read⟩ := opening_of_scanFrom stops
    exact ⟨others, opening, by simpa [scan] using read⟩
  · rintro ⟨others, opening, rfl⟩
    have ends : scanFrom others.reverse (1 + newlines source.toList) [] =
        ⟨others, .ok (1 + newlines source.toList)⟩ := by
      rw [scanFrom]
      simp [step]
    have scanned := opening.scanFrom_eq []
    rw [List.append_nil, List.append_nil, ends] at scanned
    simp [tokenize, scan, scanned, Except.map]

theorem Opening.split {earlier later : List Token} {token : Token}
    (opening : Opening line text rest (earlier ++ token :: later)) :
    ∃ before lexeme after kind value, text = before ++ (lexeme ++ after) ∧
      token = ⟨kind, some value, line + newlines before⟩ ∧
      Opening line before (lexeme ++ (after ++ rest)) earlier ∧
      step (lexeme ++ (after ++ rest)) = .token kind value lexeme (after ++ rest) ∧
      Opening (line + newlines before + newlines lexeme) after rest later := by
  generalize same : earlier ++ token :: later = tokens at opening
  -- the lexeme is in the part that is read first, or the tokens before it shrink
  induction opening generalizing earlier with
  | nil => simp at same
  | @gap line taken more rest tokens gap _ ih =>
    obtain ⟨before, lexeme, after, kind, value, rfl, rfl, opening, step, further⟩ := ih same
    refine ⟨taken ++ before, lexeme, after, kind, value, by simp, ?_, ?_, step, ?_⟩
    · rw [newlines_append, Nat.add_assoc]
    · exact .gap (by simpa using gap) opening
    · rwa [newlines_append, ← Nat.add_assoc]
  | @token line taken more rest tokens kind value stands opened ih =>
    cases earlier with
    | nil =>
      obtain ⟨rfl, rfl⟩ : token = ⟨kind, some value, line⟩ ∧ later = tokens := by simpa using same
      exact ⟨[], taken, more, kind, value, rfl, rfl, .nil, stands, opened⟩
    | cons first earlier =>
      obtain ⟨rfl, others⟩ := List.cons.inj same
      obtain ⟨before, lexeme, after, kind', value', rfl, rfl, opening, step, further⟩ := ih others
      refine ⟨taken ++ before, lexeme, after, kind', value', by simp, ?_, ?_, step, ?_⟩
      · rw [newlines_append, Nat.add_assoc]
      · exact .token (by simpa using stands) opening
      · rwa [newlines_append, ← Nat.add_assoc]

end DeskScript.Lexer
