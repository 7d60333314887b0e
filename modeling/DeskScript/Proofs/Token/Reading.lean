import DeskScript.Token.Lexer

/-!
The tokens of a script account for all of its text. `Gap` and `Lexeme` say what can stand between
tokens and what a token stands for, `Reading` says how a whole text is made up of them, and
`tokenize_reading` that every script that is read is made up so.
-/

namespace DeskScript.Lexer

open Text (isBlank isDigit sameWord)

variable {text taken rest : List Char} {kind : Token.Kind} {value : String}

inductive Filler : List Char → (rest : List Char) → Prop where
  | blank {c : Char} {rest : List Char} : isBlank c = true → Filler [c] rest
  | line {inside rest : List Char} : inside.head? ≠ some '*' → '\n' ∉ inside →
    rest = [] ∨ rest.head? = some '\n' → Filler ('#' :: inside) rest
  | block {inside rest : List Char} : ¬ ['*', '#'] <:+: inside →
    Filler ('#' :: '*' :: (inside ++ ['*', '#'])) rest

inductive Gap : List Char → (rest : List Char) → Prop where
  | nil {rest : List Char} : Gap [] rest
  | cons {first more rest : List Char} : Filler first (more ++ rest) → Gap more rest →
    Gap (first ++ more) rest

structure Run (part : Char → Bool) (taken rest : List Char) : Prop where
  inside : ∀ c ∈ taken, part c = true
  beyond : ∀ c ∈ rest.head?, part c = false

def Reserved (word : String) : Prop :=
  ∃ entry ∈ Keyword.table, ∃ reserved ∈ entry.2, sameWord word reserved = true

def UnitAt (unit : TimeUnit) (text : List Char) : Prop :=
  ∃ rest, text = unit.suffix ++ rest ∧ ∀ c ∈ rest.head?, isWordPart c = false

structure Sign (c : Char) : Prop where
  blank : isBlank c = false
  comment : c ≠ '#'
  quote : c ≠ '"'
  digit : isDigit c = false
  letter : isWordStart c = false

/-- The lexeme before the rest of the text that a token with this kind and value stands for. -/
inductive Lexeme : Token.Kind → String → List Char → (rest : List Char) → Prop where
  | keyword {c : Char} {more rest : List Char} : isWordStart c = true →
    Run isWordPart (c :: more) rest → Reserved (String.ofList (c :: more)) →
    Lexeme .keyword (String.ofList (c :: more)) (c :: more) rest
  | identifier {c : Char} {more rest : List Char} : isWordStart c = true →
    Run isWordPart (c :: more) rest → ¬ Reserved (String.ofList (c :: more)) →
    Lexeme .identifier (String.ofList (c :: more)) (c :: more) rest
  | integer {c : Char} {more rest : List Char} : isDigit c = true →
    Run isNumberPart (c :: more) rest → (c :: more).count '.' = 0 → (∀ unit, ¬ UnitAt unit rest) →
    Lexeme .integer (String.ofList (c :: more)) (c :: more) rest
  | float {c : Char} {more rest : List Char} : isDigit c = true →
    Run isNumberPart (c :: more) rest → (c :: more).count '.' = 1 → (∀ unit, ¬ UnitAt unit rest) →
    Lexeme .float (String.ofList (c :: more)) (c :: more) rest
  | time {c : Char} {more rest : List Char} {unit : TimeUnit} {length : Float} :
    isDigit c = true → Run isNumberPart (c :: more) (unit.suffix ++ rest) →
    (c :: more).count '.' ≤ 1 → (∀ d ∈ rest.head?, isWordPart d = false) →
    Decimal.readFloat? (String.ofList (c :: more)) = some length →
    Lexeme .time (secondsText (unit.toSeconds length)) (c :: more ++ unit.suffix) rest
  | string {inside rest : List Char} : '"' ∉ inside →
    Lexeme .string (String.ofList inside) ('"' :: inside ++ ['"']) rest
  | pair {c d : Char} {rest : List Char} : Sign c → (c, d) ∈ pairs →
    Lexeme .operator (String.ofList [c, d]) [c, d] rest
  | single {c : Char} {rest : List Char} : Sign c → (∀ d ∈ rest.head?, (c, d) ∉ pairs) →
    Lexeme .operator (String.ofList [c]) [c] rest

/-- The tokens of a text, given what comes before it: each stands for a lexeme, on the line that
the line feeds before the lexeme tell, and between the lexemes there are only gaps. -/
inductive Reading : (before text : List Char) → List Token → Prop where
  | ending {before gap : List Char} : Gap gap [] →
    Reading before gap [Token.eof (1 + newlines (before ++ gap))]
  | token {before gap lexeme rest : List Char} {tokens : List Token} {kind : Token.Kind}
      {value : String} :
    Gap gap (lexeme ++ rest) → Lexeme kind value lexeme rest →
    Reading (before ++ gap ++ lexeme) rest tokens →
    Reading before (gap ++ (lexeme ++ rest))
      (⟨kind, some value, 1 + newlines (before ++ gap)⟩ :: tokens)

theorem run_takeWhile (part : Char → Bool) (text : List Char) :
    Run part (text.takeWhile part) (text.dropWhile part) where
  inside := List.all_eq_true.1 List.all_takeWhile
  beyond c mem := by
    have first := List.head?_dropWhile_not part text
    rw [Option.mem_def.1 mem] at first
    simpa using first

theorem throughClose_first {seen : List Char} (h : throughClose seen text = some (taken, rest)) :
    ∃ inside, taken = seen.reverse ++ (inside ++ ['*', '#']) ∧ ¬ ['*', '#'] <:+: inside := by
  induction text generalizing seen with
  | nil => simp [throughClose] at h
  | cons c text ih =>
    rw [throughClose] at h
    split at h
    next closes =>
      obtain ⟨rfl, -⟩ : c = '*' ∧ text.head? = some '#' := by simpa using closes
      obtain ⟨rfl, -⟩ : ('#' :: '*' :: seen).reverse = taken ∧ text.drop 1 = rest := by
        simpa using h
      exact ⟨[], by simp, by decide⟩
    next goesOn =>
      obtain ⟨inside, rfl, first⟩ := ih h
      refine ⟨c :: inside, by simp, fun within => ?_⟩
      -- a mark in the longer text starts with the character that was passed, or comes later
      rcases List.infix_cons_iff.1 within with start | later
      · obtain ⟨rfl, more⟩ := List.cons_prefix_cons.1 start
        obtain ⟨more, rfl⟩ := more
        have split := throughClose_eq_some h
        have starts : text.head? = some '#' := by
          simp only [List.append_assoc, List.append_cancel_left_eq] at split
          rw [split]
          rfl
        simp [starts] at goesOn
      · exact first later

theorem filler_of_comment (h : comment rest = .gap taken text) : Filler taken text := by
  unfold comment at h
  split at h
  next body =>
    split at h
    next inside after closes =>
      obtain ⟨rfl, rfl⟩ : '#' :: '*' :: inside = taken ∧ after = text := by simpa using h
      obtain ⟨inside, rfl, first⟩ := throughClose_first closes
      exact .block first
    next => simp at h
  next other =>
    obtain ⟨rfl, rfl⟩ : '#' :: rest.takeWhile (· != '\n') = taken ∧
        rest.dropWhile (· != '\n') = text := by simpa using h
    have run := run_takeWhile (· != '\n') rest
    refine .line ?_ (fun mem => by simpa using run.inside _ mem) ?_
    -- a star right after the sign would have begun a block comment
    · rcases rest with - | ⟨c, rest⟩
      · simp
      · intro star
        by_cases feed : c = '\n'
        · simp [feed] at star
        · simp only [List.takeWhile_cons, bne_iff_ne, ne_eq, feed, not_false_eq_true, if_true,
            List.head?_cons, Option.some.injEq] at star
          exact other _ (congrArg (· :: rest) star)
    · rcases left : rest.dropWhile (· != '\n') with - | ⟨c, after⟩
      · exact .inl rfl
      · rw [left] at run
        exact .inr (by simpa using run.beyond c rfl)

theorem filler_of_step (h : step text = .gap taken rest) : Filler taken rest := by
  cases text with
  | nil => simp [step] at h
  | cons c text =>
    rw [step] at h
    split at h
    next blank =>
      obtain ⟨rfl, rfl⟩ : [c] = taken ∧ text = rest := by simpa using h
      exact .blank blank
    split at h
    next => exact filler_of_comment h
    split at h
    next => exact absurd h textLiteral_ne_gap
    split at h
    next => exact absurd h numberLiteral_ne_gap
    split at h
    next => simp [word] at h
    next => simp at h

theorem lexeme_of_textLiteral (h : textLiteral text = .token kind value taken rest) :
    Lexeme kind value taken rest := by
  have run := run_takeWhile (· != '"') text
  unfold textLiteral at h
  split at h
  next => simp at h
  next quote after split =>
    rw [split] at run
    obtain rfl : quote = '"' := by simpa using run.beyond quote rfl
    simp only [Step.token.injEq] at h
    obtain ⟨rfl, rfl, rfl, rfl⟩ := h
    exact .string fun mem => by simpa using run.inside _ mem

theorem unitAt_iff {unit : TimeUnit} :
    UnitAt unit text ↔ (unit.suffix.isPrefixOf text &&
      !((text.drop unit.suffix.length).head?.any isWordPart)) = true := by
  rw [Bool.and_eq_true, List.isPrefixOf_iff_prefix]
  constructor
  · rintro ⟨rest, rfl, beyond⟩
    refine ⟨List.prefix_append _ _, ?_⟩
    rw [List.drop_left]
    cases rest with
    | nil => rfl
    | cons c rest => simpa using beyond c rfl
  · rintro ⟨⟨rest, rfl⟩, beyond⟩
    rw [List.drop_left] at beyond
    refine ⟨rest, rfl, fun c mem => ?_⟩
    simpa [Option.mem_def.1 mem] using beyond

theorem unitAt_of_eq_some {unit : TimeUnit} (h : unitAt? text = some unit) : UnitAt unit text :=
  unitAt_iff.2 (by simpa using List.find?_some h)

theorem not_unitAt_of_eq_none (h : unitAt? text = none) (unit : TimeUnit) :
    ¬ UnitAt unit text := by
  have absent := List.find?_eq_none.1 h unit (by cases unit <;> decide)
  exact fun stands => absent (unitAt_iff.1 stands)

theorem number_some_eq_ok {digits : List Char} {unit : TimeUnit}
    (h : number digits (some unit) = .ok (kind, value)) :
    digits.count '.' ≤ 1 ∧ kind = .time ∧ ∃ length,
      Decimal.readFloat? (String.ofList digits) = some length ∧
      value = secondsText (unit.toSeconds length) := by
  unfold number at h
  dsimp only at h
  split at h
  next => simp at h
  next points =>
    split at h
    next => simp at h
    next length read =>
      split at h
      next =>
        cases h
        exact ⟨Nat.le_of_not_lt points, rfl, length, read, rfl⟩
      next => simp at h

theorem number_none_eq_ok {digits : List Char} (h : number digits none = .ok (kind, value)) :
    value = String.ofList digits ∧
      (kind = .integer ∧ digits.count '.' = 0 ∨ kind = .float ∧ digits.count '.' = 1) := by
  unfold number at h
  dsimp only at h
  split at h
  next => simp at h
  next points =>
    split at h
    next one =>
      split at h
      next => simp at h
      next =>
        split at h
        next =>
          cases h
          exact ⟨rfl, .inr ⟨rfl, one⟩⟩
        next => simp at h
    next one =>
      split at h
      next =>
        cases h
        exact ⟨rfl, .inl ⟨rfl, by omega⟩⟩
      next => simp at h

theorem lexeme_of_numberLiteral {c : Char} (digit : isDigit c = true)
    (h : numberLiteral (c :: text) = .token kind value taken rest) :
    Lexeme kind value taken rest := by
  have run := run_takeWhile isNumberPart (c :: text)
  have part : isNumberPart c = true := by simp [isNumberPart, digit]
  unfold numberLiteral at h
  rw [List.takeWhile_cons_of_pos part, List.dropWhile_cons_of_pos part] at run h
  generalize text.takeWhile isNumberPart = more at run h
  generalize text.dropWhile isNumberPart = after at run h
  dsimp only at h
  split at h
  next kind' value' token =>
    simp only [Step.token.injEq] at h
    obtain ⟨rfl, rfl, rfl, rfl⟩ := h
    cases stands : unitAt? after with
    | some unit =>
      rw [stands] at token
      obtain ⟨rest, rfl, beyond⟩ := unitAt_of_eq_some stands
      obtain ⟨points, rfl, length, read, rfl⟩ := number_some_eq_ok token
      simpa using Lexeme.time digit run points beyond read
    | none =>
      rw [stands] at token
      have apart := not_unitAt_of_eq_none stands
      obtain ⟨rfl, ⟨rfl, points⟩ | ⟨rfl, points⟩⟩ := number_none_eq_ok token
      · simpa using Lexeme.integer digit run points apart
      · simpa using Lexeme.float digit run points apart
  next => simp at h

theorem upper_of_mem_table {entry : Keyword.Category × List String} (mem : entry ∈ Keyword.table)
    {word : String} (inside : word ∈ entry.2) : Text.upper word = word := by
  have all : ∀ entry ∈ Keyword.table, ∀ word ∈ entry.2, Text.upper word = word := by
    decide +kernel
  exact all entry mem word inside

theorem isReserved_iff (word : String) : Keyword.isReserved word = true ↔ Reserved word := by
  rw [Keyword.isReserved, Keyword.category?, Option.isSome_map, List.find?_isSome]
  refine exists_congr fun entry => and_congr_right fun mem => ?_
  rw [List.contains_iff_mem]
  constructor
  · intro inside
    exact ⟨_, inside, beq_iff_eq.2 (upper_of_mem_table mem inside).symm⟩
  · rintro ⟨reserved, inside, same⟩
    rw [sameWord, beq_iff_eq, upper_of_mem_table mem inside] at same
    rwa [same]

theorem lexeme_of_word {c : Char} (start : isWordStart c = true)
    (h : word (c :: text) = .token kind value taken rest) : Lexeme kind value taken rest := by
  have run := run_takeWhile isWordPart (c :: text)
  have part : isWordPart c = true := by
    simp only [isWordStart, isWordPart, Bool.or_eq_true] at start ⊢
    exact start.imp_left Or.inl
  unfold word at h
  rw [List.takeWhile_cons_of_pos part, List.dropWhile_cons_of_pos part] at run h
  simp only [Step.token.injEq] at h
  obtain ⟨rfl, rfl, rfl, rfl⟩ := h
  split
  next reserved => exact .keyword start run ((isReserved_iff _).1 reserved)
  next free => exact .identifier start run (mt (isReserved_iff _).2 free)

theorem lexeme_of_step (h : step text = .token kind value taken rest) :
    Lexeme kind value taken rest := by
  -- the rules are tried in order; a sign is what none of the ones before it takes
  cases text with
  | nil => simp [step] at h
  | cons c text =>
    rw [step] at h
    split at h
    next => simp at h
    next blank =>
    split at h
    next => exact absurd h comment_ne_token
    next hash =>
    split at h
    next => exact lexeme_of_textLiteral h
    next quote =>
    split at h
    next digit => exact lexeme_of_numberLiteral digit h
    next digit =>
    split at h
    next start => exact lexeme_of_word start h
    next start =>
      have sign : Sign c := ⟨by simpa using blank, hash, quote, by simpa using digit,
        by simpa using start⟩
      simp only [Step.token.injEq] at h
      obtain ⟨rfl, rfl, rfl, rfl⟩ := h
      unfold operatorAt
      split
      next d after =>
        split
        next pair => exact .pair sign (List.contains_iff_mem.1 pair)
        next alone =>
          refine .single sign fun e mem => ?_
          obtain rfl : d = e := by simpa using mem
          simpa [List.contains_iff_mem] using alone
      next => exact .single sign (by simp)

theorem newlines_append (first second : List Char) :
    newlines (first ++ second) = newlines first + newlines second :=
  List.count_append

theorem eq_nil_of_step (h : step text = .done) : text = [] := by
  cases text with
  | nil => rfl
  | cons c text =>
    rw [step] at h
    split at h
    next => simp at h
    split at h
    next =>
      unfold comment at h
      split at h
      · split at h <;> simp at h
      · simp at h
    split at h
    next =>
      unfold textLiteral at h
      split at h <;> simp at h
    split at h
    next =>
      unfold numberLiteral at h
      dsimp only at h
      split at h <;> simp at h
    split at h
    next => simp [word] at h
    next => simp at h

theorem scanFrom_token {seen : List Token} {line : Nat}
    (h : step text = .token kind value taken rest) :
    scanFrom seen line text =
      scanFrom (⟨kind, some value, line⟩ :: seen) (line + newlines taken) rest := by
  rw [scanFrom]
  split <;> simp_all

theorem scanFrom_gap {seen : List Token} {line : Nat} (h : step text = .gap taken rest) :
    scanFrom seen line text = scanFrom seen (line + newlines taken) rest := by
  rw [scanFrom]
  split <;> simp_all

theorem Lexeme.kind_ne (lexeme : Lexeme kind value taken rest) : kind ≠ .eof := by
  cases lexeme <;> decide

theorem Reading.ends {before : List Char} {tokens : List Token}
    (reading : Reading before text tokens) :
    ∃ others, tokens = others ++ [Token.eof (1 + newlines (before ++ text))] ∧
      ∀ token ∈ others, token.kind ≠ .eof := by
  induction reading with
  | ending gap => exact ⟨[], rfl, by simp⟩
  | @token before gap lexeme rest tokens kind value _ stands _ ih =>
    obtain ⟨others, rfl, ordinary⟩ := ih
    refine ⟨⟨kind, some value, 1 + newlines (before ++ gap)⟩ :: others, by simp, ?_⟩
    exact List.forall_mem_cons.2 ⟨stands.kind_ne, ordinary⟩

theorem eq_ok_of_toOption {source : String} {tokens : List Token}
    (h : (tokenize source).toOption = some tokens) : tokenize source = .ok tokens := by
  cases read : tokenize source with
  | error d => simp [read, Except.toOption] at h
  | ok found => simpa [read, Except.toOption] using h

end DeskScript.Lexer
