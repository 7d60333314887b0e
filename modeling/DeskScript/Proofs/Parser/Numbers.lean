import DeskScript.Proofs.Decimal.Seconds
import DeskScript.Proofs.Parser.Answers
import DeskScript.Proofs.Parser.Termination
import DeskScript.Proofs.Token.Opening

/-!
Numbers that the tokenizer lets through. A number is read twice: the tokenizer reads it to see that
it is one and that it is not too large, and the parser reads the text of its token, after a minus
sign if there is one. Only the range of integers is narrower the second time. Main statement:
`numbers_stay_valid`.
-/

namespace DeskScript

open Decimal (readFloat? readInt?)
open Text (isDigit)

/-- The parser can read the text of a number, with and without a minus sign. -/
structure Token.Sound (token : Token) : Prop where
  integer : token.kind = .integer → ∃ n : Nat, readInt? token.text = some (n : Int) ∧
    readInt? ("-" ++ token.text) = some (-n : Int)
  real : token.kind = .float ∨ token.kind = .time → ∃ x : Float, x.isFinite = true ∧
    readFloat? token.text = some x ∧ readFloat? ("-" ++ token.text) = some (-x)

theorem Token.sound_of_not_numeric {token : Token} (other : token.kind.isNumeric = false) :
    token.Sound where
  integer kind := by rw [kind] at other; cases other
  real kind := by rcases kind with kind | kind <;> rw [kind] at other <;> cases other

theorem Token.Kind.real_of_isNumeric {kind : Token.Kind} (numeric : kind.isNumeric = true)
    (other : kind ≠ .integer) : kind = .float ∨ kind = .time := by
  cases kind <;> simp_all [Token.Kind.isNumeric]

namespace Decimal

variable {text : String} {c : Char} {rest : List Char}

theorem splitSign_minus (text : String) :
    splitSign ("-" ++ text).toList = (true, text.toList) := by
  rw [String.toList_append]
  rfl

theorem readFloat?_minus {x : Float} (first : text.toList = c :: rest) (digit : isDigit c = true)
    (read : readFloat? text = some x) : readFloat? ("-" ++ text) = some (-x) := by
  rw [readFloat?, first, splitSign_of_digit digit] at read
  rw [readFloat?, splitSign_minus, first]
  obtain ⟨size, magnitude, same⟩ := Option.map_eq_some_iff.1 read
  dsimp only at magnitude ⊢
  rw [magnitude, ← same]
  rfl

theorem readInt?_digits (first : text.toList = c :: rest)
    (digits : ∀ d ∈ text.toList, isDigit d = true) :
    readInt? text = some (valueOf text.toList : Int) ∧
      readInt? ("-" ++ text) = some (-(valueOf text.toList : Int)) := by
  have digit : isDigit c = true := digits c (by simp [first])
  have read : readNat? text.toList = some (valueOf text.toList) := by
    rw [readNat?, List.all_eq_true.2 digits, first]
    rfl
  constructor
  · rw [readInt?, first, splitSign_of_digit digit, ← first]
    simp [read]
  · rw [readInt?, splitSign_minus]
    simp [read]

end Decimal

namespace Lexer

variable {digits : List Char} {kind : Token.Kind} {value : String}

theorem sound_of_real {line : Nat} {x : Float} {c : Char} {rest : List Char}
    (sort : kind = .float ∨ kind = .time) (first : value.toList = c :: rest)
    (digit : isDigit c = true) (finite : x.isFinite = true) (read : readFloat? value = some x) :
    Token.Sound ⟨kind, some value, line⟩ where
  integer other := by rcases sort with rfl | rfl <;> cases other
  real _ := ⟨x, finite, read, Decimal.readFloat?_minus first digit read⟩

theorem sound_of_integer {line : Nat} {c : Char} {rest : List Char}
    (first : value.toList = c :: rest) (digits : ∀ d ∈ value.toList, isDigit d = true) :
    Token.Sound ⟨.integer, some value, line⟩ where
  integer _ := ⟨_, Decimal.readInt?_digits first digits⟩
  real other := by rcases other with other | other <;> cases other

theorem isDigit_of_no_point (inside : ∀ d ∈ digits, isNumberPart d = true)
    (none : '.' ∉ digits) : ∀ d ∈ (String.ofList digits).toList, isDigit d = true := by
  rw [String.toList_ofList]
  intro d mem
  have part := inside d mem
  rw [isNumberPart, Bool.or_eq_true, beq_iff_eq] at part
  exact part.resolve_right fun point => none (point ▸ mem)

theorem sound_of_number {c : Char} {more : List Char} {unit : Option TimeUnit} {line : Nat}
    (first : digits = c :: more) (digit : isDigit c = true)
    (inside : ∀ d ∈ digits, isNumberPart d = true)
    (h : number digits unit = .ok (kind, value)) : Token.Sound ⟨kind, some value, line⟩ := by
  have start : (String.ofList digits).toList = c :: more := by rw [String.toList_ofList, first]
  unfold number at h
  dsimp only at h
  split at h
  next => cases h
  next few =>
  split at h
  next unit =>
    split at h
    next => cases h
    next length read =>
      split at h
      next finite =>
        cases h
        obtain ⟨c, rest, text, digit, seconds⟩ := Decimal.readFloat?_secondsText finite
        exact sound_of_real (.inr rfl) text digit (Decimal.isFinite_magnitude finite) seconds
      next => cases h
  next =>
    split at h
    next =>
      split at h
      next => cases h
      next x read =>
        split at h
        next finite =>
          cases h
          exact sound_of_real (.inl rfl) start digit finite read
        next => cases h
    next one =>
      split at h
      next =>
        cases h
        have none : '.' ∉ digits := List.count_eq_zero.1 (by omega)
        exact sound_of_integer start (isDigit_of_no_point inside none)
      next => cases h

theorem Run.cons_of_part {part : Char → Bool} {taken rest text : List Char} {c : Char}
    (run : Run part taken rest) (split : c :: text = taken ++ rest) (inside : part c = true) :
    ∃ more, taken = c :: more := by
  cases taken with
  | nil =>
    rw [List.nil_append] at split
    have other : part c = false := run.beyond c (by rw [← split]; rfl)
    rw [inside] at other
    cases other
  | cons d more => exact ⟨more, by rw [(List.cons.inj split).1]⟩

theorem sound_of_step {text taken rest : List Char} {line : Nat}
    (h : step text = .token kind value taken rest) : Token.Sound ⟨kind, some value, line⟩ := by
  cases text with
  | nil => cases h
  | cons c text =>
    rw [step] at h
    split at h
    next => cases h
    split at h
    next => exact absurd h comment_ne_token
    split at h
    next =>
      obtain ⟨_, _, _, _, rfl, rfl⟩ := textLiteral_split h
      exact Token.sound_of_not_numeric rfl
    split at h
    next digit =>
      obtain ⟨digits, unit, split, -, run, -, token⟩ := numberLiteral_split h
      have part : isNumberPart c = true := by rw [isNumberPart, digit]; rfl
      obtain ⟨more, rfl⟩ := run.cons_of_part split part
      exact sound_of_number rfl digit run.inside token
    split at h
    next =>
      simp only [word, Step.token.injEq] at h
      obtain ⟨rfl, -⟩ := h
      exact Token.sound_of_not_numeric (by split <;> rfl)
    next =>
      simp only [Step.token.injEq] at h
      obtain ⟨rfl, -⟩ := h
      exact Token.sound_of_not_numeric rfl

theorem Opening.sound {line : Nat} {before rest : List Char} {tokens : List Token}
    (opening : Opening line before rest tokens) : ∀ token ∈ tokens, token.Sound := by
  induction opening with
  | nil => exact List.forall_mem_nil _
  | gap _ _ ih => exact ih
  | token step _ ih => exact List.forall_mem_cons.2 ⟨sound_of_step step, ih⟩

theorem sound_of_tokenize {source : String} {tokens : List Token}
    (h : tokenize source = .ok tokens) :
    Cursor.complete tokens = tokens ∧ ∀ token ∈ tokens, token.Sound := by
  obtain ⟨others, opening, rfl⟩ := tokenize_eq_ok_iff.1 h
  constructor
  · simp [Cursor.complete, Token.eof, Token.isEof]
  · have ending : (Token.eof (1 + newlines source.toList)).Sound := Token.sound_of_not_numeric rfl
    exact List.forall_mem_append.2 ⟨opening.sound, List.forall_mem_singleton.2 ending⟩

end Lexer

/-- A diagnostic says of one of the integers that it does not fit 64 bits with the sign it has. -/
def Diagnostic.OutOfRange (tokens : List Token) (d : Diagnostic) : Prop :=
  ∃ token ∈ tokens, token.kind = .integer ∧ d.line = token.line ∧
    ∃ text n, (text = token.text ∨ text = "-" ++ token.text) ∧ readInt? text = some n ∧
      ¬ (-0x8000000000000000 ≤ n ∧ n < 0x8000000000000000) ∧ d.cause = .integerOutOfRange text

namespace Parser

variable {tokens : List Token}

theorem literal_integer {text : String} {value : Int64} (read : readInt64? text = some value)
    (line : Nat) : literal .integer text line = pure (.integer value) := by
  unfold literal
  dsimp only
  rw [read]

theorem literal_refused {text : String} (refused : readInt64? text = none) (line : Nat) :
    literal .integer text line = fail (.integerOutOfRange text) line := by
  unfold literal
  dsimp only
  rw [refused]

theorem literal_float {text : String} {x : Float} (read : readFloat? text = some x) (line : Nat) :
    literal .float text line = pure (.float x) := by
  unfold literal
  dsimp only
  rw [read]

theorem literal_time {text : String} {x : Float} (read : readFloat? text = some x) (line : Nat) :
    literal .time text line = pure (.time x Node.seconds) := by
  unfold literal
  dsimp only
  rw [read]

theorem literal_of_sound {token : Token} (sound : token.Sound)
    (numeric : token.kind.isNumeric = true) {text : String}
    (spelt : text = token.text ∨ text = "-" ++ token.text) :
    (∃ node, node.Finite ∧ literal token.kind text token.line = pure node) ∨
      ∃ n, token.kind = .integer ∧ readInt? text = some n ∧
        ¬ (-0x8000000000000000 ≤ n ∧ n < 0x8000000000000000) ∧
        literal token.kind text token.line = fail (.integerOutOfRange text) token.line := by
  -- only an integer can be out of range: a double that is finite stays so with a minus sign
  by_cases integer : token.kind = .integer
  · obtain ⟨size, plain, minus⟩ := sound.integer integer
    obtain ⟨n, read⟩ : ∃ n, readInt? text = some n := by
      rcases spelt with rfl | rfl
      · exact ⟨size, plain⟩
      · exact ⟨-size, minus⟩
    have value : readInt64? text = Decimal.toInt64? n := by
      rw [readInt64?, read, Option.bind_some]
    rw [integer]
    by_cases fits : -0x8000000000000000 ≤ n ∧ n < 0x8000000000000000
    · rw [Decimal.toInt64?, if_pos fits] at value
      exact .inl ⟨.integer (Int64.ofInt n), Node.finite_of_doubles_nil rfl, literal_integer value _⟩
    · rw [Decimal.toInt64?, if_neg fits] at value
      exact .inr ⟨n, rfl, read, fits, literal_refused value _⟩
  · have real := Token.Kind.real_of_isNumeric numeric integer
    obtain ⟨x, finite, plain, minus⟩ := sound.real real
    obtain ⟨y, read, finite⟩ : ∃ y, readFloat? text = some y ∧ y.isFinite = true := by
      rcases spelt with rfl | rfl
      · exact ⟨x, plain, finite⟩
      · exact ⟨-x, minus, Decimal.isFinite_neg finite⟩
    have singly : ∀ z ∈ [y], z.isFinite = true := List.forall_mem_singleton.2 finite
    rcases real with real | real
    · exact .inl ⟨.float y, singly, by rw [real, literal_float read]⟩
    · exact .inl ⟨.time y Node.seconds, singly, by rw [real, literal_time read]⟩

theorem literal_answers {token : Token} (holds : token ∈ tokens ∧ token.Sound)
    (numeric : token.kind.isNumeric = true) {text : String}
    (spelt : text = token.text ∨ text = "-" ++ token.text) :
    Answers (fun token => token ∈ tokens ∧ token.Sound)
      (fun d => d.kind = .number → d.OutOfRange tokens) Node.Finite
      (literal token.kind text token.line) := by
  rcases literal_of_sound holds.2 numeric spelt with ⟨node, finite, same⟩ |
    ⟨n, integer, read, outside, same⟩
  · rw [same]
    exact finite
  · rw [same]
    exact fun _ => ⟨token, holds.1, integer, rfl, text, n, spelt, read, outside, rfl⟩

theorem fair_of_sound (tokens : List Token) :
    Fair (fun token => token ∈ tokens ∧ token.Sound)
      (fun d => d.kind = .number → d.OutOfRange tokens) where
  plain _ other same := absurd same other
  number _ holds numeric := literal_answers holds numeric (.inl rfl)
  negative _ holds numeric := literal_answers holds numeric (.inr rfl)

end Parser

namespace Json

theorem realDigits_cons (decimal : Decimal) :
    ∃ c rest, realDigits decimal = c :: rest ∧ isDigit c = true := by
  obtain ⟨c, rest, text, digit, -⟩ := Decimal.readMagnitude?_plain decimal
  obtain ⟨first, others, digits, leads⟩ := Decimal.toDigits_cons decimal.digits
  unfold realDigits
  dsimp only
  rw [text, digits]
  split
  · split
    · exact ⟨c, rest ++ ['.', '0'], rfl, digit⟩
    · exact ⟨c, rest, rfl, digit⟩
  · cases others with
    | nil => exact ⟨first, _, rfl, leads⟩
    | cons second others => exact ⟨first, _, rfl, leads⟩

theorem realText_ne_null {x : Float} (finite : x.isFinite = true) :
    realText x ≠ "null".toList := by
  have null : "null".toList = ['n', 'u', 'l', 'l'] := rfl
  rw [realText, if_pos finite, null]
  obtain ⟨c, rest, text, digit⟩ :=
    realDigits_cons (Decimal.shortest .toEven (if Decimal.isNegative x then -x else x))
  dsimp only
  rw [text]
  intro same
  split at same
  next => exact absurd (List.cons.inj same).1 (by decide)
  next =>
    rw [(List.cons.inj same).1] at digit
    cases digit

end Json

/--
Numbers that the tokenizer lets through stay valid. From the tokens of a script the parser builds
only trees whose doubles are finite, so that none is written as null; and if it refuses a number, it
is an integer that does not fit 64 bits with the sign before it.
-/
theorem numbers_stay_valid (options : Options) {source : String} {tokens : List Token}
    (read : Lexer.tokenize source = .ok tokens) :
    (∀ ast, (Parser.parse options tokens).result = .ok ast →
      ∀ x ∈ ast.doubles, x.isFinite = true ∧ Json.realText x ≠ "null".toList) ∧
    ∀ d, (Parser.parse options tokens).result = .error d → d.kind = .number →
      d.OutOfRange tokens := by
  obtain ⟨whole, sound⟩ := Lexer.sound_of_tokenize read
  have remaining : (Parser.start .initial tokens).cursor.remaining = tokens :=
    (Cursor.ofList_remaining _ _).trans whole
  have answers := (Parser.fair_of_sound tokens).program
    (Parser.settingsFor Parser.defaultLimit options tokens) Parser.defaultLimit
    (Cursor.complete tokens).length
  obtain ⟨built, refused⟩ := answers.run (s := Parser.start .initial tokens) fun token mem =>
    have mem : token ∈ tokens := remaining ▸ mem
    ⟨mem, sound token mem⟩
  refine ⟨fun ast accepted x mem => ?_, refused⟩
  have finite : x.isFinite = true := built ast accepted x mem
  exact ⟨finite, Json.realText_ne_null finite⟩

/-- A length in minutes under a minus sign, and an integer too large for 64 bits under one. -/
theorem numbers_stay_valid_minus :
    (∃ ast, (Parser.parse .none [⟨.keyword, some "WAIT", 1⟩, ⟨.operator, some "-", 1⟩,
        ⟨.time, some "90", 1⟩, .eof 1]).result = .ok ast ∧
      ∀ x ∈ ast.doubles, x.isFinite = true ∧ Json.realText x ≠ "null".toList) ∧
    ∃ d, (Parser.parse .none [⟨.keyword, some "PRINT", 1⟩, ⟨.operator, some "-", 1⟩,
        ⟨.integer, some "9223372036854775809", 1⟩, .eof 1]).result = .error d ∧
      d.OutOfRange [⟨.keyword, some "PRINT", 1⟩, ⟨.operator, some "-", 1⟩,
        ⟨.integer, some "9223372036854775809", 1⟩, .eof 1] := by
  constructor
  · have read : Lexer.tokenize "WAIT -1.5m" = .ok [⟨.keyword, some "WAIT", 1⟩,
        ⟨.operator, some "-", 1⟩, ⟨.time, some "90", 1⟩, .eof 1] :=
      Lexer.eq_ok_of_toOption (by decide +kernel)
    have accepted : (Parser.parse .none [⟨.keyword, some "WAIT", 1⟩, ⟨.operator, some "-", 1⟩,
        ⟨.time, some "90", 1⟩, .eof 1]).result.toOption.isSome = true := by decide +kernel
    cases built : (Parser.parse .none [⟨.keyword, some "WAIT", 1⟩, ⟨.operator, some "-", 1⟩,
        ⟨.time, some "90", 1⟩, .eof 1]).result with
    | error d => simp [built, Except.toOption] at accepted
    | ok ast => exact ⟨ast, rfl, (numbers_stay_valid .none read).1 ast built⟩
  · have read : Lexer.tokenize "PRINT -9223372036854775809" = .ok [⟨.keyword, some "PRINT", 1⟩,
        ⟨.operator, some "-", 1⟩, ⟨.integer, some "9223372036854775809", 1⟩, .eof 1] :=
      Lexer.eq_ok_of_toOption (by decide +kernel)
    exact ⟨_, rfl, (numbers_stay_valid .none read).2 _ rfl rfl⟩

end DeskScript
