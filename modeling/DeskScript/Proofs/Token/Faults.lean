import DeskScript.Proofs.Decimal.Text
import DeskScript.Proofs.Token.Opening

/-!
Scripts that cannot be read. `Fault` says with what malformed text a script can go on and what it is
refused for then, `Scanned` says that all before it is made up of gaps and of lexemes that can be
read, and `tokenize_eq_error_iff` that a script is refused just where the two come together.
-/

namespace DeskScript

open Diagnostic (Cause)
open Text (isBlank isDigit)

namespace Decimal

variable {digits more : List Char} {c : Char}

theorem readDecimal?_of_digits (first : digits = c :: more) (digit : isDigit c = true)
    (inside : ∀ d ∈ digits, isDigit d = true ∨ d = '.') (points : digits.count '.' ≤ 1) :
    ∃ decimal, readDecimal? digits = some decimal := by
  have whole : (digits.takeWhile isDigit).isEmpty = false := by simp [first, digit]
  have split := List.takeWhile_append_dropWhile (p := isDigit) (l := digits)
  unfold readDecimal?
  dsimp only
  rw [whole]
  cases after : digits.dropWhile isDigit with
  | nil => exact ⟨_, rfl⟩
  | cons d tail =>
    rw [after] at split
    have stops := List.head?_dropWhile_not isDigit digits
    rw [after] at stops
    have other : isDigit d = false := by simpa using stops
    obtain rfl : d = '.' := by
      have mem : d ∈ digits := split ▸ List.mem_append_right _ List.mem_cons_self
      rcases inside d mem with digit | point
      · rw [other] at digit
        cases digit
      · exact point
    -- the point is the only one, so that all after it are digits
    have none : '.' ∉ tail := by
      rw [← split, List.count_append, List.count_cons_self] at points
      exact List.count_eq_zero.1 (by omega)
    have places : tail.dropWhile isDigit = [] := by
      refine List.dropWhile_eq_nil_iff.2 fun e mem => ?_
      have mem' : e ∈ digits := split ▸ List.mem_append_right _ (List.mem_cons_of_mem _ mem)
      exact (inside e mem').resolve_right fun point => none (point ▸ mem)
    simp only [places]
    exact ⟨_, rfl⟩

theorem readFloat?_of_digits (first : digits = c :: more) (digit : isDigit c = true)
    (inside : ∀ d ∈ digits, isDigit d = true ∨ d = '.') (points : digits.count '.' ≤ 1) :
    ∃ x, readFloat? (String.ofList digits) = some x := by
  obtain ⟨decimal, read⟩ := readDecimal?_of_digits first digit inside points
  have magnitude := readMagnitude?_of_digit first digit
  rw [read] at magnitude
  rw [readFloat?, String.toList_ofList, first, splitSign_of_digit digit, ← first]
  dsimp only
  rw [magnitude]
  exact ⟨_, rfl⟩

end Decimal

namespace Lexer

variable {text taken rest digits : List Char} {kind : Token.Kind} {value : String} {cause : Cause}

structure Digits (digits rest : List Char) : Prop where
  first : ∃ c more, digits = c :: more ∧ isDigit c = true
  run : Run isNumberPart digits rest

/-- A text starts with something malformed, for which it is refused. -/
inductive Fault : (text : List Char) → Cause → Prop where
  | string {rest : List Char} : '"' ∉ rest → Fault ('"' :: rest) .openString
  | comment {rest : List Char} : ¬ ['*', '#'] <:+: rest → Fault ('#' :: '*' :: rest) .openComment
  | points {digits rest : List Char} : Digits digits rest → 2 ≤ digits.count '.' →
    Fault (digits ++ rest) (.malformedNumber (String.ofList digits))
  | integer {digits rest : List Char} : Digits digits rest → digits.count '.' = 0 →
    (∀ unit, ¬ UnitAt unit rest) → 2 ^ 64 ≤ Decimal.valueOf digits →
    Fault (digits ++ rest) (.integerOutOfRange (String.ofList digits))
  | float {digits rest : List Char} {x : Float} : Digits digits rest → digits.count '.' = 1 →
    (∀ unit, ¬ UnitAt unit rest) → Decimal.readFloat? (String.ofList digits) = some x →
    x.isFinite = false → Fault (digits ++ rest) (.numberOutOfRange (String.ofList digits))
  | time {digits rest : List Char} {unit : TimeUnit} {x : Float} : Digits digits rest →
    digits.count '.' ≤ 1 → UnitAt unit rest →
    Decimal.readFloat? (String.ofList digits) = some x → (unit.toSeconds x).isFinite = false →
    Fault (digits ++ rest) (.numberOutOfRange (String.ofList (digits ++ unit.suffix)))

/-- The start of a text is made up of blanks, comments and lexemes that can be read. -/
inductive Scanned : (before rest : List Char) → Prop where
  | nil {rest : List Char} : Scanned [] rest
  | gap {first more rest : List Char} : Filler first (more ++ rest) → Scanned more rest →
    Scanned (first ++ more) rest
  | token {lexeme more rest : List Char} {kind : Token.Kind} {value : String} :
    Lexeme kind value lexeme (more ++ rest) →
    (∀ cause, ¬ Fault (lexeme ++ (more ++ rest)) cause) → Scanned more rest →
    Scanned (lexeme ++ more) rest

theorem step_of_digit {c : Char} (digit : isDigit c = true) :
    step (c :: rest) = numberLiteral (c :: rest) := by
  have codes : 48 ≤ c.toNat ∧ c.toNat ≤ 57 := by
    simp only [isDigit, Bool.and_eq_true, decide_eq_true_eq, Char.le_def,
      UInt32.le_iff_toNat_le] at digit
    exact digit
  have blank : isBlank c = false := by
    simp only [isBlank, Text.inRanges, Text.blankRanges, List.any_cons, List.any_nil,
      Bool.or_false, Bool.or_eq_false_iff, Bool.and_eq_false_iff, decide_eq_false_iff_not]
    omega
  have apart (d : Char) (other : isDigit d = false) : c ≠ d := by
    rintro rfl
    rw [digit] at other
    cases other
  rw [step, if_neg (by simp [blank]), if_neg (apart _ rfl), if_neg (apart _ rfl), if_pos digit]

theorem step_of_wordStart {c : Char} (start : isWordStart c = true) :
    step (c :: rest) = word (c :: rest) := by
  obtain ⟨⟨blank, hash, quote, digit⟩, -⟩ := plain_of_isWordStart start
  rw [step, if_neg (by simp [blank]), if_neg hash, if_neg quote, if_neg (by simp [digit]),
    if_pos start]

theorem step_of_sign {c : Char} (sign : Sign c) :
    step (c :: rest) = .token .operator (String.ofList (operatorAt c rest)) (operatorAt c rest)
      (rest.drop ((operatorAt c rest).length - 1)) := by
  rw [step, if_neg (by simp [sign.blank]), if_neg sign.comment, if_neg sign.quote,
    if_neg (by simp [sign.digit]), if_neg (by simp [sign.letter])]

theorem unitAt?_eq_some_iff {unit : TimeUnit} : unitAt? text = some unit ↔ UnitAt unit text := by
  refine ⟨unitAt_of_eq_some, fun stands => ?_⟩
  cases found : unitAt? text with
  | none => exact absurd stands (not_unitAt_of_eq_none found unit)
  | some other =>
    have same : other.suffix = unit.suffix :=
      (unitAt_iff_takeWhile.1 (unitAt_of_eq_some found)).symm.trans (unitAt_iff_takeWhile.1 stands)
    congr 1
    revert same
    cases other <;> cases unit <;> simp [TimeUnit.suffix]

theorem step_of_digits (numeral : Digits digits rest) :
    step (digits ++ rest) =
      match number digits (unitAt? rest) with
      | .ok (kind, value) => .token kind value (digits ++ suffixOf (unitAt? rest))
          (rest.drop (suffixOf (unitAt? rest)).length)
      | .error cause => .fault cause := by
  obtain ⟨c, more, rfl, digit⟩ := numeral.first
  rw [List.cons_append, step_of_digit digit, ← List.cons_append]
  unfold numberLiteral
  rw [numeral.run.takeWhile_eq, numeral.run.dropWhile_eq]
  rfl

theorem Digits.readFloat? (numeral : Digits digits rest) (points : digits.count '.' ≤ 1) :
    ∃ x, Decimal.readFloat? (String.ofList digits) = some x := by
  obtain ⟨c, more, first, digit⟩ := numeral.first
  refine Decimal.readFloat?_of_digits first digit (fun d mem => ?_) points
  simpa [isNumberPart] using numeral.run.inside d mem

theorem number_of_points {unit : Option TimeUnit} (points : 2 ≤ digits.count '.') :
    number digits unit = .error (.malformedNumber (String.ofList digits)) := by
  unfold number
  exact if_pos points

theorem number_of_unit {unit : TimeUnit} {x : Float} (points : digits.count '.' ≤ 1)
    (read : Decimal.readFloat? (String.ofList digits) = some x) :
    number digits (some unit) =
      if (unit.toSeconds x).isFinite then .ok (.time, secondsText (unit.toSeconds x))
      else .error (.numberOutOfRange (String.ofList (digits ++ unit.suffix))) := by
  unfold number
  dsimp only
  rw [if_neg (Nat.not_lt.2 points), read]

theorem number_of_point {x : Float} (points : digits.count '.' = 1)
    (read : Decimal.readFloat? (String.ofList digits) = some x) :
    number digits none =
      if x.isFinite then .ok (.float, String.ofList digits)
      else .error (.numberOutOfRange (String.ofList digits)) := by
  unfold number
  dsimp only
  rw [if_neg (by omega), if_pos points, read]

theorem number_of_digits (points : digits.count '.' = 0) :
    number digits none =
      if Decimal.valueOf digits < 2 ^ 64 then .ok (.integer, String.ofList digits)
      else .error (.integerOutOfRange (String.ofList digits)) := by
  unfold number
  dsimp only
  rw [if_neg (by omega), if_neg (by omega)]
  rfl

theorem fault_of_number (numeral : Digits digits rest)
    (refused : number digits (unitAt? rest) = .error cause) : Fault (digits ++ rest) cause := by
  -- the refusals of a number, in the order in which they are looked for
  by_cases points : 2 ≤ digits.count '.'
  · rw [number_of_points points] at refused
    obtain rfl := Except.error.inj refused
    exact .points numeral points
  have points : digits.count '.' ≤ 1 := by omega
  obtain ⟨x, read⟩ := numeral.readFloat? points
  cases found : unitAt? rest with
  | some unit =>
    rw [found, number_of_unit points read] at refused
    split at refused
    next => cases refused
    next infinite =>
      obtain rfl := Except.error.inj refused
      exact .time numeral points (unitAt_of_eq_some found) read (by simpa using infinite)
  | none =>
    have apart := not_unitAt_of_eq_none found
    rw [found] at refused
    by_cases one : digits.count '.' = 1
    · rw [number_of_point one read] at refused
      split at refused
      next => cases refused
      next infinite =>
        obtain rfl := Except.error.inj refused
        exact .float numeral one apart read (by simpa using infinite)
    · have none : digits.count '.' = 0 := by omega
      rw [number_of_digits none] at refused
      split at refused
      next => cases refused
      next large =>
        obtain rfl := Except.error.inj refused
        exact .integer numeral none apart (Nat.le_of_not_lt large)

theorem throughClose_eq_none_iff {seen : List Char} :
    throughClose seen text = none ↔ ¬ ['*', '#'] <:+: text := by
  induction text generalizing seen with
  | nil => simp [throughClose]
  | cons c text ih =>
    have closes : ['*', '#'] <+: c :: text ↔ (c = '*' && text.head? = some '#') = true := by
      rw [List.cons_prefix_cons, Bool.and_eq_true, decide_eq_true_eq, decide_eq_true_eq]
      refine and_congr eq_comm ?_
      cases text with
      | nil => simp
      | cons d text => simp [List.cons_prefix_cons, eq_comm]
    rw [throughClose, List.infix_cons_iff, closes]
    split
    next here => simp [here]
    next goesOn => simp [goesOn, ih]

theorem fault_of_comment (refused : comment text = .fault cause) : Fault ('#' :: text) cause := by
  unfold comment at refused
  split at refused
  next body =>
    split at refused
    next => cases refused
    next endless =>
      obtain rfl := Step.fault.inj refused
      exact .comment (throughClose_eq_none_iff.1 endless)
  next => cases refused

theorem fault_of_textLiteral (refused : textLiteral text = .fault cause) :
    Fault ('"' :: text) cause := by
  unfold textLiteral at refused
  dsimp only at refused
  split at refused
  next endless =>
    obtain rfl := Step.fault.inj refused
    have inside := List.dropWhile_eq_nil_iff.1 endless
    exact .string fun mem => by simpa using inside _ mem
  next => cases refused

theorem fault_of_step (refused : step text = .fault cause) : Fault text cause := by
  cases text with
  | nil => cases refused
  -- a number is refused for its digits; otherwise a comment or a text is not closed
  | cons c text =>
    by_cases digit : isDigit c = true
    · have run := run_takeWhile isNumberPart (c :: text)
      have whole := List.takeWhile_append_dropWhile (p := isNumberPart) (l := c :: text)
      have numeral : Digits ((c :: text).takeWhile isNumberPart)
          ((c :: text).dropWhile isNumberPart) := by
        refine ⟨⟨c, text.takeWhile isNumberPart, ?_, digit⟩, run⟩
        exact List.takeWhile_cons_of_pos (by simp [isNumberPart, digit])
      rw [← whole, step_of_digits numeral] at refused
      rw [← whole]
      split at refused
      next => cases refused
      next failed =>
        obtain rfl := Step.fault.inj refused
        exact fault_of_number numeral failed
    · rw [step] at refused
      split at refused
      next => cases refused
      split at refused
      next hash => exact hash ▸ fault_of_comment refused
      split at refused
      next quote => exact quote ▸ fault_of_textLiteral refused
      split at refused
      next => cases refused
      next => cases refused

theorem step_of_fault (fault : Fault text cause) : step text = .fault cause := by
  cases fault with
  | @string rest endless =>
    have inside : rest.dropWhile (· != '"') = [] :=
      List.dropWhile_eq_nil_iff.2 fun c mem => bne_iff_ne.2 fun quote => endless (quote ▸ mem)
    have solid : isBlank '"' = false := by decide
    rw [step, if_neg (by simp [solid]), if_neg (by decide), if_pos rfl]
    unfold textLiteral
    rw [inside]
  | comment endless =>
    have solid : isBlank '#' = false := by decide
    rw [step, if_neg (by simp [solid]), if_pos rfl]
    simp only [comment, throughClose_eq_none_iff.2 endless]
  | points numeral points => rw [step_of_digits numeral, number_of_points points]
  | integer numeral none apart large =>
    rw [step_of_digits numeral, unitAt?_eq_none apart, number_of_digits none,
      if_neg (Nat.not_lt.2 large)]
  | float numeral one apart read infinite =>
    rw [step_of_digits numeral, unitAt?_eq_none apart, number_of_point one read,
      if_neg (by simp [infinite])]
  | time numeral points stands read infinite =>
    rw [step_of_digits numeral, unitAt?_eq_some_iff.2 stands, number_of_unit points read,
      if_neg (by simp [infinite])]

theorem step_of_word {c : Char} {more : List Char} (start : isWordStart c = true)
    (run : Run isWordPart (c :: more) rest) :
    step (c :: more ++ rest) = .token (if Keyword.isReserved (String.ofList (c :: more))
      then .keyword else .identifier) (String.ofList (c :: more)) (c :: more) rest := by
  rw [List.cons_append, step_of_wordStart start, ← List.cons_append, word_append run]

theorem step_of_string {inside : List Char} (closed : '"' ∉ inside) :
    step ('"' :: inside ++ ['"'] ++ rest) =
      .token .string (String.ofList inside) ('"' :: inside ++ ['"']) rest := by
  have solid : isBlank '"' = false := by decide
  have run : Run (· != '"') inside ('"' :: rest) :=
    ⟨fun c mem => bne_iff_ne.2 fun quote => closed (quote ▸ mem), by simp⟩
  have read := textLiteral_append run
  rw [List.cons_append, List.cons_append, step, if_neg (by simp [solid]), if_neg (by decide),
    if_pos rfl]
  simpa using read

theorem step_of_pair {c d : Char} (sign : Sign c) (pair : (c, d) ∈ pairs) :
    step ([c, d] ++ rest) = .token .operator (String.ofList [c, d]) [c, d] rest := by
  have formed : operatorAt c (d :: rest) = [c, d] :=
    if_pos (List.contains_iff_mem.2 pair)
  rw [List.cons_append, List.cons_append, List.nil_append, step_of_sign sign, formed]
  rfl

theorem step_of_single {c : Char} (sign : Sign c) (alone : ∀ d ∈ rest.head?, (c, d) ∉ pairs) :
    step ([c] ++ rest) = .token .operator (String.ofList [c]) [c] rest := by
  have formed : operatorAt c rest = [c] := by
    cases rest with
    | nil => rfl
    | cons d rest => exact if_neg (mt List.contains_iff_mem.1 (alone d rfl))
  rw [List.cons_append, List.nil_append, step_of_sign sign, formed]
  rfl

theorem step_of_lexeme (lexeme : Lexeme kind value taken rest)
    (sound : ∀ cause, ¬ Fault (taken ++ rest) cause) :
    step (taken ++ rest) = .token kind value taken rest := by
  cases lexeme with
  | keyword start run reserved =>
    rw [step_of_word start run, if_pos ((isReserved_iff _).2 reserved)]
  | identifier start run free =>
    rw [step_of_word start run, if_neg (mt (isReserved_iff _).1 free)]
  | integer digit run points apart =>
    have numeral : Digits _ rest := ⟨⟨_, _, rfl, digit⟩, run⟩
    have small : Decimal.valueOf _ < 2 ^ 64 :=
      Nat.lt_of_not_le fun large => sound _ (.integer numeral points apart large)
    rw [step_of_digits numeral, unitAt?_eq_none apart, number_of_digits points, if_pos small]
    simp [suffixOf]
  | float digit run points apart =>
    have numeral : Digits _ rest := ⟨⟨_, _, rfl, digit⟩, run⟩
    obtain ⟨x, read⟩ := numeral.readFloat? (Nat.le_of_eq points)
    have finite : x.isFinite = true := by
      by_contra infinite
      exact sound _ (.float numeral points apart read (by simpa using infinite))
    rw [step_of_digits numeral, unitAt?_eq_none apart, number_of_point points read, if_pos finite]
    simp [suffixOf]
  | @time c more rest unit x digit run points beyond read =>
    have numeral : Digits _ (unit.suffix ++ rest) := ⟨⟨_, _, rfl, digit⟩, run⟩
    have stands : UnitAt unit (unit.suffix ++ rest) := ⟨rest, rfl, beyond⟩
    rw [List.append_assoc] at sound ⊢
    have finite : (unit.toSeconds x).isFinite = true := by
      by_contra infinite
      exact sound _ (.time numeral points stands read (by simpa using infinite))
    rw [step_of_digits numeral, unitAt?_eq_some_iff.2 stands, number_of_unit points read,
      if_pos finite]
    simp [suffixOf]
  | string closed => exact step_of_string closed
  | pair sign pair => exact step_of_pair sign pair
  | single sign alone => exact step_of_single sign alone

theorem sound_of_step_token (h : step text = .token kind value taken rest) (cause : Cause) :
    ¬ Fault text cause := by
  intro fault
  rw [step_of_fault fault] at h
  cases h

theorem Scanned.opening {before : List Char} (scanned : Scanned before rest) (line : Nat) :
    ∃ tokens, Opening line before rest tokens := by
  induction scanned generalizing line with
  | nil => exact ⟨[], .nil⟩
  | @gap first more rest filler _ ih =>
    obtain ⟨tokens, opening⟩ := ih (line + newlines first)
    exact ⟨tokens, .gap (step_of_filler filler) opening⟩
  | @token lexeme more rest kind value stands sound _ ih =>
    obtain ⟨tokens, opening⟩ := ih (line + newlines lexeme)
    exact ⟨⟨kind, some value, line⟩ :: tokens, .token (step_of_lexeme stands sound) opening⟩

theorem Opening.scanned {line : Nat} {before : List Char} {tokens : List Token}
    (opening : Opening line before rest tokens) : Scanned before rest := by
  induction opening with
  | nil => exact .nil
  | gap step _ ih => exact .gap (filler_of_step step) ih
  | token step _ ih => exact .token (lexeme_of_step step) (sound_of_step_token step) ih

theorem scanFrom_fault {seen : List Token} {line : Nat} (h : step text = .fault cause) :
    scanFrom seen line text = ⟨seen.reverse, .error ⟨cause, line⟩⟩ := by
  rw [scanFrom]
  split <;> simp_all

theorem fault_of_scanFrom {seen : List Token} {line : Nat} {e : Diagnostic}
    (h : (scanFrom seen line text).stop = .error e) :
    ∃ before rest tokens, text = before ++ rest ∧ Opening line before rest tokens ∧
      step rest = .fault e.cause ∧ e.line = line + newlines before := by
  fun_induction scanFrom seen line text with
  | case1 => cases h
  | case2 seen line text taken left gap shorter ih =>
    obtain ⟨before, rest, tokens, rfl, opening, fault, counted⟩ := ih h
    obtain rfl : text = taken ++ (before ++ rest) := (step_eq_gap gap).1
    refine ⟨taken ++ before, rest, tokens, (List.append_assoc ..).symm, .gap gap opening, fault, ?_⟩
    rw [counted, newlines_append, Nat.add_assoc]
  | case3 seen line text kind value taken left token shorter ih =>
    obtain ⟨before, rest, tokens, rfl, opening, fault, counted⟩ := ih h
    obtain rfl : text = taken ++ (before ++ rest) := (step_eq_token token).1
    refine ⟨taken ++ before, rest, _, (List.append_assoc ..).symm, .token token opening, fault, ?_⟩
    rw [counted, newlines_append, Nat.add_assoc]
  | case4 seen line text cause fault =>
    obtain rfl := Except.error.inj h
    exact ⟨[], text, [], rfl, .nil, fault, rfl⟩

theorem tokenize_eq_error {source : String} {e : Diagnostic} :
    tokenize source = .error e ↔ (scan source).stop = .error e := by
  unfold tokenize
  cases stop : (scan source).stop with
  | ok last => simp [stop, Except.map]
  | error d => simp [stop, Except.map]

theorem Opening.fault_unique {line line' : Nat} {before before' rest' : List Char}
    {tokens tokens' : List Token} {cause' : Cause} (opening : Opening line before rest tokens)
    (opening' : Opening line' before' rest' tokens') (fault : step rest = .fault cause)
    (fault' : step rest' = .fault cause') (same : before ++ rest = before' ++ rest') :
    before = before' := by
  -- each step is told by the text that is left, which is the same in both openings
  induction opening generalizing line' before' tokens' with
  | nil =>
    cases opening' with
    | nil => rfl
    | gap step _ | token step _ =>
      rw [List.nil_append, List.append_assoc] at same
      rw [same, step] at fault
      cases fault
  | gap step _ ih =>
    rw [List.append_assoc] at same
    rw [same] at step
    cases opening' with
    | nil => cases step.symm.trans fault'
    | gap step' opening' =>
      rw [List.append_assoc, step', Step.gap.injEq] at step
      rw [step.1, ih opening' fault step.2.symm]
    | token step' _ =>
      rw [List.append_assoc, step'] at step
      cases step
  | token step _ ih =>
    rw [List.append_assoc] at same
    rw [same] at step
    cases opening' with
    | nil => cases step.symm.trans fault'
    | gap step' _ =>
      rw [List.append_assoc, step'] at step
      cases step
    | token step' opening' =>
      rw [List.append_assoc, step', Step.token.injEq] at step
      obtain ⟨-, -, same, left⟩ := step
      rw [same, ih opening' fault left.symm]

theorem Fault.classified (fault : Fault text cause) :
    text.head? = some '"' ∧ cause.kind = .grammar ∧
        cause.message = "Unterminated string literal" ∨
      text.head? = some '#' ∧ cause.kind = .grammar ∧
        cause.message = "Unterminated block comment" ∨
      text.head?.any isDigit = true ∧ cause.kind = .number := by
  have starts {digits rest : List Char} (numeral : Digits digits rest) :
      (digits ++ rest).head?.any isDigit = true := by
    obtain ⟨c, more, rfl, digit⟩ := numeral.first
    exact digit
  cases fault with
  | string => exact .inl ⟨rfl, rfl, rfl⟩
  | comment => exact .inr (.inl ⟨rfl, rfl, rfl⟩)
  | points numeral | integer numeral | float numeral | time numeral =>
    exact .inr (.inr ⟨starts numeral, rfl⟩)

/--
A script is refused if and only if, after a first part that is made up of gaps and of lexemes that
can be read, it goes on with something malformed: an open text, an open comment, or digits and
points that are no number or one out of range. There is only one such place, and the error is on the
line on which it begins.
-/
theorem tokenize_eq_error_iff (source : String) :
    (∀ e, tokenize source = .error e ↔ ∃ before rest, source.toList = before ++ rest ∧
      Scanned before rest ∧ Fault rest e.cause ∧ e.line = 1 + newlines before) ∧
    (∀ before rest before' rest' cause cause', source.toList = before ++ rest →
      source.toList = before' ++ rest' → Scanned before rest → Scanned before' rest' →
      Fault rest cause → Fault rest' cause' → before = before') ∧
    ∀ rest cause, Fault rest cause →
      rest.head? = some '"' ∧ cause.kind = .grammar ∧
          cause.message = "Unterminated string literal" ∨
        rest.head? = some '#' ∧ cause.kind = .grammar ∧
          cause.message = "Unterminated block comment" ∨
        rest.head?.any isDigit = true ∧ cause.kind = .number := by
  refine ⟨fun e => ?_, ?_, fun rest cause fault => fault.classified⟩
  · rw [tokenize_eq_error]
    constructor
    · intro refused
      obtain ⟨before, rest, tokens, whole, opening, fault, counted⟩ := fault_of_scanFrom refused
      exact ⟨before, rest, whole, opening.scanned, fault_of_step fault, counted⟩
    · rintro ⟨before, rest, whole, scanned, fault, counted⟩
      obtain ⟨tokens, opening⟩ := scanned.opening 1
      have refused := opening.scanFrom_eq []
      rw [scanFrom_fault (step_of_fault fault), ← counted] at refused
      rw [scan, whole, refused]
  · intro before rest before' rest' cause cause' whole whole' scanned scanned' fault fault'
    obtain ⟨tokens, opening⟩ := scanned.opening 1
    obtain ⟨tokens', opening'⟩ := scanned'.opening 1
    exact opening.fault_unique opening' (step_of_fault fault) (step_of_fault fault')
      (whole.symm.trans whole')

/-- The mark that opens a comment does not close it, and a text after it stays open. -/
theorem tokenize_eq_error_iff_open :
    Scanned ['x', ' ', '#', '*', '#', '*', '#', '\n'] ['"', 'a'] ∧
      tokenize "x #*#*#\n\"a" = .error ⟨.openString, 2⟩ := by
  have comment : step ['#', '*', '#', '*', '#', '\n', '"', 'a'] =
      .gap ['#', '*', '#', '*', '#'] ['\n', '"', 'a'] := rfl
  have opening : Opening 1 (['x'] ++ ([' '] ++ (['#', '*', '#', '*', '#'] ++ (['\n'] ++ []))))
      ['"', 'a'] [⟨.identifier, some "x", 1⟩] :=
    .token rfl (.gap rfl (.gap comment (.gap rfl .nil)))
  refine ⟨opening.scanned, ((tokenize_eq_error_iff _).1 _).2 ⟨_, _, rfl, opening.scanned, ?_, rfl⟩⟩
  exact .string (by decide)

end Lexer

end DeskScript
