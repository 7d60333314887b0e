import DeskScript.Proofs.Decimal.Unsigned
import DeskScript.Proofs.Token.Joined

/-!
Tokens written out again. A space ends every lexeme, so a token is read from what is written for it
whatever comes after the space: a word, a text, a sign or a number as it stood in the script, a time
from its length in seconds. Main statement: `tokenize_respaced`.
-/

namespace DeskScript

def Token.lexeme (token : Token) : String :=
  match token.kind with
  | .string => "\"" ++ token.text ++ "\""
  | .time => token.text ++ "s"
  | _ => token.text

def Token.unplaced (token : Token) : Token.Kind × Option String :=
  (token.kind, token.value)

def Token.respaced (tokens : List Token) : String :=
  " ".intercalate ((tokens.filter fun token => !token.isEof).map Token.lexeme)

namespace Lexer

open Text (isBlank isDigit)

variable {text taken rest rest' digits : List Char} {kind : Token.Kind} {value : String}

theorem Digits.parted (numeral : Digits digits rest) (parted : Parted rest') :
    Digits digits rest' :=
  ⟨numeral.first, numeral.run.inside, parted.beyond.number⟩

theorem step_number_parted (numeral : Digits digits rest) (apart : ∀ unit, ¬ UnitAt unit rest)
    (h : step (digits ++ rest) = .token kind value digits rest) (parted : Parted rest') :
    step (digits ++ rest') = .token kind value digits rest' := by
  rw [step_of_digits numeral, Lexer.unitAt?_eq_none apart] at h
  rw [step_of_digits (numeral.parted parted), parted.unitAt?_eq_none]
  cases read : number digits none with
  | error cause =>
    rw [read] at h
    cases h
  | ok found =>
    rw [read] at h
    simp only [Step.token.injEq] at h
    obtain ⟨rfl, rfl, -, -⟩ := h
    simp [suffixOf]

theorem step_parted (h : step (taken ++ rest) = .token kind value taken rest)
    (untimed : kind ≠ .time) (parted : Parted rest') :
    step (taken ++ rest') = .token kind value taken rest' := by
  have lexeme := lexeme_of_step h
  cases lexeme with
  | keyword start run reserved =>
    rw [step_of_word start ⟨run.inside, parted.beyond.word⟩,
      if_pos ((isReserved_iff _).2 reserved)]
  | identifier start run free =>
    rw [step_of_word start ⟨run.inside, parted.beyond.word⟩,
      if_neg (mt (isReserved_iff _).1 free)]
  | integer digit run points apart =>
    exact step_number_parted ⟨⟨_, _, rfl, digit⟩, run⟩ apart h parted
  | float digit run points apart =>
    exact step_number_parted ⟨⟨_, _, rfl, digit⟩, run⟩ apart h parted
  | time => exact absurd rfl untimed
  | string closed => exact step_of_string closed
  | pair sign pair => exact step_of_pair sign pair
  | @single c _ sign alone =>
    refine step_of_single sign fun d mem pair => ?_
    have apart := parted.beyond.sign d mem c
    rw [List.contains_iff_mem.2 pair] at apart
    cases apart

theorem isNumberPart_secondsText (x : Float) :
    ∀ c ∈ (secondsText x).toList, isNumberPart c = true := by
  intro c mem
  rw [secondsText, String.toList_ofList] at mem
  simpa [isNumberPart] using (Decimal.plain_shape _).1 c mem

theorem step_seconds {x : Float} (finite : x.isFinite = true)
    (read : Decimal.readFloat? (secondsText x) = some x) (parted : Parted rest) :
    step ((secondsText x).toList ++ ['s'] ++ rest) =
      .token .time (secondsText x) ((secondsText x).toList ++ ['s']) rest := by
  obtain ⟨c, more, first, digit, -⟩ := Decimal.readFloat?_secondsText finite
  have numeral : Digits (secondsText x).toList (['s'] ++ rest) := by
    refine ⟨⟨c, more, first, digit⟩, isNumberPart_secondsText x, ?_⟩
    rintro d ⟨⟩
    decide
  have stands : UnitAt .seconds (['s'] ++ rest) := ⟨rest, rfl, parted.beyond.word⟩
  have points : (secondsText x).toList.count '.' ≤ 1 := by
    rw [secondsText, String.toList_ofList]
    exact (Decimal.plain_shape _).2
  have read' : Decimal.readFloat? (String.ofList (secondsText x).toList) = some x := by
    rw [String.ofList_toList, read]
  rw [List.append_assoc, step_of_digits numeral, unitAt?_eq_some_iff.2 stands,
    number_of_unit points read', TimeUnit.toSeconds, if_pos finite]
  rfl

/-- What is written for a token is read as this token, before whatever is parted from it. -/
structure Rereads (token : Token) : Prop where
  solid : token.isEof = false
  value : token.value = some token.text
  step : ∀ rest, Parted rest → step (token.lexeme.toList ++ rest) =
    .token token.kind token.text token.lexeme.toList rest

theorem rereads_of_time
    (h : step (taken ++ rest) = .token .time value taken rest) (line : Nat) :
    Rereads ⟨.time, some value, line⟩ := by
  cases lexeme_of_step h with
  | @time c more _ unit length digit run points beyond read =>
    have numeral : Digits (c :: more) (unit.suffix ++ rest) := ⟨⟨c, more, rfl, digit⟩, run⟩
    have stands : UnitAt unit (unit.suffix ++ rest) := ⟨rest, rfl, beyond⟩
    have finite : (unit.toSeconds length).isFinite = true := by
      by_contra infinite
      rw [List.append_assoc] at h
      exact sound_of_step_token h _ (.time numeral points stands read (by simpa using infinite))
    refine ⟨rfl, rfl, fun rest' parted => ?_⟩
    have again := step_seconds finite (Decimal.readFloat?_toSeconds digit read finite) parted
    simpa [Token.lexeme, Token.text] using again

theorem rereads_of_step (h : step (taken ++ rest) = .token kind value taken rest) (line : Nat) :
    Rereads ⟨kind, some value, line⟩ := by
  by_cases timed : kind = .time
  · subst timed
    exact rereads_of_time h line
  have lexeme := lexeme_of_step h
  have solid : Token.isEof ⟨kind, some value, line⟩ = false := by
    cases lexeme <;> rfl
  have text : (Token.lexeme ⟨kind, some value, line⟩).toList = taken := by
    cases lexeme <;> first | exact absurd rfl timed | simp [Token.lexeme, Token.text]
  refine ⟨solid, rfl, fun rest' parted => ?_⟩
  rw [text]
  exact step_parted h timed parted

theorem Opening.rereads {line : Nat} {before : List Char} {tokens : List Token}
    (opening : Opening line before rest tokens) : ∀ token ∈ tokens, Rereads token := by
  induction opening with
  | nil => exact List.forall_mem_nil _
  | gap _ _ ih => exact ih
  | token step _ ih => exact List.forall_mem_cons.2 ⟨rereads_of_step step _, ih⟩

theorem opening_respaced {tokens : List Token} (again : ∀ token ∈ tokens, Rereads token)
    (line : Nat) : ∃ tokens', tokens'.map Token.unplaced = tokens.map Token.unplaced ∧
      Opening line (" ".intercalate (tokens.map Token.lexeme)).toList [] tokens' := by
  induction tokens generalizing line with
  | nil => exact ⟨[], rfl, .nil⟩
  | cons token tokens ih =>
    obtain ⟨first, others⟩ := List.forall_mem_cons.1 again
    cases tokens with
    | nil =>
      refine ⟨[⟨token.kind, some token.text, line⟩], by simp [Token.unplaced, first.value], ?_⟩
      have read := first.step [] parted_nil
      simpa using Opening.token (by simpa using read) .nil
    | cons next tokens =>
      -- a blank parts the lexeme from the others, and is a gap of its own
      set more := (" ".intercalate ((next :: tokens).map Token.lexeme)).toList with hmore
      have text : (" ".intercalate ((token :: next :: tokens).map Token.lexeme)).toList =
          token.lexeme.toList ++ ([' '] ++ more) := by
        simp [hmore]
      have blank : isBlank ' ' = true := by decide
      obtain ⟨tokens', same, opening⟩ := ih others (line + newlines token.lexeme.toList + 0)
      refine ⟨⟨token.kind, some token.text, line⟩ :: tokens', ?_, ?_⟩
      · simpa [Token.unplaced, first.value] using same
      · rw [text]
        refine .token (first.step _ (parted_cons blank)) (.gap ?_ opening)
        exact step_of_filler (.blank blank)

/--
Reading tokens again: from what is written for the tokens of a script, with a space between any
two, the same tokens are read, apart from the lines they stand on.
-/
theorem tokenize_respaced (source : String) (tokens : List Token)
    (h : tokenize source = .ok tokens) :
    ∃ tokens', tokenize (Token.respaced tokens) = .ok tokens' ∧
      tokens'.map Token.unplaced = tokens.map Token.unplaced := by
  obtain ⟨others, opening, rfl⟩ := tokenize_eq_ok_iff.1 h
  have again := opening.rereads
  have kept : (others ++ [Token.eof (1 + newlines source.toList)]).filter
      (fun token => !token.isEof) = others := by
    have solid : ∀ token ∈ others, (!token.isEof) = true := fun token mem => by
      rw [(again token mem).solid, Bool.not_false]
    rw [List.filter_append, List.filter_eq_self.2 solid]
    simp [Token.isEof, Token.eof]
  obtain ⟨tokens', same, opening'⟩ := opening_respaced again 1
  refine ⟨_, tokenize_eq_ok_iff.2 ⟨tokens', ?_, rfl⟩, ?_⟩
  · rw [Token.respaced, kept]
    exact opening'
  · rw [List.map_append, List.map_append, same]
    rfl

/-- Neither a name that starts like a unit nor a sign that could form a pair is taken for part of
its neighbour, and a time comes back in seconds. -/
theorem tokenize_respaced_time :
    tokenize "5min+ +1.5m\"#\"" = .ok [⟨.integer, some "5", 1⟩, ⟨.identifier, some "min", 1⟩,
        ⟨.operator, some "+", 1⟩, ⟨.operator, some "+", 1⟩, ⟨.time, some "90", 1⟩,
        ⟨.string, some "#", 1⟩, .eof 1] ∧
      ∃ tokens', tokenize "5 min + + 90s \"#\"" = .ok tokens' ∧
        tokens'.map Token.unplaced = [(.integer, some "5"), (.identifier, some "min"),
          (.operator, some "+"), (.operator, some "+"), (.time, some "90"), (.string, some "#"),
          (.eof, none)] := by
  have read : tokenize "5min+ +1.5m\"#\"" = .ok [⟨.integer, some "5", 1⟩,
      ⟨.identifier, some "min", 1⟩, ⟨.operator, some "+", 1⟩, ⟨.operator, some "+", 1⟩,
      ⟨.time, some "90", 1⟩, ⟨.string, some "#", 1⟩, .eof 1] :=
    eq_ok_of_toOption (by decide +kernel)
  obtain ⟨tokens', again, same⟩ := tokenize_respaced _ _ read
  have written : Token.respaced [⟨.integer, some "5", 1⟩, ⟨.identifier, some "min", 1⟩,
      ⟨.operator, some "+", 1⟩, ⟨.operator, some "+", 1⟩, ⟨.time, some "90", 1⟩,
      ⟨.string, some "#", 1⟩, .eof 1] = "5 min + + 90s \"#\"" := by decide +kernel
  rw [written] at again
  exact ⟨read, tokens', again, same⟩

end Lexer

end DeskScript
