import DeskScript.Proofs.Control.Program
import DeskScript.Proofs.Token.Faults
import DeskScript.Proofs.Twins.Rules
import DeskScript.Script

/-!
Which line a refusal is on. A parser takes it from a token that it has reached: the current one, the
one before it, or one whose line it kept. To follow a line from there to the refusal, a run is
compared with itself, with only the lines of such tokens alike. The tokenizer counts lines from one
and never past the last one of the source. Main statement: `errors_on_source`.
-/

namespace DeskScript

namespace Parser

variable {options : Options} {tokens : List Token} {d : Diagnostic}

theorem lineBy_of_parse_eq_error (h : (parse options tokens).result = .error d) :
    Token.LineBy (Cursor.complete tokens) (parse options tokens).position d.line := by
  have matched : (Twins.agreeing (fun _ _ => rfl) fun _ _ _ => rfl).Matched Eq _ _ :=
    Twins.matched_reader defaultLimit options .initial rfl rfl
      (Nat.le_refl (parse options tokens).position)
  obtain ⟨s, ran⟩ : ∃ s,
      (reader defaultLimit options tokens).run (start .initial tokens) = (.error d, s) :=
    ⟨_, Prod.ext h rfl⟩
  rw [ran] at matched
  cases matched with
  | error alike _ => exact alike.line.2

theorem kind_of_parse_eq_error (h : (parse options tokens).result = .error d) :
    d.kind = .grammar ∨ d.kind = .type ∨ d.kind = .number := by
  obtain ⟨e, rfl, ordinary | ⟨_, _, _, control, value, -, -, -, -, rfl⟩⟩ :=
    refused_of_parse_eq_error h
  · rw [ordinary.settle_eq]
    exact ordinary.kind
  · exact .inl rfl

theorem line_of_mem_complete {token : Token} (some : tokens ≠ [])
    (mem : token ∈ Cursor.complete tokens) : ∃ other ∈ tokens, other.line = token.line := by
  unfold Cursor.complete at mem
  split at mem
  next last found =>
    split at mem
    · exact ⟨token, mem, rfl⟩
    · rcases List.mem_append.1 mem with mem | mem
      · exact ⟨token, mem, rfl⟩
      · obtain rfl := List.mem_singleton.1 mem
        exact ⟨last, List.mem_of_getLast? found, rfl⟩
  next found => exact absurd (List.getLast?_eq_none_iff.1 found) some

end Parser

namespace Lexer

variable {text : List Char} {last : Nat}

theorem ordinary_of_step {cause : Diagnostic.Cause} (h : step text = .fault cause) (line : Nat) :
    Diagnostic.Ordinary ⟨cause, line⟩ := by
  cases fault_of_step h <;> trivial

structure Scan.Within (last : Nat) (scan : Scan) : Prop where
  tokens : ∀ token ∈ scan.tokens, 1 ≤ token.line ∧ token.line ≤ last
  ending : ∀ line, scan.stop = .ok line → 1 ≤ line ∧ line ≤ last
  fault : ∀ d, scan.stop = .error d → d.Ordinary ∧ 1 ≤ d.line ∧ d.line ≤ last

theorem scanFrom_within {seen : List Token} {line : Nat} (counted : 1 ≤ line)
    (left : line + newlines text ≤ last)
    (before : ∀ token ∈ seen, 1 ≤ token.line ∧ token.line ≤ last) :
    (scanFrom seen line text).Within last := by
  fun_induction scanFrom seen line text with
  | case1 seen line text done =>
    have here : 1 ≤ line ∧ line ≤ last := ⟨counted, by omega⟩
    refine ⟨fun token mem => before token (List.mem_reverse.1 mem), fun ending same => ?_,
      fun d same => ?_⟩
    · obtain rfl : line = ending := Except.ok.inj same
      exact here
    · cases same
  | case2 seen line text taken rest gap shorter ih =>
    rw [(step_eq_gap gap).1, newlines_append] at left
    exact ih (by omega) (by omega) before
  | case3 seen line text kind value taken rest token shorter ih =>
    rw [(step_eq_token token).1, newlines_append] at left
    have here : 1 ≤ line ∧ line ≤ last := ⟨counted, by omega⟩
    exact ih (by omega) (by omega) (List.forall_mem_cons.2 ⟨here, before⟩)
  | case4 seen line text cause fault =>
    have here : 1 ≤ line ∧ line ≤ last := ⟨counted, by omega⟩
    refine ⟨fun token mem => before token (List.mem_reverse.1 mem), fun ending same => ?_,
      fun d same => ?_⟩
    · cases same
    · obtain rfl : ⟨cause, line⟩ = d := Except.error.inj same
      exact ⟨ordinary_of_step fault line, here⟩

theorem scan_within (source : String) :
    (scan source).Within (1 + newlines source.toList) :=
  scanFrom_within (Nat.le_refl 1) (Nat.le_refl _) (List.forall_mem_nil _)

theorem line_of_tokenize_eq_ok {source : String} {tokens : List Token}
    (h : tokenize source = .ok tokens) :
    tokens ≠ [] ∧ ∀ token ∈ tokens, 1 ≤ token.line ∧ token.line ≤ 1 + newlines source.toList := by
  have within := scan_within source
  unfold tokenize at h
  cases stop : (scan source).stop with
  | error d => simp [stop, Except.map] at h
  | ok line =>
    obtain rfl : (scan source).tokens ++ [Token.eof line] = tokens := by
      simpa [stop, Except.map] using h
    refine ⟨by simp, List.forall_mem_append.2 ⟨within.tokens, ?_⟩⟩
    exact List.forall_mem_singleton.2 (within.ending line stop)

theorem line_of_tokenize_eq_error {source : String} {d : Diagnostic}
    (h : tokenize source = .error d) :
    d.Ordinary ∧ 1 ≤ d.line ∧ d.line ≤ 1 + newlines source.toList := by
  refine (scan_within source).fault d ?_
  unfold tokenize at h
  cases stop : (scan source).stop with
  | error e => simpa [stop, Except.map] using h
  | ok line => simp [stop, Except.map] at h

end Lexer

/--
A refusal of a script is an error of grammar, of types or of a number, on one of the lines of the
script. When tokens are refused, it is on the line of a token at or before the place where the
parse ends.
-/
theorem errors_on_source (options : Options) :
    (∀ source d, (Script.read options source).result = .error d →
      (d.kind = .grammar ∨ d.kind = .type ∨ d.kind = .number) ∧
        1 ≤ d.line ∧ d.line ≤ 1 + Lexer.newlines source.toList) ∧
    ∀ tokens d, (Parser.parse options tokens).result = .error d →
      ∃ i token, i ≤ (Parser.parse options tokens).position ∧
        (Cursor.complete tokens)[i]? = some token ∧ token.line = d.line := by
  refine ⟨fun source d failed => ?_, fun tokens d failed => Parser.lineBy_of_parse_eq_error failed⟩
  unfold Script.read at failed
  dsimp only at failed
  split at failed
  next tokens read =>
    obtain ⟨some, lines⟩ := Lexer.line_of_tokenize_eq_ok read
    obtain ⟨i, token, -, found, blamed⟩ := Parser.lineBy_of_parse_eq_error failed
    obtain ⟨other, mem, same⟩ := Parser.line_of_mem_complete some (List.mem_of_getElem? found)
    refine ⟨Parser.kind_of_parse_eq_error failed, ?_⟩
    rw [← blamed, ← same]
    exact lines other mem
  next e read =>
    obtain rfl : e = d := Except.error.inj failed
    obtain ⟨ordinary, lines⟩ := Lexer.line_of_tokenize_eq_error read
    exact ⟨ordinary.kind, lines⟩

/-- A parenthesis that the script leaves open, two lines before its end. -/
theorem errors_on_source_open :
    ∃ d, (Script.read .none "PRINT (1\n\n").result = .error d ∧ 1 ≤ d.line ∧ d.line ≤ 3 := by
  have refused : (Script.read .none "PRINT (1\n\n").result.toOption.isNone = true := by
    decide +kernel
  have lines : 1 + Lexer.newlines "PRINT (1\n\n".toList = 3 := by decide
  cases failed : (Script.read .none "PRINT (1\n\n").result with
  | ok ast => simp [failed, Except.toOption] at refused
  | error d => exact ⟨d, rfl, lines ▸ ((errors_on_source .none).1 _ d failed).2⟩

end DeskScript
