import Mathlib.Data.List.Infix
import DeskScript.Proofs.Token.Opening
import DeskScript.Proofs.Twins.Renumbered

/-!
The case of the letters of reserved words. Tokens that differ only in it are parsed alike, up to
how a message quotes the word that it is about. In the text of a script such a word can be written
in another case, and only its own token changes. Main statement: `keyword_case_irrelevant`.
-/

namespace DeskScript

open Text (isLetter isDigit isBlank sameWord)

/-- Two tokens are the same but for the case of the letters of a reserved word. -/
structure Token.Respelt (t t' : Token) : Prop where
  kind : t.kind = t'.kind
  line : t.line = t'.line
  value : t.value = t'.value ∨ t.kind = .keyword ∧ ∃ word word', t.value = some word ∧
    t'.value = some word' ∧ sameWord word word' = true

inductive Requoted (tokens tokens' : List Token) : String → String → Prop where
  | same (message : String) : Requoted tokens tokens' message message
  | word {t t' : Token} (before after : String) : (t, t') ∈ tokens.zip tokens' →
    t.kind = .keyword →
    Requoted tokens tokens' (before ++ t.text ++ after) (before ++ t'.text ++ after)

theorem Token.Respelt.upper_eq {t t' : Token} (respelt : t.Respelt t') :
    Text.upper t.text = Text.upper t'.text := by
  rcases respelt.value with same | ⟨-, word, word', spelt, spelt', same⟩
  · rw [Token.text, Token.text, same]
  · rw [Token.text, Token.text, spelt, spelt']
    exact beq_iff_eq.1 same

def Likeness.respelling (tokens tokens' : List Token) : Likeness where
  text kind a b := a = b ∨ kind = .keyword ∧ Text.upper a = Text.upper b ∧
    ∃ t t', (t, t') ∈ tokens.zip tokens' ∧ t.kind = .keyword ∧ t.text = a ∧ t'.text = b
  line a b := a = b
  exact h plain := h.resolve_right fun other => plain other.1
  upper h := h.elim (congrArg Text.upper) fun other => other.2.1
  apart h k := by rw [h, k]

namespace Likeness

variable {tokens tokens' : List Token}

theorem respelling_tokens (respelt : List.Forall₂ Token.Respelt tokens tokens') :
    List.Forall₂ (respelling tokens tokens').Tokens tokens tokens' := by
  obtain ⟨lengths, pairs⟩ := List.forall₂_iff_zip.1 respelt
  refine List.forall₂_iff_zip.2 ⟨lengths, fun {t t'} mem => ?_⟩
  have pair := pairs mem
  refine ⟨⟨pair.kind, ?_⟩, pair.line⟩
  rcases pair.value with same | ⟨keyword, -⟩
  · exact .inl (congrArg (·.getD "") same)
  · exact .inr ⟨keyword, pair.upper_eq, t, t', mem, keyword, rfl, rfl⟩

theorem requoted_of_text {kind : Token.Kind} {a b : String} (before after : String)
    (h : (respelling tokens tokens').text kind a b) :
    Requoted tokens tokens' (before ++ a ++ after) (before ++ b ++ after) := by
  rcases h with rfl | ⟨-, -, t, t', mem, keyword, rfl, rfl⟩
  · exact .same _
  · exact .word before after mem keyword

theorem Causes.requoted {cause cause' : Diagnostic.Cause}
    (h : (respelling tokens tokens').Causes cause cause') :
    cause'.kind = cause.kind ∧ Requoted tokens tokens' cause.message cause'.message := by
  cases h with
  | same => exact ⟨rfl, .same _⟩
  | unexpectedKeyword text => exact ⟨rfl, requoted_of_text "Unexpected keyword '" "'" text⟩
  | invalidType text =>
    have message (word : String) : (Diagnostic.Cause.invalidType word).message =
        "Invalid type '" ++ word ++ ("', expected one of " ++ ", ".intercalate typeNames) :=
      String.append_assoc
    refine ⟨rfl, ?_⟩
    rw [message, message]
    exact requoted_of_text _ _ text
  | @expected kind a b what text =>
    refine ⟨rfl, ?_⟩
    by_cases keyword : kind = .keyword
    · have message (word : String) : (Diagnostic.Cause.expected what .keyword word).message =
          what.message ++ ", found " ++ "keyword '" ++ word ++ "'" := by
        change what.message ++ ", found " ++ ("keyword '" ++ word ++ "'") = _
        simp only [String.append_assoc]
      rw [keyword, message, message]
      exact requoted_of_text _ _ text
    · rw [(respelling tokens tokens').exact text keyword]
      exact .same _

end Likeness

theorem Parser.parse_respelt {options : Options} {tokens tokens' : List Token}
    (respelt : List.Forall₂ Token.Respelt tokens tokens') :
    (parse options tokens').scopes = (parse options tokens).scopes ∧
    (∀ ast, (parse options tokens).result = .ok ast → (parse options tokens').result = .ok ast) ∧
    ∀ d, (parse options tokens).result = .error d →
      ∃ d', (parse options tokens').result = .error d' ∧ d'.kind = d.kind ∧ d'.line = d.line ∧
        Requoted tokens tokens' d.message d'.message := by
  have alike := Likeness.respelling_tokens respelt
  obtain ⟨results, scopes⟩ := parse_alike options alike (fun _ => rfl) (.inl rfl)
  refine ⟨scopes.symm, fun ast read => ?_, fun d failed => ?_⟩
  · rw [read] at results
    generalize (parse options tokens').result = result at results ⊢
    cases results
    rfl
  · rw [failed] at results
    generalize (parse options tokens').result = result at results ⊢
    cases results with
    | @error _ d' alike =>
      obtain ⟨kinds, messages⟩ := alike.cause.requoted
      exact ⟨d', rfl, kinds, alike.line.symm, messages⟩

namespace Lexer

variable {word word' after : List Char}

theorem toUpper_eq_or (c : Char) :
    c.toUpper = c ∨ isLetter c = true ∧ isLetter c.toUpper = true := by
  unfold Char.toUpper
  split
  next lower =>
    have low : 'a' ≤ c := lower.1
    have high : c ≤ 'z' := lower.2
    have bounds : 'A'.val ≤ c.val + ('A'.val - 'a'.val) ∧
        c.val + ('A'.val - 'a'.val) ≤ 'Z'.val := by
      obtain ⟨low, high⟩ := lower
      have codes : 'a'.val.toNat = 97 ∧ 'z'.val.toNat = 122 ∧ 'A'.val.toNat = 65 ∧
        'Z'.val.toNat = 90 := by decide
      simp only [UInt32.le_iff_toNat_le, UInt32.toNat_add, UInt32.toNat_sub] at *
      omega
    exact .inr ⟨by simp [isLetter, low, high], by simpa [isLetter, Char.le_def] using .inr bounds⟩
  next => exact .inl rfl

theorem isWordStart_toUpper (c : Char) : isWordStart c.toUpper = isWordStart c := by
  rcases toUpper_eq_or c with same | ⟨letter, letter'⟩
  · rw [same]
  · simp [isWordStart, letter, letter']

theorem isWordPart_toUpper (c : Char) : isWordPart c.toUpper = isWordPart c := by
  rcases toUpper_eq_or c with same | ⟨letter, letter'⟩
  · rw [same]
  · simp [isWordPart, letter, letter']

structure Word (word : List Char) : Prop where
  start : word.head?.any isWordStart = true
  inside : ∀ c ∈ word, isWordPart c = true

theorem Word.respelt (spelt : Word word) (same : word.map Char.toUpper = word'.map Char.toUpper) :
    Word word' where
  start := by
    have starts (text : List Char) : (text.map Char.toUpper).head?.any isWordStart =
        text.head?.any isWordStart := by
      cases text with
      | nil => rfl
      | cons c text => simp [isWordStart_toUpper]
    rw [← starts, ← same, starts]
    exact spelt.start
  inside := by
    have parts (text : List Char) : (text.map Char.toUpper).all isWordPart =
        text.all isWordPart := by
      rw [List.all_map]
      exact congrArg text.all (funext isWordPart_toUpper)
    rw [← List.all_eq_true, ← parts, ← same, parts, List.all_eq_true]
    exact spelt.inside

theorem newlines_word (spelt : Word word) : newlines word = 0 := by
  refine List.count_eq_zero.2 fun mem => ?_
  have part : isWordPart '\n' = true := spelt.inside _ mem
  cases part

theorem Word.resembles (spelt : Word word) (spelt' : Word word')
    (units : unitAt? (word ++ after) = unitAt? (word' ++ after)) :
    Resembles (word ++ after) (word' ++ after) := by
  have first {word : List Char} (spelt : Word word) : ∃ c more, word = c :: more := by
    cases word with
    | nil => simpa using spelt.start
    | cons c more => exact ⟨c, more, rfl⟩
  obtain ⟨c, more, rfl⟩ := first spelt
  obtain ⟨c', more', rfl⟩ := first spelt'
  obtain ⟨-, feed, number, part, sign⟩ := plain_of_isWordStart spelt.start
  obtain ⟨-, feed', number', part', sign'⟩ := plain_of_isWordStart spelt'.start
  constructor
  · simp [feed, feed']
  · simp [part, part']
  · simp [number, number']
  · intro d
    simp only [List.cons_append, List.head?_cons, Option.any_some, sign, sign']
  · exact units

theorem not_suffix_of_reserved (reserved : Keyword.isReserved (String.ofList word) = true)
    (unit : TimeUnit) : ¬ word <:+ unit.suffix := by
  intro ends
  have free : ∀ last ∈ unit.suffix.tails, Keyword.isReserved (String.ofList last) = false := by
    cases unit <;> decide +kernel
  rw [free word ((List.mem_tails _ _).2 ends)] at reserved
  cases reserved

structure KeywordAt (word after : List Char) : Prop where
  spelt : Word word
  run : Run isWordPart word after
  reserved : Keyword.isReserved (String.ofList word) = true

theorem keywordAt_of_step {value : String}
    (h : step (word ++ after) = .token .keyword value word after) :
    KeywordAt word after ∧ value = String.ofList word := by
  cases lexeme_of_step h with
  | keyword start run reserved =>
    exact ⟨⟨⟨start, run.inside⟩, run, (isReserved_iff _).2 reserved⟩, rfl⟩

namespace KeywordAt

theorem respelt (here : KeywordAt word after) {other : String}
    (same : sameWord (String.ofList word) other = true) : KeywordAt other.toList after := by
  have uppers : Text.upper (String.ofList word) = Text.upper other := beq_iff_eq.1 same
  have letters : word.map Char.toUpper = other.toList.map Char.toUpper := by
    simpa [Text.upper] using congrArg String.toList uppers
  have spelt := here.spelt.respelt letters
  refine ⟨spelt, ⟨spelt.inside, here.run.beyond⟩, ?_⟩
  rw [String.ofList_toList, ← here.reserved, Keyword.isReserved, Keyword.isReserved,
    Keyword.category?, Keyword.category?, uppers]

theorem step_eq (here : KeywordAt word after) :
    step (word ++ after) = .token .keyword (String.ofList word) word after := by
  obtain ⟨⟨start, -⟩, run, reserved⟩ := here
  cases word with
  | nil => simp at start
  | cons c word =>
    have start : isWordStart c = true := start
    obtain ⟨⟨blank, hash, quote, digit⟩, -⟩ := plain_of_isWordStart start
    rw [List.cons_append, step, if_neg (by simp [blank]), if_neg hash, if_neg quote,
      if_neg (by simp [digit]), if_pos start, ← List.cons_append, word_append run, if_pos reserved]

theorem unitAt?_eq (here : KeywordAt word after) (more : List Char) :
    unitAt? (more ++ (word ++ after)) =
      if (more.takeWhile isWordPart).length = more.length then none else unitAt? more := by
  split
  next whole =>
    refine unitAt?_eq_none fun unit stands => not_suffix_of_reserved here.reserved unit ?_
    rw [unitAt_iff_takeWhile, List.takeWhile_append, if_pos whole, here.run.takeWhile_eq] at stands
    exact ⟨more, stands⟩
  next parted =>
    refine unitAt?_congr ?_
    rw [List.takeWhile_append, if_neg parted]

theorem resembles (here : KeywordAt word after) (here' : KeywordAt word' after)
    (more : List Char) : Resembles (more ++ (word ++ after)) (more ++ (word' ++ after)) := by
  have units (more : List Char) :
      unitAt? (more ++ (word ++ after)) = unitAt? (more ++ (word' ++ after)) := by
    rw [here.unitAt?_eq, here'.unitAt?_eq]
  exact (here.spelt.resembles here'.spelt (units [])).append (units more)

end KeywordAt

theorem split_before_eof {others earlier later : List Token} {token : Token} {line : Nat}
    (whole : earlier ++ token :: later = others ++ [.eof line]) (goesOn : token.kind ≠ .eof) :
    ∃ inner, later = inner ++ [.eof line] ∧ others = earlier ++ token :: inner := by
  rcases List.eq_nil_or_concat later with rfl | ⟨inner, last, rfl⟩
  · obtain ⟨-, last⟩ := List.append_inj' whole rfl
    rw [(List.cons.inj last).1] at goesOn
    exact absurd rfl goesOn
  · rw [List.concat_eq_append, ← List.cons_append, ← List.append_assoc] at whole
    obtain ⟨rfl, rest⟩ := List.append_inj' whole rfl
    exact ⟨inner, by rw [List.concat_eq_append, rest], rfl⟩

theorem tokenize_respelt {source : String} {earlier later : List Token} {token : Token}
    (h : tokenize source = .ok (earlier ++ token :: later)) (keyword : token.kind = .keyword) :
    ∃ before word after, source.toList = before ++ (word ++ after) ∧
      Opening 1 before (word ++ after) earlier ∧
      Lexeme .keyword (String.ofList word) word after ∧
      token = ⟨.keyword, some (String.ofList word), 1 + newlines before⟩ ∧
      ∀ word', sameWord (String.ofList word) word' = true →
        tokenize (String.ofList (before ++ (word'.toList ++ after))) =
          .ok (earlier ++ { token with value := some word' } :: later) := by
  obtain ⟨others, opening, whole⟩ := tokenize_eq_ok_iff.1 h
  obtain ⟨later, rfl, rfl⟩ := split_before_eof whole (by simp [keyword])
  obtain ⟨before, word, after, kind, value, split, rfl, fore, stands, further⟩ := opening.split
  rw [List.append_nil] at fore stands
  obtain rfl : kind = .keyword := keyword
  obtain ⟨here, rfl⟩ := keywordAt_of_step stands
  refine ⟨before, word, after, split, fore, lexeme_of_step stands, rfl, fun word' same => ?_⟩
  -- in its place the other spelling is read up to the same character, as a token of the same sort
  have here' := here.respelt same
  have fore' : Opening 1 before (word'.toList ++ after) earlier :=
    fore.exchange fun more _ => here.resembles here' more
  have stands' : step (word'.toList ++ after) = .token .keyword word' word'.toList after := by
    rw [here'.step_eq, String.ofList_toList]
  have further' : Opening (1 + newlines before + newlines word'.toList) after [] later := by
    rwa [newlines_word here'.spelt, ← newlines_word here.spelt]
  have feeds : newlines source.toList = newlines (before ++ (word'.toList ++ after)) := by
    simp only [split, newlines_append, newlines_word here.spelt, newlines_word here'.spelt]
  refine tokenize_eq_ok_iff.2 ⟨earlier ++ ⟨.keyword, some word', 1 + newlines before⟩ :: later,
    ?_, ?_⟩
  · rw [String.toList_ofList]
    rw [← List.append_nil (word'.toList ++ after)] at fore'
    exact fore'.append (.token (by simpa using stands') further')
  · rw [String.toList_ofList, feeds]
    simp

end Lexer

/--
The case of the letters of reserved words never matters. Tokens that differ only in it give the same
tree, the same scopes, and errors of one kind on one line, whose messages differ at most in a
reserved word that they quote. In a script that is read, the lexeme of a reserved word can be
written in another case, and nothing changes but the text of its token.
-/
theorem keyword_case_irrelevant (options : Options) :
    (∀ tokens tokens', List.Forall₂ Token.Respelt tokens tokens' →
      (Parser.parse options tokens').scopes = (Parser.parse options tokens).scopes ∧
      (∀ ast, (Parser.parse options tokens).result = .ok ast →
        (Parser.parse options tokens').result = .ok ast) ∧
      ∀ d, (Parser.parse options tokens).result = .error d →
        ∃ d', (Parser.parse options tokens').result = .error d' ∧ d'.kind = d.kind ∧
          d'.line = d.line ∧ Requoted tokens tokens' d.message d'.message) ∧
    ∀ source earlier token later, Lexer.tokenize source = .ok (earlier ++ token :: later) →
      token.kind = .keyword →
      ∃ before word after, source.toList = before ++ (word ++ after) ∧
        Lexer.Opening 1 before (word ++ after) earlier ∧
        Lexer.Lexeme .keyword (String.ofList word) word after ∧
        token = ⟨.keyword, some (String.ofList word), 1 + Lexer.newlines before⟩ ∧
        ∀ word', sameWord (String.ofList word) word' = true →
          Lexer.tokenize (String.ofList (before ++ (word'.toList ++ after))) =
            .ok (earlier ++ { token with value := some word' } :: later) :=
  ⟨fun _ _ respelt => Parser.parse_respelt respelt,
    fun _ _ _ _ read keyword => Lexer.tokenize_respelt read keyword⟩

/-- A reserved word in a message, and one right after a number in a script. -/
theorem keyword_case_irrelevant_quoted :
    (∃ d d',
      (Parser.parse .none [⟨.keyword, some "print", 1⟩, ⟨.keyword, some "endif", 2⟩]).result =
        .error d ∧
      (Parser.parse .none [⟨.keyword, some "PRINT", 1⟩, ⟨.keyword, some "EndIf", 2⟩]).result =
        .error d' ∧ d'.kind = d.kind ∧ d'.line = d.line) ∧
    ∃ before word after, "5if x".toList = before ++ (word ++ after) ∧
      ∀ word', sameWord (String.ofList word) word' = true →
        Lexer.tokenize (String.ofList (before ++ (word'.toList ++ after))) =
          .ok [⟨.integer, some "5", 1⟩, ⟨.keyword, some word', 1⟩, ⟨.identifier, some "x", 1⟩,
            .eof 1] := by
  constructor
  · have respelt : List.Forall₂ Token.Respelt
        [⟨.keyword, some "print", 1⟩, ⟨.keyword, some "endif", 2⟩]
        [⟨.keyword, some "PRINT", 1⟩, ⟨.keyword, some "EndIf", 2⟩] :=
      .cons ⟨rfl, rfl, .inr ⟨rfl, _, _, rfl, rfl, by decide⟩⟩
        (.cons ⟨rfl, rfl, .inr ⟨rfl, _, _, rfl, rfl, by decide⟩⟩ .nil)
    obtain ⟨d', failed, kinds, lines, -⟩ :=
      ((keyword_case_irrelevant .none).1 _ _ respelt).2.2 _ rfl
    exact ⟨_, d', rfl, failed, kinds, lines⟩
  · have read : Lexer.tokenize "5if x" = .ok ([⟨.integer, some "5", 1⟩] ++
        ⟨.keyword, some "if", 1⟩ :: [⟨.identifier, some "x", 1⟩, .eof 1]) :=
      Lexer.eq_ok_of_toOption (by decide +kernel)
    obtain ⟨before, word, after, split, -, -, -, respelt⟩ :=
      (keyword_case_irrelevant .none).2 _ _ _ _ read rfl
    exact ⟨before, word, after, split, respelt⟩

end DeskScript
