import DeskScript.Proofs.Token.Faults

/-!
Scripts one below the other. A line feed ends every gap and every lexeme before it, just as the end
of the text does, so what comes before it is read as if nothing followed, and what comes after it as
if nothing came before, on later lines. Main statement: `tokenize_joined`.
-/

namespace DeskScript

def Token.below (lines : Nat) (token : Token) : Token :=
  { token with line := token.line + lines }

def Diagnostic.below (lines : Nat) (d : Diagnostic) : Diagnostic :=
  { d with line := d.line + lines }

namespace Lexer

open Text (isBlank)

variable {text rest : List Char} {line : Nat} {tokens : List Token}

def Parted (rest : List Char) : Prop :=
  ∀ c ∈ rest.head?, isBlank c = true

theorem parted_nil : Parted [] := nofun

theorem parted_cons {c : Char} (blank : isBlank c = true) : Parted (c :: rest) := by
  intro d mem
  obtain rfl : c = d := Option.some.inj mem
  exact blank

theorem not_part_of_isBlank {c : Char} (blank : isBlank c = true) :
    isWordPart c = false ∧ isNumberPart c = false ∧ ∀ d, pairs.contains (d, c) = false := by
  have letter : isWordStart c = false := by
    rw [Bool.eq_false_iff]
    intro start
    rw [(plain_of_isWordStart start).1.1] at blank
    cases blank
  have digit : Text.isDigit c = false := by
    rw [Bool.eq_false_iff]
    intro digit
    -- blanks are tried before digits, so a blank digit would be read in two ways
    have step : step [c] = .gap [c] [] := by simp [step, blank]
    rw [step_of_digit digit] at step
    exact numberLiteral_ne_gap step
  have apart (d : Char) (solid : isBlank d = false) : c ≠ d := by
    rintro rfl
    rw [blank] at solid
    cases solid
  have signs : ∀ pair ∈ pairs, isBlank pair.2 = false := by decide
  simp only [isWordStart, Bool.or_eq_false_iff] at letter
  refine ⟨by simp [isWordPart, letter, digit], by simp [isNumberPart, digit, apart '.' rfl],
    fun d => ?_⟩
  rw [← Bool.not_eq_true, List.contains_iff_mem]
  exact fun mem => apart _ (signs _ mem) rfl

/-- No word, number or sign goes on with what is parted from it, and no unit stands there. -/
structure Beyond (rest : List Char) : Prop where
  word : ∀ c ∈ rest.head?, isWordPart c = false
  number : ∀ c ∈ rest.head?, isNumberPart c = false
  sign : ∀ c ∈ rest.head?, ∀ d, pairs.contains (d, c) = false

theorem Parted.beyond (parted : Parted rest) : Beyond rest where
  word c mem := (not_part_of_isBlank (parted c mem)).1
  number c mem := (not_part_of_isBlank (parted c mem)).2.1
  sign c mem := (not_part_of_isBlank (parted c mem)).2.2

theorem Parted.takeWhile_append (parted : Parted rest) (more : List Char) :
    (more ++ rest).takeWhile isWordPart = more.takeWhile isWordPart := by
  have none : Run isWordPart [] rest := ⟨List.forall_mem_nil _, parted.beyond.word⟩
  have stop : rest.takeWhile isWordPart = [] := none.takeWhile_eq
  rw [List.takeWhile_append, stop]
  split
  next all => rw [List.append_nil, (List.takeWhile_sublist isWordPart).eq_of_length all]
  next => rfl

theorem Parted.unitAt?_eq_none (parted : Parted rest) : unitAt? rest = none := by
  refine Lexer.unitAt?_eq_none fun unit stands => ?_
  have word := parted.takeWhile_append []
  rw [List.nil_append, unitAt_iff_takeWhile.1 stands] at word
  cases unit <;> cases word

theorem resembles_feed (more : List Char) : Resembles (more ++ []) (more ++ '\n' :: rest) := by
  have feed : Parted ('\n' :: rest) := parted_cons (by decide)
  have same : Resembles [] ('\n' :: rest) := by
    refine ⟨by simp, ?_, ?_, fun c => ?_, ?_⟩
    · exact (beyond_iff.1 feed.beyond.word).symm
    · exact (beyond_iff.1 feed.beyond.number).symm
    · exact (beyond_iff.1 fun d mem => feed.beyond.sign d mem c).symm
    · rw [parted_nil.unitAt?_eq_none, feed.unitAt?_eq_none]
  refine same.append (unitAt?_congr ?_)
  rw [parted_nil.takeWhile_append, feed.takeWhile_append]

theorem scanFrom_below (lines : Nat) (seen others : List Token) (line : Nat) (text : List Char) :
    scanFrom (others.map (Token.below lines) ++ seen) (line + lines) text =
      ⟨seen.reverse ++ (scanFrom others line text).tokens.map (Token.below lines),
        match (scanFrom others line text).stop with
        | .ok last => .ok (last + lines)
        | .error d => .error (d.below lines)⟩ := by
  fun_induction scanFrom others line text with
  | case1 others line text done =>
    obtain rfl := eq_nil_of_step done
    rw [scanFrom]
    simp [step]
  | case2 others line text taken rest gap _ ih =>
    rw [scanFrom_gap gap, Nat.add_right_comm, ih]
  | case3 others line text kind value taken rest token _ ih =>
    rw [scanFrom_token token, Nat.add_right_comm, ← ih]
    rfl
  | case4 others line text cause fault =>
    rw [scanFrom_fault fault]
    simp [Diagnostic.below]

/--
Scripts can be put one below the other: if the first is read, then both together are read as the
tokens of the first and those of the second, further down by the lines of the first; and if the
second is refused, then so are both together, as far further down.
-/
theorem tokenize_joined (first second : String) (tokens : List Token) (last : Nat)
    (h : tokenize first = .ok (tokens ++ [Token.eof last])) :
    tokenize (first ++ "\n" ++ second) =
      match tokenize second with
      | .ok others => .ok (tokens ++ others.map (Token.below last))
      | .error d => .error (d.below last) := by
  obtain ⟨others, opening, split⟩ := tokenize_eq_ok_iff.1 h
  obtain ⟨rfl, ends⟩ := List.append_inj' split rfl
  obtain rfl : last = 1 + newlines first.toList := congrArg Token.line (List.cons.inj ends).1
  have before : Opening 1 first.toList ('\n' :: second.toList) tokens :=
    opening.exchange fun more _ => resembles_feed more
  have feed : step ('\n' :: second.toList) = .gap ['\n'] second.toList :=
    step_of_filler (.blank (by decide))
  have whole : scan (first ++ "\n" ++ second) =
      scanFrom tokens.reverse (1 + (1 + newlines first.toList)) second.toList := by
    have text : (first ++ "\n" ++ second).toList = first.toList ++ '\n' :: second.toList := by
      simp
    rw [scan, text, before.scanFrom_eq, scanFrom_gap feed, List.append_nil]
    exact congrArg (scanFrom _ · _) (Nat.add_comm _ _)
  have below := scanFrom_below (1 + newlines first.toList) tokens.reverse [] 1 second.toList
  rw [List.map_nil, List.nil_append, List.reverse_reverse, ← whole] at below
  unfold tokenize
  rw [below, scan]
  generalize scanFrom [] 1 second.toList = read
  obtain ⟨others, stop⟩ := read
  cases stop with
  | ok line => simp [Except.map, Token.below, Token.eof]
  | error d => rfl

/-- A number does not take the unit of the next line, and a text that stays open there is refused
on that line. -/
theorem tokenize_joined_unit :
    tokenize ("WAIT 5 # a" ++ "\n" ++ "s") = .ok [⟨.keyword, some "WAIT", 1⟩,
        ⟨.integer, some "5", 1⟩, ⟨.identifier, some "s", 2⟩, .eof 2] ∧
      tokenize ("WAIT 5 # a" ++ "\n" ++ "s\n\"") = .error ⟨.openString, 3⟩ := by
  have first : tokenize "WAIT 5 # a" =
      .ok ([⟨.keyword, some "WAIT", 1⟩, ⟨.integer, some "5", 1⟩] ++ [.eof 1]) :=
    eq_ok_of_toOption (by decide +kernel)
  have second : tokenize "s" = .ok [⟨.identifier, some "s", 1⟩, .eof 1] :=
    eq_ok_of_toOption (by decide +kernel)
  have opened : tokenize "s\n\"" = .error ⟨.openString, 2⟩ := by
    have before : Opening 1 (['s'] ++ (['\n'] ++ [])) ['"'] [⟨.identifier, some "s", 1⟩] :=
      .token rfl (.gap rfl .nil)
    have refused := before.scanFrom_eq []
    rw [scanFrom_fault (step_of_fault (.string (by decide)))] at refused
    exact tokenize_eq_error.2 (congrArg Scan.stop refused)
  refine ⟨?_, ?_⟩
  · rw [tokenize_joined _ _ _ _ first, second]
    rfl
  · rw [tokenize_joined _ _ _ _ first, opened]
    rfl

end Lexer

end DeskScript
