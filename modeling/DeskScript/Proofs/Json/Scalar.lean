import DeskScript.Json.Reader
import DeskScript.Json.Writer
import DeskScript.Proofs.Decimal.Text

/-!
Numbers and texts are read back from what is written for them, also in the middle of a text.
-/

namespace DeskScript.Json

open Text (isDigit)

variable {text rest : List Char} {negative : Bool} {significand : Nat} {exponent : Int}
variable {number : Number}

def Closed (rest : List Char) : Prop :=
  ∀ c ∈ rest.head?, isDigit c = false ∧ c ≠ '.' ∧ c ≠ 'e' ∧ c ≠ 'E'

theorem closed_cons {c : Char} :
    Closed (c :: rest) ↔ isDigit c = false ∧ c ≠ '.' ∧ c ≠ 'e' ∧ c ≠ 'E' := by
  simp [Closed]

theorem Closed.takeWhile_digits (closed : Closed rest) : rest.takeWhile isDigit = [] := by
  cases rest with
  | nil => rfl
  | cons c rest => simp [(closed_cons.1 closed).1]

theorem Closed.dropWhile_digits (closed : Closed rest) : rest.dropWhile isDigit = rest := by
  cases rest with
  | nil => rfl
  | cons c rest => simp [(closed_cons.1 closed).1]

theorem Closed.startsWithDigit (closed : Closed rest) : startsWithDigit rest = false := by
  cases rest with
  | nil => rfl
  | cons c rest => exact (closed_cons.1 closed).1

theorem startsWithDigit_append (closed : Closed rest) :
    startsWithDigit (text ++ rest) = startsWithDigit text := by
  cases text with
  | nil => exact closed.startsWithDigit
  | cons c text => rfl

theorem dropWhile_digits_append (closed : Closed rest) :
    (text ++ rest).dropWhile isDigit = text.dropWhile isDigit ++ rest := by
  rw [List.dropWhile_append]
  split
  next none => rw [closed.dropWhile_digits, List.isEmpty_iff.1 none, List.nil_append]
  next => rfl

theorem takeWhile_digits_append (closed : Closed rest) :
    (text ++ rest).takeWhile isDigit = text.takeWhile isDigit := by
  rw [List.takeWhile_append, closed.takeWhile_digits, List.append_nil]
  split
  next all => exact ((List.takeWhile_prefix _).eq_of_length all).symm
  next => rfl

theorem takeDigits_append (closed : Closed rest) (significand taken : Nat) :
    takeDigits significand taken (text ++ rest) =
      ((takeDigits significand taken text).1, (takeDigits significand taken text).2.1,
        (takeDigits significand taken text).2.2 ++ rest) := by
  fun_induction takeDigits significand taken text with
  | case1 =>
    cases rest with
    | nil => rfl
    | cons c rest => simp [takeDigits, (closed_cons.1 closed).1]
  | case2 significand taken c text next room ih =>
    rw [List.cons_append, takeDigits, if_pos room, ih]
  | case3 significand taken c text next full =>
    rw [List.cons_append, takeDigits, if_neg full]

def Extends (rest : List Char) (alone before : Except Fault (Number × List Char)) : Prop :=
  ∀ number, alone = .ok (number, []) → before = .ok (number, rest)

namespace Extends

variable {alone before alone' before' : Except Fault (Number × List Char)}

theorem error {fault : Fault} : Extends rest (.error fault) before := by
  intro number h
  simp at h

theorem ok {after : List Char} :
    Extends rest (.ok (number, after)) (.ok (number, after ++ rest)) := by
  intro other h
  obtain ⟨rfl, rfl⟩ := Prod.mk.inj (Except.ok.inj h)
  rfl

theorem made {read : Except Fault Number} {after : List Char} :
    Extends rest (do let value ← read; return (value, after))
      (do let value ← read; return (value, after ++ rest)) := by
  cases read with
  | error fault => exact error
  | ok value => exact ok

theorem ite {p : Prop} [Decidable p] (h : Extends rest alone before)
    (h' : Extends rest alone' before') :
    Extends rest (if p then alone else alone') (if p then before else before') := by
  split
  · exact h
  · exact h'

end Extends

/-- A number is read alike whether the text ends after it or goes on. -/
def Stable (reader : Reader Number) : Prop :=
  ∀ text rest, Closed rest → Extends rest (reader text) (reader (text ++ rest))

def readPower (negative : Bool) (significand : Nat) (start : Int) (down : Bool) : Reader Number :=
  fun text =>
    match text with
    | [] => .error .truncated
    | c :: _ =>
      if isDigit c then
        let size : Int := Decimal.valueOf (text.takeWhile isDigit)
        if maxExponent < size then
          if significand ≠ 0 ∧ !down then .error .malformed
          else .ok (signed negative 0.0, text.dropWhile isDigit)
        else do
          let exponent := clampExponent (if down then start - size else start + size)
          let value ← assemble negative significand exponent
          return (value, text.dropWhile isDigit)
      else .error .malformed

theorem readExponent_eq (text : List Char) :
    readExponent negative significand exponent text =
      readPower negative significand exponent (Decimal.splitSign text).1
        (Decimal.splitSign text).2 := by
  rcases text with - | ⟨c, text⟩
  · rfl
  · by_cases plus : c = '+'
    · subst plus; rfl
    · by_cases minus : c = '-'
      · subst minus; rfl
      · simp [readExponent, Decimal.splitSign, plus, minus, readPower]

theorem stable_readPower {down : Bool} :
    Stable (readPower negative significand exponent down) := by
  intro text rest closed
  unfold readPower
  rw [takeWhile_digits_append closed, dropWhile_digits_append closed]
  cases text with
  | nil => exact .error
  | cons c text => exact .ite (.ite (.ite .error .ok) .made) .error

theorem splitSign_append {c : Char} :
    Decimal.splitSign (c :: text ++ rest) =
      ((Decimal.splitSign (c :: text)).1, (Decimal.splitSign (c :: text)).2 ++ rest) := by
  unfold Decimal.splitSign
  rw [List.cons_append]
  split <;> simp_all

theorem stable_readExponent : Stable (readExponent negative significand exponent) := by
  intro text rest closed
  rw [readExponent_eq, readExponent_eq]
  cases text with
  | nil => exact .error
  | cons c text =>
    rw [splitSign_append]
    exact stable_readPower _ _ closed

theorem stable_readTail : Stable (readTail negative significand exponent) := by
  intro text rest closed
  cases text with
  | cons c text => exact .ite (stable_readExponent _ _ closed) .made
  | nil =>
    cases rest with
    | nil => exact .made
    | cons c rest =>
      obtain ⟨-, -, small, capital⟩ := closed_cons.1 closed
      rw [List.nil_append, readTail, readTail, if_neg (by simp [small, capital])]
      exact .made

theorem stable_readPlaces : Stable (readPlaces negative significand exponent) := by
  intro text rest closed
  unfold readPlaces
  rw [takeDigits_append closed]
  dsimp only
  rw [startsWithDigit_append closed, dropWhile_digits_append closed]
  refine .ite (stable_readTail _ _ closed) (.ite ?_ (stable_readTail _ _ closed))
  split <;> exact .error

theorem Closed.ne_point (closed : Closed rest) (after : List Char) : rest ≠ '.' :: after := by
  rintro rfl
  exact (closed_cons.1 closed).2.1 rfl

theorem stable_readLong : Stable (readLong negative significand) := by
  intro text rest closed
  unfold readLong
  rw [takeWhile_digits_append closed, dropWhile_digits_append closed]
  generalize text.dropWhile isDigit = left
  dsimp only
  split
  next after => exact stable_readPlaces _ _ closed
  next other =>
    split
    next after same =>
      cases left with
      | nil => exact absurd same (closed.ne_point after)
      | cons c left =>
        cases same
        exact absurd rfl (other left)
    next => exact stable_readTail _ _ closed

theorem readRest_of_ne {c : Char} (ne : c ≠ '.') :
    readRest negative significand (c :: rest) =
      if c = 'e' || c = 'E' then readExponent negative significand 0 rest
      else .ok (wholeNumber negative significand, c :: rest) := by
  unfold readRest
  split
  next same => exact absurd (List.cons.inj same).1 ne
  next same =>
    cases same
    rfl
  next same => cases same

theorem stable_readRest : Stable (readRest negative significand) := by
  intro text rest closed
  cases text with
  | nil =>
    cases rest with
    | nil => exact .ok
    | cons c rest =>
      obtain ⟨-, point, small, capital⟩ := closed_cons.1 closed
      rw [List.nil_append, readRest_of_ne point, if_neg (by simp [small, capital])]
      exact .ok
  | cons c text =>
    by_cases point : c = '.'
    · subst point
      exact stable_readPlaces _ _ closed
    · rw [List.cons_append, readRest_of_ne point, readRest_of_ne point]
      exact .ite (stable_readExponent _ _ closed) .ok

theorem stable_readMagnitude : Stable (readMagnitude negative) := by
  intro text rest closed
  cases text with
  | nil => exact .error
  | cons c text =>
    rw [List.cons_append, readMagnitude, readMagnitude, startsWithDigit_append closed,
      ← List.cons_append, takeDigits_append closed]
    dsimp only
    rw [startsWithDigit_append closed]
    exact .ite (.ite .error (stable_readRest _ _ closed))
      (.ite (.ite (stable_readLong _ _ closed) (stable_readRest _ _ closed)) .error)

theorem readNumber_of_ne {c : Char} (ne : c ≠ '-') :
    readNumber (c :: rest) = readMagnitude false (c :: rest) := by
  unfold readNumber
  split
  next same => exact absurd (List.cons.inj same).1 ne
  next => rfl

theorem stable_readNumber : Stable readNumber := by
  intro text rest closed
  cases text with
  | nil => exact .error
  | cons c text =>
    by_cases minus : c = '-'
    · subst minus
      exact stable_readMagnitude _ _ closed
    · rw [List.cons_append, readNumber_of_ne minus, readNumber_of_ne minus]
      exact stable_readMagnitude _ _ closed

theorem start_of_readNumber (h : readNumber text = .ok (number, rest)) :
    ∃ c more, text = c :: more ∧ (c = '-' ∨ isDigit c = true) := by
  cases text with
  | nil => cases h
  | cons c text =>
    refine ⟨c, text, rfl, ?_⟩
    by_cases minus : c = '-'
    · exact .inl minus
    · rw [readNumber_of_ne minus, readMagnitude] at h
      split at h
      next zero => exact .inr (by rw [zero]; decide)
      next =>
        split at h
        next digit => exact .inr digit
        next => cases h

theorem le_ofDigitChars (digits : List Char) (start : Nat) :
    start ≤ Nat.ofDigitChars 10 digits start := by
  rw [Nat.ofDigitChars_eq_ofDigitChars_zero]
  have pos : 0 < 10 ^ digits.length := Nat.pow_pos (by decide)
  exact Nat.le_add_right_of_le (Nat.le_mul_of_pos_left start pos)

theorem takeDigits_eq {digits : List Char} (all : digits.all isDigit = true) {start taken : Nat}
    (room : Nat.ofDigitChars 10 digits start ≤ maxSignificand) :
    takeDigits start taken digits =
      (Nat.ofDigitChars 10 digits start, taken + digits.length, []) := by
  induction digits generalizing start taken with
  | nil => rfl
  | cons c digits ih =>
    rw [List.all_cons, Bool.and_eq_true] at all
    rw [Nat.ofDigitChars_cons] at room ⊢
    have next : 10 * start + Decimal.digitValue c ≤ maxSignificand :=
      Nat.le_trans (le_ofDigitChars digits _) room
    rw [takeDigits, if_pos (by simp [all.1, next]), Decimal.digitValue, ih all.2 room,
      List.length_cons, Nat.add_assoc, Nat.add_comm 1]

theorem eq_zero_of_toDigits {n : Nat} (h : Nat.toDigits 10 n = '0' :: rest) : n = 0 := by
  induction n using Nat.strongRecOn generalizing rest with
  | ind n ih =>
    rw [Nat.toDigits_eq_if (by decide)] at h
    split at h
    next small =>
      have all : ∀ n < 10, n.digitChar = '0' → n = 0 := by decide
      exact all n small (List.cons.inj h).1
    next large =>
      obtain ⟨c, more, first, -⟩ := Decimal.toDigits_cons (n / 10)
      rw [first, List.cons_append] at h
      obtain ⟨rfl, -⟩ := List.cons.inj h
      have quotient := ih (n / 10) (by omega) first
      omega

theorem readMagnitude_toDigits (negative : Bool) {n : Nat} (room : n ≤ maxSignificand) :
    readMagnitude negative (Nat.toDigits 10 n) = .ok (wholeNumber negative n, []) := by
  have digits := Decimal.toDigits_isDigit n
  have value := Nat.ofDigitChars_ten_toDigits (n := n)
  obtain ⟨c, more, first, digit⟩ := Decimal.toDigits_cons n
  rw [first] at digits value ⊢
  rw [readMagnitude]
  split
  next zero =>
    subst zero
    obtain rfl := eq_zero_of_toDigits first
    rw [Nat.toDigits_zero] at first
    obtain ⟨-, rfl⟩ := List.cons.inj first
    rfl
  next =>
    rw [takeDigits_eq digits (by rwa [value]), value]
    rfl

theorem readNumber_wholeText (n : Int64) :
    readNumber (wholeText n.toInt) = .ok (.whole n.toInt, []) := by
  have low := n.le_toInt
  have high := n.toInt_lt
  -- even the least integer has room in a significand, which is unsigned
  have room : n.toInt.natAbs ≤ maxSignificand := by
    rw [maxSignificand]
    omega
  rw [wholeText]
  split
  next negative =>
    change readMagnitude true _ = _
    rw [readMagnitude_toDigits true room, wholeNumber, if_neg (by decide), if_neg (by omega)]
    have abs : -(n.toInt.natAbs : Int) = n.toInt := by omega
    rw [abs]
  next positive =>
    obtain ⟨c, more, first, digit⟩ := Decimal.toDigits_cons n.toInt.natAbs
    have unsigned : c ≠ '-' := by
      rintro rfl
      simp [isDigit] at digit
    have read := readMagnitude_toDigits false room
    rw [first] at read ⊢
    rw [readNumber_of_ne unsigned, read, wholeNumber, if_pos (by decide)]
    have abs : (n.toInt.natAbs : Int) = n.toInt := by omega
    rw [abs]

theorem hexValue?_hexDigit {n : Nat} (small : n < 16) : hexValue? (hexDigit n) = some n := by
  have all : ∀ n < 16, hexValue? (hexDigit n) = some n := by decide
  exact all n small

theorem readCharacters_of_readEscape {c : Char} {seen after : List Char}
    (h : readEscape rest = .ok (c, after)) :
    readCharacters seen ('\\' :: rest) = readCharacters (c :: seen) after := by
  rw [readCharacters, if_neg (by decide), if_pos rfl]
  split
  next decoded left read =>
    rw [h] at read
    obtain ⟨rfl, rfl⟩ := Prod.mk.inj (Except.ok.inj read)
    rfl
  next fault read =>
    rw [h] at read
    cases read

theorem readCode_control {n : Nat} (control : n < 0x20) (rest : List Char) :
    readCode ('0' :: '0' :: hexDigit (n / 16) :: hexDigit (n % 16) :: rest) =
      .ok (Char.ofNat n, rest) := by
  have high := hexValue?_hexDigit (n := n / 16) (by omega)
  have low := hexValue?_hexDigit (n := n % 16) (by omega)
  have zero : hexValue? '0' = some 0 := by decide
  have code : readHex ('0' :: '0' :: hexDigit (n / 16) :: hexDigit (n % 16) :: rest) =
      .ok (n, rest) := by
    simp only [readHex, zero, high, low, Nat.zero_mul, Nat.zero_add, Nat.div_add_mod']
  rw [readCode, code]
  change (if _ then _ else _) = _
  rw [if_neg (by omega), if_neg (by omega)]
  rfl

theorem readCharacters_escape (c : Char) (seen rest : List Char) :
    readCharacters seen (escape c ++ rest) = readCharacters (c :: seen) rest := by
  unfold escape
  -- a quote, a backslash and five controls have escapes of their own
  iterate 7
    split
    next same =>
      subst same
      exact readCharacters_of_readEscape rfl
  split
  next control =>
    have code := readCode_control control rest
    rw [Char.ofNat_toNat] at code
    exact readCharacters_of_readEscape code
  next raw =>
    rw [List.singleton_append, readCharacters]
    simp only [*, if_false]

theorem readCharacters_escaped (characters seen rest : List Char) :
    readCharacters seen (characters.flatMap escape ++ '"' :: rest) =
      .ok (seen.reverse ++ characters, rest) := by
  induction characters generalizing seen with
  | nil => simp [readCharacters]
  | cons c characters ih =>
    rw [List.flatMap_cons, List.append_assoc, readCharacters_escape, ih]
    simp

theorem readText_escaped (text : String) (rest : List Char) :
    readText (text.toList.flatMap escape ++ '"' :: rest) = .ok (text, rest) := by
  rw [readText, readCharacters_escaped]
  simp [bind, Except.bind, pure, Except.pure]

def Number.Survives (number : Number) : Prop :=
  readNumber (numberText number) = .ok (number, [])

theorem Number.Survives.start (survives : number.Survives) :
    ∃ c more, numberText number = c :: more ∧ (c = '-' ∨ isDigit c = true) :=
  start_of_readNumber survives

theorem readScalar_numberText (survives : number.Survives) (closed : Closed rest) :
    readScalar (numberText number ++ rest) = .ok (.number number, rest) := by
  have read := stable_readNumber _ _ closed _ survives
  obtain ⟨c, more, first, start⟩ := survives.start
  rw [first, List.cons_append] at read ⊢
  have apart : c ≠ 'n' ∧ c ≠ 't' ∧ c ≠ 'f' ∧ c ≠ '"' := by
    refine ⟨?_, ?_, ?_, ?_⟩ <;> rintro rfl <;> revert start <;> decide
  have sign : (c = '-' || isDigit c) = true := by simpa using start
  rw [readScalar, if_neg apart.1, if_neg apart.2.1, if_neg apart.2.2.1, if_neg apart.2.2.2,
    if_pos sign, read]
  rfl

theorem readScalar_writeText (text : String) (rest : List Char) :
    readScalar (writeText text rest) = .ok (.string text, rest) := by
  rw [writeText, List.cons_append, readScalar, if_neg (by decide), if_neg (by decide),
    if_neg (by decide), if_pos rfl, readText_escaped]
  rfl

end DeskScript.Json
