import DeskScript.Decimal.Reader
import DeskScript.Decimal.Shortest
import DeskScript.Diagnostic
import DeskScript.Journal
import DeskScript.Text.Blank

/-!
From text to tokens. At each place the text is at an end, starts with a piece of a gap (a blank
or a comment), starts with a lexeme, or starts with something malformed. `step` decides which
and says what it takes and what it leaves; `scan` repeats it and counts lines.
-/

namespace DeskScript.Lexer

open Text (isBlank isDigit isLetter)
open Diagnostic (Cause)

def isWordStart (c : Char) : Bool :=
  isLetter c || c == '_'

def isWordPart (c : Char) : Bool :=
  isLetter c || isDigit c || c == '_'

def isNumberPart (c : Char) : Bool :=
  isDigit c || c == '.'

inductive TimeUnit where
  | milliseconds
  | seconds
  | minutes
  | hours
  deriving DecidableEq, Repr

namespace TimeUnit

/-- All units, longer suffixes before their beginnings. -/
def all : List TimeUnit :=
  [.milliseconds, .seconds, .minutes, .hours]

def suffix : TimeUnit → List Char
  | .milliseconds => ['m', 's']
  | .seconds => ['s']
  | .minutes => ['m']
  | .hours => ['h']

def toSeconds (unit : TimeUnit) (length : Float) : Float :=
  match unit with
  | .milliseconds => length / 1000.0
  | .seconds => length
  | .minutes => length * 60.0
  | .hours => length * 3600.0

end TimeUnit

def unitAt? (text : List Char) : Option TimeUnit :=
  TimeUnit.all.find? fun unit =>
    unit.suffix.isPrefixOf text && !((text.drop unit.suffix.length).head?.any isWordPart)

def secondsText (seconds : Float) : String :=
  String.ofList (Decimal.shortest .up seconds).plain

def number (digits : List Char) (unit : Option TimeUnit) : Except Cause (Token.Kind × String) :=
  let text := String.ofList digits
  let points := digits.count '.'
  if 1 < points then .error (.malformedNumber text)
  else
    match unit with
    | some unit =>
      match Decimal.readFloat? text with
      | none => .error (.malformedNumber text)
      | some length =>
        let seconds := unit.toSeconds length
        if seconds.isFinite then .ok (.time, secondsText seconds)
        else .error (.numberOutOfRange (String.ofList (digits ++ unit.suffix)))
    | none =>
      if points = 1 then
        match Decimal.readFloat? text with
        | none => .error (.malformedNumber text)
        | some value =>
          if value.isFinite then .ok (.float, text) else .error (.numberOutOfRange text)
      else if Decimal.valueOf digits < 0x10000000000000000 then .ok (.integer, text)
      else .error (.integerOutOfRange text)

def pairs : List (Char × Char) :=
  [('=', '='), ('!', '='), ('<', '='), ('>', '='), ('&', '&'), ('|', '|'), ('+', '+'), ('-', '-')]

/-- The operator that the text `c :: rest` starts with: a pair if it can be formed. -/
def operatorAt (c : Char) (rest : List Char) : List Char :=
  match rest with
  | d :: _ => if pairs.contains (c, d) then [c, d] else [c]
  | [] => [c]

def throughClose (seen : List Char) : List Char → Option (List Char × List Char)
  | [] => none
  | c :: rest =>
    if c = '*' && rest.head? = some '#' then some ((('#' :: c :: seen).reverse), rest.drop 1)
    else throughClose (c :: seen) rest

inductive Step where
  | done
  | gap (taken rest : List Char)
  | token (kind : Token.Kind) (value : String) (taken rest : List Char)
  | fault (cause : Cause)

def comment (rest : List Char) : Step :=
  match rest with
  | '*' :: body =>
    match throughClose [] body with
    | some (inside, after) => .gap ('#' :: '*' :: inside) after
    | none => .fault .openComment
  | _ => .gap ('#' :: rest.takeWhile (· != '\n')) (rest.dropWhile (· != '\n'))

def textLiteral (rest : List Char) : Step :=
  let inside := rest.takeWhile (· != '"')
  match rest.dropWhile (· != '"') with
  | [] => .fault .openString
  | quote :: after => .token .string (String.ofList inside) ('"' :: inside ++ [quote]) after

def numberLiteral (text : List Char) : Step :=
  let digits := text.takeWhile isNumberPart
  let after := text.dropWhile isNumberPart
  let unit := unitAt? after
  let suffix := (unit.map TimeUnit.suffix).getD []
  match number digits unit with
  | .ok (kind, value) => .token kind value (digits ++ suffix) (after.drop suffix.length)
  | .error cause => .fault cause

def word (text : List Char) : Step :=
  let letters := text.takeWhile isWordPart
  let value := String.ofList letters
  let kind := if Keyword.isReserved value then .keyword else .identifier
  .token kind value letters (text.dropWhile isWordPart)

def step : List Char → Step
  | [] => .done
  | c :: rest =>
    if isBlank c then .gap [c] rest
    else if c = '#' then comment rest
    else if c = '"' then textLiteral rest
    else if isDigit c then numberLiteral (c :: rest)
    else if isWordStart c then word (c :: rest)
    else
      let sign := operatorAt c rest
      .token .operator (String.ofList sign) sign (rest.drop (sign.length - 1))

theorem throughClose_eq_some {seen text taken rest : List Char}
    (h : throughClose seen text = some (taken, rest)) : seen.reverse ++ text = taken ++ rest := by
  induction text generalizing seen with
  | nil => simp [throughClose] at h
  | cons c text ih =>
    rw [throughClose] at h
    split at h
    · rename_i hc
      obtain ⟨d, more, rfl⟩ : ∃ d more, text = d :: more := by
        cases text with
        | nil => simp at hc
        | cons d more => exact ⟨d, more, rfl⟩
      simp at hc h
      obtain ⟨rfl, rfl⟩ := hc
      obtain ⟨rfl, rfl⟩ := h
      simp
    · simpa using ih h

theorem comment_eq_gap {rest taken after : List Char} (h : comment rest = .gap taken after) :
    '#' :: rest = taken ++ after ∧ taken ≠ [] := by
  unfold comment at h
  split at h
  · split at h
    · rename_i hclose
      have := throughClose_eq_some hclose
      simp at this h
      obtain ⟨rfl, rfl⟩ := h
      simp [this]
    · simp at h
  · simp at h
    obtain ⟨rfl, rfl⟩ := h
    simp

theorem comment_ne_token {rest taken after : List Char} {kind : Token.Kind} {value : String} :
    comment rest ≠ .token kind value taken after := by
  unfold comment
  split <;> (try split) <;> simp

theorem textLiteral_eq_token {rest taken after : List Char} {kind : Token.Kind} {value : String}
    (h : textLiteral rest = .token kind value taken after) :
    '"' :: rest = taken ++ after ∧ taken ≠ [] := by
  have split := List.takeWhile_append_dropWhile (p := (· != '"')) (l := rest)
  unfold textLiteral at h
  cases hd : rest.dropWhile (· != '"') with
  | nil => simp [hd] at h
  | cons quote more =>
    simp [hd] at h
    obtain ⟨-, -, rfl, rfl⟩ := h
    rw [hd] at split
    simp [split]

theorem textLiteral_ne_gap {rest taken after : List Char} :
    textLiteral rest ≠ .gap taken after := by
  unfold textLiteral
  cases rest.dropWhile (· != '"') <;> simp

theorem suffix_append_of_unitAt? {text : List Char} {unit : TimeUnit}
    (h : unitAt? text = some unit) : unit.suffix ++ text.drop unit.suffix.length = text := by
  have found := List.find?_some h
  simp only [Bool.and_eq_true, List.isPrefixOf_iff_prefix] at found
  obtain ⟨tail, rfl⟩ := found.1
  simp

theorem numberLiteral_eq_token {c : Char} {rest taken after : List Char} {kind : Token.Kind}
    {value : String} (hc : isDigit c = true)
    (h : numberLiteral (c :: rest) = .token kind value taken after) :
    c :: rest = taken ++ after ∧ taken ≠ [] := by
  have split := List.takeWhile_append_dropWhile (p := isNumberPart) (l := c :: rest)
  have starts : (c :: rest).takeWhile isNumberPart ≠ [] := by
    simp [isNumberPart, hc]
  generalize c :: rest = text at h split starts ⊢
  unfold numberLiteral at h
  cases hn : number (text.takeWhile isNumberPart) (unitAt? (text.dropWhile isNumberPart)) with
  | error cause => simp [hn] at h
  | ok found =>
    simp only [hn, Step.token.injEq] at h
    obtain ⟨-, -, rfl, rfl⟩ := h
    cases hu : unitAt? (text.dropWhile isNumberPart) with
    | none => simp [split, starts]
    | some unit =>
      have := suffix_append_of_unitAt? hu
      refine ⟨?_, by simp [starts]⟩
      simp only [Option.map_some, Option.getD_some, List.append_assoc, this, split]

theorem numberLiteral_ne_gap {text taken after : List Char} :
    numberLiteral text ≠ .gap taken after := by
  unfold numberLiteral
  cases hn : number (text.takeWhile isNumberPart) (unitAt? (text.dropWhile isNumberPart)) <;>
    simp [hn]

theorem operatorAt_append (c : Char) (rest : List Char) :
    operatorAt c rest ++ rest.drop ((operatorAt c rest).length - 1) = c :: rest := by
  unfold operatorAt
  split
  · split <;> simp
  · simp

theorem step_eq_gap {text taken rest : List Char} (h : step text = .gap taken rest) :
    text = taken ++ rest ∧ taken ≠ [] := by
  cases text with
  | nil => simp [step] at h
  | cons c text =>
    rw [step] at h
    split at h
    · simp at h
      obtain ⟨rfl, rfl⟩ := h
      simp
    split at h
    · rename_i hc
      rw [hc]
      exact comment_eq_gap h
    split at h
    · exact absurd h textLiteral_ne_gap
    split at h
    · exact absurd h numberLiteral_ne_gap
    split at h
    · simp [word] at h
    · simp at h

theorem operatorAt_ne_nil (c : Char) (rest : List Char) : operatorAt c rest ≠ [] := by
  unfold operatorAt
  split
  · split <;> simp
  · simp

theorem step_eq_token {text taken rest : List Char} {kind : Token.Kind} {value : String}
    (h : step text = .token kind value taken rest) : text = taken ++ rest ∧ taken ≠ [] := by
  cases text with
  | nil => simp [step] at h
  | cons c text =>
    rw [step] at h
    split at h
    · simp at h
    split at h
    · exact absurd h comment_ne_token
    split at h
    · rename_i hc
      rw [hc]
      exact textLiteral_eq_token h
    split at h
    · rename_i hc
      exact numberLiteral_eq_token hc h
    split at h
    · rename_i hc
      simp only [word, Step.token.injEq] at h
      obtain ⟨-, -, rfl, rfl⟩ := h
      refine ⟨List.takeWhile_append_dropWhile.symm, ?_⟩
      have : isWordPart c = true := by
        simp only [isWordStart, isWordPart, Bool.or_eq_true] at hc ⊢
        exact hc.imp_left Or.inl
      simp [this]
    · simp only [Step.token.injEq] at h
      obtain ⟨-, -, rfl, rfl⟩ := h
      exact ⟨(operatorAt_append c text).symm, operatorAt_ne_nil c text⟩

theorem length_lt_of_append {text taken rest : List Char}
    (h : text = taken ++ rest ∧ taken ≠ []) : rest.length < text.length := by
  have := List.length_pos_iff.2 h.2
  rw [h.1, List.length_append]
  omega

def newlines (text : List Char) : Nat :=
  text.count '\n'

structure Scan where
  tokens : List Token
  stop : Except Diagnostic Nat

def scanFrom (seen : List Token) (line : Nat) (text : List Char) : Scan :=
  match h : step text with
  | .done => ⟨seen.reverse, .ok line⟩
  | .gap taken rest =>
    have : rest.length < text.length := length_lt_of_append (step_eq_gap h)
    scanFrom seen (line + newlines taken) rest
  | .token kind value taken rest =>
    have : rest.length < text.length := length_lt_of_append (step_eq_token h)
    scanFrom (⟨kind, some value, line⟩ :: seen) (line + newlines taken) rest
  | .fault cause => ⟨seen.reverse, .error ⟨cause, line⟩⟩
termination_by text.length

def Scan.journal (scan : Scan) : List Journal.Event :=
  scan.tokens.map .token ++
    match scan.stop with
    | .ok line => [.tokenized (scan.tokens.length + 1) line]
    | .error _ => []

def scan (source : String) : Scan :=
  scanFrom [] 1 source.toList

def tokenize (source : String) : Except Diagnostic (List Token) :=
  let scan := scan source
  scan.stop.map fun line => scan.tokens ++ [Token.eof line]

end DeskScript.Lexer
