import DeskScript.Decimal.Reader
import DeskScript.Json.Value
import DeskScript.Text.Case

/-!
Reading JSON from left to right. A reader takes the text that is left and gives what it read with
the text after it. `levels` is how many more arrays and objects may open inside one another, and
`bound` is more than there are characters.
-/

namespace DeskScript.Json

open Text (isDigit)

inductive Fault where
  /-- The text is not JSON, or goes beyond what is read. -/
  | malformed
  | mismatched
  | truncated
  deriving DecidableEq, Repr

abbrev Reader (α : Type) : Type :=
  List Char → Except Fault (α × List Char)

def isSpace (c : Char) : Bool :=
  c == ' ' || c == '\t' || c == '\n' || c == '\r'

def skipSpace (text : List Char) : List Char :=
  text.dropWhile isSpace

def expectLetters : List Char → List Char → Except Fault (List Char)
  | [], text => .ok text
  | _ :: _, [] => .error .truncated
  | letter :: letters, c :: rest =>
    if c = letter then expectLetters letters rest else .error .malformed

def readWord (letters : String) (value : Json) : Reader Json := fun text => do
  let rest ← expectLetters letters.toList text
  return (value, rest)

def maxSignificand : Nat := 0xFFFFFFFFFFFFFFFF

def takeDigits (significand taken : Nat) : List Char → Nat × Nat × List Char
  | [] => (significand, taken, [])
  | c :: rest =>
    let next := 10 * significand + Decimal.digitValue c
    if isDigit c && decide (next ≤ maxSignificand) then takeDigits next (taken + 1) rest
    else (significand, taken, c :: rest)

def startsWithDigit (text : List Char) : Bool :=
  text.head?.any isDigit

def powerOfTen (n : Nat) : Float :=
  Decimal.nearest (Decimal.tenTo n) 1

/--
A double times a power of ten, by one multiplication or division where the power is in range and
else by dividing in steps; none if the value is too large.
-/
def scale (x : Float) (exponent : Int) : Option Float :=
  if exponent.natAbs ≤ 308 then
    if 0 ≤ exponent then
      let y := x * powerOfTen exponent.natAbs
      if y.isFinite then some y else none
    else some (x / powerOfTen exponent.natAbs)
  else if x == 0.0 then some x
  else if 0 ≤ exponent then none
  else scale (x / powerOfTen 308) (exponent + 308)
termination_by (-exponent).toNat
decreasing_by omega

def signed (negative : Bool) (x : Float) : Number :=
  .real (if negative then -x else x)

def assemble (negative : Bool) (significand : Nat) (exponent : Int) : Except Fault Number :=
  match scale (Decimal.nearest significand 1) exponent with
  | some x => .ok (signed negative x)
  | none => .error .malformed

def maxExponent : Int := 0x7FFFFFFF

def clampExponent (exponent : Int) : Int :=
  max (-0x80000000) (min maxExponent exponent)

def readExponent (negative : Bool) (significand : Nat) (start : Int) : Reader Number :=
  fun text =>
    let (down, text) :=
      match text with
      | '+' :: rest => (false, rest)
      | '-' :: rest => (true, rest)
      | text => (false, text)
    match text with
    | [] => .error .truncated
    | c :: _ =>
      if isDigit c then
        let digits := text.takeWhile isDigit
        let rest := text.dropWhile isDigit
        let size : Int := Decimal.valueOf digits
        if maxExponent < size then
          if significand ≠ 0 ∧ !down then .error .malformed
          else .ok (signed negative 0.0, rest)
        else do
          let exponent := clampExponent (if down then start - size else start + size)
          let value ← assemble negative significand exponent
          return (value, rest)
      else .error .malformed

def readTail (negative : Bool) (significand : Nat) (exponent : Int) : Reader Number
  | c :: rest =>
    if c = 'e' || c = 'E' then readExponent negative significand exponent rest
    else do
      let value ← assemble negative significand exponent
      return (value, c :: rest)
  | [] => do
    let value ← assemble negative significand exponent
    return (value, [])

/-- The places after the point. Digits for which the significand has no room are dropped. -/
def readPlaces (negative : Bool) (significand : Nat) (exponent : Int) : Reader Number :=
  fun text =>
    let (longer, taken, rest) := takeDigits significand 0 text
    if startsWithDigit rest then
      readTail negative longer (exponent - taken) (rest.dropWhile isDigit)
    else if taken = 0 then
      if rest.isEmpty then .error .truncated else .error .malformed
    else readTail negative longer (exponent - taken) rest

def readLong (negative : Bool) (significand : Nat) : Reader Number := fun text =>
  let dropped := (text.takeWhile isDigit).length
  match text.dropWhile isDigit with
  | '.' :: rest => readPlaces negative significand dropped rest
  | rest => readTail negative significand dropped rest

/-- A whole number; a negative one that has no room is a double, and so is the negative zero. -/
def wholeNumber (negative : Bool) (significand : Nat) : Number :=
  if !negative then .whole significand
  else if significand = 0 ∨ 0x8000000000000000 < significand then
    .real (-(Decimal.nearest significand 1))
  else .whole (-(significand : Int))

def readRest (negative : Bool) (significand : Nat) : Reader Number
  | '.' :: rest => readPlaces negative significand 0 rest
  | c :: rest =>
    if c = 'e' || c = 'E' then readExponent negative significand 0 rest
    else .ok (wholeNumber negative significand, c :: rest)
  | [] => .ok (wholeNumber negative significand, [])

def readMagnitude (negative : Bool) : Reader Number
  | [] => .error .truncated
  | c :: rest =>
    if c = '0' then
      if startsWithDigit rest then .error .malformed else readRest negative 0 rest
    else if isDigit c then
      let (significand, _, after) := takeDigits 0 0 (c :: rest)
      if startsWithDigit after then readLong negative significand after
      else readRest negative significand after
    else .error .malformed

def readNumber : Reader Number
  | '-' :: rest => readMagnitude true rest
  | text => readMagnitude false text

def hexValue? (c : Char) : Option Nat :=
  if isDigit c then some (c.toNat - '0'.toNat)
  else if 'a' ≤ c ∧ c ≤ 'f' then some (c.toNat - 'a'.toNat + 10)
  else if 'A' ≤ c ∧ c ≤ 'F' then some (c.toNat - 'A'.toNat + 10)
  else none

def byteSize (text : List Char) : Nat :=
  text.foldl (fun size c => size + c.utf8Size) 0

/-- Four hexadecimal digits. Where fewer than four bytes are left, the text ends too early. -/
def readHex : Reader Nat
  | a :: b :: c :: d :: rest =>
    match hexValue? a, hexValue? b, hexValue? c, hexValue? d with
    | some a, some b, some c, some d => .ok (((a * 16 + b) * 16 + c) * 16 + d, rest)
    | _, _, _, _ => .error .malformed
  | short => if byteSize short < 4 then .error .truncated else .error .malformed

def readLowHalf (high : Nat) : Reader Char := fun text => do
  let rest ← expectLetters ['\\', 'u'] text
  let (low, rest) ← readHex rest
  if 0xDC00 ≤ low ∧ low ≤ 0xDFFF then
    return (Char.ofNat (0x10000 + (high - 0xD800) * 0x400 + (low - 0xDC00)), rest)
  else .error .malformed

def readCode : Reader Char := fun text => do
  let (code, rest) ← readHex text
  if 0xDC00 ≤ code ∧ code ≤ 0xDFFF then .error .malformed
  else if 0xD800 ≤ code ∧ code ≤ 0xDBFF then readLowHalf code rest
  else return (Char.ofNat code, rest)

def readEscape : Reader Char
  | [] => .error .truncated
  | c :: rest =>
    if c = '"' || c = '\\' || c = '/' then .ok (c, rest)
    else if c = 'b' then .ok ('\x08', rest)
    else if c = 'f' then .ok ('\x0c', rest)
    else if c = 'n' then .ok ('\n', rest)
    else if c = 'r' then .ok ('\r', rest)
    else if c = 't' then .ok ('\t', rest)
    else if c = 'u' then readCode rest
    else .error .malformed

theorem length_le_of_expectLetters {letters text rest : List Char}
    (h : expectLetters letters text = .ok rest) : rest.length ≤ text.length := by
  fun_induction expectLetters letters text with
  | case1 => simp_all
  | case2 => simp at h
  | case3 _ _ _ ih =>
    have := ih h
    simp
    omega
  | case4 => simp at h

theorem length_lt_of_readHex {text rest : List Char} {n : Nat} (h : readHex text = .ok (n, rest)) :
    rest.length < text.length := by
  unfold readHex at h
  split at h
  · split at h
    · simp at h
      simp [← h.2]
      omega
    · simp at h
  · split at h <;> simp at h

theorem length_lt_of_readLowHalf {text rest : List Char} {high : Nat} {c : Char}
    (h : readLowHalf high text = .ok (c, rest)) : rest.length < text.length := by
  unfold readLowHalf at h
  cases hl : expectLetters ['\\', 'u'] text with
  | error => simp [hl, bind, Except.bind] at h
  | ok middle =>
    cases hh : readHex middle with
    | error => simp [hl, hh, bind, Except.bind] at h
    | ok found =>
      obtain ⟨low, after⟩ := found
      have := length_le_of_expectLetters hl
      have := length_lt_of_readHex hh
      simp only [hl, hh, bind, Except.bind, pure, Except.pure] at h
      split at h
      · simp at h
        rw [← h.2]
        omega
      · simp at h

theorem length_lt_of_readCode {text rest : List Char} {c : Char}
    (h : readCode text = .ok (c, rest)) : rest.length < text.length := by
  unfold readCode at h
  cases hh : readHex text with
  | error => simp [hh, bind, Except.bind] at h
  | ok found =>
    obtain ⟨code, after⟩ := found
    have := length_lt_of_readHex hh
    simp only [hh, bind, Except.bind, pure, Except.pure] at h
    split at h
    · simp at h
    · split at h
      · have := length_lt_of_readLowHalf h
        omega
      · simp at h
        rw [← h.2]
        omega

theorem length_lt_of_readEscape {text rest : List Char} {c : Char}
    (h : readEscape text = .ok (c, rest)) : rest.length < text.length := by
  unfold readEscape at h
  split at h
  · simp at h
  · rename_i letter tail
    have code := @length_lt_of_readCode tail rest c
    repeat' split at h
    all_goals first
      | (have shorter := code h; simp; omega)
      | (simp at h; simp [← h.2])
      | simp at h

def readCharacters (seen : List Char) (text : List Char) : Except Fault (List Char × List Char) :=
  match text with
  | [] => .error .truncated
  | c :: rest =>
    if c = '"' then .ok (seen.reverse, rest)
    else if c = '\\' then
      match h : readEscape rest with
      | .ok (decoded, after) =>
        have := length_lt_of_readEscape h
        readCharacters (decoded :: seen) after
      | .error fault => .error fault
    else if c.toNat < 0x20 then .error .malformed
    else readCharacters (c :: seen) rest
termination_by text.length
decreasing_by all_goals simp_all; try omega

def readText : Reader String := fun text => do
  let (characters, rest) ← readCharacters [] text
  return (String.ofList characters, rest)

/--
The items of an array whose opening bracket has been read. `item` reads one of them and takes it
into the state.
-/
def readItems {σ : Type} (item : σ → Reader σ) : Nat → Bool → σ → Reader σ
  | 0, _, _, _ => .error .truncated
  | rounds + 1, first, state, text =>
    match skipSpace text with
    | [] => .error .truncated
    | c :: rest =>
      if c = ']' then .ok (state, rest)
      else if first then do
        let (state, rest) ← item state (c :: rest)
        readItems item rounds false state rest
      else if c = ',' then
        match skipSpace rest with
        | [] => .error .truncated
        | d :: after =>
          if d = ']' then .error .malformed
          else do
            let (state, rest) ← item state (d :: after)
            readItems item rounds false state rest
      else .error .malformed

def readName : Reader String
  | [] => .error .truncated
  | c :: rest => if c = '"' then readText rest else .error .malformed

def readMembers {σ : Type} (member : σ → String → Reader σ) : Nat → Bool → σ → Reader σ
  | 0, _, _, _ => .error .truncated
  | rounds + 1, first, state, text =>
    match skipSpace text with
    | [] => .error .truncated
    | c :: rest =>
      if c = '\x7d' then .ok (state, rest)
      else if first || c = ',' then do
        let (name, rest) ← readName (if first then c :: rest else skipSpace rest)
        let (state, rest) ← member state name rest
        readMembers member rounds false state rest
      else .error .malformed

def expectColon (text : List Char) : Except Fault (List Char) :=
  match skipSpace text with
  | [] => .error .truncated
  | c :: rest => if c = ':' then .ok rest else .error .malformed

def readScalar : Reader Json
  | [] => .error .truncated
  | c :: rest =>
    if c = 'n' then readWord "null" .null (c :: rest)
    else if c = 't' then readWord "true" (.bool true) (c :: rest)
    else if c = 'f' then readWord "false" (.bool false) (c :: rest)
    else if c = '"' then do
      let (text, rest) ← readText rest
      return (.string text, rest)
    else if c = '-' || isDigit c then do
      let (value, rest) ← readNumber (c :: rest)
      return (.number value, rest)
    else .error .malformed

def readValue (bound : Nat) : Nat → Reader Json
  | levels, text =>
    match skipSpace text with
    | [] => .error .truncated
    | c :: rest =>
      if c = '[' then
        match levels with
        | 0 => .error .malformed
        | levels + 1 => do
          let item (items : List Json) : Reader (List Json) := fun text => do
            let (value, rest) ← readValue bound levels text
            return (value :: items, rest)
          let (items, rest) ← readItems item bound true [] rest
          return (.array items.reverse, rest)
      else if c = '\x7b' then
        match levels with
        | 0 => .error .malformed
        | levels + 1 => do
          let member (members : List (String × Json)) (name : String) :
              Reader (List (String × Json)) := fun text => do
            let text ← expectColon text
            let (value, rest) ← readValue bound levels text
            return ((name, value) :: members, rest)
          let (members, rest) ← readMembers member bound true [] rest
          return (.object members.reverse, rest)
      else readScalar (c :: rest)

def maxLevels : Nat := 127

end DeskScript.Json
