import DeskScript.Decimal.Basic
import DeskScript.Text.Case

/-!
Numbers read from text. An integer is an optional sign and digits. A double is an optional sign
and then `inf`, `infinity` or `nan` in any case, or digits with an optional point and an optional
power of ten; it is the double nearest to what is written.
-/

namespace DeskScript.Decimal

open Text (isDigit)

def digitValue (c : Char) : Nat :=
  c.toNat - '0'.toNat

def valueOf (digits : List Char) : Nat :=
  digits.foldl (fun value c => 10 * value + digitValue c) 0

def splitSign : List Char → Bool × List Char
  | '-' :: rest => (true, rest)
  | '+' :: rest => (false, rest)
  | text => (false, text)

def readNat? (text : List Char) : Option Nat :=
  if !text.isEmpty && text.all isDigit then some (valueOf text) else none

def readInt? (text : String) : Option Int :=
  let (negative, digits) := splitSign text.toList
  (readNat? digits).map fun n => if negative then -(n : Int) else n

def toInt64? (n : Int) : Option Int64 :=
  if -0x8000000000000000 ≤ n ∧ n < 0x8000000000000000 then some (Int64.ofInt n) else none

def readExponent? : List Char → Option Int
  | [] => some 0
  | c :: rest =>
    if c = 'e' || c = 'E' then
      let (negative, digits) := splitSign rest
      (readNat? digits).map fun n => if negative then -(n : Int) else n
    else none

def readDecimal? (text : List Char) : Option Decimal :=
  let whole := text.takeWhile isDigit
  let (places, rest) :=
    match text.dropWhile isDigit with
    | '.' :: tail => (tail.takeWhile isDigit, tail.dropWhile isDigit)
    | tail => ([], tail)
  if whole.isEmpty && places.isEmpty then none
  else (readExponent? rest).map fun e => ⟨valueOf (whole ++ places), e - places.length⟩

def readMagnitude? (text : List Char) : Option Float :=
  let word := Text.upper (String.ofList text)
  if word == "INF" || word == "INFINITY" then some infinity
  else if word == "NAN" then some (0.0 / 0.0)
  else (readDecimal? text).map toFloat

def readFloat? (text : String) : Option Float :=
  let (negative, rest) := splitSign text.toList
  (readMagnitude? rest).map fun x => if negative then -x else x

end DeskScript.Decimal
