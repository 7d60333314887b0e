import DeskScript.Decimal.Nearest

/-!
Decimals: a number `digits · 10 ^ exponent`, its digits as text, and the double nearest to it.
-/

namespace DeskScript

structure Decimal where
  digits : Nat
  exponent : Int
  deriving DecidableEq, Repr

namespace Decimal

def digitCount (n : Nat) : Nat :=
  (Nat.toDigits 10 n).length

/--
The double nearest to a decimal. Beyond these exponents the answer is infinity or zero, whatever
the digits are.
-/
def toFloat (d : Decimal) : Float :=
  let size := (digitCount d.digits : Int) + d.exponent
  if d.digits = 0 || size < -330 then nearest 0 1
  else if 320 < size then infinity
  else if 0 ≤ d.exponent then nearest (d.digits * tenTo d.exponent.toNat) 1
  else nearest d.digits (tenTo (-d.exponent).toNat)

def trim (fuel : Nat) (d : Decimal) : Decimal :=
  match fuel with
  | 0 => d
  | fuel + 1 =>
    if d.digits = 0 then ⟨0, 0⟩
    else if d.digits % 10 = 0 then trim fuel ⟨d.digits / 10, d.exponent + 1⟩
    else d

def plain (d : Decimal) : List Char :=
  let digits := Nat.toDigits 10 d.digits
  if 0 ≤ d.exponent then digits ++ List.replicate d.exponent.toNat '0'
  else
    let places := (-d.exponent).toNat
    let padded := List.replicate (places + 1 - digits.length) '0' ++ digits
    let whole := padded.length - places
    padded.take whole ++ '.' :: padded.drop whole

end Decimal

end DeskScript
