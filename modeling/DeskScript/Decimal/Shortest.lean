import DeskScript.Decimal.Basic

/-!
The shortest decimal of a double: of the decimals with the fewest digits that read back as the
double, the one nearest to it. Both neighbours of the double on the grid of `n` digits are
tried for `n = 1, 2, …, 17`; if some point of a grid reads back, one of these two does.
-/

namespace DeskScript.Decimal

inductive Tie where
  | up
  | toEven
  deriving DecidableEq, Repr

def floorLog10 (n d : Nat) : Int :=
  let guess : Int := (digitCount n : Int) - digitCount d
  let tooLarge :=
    if 0 ≤ guess then n < d * tenTo guess.toNat else n * tenTo (-guess).toNat < d
  if tooLarge then guess - 1 else guess

def goesUp (tie : Tie) (n d : Nat) : Bool :=
  if 2 * (n % d) = d then
    match tie with
    | .up => true
    | .toEven => n / d % 2 == 1
  else d < 2 * (n % d)

def readsAs (x : Float) (decimal : Decimal) : Bool :=
  decimal.toFloat.toBits == x.toBits

/--
Of the neighbours of `n / d` among the multiples of `10 ^ exponent`, the nearest one that reads
back as `x`.
-/
def onGrid? (tie : Tie) (x : Float) (n d : Nat) (exponent : Int) : Option Decimal :=
  let (n, d) :=
    if 0 ≤ exponent then (n, d * tenTo exponent.toNat) else (n * tenTo (-exponent).toNat, d)
  let below : Decimal := ⟨n / d, exponent⟩
  let above : Decimal := ⟨n / d + 1, exponent⟩
  let (first, second) := if goesUp tie n d then (above, below) else (below, above)
  [first, second].find? (readsAs x)

def fewestFrom (tie : Tie) (x : Float) (n d : Nat) (lead : Int) (count : Nat) :
    Nat → Option Decimal
  | 0 => none
  | fuel + 1 =>
    match onGrid? tie x n d (lead - count + 1) with
    | some decimal => some decimal
    | none => fewestFrom tie x n d lead (count + 1) fuel

def exact (n d : Nat) : Decimal :=
  ⟨n * Nat.pow 5 d.log2, -(d.log2 : Int)⟩

def shortest (tie : Tie) (x : Float) : Decimal :=
  let (n, d) := fraction x
  if n = 0 then ⟨0, 0⟩
  else
    let found := (fewestFrom tie x n d (floorLog10 n d) 1 17).getD (exact n d)
    trim (digitCount found.digits) found

end DeskScript.Decimal
