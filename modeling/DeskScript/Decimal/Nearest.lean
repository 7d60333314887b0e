/-!
Rounding to double precision. A double is `m · 2 ^ q` with `m < 2 ^ 53` and `-1074 ≤ q`, and its
bit pattern without the sign is `(q + 1074) · 2 ^ 52 + m`; the patterns of neighbouring doubles
are neighbouring numbers, so one formula serves normal and subnormal values alike.
-/

namespace DeskScript.Decimal

def twoTo (n : Nat) : Nat :=
  Nat.pow 2 n

def tenTo (n : Nat) : Nat :=
  Nat.pow 10 n

def roundDiv (n d : Nat) : Nat :=
  if 2 * (n % d) < d then n / d
  else if d < 2 * (n % d) then n / d + 1
  else n / d + n / d % 2

def floorLog2 (n d : Nat) : Int :=
  let guess : Int := n.log2 - d.log2
  let tooLarge :=
    if 0 ≤ guess then n < d * twoTo guess.toNat else n * twoTo (-guess).toNat < d
  if tooLarge then guess - 1 else guess

def hiddenBit : Nat := 0x10000000000000

def infinityBits : Nat := 0x7FF0000000000000

/-- The bit pattern of the double nearest to `n / d`, a tie going to the even pattern. -/
def nearestBits (n d : Nat) : Nat :=
  if n = 0 then 0
  else
    let q : Int := max (floorLog2 n d - 52) (-1074)
    let m :=
      if 0 ≤ q then roundDiv n (d * twoTo q.toNat) else roundDiv (n * twoTo (-q).toNat) d
    min infinityBits ((q + 1074).toNat * hiddenBit + m)

def nearest (n d : Nat) : Float :=
  Float.ofBits (UInt64.ofNat (nearestBits n d))

def infinity : Float :=
  Float.ofBits (UInt64.ofNat infinityBits)

def unpack (bits : Nat) : Nat × Int :=
  let field : Nat := bits / hiddenBit
  let fraction : Nat := bits % hiddenBit
  if field = 0 then (fraction, -1074) else (hiddenBit + fraction, (field : Int) - 1075)

def magnitudeBits (x : Float) : Nat :=
  x.toBits.toNat % 0x8000000000000000

def isNegative (x : Float) : Bool :=
  0x8000000000000000 ≤ x.toBits.toNat

def fraction (x : Float) : Nat × Nat :=
  let (m, q) := unpack (magnitudeBits x)
  if 0 ≤ q then (m * twoTo q.toNat, 1) else (m, twoTo (-q).toNat)

end DeskScript.Decimal
