import DepthRules.Decimal.Double

/-!
# The fewest digits that read back

A positive value of the 64-bit format is the nearest one to every number in an interval around it.
`shortest` looks for the decimal in that interval with the fewest digits: on the grid of decimals
with one digit, two digits, and so on up to seventeen, it tests the two neighbours of the value,
and the first grid with a hit wins, the nearer neighbour if both hit.
-/

namespace DepthRules.Decimal

/-- A decimal number `digits · 10 ^ exponent`. -/
structure Scientific where
  digits : Nat
  exponent : Int
  deriving DecidableEq, Repr

/-- The decimal digits of a number, most significant first. -/
def digitsOf (n : Nat) : List Char := Nat.toDigits 10 n

/-- The interval of numbers that read back as `m · 2 ^ e`, in units of `2 ^ (e - 2)`: the value is
in the middle, the ends belong to it for an even mantissa, and the lower half is half as wide where
the mantissa is the least one of its exponent. -/
structure Interval where
  low : Nat
  value : Nat
  high : Nat
  closed : Bool

/-- The interval of a positive value. -/
def Interval.around (m : Nat) (e : Int) : Interval where
  low := if m = Nat.pow 2 52 ∧ leastExponent < e then 4 * m - 1 else 4 * m - 2
  value := 4 * m
  high := 4 * m + 2
  closed := m % 2 == 0

/-- Whether `d · 10 ^ k` lies in an interval with unit `2 ^ (e - 2)`. -/
def Interval.contains (i : Interval) (e : Int) (d : Nat) (k : Int) : Bool :=
  let (n, den) := scaleBinary (if 0 ≤ k then d * Nat.pow 10 k.toNat else d)
    (if 0 ≤ k then 1 else Nat.pow 10 (-k).toNat) (2 - e)
  if i.closed then i.low * den ≤ n && n ≤ i.high * den else i.low * den < n && n < i.high * den

/-- The quotient of the value by `10 ^ k`, as a fraction. -/
def overPower (m : Nat) (e k : Int) : Nat × Nat :=
  let (n, d) := scaleBinary m 1 e
  if 0 ≤ k then (n, d * Nat.pow 10 k.toNat) else (n * Nat.pow 10 (-k).toNat, d)

/-- The power of ten of the leading digit of `m · 2 ^ e`. -/
def leadingPower (m : Nat) (e : Int) : Int :=
  let (n, d) := scaleBinary m 1 e
  if d ≤ n then ((digitsOf (n / d)).length : Int) - 1
  else
    let missing := (digitsOf (d / n)).length
    if d ≤ n * Nat.pow 10 (missing - 1) then -((missing : Int) - 1) else -(missing : Int)

/-- The decimal with `count` digits that reads back as `m · 2 ^ e`, if there is one; of two, the
nearer, and of two equally near the even one. -/
def onGrid? (m : Nat) (e : Int) (count : Nat) : Option Scientific :=
  let k := leadingPower m e - (count : Int) + 1
  let (n, d) := overPower m e k
  let below := n / d
  let interval := Interval.around m e
  let hitsBelow := interval.contains e below k
  let hitsAbove := interval.contains e (below + 1) k
  if hitsBelow && hitsAbove then some ⟨roundHalfEven n d, k⟩
  else if hitsBelow then some ⟨below, k⟩
  else if hitsAbove then some ⟨below + 1, k⟩
  else none

/-- The decimal with the fewest digits that reads back as `m · 2 ^ e`, for a positive `m`. -/
def shortest (m : Nat) (e : Int) : Scientific :=
  ((List.range 17).findSome? fun i => onGrid? m e (i + 1)).getD ⟨0, 0⟩

end DepthRules.Decimal
