/-!
# Binary floating-point values

A `Double` is a value of the 64-bit binary format, held exactly: a sign, a whole mantissa below
2⁵³ and a power of two, or one of the special values. `ofRatio` rounds a fraction to the nearest
such value, ties to the even mantissa, and every operation here is an exact one followed by that
rounding.
-/

namespace DepthRules.Decimal

/-- A value of the 64-bit format; `finite` stands for `± mantissa · 2 ^ exponent`. -/
inductive Double where
  | finite (negative : Bool) (mantissa : Nat) (exponent : Int)
  | infinite (negative : Bool)
  | nan
  deriving DecidableEq, Repr

/-- The least exponent of the format. -/
def leastExponent : Int := -1074

/-- The greatest exponent of the format. -/
def greatestExponent : Int := 971

/-- The whole number nearest to `num / den`, the even one of two. -/
def roundHalfEven (num den : Nat) : Nat :=
  let q := num / den
  let r := num % den
  if 2 * r < den then q else if den < 2 * r then q + 1 else q + q % 2

/-- Scales the fraction `num / den` by `2 ^ shift`. -/
def scaleBinary (num den : Nat) (shift : Int) : Nat × Nat :=
  if 0 ≤ shift then (num * Nat.pow 2 shift.toNat, den) else (num, den * Nat.pow 2 (-shift).toNat)

/-- The exponent at which `num / den` has a mantissa of 53 binary digits, or the least exponent. -/
def exponentFor (num den : Nat) : Int :=
  let guess : Int := (Nat.log2 num : Int) - (Nat.log2 den : Int) - 52
  let (n, d) := scaleBinary num den (-guess)
  max leastExponent (if n / d < Nat.pow 2 52 then guess - 1 else guess)

namespace Double

/-- The value nearest to `± num / den`, for a positive `den`. -/
def ofRatio (negative : Bool) (num den : Nat) : Double :=
  if num = 0 then .finite negative 0 leastExponent
  else
    let e := exponentFor num den
    let (n, d) := scaleBinary num den (-e)
    let m := roundHalfEven n d
    let (m, e) := if m = Nat.pow 2 53 then (Nat.pow 2 52, e + 1) else (m, e)
    if greatestExponent < e then .infinite negative else .finite negative m e

/-- The value nearest to `± digits · 10 ^ exponent`. A number whose logarithm is beyond four hundred
on either side is infinite or zero, whatever its digits. -/
def ofDecimal (negative : Bool) (digits : Nat) (exponent : Int) : Double :=
  let size : Int := (Nat.log2 digits : Int) * 30103 / 100000 + exponent
  if digits = 0 || size < -400 then ofRatio negative 0 1
  else if 400 < size then .infinite negative
  else if 0 ≤ exponent then ofRatio negative (digits * Nat.pow 10 exponent.toNat) 1
  else ofRatio negative digits (Nat.pow 10 (-exponent).toNat)

/-- The value nearest to an integer. -/
def ofInt (i : Int) : Double := ofRatio (i < 0) i.natAbs 1

/-- A finite value as a signed fraction. -/
def toRatio? : Double → Option (Int × Nat)
  | .finite negative m e =>
      let (n, d) := scaleBinary m 1 e
      some (if negative then -(n : Int) else n, d)
  | _ => none

/-- Whether the sign is set. -/
def isNegative : Double → Bool
  | .finite negative _ _ => negative
  | .infinite negative => negative
  | .nan => false

/-- The same value with the other sign. -/
def negate : Double → Double
  | .finite negative m e => .finite (!negative) m e
  | .infinite negative => .infinite (!negative)
  | .nan => .nan

/-- The sum, rounded once. A sum of zeros is negative only if both are. -/
def add (x y : Double) : Double :=
  match x.toRatio?, y.toRatio? with
  | some (n₁, d₁), some (n₂, d₂) =>
      let n := n₁ * d₂ + n₂ * d₁
      if n = 0 then .finite (x.isNegative && y.isNegative) 0 leastExponent
      else ofRatio (n < 0) n.natAbs (d₁ * d₂)
  | some _, none => y
  | none, some _ => x
  | none, none => if x = y then x else .nan

/-- The product with a natural number other than zero, rounded once. -/
def scale (x : Double) (k : Nat) : Double :=
  match x.toRatio? with
  | some (n, d) => ofRatio x.isNegative (n.natAbs * k) d
  | none => x

/-- The integer a value is equal to, if there is one. -/
def toInt? (x : Double) : Option Int :=
  match x.toRatio? with
  | some (n, d) => if n % d = 0 then some (n / d) else none
  | none => none

end Double

end DepthRules.Decimal
