import DepthRules.Decimal.Shortest

/-!
# Decimal notation of floating-point values

A value is written with the fewest digits that read back. The point stands among the digits, with a
digit on both sides, while the leading digit is worth at least 10⁻⁴ and less than 10¹⁶; beyond that
the number is written with one digit before the point and a signed exponent of two digits or more.
-/

namespace DepthRules.Decimal

/-- The least power of ten of the leading digit that is written without an exponent. -/
def leastPositional : Int := -4

/-- The first power of ten of the leading digit that is written with an exponent. -/
def firstExponential : Int := 16

/-- The digits without the zeros at their end; the exponent grows by one for each. -/
def stripZeros (digits : List Char) : List Char :=
  match (digits.reverse.dropWhile (· == '0')).reverse with
  | [] => ['0']
  | kept => kept

/-- Writes digits `d₁d₂…` whose first is worth `10 ^ power`. -/
def layout (digits : List Char) (power : Int) : List Char :=
  if leastPositional ≤ power ∧ power < firstExponential then
    if power < 0 then
      '0' :: '.' :: (List.replicate ((-power).toNat - 1) '0' ++ digits)
    else
      let whole := power.toNat + 1
      let padded := digits ++ List.replicate (whole - digits.length) '0'
      let fraction := padded.drop whole
      padded.take whole ++ '.' :: (if fraction.isEmpty then ['0'] else fraction)
  else
    let mantissa := match digits with
      | [] => []
      | [d] => [d]
      | d :: rest => d :: '.' :: rest
    let exponent := digitsOf power.natAbs
    mantissa ++ 'e' :: (if power < 0 then '-' else '+') ::
      (List.replicate (2 - exponent.length) '0' ++ exponent)

/-- The notation of a value. -/
def Double.written : Double → List Char
  | .nan => ['n', 'a', 'n']
  | .infinite negative => if negative then ['-', 'i', 'n', 'f'] else ['i', 'n', 'f']
  | .finite negative m e =>
      let body :=
        if m = 0 then ['0', '.', '0']
        else
          let s := shortest m e
          let digits := digitsOf s.digits
          layout (stripZeros digits) (s.exponent + digits.length - 1)
      if negative then '-' :: body else body

end DepthRules.Decimal
