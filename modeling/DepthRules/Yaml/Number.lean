import DepthRules.Decimal.Double
import DepthRules.Text.Integer
import DepthRules.Text.Lowercase
import DepthRules.Text.Split
import DepthRules.Yaml.Content
import DepthRules.Yaml.Fault

/-!
# Numbers

Whole numbers are written in base ten, two, eight or sixteen, or in base sixty with colons between
the places; numbers with a point likewise in base ten or sixty. Underscores among the digits do not
count.
-/

namespace DepthRules.Yaml

open Text Decimal

/-- Whether a character is an optional sign's. -/
def isSign (c : Char) : Bool := c == '-' || c == '+'

/-- The text without its sign, and whether that is a minus. -/
def splitSign : List Char → Bool × List Char
  | c :: rest => if isSign c then (c == '-', rest) else (false, c :: rest)
  | [] => (false, [])

/-- The letter that may stand after a zero before digits in a base. -/
def baseLetter (base : Nat) : Char := if base = 2 then 'b' else if base = 8 then 'o' else 'x'

/-- The value of a digit in any base up to sixteen; digits of other scripts count as well. -/
def digitIn? (base : Nat) (c : Char) : Option Nat :=
  match (decimalValue? c).or (hexValue? c) with
  | some d => if d < base then some d else none
  | none => none

/-- Digits without the zero and letter that tell their base. -/
def dropBase (base : Nat) (cs : List Char) : List Char :=
  match cs with
  | '0' :: c :: rest => if lowerChar c = [baseLetter base] then rest else cs
  | _ => cs

/-- What is shown of a text that is no integer. -/
def shownInteger (cs : List Char) : String := String.ofList ((quoted cs).take 200)

/-- The integer a text writes in a base that is a power of two; its base may be told once more. -/
def binaryInteger (base : Nat) (cs : List Char) : Except Fault Int :=
  let (negative, digits) := splitSign (trim cs)
  let digits := dropBase base digits
  match digits.mapM (digitIn? base) with
  | some (d :: ds) =>
      let n : Nat := (d :: ds).foldl (fun n d => base * n + d) 0
      .ok (if negative then -(n : Int) else n)
  | _ => .error (.noInteger base (shownInteger cs))

/-- The integer a text writes in base ten. -/
def decimalInteger (cs : List Char) : Except Fault Int :=
  match integerLiteral? cs with
  | some i => .ok i
  | none =>
      let digits := ((splitSign (trim cs)).2.takeWhile fun c => (decimalValue? c).isSome).length
      if maxDigits < digits then .error (.longInteger digits)
      else .error (.noInteger 10 (shownInteger cs))

/-- The number whose places in base sixty are given, the least first. -/
def sexagesimal : List Int → Int
  | [] => 0
  | place :: rest => place + 60 * sexagesimal rest

/-- The integer a text without underscores and sign writes. -/
def unsignedInteger (cs : List Char) : Except Fault Int :=
  match cs with
  | [] => .error .noDigits
  | ['0'] => .ok 0
  | '0' :: 'b' :: rest => binaryInteger 2 rest
  | '0' :: 'x' :: rest => binaryInteger 16 rest
  | '0' :: rest => binaryInteger 8 ('0' :: rest)
  | cs =>
      if cs.contains ':' then do
        return sexagesimal (← (splitAll ':' cs).mapM decimalInteger).reverse
      else decimalInteger cs

/-- The integer a text writes. -/
def integer (cs : List Char) : Except Fault Int := do
  let (negative, digits) := splitSign (cs.filter (· != '_'))
  let i ← unsignedInteger digits
  return if negative then -i else i

/-- What is shown of a text that is no number. -/
def shownReal (cs : List Char) : String := String.ofList (quoted cs)

/-- Digits as those of ASCII, and blanks dropped at both ends. -/
def asciiDigits (cs : List Char) : List Char :=
  (trim cs).map fun c => match decimalValue? c with
    | some d => Char.ofNat ('0'.toNat + d)
    | none => c

/-- The exponent that a text is, after the letter e. -/
def exponent? (cs : List Char) : Option Int :=
  match cs with
  | [] => some 0
  | c :: rest =>
      if c == 'e' || c == 'E' then
        let (negative, digits) := splitSign rest
        if digits.isEmpty || !digits.all Char.isDigit then none
        else
          let n : Int := ofDigits (digits.map fun c => c.toNat - '0'.toNat)
          some (if negative then -n else n)
      else none

/-- The number that ASCII digits, a point and an exponent write. -/
def decimalReal? (negative : Bool) (cs : List Char) : Option Double := do
  let (whole, rest) := (cs.takeWhile Char.isDigit, cs.dropWhile Char.isDigit)
  let (fraction, rest) := match rest with
    | '.' :: rest => (rest.takeWhile Char.isDigit, rest.dropWhile Char.isDigit)
    | rest => ([], rest)
  let exponent ← exponent? rest
  if whole.isEmpty && fraction.isEmpty then none
  else
    let digits := ofDigits ((whole ++ fraction).map fun c => c.toNat - '0'.toNat)
    return .ofDecimal negative digits (exponent - fraction.length)

/-- The number a text writes, which may also be a word for infinity or for no number. -/
def realLiteral? (cs : List Char) : Option Double :=
  let (negative, body) := splitSign (asciiDigits cs)
  match String.ofList (lowercase body) with
  | "inf" => some (.infinite negative)
  | "infinity" => some (.infinite negative)
  | "nan" => some .nan
  | _ => decimalReal? negative body

/-- The number a text writes. -/
def decimalReal (cs : List Char) : Except Fault Double :=
  match realLiteral? cs with
  | some x => .ok x
  | none => .error (.noReal (shownReal cs))

/-- The sum of the places of a number in base sixty, the least first, where `base` is the worth of
the first one; every product and every sum is rounded. -/
def addPlaces : Nat → Double → List Double → Except Fault Double
  | _, sum, [] => .ok sum
  | base, sum, place :: rest =>
      match (Double.ofInt base).toInt? with
      | none => .error .hugePlace
      | some worth => addPlaces (60 * base) (sum.add (place.scale worth.toNat)) rest

/-- The number a text in lower case without underscores and sign writes. -/
def unsignedReal (cs : List Char) : Except Fault Double :=
  match cs with
  | ['.', 'i', 'n', 'f'] => .ok (.infinite false)
  | ['.', 'n', 'a', 'n'] => .ok .nan
  | cs =>
      if cs.contains ':' then do
        addPlaces 1 (.ofRatio false 0 1) (← (splitAll ':' cs).mapM decimalReal).reverse
      else decimalReal cs

/-- The number a text writes. -/
def real (cs : List Char) : Except Fault Double := do
  let cs := lowercase (cs.filter (· != '_'))
  if cs.isEmpty then throw .noDigits
  let (negative, digits) := splitSign cs
  let x ← unsignedReal digits
  return if negative then x.negate else x

end DepthRules.Yaml
