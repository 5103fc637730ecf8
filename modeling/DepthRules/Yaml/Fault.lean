import DepthRules.Text.Utf8
import DepthRules.Value.Written

/-!
# Documents that cannot be read

A document is no text, or malformed, or one of its scalars is no value of the type it is given.
-/

namespace DepthRules.Yaml

/-- Why a document cannot be read. It is `unfinished` where its text breaks off before a token can
be told. -/
inductive Fault where
  | malformed
  | unfinished
  | encoding (cause : Text.Utf8Error)
  | codePoint (code : Nat)
  | noInteger (base : Nat) (shown : String)
  | longInteger (digits : Nat)
  | noReal (shown : String)
  | hugePlace
  | noDigits
  | noTruth (shown : String)
  | noMoment
  | momentOfMapping
  | calendar (cause : Value.CalendarError)
  deriving DecidableEq, Repr

/-- The wording of a fault. -/
def Fault.message : Fault → String
  | .malformed => "malformed document"
  | .unfinished => "malformed document"
  | .encoding cause => cause.message
  | .codePoint code =>
      if code < Nat.pow 2 31 then "chr() arg not in range(0x110000)"
      else "Python int too large to convert to C int"
  | .noInteger base shown =>
      "invalid literal for int() with base " ++ toString base ++ ": " ++ shown
  | .longInteger digits =>
      "Exceeds the limit (4300 digits) for integer string conversion: value has " ++
        toString digits ++ " digits; use sys.set_int_max_str_digits() to increase the limit"
  | .noReal shown => "could not convert string to float: " ++ shown
  | .hugePlace => "int too large to convert to float"
  | .noDigits => "string index out of range"
  | .noTruth shown => shown
  | .noMoment => "'NoneType' object has no attribute 'groupdict'"
  | .momentOfMapping => "expected string or bytes-like object, got 'list'"
  | .calendar cause => cause.message

end DepthRules.Yaml
