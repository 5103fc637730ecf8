import DepthRules.Decimal.Double
import DepthRules.Entries
import DepthRules.Value.Basic

/-!
# JSON values

The members of an object keep their order; whole numbers and numbers with a point or an exponent are
told apart.
-/

namespace DepthRules

/-- A JSON value. -/
inductive Json where
  | null
  | bool (b : Bool)
  | int (i : Int)
  | real (x : Decimal.Double)
  | str (s : Str)
  | arr (items : List Json)
  | obj (members : List (Str × Json))

namespace Json

/-- The member of an object with a name; null if there is none. -/
def member : Json → Str → Json
  | .obj members, name => (Entries.get? members name).getD .null
  | _, _ => .null

/-- Whether a value is an object with a member of that name. -/
def hasMember : Json → Str → Bool
  | .obj members, name => Entries.has members name
  | _, _ => false

/-- The items of an array; none for any other value. -/
def items : Json → List Json
  | .arr items => items
  | _ => []

/-- The members of an object; none for any other value. -/
def members : Json → Entries Str Json
  | .obj members => members
  | _ => []

/-- The text a value is, if it is one. -/
def text? : Json → Option Str
  | .str s => some s
  | _ => none

/-- The integer a value is, if it is one. -/
def integer? : Json → Option Int
  | .int i => some i
  | _ => none

/-- The truth value a value is, if it is one. -/
def bool? : Json → Option Bool
  | .bool b => some b
  | _ => none

mutual

/-- A JSON value as a value of a data file. -/
def toValue : Json → Value
  | .null => .null
  | .bool b => .bool b
  | .int i => .int i
  | .real x => .real x
  | .str s => .str s
  | .arr items => .list (toValues items)
  | .obj members => .dict (toEntries members)

/-- The items of an array as values. -/
def toValues : List Json → List Value
  | [] => []
  | j :: rest => j.toValue :: toValues rest

/-- The members of an object as entries with text keys. -/
def toEntries : List (Str × Json) → List (Value × Value)
  | [] => []
  | (name, j) :: rest => (.str name, j.toValue) :: toEntries rest

end

end Json

end DepthRules
