import DepthRules.Str

/-!
# Defects

Data from outside is checked as a whole: the check finds every defect, each with the place it stands
at, and a value with defects is refused with the list of them.
-/

namespace DepthRules

/-- Something wrong at a place, which is a path of keys and indices from the outermost value. -/
structure Defect where
  place : List String
  message : Str
  deriving DecidableEq, Repr

namespace Defect

/-- A defect of a value itself. -/
def here (message : Str) : Defect := ⟨[], message⟩

/-- The same defect seen from a value that holds the faulty one at `key`. -/
def under (key : String) (d : Defect) : Defect := ⟨key :: d.place, d.message⟩

/-- The place with dots between its parts, and the message after a colon. -/
def describe (d : Defect) : Str :=
  let place := ".".intercalate d.place
  if place.isEmpty then d.message else place ++ ": " ++ d.message

/-- All defects, with semicolons between them. -/
def describeAll (ds : List Defect) : Str := ("; " : Str).intercalate (ds.map describe)

/-- What a message starts with that is the wording of another error. -/
def valueError : Str := "Value error, "

/-- The error in encoding the message of a defect, if there is one. What is encoded is the wording
of the error that the message passes on. -/
def encodeError? (d : Defect) : Option EncodeError :=
  Str.encodeError? (d.message.drop valueError.length)

end Defect

/-- The outcome of a check: the checked value, or what is wrong. -/
abbrev Checked (α : Type) := Except (List Defect) α

namespace Checked

/-- The outcome of checking the part of a value at `key`. -/
def within {α : Type} (key : String) : Checked α → Checked α
  | .ok a => .ok a
  | .error ds => .error (ds.map (Defect.under key))

/-- Two outcomes together: the defects of both are kept. -/
def both {α β : Type} : Checked α → Checked β → Checked (α × β)
  | .ok a, .ok b => .ok (a, b)
  | .ok _, .error es => .error es
  | .error ds, .ok _ => .error ds
  | .error ds, .error es => .error (ds ++ es)

/-- A list of outcomes together: the defects of all are kept. -/
def all {α : Type} : List (Checked α) → Checked (List α)
  | [] => .ok []
  | c :: cs =>
      match both c (all cs) with
      | .ok (a, as) => .ok (a :: as)
      | .error ds => .error ds

end Checked

/-- Why a value is refused: it has defects, or the message of one of them cannot be encoded, so that
nothing else is told. -/
inductive Refusal where
  | defects (found : List Defect)
  | encoding (cause : EncodeError)
  deriving DecidableEq, Repr

/-- The outcome of a check that is told. -/
def Checked.told {α : Type} : Checked α → Except Refusal α
  | .ok a => .ok a
  | .error ds =>
      match ds.findSome? Defect.encodeError? with
      | some cause => .error (.encoding cause)
      | none => .error (.defects ds)

end DepthRules
