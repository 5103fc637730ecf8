import DepthRules.Check.Number
import DepthRules.Defect
import DepthRules.Entries
import DepthRules.Text.Lowercase
import DepthRules.Text.Utf8
import DepthRules.Value.Written

/-!
# Checking values field by field

The checks of data from outside: text, whole numbers, truth values, lists and mappings with given
fields. Each either gives the checked value or all its defects. Where a value of another type can
only mean one thing, such as a number given as text, it is accepted.
-/

namespace DepthRules.Check

open Text Decimal

/-- A single defect of the value itself. -/
def refuse {α : Type} (message : Str) : Checked α := .error [.here message]

/-- What is said of bytes that are no text, and of a text that has to be made of characters and is
not. -/
def notUnicode : String :=
  "Input should be a valid string, unable to parse raw data as a unicode string"

/-- A text; bytes count as the text they write. -/
def text (v : Value) : Checked Str :=
  match v.content with
  | .str s => .ok s
  | .bytes bs =>
      match decodeUtf8 bs with
      | .ok cs => .ok (Str.ofChars cs)
      | .error _ => refuse notUnicode
  | _ => refuse "Input should be a valid string"

/-- A text or nothing. -/
def textOrNull (v : Value) : Checked (Option Str) :=
  match v.content with
  | .null => .ok none
  | v => (text v).map some

/-- A text as the name of a file, which has to be made of characters; names of files with anything
else in them are left out. -/
def fileName (s : Str) : Checked String :=
  match s.string? with
  | some name => .ok name
  | none => refuse notUnicode

/-- What is said of a number with too many digits. -/
def numberTooLong : String := "Unable to parse input string as an integer, exceeded maximum size"

/-- The whole number a text stands for. -/
def wholeNumberOfText (cs : List Char) : Checked Int :=
  match wholeNumberOf cs with
  | .ok i => .ok i
  | .error .tooLong => refuse numberTooLong
  | .error .notWhole =>
      refuse "Input should be a valid integer, unable to parse string as an integer"

/-- The first whole number in size that a value with a point cannot stand for. -/
def wholeLimit : Int := Nat.pow 2 63

/-- A whole number; truth counts as one, falsehood as zero. -/
def wholeNumber (v : Value) : Checked Int :=
  match v.content with
  | .int i => .ok i
  | .bool b => .ok (if b then 1 else 0)
  | .str s =>
      match s.chars? with
      | some cs => wholeNumberOfText cs
      | none => refuse notUnicode
  | .real x =>
      match x with
      | .finite _ _ _ =>
          match x.toInt? with
          | none => refuse "Input should be a valid integer, got a number with a fractional part"
          | some i => if -wholeLimit < i ∧ i < wholeLimit then .ok i else refuse numberTooLong
      | _ => refuse "Input should be a finite number"
  | _ => refuse "Input should be a valid integer"

/-- A whole number that is at least `least`. -/
def atLeast (least : Int) (v : Value) : Checked { i : Int // least ≤ i } := do
  let i ← wholeNumber v
  if h : least ≤ i then .ok ⟨i, h⟩
  else refuse ("Input should be greater than or equal to " ++ toString least)

/-- Words for truth and for falsehood. -/
def truthWords : List (String × Bool) :=
  [("true", true), ("t", true), ("yes", true), ("y", true), ("on", true), ("1", true),
    ("false", false), ("f", false), ("no", false), ("n", false), ("off", false), ("0", false)]

/-- What is said of a value that is no truth value, but of a type that could be one. -/
def unclearTruth : String := "Input should be a valid boolean, unable to interpret input"

/-- What is said of a value of a type that has no truth values. -/
def notTruth : String := "Input should be a valid boolean"

/-- Truth for one and falsehood for zero; numbers beyond the limits are not of the right type. -/
def truthOfNumber (i : Int) : Checked Bool :=
  if i = 0 then .ok false
  else if i = 1 then .ok true
  else if -wholeLimit ≤ i ∧ i < wholeLimit then refuse unclearTruth
  else refuse notTruth

/-- A truth value, or a number or word for one. -/
def truth (v : Value) : Checked Bool :=
  match v.content with
  | .bool b => .ok b
  | .int i => truthOfNumber i
  | .real x =>
      match x.toInt? with
      | some i => truthOfNumber i
      | none => refuse notTruth
  | .str s =>
      if ¬ s.IsChars then refuse notUnicode
      else
        match truthWords.find? fun w => w.1 == lower s with
        | some (_, b) => .ok b
        | none => refuse unclearTruth
  | _ => refuse notTruth

/-- The items of a list, from the one with the given position on, each checked. -/
def itemsFrom {α : Type} (check : Value → Checked α) : Nat → List Value → List (Checked α)
  | _, [] => []
  | position, v :: rest =>
      Checked.within (toString position) (check v) :: itemsFrom check (position + 1) rest

/-- The items of a value that holds items in order. -/
def items? (v : Value) : Option (List Value) :=
  match v.content with
  | .list items => some items
  | .set items => some items
  | .pair a b => some [a, b]
  | _ => none

/-- A list, each item of it checked. -/
def list {α : Type} (check : Value → Checked α) (v : Value) : Checked (List α) :=
  match items? v with
  | some items => Checked.all (itemsFrom check 0 items)
  | none => refuse "Input should be a valid list"

/-- A mapping whose fields make up a value of the kind with the given name. -/
def fieldsOf (kind : String) (v : Value) : Checked (List (Value × Value)) :=
  match v.content with
  | .dict entries => .ok entries
  | _ => refuse ("Input should be a valid dictionary or instance of " ++ kind)

/-- A field that must be there. -/
def required {α : Type} (entries : List (Value × Value)) (name : String)
    (check : Value → Checked α) : Checked α :=
  Checked.within name <|
    match Value.lookup? entries name with
    | some v => check v
    | none => refuse "Field required"

/-- A field that may be missing, in which case `missing` stands for it. -/
def optional {α : Type} (entries : List (Value × Value)) (name : String) (missing : α)
    (check : Value → Checked α) : Checked α :=
  match Value.lookup? entries name with
  | some v => Checked.within name (check v)
  | none => .ok missing

/-- How a key is written in the place of a defect. -/
def keyPlace (key : Value) : String :=
  match key with
  | .str s => s.lossy
  | .bool b => if b then "1" else "0"
  | .int i => (Value.writtenInt? i).elim "<unprintable int object>" String.ofList
  | v => String.ofList (v.written?.getD [])

/-- A mapping from texts, each value of it checked. -/
def mapping {α : Type} (check : Value → Checked α) (v : Value) : Checked (Entries Str α) :=
  match v.content with
  | .dict entries =>
      (Checked.all (entries.map fun (k, v) =>
        Checked.within (keyPlace k) (Checked.both (Checked.within "[key]" (text k)) (check v)))).map
          Entries.ofList
  | _ => refuse "Input should be a valid dictionary"

end DepthRules.Check
