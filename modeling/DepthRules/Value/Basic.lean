import DepthRules.Decimal.Double
import DepthRules.Str
import DepthRules.Value.Calendar

/-!
# Values

A `Value` is what a data file holds: scalars, and lists, sets and mappings of values. Texts may have
surrogates in them. The entries of a mapping keep their order. A collection that may occur in
several places, even inside itself, has an identity, by which it is known again; its content is put
together only where it is asked for.
-/

namespace DepthRules

open Decimal

/-- A value of a data file. -/
inductive Value where
  | null
  | bool (b : Bool)
  | int (i : Int)
  | real (x : Double)
  | str (s : Str)
  | bytes (bs : List UInt8)
  | date (d : Value.Date)
  | moment (m : Value.Moment)
  | list (items : List Value)
  | pair (first second : Value)
  | set (items : List Value)
  | dict (entries : List (Value × Value))
  | shared (identity : Nat) (collection : Thunk Value)

namespace Value

/-- The value without its identity. -/
def content : Value → Value
  | .shared _ collection => collection.get
  | v => v

/-- The number a value counts as when it is compared with another: truth counts as one and
falsehood as zero. -/
def number? : Value → Option Double
  | .bool b => some (.ofInt (if b then 1 else 0))
  | .int i => some (.ofInt i)
  | .real x => some x
  | _ => none

/-- Whether two numbers are the same key; so are two values that are no number. -/
def sameNumber : Value → Value → Bool
  | .int i, .int j => i == j
  | a, b =>
      match a.number?, b.number? with
      | some x, some y =>
          match x.toRatio?, y.toRatio? with
          | some (n₁, d₁), some (n₂, d₂) => n₁ * d₂ == n₂ * d₁
          | none, none => x == y
          | _, _ => false
      | _, _ => false

/-- Whether two values are the same key of a mapping. Numbers of different types that are equal are
the same key. -/
def sameKey : Value → Value → Bool
  | .null, .null => true
  | .str s, .str t => s == t
  | .bytes b, .bytes c => b == c
  | .date d, .date e => d == e
  | .moment m, .moment n => m.isSame n
  | .pair a b, .pair c d => sameKey a c && sameKey b d
  | a, b => sameNumber a b

/-- Puts an entry into a mapping: a key that is there keeps its place and its spelling. -/
def insertEntry (entries : List (Value × Value)) (key value : Value) : List (Value × Value) :=
  match entries with
  | [] => [(key, value)]
  | (k, v) :: rest =>
      if sameKey k key then (k, value) :: rest else (k, v) :: insertEntry rest key value

/-- The mapping that entries make up, put in one after the other. -/
def ofEntries (entries : List (Value × Value)) : List (Value × Value) :=
  entries.foldl (fun made e => insertEntry made e.1 e.2) []

/-- The value at a text key. -/
def lookup? (entries : List (Value × Value)) (name : Str) : Option Value :=
  (entries.find? fun entry => match entry.1 with
    | .str s => s == name
    | _ => false).map Prod.snd

end Value

end DepthRules
