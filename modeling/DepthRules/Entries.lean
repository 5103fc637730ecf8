/-!
# Mappings in order of insertion

A mapping, usually from texts, whose entries keep the order in which their keys were first put in:
putting a key in again changes its value and not its place.
-/

namespace DepthRules

/-- A mapping, as its entries in order. -/
abbrev Entries (κ α : Type) := List (κ × α)

namespace Entries

variable {κ α : Type} [DecidableEq κ]

/-- Puts an entry in: a key that is there keeps its place and gets the new value. -/
def insert : Entries κ α → κ → α → Entries κ α
  | [], key, value => [(key, value)]
  | (k, v) :: rest, key, value =>
      if k = key then (k, value) :: rest else (k, v) :: insert rest key value

/-- The mapping with the given entries put in one after the other. -/
def ofList (entries : List (κ × α)) : Entries κ α :=
  entries.foldl (fun made e => insert made e.1 e.2) []

/-- The value at a key. -/
def get? (entries : Entries κ α) (key : κ) : Option α :=
  (entries.find? fun e => e.1 = key).map Prod.snd

/-- Whether there is an entry with the key. -/
def has (entries : Entries κ α) (key : κ) : Bool := entries.any fun e => e.1 = key

/-- The keys in order. -/
def keys (entries : Entries κ α) : List κ := entries.map Prod.fst

@[simp] theorem get?_nil (key : κ) : get? ([] : Entries κ α) key = none := rfl

theorem get?_cons (k : κ) (v : α) (rest : Entries κ α) (key : κ) :
    get? ((k, v) :: rest) key = if k = key then some v else get? rest key := by
  by_cases h : k = key <;> simp [get?, h]

/-- Reading after putting in: the new value at the key, the old values at all others. -/
theorem get?_insert (entries : Entries κ α) (key other : κ) (value : α) :
    get? (insert entries key value) other =
      if key = other then some value else get? entries other := by
  induction entries with
  | nil => simp [insert, get?_cons]
  | cons e rest ih =>
      obtain ⟨k, v⟩ := e
      by_cases hk : k = key
      · subst hk
        by_cases ho : k = other <;> simp [insert, get?_cons, ho]
      · by_cases ho : k = other
        · subst ho
          have : ¬ key = k := fun h => hk h.symm
          simp [insert, get?_cons, hk, this]
        · simp [insert, get?_cons, hk, ho, ih]

end Entries

end DepthRules
