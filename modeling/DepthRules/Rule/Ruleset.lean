import DepthRules.Entries
import DepthRules.Rule.Declaration

/-!
# Rulesets

A rules file holds named lists of rules. A ruleset may extend another one, which may extend a third;
`resolve` follows these links from a ruleset to the last base and gives all their rules, those of
the last base first.
-/

namespace DepthRules.Rule

/-- A rule of a ruleset: its parts and, if given, the label to show for it. -/
structure Entry where
  kind : Kind
  depth : Int
  tag : Option Str
  label : Option Str
  deriving DecidableEq, Repr

/-- A list of rules, with the name of the ruleset it extends. -/
structure Ruleset where
  base : Option Str
  rules : List Entry
  deriving DecidableEq, Repr

/-- The rulesets of a file, in order. -/
structure RulesFile where
  rulesets : Entries Str Ruleset
  deriving DecidableEq, Repr

/-- The label of a rule: the one given for it, or its text if that is missing or empty. -/
def Entry.labelText (e : Entry) : Str :=
  match e.label with
  | none => spelling e.kind e.depth e.tag
  | some label => Declaration.caption e.kind e.depth e.tag label

/-- The declaration a rule of a ruleset stands for. -/
def Entry.declaration (e : Entry) : Except ReadError Declaration :=
  Declaration.make e.kind e.depth e.tag e.labelText

/-- The declarations of a list of rules, up to the first that is none. -/
def declareAll : List Entry → Except ReadError (List Declaration)
  | [] => .ok []
  | e :: rest => do
      let d ← e.declaration
      let ds ← declareAll rest
      return d :: ds

namespace RulesFile

/-- The names of the rulesets. -/
def names (file : RulesFile) : List Str := file.rulesets.keys

theorem mem_names_of_get? {file : RulesFile} {name : Str} {ruleset : Ruleset}
    (h : file.rulesets.get? name = some ruleset) : name ∈ file.names := by
  simp only [Entries.get?, Option.map_eq_some_iff] at h
  obtain ⟨e, he, _⟩ := h
  have hm := List.mem_of_find?_eq_some he
  have hk : e.1 = name := by simpa using List.find?_some he
  exact List.mem_map.2 ⟨e, hm, hk⟩

/-- The number of names that have not been visited. -/
def unvisited (file : RulesFile) (visited : List Str) : Nat :=
  file.names.countP fun n => decide (n ∉ visited)

theorem countP_lt_of_mem {α : Type} {p q : α → Bool} {x : α} (hp : p x = true) (hq : q x = false)
    (himp : ∀ y, q y = true → p y = true) {xs : List α} (h : x ∈ xs) :
    xs.countP q < xs.countP p := by
  induction xs with
  | nil => simp at h
  | cons y rest ih =>
      have mono : rest.countP q ≤ rest.countP p := List.countP_mono_left fun a _ => himp a
      rcases List.mem_cons.1 h with rfl | h
      · simp [hp, hq]; omega
      · have := ih h
        by_cases hy : q y = true
        · simp [hy, himp y hy, this]
        · by_cases hz : p y = true <;> simp [hy, hz] <;> omega

/-- Visiting a ruleset leaves fewer to visit. -/
theorem unvisited_lt {file : RulesFile} {visited : List Str} {name : Str}
    (hname : name ∈ file.names) (hnew : name ∉ visited) :
    file.unvisited (name :: visited) < file.unvisited visited :=
  countP_lt_of_mem (by simpa using hnew) (by simp) (fun y => by simp) hname

/-- The rulesets from the last base to the one with the given name, where `visited` are those passed
on the way to it, the one that refers to it first. -/
def chainFrom (file : RulesFile) (visited : List Str) (name : Str) :
    Except ReadError (List (Str × Ruleset)) :=
  if _ : name ∈ visited then .error (.circular name)
  else
    match _ : file.rulesets.get? name with
    | none =>
        match visited with
        | [] => .error (.noRuleset name file.names)
        | referrer :: _ => .error (.noBase name referrer)
    | some ruleset =>
        match ruleset.base with
        | none => .ok [(name, ruleset)]
        | some base => (chainFrom file (name :: visited) base).map (· ++ [(name, ruleset)])
  termination_by file.unvisited visited
  decreasing_by exact unvisited_lt (mem_names_of_get? ‹_›) ‹_›

/-- The rulesets that make up the one with the given name, the last base first. -/
def chain (file : RulesFile) (name : Str) : Except ReadError (List (Str × Ruleset)) :=
  file.chainFrom [] name

/-- The declarations of several rulesets; an error names the ruleset it is in. -/
def declareChain : List (Str × Ruleset) → Except ReadError (List Declaration)
  | [] => .ok []
  | (name, ruleset) :: rest =>
      match declareAll ruleset.rules with
      | .error cause => .error (.inRuleset name cause)
      | .ok ds => (declareChain rest).map (ds ++ ·)

/-- The declarations of the ruleset with the given name and of all it extends, the last base
first. -/
def resolve (file : RulesFile) (name : Str) : Except ReadError (List Declaration) := do
  declareChain (← file.chain name)

end RulesFile

end DepthRules.Rule
