import DepthRules.Engine.Basic

/-!
# Recording what a run does

A recorder keeps the calls and the deepest level read. Its handlers may be set to fail: the rule
with a failing call given fails at that call, counted over all runs of the recorder.
-/

namespace DepthRules

/-- The record of the runs so far: the calls of this run and the deepest level read in it, last call
first, and how often each rule has been called in all runs. -/
structure Record where
  calls : List Call
  deepestRead : Option Nat
  counts : List Nat

namespace Record

/-- The record before the first run of a number of rules. -/
def empty (rules : Nat) : Record := ⟨[], none, List.replicate rules 0⟩

/-- The record at the start of a further run. -/
def restart (r : Record) : Record := { r with calls := [], deepestRead := none }

/-- The greater of a level and the deepest level before it. -/
def deeper (level : Nat) : Option Nat → Nat
  | none => level
  | some other => max level other

/-- Records an event. `failing` gives for each rule the call at which its handler fails, which it
does after the call is recorded. -/
def note (failing : List (Option Nat)) : Listener Record Unit
  | .read place _, r => ({ r with deepestRead := some (deeper place.level r.deepestRead) }, none)
  | .call call, r =>
      let count := r.counts.getD call.rule 0 + 1
      ({ r with calls := call :: r.calls, counts := r.counts.set call.rule count },
        if failing.getD call.rule none = some count then some () else none)

end Record

end DepthRules
