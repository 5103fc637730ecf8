import DepthRules.Proofs.Engine.Failure
import Mathlib.Data.List.Perm.Basic

/-!
# Rules do not bear on each other

A further rule may lead an engine deeper into a tree, and rules in another order are tried in
another order. `Engine.rules_independent` says that neither changes the calls of any rule. Of the
calls of an engine those of some of its rules are the calls of an engine that has these rules alone,
in the same order. With the rules in another order the calls go from node to node in the same way,
and at each node they are the same calls.

Two lists of rules are compared by numbers: `Rule.Picks` says which number a rule of the one list
has in the other, and `Call.renumber` gives a call that number.
-/

namespace DepthRules

/-- The call with the number that its rule has in another list. -/
def Call.renumber (numbers : List Nat) (c : Call) : Call :=
  { c with rule := numbers.getD c.rule 0 }

namespace Rule

/-- `part` are the rules that have the given numbers in `rules`, in the order of `numbers`. With
increasing numbers it is a part of `rules`, and with all numbers it is `rules` in some order. -/
def Picks (rules : List Rule) (numbers : List Nat) (part : List Rule) : Prop :=
  part.map some = numbers.map fun n => rules[n]?

instance (rules : List Rule) (numbers : List Nat) (part : List Rule) :
    Decidable (Picks rules numbers part) :=
  inferInstanceAs (Decidable (part.map some = numbers.map fun n => rules[n]?))

/-- The rules with the given numbers, each with its number. -/
def numbered (rules : List Rule) (numbers : List Nat) : List (Rule × Nat) :=
  numbers.filterMap fun n => rules[n]?.map fun rule => (rule, n)

variable {rules part : List Rule} {numbers : List Nat}

/-! ## Numbered rules -/

theorem mem_numbered {r : Rule × Nat} :
    r ∈ numbered rules numbers ↔ r.2 ∈ numbers ∧ rules[r.2]? = some r.1 := by
  rw [numbered, List.mem_filterMap]
  constructor
  · rintro ⟨n, hn, hr⟩
    obtain ⟨rule, hrule, rfl⟩ := Option.map_eq_some_iff.1 hr
    exact ⟨hn, hrule⟩
  · rintro ⟨hn, hrule⟩
    exact ⟨r.2, hn, by rw [hrule]; rfl⟩

/-- Numbered rules stand in the order of their numbers. -/
theorem pairwise_numbered {R : Nat → Nat → Prop} (h : numbers.Pairwise R) :
    (numbered rules numbers).Pairwise fun r s => R r.2 s.2 := by
  rw [numbered, List.pairwise_filterMap]
  refine h.imp fun {m n} hmn r hr s hs => ?_
  obtain ⟨-, -, rfl⟩ := Option.map_eq_some_iff.1 hr
  obtain ⟨-, -, rfl⟩ := Option.map_eq_some_iff.1 hs
  exact hmn

theorem pairwise_zipIdx (rules : List Rule) : rules.zipIdx.Pairwise fun r s => r.2 < s.2 := by
  apply List.pairwise_map.1
  rw [List.zipIdx_map_snd]
  exact List.pairwise_lt_range'

/-- Up to their order, the rules with some numbers are found by going through all rules. -/
theorem numbered_perm_filter (h : numbers.Nodup) :
    (numbered rules numbers).Perm (rules.zipIdx.filter fun r => r.2 ∈ numbers) := by
  have hnumbered : (numbered rules numbers).Nodup := by
    refine (pairwise_numbered h).imp fun {r s} hne hrs => ?_
    exact hne (congrArg Prod.snd hrs)
  have hall : rules.zipIdx.Nodup := by
    refine (pairwise_zipIdx rules).imp fun {r s} hlt hrs => ?_
    exact Nat.ne_of_lt hlt (congrArg Prod.snd hrs)
  refine (List.perm_ext_iff_of_nodup hnumbered (hall.filter _)).2 fun r => ?_
  rw [mem_numbered, List.mem_filter, List.mem_zipIdx_iff_getElem?, decide_eq_true_eq, and_comm]

/-- With increasing numbers the order is the same as well. -/
theorem numbered_eq_filter (h : numbers.Pairwise (· < ·)) :
    numbered rules numbers = rules.zipIdx.filter fun r => r.2 ∈ numbers := by
  have hperm : (numbered rules numbers).Perm (rules.zipIdx.filter fun r => r.2 ∈ numbers) :=
    numbered_perm_filter (h.imp Nat.ne_of_lt)
  refine hperm.eq_of_pairwise ?_ (pairwise_numbered h) ((pairwise_zipIdx rules).filter _)
  intro r s _ _ hrs hsr
  exact absurd hrs (Nat.lt_asymm hsr)

/-- With all numbers there are all rules. -/
theorem numbered_perm_zipIdx (h : numbers.Perm (List.range rules.length)) :
    (numbered rules numbers).Perm rules.zipIdx := by
  have hperm : (numbered rules numbers).Perm (rules.zipIdx.filter fun r => r.2 ∈ numbers) :=
    numbered_perm_filter (h.nodup_iff.2 List.nodup_range)
  rwa [List.filter_eq_self.2 fun r hr => ?_] at hperm
  have hlength := (List.getElem?_eq_some_iff.1 (List.mem_zipIdx_iff_getElem?.1 hr)).1
  exact decide_eq_true (h.mem_iff.2 (List.mem_range.2 hlength))

theorem Picks.length_eq (h : Picks rules numbers part) : part.length = numbers.length := by
  simpa using congrArg List.length h

theorem Picks.numbered_eq_zip (h : Picks rules numbers part) :
    numbered rules numbers = part.zip numbers := by
  induction numbers generalizing part with
  | nil => simp [numbered]
  | cons n rest ih =>
      cases part with
      | nil => simp [Picks] at h
      | cons rule more =>
          rw [Picks, List.map_cons, List.map_cons, List.cons.injEq] at h
          obtain ⟨hrule, hmore⟩ := h
          rw [numbered, List.filterMap_cons_some (b := (rule, n)) (by rw [← hrule]; rfl),
            List.zip_cons_cons, ← ih hmore, numbered]

/-- The numbers of picked rules are found by their places. -/
theorem Picks.map_zipIdx (h : Picks rules numbers part) :
    (part.zipIdx.map fun r => (r.1, numbers.getD r.2 0)) = numbered rules numbers := by
  have hlookup : (List.range' 0 part.length).map (fun i => numbers.getD i 0) = numbers := by
    apply List.ext_getElem
    · simp [h.length_eq]
    · intro i _ hi
      simp [hi]
  rw [h.numbered_eq_zip, List.zipIdx_eq_zip_range']
  conv_rhs => rw [← hlookup]
  rw [List.zip_map_right]
  rfl

/-! ## Calls of numbered rules -/

/-- Rules with other numbers make the same calls, with these numbers. -/
theorem callsAt_map (f : Nat → Nat) (numberedRules : List (Rule × Nat)) (found : Place × Node) :
    callsAt (numberedRules.map fun r => (r.1, f r.2)) found =
      (callsAt numberedRules found).map fun c => { c with rule := f c.rule } := by
  rw [callsAt, callsAt, List.filterMap_map, List.map_filterMap]
  refine List.filterMap_congr fun r _ => ?_
  simp [callAt, Function.comp_def]

/-- Rules that are left out make no calls, and the others make theirs. -/
theorem callsAt_filter (p : Nat → Bool) (numberedRules : List (Rule × Nat))
    (found : Place × Node) :
    callsAt (numberedRules.filter fun r => p r.2) found =
      (callsAt numberedRules found).filter fun c => p c.rule := by
  rw [callsAt, callsAt, List.filterMap_filter, List.filter_filterMap]
  refine List.filterMap_congr fun r _ => ?_
  cases hcall : callAt found.1 found.2 r with
  | none => simp
  | some c =>
      have hnumber : c.rule = r.2 := by
        obtain ⟨_, _, rfl⟩ := Option.map_eq_some_iff.1 hcall
        rfl
      simp [Option.filter, hnumber]

/-- All calls at a node are calls at its place. -/
theorem place_of_mem_callsAt {numberedRules : List (Rule × Nat)} {found : Place × Node} {c : Call}
    (h : c ∈ callsAt numberedRules found) : c.place = found.1 := by
  obtain ⟨r, -, hcall⟩ := List.mem_filterMap.1 h
  obtain ⟨_, _, rfl⟩ := Option.map_eq_some_iff.1 hcall
  rfl

/-! ## Calls over a tree -/

/-- With the numbers they have among other rules, picked rules make the calls of these. -/
theorem Picks.map_calls (h : Picks rules numbers part) (root : Node) :
    (calls part root).map (Call.renumber numbers) =
      (root.reached []).flatMap (callsAt (numbered rules numbers)) := by
  rw [calls, List.map_flatMap, ← h.map_zipIdx]
  refine List.flatMap_congr fun found _ => ?_
  exact (callsAt_map (fun i => numbers.getD i 0) part.zipIdx found).symm

/-- A part of the rules makes those calls of all rules that are its own. -/
theorem Picks.calls_part (h : Picks rules numbers part) (hnumbers : numbers.Pairwise (· < ·))
    (root : Node) :
    (calls part root).map (Call.renumber numbers) =
      (calls rules root).filter fun c => c.rule ∈ numbers := by
  rw [h.map_calls, numbered_eq_filter hnumbers, calls, List.filter_flatMap]
  refine List.flatMap_congr fun found _ => ?_
  exact callsAt_filter (fun n => n ∈ numbers) rules.zipIdx found

section Reordered

variable (h : Picks rules numbers part) (hnumbers : numbers.Perm (List.range rules.length))
include h hnumbers

/-- Rules in another order make the same calls in some order. -/
theorem Picks.calls_perm (root : Node) :
    ((calls part root).map (Call.renumber numbers)).Perm (calls rules root) := by
  rw [h.map_calls, calls]
  refine List.Perm.flatMap_left _ fun found _ => ?_
  exact (numbered_perm_zipIdx hnumbers).filterMap _

/-- Rules in another order go through the same nodes and make as many calls at each. -/
theorem Picks.places_calls (root : Node) :
    (calls part root).map Call.place = (calls rules root).map Call.place := by
  have hrenumber : (calls part root).map Call.place =
      ((calls part root).map (Call.renumber numbers)).map Call.place := by
    rw [List.map_map]
    rfl
  rw [hrenumber, h.map_calls, calls, List.map_flatMap, List.map_flatMap]
  refine List.flatMap_congr fun found _ => ?_
  -- at one node there is one place only, so that the number of calls decides
  have hplace : ∀ numberedRules, (callsAt numberedRules found).map Call.place =
      List.replicate (callsAt numberedRules found).length found.1 := by
    intro numberedRules
    rw [List.eq_replicate_iff, List.length_map]
    refine ⟨rfl, fun place hplace => ?_⟩
    obtain ⟨c, hc, rfl⟩ := List.mem_map.1 hplace
    exact place_of_mem_callsAt hc
  have hlength : (callsAt (numbered rules numbers) found).length =
      (callsAt rules.zipIdx found).length :=
    ((numbered_perm_zipIdx hnumbers).filterMap _).length_eq
  rw [hplace, hplace, hlength]

end Reordered

end Rule

namespace Engine

/-! ## Runs -/

variable {ε : Type}

/-- With handlers that never fail, a run makes the calls of the walk without a limit. -/
theorem outcome_ofRules (rules : List Rule) (root : Node) :
    (ofRules rules).outcome (fun _ _ => none : Failing ε) [] root =
      (Rule.calls rules root, none) := by
  rw [outcome_of_none_fails, calls_ofRules]

/-- Over every tree, with handlers that never fail, the rules of an engine do not bear on each
other. Any part of them, taken alone, makes the calls that it makes among all rules, in the same
order. In any other order of the rules the calls are at the same nodes one after the other, and at
each node the same calls are made. -/
theorem rules_independent (rules : List Rule) (root : Node) :
    ∃ calls, (ofRules rules).outcome (fun _ _ => none : Failing ε) [] root = (calls, none) ∧
      (∀ numbers part, Rule.Picks rules numbers part → numbers.Pairwise (· < ·) →
        ∃ own, (ofRules part).outcome (fun _ _ => none : Failing ε) [] root = (own, none) ∧
          own.map (Call.renumber numbers) = calls.filter fun c => c.rule ∈ numbers) ∧
      (∀ numbers order, Rule.Picks rules numbers order →
        numbers.Perm (List.range rules.length) →
        ∃ own, (ofRules order).outcome (fun _ _ => none : Failing ε) [] root = (own, none) ∧
          own.map Call.place = calls.map Call.place ∧
          ∀ place, ((own.map (Call.renumber numbers)).filter fun c => c.place = place).Perm
            (calls.filter fun c => c.place = place)) := by
  refine ⟨Rule.calls rules root, outcome_ofRules rules root, ?_, ?_⟩
  · intro numbers part hpart hnumbers
    exact ⟨_, outcome_ofRules part root, hpart.calls_part hnumbers root⟩
  · intro numbers order horder hnumbers
    refine ⟨_, outcome_ofRules order root, horder.places_calls hnumbers root, fun place => ?_⟩
    exact (horder.calls_perm hnumbers root).filter _

/-- A rule for comments two levels down, between rules for elements above them. -/
def nestedRules : List Rule :=
  [⟨.content, 0, some "a"⟩, ⟨.comment, 2, none⟩, ⟨.element, 1, some "b"⟩, ⟨.element, 0, some "a"⟩]

/-- A tree at which each of these rules is called. -/
def nestedRoot : Node :=
  .mk .element "a" [] "t" [.mk .element "b" [] "t" [.mk .comment "#comment" [] "c" []]]

/-- Without the rule for comments an engine does not go as deep, and its calls are the same. With
the last rule first the two calls at the root change places. -/
theorem rules_independent_nested :
    Rule.Picks nestedRules [2, 3] [⟨.element, 1, some "b"⟩, ⟨.element, 0, some "a"⟩] ∧
    Rule.Picks nestedRules [3, 1, 0, 2] [⟨.element, 0, some "a"⟩, ⟨.comment, 2, none⟩,
      ⟨.content, 0, some "a"⟩, ⟨.element, 1, some "b"⟩] ∧
    ∃ calls own reordered : List Call,
      own.map (Call.renumber [2, 3]) = calls.filter (fun c => c.rule ∈ [2, 3]) ∧
      reordered.map Call.place = calls.map Call.place ∧
      calls.map Call.rule = [0, 3, 2, 1] ∧ own.map Call.rule = [1, 0] ∧
      reordered.map Call.rule = [0, 2, 3, 1] := by
  have hpart : Rule.Picks nestedRules [2, 3] [⟨.element, 1, some "b"⟩, ⟨.element, 0, some "a"⟩] :=
    by decide
  have horder : Rule.Picks nestedRules [3, 1, 0, 2] [⟨.element, 0, some "a"⟩, ⟨.comment, 2, none⟩,
      ⟨.content, 0, some "a"⟩, ⟨.element, 1, some "b"⟩] := by decide
  obtain ⟨calls, hcalls, hparts, horders⟩ := rules_independent (ε := Empty) nestedRules nestedRoot
  obtain ⟨own, hown, hsame⟩ := hparts [2, 3] _ hpart (by decide)
  obtain ⟨reordered, hreordered, hplaces, -⟩ := horders [3, 1, 0, 2] _ horder (by decide)
  -- what a run comes to is computed from the rules and the tree
  have hrules : ∀ {outcome : List Call × Option Empty} {made : List Call},
      outcome = (made, none) → made.map Call.rule = outcome.1.map Call.rule := by
    rintro outcome made rfl
    rfl
  exact ⟨hpart, horder, calls, own, reordered, hsame, hplaces, hrules hcalls, hrules hown,
    hrules hreordered⟩

end Engine

end DepthRules
