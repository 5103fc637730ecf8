import DepthRules.Rule.Ruleset
import Mathlib.Data.List.Nodup

/-!
# Following the links between rulesets

A ruleset may extend another one by name, so that the rulesets of a file form any graph in which
each has at most one link. `Leads` is the walk along the links from a name. It has to stop, because
the rulesets it has passed are different from each other and all in the file (`exists_stop`), and it
stops at one place only (`StopsAt.unique`). A walk that comes to an end has not passed any ruleset
twice, since each ruleset on it has a number of links left to the end (`Leads.nodup`).
-/

namespace DepthRules.Rule.RulesFile

/-- The name that the ruleset with the given name extends, if it is there and extends one. -/
def baseOf (file : RulesFile) (name : Str) : Option Str :=
  (file.rulesets.get? name).bind Ruleset.base

/-- Following the links from the ruleset `name` leads through the rulesets `passed`, the last one
first, to the name `current`. -/
inductive Leads (file : RulesFile) (name : Str) : List Str → Str → Prop
  | start : Leads file name [] name
  | link {passed : List Str} {current base : Str} (h : Leads file name passed current)
      (hbase : file.baseOf current = some base) : Leads file name (current :: passed) base

variable {file : RulesFile} {name : Str}

theorem baseOf_of_get? {current : Str} {ruleset : Ruleset}
    (hget : file.rulesets.get? current = some ruleset) : file.baseOf current = ruleset.base := by
  rw [baseOf, hget, Option.bind_some]

theorem baseOf_of_missing {current : Str} (hget : file.rulesets.get? current = none) :
    file.baseOf current = none := by
  rw [baseOf, hget, Option.bind_none]

theorem exists_ruleset_of_baseOf {current base : Str} (h : file.baseOf current = some base) :
    ∃ ruleset, file.rulesets.get? current = some ruleset ∧ ruleset.base = some base := by
  rwa [baseOf, Option.bind_eq_some_iff] at h

/-! ## The walk along the links -/

namespace Leads

variable {passed passed' : List Str} {current current' : Str}

/-- Every ruleset that has been passed has a link. -/
theorem exists_base_of_mem (h : file.Leads name passed current) {x : Str} (hx : x ∈ passed) :
    ∃ base, file.baseOf x = some base := by
  induction h with
  | start => simp at hx
  | @link passed current base h hbase ih =>
      rcases List.mem_cons.1 hx with rfl | hx
      · exact ⟨base, hbase⟩
      · exact ih hx

/-- Every ruleset that has been passed is one of the file. -/
theorem subset_names (h : file.Leads name passed current) : passed ⊆ file.names := by
  intro x hx
  obtain ⟨base, hbase⟩ := h.exists_base_of_mem hx
  obtain ⟨ruleset, hget, -⟩ := exists_ruleset_of_baseOf hbase
  exact mem_names_of_get? hget

/-- After a number of links the walk is at one place only. -/
theorem unique (h : file.Leads name passed current) (h' : file.Leads name passed' current')
    (hlength : passed.length = passed'.length) : passed = passed' ∧ current = current' := by
  induction h generalizing passed' current' with
  | start =>
      cases h' with
      | start => exact ⟨rfl, rfl⟩
      | link h' hbase' => simp at hlength
  | @link passed current base h hbase ih =>
      cases h' with
      | start => simp at hlength
      | @link passed' current' base' h' hbase' =>
          obtain ⟨rfl, rfl⟩ := ih h' (Nat.succ.inj hlength)
          rw [hbase, Option.some.injEq] at hbase'
          exact ⟨rfl, hbase'⟩

/-- A longer walk has passed every place of a shorter one. -/
theorem suffix_of_length_lt (h : file.Leads name passed current)
    (h' : file.Leads name passed' current') (hlength : passed.length < passed'.length) :
    current :: passed <:+ passed' := by
  induction h' with
  | start => simp at hlength
  | @link passed' current' base' h' hbase' ih =>
      rw [List.length_cons, Nat.lt_succ_iff, Nat.le_iff_lt_or_eq] at hlength
      rcases hlength with hlt | heq
      · exact (ih hlt).trans (List.suffix_cons current' passed')
      · obtain ⟨rfl, rfl⟩ := h.unique h' heq
        exact List.suffix_refl _

end Leads

/-- The links from a name end after the given number of them, at a ruleset without a link or at a
name without a ruleset. -/
inductive LinksLeft (file : RulesFile) : Str → Nat → Prop
  | zero {current : Str} (hbase : file.baseOf current = none) : LinksLeft file current 0
  | succ {current base : Str} {n : Nat} (hbase : file.baseOf current = some base)
      (h : LinksLeft file base n) : LinksLeft file current (n + 1)

theorem LinksLeft.unique {current : Str} {m n : Nat} (hm : file.LinksLeft current m)
    (hn : file.LinksLeft current n) : m = n := by
  induction hm generalizing n with
  | zero hbase =>
      cases hn with
      | zero => rfl
      | succ hbase' => rw [hbase] at hbase'; cases hbase'
  | succ hbase _ ih =>
      cases hn with
      | zero hbase' => rw [hbase] at hbase'; cases hbase'
      | succ hbase' h =>
          rw [hbase, Option.some.injEq] at hbase'
          subst hbase'
          rw [ih h]

/-- What has been passed has more links left than what is reached. -/
theorem Leads.linksLeft_gt {passed : List Str} {current : Str}
    (h : file.Leads name passed current) {n : Nat} (hn : file.LinksLeft current n) {x : Str}
    (hx : x ∈ passed) : ∃ m, n < m ∧ file.LinksLeft x m := by
  induction h generalizing n with
  | start => simp at hx
  | @link passed current base h hbase ih =>
      have hcurrent : file.LinksLeft current (n + 1) := .succ hbase hn
      rcases List.mem_cons.1 hx with rfl | hx
      · exact ⟨n + 1, Nat.lt_succ_self n, hcurrent⟩
      · obtain ⟨m, hm, hleft⟩ := ih hcurrent hx
        exact ⟨m, by omega, hleft⟩

theorem Leads.nodup_of_linksLeft {passed : List Str} {current : Str}
    (h : file.Leads name passed current) {n : Nat} (hn : file.LinksLeft current n) :
    (current :: passed).Nodup := by
  induction h generalizing n with
  | start => exact List.nodup_singleton _
  | @link passed current base h hbase ih =>
      refine List.nodup_cons.2 ⟨fun hmem => ?_, ih (.succ hbase hn)⟩
      -- passed twice, the ruleset would have two different numbers of links left
      obtain ⟨m, hm, hleft⟩ := (Leads.link h hbase).linksLeft_gt hn hmem
      have : m = n := hleft.unique hn
      omega

/-- A walk that comes to an end has not passed any ruleset twice. -/
theorem Leads.nodup {passed : List Str} {current : Str} (h : file.Leads name passed current)
    (hend : file.baseOf current = none) : (current :: passed).Nodup :=
  h.nodup_of_linksLeft (.zero hend)

/-! ## Where the walk stops -/

/-- The walk from `name` stops at `current` after the rulesets `passed`: it has passed none of them
twice, and is at one of them again or at an end. -/
structure StopsAt (file : RulesFile) (name : Str) (passed : List Str) (current : Str) :
    Prop where
  leads : file.Leads name passed current
  nodup : passed.Nodup
  stops : current ∈ passed ∨ file.baseOf current = none

/-- Every walk stops: as long as it does not, it has one more ruleset of the file behind it. -/
theorem exists_stop {passed : List Str} {current : Str}
    (h : file.Leads name passed current) (hnodup : passed.Nodup) :
    ∃ passed' current', file.StopsAt name passed' current' := by
  by_cases hmem : current ∈ passed
  · exact ⟨passed, current, h, hnodup, .inl hmem⟩
  · cases hbase : file.baseOf current with
    | none => exact ⟨passed, current, h, hnodup, .inr hbase⟩
    | some base =>
        -- the walk goes on, with one ruleset fewer that has not been visited
        have hname : current ∈ file.names := by
          obtain ⟨ruleset, hget, -⟩ := exists_ruleset_of_baseOf hbase
          exact mem_names_of_get? hget
        have : file.unvisited (current :: passed) < file.unvisited passed :=
          unvisited_lt hname hmem
        exact exists_stop (.link h hbase) (List.nodup_cons.2 ⟨hmem, hnodup⟩)
  termination_by file.unvisited passed

/-- A walk cannot go on from where it stops without passing a ruleset twice. -/
theorem StopsAt.length_le {passed passed' : List Str} {current current' : Str}
    (h : file.StopsAt name passed current) (h' : file.Leads name passed' current')
    (hnodup' : passed'.Nodup) : passed'.length ≤ passed.length := by
  by_contra hlength
  -- a longer walk has passed `current` after `passed`, so it could not have stopped there
  have hsuffix := h.leads.suffix_of_length_lt h' (by omega)
  rcases h.stops with hmem | hend
  · exact (List.nodup_cons.1 (hsuffix.sublist.nodup hnodup')).1 hmem
  · obtain ⟨base, hbase⟩ := h'.exists_base_of_mem (hsuffix.subset List.mem_cons_self)
    rw [hend] at hbase
    cases hbase

/-- A walk stops at one place only. -/
theorem StopsAt.unique {passed passed' : List Str} {current current' : Str}
    (h : file.StopsAt name passed current) (h' : file.StopsAt name passed' current') :
    passed = passed' ∧ current = current' :=
  h.leads.unique h'.leads
    (Nat.le_antisymm (h'.length_le h.leads h.nodup) (h.length_le h'.leads h'.nodup))

end DepthRules.Rule.RulesFile
