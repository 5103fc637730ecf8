import DepthRules.Proofs.Rule.Fitting
import DepthRules.Proofs.Rule.Links

/-!
# What a ruleset resolves to

`Resolution` are the five outcomes of resolving a ruleset that the walk along the links and the
rules on it decide. `RulesFile.resolution_iff` says that always exactly one of them holds, that it
is the one `RulesFile.resolve` gives, and that no ruleset is visited twice for it. The rules of
rulesets that are not visited do not matter: without them the outcome is the same (`strippedTo`).
-/

namespace DepthRules.Rule.RulesFile

/-- The rulesets with the given names. -/
def rulesetsOf (file : RulesFile) (names : List Str) : List (Str × Ruleset) :=
  names.filterMap fun name => (file.rulesets.get? name).map fun ruleset => (name, ruleset)

/-- The rules of several rulesets in order, each with the name of its ruleset. -/
def entriesOf (chain : List (Str × Ruleset)) : List (Str × Entry) :=
  chain.flatMap fun r => r.2.rules.map fun e => (r.1, e)

/-- The names `chain`, the last base first, are those of the rulesets on the way from `name` to a
ruleset that extends no other. -/
def IsChain (file : RulesFile) (name : Str) (chain : List Str) : Prop :=
  ∃ last passed ruleset, chain = last :: passed ∧ file.Leads name passed last ∧
    file.rulesets.get? last = some ruleset ∧ ruleset.base = none

/-- The outcomes of resolving the ruleset `name`, each with the rulesets that are visited for it,
the last one first: there is no such ruleset; the links lead back, and `current` is the first
ruleset met again; the links lead out of the file; the links end and `entry`, in the ruleset
`owner`, is the first rule that does not fit; the links end and all rules fit. -/
inductive Resolution (file : RulesFile) (name : Str) :
    List Str → Except ReadError (List Declaration) → Prop
  | unknown (h : file.rulesets.get? name = none) :
      Resolution file name [] (.error (.noRuleset name file.names))
  | circular {passed : List Str} {current : Str} (h : file.Leads name passed current)
      (hnodup : passed.Nodup) (hmem : current ∈ passed) :
      Resolution file name passed (.error (.circular current))
  | missing {passed : List Str} {referrer base : Str}
      (h : file.Leads name (referrer :: passed) base) (hbase : file.rulesets.get? base = none) :
      Resolution file name (referrer :: passed) (.error (.noBase base referrer))
  | refused {chain : List Str} {owner : Str} {entry : Entry} {cause : ReadError}
      (h : file.IsChain name chain)
      (hfirst : (entriesOf (file.rulesetsOf chain)).find? (fun e => ¬ e.2.Fits) =
        some (owner, entry))
      (hcause : entry.declaration = .error cause) :
      Resolution file name chain (.error (.inRuleset owner cause))
  | declared {chain : List Str} (h : file.IsChain name chain)
      (hfits : ∀ e ∈ entriesOf (file.rulesetsOf chain), e.2.Fits) :
      Resolution file name chain
        (.ok ((entriesOf (file.rulesetsOf chain)).map fun e => e.2.declared))

/-- The file with no rules in any ruleset but those with the given names. -/
def strippedTo (file : RulesFile) (kept : List Str) : RulesFile :=
  ⟨file.rulesets.map fun r => (r.1, if r.1 ∈ kept then r.2 else ⟨r.2.base, []⟩)⟩

variable {file : RulesFile} {name : Str}

/-! ## The rulesets on the way -/

theorem chainFrom_of_mem {visited : List Str} (hmem : name ∈ visited) :
    file.chainFrom visited name = .error (.circular name) := by
  rw [chainFrom, dif_pos hmem]

theorem chainFrom_of_missing {visited : List Str} (hnew : name ∉ visited)
    (hget : file.rulesets.get? name = none) :
    file.chainFrom visited name =
      match visited with
      | [] => .error (.noRuleset name file.names)
      | referrer :: _ => .error (.noBase name referrer) := by
  rw [chainFrom, dif_neg hnew]
  split
  · rfl
  · rename_i hsome
    rw [hget] at hsome
    cases hsome

theorem chainFrom_of_get? {visited : List Str} {ruleset : Ruleset} (hnew : name ∉ visited)
    (hget : file.rulesets.get? name = some ruleset) :
    file.chainFrom visited name =
      match ruleset.base with
      | none => .ok [(name, ruleset)]
      | some base => (file.chainFrom (name :: visited) base).map (· ++ [(name, ruleset)]) := by
  rw [chainFrom, dif_neg hnew]
  split
  · rename_i hnone
    rw [hget] at hnone
    cases hnone
  · rename_i found hsome
    rw [hget, Option.some.injEq] at hsome
    subst hsome
    cases ruleset.base with
    | none => rfl
    | some base => rfl

theorem rulesetsOf_cons {current : Str} {ruleset : Ruleset}
    (hget : file.rulesets.get? current = some ruleset) (names : List Str) :
    file.rulesetsOf (current :: names) = (current, ruleset) :: file.rulesetsOf names := by
  rw [rulesetsOf, List.filterMap_cons_some (b := (current, ruleset)) (by rw [hget]; rfl)]
  rfl

/-- The chain of a name is that from any place on the walk, with the rulesets passed before it. -/
theorem chain_of_leads {passed : List Str} {current : Str}
    (h : file.Leads name passed current) (hnodup : passed.Nodup) :
    file.chain name = (file.chainFrom passed current).map (· ++ file.rulesetsOf passed) := by
  induction h with
  | start =>
      rw [chain]
      cases file.chainFrom [] name with
      | error cause => rfl
      | ok chain => simp [Except.map, rulesetsOf]
  | @link passed current base h hlink ih =>
      obtain ⟨hnew, hpassed⟩ := List.nodup_cons.1 hnodup
      obtain ⟨ruleset, hget, hbase⟩ := exists_ruleset_of_baseOf hlink
      -- one link further: `current` moves from the chain to the rulesets passed before it
      rw [ih hpassed, chainFrom_of_get? hnew hget, hbase, rulesetsOf_cons hget]
      dsimp only
      cases file.chainFrom (current :: passed) base with
      | error cause => rfl
      | ok chain => simp [Except.map]

/-- Where the links end, the chain is made of all rulesets on the way. -/
theorem IsChain.chain_eq {chain : List Str} (h : file.IsChain name chain) :
    file.chain name = .ok (file.rulesetsOf chain) := by
  obtain ⟨last, passed, ruleset, rfl, hleads, hget, hbase⟩ := h
  have hend : file.baseOf last = none := by rw [baseOf_of_get? hget, hbase]
  obtain ⟨hnew, hpassed⟩ := List.nodup_cons.1 (hleads.nodup hend)
  rw [chain_of_leads hleads hpassed, chainFrom_of_get? hnew hget, hbase, rulesetsOf_cons hget]
  rfl

/-! ## The rules on the way -/

theorem entriesOf_cons (r : Str × Ruleset) (chain : List (Str × Ruleset)) :
    entriesOf (r :: chain) = r.2.rules.map (fun e => (r.1, e)) ++ entriesOf chain :=
  List.flatMap_cons

theorem declareChain_of_fits {chain : List (Str × Ruleset)}
    (h : ∀ e ∈ entriesOf chain, e.2.Fits) :
    declareChain chain = .ok ((entriesOf chain).map fun e => e.2.declared) := by
  induction chain with
  | nil => rfl
  | cons r rest ih =>
      obtain ⟨owner, ruleset⟩ := r
      rw [entriesOf_cons] at h ⊢
      have hhere : ∀ e ∈ ruleset.rules, e.Fits := fun e he =>
        h (owner, e) (List.mem_append_left _ (List.mem_map_of_mem he))
      rw [declareChain, declareAll_of_fits hhere, ih fun e he => h e (List.mem_append_right _ he)]
      simp [Except.map, Function.comp_def]

/-- The first rule that does not fit is told with its ruleset. -/
theorem declareChain_of_misfit {chain : List (Str × Ruleset)} {owner : Str} {entry : Entry}
    {cause : ReadError}
    (hfirst : (entriesOf chain).find? (fun e => ¬ e.2.Fits) = some (owner, entry))
    (hcause : entry.declaration = .error cause) :
    declareChain chain = .error (.inRuleset owner cause) := by
  induction chain with
  | nil => simp [entriesOf] at hfirst
  | cons r rest ih =>
      obtain ⟨here, ruleset⟩ := r
      rw [entriesOf_cons, List.find?_append, List.find?_map] at hfirst
      cases hfound : ruleset.rules.find? (fun e => ¬ e.Fits) with
      | some e =>
          simp only [Function.comp_def, hfound, Option.map_some, Option.some_or,
            Option.some.injEq, Prod.mk.injEq] at hfirst
          -- the first misfit is one of this ruleset
          obtain ⟨rfl, rfl⟩ := hfirst
          rw [declareChain, declareAll_of_misfit hfound hcause]
      | none =>
          simp only [Function.comp_def, hfound, Option.map_none, Option.none_or] at hfirst
          -- it is one of a later ruleset, and all rules here fit
          have hhere : ∀ e ∈ ruleset.rules, e.Fits := by
            intro e he
            simpa using List.find?_eq_none.1 hfound e he
          rw [declareChain, declareAll_of_fits hhere, ih hfirst]
          rfl

/-! ## The outcome -/

/-- Each outcome is the one that resolving gives. -/
theorem Resolution.resolve_eq {visited : List Str} {result : Except ReadError (List Declaration)}
    (h : file.Resolution name visited result) : file.resolve name = result := by
  cases h with
  | unknown hget =>
      rw [resolve, chain, chainFrom_of_missing List.not_mem_nil hget]
      rfl
  | circular hleads hnodup hmem =>
      rw [resolve, chain_of_leads hleads hnodup, chainFrom_of_mem hmem]
      rfl
  | missing hleads hget =>
      obtain ⟨hnew, hpassed⟩ := List.nodup_cons.1 (hleads.nodup (baseOf_of_missing hget))
      rw [resolve, chain_of_leads hleads hpassed, chainFrom_of_missing hnew hget]
      rfl
  | refused hchain hfirst hcause =>
      rw [resolve, hchain.chain_eq]
      exact declareChain_of_misfit hfirst hcause
  | declared hchain hfits =>
      rw [resolve, hchain.chain_eq]
      exact declareChain_of_fits hfits

/-- Where the links end there is an outcome, which depends on the rules. -/
theorem IsChain.exists_resolution {chain : List Str} (h : file.IsChain name chain) :
    ∃ result, file.Resolution name chain result := by
  cases hfirst : (entriesOf (file.rulesetsOf chain)).find? (fun e => ¬ e.2.Fits) with
  | none =>
      refine ⟨_, .declared h fun e he => ?_⟩
      simpa using List.find?_eq_none.1 hfirst e he
  | some found =>
      obtain ⟨owner, entry⟩ := found
      have hmisfit : ¬ entry.Fits := by simpa using List.find?_some hfirst
      obtain ⟨cause, hcause⟩ := Entry.exists_declaration_eq_error hmisfit
      exact ⟨_, .refused h hfirst hcause⟩

/-- The rulesets visited on a walk that stops at `current` after those in `passed`. -/
def visitedAt (file : RulesFile) (passed : List Str) (current : Str) : List Str :=
  if current ∈ passed ∨ file.rulesets.get? current = none then passed else current :: passed

/-- Where the walk stops there is an outcome. -/
theorem StopsAt.exists_resolution {passed : List Str} {current : Str}
    (h : file.StopsAt name passed current) :
    ∃ result, file.Resolution name (file.visitedAt passed current) result := by
  by_cases hmem : current ∈ passed
  · rw [visitedAt, if_pos (.inl hmem)]
    exact ⟨_, .circular h.leads h.nodup hmem⟩
  · cases hget : file.rulesets.get? current with
    | none =>
        rw [visitedAt, if_pos (.inr hget)]
        cases passed with
        | nil =>
            cases h.leads
            exact ⟨_, .unknown hget⟩
        | cons referrer passed => exact ⟨_, .missing h.leads hget⟩
    | some ruleset =>
        have hbase : ruleset.base = none := by
          rw [← baseOf_of_get? hget]
          exact h.stops.resolve_left hmem
        rw [visitedAt, if_neg (by simp [hmem, hget])]
        exact IsChain.exists_resolution ⟨current, passed, ruleset, rfl, h.leads, hget, hbase⟩

/-- Every outcome is one of a walk that stops. -/
theorem Resolution.exists_stopsAt {visited : List Str}
    {result : Except ReadError (List Declaration)} (h : file.Resolution name visited result) :
    ∃ passed current, file.StopsAt name passed current ∧
      visited = file.visitedAt passed current := by
  cases h with
  | unknown hget =>
      refine ⟨[], name, ⟨.start, List.nodup_nil, .inr (baseOf_of_missing hget)⟩, ?_⟩
      rw [visitedAt, if_pos (.inr hget)]
  | circular hleads hnodup hmem =>
      refine ⟨_, _, ⟨hleads, hnodup, .inl hmem⟩, ?_⟩
      rw [visitedAt, if_pos (.inl hmem)]
  | missing hleads hget =>
      have hend := baseOf_of_missing hget
      refine ⟨_, _, ⟨hleads, (List.nodup_cons.1 (hleads.nodup hend)).2, .inr hend⟩, ?_⟩
      rw [visitedAt, if_pos (.inr hget)]
  | refused hchain | declared hchain =>
      obtain ⟨last, passed, ruleset, rfl, hleads, hget, hbase⟩ := hchain
      have hend : file.baseOf last = none := by rw [baseOf_of_get? hget, hbase]
      obtain ⟨hnew, hpassed⟩ := List.nodup_cons.1 (hleads.nodup hend)
      refine ⟨passed, last, ⟨hleads, hpassed, .inr hend⟩, ?_⟩
      rw [visitedAt, if_neg (by simp [hnew, hget])]

theorem StopsAt.visitedAt_nodup {passed : List Str} {current : Str}
    (h : file.StopsAt name passed current) : (file.visitedAt passed current).Nodup := by
  rw [visitedAt]
  split
  · exact h.nodup
  · rename_i hnew
    exact List.nodup_cons.2 ⟨fun hmem => hnew (.inl hmem), h.nodup⟩

theorem StopsAt.visitedAt_subset {passed : List Str} {current : Str}
    (h : file.StopsAt name passed current) : file.visitedAt passed current ⊆ file.names := by
  rw [visitedAt]
  split
  · exact h.leads.subset_names
  · rename_i hnew
    obtain ⟨ruleset, hget⟩ := Option.ne_none_iff_exists'.1 fun hnone => hnew (.inr hnone)
    exact List.cons_subset.2 ⟨mem_names_of_get? hget, h.leads.subset_names⟩

/-- There always is an outcome, and it is that of resolving. -/
theorem exists_resolution (file : RulesFile) (name : Str) :
    ∃ passed current, file.StopsAt name passed current ∧
      file.Resolution name (file.visitedAt passed current) (file.resolve name) := by
  have hstart : file.Leads name [] name := .start
  obtain ⟨passed, current, hstop⟩ := exists_stop hstart List.nodup_nil
  obtain ⟨result, h⟩ := hstop.exists_resolution
  refine ⟨passed, current, hstop, ?_⟩
  rw [h.resolve_eq]
  exact h

/-! ## Rulesets that are not visited -/

theorem names_strippedTo (kept : List Str) : (file.strippedTo kept).names = file.names := by
  rw [names, names, strippedTo, Entries.keys, Entries.keys, List.map_map]
  rfl

theorem get?_strippedTo (kept : List Str) (current : Str) :
    (file.strippedTo kept).rulesets.get? current =
      (file.rulesets.get? current).map fun ruleset =>
        if current ∈ kept then ruleset else ⟨ruleset.base, []⟩ := by
  rw [strippedTo]
  induction file.rulesets with
  | nil => rfl
  | cons r rest ih =>
      obtain ⟨k, ruleset⟩ := r
      rw [List.map_cons, Entries.get?_cons, Entries.get?_cons]
      by_cases hk : k = current
      · rw [if_pos hk, if_pos hk, hk, Option.map_some]
      · rw [if_neg hk, if_neg hk, ih]

theorem get?_strippedTo_of_mem {kept : List Str} {current : Str} (h : current ∈ kept) :
    (file.strippedTo kept).rulesets.get? current = file.rulesets.get? current := by
  rw [get?_strippedTo]
  cases file.rulesets.get? current with
  | none => rfl
  | some ruleset => rw [Option.map_some, if_pos h]

theorem get?_strippedTo_of_missing {kept : List Str} {current : Str}
    (h : file.rulesets.get? current = none) :
    (file.strippedTo kept).rulesets.get? current = none := by
  rw [get?_strippedTo, h, Option.map_none]

theorem rulesetsOf_strippedTo {kept names : List Str} (h : names ⊆ kept) :
    (file.strippedTo kept).rulesetsOf names = file.rulesetsOf names := by
  rw [rulesetsOf, rulesetsOf]
  refine List.filterMap_congr fun current hcurrent => ?_
  rw [get?_strippedTo_of_mem (h hcurrent)]

theorem baseOf_strippedTo (kept : List Str) (current : Str) :
    (file.strippedTo kept).baseOf current = file.baseOf current := by
  rw [baseOf, baseOf, get?_strippedTo]
  cases file.rulesets.get? current with
  | none => rfl
  | some ruleset =>
      rw [Option.map_some, Option.bind_some, Option.bind_some]
      split <;> rfl

/-- The links are those of the file. -/
theorem Leads.strippedTo {passed : List Str} {current : Str}
    (h : file.Leads name passed current) (kept : List Str) :
    (file.strippedTo kept).Leads name passed current := by
  induction h with
  | start => exact .start
  | link _ hbase ih => exact .link ih (by rw [baseOf_strippedTo, hbase])

theorem IsChain.strippedTo {chain : List Str} (h : file.IsChain name chain) :
    (file.strippedTo chain).IsChain name chain := by
  obtain ⟨last, passed, ruleset, rfl, hleads, hget, hbase⟩ := h
  refine ⟨last, passed, ruleset, rfl, hleads.strippedTo _, ?_, hbase⟩
  rw [get?_strippedTo_of_mem List.mem_cons_self, hget]

/-- An outcome does not depend on the rules of rulesets that are not visited for it. -/
theorem Resolution.strippedTo {visited : List Str}
    {result : Except ReadError (List Declaration)} (h : file.Resolution name visited result) :
    (file.strippedTo visited).Resolution name visited result := by
  cases h with
  | unknown hget =>
      have hmissing : (file.strippedTo []).rulesets.get? name = none :=
        get?_strippedTo_of_missing hget
      rw [← names_strippedTo []]
      exact .unknown hmissing
  | circular hleads hnodup hmem => exact .circular (hleads.strippedTo _) hnodup hmem
  | missing hleads hget => exact .missing (hleads.strippedTo _) (get?_strippedTo_of_missing hget)
  | refused hchain hfirst hcause =>
      refine .refused hchain.strippedTo ?_ hcause
      rwa [rulesetsOf_strippedTo (List.Subset.refl _)]
  | declared hchain hfits =>
      have hsame : (file.strippedTo visited).rulesetsOf visited = file.rulesetsOf visited :=
        rulesetsOf_strippedTo (List.Subset.refl visited)
      rw [← hsame] at hfits ⊢
      exact .declared hchain.strippedTo hfits

/-! ## Exactly one outcome -/

/-- For every file and every name exactly one outcome holds, with the rulesets visited for it, each
of them one of the file and none visited twice. It is the outcome of resolving the ruleset of that
name, and it is the same without the rules of all other rulesets. -/
theorem resolution_iff (file : RulesFile) (name : Str) :
    ∃ visited : List Str, visited.Nodup ∧ visited ⊆ file.names ∧
      (∀ (passed : List Str) (result : Except ReadError (List Declaration)),
        file.Resolution name passed result ↔ passed = visited ∧ result = file.resolve name) ∧
      (file.strippedTo visited).resolve name = file.resolve name := by
  obtain ⟨passed₀, current₀, hstop, hresolution⟩ := exists_resolution file name
  refine ⟨file.visitedAt passed₀ current₀, hstop.visitedAt_nodup, hstop.visitedAt_subset,
    fun visited result => ?_, hresolution.strippedTo.resolve_eq⟩
  constructor
  · intro h
    -- both outcomes are those of walks that stop, and a walk stops at one place only
    obtain ⟨passed, current, hstop', rfl⟩ := h.exists_stopsAt
    obtain ⟨rfl, rfl⟩ := hstop.unique hstop'
    exact ⟨rfl, h.resolve_eq.symm⟩
  · rintro ⟨rfl, rfl⟩
    exact hresolution

end DepthRules.Rule.RulesFile
