import DepthRules.Proofs.Rule.Resolution

/-!
# Inherited declarations

A ruleset that extends another one resolves exactly if the other one does and its own rules are all
declarations, and then to what the other one resolves to, followed by its own declarations
(`resolve_extends`). Resolving is told by the chain of names from the last base to the ruleset
(`resolve_eq_ok_iff`), and the chain of a ruleset is that of its base with its own name after it
(`isChain_iff_of_base`).
-/

namespace DepthRules.Rule

/-- The rules are all declarations, and these are they, in the same order. -/
def Entry.AllDeclare (entries : List Entry) (declarations : List Declaration) : Prop :=
  List.Forall₂ (fun e d => e.declaration = .ok d) entries declarations

theorem Entry.allDeclare_iff {entries : List Entry} {ds : List Declaration} :
    Entry.AllDeclare entries ds ↔ (∀ e ∈ entries, e.Fits) ∧ ds = entries.map Entry.declared := by
  induction entries generalizing ds with
  | nil => simp [Entry.AllDeclare]
  | cons e rest ih =>
      rw [Entry.AllDeclare, List.forall₂_cons_left_iff]
      constructor
      · rintro ⟨d, others, hd, hothers, rfl⟩
        obtain ⟨hfits, rfl⟩ := Entry.declaration_eq_ok_iff.1 hd
        obtain ⟨hrest, rfl⟩ := ih.1 hothers
        exact ⟨List.forall_mem_cons.2 ⟨hfits, hrest⟩, rfl⟩
      · rintro ⟨hfits, rfl⟩
        obtain ⟨hhere, hrest⟩ := List.forall_mem_cons.1 hfits
        exact ⟨_, _, Entry.declaration_of_fits hhere, ih.2 ⟨hrest, rfl⟩, rfl⟩

/-- The declarations of rules and of further rules follow each other. -/
theorem Entry.allDeclare_append_iff {entries others : List Entry} {ds : List Declaration} :
    Entry.AllDeclare (entries ++ others) ds ↔ ∃ first rest, Entry.AllDeclare entries first ∧
      Entry.AllDeclare others rest ∧ ds = first ++ rest := by
  constructor
  · intro h
    obtain ⟨hfits, rfl⟩ := Entry.allDeclare_iff.1 h
    obtain ⟨hfirst, hrest⟩ := List.forall_mem_append.1 hfits
    exact ⟨_, _, Entry.allDeclare_iff.2 ⟨hfirst, rfl⟩, Entry.allDeclare_iff.2 ⟨hrest, rfl⟩,
      List.map_append⟩
  · rintro ⟨first, rest, hfirst, hrest, rfl⟩
    exact List.rel_append hfirst hrest

namespace RulesFile

variable {file : RulesFile} {name base : Str}

/-! ## The first link of a walk -/

/-- A walk from a ruleset that extends another one stays where it is or goes on from its base. -/
theorem leads_iff_of_baseOf (hlink : file.baseOf name = some base) {passed : List Str}
    {current : Str} :
    file.Leads name passed current ↔
      passed = [] ∧ current = name ∨
        ∃ rest, passed = rest ++ [name] ∧ file.Leads base rest current := by
  constructor
  · intro h
    induction h with
    | start => exact .inl ⟨rfl, rfl⟩
    | @link passed current next _ hnext ih =>
        rcases ih with ⟨rfl, rfl⟩ | ⟨rest, rfl, hrest⟩
        · -- the first link leads to the base
          rw [hlink, Option.some.injEq] at hnext
          subst hnext
          exact .inr ⟨[], rfl, .start⟩
        · exact .inr ⟨current :: rest, rfl, .link hrest hnext⟩
  · rintro (⟨rfl, rfl⟩ | ⟨rest, rfl, h⟩)
    · exact .start
    · induction h with
      | start => exact .link .start hlink
      | link _ hnext ih => exact .link ih hnext

/-- A walk from a ruleset that extends no other stays where it is. -/
theorem leads_iff_of_no_base (hend : file.baseOf name = none) {passed : List Str}
    {current : Str} : file.Leads name passed current ↔ passed = [] ∧ current = name := by
  constructor
  · intro h
    induction h with
    | start => exact ⟨rfl, rfl⟩
    | link _ hnext ih =>
        obtain ⟨-, rfl⟩ := ih
        rw [hend] at hnext
        cases hnext
  · rintro ⟨rfl, rfl⟩
    exact .start

/-- A walk has passed the place where it starts, unless it is still there. -/
theorem Leads.start_mem {passed : List Str} {current : Str}
    (h : file.Leads name passed current) : name ∈ current :: passed := by
  induction h with
  | start => exact List.mem_cons_self
  | link _ _ ih => exact List.mem_cons_of_mem _ ih

/-! ## Chains -/

/-- The chain of a ruleset is that of its base, and its own name after it. -/
theorem isChain_iff_of_base (hlink : file.baseOf name = some base) {chain : List Str} :
    file.IsChain name chain ↔ ∃ rest, file.IsChain base rest ∧ chain = rest ++ [name] := by
  constructor
  · rintro ⟨last, passed, ruleset, rfl, hleads, hget, hend⟩
    rcases (leads_iff_of_baseOf hlink).1 hleads with ⟨rfl, rfl⟩ | ⟨rest, rfl, hrest⟩
    · -- the ruleset itself is not the last one, since it extends another one
      rw [baseOf_of_get? hget, hend] at hlink
      cases hlink
    · exact ⟨last :: rest, ⟨last, rest, ruleset, rfl, hrest, hget, hend⟩, rfl⟩
  · rintro ⟨-, ⟨last, passed, ruleset, rfl, hleads, hget, hend⟩, rfl⟩
    have h : file.Leads name (passed ++ [name]) last :=
      (leads_iff_of_baseOf hlink).2 (.inr ⟨passed, rfl, hleads⟩)
    exact ⟨last, passed ++ [name], ruleset, rfl, h, hget, hend⟩

/-- The chain of a ruleset that extends no other is its own name. -/
theorem isChain_iff_of_no_base {ruleset : Ruleset} (hget : file.rulesets.get? name = some ruleset)
    (hend : ruleset.base = none) {chain : List Str} :
    file.IsChain name chain ↔ chain = [name] := by
  have hleads {passed : List Str} {current : Str} :
      file.Leads name passed current ↔ passed = [] ∧ current = name :=
    leads_iff_of_no_base (by rw [baseOf_of_get? hget, hend])
  constructor
  · rintro ⟨last, passed, ruleset, rfl, h, -, -⟩
    obtain ⟨rfl, rfl⟩ := hleads.1 h
    rfl
  · rintro rfl
    exact ⟨name, [], ruleset, rfl, .start, hget, hend⟩

/-- A place from which the walk leads to an end has a number of links left. -/
theorem Leads.exists_linksLeft {passed : List Str} {current : Str}
    (h : file.Leads name passed current) {n : Nat} (hn : file.LinksLeft current n) :
    ∃ m, file.LinksLeft name m := by
  induction h generalizing n with
  | start => exact ⟨n, hn⟩
  | link _ hbase ih => exact ih (.succ hbase hn)

/-- No walk from the base of a ruleset leads to that ruleset if the base has a chain, since it would
lead on to the base again. -/
theorem IsChain.ne_of_leads {chain : List Str} (h : file.IsChain base chain)
    (hlink : file.baseOf name = some base) {passed : List Str} {current : Str}
    (hleads : file.Leads base passed current) : current ≠ name := by
  rintro rfl
  obtain ⟨last, way, ruleset, -, hway, hget, hend⟩ := h
  obtain ⟨n, hn⟩ := hway.exists_linksLeft (.zero (by rw [baseOf_of_get? hget, hend]))
  have hback : file.Leads base (current :: passed) base := .link hleads hlink
  exact (List.nodup_cons.1 (hback.nodup_of_linksLeft hn)).1 hleads.start_mem

/-! ## What a ruleset resolves to -/

/-- A ruleset resolves exactly if it has a chain whose rules all fit, and then to their
declarations. -/
theorem resolve_eq_ok_iff {ds : List Declaration} :
    file.resolve name = .ok ds ↔ ∃ chain, file.IsChain name chain ∧
      Entry.AllDeclare ((entriesOf (file.rulesetsOf chain)).map Prod.snd) ds := by
  constructor
  · intro h
    obtain ⟨passed, current, -, hresolution⟩ := exists_resolution file name
    generalize file.visitedAt passed current = visited at hresolution
    rw [h] at hresolution
    cases hresolution with
    | declared hchain hfits =>
        refine ⟨visited, hchain, Entry.allDeclare_iff.2 ⟨?_, ?_⟩⟩
        · rintro e he
          obtain ⟨owned, howned, rfl⟩ := List.mem_map.1 he
          exact hfits owned howned
        · rw [List.map_map]
          rfl
  · rintro ⟨chain, hchain, hdeclare⟩
    obtain ⟨hfits, rfl⟩ := Entry.allDeclare_iff.1 hdeclare
    have hresolution : file.Resolution name chain _ :=
      .declared hchain fun e he => hfits e.2 (List.mem_map_of_mem he)
    rw [hresolution.resolve_eq, List.map_map]
    rfl

theorem rules_rulesetsOf_append {ruleset : Ruleset} (hget : file.rulesets.get? name = some ruleset)
    (names : List Str) :
    (entriesOf (file.rulesetsOf (names ++ [name]))).map Prod.snd =
      (entriesOf (file.rulesetsOf names)).map Prod.snd ++ ruleset.rules := by
  have hlast : file.rulesetsOf [name] = [(name, ruleset)] := rulesetsOf_cons hget []
  have happend :
      file.rulesetsOf (names ++ [name]) = file.rulesetsOf names ++ [(name, ruleset)] := by
    rw [← hlast]
    exact List.filterMap_append
  rw [happend]
  simp [entriesOf, Function.comp_def]

/-- A ruleset that extends no other resolves to its own declarations. -/
theorem resolve_of_no_base {ruleset : Ruleset} (hget : file.rulesets.get? name = some ruleset)
    (hend : ruleset.base = none) {ds : List Declaration} :
    file.resolve name = .ok ds ↔ Entry.AllDeclare ruleset.rules ds := by
  have hrules : (entriesOf (file.rulesetsOf [name])).map Prod.snd = ruleset.rules :=
    rules_rulesetsOf_append hget []
  simp only [resolve_eq_ok_iff, isChain_iff_of_no_base hget hend, exists_eq_left, hrules]

/-- A ruleset that extends another one resolves to what that one resolves to, and its own
declarations after it. -/
theorem resolve_of_base {ruleset : Ruleset} (hget : file.rulesets.get? name = some ruleset)
    (hbase : ruleset.base = some base) {ds : List Declaration} :
    file.resolve name = .ok ds ↔ ∃ inherited own, file.resolve base = .ok inherited ∧
      Entry.AllDeclare ruleset.rules own ∧ ds = inherited ++ own := by
  have hlink : file.baseOf name = some base := by rw [baseOf_of_get? hget, hbase]
  rw [resolve_eq_ok_iff]
  constructor
  · rintro ⟨chain, hchain, hdeclare⟩
    obtain ⟨rest, hrest, rfl⟩ := (isChain_iff_of_base hlink).1 hchain
    rw [rules_rulesetsOf_append hget, Entry.allDeclare_append_iff] at hdeclare
    obtain ⟨inherited, own, hinherited, hown, rfl⟩ := hdeclare
    exact ⟨inherited, own, resolve_eq_ok_iff.2 ⟨rest, hrest, hinherited⟩, hown, rfl⟩
  · rintro ⟨inherited, own, hinherited, hown, rfl⟩
    obtain ⟨rest, hrest, hdeclare⟩ := resolve_eq_ok_iff.1 hinherited
    refine ⟨rest ++ [name], (isChain_iff_of_base hlink).2 ⟨rest, hrest, rfl⟩, ?_⟩
    rw [rules_rulesetsOf_append hget, Entry.allDeclare_append_iff]
    exact ⟨inherited, own, hdeclare, hown, rfl⟩

/-- What a ruleset resolves to begins with what each ruleset on its chain resolves to. -/
theorem Leads.exists_prefix {passed : List Str} {current : Str}
    (h : file.Leads name passed current) {ds : List Declaration}
    (hds : file.resolve name = .ok ds) :
    ∃ inherited, file.resolve current = .ok inherited ∧ inherited <+: ds := by
  induction h with
  | start => exact ⟨ds, hds, List.prefix_refl ds⟩
  | link _ hlink ih =>
      obtain ⟨reached, hreached, hprefix⟩ := ih
      obtain ⟨ruleset, hget, hbase⟩ := exists_ruleset_of_baseOf hlink
      obtain ⟨inherited, own, hinherited, -, rfl⟩ := (resolve_of_base hget hbase).1 hreached
      exact ⟨inherited, hinherited, (List.prefix_append inherited own).trans hprefix⟩

/-- A ruleset that extends another one resolves exactly if that one does and all its own rules are
declarations, and then to what the other one resolves to with its own declarations after it. If the
other one resolves, no walk along the links from it leads back to the ruleset. A ruleset that
extends no other resolves to its own declarations. So what a ruleset resolves to begins with all
that each of the rulesets resolves to that it extends, be it over others. -/
theorem resolve_extends {ruleset : Ruleset} (hget : file.rulesets.get? name = some ruleset) :
    (∀ base, ruleset.base = some base →
      (∀ ds, file.resolve name = .ok ds ↔ ∃ inherited own, file.resolve base = .ok inherited ∧
        Entry.AllDeclare ruleset.rules own ∧ ds = inherited ++ own) ∧
      ∀ inherited, file.resolve base = .ok inherited →
        ∀ passed current, file.Leads base passed current → current ≠ name) ∧
    (ruleset.base = none →
      ∀ ds, file.resolve name = .ok ds ↔ Entry.AllDeclare ruleset.rules ds) ∧
    ∀ ds, file.resolve name = .ok ds → ∀ passed ancestor, file.Leads name passed ancestor →
      ∃ inherited, file.resolve ancestor = .ok inherited ∧ inherited <+: ds := by
  refine ⟨fun base hbase => ⟨fun ds => resolve_of_base hget hbase, ?_⟩,
    fun hend ds => resolve_of_no_base hget hend,
    fun ds hds passed ancestor h => h.exists_prefix hds⟩
  intro inherited hinherited passed current hleads
  obtain ⟨chain, hchain, -⟩ := resolve_eq_ok_iff.1 hinherited
  exact hchain.ne_of_leads (by rw [baseOf_of_get? hget, hbase]) hleads

/-- Three rulesets, each but the last of which extends the next one, and one that extends itself. -/
def nested : RulesFile :=
  ⟨[("top", ⟨some "middle", [⟨.comment, 2, none, some "note"⟩]⟩),
    ("middle", ⟨some "bottom", []⟩),
    ("bottom", ⟨none, [⟨.element, 0, some "a", none⟩]⟩),
    ("loop", ⟨some "loop", []⟩)]⟩

/-- The first of them resolves to what the second one resolves to, which is what the third one does,
and its own declaration after it. -/
theorem resolve_extends_nested :
    nested.rulesets.get? "top" = some ⟨some "middle", [⟨.comment, 2, none, some "note"⟩]⟩ ∧
    nested.resolve "middle" = .ok [⟨.element, 0, some "a", "element:0:a"⟩] ∧
    nested.resolve "top" =
      .ok ([⟨.element, 0, some "a", "element:0:a"⟩] ++ [⟨.comment, 2, none, "note"⟩]) ∧
    ∃ inherited, nested.resolve "bottom" = .ok inherited ∧
      inherited <+: [⟨.element, 0, some "a", "element:0:a"⟩, ⟨.comment, 2, none, "note"⟩] := by
  have hget : nested.rulesets.get? "top" =
      some ⟨some "middle", [⟨.comment, 2, none, some "note"⟩]⟩ := rfl
  have hbottom : nested.resolve "bottom" = .ok [⟨.element, 0, some "a", "element:0:a"⟩] := by
    have hgetBottom : nested.rulesets.get? "bottom" =
        some ⟨none, [⟨.element, 0, some "a", none⟩]⟩ := rfl
    exact (resolve_of_no_base hgetBottom rfl).2 (.cons rfl .nil)
  have hmiddle : nested.resolve "middle" = .ok [⟨.element, 0, some "a", "element:0:a"⟩] := by
    have hgetMiddle : nested.rulesets.get? "middle" = some ⟨some "bottom", []⟩ := rfl
    exact (resolve_of_base hgetMiddle rfl).2 ⟨_, [], hbottom, .nil, rfl⟩
  obtain ⟨hextends, -, hprefix⟩ := resolve_extends hget
  have htop := ((hextends "middle" rfl).1 _).2
    ⟨_, [⟨.comment, 2, none, "note"⟩], hmiddle, .cons rfl .nil, rfl⟩
  have hway : nested.Leads "top" ["middle", "top"] "bottom" := .link (.link .start rfl) rfl
  exact ⟨hget, hmiddle, htop, hprefix _ htop _ _ hway⟩

end RulesFile

end DepthRules.Rule
