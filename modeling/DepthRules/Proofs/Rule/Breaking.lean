import DepthRules.Proofs.Check.Told
import DepthRules.Proofs.Rule.Entry
import DepthRules.Proofs.Rule.Grammar

/-!
# Rules files that cannot be refused

A kind that stands for none is shown when it is refused, and if it is a text with surrogates it
cannot be shown. Nothing else that is refused in a rules file is shown with surrogates, so that the
defects of a file can be told just if no rule has such a kind (`breaks_fileCheck_iff`).
-/

namespace DepthRules

/-- The value of a field, if there is a mapping with one. -/
def Value.field? (v : Value) (name : String) : Option Value :=
  match v.content with
  | .dict entries => lookup? entries name
  | _ => none

namespace Rule

open Text Check

/-- The kind of a rule is a text with surrogates. -/
def EntryBreaks (v : Value) : Prop := ∃ s, v.field? "kind" = some (.str s) ∧ ¬ s.IsChars

/-- That of one of the rules is. -/
def RulesBreak (v : Value) : Prop :=
  ∃ rules, items? v.content = some rules ∧ ∃ rule ∈ rules, EntryBreaks rule

/-- That of a rule of a ruleset is. -/
def RulesetBreaks (v : Value) : Prop :=
  ∃ rules, v.content.field? "rules" = some rules ∧ RulesBreak rules

/-- That of a rule of one of the rulesets is. -/
def RulesetsBreak (v : Value) : Prop :=
  ∃ rulesets, v.content = .dict rulesets ∧ ∃ named ∈ rulesets, RulesetBreaks named.2

/-- That of a rule of a file is. -/
def FileBreaks (v : Value) : Prop :=
  ∃ rulesets, v.field? "rulesets" = some rulesets ∧ RulesetsBreak rulesets

variable {v : Value}

/-! ## Fields of rules -/

/-- The reason for refusing a value can be told if its wording is made of characters. -/
theorem breaks_refuseValue_iff {α : Type} {message : Str} :
    (refuseValue message : Checked α).Breaks ↔ ¬ message.IsChars := by
  have hmessage : (Defect.here (Defect.valueError ++ message)).encodeError? =
      message.encodeError? := congrArg Str.encodeError? List.drop_left
  rw [refuseValue, refuse, Checked.breaks_error_iff]
  simp [hmessage, Str.encodeError?_eq_none_iff]

/-- A value that has no written form can be refused. -/
theorem not_breaks_tooManyDigits {α : Type} :
    ¬ (refuseValue Value.tooManyDigits : Checked α).Breaks := by
  rw [breaks_refuseValue_iff, not_not]
  exact Str.isChars_ofString _

/-- A word that stands for no kind is shown when it is refused. -/
theorem isChars_unknownKind_iff {word : Str} :
    (ReadError.unknownKind word).message.IsChars ↔ word.IsChars := by
  simp [ReadError.message]

theorem readKind_eq_error {word : Str} {cause : ReadError} (h : readKind word = .error cause) :
    cause = .unknownKind word := by
  rw [readKind] at h
  split at h
  · cases h
  · exact (Except.error.inj h).symm

/-- Only a text stands for one that has surrogates. -/
theorem eq_str_of_plain? {s : Str} (h : v.plain? = some s) (hs : ¬ s.IsChars) : v = .str s := by
  rw [Value.plain?.eq_def] at h
  split at h
  · rw [Option.some_inj] at h
    rw [h]
  · cases h
    exact absurd (Str.isChars_ofChars _) hs
  · cases h
    exact absurd (Str.isChars_ofChars _) hs
  · obtain ⟨cs, -, rfl⟩ := Option.map_eq_some_iff.1 h
    exact absurd (Str.isChars_ofChars cs) hs

theorem breaks_checkKind_iff : (checkKind v).Breaks ↔ ∃ s, v = .str s ∧ ¬ s.IsChars := by
  cases hplain : v.plain? with
  | none =>
      rw [checkKind_of_none hplain]
      refine iff_of_false not_breaks_tooManyDigits ?_
      rintro ⟨s, rfl, -⟩
      cases hplain
  | some s =>
      have hbreaks : (checkKind v).Breaks ↔ ¬ s.IsChars := by
        rw [checkKind_of_some hplain]
        cases hread : readKind s with
        | ok kind =>
            -- a text with surrogates is in no case the word of a kind
            have hlower : Str.IsChars (lower s) := by
              rw [readKind_eq_ok_iff.1 hread]
              exact Str.isChars_ofString _
            simp [Str.isChars_of_isChars_lower hlower]
        | error cause =>
            rw [readKind_eq_error hread, breaks_refuseValue_iff, isChars_unknownKind_iff]
      rw [hbreaks]
      constructor
      · exact fun hs => ⟨s, eq_str_of_plain? hplain hs, hs⟩
      · rintro ⟨t, rfl, ht⟩
        rwa [← Option.some_inj.1 hplain]

theorem isChars_acceptDepth {shown : String} {depth? : Option Int} {cause : ReadError}
    (h : acceptDepth shown depth? = .error cause) : cause.message.IsChars := by
  rw [acceptDepth.eq_def] at h
  split at h
  · cases h
    simp [ReadError.message]
  · split at h
    · cases h
      simp [ReadError.message]
    · cases h

theorem not_breaks_checkDepth (v : Value) : ¬ (checkDepth v).Breaks := by
  rw [checkDepth]
  split
  · exact not_breaks_tooManyDigits
  · split
    · simp
    · rename_i cause hcause
      rw [breaks_refuseValue_iff, not_not]
      exact isChars_acceptDepth hcause

theorem not_breaks_checkScalar (v : Value) : ¬ (checkScalar v).Breaks := by
  rw [checkScalar]
  split
  · simp
  · rw [Checked.breaks_map_iff, checkPlain]
    split
    · simp
    · exact not_breaks_tooManyDigits

theorem not_breaks_textOrNull (v : Value) : ¬ (textOrNull v).Breaks := by
  rw [textOrNull]
  split
  · simp
  · rw [Checked.breaks_map_iff]
    exact not_breaks_text _

/-! ## From rules to files -/

/-- What is said of the value of a field is said of what is found in a mapping. -/
theorem exists_field?_iff {name : String} {P : Value → Prop} :
    (∃ w, v.field? name = some w ∧ P w) ↔
      ∃ entries, v.content = .dict entries ∧ ∃ w, Value.lookup? entries name = some w ∧ P w := by
  rw [Value.field?]
  split
  · rename_i entries hentries
    simp [hentries]
  · rename_i hno
    refine iff_of_false (by simp) ?_
    rintro ⟨entries, hentries, -⟩
    exact hno entries hentries

/-- A value that is no mapping can be refused. -/
theorem breaks_fieldsOf_iff {α : Type} {kind : String} {check : List (Value × Value) → Checked α} :
    (fieldsOf kind v >>= check).Breaks ↔
      ∃ entries, v.content = .dict entries ∧ (check entries).Breaks := by
  rw [fieldsOf]
  split
  · rename_i entries hentries
    simp [hentries, bind, Except.bind]
  · rename_i hno
    refine iff_of_false (not_breaks_refuse (by simp)) ?_
    rintro ⟨entries, hentries, -⟩
    exact hno entries hentries

theorem breaks_entryCheck_iff : (Entry.check v).Breaks ↔ EntryBreaks v := by
  have hkind : EntryBreaks v ↔ ∃ w, v.field? "kind" = some w ∧ (checkKind w).Breaks := by
    simp only [EntryBreaks, breaks_checkKind_iff]
    constructor
    · rintro ⟨s, hs, hsurrogate⟩
      exact ⟨_, hs, s, rfl, hsurrogate⟩
    · rintro ⟨_, hs, s, rfl, hsurrogate⟩
      exact ⟨s, hs, hsurrogate⟩
  rw [Entry.check, breaks_fieldsOf_iff, hkind, exists_field?_iff]
  -- of the four fields only the kind is left
  simp only [Checked.breaks_bind_pure_iff, Checked.breaks_both_iff, breaks_required_iff,
    breaks_optional_iff, not_breaks_checkDepth, not_breaks_checkScalar, and_false, exists_false,
    or_false]

theorem breaks_checkRules_iff : (checkRules v).Breaks ↔ RulesBreak v := by
  rw [checkRules, RulesBreak]
  split
  · rename_i hnull
    refine iff_of_false Checked.breaks_ok_iff.1 ?_
    rintro ⟨rules, hrules, -⟩
    rw [hnull] at hrules
    cases hrules
  · rw [Check.list]
    split
    · rename_i rules hrules
      simp [hrules, breaks_itemsFrom_iff, breaks_entryCheck_iff]
    · rename_i hnone
      simpa [hnone] using not_breaks_refuse (Str.isChars_ofString _)

theorem breaks_rulesetCheck_iff : (Ruleset.check v).Breaks ↔ RulesetBreaks v := by
  rw [Ruleset.check, RulesetBreaks]
  split
  · rename_i hnull
    refine iff_of_false Checked.breaks_ok_iff.1 ?_
    rintro ⟨rules, hrules, -⟩
    rw [hnull] at hrules
    cases hrules
  · rw [breaks_fieldsOf_iff, exists_field?_iff]
    -- the base of a ruleset can always be refused
    simp only [Checked.breaks_bind_pure_iff, Checked.breaks_both_iff, breaks_optional_iff,
      breaks_checkRules_iff, not_breaks_textOrNull, and_false, exists_false, false_or]

theorem breaks_rulesets_iff : (mapping Ruleset.check v).Breaks ↔ RulesetsBreak v := by
  rw [breaks_mapping_iff, RulesetsBreak]
  simp only [breaks_rulesetCheck_iff]

/-- The defects of a file can be told, unless the kind of a rule is a text with surrogates. -/
theorem breaks_fileCheck_iff : (RulesFile.check v).Breaks ↔ FileBreaks v := by
  rw [RulesFile.check, breaks_fieldsOf_iff, FileBreaks, exists_field?_iff]
  simp only [Checked.breaks_bind_pure_iff, breaks_required_iff, breaks_rulesets_iff]

end Rule

end DepthRules
