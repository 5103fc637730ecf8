import DepthRules.Proofs.Rule.Breaking
import DepthRules.Proofs.Yaml.Reading
import Mathlib

/-!
# How a rulesets file is refused

A rulesets file that is UTF-8 gives rules or is refused as one that is malformed, unless it has a
misfit, a scalar that is no value of the type it is given, or a rule whose kind is a text with
surrogates. A misfit is not refused but gets out as it is, and of such a kind the error in encoding
gets out, whatever ruleset is asked for (`readRuleset_of_utf8`).
-/

namespace DepthRules.Rule

open Text

/-- Of an error: it is a reason for which rules are refused. -/
def IsRefusal (e : LoadError) : Prop := ∃ cause, e = .rules cause

variable {files : Files} {path : String} {bytes : List UInt8}

theorem parseRulesets_of_misfit {fault : Yaml.Fault} (hmisfit : Yaml.Misfit fault)
    (hfault : Yaml.read bytes = .error fault) :
    parseRulesets path bytes = .error (.scalar fault) := by
  have hscalar := hmisfit.isScalar
  unfold parseRulesets
  rw [hfault]
  cases fault with
  | malformed => exact absurd hscalar id
  | unfinished => exact absurd hscalar id
  | encoding => exact absurd hscalar id
  | _ => rfl

/-- Where a kind with surrogates cannot be refused, the error in encoding gets out. -/
theorem parseRulesets_of_breaks (path : String) {value : Value}
    (hvalue : Yaml.read bytes = .ok value) (hbreaks : FileBreaks value) :
    ∃ cause, RulesFile.read value = .error (.encoding cause) ∧
      parseRulesets path bytes = .error (.untold cause) := by
  obtain ⟨cause, hcause⟩ := Checked.told_eq_encoding_iff.2 (breaks_fileCheck_iff.2 hbreaks)
  have hread : RulesFile.read value = .error (.encoding cause) := hcause
  refine ⟨cause, hread, ?_⟩
  unfold parseRulesets
  rw [hvalue]
  dsimp only
  rw [hread]

theorem meets_parseRulesets {cs : List Char} (htext : decodeUtf8 bytes = .ok cs)
    (hnone : ∀ fault, Yaml.read bytes = .error fault → ¬ Yaml.Misfit fault)
    (hkinds : ∀ value, Yaml.read bytes = .ok value → ¬ FileBreaks value) :
    Meets (parseRulesets path bytes) IsRefusal fun _ => True := by
  have hread := Yaml.meets_read htext
  unfold parseRulesets
  cases hvalue : Yaml.read bytes with
  | ok value =>
      dsimp only
      split
      · exact .error ⟨_, rfl⟩
      · rename_i cause hcause
        have hbreaks := breaks_fileCheck_iff.1 (Checked.told_eq_encoding_iff.1 ⟨cause, hcause⟩)
        exact absurd hbreaks (hkinds value hvalue)
      · exact .ok trivial
  | error fault =>
      cases hread.of_error hvalue with
      | malformed => exact .error ⟨_, rfl⟩
      | unfinished => exact .error ⟨_, rfl⟩
      | misfit hmisfit => exact absurd hmisfit (hnone fault hvalue)

theorem readRuleset_eq (hread : files.read path = .ok bytes) (name : Str) :
    readRuleset files path name =
      (parseRulesets path bytes >>= fun file => (file.resolve name).mapError .rules) := by
  rw [readRuleset_eq_rulesetsAt, rulesetsAt, hread]
  rfl

theorem meets_readRuleset {cs : List Char} (hread : files.read path = .ok bytes)
    (htext : decodeUtf8 bytes = .ok cs)
    (hnone : ∀ fault, Yaml.read bytes = .error fault → ¬ Yaml.Misfit fault)
    (hkinds : ∀ value, Yaml.read bytes = .ok value → ¬ FileBreaks value) (name : Str) :
    Meets (readRuleset files path name) IsRefusal fun _ => True := by
  rw [readRuleset_eq hread]
  refine (meets_parseRulesets htext hnone hkinds).bind fun file _ => ?_
  cases file.resolve name with
  | ok declarations => exact .ok trivial
  | error cause => exact .error ⟨cause, rfl⟩

/-- A ruleset of a file that is UTF-8 is read or refused, just if the file has no misfit and no kind
with surrogates. The fault of a misfit gets out instead, or the error in encoding such a kind. -/
theorem readRuleset_of_utf8 {cs : List Char} (hread : files.read path = .ok bytes)
    (htext : decodeUtf8 bytes = .ok cs) (name : Str) :
    (((∃ declarations, readRuleset files path name = .ok declarations) ∨
        ∃ cause, readRuleset files path name = .error (.rules cause)) ↔
      (∀ fault, Yaml.read bytes = .error fault → ¬ Yaml.Misfit fault) ∧
        ∀ value, Yaml.read bytes = .ok value → ¬ FileBreaks value) ∧
    (∀ fault, Yaml.read bytes = .error fault → Yaml.Misfit fault →
      readRuleset files path name = .error (.scalar fault)) ∧
    ∀ value, Yaml.read bytes = .ok value → FileBreaks value →
      ∃ cause, RulesFile.read value = .error (.encoding cause) ∧
        readRuleset files path name = .error (.untold cause) := by
  have hscalar (fault : Yaml.Fault) (hfault : Yaml.read bytes = .error fault)
      (hmisfit : Yaml.Misfit fault) : readRuleset files path name = .error (.scalar fault) := by
    rw [readRuleset_eq hread, parseRulesets_of_misfit hmisfit hfault]
    rfl
  have hkind (value : Value) (hvalue : Yaml.read bytes = .ok value) (hbreaks : FileBreaks value) :
      ∃ cause, RulesFile.read value = .error (.encoding cause) ∧
        readRuleset files path name = .error (.untold cause) := by
    obtain ⟨cause, hcause, hparse⟩ := parseRulesets_of_breaks path hvalue hbreaks
    refine ⟨cause, hcause, ?_⟩
    rw [readRuleset_eq hread, hparse]
    rfl
  refine ⟨⟨fun hdue => ⟨?_, ?_⟩, fun ⟨hnone, hkinds⟩ => ?_⟩, hscalar, hkind⟩
  · -- what is read or refused is not what gets out for a misfit
    intro fault hfault hmisfit
    rw [hscalar fault hfault hmisfit] at hdue
    rcases hdue with ⟨declarations, ⟨⟩⟩ | ⟨cause, ⟨⟩⟩
  · intro value hvalue hbreaks
    obtain ⟨cause, -, hout⟩ := hkind value hvalue hbreaks
    rw [hout] at hdue
    rcases hdue with ⟨declarations, ⟨⟩⟩ | ⟨cause, ⟨⟩⟩
  · have hmeets := meets_readRuleset hread htext hnone hkinds name
    cases hresult : readRuleset files path name with
    | ok declarations => exact .inl ⟨declarations, rfl⟩
    | error e =>
        obtain ⟨cause, rfl⟩ := hmeets.of_error hresult
        exact .inr ⟨cause, rfl⟩

/-- A tree with one rulesets file. -/
def withRulesets (text : String) : Files := ⟨[], [], [([['r']], text.toUTF8.data.toList)]⟩

/-- A bracket that is never closed makes a file malformed, which is no misfit. -/
theorem readRuleset_of_utf8_bracket :
    (withRulesets "[").read "r" = .ok "[".toUTF8.data.toList ∧
    decodeUtf8 "[".toUTF8.data.toList = .ok ['['] ∧
    ((∃ declarations, readRuleset (withRulesets "[") "r" "default" = .ok declarations) ∨
      ∃ cause, readRuleset (withRulesets "[") "r" "default" = .error (.rules cause)) := by
  have hread : (withRulesets "[").read "r" = .ok "[".toUTF8.data.toList := by cbv
  have htext : decodeUtf8 "[".toUTF8.data.toList = .ok ['['] := by cbv
  have hfault : Yaml.read "[".toUTF8.data.toList = .error .malformed := by cbv
  refine ⟨hread, htext, (readRuleset_of_utf8 hread htext "default").1.2 ⟨?_, ?_⟩⟩
  · intro fault h hmisfit
    cases hfault.symm.trans h
    exact hmisfit.isScalar
  · intro value h
    cases hfault.symm.trans h

/-- An hour after the last one of the day is a misfit, for which a file is neither read nor
refused. -/
theorem readRuleset_hour :
    (withRulesets "2020-01-01 25:00:00").read "r" =
      .ok "2020-01-01 25:00:00".toUTF8.data.toList ∧
    decodeUtf8 "2020-01-01 25:00:00".toUTF8.data.toList = .ok "2020-01-01 25:00:00".toList ∧
    ¬ ((∃ declarations,
        readRuleset (withRulesets "2020-01-01 25:00:00") "r" "default" = .ok declarations) ∨
      ∃ cause, readRuleset (withRulesets "2020-01-01 25:00:00") "r" "default" =
        .error (.rules cause)) := by
  have hread : (withRulesets "2020-01-01 25:00:00").read "r" =
      .ok "2020-01-01 25:00:00".toUTF8.data.toList := by cbv
  have hfault : Yaml.read "2020-01-01 25:00:00".toUTF8.data.toList =
      .error (.calendar .hour) := by cbv
  have hmisfit : Yaml.Misfit (.calendar .hour) :=
    .text (show Yaml.Tag.IsConverted .timestamp from trivial)
      (show Yaml.valueOfText .timestamp (.text "2020-01-01 25:00:00".toList) = _ by cbv)
  have hout : readRuleset (withRulesets "2020-01-01 25:00:00") "r" "default" =
      .error (.scalar (.calendar .hour)) := by
    rw [readRuleset_eq hread, parseRulesets_of_misfit hmisfit hfault]
    rfl
  refine ⟨hread, by cbv, ?_⟩
  rintro (⟨declarations, h⟩ | ⟨cause, h⟩)
  · rw [hout] at h
    cases h
  · rw [hout] at h
    cases h

end DepthRules.Rule
