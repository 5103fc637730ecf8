import DepthRules.Proofs.Check.Ensures
import DepthRules.Proofs.Text.Characters

/-!
# Defects that cannot be told

A defect whose message has surrogates cannot be told, and then no other one is: a refusal is either
that of the encoding or all defects (`told_eq_encoding_iff`, `told_eq_defects_iff`). A check that is
made of the checks of parts has such a defect exactly if one of these has one.
-/

namespace DepthRules

variable {α β : Type}

namespace Checked

/-- The check finds a defect whose message cannot be encoded. -/
def Breaks (c : Checked α) : Prop :=
  ∃ defects, c = .error defects ∧ ∃ d ∈ defects, d.encodeError? ≠ none

@[simp] theorem breaks_ok_iff {a : α} : Breaks (.ok a) ↔ False := by simp [Breaks]

@[simp] theorem breaks_error_iff {defects : List Defect} :
    Breaks (.error defects : Checked α) ↔ ∃ d ∈ defects, d.encodeError? ≠ none := by
  simp [Breaks]

/-! ## What is told -/

/-- Nothing but the error in encoding is told exactly if there is one. -/
theorem told_eq_encoding_iff {c : Checked α} :
    (∃ cause, c.told = .error (.encoding cause)) ↔ c.Breaks := by
  cases c with
  | ok a => simp [told]
  | error defects =>
      rw [told, breaks_error_iff]
      -- of several defects that cannot be told the first one gives the cause
      cases hfound : defects.findSome? Defect.encodeError? with
      | none =>
          rw [List.findSome?_eq_none_iff] at hfound
          refine iff_of_false (by simp) ?_
          rintro ⟨d, hd, hbreaks⟩
          exact hbreaks (hfound d hd)
      | some cause =>
          obtain ⟨d, hd, hcause⟩ := List.exists_of_findSome?_eq_some hfound
          exact iff_of_true ⟨cause, rfl⟩ ⟨d, hd, by simp [hcause]⟩

/-- The defects are told exactly if all of them can be. -/
theorem told_eq_defects_iff {c : Checked α} {defects : List Defect} :
    c.told = .error (.defects defects) ↔ c = .error defects ∧ ¬ c.Breaks := by
  cases c with
  | ok a => simp [told]
  | error found =>
      rw [← told_eq_encoding_iff, told]
      cases found.findSome? Defect.encodeError? <;> simp

/-- What a check refuses is refused when it is told. -/
theorem exists_told_error_iff {c : Checked α} :
    (∃ refusal, c.told = .error refusal) ↔ ∃ defects, c = .error defects := by
  cases c with
  | ok a => simp [told]
  | error defects =>
      rw [told]
      cases defects.findSome? Defect.encodeError? <;> simp

/-! ## Checks made of checks -/

@[simp] theorem breaks_within_iff {c : Checked α} {key : String} :
    Breaks (within key c) ↔ c.Breaks := by
  cases c with
  | ok a => simp [within]
  | error defects =>
      have hunder (d : Defect) : (d.under key).encodeError? = d.encodeError? := rfl
      simp [within, hunder]

@[simp] theorem breaks_both_iff {c : Checked α} {d : Checked β} :
    Breaks (both c d) ↔ c.Breaks ∨ d.Breaks := by
  cases c <;> cases d <;> simp [both, or_and_right, exists_or]

@[simp] theorem breaks_map_iff {c : Checked α} {f : α → β} : Breaks (c.map f) ↔ c.Breaks := by
  cases c <;> simp [Except.map]

@[simp] theorem breaks_bind_pure_iff {c : Checked α} {f : α → β} :
    Breaks (c >>= fun a => pure (f a)) ↔ c.Breaks := by
  cases c <;> simp [bind, Except.bind, pure, Except.pure]

theorem breaks_all_iff {cs : List (Checked α)} : Breaks (all cs) ↔ ∃ c ∈ cs, c.Breaks := by
  induction cs with
  | nil => simp [all]
  | cons c rest ih =>
      -- both what the first check finds and what the others find is kept
      have hall : all (c :: rest) = (both c (all rest)).map fun ab => ab.1 :: ab.2 := by
        rw [all]
        cases both c (all rest) <;> rfl
      rw [hall, breaks_map_iff, breaks_both_iff, ih, List.exists_mem_cons_iff]

end Checked

namespace Check

open Checked

/-- A message of characters can be told. -/
theorem not_breaks_refuse {message : Str} (h : message.IsChars) :
    ¬ Breaks (refuse message : Checked α) := by
  rintro ⟨_, ⟨⟩, d, hd, hbreaks⟩
  rw [List.mem_singleton.1 hd] at hbreaks
  exact hbreaks (Str.encodeError?_eq_none_iff.2 fun n hn => h n (List.mem_of_mem_drop hn))

theorem not_breaks_text (v : Value) : ¬ (text v).Breaks := by
  rw [text]
  split
  · simp
  · split
    · simp
    · exact not_breaks_refuse (Str.isChars_ofString _)
  · exact not_breaks_refuse (Str.isChars_ofString _)

variable {check : Value → Checked α} {entries : List (Value × Value)} {name : String}

theorem breaks_required_iff :
    (required entries name check).Breaks ↔
      ∃ w, Value.lookup? entries name = some w ∧ (check w).Breaks := by
  rw [required, breaks_within_iff]
  cases Value.lookup? entries name with
  | none => simpa using not_breaks_refuse (Str.isChars_ofString _)
  | some w => simp

theorem breaks_optional_iff {missing : α} :
    (optional entries name missing check).Breaks ↔
      ∃ w, Value.lookup? entries name = some w ∧ (check w).Breaks := by
  rw [optional]
  cases Value.lookup? entries name with
  | none => simp
  | some w => simp

theorem breaks_itemsFrom_iff {items : List Value} {position : Nat} :
    (Checked.all (itemsFrom check position items)).Breaks ↔
      ∃ item ∈ items, (check item).Breaks := by
  rw [breaks_all_iff]
  induction items generalizing position with
  | nil => simp [itemsFrom]
  | cons item items ih =>
      rw [itemsFrom, List.exists_mem_cons_iff, List.exists_mem_cons_iff, ih, breaks_within_iff]

/-- Keys can be told, whatever they are. -/
theorem breaks_mapping_iff {v : Value} :
    (mapping check v).Breaks ↔
      ∃ entries, v.content = .dict entries ∧ ∃ e ∈ entries, (check e.2).Breaks := by
  rw [mapping]
  split
  · rename_i entries hentries
    rw [breaks_map_iff, breaks_all_iff]
    simp [not_breaks_text, hentries]
  · rename_i hno
    refine iff_of_false (not_breaks_refuse (Str.isChars_ofString _)) ?_
    rintro ⟨entries, hentries, -⟩
    exact hno entries hentries

end Check

end DepthRules
