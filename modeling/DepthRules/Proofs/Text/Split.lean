import DepthRules.Text.Split

/-!
# Pieces of a text

A text is cut at its first separator into what was put together around it
(`splitFirst_append_cons`). The pieces between all separators are those that the library's
`List.splitOn` gives, so that its lemmas on joining pieces again hold for them.
-/

namespace DepthRules.Text

variable {α : Type} [DecidableEq α]

/-! ## The first separator -/

theorem splitFirst_of_not_mem {sep : α} {cs : List α} (h : sep ∉ cs) :
    splitFirst sep cs = (cs, none) := by
  induction cs with
  | nil => rfl
  | cons c rest ih =>
      obtain ⟨hc, hrest⟩ := List.ne_and_not_mem_of_not_mem_cons h
      rw [splitFirst, if_neg (Ne.symm hc), ih hrest]

/-- A text is cut at the first separator. -/
theorem splitFirst_append_cons {sep : α} {before : List α} (h : sep ∉ before)
    (after : List α) : splitFirst sep (before ++ sep :: after) = (before, some after) := by
  induction before with
  | nil => exact splitFirst_cons_self sep after
  | cons c rest ih =>
      obtain ⟨hc, hrest⟩ := List.ne_and_not_mem_of_not_mem_cons h
      rw [List.cons_append, splitFirst, if_neg (Ne.symm hc), ih hrest]

/-! ## All separators -/

theorem splitAll_eq_splitOn (sep : α) (cs : List α) : splitAll sep cs = cs.splitOn sep := by
  induction cs with
  | nil => rfl
  | cons c rest ih =>
      rw [splitAll, List.splitOn_cons_eq_if_modifyHead, ih]
      by_cases hsep : c = sep
      · rw [if_pos hsep, if_pos (beq_iff_eq.2 hsep)]
      · rw [if_neg hsep, if_neg (fun h => hsep (beq_iff_eq.1 h))]
        cases hpieces : rest.splitOn sep with
        | nil => exact absurd hpieces (List.splitOn_ne_nil sep rest)
        | cons piece pieces => rfl

/-- Pieces without the separator are found again in the text made by joining them. -/
theorem splitAll_intercalate {sep : α} {pieces : List (List α)} (hne : pieces ≠ [])
    (h : ∀ piece ∈ pieces, sep ∉ piece) : splitAll sep ([sep].intercalate pieces) = pieces := by
  rw [splitAll_eq_splitOn, List.splitOn_intercalate sep h hne]

omit [DecidableEq α] in
/-- A text made by joining pieces has no characters but those of the pieces and the separator. -/
theorem mem_of_mem_intercalate {sep c : α} {pieces : List (List α)}
    (h : c ∈ [sep].intercalate pieces) : c = sep ∨ c ∈ pieces.flatten := by
  induction pieces with
  | nil => exact absurd h List.not_mem_nil
  | cons piece pieces ih =>
      cases pieces with
      | nil =>
          rw [List.intercalate_singleton] at h
          exact .inr (by simpa using h)
      | cons next pieces =>
          rw [List.intercalate_cons_cons, List.append_assoc, List.mem_append, List.mem_append,
            List.mem_singleton] at h
          rw [List.flatten_cons, List.mem_append]
          rcases h with hpiece | hsep | hrest
          · exact .inr (.inl hpiece)
          · exact .inl hsep
          · exact (ih hrest).imp id .inr

/-- No piece holds the separator. -/
theorem not_mem_of_mem_splitAll {sep : α} {cs piece : List α}
    (h : piece ∈ splitAll sep cs) : sep ∉ piece := by
  induction cs generalizing piece with
  | nil =>
      rw [splitAll, List.mem_singleton] at h
      rw [h]
      exact List.not_mem_nil
  | cons c rest ih =>
      rw [splitAll] at h
      by_cases hsep : c = sep
      · rw [if_pos hsep] at h
        rcases List.mem_cons.1 h with rfl | h
        · exact List.not_mem_nil
        · exact ih h
      · rw [if_neg hsep] at h
        cases hpieces : splitAll sep rest with
        | nil =>
            rw [splitAll_eq_splitOn] at hpieces
            exact absurd hpieces (List.splitOn_ne_nil sep rest)
        | cons first pieces =>
            rw [hpieces] at h ih
            -- `c` goes into the first piece, the others are those of the rest
            rcases List.mem_cons.1 h with rfl | h
            · rintro hmem
              rcases List.mem_cons.1 hmem with rfl | hmem
              · exact hsep rfl
              · exact ih List.mem_cons_self hmem
            · exact ih (List.mem_cons_of_mem first h)

end DepthRules.Text
