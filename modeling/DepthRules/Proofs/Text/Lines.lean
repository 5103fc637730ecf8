import DepthRules.Proofs.Text.Split
import DepthRules.Text.Lines
import Mathlib.Data.List.Basic

/-!
# Lines of a text put together

Rows without a line end, joined by line feeds, are the lines of the text they make, except that a
last row with nothing in it opens no line (`lines_intercalate`). With no other line end in the text,
there is nothing to make the same (`unifyNewlines_of_not_mem`).
-/

namespace DepthRules.Text

/-- No character of the row ends a line. -/
def OneLine {α : Type} [Letter α] (row : List α) : Prop := ∀ c ∈ row, isLineEnd c = false

theorem OneLine.return_not_mem {row : List Char} (h : OneLine row) : '\r' ∉ row :=
  fun hmem => absurd (h _ hmem) (by decide)

/-! ## One line end -/

/-- A text without carriage returns stays as it is. -/
theorem unifyNewlines_of_not_mem {cs : List Char} (h : '\r' ∉ cs) : unifyNewlines cs = cs := by
  induction cs with
  | nil => rfl
  | cons c rest ih =>
      obtain ⟨hc, hrest⟩ := List.ne_and_not_mem_of_not_mem_cons h
      rw [unifyNewlines, if_neg hc.symm, ih hrest]
      rintro rest rfl -
      exact hc rfl

/-- A text of rows has no other line end than the line feeds between them. -/
theorem return_not_mem_intercalate {rows : List (List Char)} (h : ∀ row ∈ rows, OneLine row) :
    '\r' ∉ ['\n'].intercalate rows := by
  intro hmem
  rcases mem_of_mem_intercalate hmem with heq | hrow
  · exact absurd heq (by decide)
  · obtain ⟨row, hrow, hin⟩ := List.mem_flatten.1 hrow
    exact (h row hrow).return_not_mem hin

/-! ## Rows -/

theorem linesFrom_cons {c : Char} (hc : c ≠ '\r') (line rest : List Char)
    (done : List (List Char)) :
    linesFrom line (c :: rest) done =
      if isLineEnd c then linesFrom [] rest (line.reverse :: done)
      else linesFrom (c :: line) rest done := by
  rw [linesFrom]
  rintro rest rfl -
  exact hc rfl

/-- A row goes into the line now open. -/
theorem linesFrom_append {row : List Char} (h : OneLine row) (line rest : List Char)
    (done : List (List Char)) :
    linesFrom line (row ++ rest) done = linesFrom (row.reverse ++ line) rest done := by
  induction row generalizing line with
  | nil => rfl
  | cons c row ih =>
      obtain ⟨hc, hrow⟩ := List.forall_mem_cons.1 h
      have hreturn : c ≠ '\r' := fun heq => by rw [heq] at hc; exact absurd hc (by decide)
      rw [List.cons_append, linesFrom_cons hreturn, if_neg (by simp [hc]), ih hrow]
      simp

/-- The rows of a text put together from the rows. -/
theorem linesFrom_intercalate {rows : List (List Char)} (h : ∀ row ∈ rows, OneLine row)
    (done : List (List Char)) :
    linesFrom [] (['\n'].intercalate rows) done =
      done.reverse ++ if rows.getLast? = some [] then rows.dropLast else rows := by
  induction rows generalizing done with
  | nil => simp [linesFrom]
  | cons row rows ih =>
      obtain ⟨hrow, hrows⟩ := List.forall_mem_cons.1 h
      cases rows with
      | nil =>
          -- the last row is left to the end of the text
          have hend := linesFrom_append hrow [] [] done
          rw [List.append_nil, List.append_nil] at hend
          rw [List.intercalate_singleton, hend, linesFrom]
          cases row <;> simp
      | cons next rows =>
          rw [List.intercalate_cons_cons, List.append_assoc, linesFrom_append hrow,
            List.singleton_append, linesFrom_cons (by decide), if_pos (by decide), ih hrows,
            List.append_nil, List.reverse_reverse, List.reverse_cons, List.getLast?_cons_cons]
          split <;> simp

/-- The lines of rows with line feeds between them are the rows, but for a last one that is
empty. -/
theorem lines_intercalate {rows : List (List Char)} (h : ∀ row ∈ rows, OneLine row) :
    lines (['\n'].intercalate rows) =
      if rows.getLast? = some [] then rows.dropLast else rows :=
  linesFrom_intercalate h []

end DepthRules.Text
