import DepthRules.Text.Blank
import Mathlib.Data.List.DropRight

/-!
# Trimmed text

What stands left and right of a character that is not blank is trimmed on its own
(`trim_append_cons`). From this it follows that the two ends are trimmed independently of each other
and that trimming twice is trimming once. What is left of a text is told by `Strips` without regard
to how it is found (`strips_iff`).
-/

namespace DepthRules.Text

variable {α : Type} [Letter α] {c : α} {cs rest : List α}

theorem trimRight_eq_reverse (cs : List α) : trimRight cs = (trimLeft cs.reverse).reverse := rfl

/-! ## Characters of trimmed text -/

theorem not_mem_trimLeft (h : c ∉ cs) : c ∉ trimLeft cs :=
  fun hmem => h (List.dropWhile_subset _ hmem)

theorem not_mem_trimRight (h : c ∉ cs) : c ∉ trimRight cs := by
  rw [trimRight_eq_reverse, List.mem_reverse]
  exact not_mem_trimLeft (by simpa using h)

/-! ## Around a character that is not blank -/

theorem trimLeft_append_cons (h : isBlank c = false) :
    trimLeft (cs ++ c :: rest) = trimLeft cs ++ c :: rest := by
  have hc : (c :: rest).dropWhile isBlank = c :: rest := List.dropWhile_cons_of_neg (by simp [h])
  rw [trimLeft, List.dropWhile_append, hc]
  -- the text before the character is blank, or some of it stays
  split
  · rename_i hempty
    rw [trimLeft, List.isEmpty_iff.1 hempty, List.nil_append]
  · rfl

theorem trimRight_append_cons (h : isBlank c = false) :
    trimRight (cs ++ c :: rest) = cs ++ c :: trimRight rest := by
  have hreverse : (cs ++ c :: rest).reverse = rest.reverse ++ c :: cs.reverse := by simp
  rw [trimRight_eq_reverse, hreverse, trimLeft_append_cons h, trimRight_eq_reverse]
  simp

/-- A text with a character that is not blank is trimmed to its left and to its right. -/
theorem trim_append_cons (h : isBlank c = false) :
    trim (cs ++ c :: rest) = trimLeft cs ++ c :: trimRight rest := by
  rw [trim, trimLeft_append_cons h, trimRight_append_cons h]

/-! ## Trimming again -/

theorem trimLeft_of_blank (h : ∀ x ∈ cs, isBlank x = true) : trimLeft cs = [] :=
  List.dropWhile_eq_nil_iff.2 h

theorem trimRight_of_blank (h : ∀ x ∈ cs, isBlank x = true) : trimRight cs = [] := by
  rw [trimRight_eq_reverse, trimLeft_of_blank (by simpa using h), List.reverse_nil]

/-- A text is blank or has a character that is not. -/
theorem blank_or_exists (cs : List α) :
    (∀ x ∈ cs, isBlank x = true) ∨
      ∃ before c after, cs = before ++ c :: after ∧ isBlank c = false := by
  by_cases h : ∀ x ∈ cs, isBlank x = true
  · exact .inl h
  · push Not at h
    obtain ⟨c, hmem, hc⟩ := h
    obtain ⟨before, after, rfl⟩ := List.append_of_mem hmem
    exact .inr ⟨before, c, after, rfl, by simpa using hc⟩

/-- The order in which the ends are trimmed does not matter. -/
theorem trimLeft_trimRight (cs : List α) : trimLeft (trimRight cs) = trim cs := by
  rcases blank_or_exists cs with h | ⟨before, c, after, rfl, hc⟩
  · rw [trim, trimRight_of_blank h, trimLeft_of_blank h, trimLeft_nil, trimRight_nil]
  · rw [trimRight_append_cons hc, trimLeft_append_cons hc, trim_append_cons hc]

@[simp] theorem trimLeft_trimLeft (cs : List α) : trimLeft (trimLeft cs) = trimLeft cs :=
  List.dropWhile_idempotent isBlank cs

@[simp] theorem trimRight_trimRight (cs : List α) : trimRight (trimRight cs) = trimRight cs :=
  List.rdropWhile_idempotent isBlank cs

@[simp] theorem trim_trimLeft (cs : List α) : trim (trimLeft cs) = trim cs := by
  rw [trim, trimLeft_trimLeft, trim]

@[simp] theorem trim_trimRight (cs : List α) : trim (trimRight cs) = trim cs := by
  rw [← trimLeft_trimRight, trimRight_trimRight, trimLeft_trimRight]

/-- Trimming twice is trimming once. -/
@[simp] theorem trim_trim (cs : List α) : trim (trim cs) = trim cs :=
  calc trim (trim cs) = trim (trimLeft cs) := trim_trimRight (trimLeft cs)
    _ = trim cs := trim_trimLeft cs

/-- A text without blanks is trimmed. -/
theorem trim_of_forall_not_blank (h : ∀ x ∈ cs, isBlank x = false) : trim cs = cs := by
  have hleft : ∀ xs : List α, (∀ x ∈ xs, isBlank x = false) → trimLeft xs = xs := by
    intro xs hxs
    cases xs with
    | nil => rfl
    | cons x rest => exact List.dropWhile_cons_of_neg (by simp [hxs x List.mem_cons_self])
  rw [trim, hleft cs h, trimRight_eq_reverse, hleft cs.reverse (by simpa using h),
    List.reverse_reverse]

/-! ## What is left of a text -/

/-- `core` is what is left of the text without the blanks at either end. -/
def Strips (cs core : List α) : Prop :=
  ∃ before after, cs = before ++ core ++ after ∧ (∀ c ∈ before, isBlank c = true) ∧
    (∀ c ∈ after, isBlank c = true) ∧ (∀ c ∈ core.head?, isBlank c = false) ∧
    ∀ c ∈ core.getLast?, isBlank c = false

theorem isBlank_head?_trimLeft (cs : List α) : ∀ c ∈ (trimLeft cs).head?, isBlank c = false := by
  intro c hc
  have hnot := List.head?_dropWhile_not isBlank cs
  rw [← trimLeft, hc] at hnot
  simpa using hnot

theorem strips_trim (cs : List α) : Strips cs (trim cs) := by
  refine ⟨cs.takeWhile isBlank, ((trimLeft cs).reverse.takeWhile isBlank).reverse, ?_, ?_, ?_, ?_,
    ?_⟩
  · have hright : trim cs ++ ((trimLeft cs).reverse.takeWhile isBlank).reverse = trimLeft cs := by
      rw [trim, trimRight, ← List.reverse_append, List.takeWhile_append_dropWhile,
        List.reverse_reverse]
    rw [List.append_assoc, hright]
    exact List.takeWhile_append_dropWhile.symm
  · intro c hc
    exact List.mem_takeWhile_imp hc
  · intro c hc
    exact List.mem_takeWhile_imp (List.mem_reverse.1 hc)
  · rw [← trimLeft_trimRight]
    exact isBlank_head?_trimLeft _
  · rw [trim, trimRight_eq_reverse, List.getLast?_reverse]
    exact isBlank_head?_trimLeft _

/-- Exactly what is left without the blanks at the ends is the trimmed text. -/
theorem strips_iff {core : List α} : Strips cs core ↔ trim cs = core := by
  constructor
  · rintro ⟨before, after, rfl, hbefore, hafter, hfirst, hlast⟩
    cases core with
    | nil =>
        have hblank : ∀ c ∈ before ++ [] ++ after, isBlank c = true := by
          intro c hc
          rw [List.append_nil] at hc
          exact (List.mem_append.1 hc).elim (hbefore c) (hafter c)
        rw [trim, trimLeft_of_blank hblank, trimRight_nil]
    | cons c rest =>
        have hc : isBlank c = false := hfirst c rfl
        rw [List.append_assoc, List.cons_append, trim_append_cons hc, trimLeft_of_blank hbefore,
          List.nil_append]
        -- the last character is `c` itself or the last one after it
        rcases List.eq_nil_or_concat' rest with rfl | ⟨init, x, rfl⟩
        · rw [List.nil_append, trimRight_of_blank hafter]
        · have hx : isBlank x = false := by
            apply hlast
            rw [← List.cons_append, List.getLast?_concat]
            rfl
          rw [List.append_assoc, List.singleton_append, trimRight_append_cons hx,
            trimRight_of_blank hafter]
  · rintro rfl
    exact strips_trim cs

/-- Characters that are not blank stay. -/
theorem mem_trim {c : α} (hmem : c ∈ cs) (hc : isBlank c = false) : c ∈ trim cs := by
  obtain ⟨before, after, hcs, hbefore, hafter, -⟩ := strips_trim cs
  rw [hcs, List.mem_append, List.mem_append] at hmem
  rcases hmem with (h | h) | h
  · exact absurd (hbefore c h) (by simp [hc])
  · exact h
  · exact absurd (hafter c h) (by simp [hc])

end DepthRules.Text
