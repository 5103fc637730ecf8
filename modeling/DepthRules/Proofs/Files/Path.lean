import DepthRules.Files.Path
import DepthRules.Proofs.Text.Split

/-!
# Paths in normal form

The normal form of a path has the same slashes at its start and the same parts as the path, so that
it is its own normal form (`normalize_normalize`).
-/

namespace DepthRules.Path

open Text

/-! ## Parts -/

/-- What a part of a path is: neither empty nor a single point, and without slashes. -/
structure IsPart (part : List Char) : Prop where
  ne_nil : part ≠ []
  ne_point : part ≠ ['.']
  no_slash : '/' ∉ part

theorem isPart_of_mem_parts {cs part : List Char} (h : part ∈ parts cs) : IsPart part := by
  obtain ⟨hpiece, hnamed⟩ := List.mem_filter.1 h
  rw [Bool.and_eq_true, bne_iff_ne, bne_iff_ne] at hnamed
  exact ⟨hnamed.1, hnamed.2, not_mem_of_mem_splitAll hpiece⟩

/-- A slash at the start makes no part. -/
theorem parts_slash (cs : List Char) : parts ('/' :: cs) = parts cs := by
  rw [parts, splitAll, if_pos rfl]
  rfl

/-- Parts are found again in the path made by joining them. -/
theorem parts_intercalate {names : List (List Char)} (h : ∀ name ∈ names, IsPart name) :
    parts (['/'].intercalate names) = names := by
  cases names with
  | nil => rfl
  | cons name rest =>
      rw [parts, splitAll_intercalate (List.cons_ne_nil name rest) fun x hx => (h x hx).no_slash]
      refine List.filter_eq_self.2 fun x hx => ?_
      rw [Bool.and_eq_true, bne_iff_ne, bne_iff_ne]
      exact ⟨(h x hx).ne_nil, (h x hx).ne_point⟩

/-! ## The start of a path -/

/-- There are three starts of a normal path. -/
theorem root_cases (cs : List Char) : root cs = [] ∨ root cs = ['/'] ∨ root cs = ['/', '/'] := by
  rw [root.eq_def]
  split <;> simp

section Body

variable {body : List Char} (h : body.head? ≠ some '/')

include h

theorem root_of_no_slash : root body = [] := by
  cases body with
  | nil => rfl
  | cons c body => simp_all [root.eq_def]

theorem root_of_one_slash : root ('/' :: body) = ['/'] := by
  cases body with
  | nil => rfl
  | cons c body => simp_all [root.eq_def]

theorem root_of_two_slashes : root ('/' :: '/' :: body) = ['/', '/'] := by
  cases body with
  | nil => rfl
  | cons c body => simp_all [root.eq_def]

/-- The slashes of a start are found again before anything that does not start with one. -/
theorem root_append (cs : List Char) : root (root cs ++ body) = root cs := by
  rcases root_cases cs with hroot | hroot | hroot
  · rw [hroot, List.nil_append, root_of_no_slash h]
  · rw [hroot, List.singleton_append, root_of_one_slash h]
  · rw [hroot, List.cons_append, List.singleton_append, root_of_two_slashes h]

end Body

/-- Joined parts do not start with a slash. -/
theorem head?_intercalate_ne {names : List (List Char)} (h : ∀ name ∈ names, IsPart name) :
    (['/'].intercalate names).head? ≠ some '/' := by
  cases names with
  | nil => exact fun hslash => by cases hslash
  | cons name rest =>
      -- the first character is that of the first part, which has one that is no slash
      obtain ⟨hne, -, hslash⟩ := h name List.mem_cons_self
      cases name with
      | nil => exact absurd rfl hne
      | cons c name =>
          have hc : c ≠ '/' := fun hc => hslash (by rw [hc]; exact List.mem_cons_self)
          cases rest with
          | nil => simpa using hc
          | cons next rest => simpa [List.intercalate_cons_cons] using hc

theorem parts_append (cs body : List Char) : parts (root cs ++ body) = parts body := by
  rcases root_cases cs with hroot | hroot | hroot
  · rw [hroot, List.nil_append]
  · rw [hroot, List.singleton_append, parts_slash]
  · rw [hroot, List.cons_append, List.singleton_append, parts_slash, parts_slash]

/-! ## Normal forms -/

theorem normalizeChars_eq (cs : List Char) :
    normalizeChars cs =
      if root cs ++ ['/'].intercalate (parts cs) = [] then ['.']
      else root cs ++ ['/'].intercalate (parts cs) := by
  rw [normalizeChars]
  split
  · rename_i h
    rw [if_pos h]
  · rename_i h
    rw [if_neg fun hnil => h hnil]

theorem normalizeChars_normalizeChars (cs : List Char) :
    normalizeChars (normalizeChars cs) = normalizeChars cs := by
  have hparts : ∀ name ∈ parts cs, IsPart name := fun name => isPart_of_mem_parts
  rw [normalizeChars_eq cs]
  split
  · rfl
  · rename_i hne
    rw [normalizeChars_eq, root_append (head?_intercalate_ne hparts), parts_append,
      parts_intercalate hparts, if_neg hne]

/-- A normal form is its own normal form. -/
theorem normalize_normalize (path : String) : normalize (normalize path) = normalize path := by
  rw [normalize, normalize, String.toList_ofList, normalizeChars_normalizeChars]

example : normalize "//a/./b//" = "//a/b" := by rfl

end DepthRules.Path
