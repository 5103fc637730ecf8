import DepthRules.Proofs.Text.Blank
import DepthRules.Text.Lowercase

/-!
# Texts that are made of characters

A text can be encoded exactly if it is made of characters (`encodeError?_eq_none_iff`). Such a text
is trimmed and lowered as its characters are, and trimming takes no surrogate away, since none is
blank (`chars?_trim`).
-/

namespace DepthRules.Str

open Text

variable {s t : Str} {cs : List Char}

theorem toNat_ofNat {n : Nat} (h : n.isValidChar) : (Char.ofNat n).toNat = n := by
  rw [Char.ofNat, dif_pos h]
  rfl

theorem chars?_eq_some_iff : s.chars? = some cs ↔ s = ofChars cs := by
  constructor
  · intro h
    rw [chars?] at h
    split at h
    · rename_i hchars
      cases h
      rw [ofChars, List.map_map]
      have hcodes : ∀ n ∈ s, (Char.ofNat n).toNat = n := fun n hn => toNat_ofNat (hchars n hn)
      exact ((List.map_congr_left hcodes).trans (List.map_id s)).symm
    · cases h
  · rintro rfl
    exact chars?_ofChars cs

theorem isChars_iff : s.IsChars ↔ ∃ cs, s = ofChars cs := by
  constructor
  · intro h
    exact ⟨_, chars?_eq_some_iff.1 (if_pos h)⟩
  · rintro ⟨cs, rfl⟩
    exact isChars_ofChars cs

theorem chars?_eq_none_iff : s.chars? = none ↔ ¬ s.IsChars := by
  rw [chars?]
  split <;> simp [*]

@[simp] theorem isChars_nil : IsChars [] := fun _ hn => nomatch hn

@[simp] theorem isChars_cons {n : Nat} : IsChars (n :: s) ↔ n.isValidChar ∧ s.IsChars :=
  List.forall_mem_cons

@[simp] theorem isChars_append : IsChars (s ++ t) ↔ s.IsChars ∧ t.IsChars :=
  List.forall_mem_append

@[simp] theorem isChars_ofString (s : String) : IsChars s := isChars_ofChars s.toList

/-- A text of characters is shown as it is. -/
@[simp] theorem lossy_ofString (s : String) : lossy s = s := by
  have hcodes : (ofChars s.toList).flatMap lossyCode = s.toList.flatMap fun c => [c] := by
    rw [ofChars, List.flatMap_map]
    refine List.flatMap_congr fun c _ => ?_
    rw [lossyCode, if_pos (isValidChar_toNat c), Char.ofNat_toNat]
  rw [lossy, ofString, hcodes, List.flatMap_singleton', String.ofList_toList]

/-! ## Encoding -/

theorem encodeErrorFrom?_eq_none_iff (start : Nat) :
    s.encodeErrorFrom? start = none ↔ s.IsChars := by
  induction s generalizing start with
  | nil => simp [encodeErrorFrom?]
  | cons n rest ih =>
      rw [encodeErrorFrom?, isChars_cons]
      by_cases hn : n.isValidChar
      · rw [if_pos hn, ih, and_iff_right hn]
      · simp [hn]

/-- A text can be encoded exactly if it is made of characters. -/
theorem encodeError?_eq_none_iff : s.encodeError? = none ↔ s.IsChars :=
  encodeErrorFrom?_eq_none_iff 0

/-! ## Blanks -/

theorem trimLeft_ofChars (cs : List Char) : trimLeft (ofChars cs) = ofChars (trimLeft cs) :=
  List.dropWhile_map ..

theorem trim_ofChars (cs : List Char) : trim (ofChars cs) = ofChars (trim cs) := by
  have hreverse (ds : List Char) : (ofChars ds).reverse = ofChars ds.reverse :=
    List.map_reverse.symm
  rw [trim, trimLeft_ofChars, trimRight_eq_reverse, hreverse, trimLeft_ofChars, hreverse]
  rfl

theorem isValidChar_of_isBlank {n : Nat} (h : isBlank n = true) : n.isValidChar := by
  simp only [isBlank, Letter.code, id, Bool.or_eq_true, Bool.and_eq_true, decide_eq_true_eq,
    beq_iff_eq] at h
  exact .inl (by omega)

/-- No surrogate is blank, so that trimming takes none away. -/
theorem isChars_trim_iff : IsChars (trim s) ↔ s.IsChars := by
  constructor
  · intro h n hn
    by_cases hblank : isBlank n = true
    · exact isValidChar_of_isBlank hblank
    · exact h n (mem_trim hn (by simpa using hblank))
  · intro h
    obtain ⟨cs, rfl⟩ := isChars_iff.1 h
    rw [trim_ofChars]
    exact isChars_ofChars _

theorem chars?_trim (s : Str) : chars? (trim s) = s.chars?.map trim := by
  cases h : s.chars? with
  | none =>
      rw [chars?_eq_none_iff, ← isChars_trim_iff] at h
      exact chars?_eq_none_iff.2 h
  | some cs =>
      rw [chars?_eq_some_iff.1 h, trim_ofChars, chars?_ofChars, Option.map_some]

/-! ## Lower case -/

theorem lower_ofChars (cs : List Char) : lower (ofChars cs) = ofChars (lowercase cs) := by
  have hcode (c : Char) : lowerCode c.toNat = ofChars (lowerChar c) := by
    rw [lowerCode, if_pos (isValidChar_toNat c), Char.ofNat_toNat]
  rw [lower, lowercase, ofChars, ofChars, List.flatMap_map, List.map_flatMap]
  exact List.flatMap_congr fun c _ => hcode c

/-- Lowering takes no surrogate away. -/
theorem isChars_of_isChars_lower (h : IsChars (lower s)) : s.IsChars := by
  intro n hn
  by_contra hinvalid
  -- a surrogate has no lower case and stays where it is
  have hmem : n ∈ lower s := List.mem_flatMap.2 ⟨n, hn, by simp [lowerCode, hinvalid]⟩
  exact hinvalid (h n hmem)

end DepthRules.Str
