import DepthRules.Console.Plain

/-!
# Escaped texts

An escaped text opens no tag: as markup it shows the text itself (`plain_escape`). Only a lone
backslash at its end is shown twice. What is pending in the escape of a text are the backslashes
just before the place it has come to; they are shown as they stand unless a tag follows, and before
a tag they are written twice, with one more for the bracket (`plainFrom_escapeFrom`).
-/

namespace DepthRules.Console

/-! ## Tags of escaped texts -/

theorem closes_slashes (n : Nat) (s : Str) :
    closes (List.replicate n '\\'.toNat ++ s) = closes s := by
  induction n with
  | zero => rfl
  | succ n ih => exact ih

theorem closes_escapeFrom (n : Nat) (s : Str) :
    closes (escapeFrom n s) = closes s := by
  -- every bracket of the escape is one of the text, with backslashes before it at the most
  induction s generalizing n with
  | nil =>
      have hslashes := closes_slashes n []
      rwa [List.append_nil] at hslashes
  | cons c rest ih =>
      rw [escapeFrom]
      split
      · rename_i hslash
        rw [ih, beq_iff_eq.1 hslash]
        rfl
      · split
        · rename_i htag
          have hbracket : c = '['.toNat := by simp at htag; exact htag.1
          rw [closes_slashes, hbracket]
          rfl
        · rw [closes_slashes, closes, closes, ih]

theorem exists_escapeFrom_succ (n : Nat) (s : Str) :
    ∃ more, escapeFrom (n + 1) s = '\\'.toNat :: more := by
  induction s generalizing n with
  | nil => exact ⟨_, rfl⟩
  | cons c rest ih =>
      rw [escapeFrom]
      split
      · exact ih (n + 1)
      · split
        · exact ⟨_, rfl⟩
        · exact ⟨_, rfl⟩

/-- Escaping does not change what starts a tag after a bracket. -/
theorem isTag_escapeFrom (s : Str) : isTag (escapeFrom 0 s) = isTag s := by
  cases s with
  | nil => rfl
  | cons c rest =>
      rw [escapeFrom]
      split
      · rename_i hslash
        obtain ⟨more, hmore⟩ := exists_escapeFrom_succ 0 rest
        rw [hmore, beq_iff_eq.1 hslash]
        rfl
      · split
        · rename_i htag
          have hbracket : c = '['.toNat := by simp at htag; exact htag.1
          rw [hbracket]
          rfl
        · exact congrArg (startsTag c && ·) (closes_escapeFrom 0 rest)

/-! ## What escaped texts show -/

theorem plainFrom_slashes (k n : Nat) (s : Str) :
    plainFrom k false (List.replicate n '\\'.toNat ++ s) = plainFrom (k + n) false s := by
  induction n generalizing k with
  | zero => rfl
  | succ n ih =>
      have hnext := ih (k + 1)
      rw [Nat.add_right_comm] at hnext
      exact hnext

/-- The escape of a text shows the text, after the backslashes that are pending. -/
theorem plainFrom_escapeFrom (n : Nat) (s : Str) :
    plainFrom 0 false (escapeFrom n s) = List.replicate n '\\'.toNat ++ s := by
  induction s generalizing n with
  | nil =>
      have hslashes := plainFrom_slashes 0 n []
      rw [List.append_nil, Nat.zero_add] at hslashes
      rw [escapeFrom, hslashes, List.append_nil]
      rfl
  | cons c rest ih =>
      rw [escapeFrom]
      split
      · rename_i hslash
        rw [ih, beq_iff_eq.1 hslash, List.replicate_succ', List.append_assoc]
        rfl
      · rename_i hslash
        split
        · rename_i htag
          obtain ⟨hbracket, hrest⟩ : c = '['.toNat ∧ isTag rest = true := by simpa using htag
          -- of the backslashes before a tag half are shown, and the odd one takes the bracket
          have hhalf : (2 * n + 1) / 2 = n := by omega
          have hodd : (2 * n + 1) % 2 = 1 := by omega
          rw [plainFrom_slashes, Nat.zero_add, plainFrom, hbracket, isTag_escapeFrom, hrest, hhalf,
            hodd, ih]
          rfl
        · rename_i htag
          rw [plainFrom_slashes, Nat.zero_add, plainFrom, isTag_escapeFrom, ih, if_neg hslash,
            if_neg htag]
          rfl

/-! ## A backslash at the end -/

theorem closes_append_slash (s : Str) : closes (s ++ "\\") = closes s := by
  induction s with
  | nil => rfl
  | cons c rest ih => rw [List.cons_append, closes, closes, ih]

theorem isTag_append_slash (s : Str) : isTag (s ++ "\\") = isTag s := by
  cases s with
  | nil => rfl
  | cons c rest => rw [List.cons_append, isTag, isTag, closes_append_slash]

theorem escapeFrom_append_slash (n : Nat) (s : Str) :
    escapeFrom n (s ++ "\\") = escapeFrom n s ++ "\\" := by
  induction s generalizing n with
  | nil => exact List.replicate_succ'
  | cons c rest ih =>
      rw [List.cons_append, escapeFrom, escapeFrom, isTag_append_slash, ih, ih]
      split
      · rfl
      · split <;> simp

/-- An escaped text is shown as it is, with a lone backslash at its end doubled. -/
theorem plain_escape (s : Str) :
    plain (escape s) = if endsInLoneSlash (escapeFrom 0 s) then s ++ "\\" else s := by
  rw [plain, escape]
  split
  · rw [← escapeFrom_append_slash, plainFrom_escapeFrom]
    rfl
  · rw [plainFrom_escapeFrom]
    rfl

end DepthRules.Console
