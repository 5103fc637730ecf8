import DepthRules.Proofs.Text.Blank
import DepthRules.Text.Integer
import Mathlib.Algebra.Group.Nat.Defs
import Mathlib.Data.List.Induction

/-!
# Decimal numbers

A natural number written in decimal is a literal that stands for it, as long as a literal may have
so many digits (`integerLiteral?_toString`). A number that a literal stands for has no more digits
than the literal (`length_toString_of_integerLiteral?`), so what has been read can be written and
read again.
-/

namespace DepthRules.Text

/-! ## Values of digits -/

theorem decimalValue?_lt {c : Char} {d : Nat} (h : decimalValue? c = some d) : d < 10 := by
  rw [decimalValue?] at h
  split at h
  · rename_i hascii
    have hlast : c.toNat ≤ '9'.toNat := hascii.2
    have hnine : '9'.toNat = '0'.toNat + 9 := rfl
    cases h
    omega
  · split at h
    · cases h
    · obtain ⟨first, hfind, rfl⟩ := Option.map_eq_some_iff.1 h
      have hrange := List.find?_some hfind
      simp only [Bool.and_eq_true, decide_eq_true_eq] at hrange
      omega

theorem decimalValue?_of_isDigit {c : Char} (h : c.isDigit = true) :
    decimalValue? c = some (c.toNat - '0'.toNat) := by
  have hascii : '0' ≤ c ∧ c ≤ '9' := Char.isDigit_iff_toNat.1 h
  rw [decimalValue?, if_pos hascii]

theorem isBlank_of_isDigit {c : Char} (h : c.isDigit = true) : isBlank c = false := by
  have hascii := Char.isDigit_iff_toNat.1 h
  have hzero : '0'.toNat = 48 := rfl
  have hnine : '9'.toNat = 57 := rfl
  simp only [isBlank, Letter.code, Bool.or_eq_false_iff, Bool.and_eq_false_iff,
    decide_eq_false_iff_not, beq_eq_false_iff_ne]
  omega

/-! ## Literals of digits -/

theorem forall_lt_of_cons {c : Char} {rest : List Char} {digits : List Nat}
    (h : (do let d ← decimalValue? c; let ds ← digitsAfterMark? rest; return d :: ds) = some digits)
    (hrest : ∀ ds, digitsAfterMark? rest = some ds → ∀ d ∈ ds, d < 10) : ∀ d ∈ digits, d < 10 := by
  simp only [Option.bind_eq_bind, Option.bind_eq_some_iff] at h
  obtain ⟨d, hd, ds, hds, hall⟩ := h
  cases hall
  exact List.forall_mem_cons.2 ⟨decimalValue?_lt hd, hrest ds hds⟩

/-- What the digits of a literal stand for is below ten. -/
theorem digitsAfterMark?_lt (cs : List Char) :
    ∀ digits, digitsAfterMark? cs = some digits → ∀ d ∈ digits, d < 10 := by
  induction cs using digitsAfterMark?.induct with
  | case1 =>
      rintro digits ⟨⟩
  | case2 c =>
      intro digits h
      obtain ⟨d, hd, rfl⟩ := Option.map_eq_some_iff.1 h
      simpa using decimalValue?_lt hd
  | case3 c rest ih =>
      intro digits h
      exact forall_lt_of_cons h ih
  | case4 c rest hmark hmore ih =>
      intro digits h
      rw [digitsAfterMark?] at h
      · exact forall_lt_of_cons h ih
      · exact hmark
      · exact hmore

/-- Digits without marks between them are the digits of a literal. -/
theorem digitsAfterMark?_of_isDigit {cs : List Char} (hne : cs ≠ [])
    (h : ∀ c ∈ cs, c.isDigit = true) :
    digitsAfterMark? cs = some (cs.map fun c => c.toNat - '0'.toNat) := by
  induction cs using digitsAfterMark?.induct with
  | case1 => exact absurd rfl hne
  | case2 c => rw [digitsAfterMark?, decimalValue?_of_isDigit (by simpa using h)]; rfl
  | case3 c rest => simp at h
  | case4 c rest hmark hmore ih =>
      obtain ⟨hc, hrest⟩ := List.forall_mem_cons.1 h
      rw [digitsAfterMark?, decimalValue?_of_isDigit hc, ih hmark hrest]
      · rfl
      · exact hmark
      · exact hmore

/-! ## Numbers and their digits -/

theorem ofDigits_map (cs : List Char) :
    ofDigits (cs.map fun c => c.toNat - '0'.toNat) = Nat.ofDigitChars 10 cs 0 := by
  rw [ofDigits, List.foldl_map, Nat.ofDigitChars]

/-- So many digits stand for a number below that power of ten. -/
theorem ofDigits_lt {digits : List Nat} (h : ∀ d ∈ digits, d < 10) :
    ofDigits digits < 10 ^ digits.length := by
  -- the digits are read from the first one on, so the last one is split off
  induction digits using List.reverseRecOn with
  | nil => exact Nat.one_pos
  | append_singleton digits d ih =>
      simp only [List.mem_append, List.mem_singleton] at h
      have hinit := ih fun x hx => h x (.inl hx)
      have hlast := h d (.inr rfl)
      have hsum : ofDigits (digits ++ [d]) = 10 * ofDigits digits + d := by
        rw [ofDigits, List.foldl_append]
        rfl
      rw [hsum, List.length_append, List.length_singleton, Nat.pow_succ]
      omega

theorem natLiteral?_toDigits {n : Nat} (h : (Nat.toDigits 10 n).length ≤ maxDigits) :
    natLiteral? (Nat.toDigits 10 n) = some n := by
  have hdigits := digitsAfterMark?_of_isDigit Nat.toDigits_ne_nil
    fun c hc => Nat.isDigit_of_mem_toDigits (b := 10) (n := n) (by decide) (by decide) hc
  simp only [natLiteral?, hdigits, Option.bind_eq_bind, Option.bind_some, List.length_map]
  rw [if_pos h, ofDigits_map, Nat.ofDigitChars_ten_toDigits]

theorem length_toDigits_of_natLiteral? {cs : List Char} {n : Nat} (h : natLiteral? cs = some n) :
    (Nat.toDigits 10 n).length ≤ maxDigits := by
  simp only [natLiteral?, Option.bind_eq_bind, Option.bind_eq_some_iff] at h
  obtain ⟨digits, hdigits, hn⟩ := h
  split at hn
  · rename_i hlength
    cases hn
    have hlt := ofDigits_lt (digitsAfterMark?_lt cs digits hdigits)
    rw [Nat.length_toDigits_le_iff (by decide) (by decide)]
    exact hlt.trans_le (Nat.pow_le_pow_right (by decide) hlength)
  · cases hn

/-! ## Integers and their digits -/

/-- Blanks around a literal do not matter. -/
@[simp] theorem integerLiteral?_trim (cs : List Char) :
    integerLiteral? (trim cs) = integerLiteral? cs := by
  rw [integerLiteral?, trim_trim, integerLiteral?]

theorem toList_toString_natCast (n : Nat) : (toString (n : Int)).toList = Nat.toDigits 10 n := by
  have hsame : toString (n : Int) = toString n := rfl
  rw [hsame, Nat.toString_eq_ofList_toDigits, String.toList_ofList]

/-- A literal without a sign stands for a natural number. -/
theorem signedLiteral?_of_isDigit {cs : List Char} (h : ∀ c ∈ cs, c.isDigit = true) :
    signedLiteral? cs = (natLiteral? cs).map fun n : Nat => (n : Int) := by
  cases cs with
  | nil => rfl
  | cons c rest =>
      have hc : c.isDigit = true := h c List.mem_cons_self
      rw [signedLiteral?]
      -- neither sign is a digit
      · rintro ds ⟨rfl, rfl⟩
        exact absurd hc (by decide)
      · rintro ds ⟨rfl, rfl⟩
        exact absurd hc (by decide)

/-- The sign of a literal is followed by the literal of its amount. -/
theorem exists_natLiteral? {cs : List Char} {n : Int} (h : signedLiteral? cs = some n) :
    ∃ digits, natLiteral? digits = some n.natAbs := by
  rw [signedLiteral?.eq_def] at h
  split at h <;> obtain ⟨m, hm, rfl⟩ := Option.map_eq_some_iff.1 h
  · exact ⟨_, by rwa [Int.natAbs_neg, Int.natAbs_natCast]⟩
  · exact ⟨_, by rwa [Int.natAbs_natCast]⟩
  · exact ⟨_, by rwa [Int.natAbs_natCast]⟩

/-- A number that is not negative is written as a literal that stands for it. -/
theorem integerLiteral?_toString {n : Int} (hn : 0 ≤ n) (h : (toString n).length ≤ maxDigits) :
    integerLiteral? (toString n).toList = some n := by
  obtain ⟨m, rfl⟩ := Int.eq_ofNat_of_zero_le hn
  rw [← String.length_toList, toList_toString_natCast] at h
  have hdigits : ∀ c ∈ Nat.toDigits 10 m, c.isDigit = true := fun c hc =>
    Nat.isDigit_of_mem_toDigits (by decide) (by decide) hc
  rw [toList_toString_natCast, integerLiteral?,
    trim_of_forall_not_blank fun c hc => isBlank_of_isDigit (hdigits c hc),
    signedLiteral?_of_isDigit hdigits, natLiteral?_toDigits h, Option.map_some]

/-- A number that is not negative is written with no more digits than a literal may have, if it is
read from one. -/
theorem length_toString_of_integerLiteral? {cs : List Char} {n : Int} (hn : 0 ≤ n)
    (h : integerLiteral? cs = some n) : (toString n).length ≤ maxDigits := by
  -- with a minus sign the number is zero, so its amount is the number in any case
  obtain ⟨digits, hdigits⟩ := exists_natLiteral? h
  obtain ⟨m, rfl⟩ := Int.eq_ofNat_of_zero_le hn
  rw [← String.length_toList, toList_toString_natCast]
  exact length_toDigits_of_natLiteral? hdigits

end DepthRules.Text
