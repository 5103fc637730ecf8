import DepthRules.Json.Reader
import DepthRules.Json.Writer
import DepthRules.Proofs.Text.Integer
import Mathlib.Data.List.TakeDrop

/-!
# Whole numbers in JSON

A whole number is written in decimal, after a minus sign if it is negative, and without needless
zeros, since a zero at the start ends a number in JSON (`eq_nil_of_digitsOf_zero_cons`). It is read
as itself wherever no further part of a number follows (`readScalar?_writtenInt`), if the meaning
sets no limit to its digits.
-/

namespace DepthRules.Json

open Text Decimal

/-- A number ends before this text: it goes on neither with a digit nor with a fraction or an
exponent. -/
structure EndsNumber (rest : List Char) : Prop where
  no_digit : ∀ c ∈ rest.head?, asciiDigit? c = none
  no_fraction : ∀ c ∈ rest.head?, c ≠ '.'
  no_exponent : ∀ c ∈ rest.head?, c ≠ 'e' ∧ c ≠ 'E'

/-! ## Digits -/

theorem asciiDigit?_of_isDigit {c : Char} (h : c.isDigit = true) :
    asciiDigit? c = some (c.toNat - '0'.toNat) := by
  have hascii : '0' ≤ c ∧ c ≤ '9' := Char.isDigit_iff_toNat.1 h
  rw [asciiDigit?, if_pos hascii]

theorem isDigit_of_mem_digitsOf {n : Nat} {c : Char} (h : c ∈ digitsOf n) : c.isDigit = true :=
  Nat.isDigit_of_mem_toDigits (by decide) (by decide) h

theorem asciiNumber_digitsOf (n : Nat) : asciiNumber (digitsOf n) = n := by
  have hdigit : ∀ c ∈ digitsOf n, asciiDigit? c = some (c.toNat - '0'.toNat) := fun c hc =>
    asciiDigit?_of_isDigit (isDigit_of_mem_digitsOf hc)
  rw [asciiNumber, List.filterMap_congr hdigit, List.filterMap_eq_map', ofDigits_map, digitsOf,
    Nat.ofDigitChars_ten_toDigits]

/-- Only zero is written with a zero at the start. -/
theorem eq_nil_of_digitsOf_zero_cons {n : Nat} {more : List Char}
    (h : digitsOf n = '0' :: more) : more = [] := by
  have hdigits : ∀ d ∈ more.map fun c => c.toNat - '0'.toNat, d < 10 := by
    intro d hd
    obtain ⟨c, hc, rfl⟩ := List.mem_map.1 hd
    have hmem : c ∈ digitsOf n := by
      rw [h]
      exact List.mem_cons_of_mem _ hc
    exact decimalValue?_lt (decimalValue?_of_isDigit (isDigit_of_mem_digitsOf hmem))
  -- the digits after the zero stand for the same number, so that they are enough to write it
  have hn : n = ofDigits (more.map fun c => c.toNat - '0'.toNat) := by
    rw [ofDigits_map]
    conv_lhs => rw [← Nat.ofDigitChars_ten_toDigits (n := n), ← digitsOf, h,
      Nat.ofDigitChars_cons]
    rfl
  have hlt := ofDigits_lt hdigits
  rw [← hn, List.length_map] at hlt
  cases more with
  | nil => rfl
  | cons c more =>
      have hlength := (Nat.length_toDigits_le_iff (by decide) (Nat.succ_pos _)).2 hlt
      rw [← digitsOf, h, List.length_cons] at hlength
      exact absurd hlength (Nat.not_succ_le_self _)

theorem takeDigits_append {ds rest : List Char} (hds : ∀ c ∈ ds, c.isDigit = true)
    (hrest : EndsNumber rest) : takeDigits (ds ++ rest) = (ds, rest) := by
  have hdigit : ∀ c ∈ ds, (asciiDigit? c).isSome = true := fun c hc => by
    rw [asciiDigit?_of_isDigit (hds c hc), Option.isSome_some]
  have hnone : ∀ c ∈ rest.head?, ¬ (asciiDigit? c).isSome = true := fun c hc => by
    rw [hrest.no_digit c hc, Option.isSome_none]
    exact Bool.false_ne_true
  have htake : rest.takeWhile (fun c => (asciiDigit? c).isSome) = [] := by
    cases rest with
    | nil => rfl
    | cons c rest => exact List.takeWhile_cons_of_neg (hnone c rfl)
  have hdrop : rest.dropWhile (fun c => (asciiDigit? c).isSome) = rest := by
    cases rest with
    | nil => rfl
    | cons c rest => exact List.dropWhile_cons_of_neg (hnone c rfl)
  rw [takeDigits, List.span_eq_takeWhile_dropWhile, List.takeWhile_append_of_pos hdigit,
    List.dropWhile_append_of_pos hdigit, htake, hdrop, List.append_nil]

/-! ## Numbers -/

theorem readFraction_of_ends {rest : List Char} (h : EndsNumber rest) :
    readFraction rest = ([], rest) := by
  rw [readFraction.eq_def]
  split
  · exact absurd rfl (h.no_fraction '.' rfl)
  · rfl

theorem readExponent_of_ends {rest : List Char} (h : EndsNumber rest) :
    readExponent rest = (0, false, rest) := by
  cases rest with
  | nil => rfl
  | cons c rest =>
      obtain ⟨hlower, hupper⟩ := h.no_exponent c rfl
      simp only [readExponent, beq_iff_eq, hlower, hupper, Bool.or_eq_true, or_self, if_false]

variable {α : Type} {m : Meaning α}

/-- The digits of a number are read as the number. -/
theorem readNumber?_digitsOf (hm : m.mostDigits = none) (negative : Bool) (n : Nat)
    {rest : List Char} (hrest : EndsNumber rest) :
    readNumber? m negative (digitsOf n ++ rest) =
      some (m.int (if negative then -(n : Int) else n), rest) := by
  obtain ⟨d, more, hmore⟩ : ∃ d more, digitsOf n = d :: more :=
    List.exists_cons_of_ne_nil Nat.toDigits_ne_nil
  -- all the digits make up the number, also where the first one is a zero
  have hwhole : (if d == '0' then (['0'], more ++ rest) else (d :: more, rest)) =
      (digitsOf n, rest) := by
    rw [hmore]
    split
    · rename_i hzero
      obtain rfl : d = '0' := beq_iff_eq.1 hzero
      rw [eq_nil_of_digitsOf_zero_cons hmore, List.nil_append]
    · rfl
  rw [readNumber?, takeDigits_append (fun _ => isDigit_of_mem_digitsOf) hrest, hmore]
  simp only [hwhole, readFraction_of_ends hrest, readExponent_of_ends hrest, hm,
    asciiNumber_digitsOf, List.isEmpty_nil, Bool.not_false, Bool.and_self, if_true,
    Option.any_none, Bool.false_eq_true, if_false]

/-- A text that starts with a digit starts with a number. -/
theorem readScalar?_of_isDigit {c : Char} (hc : c.isDigit = true) (cs : List Char) :
    readScalar? m (c :: cs) = readNumber? m false (c :: cs) := by
  have hne : ∀ d : Char, d.isDigit = false → ¬ d = c := by
    rintro d hd rfl
    rw [hc] at hd
    cases hd
  have hword : (words m).findSome? (fun w => (afterWord? w.1 (c :: cs)).map (w.2, ·)) = none := by
    simp [words, afterWord?, hne]
  rw [readScalar?, hword]
  rintro rest ⟨rfl, rfl⟩
  exact hne '-' rfl rfl

/-- A text that starts with a minus sign and a digit starts with a negative number. -/
theorem readScalar?_of_minus {c : Char} (hc : c.isDigit = true) (cs : List Char) :
    readScalar? m ('-' :: c :: cs) = readNumber? m true (c :: cs) := by
  have hne : ¬ 'I' = c := by
    rintro rfl
    cases hc
  have hword : (words m).findSome? (fun w => (afterWord? w.1 ('-' :: c :: cs)).map (w.2, ·)) =
      none := by
    simp [words, afterWord?, hne]
  rw [readScalar?, hword]

/-- A written number starts with a digit or with a minus sign. -/
theorem writtenInt_start (i : Int) :
    ∃ c more, writtenInt i = c :: more ∧ (c = '-' ∨ c.isDigit = true) := by
  obtain ⟨d, more, hmore⟩ : ∃ d more, digitsOf i.natAbs = d :: more :=
    List.exists_cons_of_ne_nil Nat.toDigits_ne_nil
  rw [writtenInt]
  split
  · exact ⟨_, _, rfl, .inl rfl⟩
  · exact ⟨d, more, hmore, .inr (isDigit_of_mem_digitsOf (hmore ▸ List.mem_cons_self))⟩

/-- A number that is written is read. -/
theorem readScalar?_writtenInt (hm : m.mostDigits = none) (i : Int) {rest : List Char}
    (hrest : EndsNumber rest) :
    readScalar? m (writtenInt i ++ rest) = some (m.int i, rest) := by
  obtain ⟨d, more, hmore⟩ : ∃ d more, digitsOf i.natAbs = d :: more :=
    List.exists_cons_of_ne_nil Nat.toDigits_ne_nil
  have hd : d.isDigit = true := isDigit_of_mem_digitsOf (hmore ▸ List.mem_cons_self)
  have hread := fun negative => readNumber?_digitsOf hm negative i.natAbs hrest
  rw [hmore, List.cons_append] at hread
  rw [writtenInt, hmore]
  split
  · rename_i hneg
    have hi : -(i.natAbs : Int) = i := by omega
    rw [List.cons_append, List.cons_append, readScalar?_of_minus hd, hread, if_pos rfl, hi]
  · rename_i hneg
    have hi : (i.natAbs : Int) = i := by omega
    rw [List.cons_append, readScalar?_of_isDigit hd, hread, if_neg Bool.false_ne_true, hi]

end DepthRules.Json
