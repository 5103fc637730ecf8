import DepthRules.Json.Reader
import DepthRules.Json.Writer
import DepthRules.Proofs.Text.Characters
import Mathlib.Tactic.SplitIfs

/-!
# Strings in JSON

A text is written with ASCII characters only, and if it is made of characters, reading up to its
closing quote gives it back (`readString?_written`). Reading follows the writing code point by code
point: the escape of one is read in one step (`readString?_escapedCode`), also that of one beyond
the first plane, which is written as two code units. Surrogates are left out, since two of them that
stand next to each other can be read as one character.
-/

namespace DepthRules

namespace Text

theorem hexValue?_hexDigit {d : Nat} (h : d < 16) : hexValue? (hexDigit d) = some d := by
  have hall : ∀ d : Fin 16, hexValue? (hexDigit d) = some d.val := by decide
  exact hall ⟨d, h⟩

theorem hexDigit_ascii {d : Nat} (h : d < 16) : (hexDigit d).toNat < 128 := by
  have hall : ∀ d : Fin 16, (hexDigit d).toNat < 128 := by decide
  exact hall ⟨d, h⟩

theorem hexDigits_four (n : Nat) :
    hexDigits 4 n = [hexDigit (n / 16 / 16 / 16 % 16), hexDigit (n / 16 / 16 % 16),
      hexDigit (n / 16 % 16), hexDigit (n % 16)] := rfl

end Text

namespace Json

open Text

/-! ## Code units -/

theorem readUnit?_hexDigits {n : Nat} (h : n < 0x10000) (rest : List Char) :
    readUnit? (hexDigits 4 n ++ rest) = some (n, rest) := by
  have hdigit : ∀ m : Nat, hexValue? (hexDigit (m % 16)) = some (m % 16) := fun m =>
    hexValue?_hexDigit (Nat.mod_lt m (by decide))
  rw [hexDigits_four]
  simp only [List.cons_append, List.nil_append, readUnit?, hdigit, Option.bind_eq_bind,
    Option.bind_some, Option.pure_def, Option.some.injEq, Prod.mk.injEq, and_true]
  omega

/-- A code unit that does not begin a pair is a code point by itself. -/
theorem readUnicode?_unit {n : Nat} (h : n < 0x10000) (hlone : n < 0xD800 ∨ 0xDC00 ≤ n)
    (rest : List Char) : readUnicode? (hexDigits 4 n ++ rest) = some (n, rest) := by
  have hnot : ¬ (0xD800 ≤ n ∧ n < 0xDC00) := by omega
  rw [readUnicode?, readUnit?_hexDigits h, Option.bind_eq_bind, Option.bind_some]
  exact if_neg hnot

/-- Two code units that make a pair are read together. -/
theorem readUnicode?_pair {high low : Nat} (hhigh : 0xD800 ≤ high ∧ high < 0xDC00)
    (hlow : 0xDC00 ≤ low ∧ low < 0xE000) (rest : List Char) :
    readUnicode? (hexDigits 4 high ++ (unitEscape low ++ rest)) =
      some (0x10000 + (high - 0xD800) * 0x400 + (low - 0xDC00), rest) := by
  have hfirst : high < 0x10000 := by omega
  have hsecond : low < 0x10000 := by omega
  rw [readUnicode?, readUnit?_hexDigits hfirst]
  simp only [Option.bind_eq_bind, Option.bind_some, hhigh, hlow, and_self, if_true, unitEscape,
    List.cons_append, readUnit?_hexDigits hsecond, Option.pure_def]

/-! ## Code points -/

/-- A code point whose character is written as it is. -/
theorem readString?_plain {c : Char} (hquote : c ≠ '"') (hslash : c ≠ '\\')
    (hspace : 0x20 ≤ c.toNat) (fuel : Nat) (rest : List Char) (done : Str) :
    readString? (fuel + 1) (c :: rest) done = readString? fuel rest (c.toNat :: done) := by
  have hcontrol : ¬ c.toNat < 0x20 := by omega
  rw [readString?.eq_def]
  simp only [beq_iff_eq, if_neg hquote, if_neg hslash, if_neg hcontrol]

/-- A code point that is written by a backslash and a letter. -/
theorem readString?_short {e c : Char} (h : shortEscape? e = some c) (hu : e ≠ 'u') (fuel : Nat)
    (rest : List Char) (done : Str) :
    readString? (fuel + 1) ('\\' :: e :: rest) done = readString? fuel rest (c.toNat :: done) := by
  rw [readString?, if_neg (by decide), if_pos (by decide), h]
  · rfl
  · exact fun he => hu he

/-- A code point that is written by its code units. -/
theorem readString?_unicode {cs rest : List Char} {n : Nat}
    (h : readUnicode? cs = some (n, rest)) (fuel : Nat) (done : Str) :
    readString? (fuel + 1) ('\\' :: 'u' :: cs) done = readString? fuel rest (n :: done) := by
  rw [readString?, if_neg (by decide), if_pos (by decide)]
  simp only [h, Option.bind_eq_bind, Option.bind_some]

/-- How a code point is written: as it is, by a backslash and a letter, by one code unit, or by a
pair of them. -/
theorem escapedCode_cases (n : Nat) :
    (escapedCode n = [Char.ofNat n] ∧ n ≠ '"'.toNat ∧ n ≠ '\\'.toNat ∧ 0x20 ≤ n ∧ n ≤ 0x7E) ∨
    (∃ e c, escapedCode n = ['\\', e] ∧ shortEscape? e = some c ∧ c.toNat = n ∧ e ≠ 'u' ∧
      e.toNat < 128) ∨
    (escapedCode n = unitEscape n ∧ n < 0x10000) ∨
    (escapedCode n = unitEscape (0xD800 + (n - 0x10000) / 0x400) ++
      unitEscape (0xDC00 + (n - 0x10000) % 0x400) ∧ 0x10000 ≤ n) := by
  rw [escapedCode]
  simp only [beq_iff_eq, Bool.and_eq_true, decide_eq_true_eq]
  -- the cases in the order of `escapedCode`, which begins with the seven short ones
  split_ifs with hquote hslash hline hreturn htab hback hfeed hplain hplane
  · exact .inr (.inl ⟨'"', '"', rfl, by decide, hquote.symm, by decide, by decide⟩)
  · exact .inr (.inl ⟨'\\', '\\', rfl, by decide, hslash.symm, by decide, by decide⟩)
  · exact .inr (.inl ⟨'n', '\n', rfl, by decide, hline.symm, by decide, by decide⟩)
  · exact .inr (.inl ⟨'r', '\r', rfl, by decide, hreturn.symm, by decide, by decide⟩)
  · exact .inr (.inl ⟨'t', '\t', rfl, by decide, htab.symm, by decide, by decide⟩)
  · exact .inr (.inl ⟨'b', Char.ofNat 8, rfl, by decide, hback.symm, by decide, by decide⟩)
  · exact .inr (.inl ⟨'f', Char.ofNat 12, rfl, by decide, hfeed.symm, by decide, by decide⟩)
  · exact .inl ⟨rfl, hquote, hslash, hplain.1, hplain.2⟩
  · exact .inr (.inr (.inl ⟨rfl, hplane⟩))
  · exact .inr (.inr (.inr ⟨rfl, Nat.not_lt.1 hplane⟩))

/-- The escape of a character is read in one step. -/
theorem readString?_escapedCode {n : Nat} (h : n.isValidChar) (fuel : Nat) (rest : List Char)
    (done : Str) :
    readString? (fuel + 1) (escapedCode n ++ rest) done = readString? fuel rest (n :: done) := by
  have hvalid : n < 0xD800 ∨ 0xDFFF < n ∧ n < 0x110000 := h
  rcases escapedCode_cases n with ⟨hn, hquote, hslash, hspace, -⟩ | ⟨e, c, hn, he, hc, hu, -⟩ |
    ⟨hn, hplane⟩ | ⟨hn, hplane⟩
  · have hcode : (Char.ofNat n).toNat = n := Str.toNat_ofNat h
    have hne : ∀ c : Char, n ≠ c.toNat → Char.ofNat n ≠ c := by
      rintro c hne rfl
      exact hne hcode.symm
    rw [hn, List.singleton_append,
      readString?_plain (hne _ hquote) (hne _ hslash) (hcode.symm ▸ hspace), hcode]
  · rw [hn, ← hc]
    exact readString?_short he hu fuel rest done
  · rw [hn, unitEscape, List.cons_append, List.cons_append]
    exact readString?_unicode (readUnicode?_unit hplane (by omega) rest) fuel done
  · -- the code point is that of the pair by which it is written
    have hpair : 0x10000 + (0xD800 + (n - 0x10000) / 0x400 - 0xD800) * 0x400 +
        (0xDC00 + (n - 0x10000) % 0x400 - 0xDC00) = n := by omega
    have hhigh : 0xD800 ≤ 0xD800 + (n - 0x10000) / 0x400 ∧
        0xD800 + (n - 0x10000) / 0x400 < 0xDC00 := by omega
    have hlow : 0xDC00 ≤ 0xDC00 + (n - 0x10000) % 0x400 ∧
        0xDC00 + (n - 0x10000) % 0x400 < 0xE000 := by omega
    have hunits := readUnicode?_pair hhigh hlow rest
    rw [hpair] at hunits
    rw [hn, List.append_assoc]
    exact readString?_unicode hunits fuel done

theorem escapedCode_ne_nil (n : Nat) : escapedCode n ≠ [] := by
  rcases escapedCode_cases n with ⟨hn, -⟩ | ⟨e, c, hn, -⟩ | ⟨hn, -⟩ | ⟨hn, -⟩ <;>
    simp [hn, unitEscape]

/-! ## Texts -/

/-- Reading up to the closing quote gives the text that was written. -/
theorem readString?_written {s : Str} (hs : s.IsChars) {fuel : Nat} (h : s.length < fuel)
    (rest : List Char) (done : Str) :
    readString? fuel (s.flatMap escapedCode ++ '"' :: rest) done =
      some (done.reverse ++ s, rest) := by
  induction s generalizing fuel done with
  | nil =>
      obtain ⟨fuel, rfl⟩ : ∃ n, fuel = n + 1 := ⟨fuel - 1, by omega⟩
      rw [List.flatMap_nil, List.nil_append, readString?.eq_def]
      simp
  | cons n s ih =>
      obtain ⟨hn, hs⟩ := List.forall_mem_cons.1 hs
      rw [List.length_cons] at h
      obtain ⟨fuel, rfl⟩ : ∃ n, fuel = n + 1 := ⟨fuel - 1, by omega⟩
      rw [List.flatMap_cons, List.append_assoc, readString?_escapedCode hn, ih hs (by omega)]
      simp

/-- A text is written with at least as many characters as it has code points. -/
theorem length_le_flatMap_escapedCode (s : Str) : s.length ≤ (s.flatMap escapedCode).length := by
  induction s with
  | nil => exact Nat.le_refl 0
  | cons n s ih =>
      have hone := List.length_pos_iff.2 (escapedCode_ne_nil n)
      rw [List.flatMap_cons, List.length_append, List.length_cons]
      omega

/-! ## ASCII -/

/-- All characters are ASCII. -/
def IsAscii (cs : List Char) : Prop := ∀ c ∈ cs, c.toNat < 128

instance (cs : List Char) : Decidable (IsAscii cs) := List.decidableBAll _ cs

@[simp] theorem isAscii_nil : IsAscii [] := List.forall_mem_nil _

@[simp] theorem isAscii_cons {c : Char} {cs : List Char} :
    IsAscii (c :: cs) ↔ c.toNat < 128 ∧ IsAscii cs := List.forall_mem_cons

@[simp] theorem isAscii_append {cs ds : List Char} :
    IsAscii (cs ++ ds) ↔ IsAscii cs ∧ IsAscii ds := List.forall_mem_append

@[simp] theorem isAscii_unitEscape (n : Nat) : IsAscii (unitEscape n) := by
  have hdigit : ∀ m : Nat, (hexDigit (m % 16)).toNat < 128 := fun m =>
    hexDigit_ascii (Nat.mod_lt m (by decide))
  simp [unitEscape, hexDigits_four, hdigit]

theorem isAscii_escapedCode (n : Nat) : IsAscii (escapedCode n) := by
  rcases escapedCode_cases n with ⟨hn, -, -, -, hlast⟩ | ⟨e, c, hn, -, -, -, he⟩ | ⟨hn, -⟩ |
    ⟨hn, -⟩
  · have hvalid : n.isValidChar := .inl (by omega)
    have hsmall : (Char.ofNat n).toNat < 128 := by
      rw [Str.toNat_ofNat hvalid]
      omega
    simp [hn, hsmall]
  · simp [hn, he]
  · simp [hn]
  · simp [hn]

/-- A text is written in ASCII. -/
@[simp] theorem isAscii_writtenString (s : Str) : IsAscii (writtenString s) := by
  have hescaped : IsAscii (s.flatMap escapedCode) := by
    intro d hd
    obtain ⟨n, -, hn⟩ := List.mem_flatMap.1 hd
    exact isAscii_escapedCode n d hn
  simp [writtenString, hescaped]

end Json

end DepthRules
