import DepthRules.Text.Utf8
import Mathlib.Tactic.Common

/-!
# Writing and reading UTF-8

The bytes that write a character are read as this character, whatever bytes come after them
(`decodeChar_encodeChar`). So the bytes that write a text are read as this text
(`decodeUtf8_encodeUtf8`).
-/

namespace DepthRules.Text

/-! ## Bytes that are made of a number -/

section Bytes

variable {first n m : Nat}

theorem toNat_ofNat_of_lt (hn : n < 256) : (UInt8.ofNat n).toNat = n := by
  rw [UInt8.toNat_ofNat', Nat.mod_eq_of_lt hn]

theorem ofNat_lt_iff (hn : n < 256) (hm : m < 256) : UInt8.ofNat n < UInt8.ofNat m ↔ n < m := by
  rw [UInt8.lt_iff_toNat_lt, toNat_ofNat_of_lt hn, toNat_ofNat_of_lt hm]

theorem not_lt_ofNat (hn : n < 256) (h : m ≤ n) : ¬ UInt8.ofNat n < UInt8.ofNat m := by
  rw [ofNat_lt_iff hn (by omega)]
  omega

theorem ofNat_le_iff (hn : n < 256) (hm : m < 256) : UInt8.ofNat n ≤ UInt8.ofNat m ↔ n ≤ m := by
  rw [UInt8.le_iff_toNat_le, toNat_ofNat_of_lt hn, toNat_ofNat_of_lt hm]

theorem eq_of_ofNat_eq (hn : n < 256) (hm : m < 256) (h : UInt8.ofNat n = UInt8.ofNat m) :
    n = m := by
  rw [← toNat_ofNat_of_lt hn, h, toNat_ofNat_of_lt hm]

/-- The bytes that are written after the first one of a character may stand there. -/
theorem isContinuation_ofNat (n : Nat) : isContinuation (UInt8.ofNat (0x80 + n % 64)) = true := by
  have hlow : (0x80 : UInt8) ≤ UInt8.ofNat (0x80 + n % 64) :=
    (ofNat_le_iff (n := 0x80) (by decide) (by omega)).2 (by omega)
  have hhigh : UInt8.ofNat (0x80 + n % 64) < 0xC0 :=
    (ofNat_lt_iff (m := 0xC0) (by omega) (by decide)).2 (by omega)
  rw [isContinuation, decide_eq_true hlow, decide_eq_true hhigh]
  rfl

/-- They have the six bits that are written. -/
theorem payload_ofNat (n : Nat) : payload (UInt8.ofNat (0x80 + n % 64)) = n % 64 := by
  rw [payload, toNat_ofNat_of_lt (by omega)]
  omega

/-- After the first bytes of which not every second one is allowed, the second one has to be in its
range. -/
theorem isSecond_ofNat (hfirst : first < 256) (hlong : first = 0xE0 → 0x20 ≤ n % 64)
    (hsurrogate : first = 0xED → n % 64 < 0x20) (hlonger : first = 0xF0 → 0x10 ≤ n % 64)
    (hlast : first = 0xF4 → n % 64 < 0x10) :
    isSecond (UInt8.ofNat first) (UInt8.ofNat (0x80 + n % 64)) = true := by
  have hsecond : 0x80 + n % 64 < 256 := by omega
  rw [isSecond, isContinuation_ofNat, Bool.true_and]
  split
  · have := hlong (eq_of_ofNat_eq hfirst (by decide) ‹_›)
    exact decide_eq_true ((ofNat_le_iff (n := 0xA0) (by decide) hsecond).2 (by omega))
  · split
    · have := hsurrogate (eq_of_ofNat_eq hfirst (by decide) ‹_›)
      exact decide_eq_true ((ofNat_lt_iff (m := 0xA0) hsecond (by decide)).2 (by omega))
    · split
      · have := hlonger (eq_of_ofNat_eq hfirst (by decide) ‹_›)
        exact decide_eq_true ((ofNat_le_iff (n := 0x90) (by decide) hsecond).2 (by omega))
      · split
        · have := hlast (eq_of_ofNat_eq hfirst (by decide) ‹_›)
          exact decide_eq_true ((ofNat_lt_iff (m := 0x90) hsecond (by decide)).2 (by omega))
        · rfl

end Bytes

/-! ## Characters -/

section Characters

variable {first second : Nat} {rest : List UInt8}

/-- A byte below the first one of two is a character of its own. -/
theorem decodeChar_one (h : first < 0x80) :
    decodeChar (UInt8.ofNat first) rest = .ok (Char.ofNat first, 0) := by
  have h80 : UInt8.ofNat first < 0x80 := (ofNat_lt_iff (m := 0x80) (by omega) (by decide)).2 h
  unfold decodeChar
  rw [if_pos h80, toNat_ofNat_of_lt (by omega)]

/-- The first byte of two, and the second one. -/
theorem decodeChar_two (hlow : 0xC2 ≤ first) (hhigh : first < 0xE0) :
    decodeChar (UInt8.ofNat first) (UInt8.ofNat (0x80 + second % 64) :: rest) =
      .ok (Char.ofNat (first % 32 * 64 + second % 64), 1) := by
  have h80 : ¬ UInt8.ofNat first < 0x80 := not_lt_ofNat (m := 0x80) (by omega) (by omega)
  have hC2 : ¬ UInt8.ofNat first < 0xC2 := not_lt_ofNat (m := 0xC2) (by omega) (by omega)
  have hE0 : UInt8.ofNat first < 0xE0 := (ofNat_lt_iff (m := 0xE0) (by omega) (by decide)).2 hhigh
  unfold decodeChar
  rw [if_neg h80, if_neg hC2, if_pos hE0]
  simp only [isContinuation_ofNat, if_true, payload_ofNat,
    toNat_ofNat_of_lt (n := first) (by omega)]

/-- The first byte of three, and the others, of which the second one is allowed after it. -/
theorem decodeChar_three {third : Nat} (hlow : 0xE0 ≤ first) (hhigh : first < 0xF0)
    (hsecond : isSecond (UInt8.ofNat first) (UInt8.ofNat (0x80 + second % 64)) = true) :
    decodeChar (UInt8.ofNat first)
        (UInt8.ofNat (0x80 + second % 64) :: UInt8.ofNat (0x80 + third % 64) :: rest) =
      .ok (Char.ofNat ((first % 16 * 64 + second % 64) * 64 + third % 64), 2) := by
  have h80 : ¬ UInt8.ofNat first < 0x80 := not_lt_ofNat (m := 0x80) (by omega) (by omega)
  have hC2 : ¬ UInt8.ofNat first < 0xC2 := not_lt_ofNat (m := 0xC2) (by omega) (by omega)
  have hE0 : ¬ UInt8.ofNat first < 0xE0 := not_lt_ofNat (m := 0xE0) (by omega) (by omega)
  have hF0 : UInt8.ofNat first < 0xF0 := (ofNat_lt_iff (m := 0xF0) (by omega) (by decide)).2 hhigh
  unfold decodeChar
  rw [if_neg h80, if_neg hC2, if_neg hE0, if_pos hF0]
  simp only [hsecond, isContinuation_ofNat, if_true, payload_ofNat,
    toNat_ofNat_of_lt (n := first) (by omega), Bool.not_true, Bool.false_eq_true, if_false]

/-- The first byte of four, and the others, of which the second one is allowed after it. -/
theorem decodeChar_four {third fourth : Nat} (hlow : 0xF0 ≤ first) (hhigh : first < 0xF5)
    (hsecond : isSecond (UInt8.ofNat first) (UInt8.ofNat (0x80 + second % 64)) = true) :
    decodeChar (UInt8.ofNat first) (UInt8.ofNat (0x80 + second % 64) ::
        UInt8.ofNat (0x80 + third % 64) :: UInt8.ofNat (0x80 + fourth % 64) :: rest) =
      .ok (Char.ofNat (((first % 8 * 64 + second % 64) * 64 + third % 64) * 64 + fourth % 64),
        3) := by
  have h80 : ¬ UInt8.ofNat first < 0x80 := not_lt_ofNat (m := 0x80) (by omega) (by omega)
  have hC2 : ¬ UInt8.ofNat first < 0xC2 := not_lt_ofNat (m := 0xC2) (by omega) (by omega)
  have hE0 : ¬ UInt8.ofNat first < 0xE0 := not_lt_ofNat (m := 0xE0) (by omega) (by omega)
  have hF0 : ¬ UInt8.ofNat first < 0xF0 := not_lt_ofNat (m := 0xF0) (by omega) (by omega)
  have hF5 : UInt8.ofNat first < 0xF5 := (ofNat_lt_iff (m := 0xF5) (by omega) (by decide)).2 hhigh
  unfold decodeChar
  rw [if_neg h80, if_neg hC2, if_neg hE0, if_neg hF0, if_pos hF5]
  simp only [hsecond, isContinuation_ofNat, if_true, payload_ofNat,
    toNat_ofNat_of_lt (n := first) (by omega), Bool.not_true, Bool.false_eq_true, if_false]

end Characters

theorem ofNat_eq_of_toNat {c : Char} {n : Nat} (h : n = c.toNat) : Char.ofNat n = c := by
  rw [h, Char.ofNat_toNat]

/-- The bytes that write a character are read as this character, and no byte after them is. -/
theorem decodeChar_encodeChar (c : Char) (rest : List UInt8) :
    ∃ b more, encodeChar c = b :: more ∧ decodeChar b (more ++ rest) = .ok (c, more.length) := by
  have hvalid : c.toNat < 0xD800 ∨ 0xDFFF < c.toNat ∧ c.toNat < 0x110000 := c.valid
  rw [encodeChar]
  split
  · rename_i hone
    exact ⟨_, _, rfl, by rw [decodeChar_one hone, Char.ofNat_toNat]; rfl⟩
  split
  · refine ⟨_, _, rfl, ?_⟩
    simp only [List.cons_append, List.nil_append]
    rw [decodeChar_two (by omega) (by omega), ofNat_eq_of_toNat (c := c) (by omega)]
    rfl
  split
  · refine ⟨_, _, rfl, ?_⟩
    simp only [List.cons_append, List.nil_append]
    -- no shorter form is written, and no surrogate is a character
    rw [decodeChar_three (by omega) (by omega) (isSecond_ofNat (by omega) (by omega) (by omega)
      (by omega) (by omega)), ofNat_eq_of_toNat (c := c) (by omega)]
    rfl
  · refine ⟨_, _, rfl, ?_⟩
    simp only [List.cons_append, List.nil_append]
    -- no shorter form is written, and there is no character beyond the last code point
    rw [decodeChar_four (by omega) (by omega) (isSecond_ofNat (by omega) (by omega) (by omega)
      (by omega) (by omega)), ofNat_eq_of_toNat (c := c) (by omega)]
    rfl

/-! ## Texts -/

theorem decodeUtf8From_encodeUtf8 (cs : List Char) (position : Nat) (done : List Char) :
    decodeUtf8From position (encodeUtf8 cs) done = .ok (done.reverse ++ cs) := by
  induction cs generalizing position done with
  | nil => rw [encodeUtf8, List.flatMap_nil, decodeUtf8From, List.append_nil]
  | cons c cs ih =>
      obtain ⟨b, more, hbytes, hchar⟩ := decodeChar_encodeChar c (encodeUtf8 cs)
      have hall : encodeUtf8 (c :: cs) = b :: (more ++ encodeUtf8 cs) := by
        rw [encodeUtf8, List.flatMap_cons, hbytes]
        rfl
      rw [hall, decodeUtf8From, hchar]
      dsimp only
      rw [List.drop_left, ih, List.reverse_cons, List.append_assoc, List.singleton_append]

/-- The bytes that write a text are read as this text. -/
theorem decodeUtf8_encodeUtf8 (cs : List Char) : decodeUtf8 (encodeUtf8 cs) = .ok cs :=
  decodeUtf8From_encodeUtf8 cs 0 []

end DepthRules.Text
