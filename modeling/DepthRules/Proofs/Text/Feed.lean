import DepthRules.Proofs.Check.Meets
import DepthRules.Text.Feed

/-!
# UTF-8 in blocks

Cutting UTF-8 into blocks does no harm: where a block ends within a character, the bytes before it
are characters, and the others wait and are UTF-8 together with those to come
(`decodeBegun_of_isUtf8`). So a file that is UTF-8 as a whole is read piece by piece without a fault
(`Feed.meets_read`).
-/

namespace DepthRules.Text

/-- Bytes that are UTF-8, character by character. -/
inductive IsUtf8 : List UInt8 → Prop where
  | nil : IsUtf8 []
  | cons {b : UInt8} {rest : List UInt8} {c : Char} {more : Nat}
      (hchar : decodeChar b rest = .ok (c, more)) (hrest : IsUtf8 (rest.drop more)) :
      IsUtf8 (b :: rest)

/-! ## Characters -/

/-- A character is told by its own bytes; if some of them are still to come, just these are
missed. -/
theorem decodeChar_append {b c more} {xs ys : List UInt8}
    (h : decodeChar b (xs ++ ys) = .ok (c, more)) :
    more ≤ xs.length ∧ decodeChar b xs = .ok (c, more) ∨
      ∃ length, decodeChar b xs = .error (.unexpectedEnd, length) := by
  unfold decodeChar at h ⊢
  by_cases hone : b < 0x80
  · simp only [if_pos hone, Except.ok.injEq, Prod.mk.injEq] at h ⊢
    exact .inl ⟨h.2 ▸ Nat.zero_le _, h⟩
  by_cases hstart : b < 0xC2
  · simp [if_neg hone, if_pos hstart] at h
  by_cases htwo : b < 0xE0
  · rcases xs with _ | ⟨x, xs⟩
    · simp [hone, hstart, htwo]
    · cases hx : isContinuation x <;> simp [hone, hstart, htwo, hx] at h ⊢
      exact ⟨by omega, h⟩
  by_cases hthree : b < 0xF0
  · rcases xs with _ | ⟨x, _ | ⟨y, xs⟩⟩
    · simp [hone, hstart, htwo, hthree]
    · cases hx : isSecond b x <;> simp [hone, hstart, htwo, hthree, hx] at h ⊢
    · cases hx : isSecond b x <;> cases hy : isContinuation y <;>
        simp [hone, hstart, htwo, hthree, hx, hy] at h ⊢
      exact ⟨by omega, h⟩
  by_cases hfour : b < 0xF5
  · rcases xs with _ | ⟨x, _ | ⟨y, _ | ⟨z, xs⟩⟩⟩
    · simp [hone, hstart, htwo, hthree, hfour]
    · cases hx : isSecond b x <;> simp [hone, hstart, htwo, hthree, hfour, hx] at h ⊢
    · cases hx : isSecond b x <;> cases hy : isContinuation y <;>
        simp [hone, hstart, htwo, hthree, hfour, hx, hy] at h ⊢
    · cases hx : isSecond b x <;> cases hy : isContinuation y <;> cases hz : isContinuation z <;>
        simp [hone, hstart, htwo, hthree, hfour, hx, hy, hz] at h ⊢
      exact ⟨by omega, h⟩
  · simp [hone, hstart, htwo, hthree, hfour] at h

/-- What a character is depends on its own bytes only. -/
theorem decodeChar_local {b c more} {rest : List UInt8}
    (h : decodeChar b rest = .ok (c, more)) :
    more ≤ rest.length ∧ ∀ ys, decodeChar b (rest.take more ++ ys) = .ok (c, more) := by
  -- by the first byte, which tells how many more there are
  unfold decodeChar at h ⊢
  by_cases hone : b < 0x80
  · simp only [if_pos hone, Except.ok.injEq, Prod.mk.injEq] at h ⊢
    exact ⟨h.2 ▸ Nat.zero_le _, fun _ => h⟩
  by_cases hstart : b < 0xC2
  · simp [if_neg hone, if_pos hstart] at h
  by_cases htwo : b < 0xE0
  · rcases rest with _ | ⟨x, rest⟩
    · simp [hone, hstart, htwo] at h
    · cases hx : isContinuation x <;> simp [hone, hstart, htwo, hx] at h
      obtain ⟨rfl, rfl⟩ := h
      simp [hone, hstart, htwo, hx]
  by_cases hthree : b < 0xF0
  · rcases rest with _ | ⟨x, _ | ⟨y, rest⟩⟩
    · simp [hone, hstart, htwo, hthree] at h
    · cases hx : isSecond b x <;> simp [hone, hstart, htwo, hthree, hx] at h
    · cases hx : isSecond b x <;> cases hy : isContinuation y <;>
        simp [hone, hstart, htwo, hthree, hx, hy] at h
      obtain ⟨rfl, rfl⟩ := h
      simp [hone, hstart, htwo, hthree, hx, hy]
  by_cases hfour : b < 0xF5
  · rcases rest with _ | ⟨x, _ | ⟨y, _ | ⟨z, rest⟩⟩⟩
    · simp [hone, hstart, htwo, hthree, hfour] at h
    · cases hx : isSecond b x <;> simp [hone, hstart, htwo, hthree, hfour, hx] at h
    · cases hx : isSecond b x <;> cases hy : isContinuation y <;>
        simp [hone, hstart, htwo, hthree, hfour, hx, hy] at h
    · cases hx : isSecond b x <;> cases hy : isContinuation y <;> cases hz : isContinuation z <;>
        simp [hone, hstart, htwo, hthree, hfour, hx, hy, hz] at h
      obtain ⟨rfl, rfl⟩ := h
      simp [hone, hstart, htwo, hthree, hfour, hx, hy, hz]
  · simp [hone, hstart, htwo, hthree, hfour] at h

theorem isUtf8_of_decodeUtf8From {position : Nat} {bytes : List UInt8} {done cs : List Char}
    (h : decodeUtf8From position bytes done = .ok cs) : IsUtf8 bytes := by
  induction position, bytes, done using decodeUtf8From.induct with
  | case1 => exact .nil
  | case2 position done b rest c more hchar ih =>
      rw [decodeUtf8From, hchar] at h
      exact .cons hchar (ih h)
  | case3 position done b rest fault length hchar =>
      rw [decodeUtf8From, hchar] at h
      cases h

theorem IsUtf8.exists_decodeUtf8From {bytes : List UInt8} (h : IsUtf8 bytes) (position : Nat)
    (done : List Char) : ∃ cs, decodeUtf8From position bytes done = .ok cs := by
  induction h generalizing position done with
  | nil => exact ⟨done.reverse, by rw [decodeUtf8From]⟩
  | cons hchar _ ih =>
      rw [decodeUtf8From, hchar]
      exact ih _ _

/-! ## Blocks -/

/-- A character that is complete in a text is told by the first bytes of it. -/
theorem decodeChar_take {b c more} {rest : List UInt8} (h : decodeChar b rest = .ok (c, more))
    (n : Nat) : decodeChar b (rest.take (more + n)) = .ok (c, more) := by
  rw [List.take_add]
  exact (decodeChar_local h).2 _

/-- A character that is complete in the first bytes of UTF-8 leaves UTF-8 behind. -/
theorem IsUtf8.of_decodeChar {b c more} {rest ys : List UInt8} (h : IsUtf8 (b :: (rest ++ ys)))
    (hchar : decodeChar b rest = .ok (c, more)) : IsUtf8 (rest.drop more ++ ys) := by
  obtain ⟨hlength, hlocal⟩ := decodeChar_local hchar
  have hsame : decodeChar b (rest ++ ys) = .ok (c, more) := by
    have hall := hlocal (rest.drop more ++ ys)
    rwa [← List.append_assoc, List.take_append_drop] at hall
  cases h with
  | cons hwhole hrest =>
      cases hwhole.symm.trans hsame
      rwa [List.drop_append_of_le_length hlength] at hrest

/-- A character of UTF-8 that is not complete in the first bytes wants bytes, and has no other
fault. -/
theorem IsUtf8.fault_eq {b fault length} {rest ys : List UInt8} (h : IsUtf8 (b :: (rest ++ ys)))
    (hchar : decodeChar b rest = .error (fault, length)) : fault = .unexpectedEnd := by
  cases h with
  | cons hwhole _ =>
      rcases decodeChar_append hwhole with ⟨_, hpart⟩ | ⟨missing, hpart⟩
      · cases hchar.symm.trans hpart
      · cases hchar.symm.trans hpart
        rfl

/-- The first bytes of UTF-8 are characters, or characters and the beginning of one. -/
theorem IsUtf8.decode_append {xs ys : List UInt8} (h : IsUtf8 (xs ++ ys)) (position : Nat)
    (done : List Char) :
    (∃ cs, decodeUtf8From position xs done = .ok cs) ∧ IsUtf8 ys ∨
    ∃ n e, decodeUtf8From position xs done = .error e ∧ e.fault = .unexpectedEnd ∧
      e.position = position + n ∧ IsUtf8 (xs.take n) ∧ IsUtf8 (xs.drop n ++ ys) := by
  induction position, xs, done using decodeUtf8From.induct with
  | case1 position done =>
      left
      exact ⟨⟨done.reverse, by rw [decodeUtf8From]⟩, h⟩
  | case2 position done b rest c more hchar ih =>
      rw [decodeUtf8From, hchar]
      rcases ih (h.of_decodeChar hchar) with hall | ⟨n, e, he, hfault, hposition, htake, hdrop⟩
      · exact .inl hall
      · -- the character and the `n` bytes after it are complete
        have hn : 1 + more + n = (more + n) + 1 := by omega
        refine .inr ⟨1 + more + n, e, he, hfault, by omega, ?_, ?_⟩
        · rw [hn, List.take_succ_cons]
          refine .cons (decodeChar_take hchar n) ?_
          rw [List.drop_take, Nat.add_sub_cancel_left]
          exact htake
        · rw [hn, List.drop_succ_cons, ← List.drop_drop]
          exact hdrop
  | case3 position done b rest fault length hchar =>
      rw [decodeUtf8From, hchar]
      exact .inr ⟨0, _, rfl, h.fault_eq hchar, rfl, .nil, h⟩

theorem decodeBegun_of_isUtf8 {xs ys : List UInt8} (h : IsUtf8 (xs ++ ys)) :
    ∃ cs begun, decodeBegun xs = .ok (cs, begun) ∧ IsUtf8 (begun ++ ys) := by
  rw [decodeBegun, decodeUtf8]
  rcases h.decode_append 0 [] with ⟨⟨cs, hcs⟩, hys⟩ | ⟨n, e, he, hfault, hposition, htake, hdrop⟩
  · rw [hcs]
    exact ⟨cs, [], rfl, hys⟩
  · obtain ⟨cs, hcs⟩ := htake.exists_decodeUtf8From 0 []
    rw [Nat.zero_add] at hposition
    rw [he]
    dsimp only
    rw [if_pos hfault, hposition, decodeUtf8, hcs]
    exact ⟨cs, _, rfl, hdrop⟩

namespace Feed

/-- The bytes that wait and those to come are UTF-8 together. -/
def Sound (f : Feed) : Prop := IsUtf8 (f.begun ++ f.bytes)

theorem blockSize_pos (f : Feed) (wanted : Nat) : 0 < f.blockSize wanted :=
  Nat.lt_of_lt_of_le (by decide : 0 < leastBlock) (Nat.le_max_left _ _)

theorem meets_block {f : Feed} (h : f.Sound) (wanted : Nat) :
    Meets (f.block wanted) (fun _ => False) Sound := by
  unfold block
  dsimp only
  split
  · -- no byte is left, so that those that wait are all there are
    rename_i hempty
    have hbytes : f.bytes = [] := by
      rw [List.isEmpty_iff, List.take_eq_nil_iff] at hempty
      exact hempty.resolve_left (Nat.ne_of_gt (blockSize_pos f wanted))
    rw [Sound, hbytes, List.append_nil] at h
    obtain ⟨cs, hcs⟩ := h.exists_decodeUtf8From 0 []
    rw [decodeUtf8, hcs, hbytes, List.drop_nil]
    exact IsUtf8.nil
  · rw [Sound, ← List.take_append_drop (f.blockSize wanted) f.bytes, ← List.append_assoc] at h
    obtain ⟨cs, begun, hcs, hbegun⟩ := decodeBegun_of_isUtf8 h
    rw [hcs]
    exact hbegun

theorem meets_readFrom {f : Feed} (h : f.Sound) (fuel wanted : Nat) :
    Meets (readFrom fuel wanted f) (fun _ => False) fun r => r.2.Sound := by
  induction fuel generalizing f wanted with
  | zero => exact h
  | succ fuel ih =>
      rw [readFrom]
      dsimp only
      split
      · exact h
      · have hready : Sound { f with ready := f.ready.drop wanted } := h
        refine (meets_block hready _).bind fun next hnext => ?_
        split
        · exact hnext
        · exact (ih hnext _).bind fun r hr => hr

/-- Characters of a file that is UTF-8 are read without a fault. -/
theorem meets_read {f : Feed} (h : f.Sound) (wanted : Nat) :
    Meets (f.read wanted) (fun _ => False) fun r => r.2.Sound := meets_readFrom h _ wanted

theorem sound_start {bytes : List UInt8} {cs : List Char} (h : decodeUtf8 bytes = .ok cs) :
    (start bytes).Sound := isUtf8_of_decodeUtf8From h

end Feed

end DepthRules.Text
