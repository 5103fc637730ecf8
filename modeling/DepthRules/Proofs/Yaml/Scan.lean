import DepthRules.Proofs.Check.Meets
import DepthRules.Yaml.Property
import DepthRules.Yaml.Quotation

/-!
# Faults of the parts of a text

The readers of names, tags, directives and scalars fail where the text is malformed or breaks off,
where an escape names a code point that there is not, and where a number of a version is too long
to be read. No reader fails otherwise.
-/

namespace DepthRules.Yaml

open Text

/-- The faults with which tokens break. -/
inductive TokenFault : Fault → Prop where
  | malformed : TokenFault .malformed
  | unfinished : TokenFault .unfinished
  | codePoint {code : Nat} (h : codePointLimit ≤ code) : TokenFault (.codePoint code)
  | longVersion {digits : Nat} (h : maxDigits < digits) : TokenFault (.longInteger digits)

/-! ## Readers -/

/-- Of a reader of part of a text: it fails with a fault of tokens, if it does. -/
abbrev Scan.IsSound {α : Type} (x : Scan α) : Prop := Holds (fun _ => True) TokenFault x

namespace Scan

theorem fail_sound {α : Type} : (fail : Scan α).IsSound := fun text _ => by
  cases text with
  | nil => exact .error .unfinished
  | cons => exact .error .malformed

theorem run_sound (p : Char → Bool) : (run p).IsSound := fun text _ => by
  unfold run
  split
  · exact .error .unfinished
  · exact .ok trivial

theorem run1_sound (p : Char → Bool) : (run1 p).IsSound :=
  (run_sound p).bind fun _ => .ite fail_sound (.pure _)

theorem char_sound (c : Char) : (char c).IsSound := fun text _ => by
  unfold char
  split
  · exact .ite (fun _ => .ok trivial) fun _ => .error .malformed
  · exact .error .unfinished

theorem spaces_sound : spaces.IsSound := fun _ _ => .ok trivial

theorem before_sound (p : Char → Bool) : (before p).IsSound := fun text _ =>
  .ite (fun _ => .ok trivial) fun _ => fail_sound text trivial

theorem next_sound (p : Char → Bool) : (next p).IsSound := fun _ _ => .ok trivial

end Scan

theorem anchorName_sound : anchorName.IsSound :=
  (Scan.run1_sound _).bind fun _ => (Scan.before_sound _).bind fun _ => .pure _

theorem meets_escapedBytes (done : List UInt8) (text : List Spot) :
    Meets (escapedBytes done text) TokenFault fun _ => True := by
  fun_induction escapedBytes done text with
  | case1 => exact .error .unfinished
  | case2 => exact .error .unfinished
  | case3 => exact .error .malformed
  | case4 => exact .error .unfinished
  | case5 => exact .error .malformed
  | case6 _ _ _ _ _ _ _ _ _ _ ih => exact ih
  | case7 => exact .ok trivial

theorem meets_tagTextFrom (fuel : Nat) (done : List Char) (text : List Spot) :
    Meets (tagTextFrom fuel done text) TokenFault fun _ => True := by
  induction fuel generalizing done text with
  | zero => exact .ok trivial
  | succ fuel ih =>
      rw [tagTextFrom]
      split
      split
      · refine (meets_escapedBytes [] _).bind fun ⟨bytes, rest⟩ _ => ?_
        dsimp only
        split
        · exact ih _ _
        · exact .error .malformed
      · exact .ok trivial

theorem tagText_sound : tagText.IsSound := fun text _ =>
  .ite (fun _ => (meets_tagTextFrom _ _ _).bind fun _ _ => .ok trivial) fun _ =>
    Scan.fail_sound text trivial

theorem tagHandle_sound : tagHandle.IsSound := by
  unfold tagHandle
  refine (Scan.char_sound _).bind fun _ => (Scan.next_sound _).bind fun _ => .ite (.pure _) ?_
  exact (Scan.run_sound _).bind fun _ => (Scan.char_sound _).bind fun _ => .pure _

theorem hasHandle_sound : hasHandle.IsSound := fun text _ => by
  unfold hasHandle
  split
  · exact .error .unfinished
  · exact .ok trivial

theorem tag_sound : tag.IsSound := by
  unfold tag
  have hend (written : WrittenTag) :
      Scan.IsSound (do Scan.before isSpaceOrEnd; pure written) :=
    (Scan.before_sound _).bind fun _ => .pure _
  have hsuffix (handle : String) : Scan.IsSound (do
      let suffix ← tagText
      let written : WrittenTag ← pure ⟨some handle, suffix⟩
      Scan.before isSpaceOrEnd
      pure written) :=
    tagText_sound.bind fun _ => (Holds.pure _).bind hend
  refine Holds.get.bind fun text => .ite ?_ (.ite ?_ ?_)
  · exact (Holds.set trivial).bind fun _ => tagText_sound.bind fun _ =>
      (Scan.char_sound _).bind fun _ => (Holds.pure _).bind hend
  · exact (Holds.set trivial).bind fun _ => (Holds.pure _).bind hend
  · exact hasHandle_sound.bind fun _ => .ite (tagHandle_sound.bind hsuffix)
      ((Holds.set trivial).bind fun _ => (Holds.pure _).bind hsuffix)

theorem versionNumber_sound : versionNumber.IsSound := by
  unfold versionNumber
  refine (Scan.run1_sound _).bind fun digits => ?_
  by_cases h : maxDigits < digits.length
  · simp only [if_pos h]
    exact (Holds.throw (.longVersion h)).bind fun _ => .pure _
  · simp only [if_neg h]
    exact .pure _

theorem meets_restOfLine (text : List Spot) :
    Meets (restOfLine text) TokenFault fun _ => True := by
  unfold restOfLine
  dsimp only
  split
  · exact .error .unfinished
  · exact .ite (fun _ => .ok trivial) fun _ => .ite (fun _ => .ok trivial) fun _ =>
      .error .malformed

theorem directive_sound : directive.IsSound := by
  unfold directive
  have hend (read : Directive) :
      Scan.IsSound (do set (← restOfLine (← get)); return read) :=
    Holds.get.bind fun text => (Holds.lift (meets_restOfLine text)).bind fun _ =>
      (Holds.set trivial).bind fun _ => .pure _
  refine (Scan.run1_sound _).bind fun name => (Scan.before_sound _).bind fun _ => ?_
  dsimp only
  split
  · exact Scan.spaces_sound.bind fun _ => versionNumber_sound.bind fun _ =>
      (Scan.char_sound _).bind fun _ => versionNumber_sound.bind fun _ =>
        (Scan.before_sound _).bind fun _ => (Holds.pure _).bind hend
  · have hstart (handle : String) : Scan.IsSound (do
        Scan.spaces
        let start ← tagText
        Scan.before isSpaceOrEnd
        let read ← pure (Directive.handle handle start)
        set (← restOfLine (← get))
        return read) :=
      Scan.spaces_sound.bind fun _ => tagText_sound.bind fun _ =>
        (Scan.before_sound _).bind fun _ => (Holds.pure _).bind hend
    exact Scan.spaces_sound.bind fun _ => tagHandle_sound.bind fun handle =>
      (Scan.next_sound _).bind fun _ => .ite (Scan.fail_sound.bind fun _ => hstart handle)
        (hstart handle)
  · exact (Scan.run_sound _).bind fun _ => (Holds.pure _).bind hend

/-! ## Scalars -/

theorem meets_quotedBreaks (lineStart : Bool) (breaks : List Nat) (text : List Spot) :
    Meets (quotedBreaks lineStart breaks text) TokenFault fun _ => True := by
  fun_induction quotedBreaks lineStart breaks text with
  | case1 => exact .ok trivial
  | case2 => exact .error .unfinished
  | case3 => exact .error .malformed
  | case4 _ _ _ _ _ _ _ ih => exact ih
  | case5 _ _ _ _ _ _ _ _ ih => exact ih
  | case6 => exact .ok trivial

theorem meets_quotedGap (text : List Spot) :
    Meets (quotedGap text) TokenFault fun _ => True := by
  unfold quotedGap
  split
  · exact .error .unfinished
  · refine .ite (fun _ => ?_) fun _ => .guard (fun _ => .malformed) fun _ => .ok trivial
    exact (meets_quotedBreaks _ _ _).bind fun _ _ =>
      .ite (fun _ => .ok trivial) fun _ => .ok trivial

theorem meets_hexNumber (width value : Nat) (text : List Spot) :
    Meets (hexNumber width value text) TokenFault fun _ => True := by
  fun_induction hexNumber width value text with
  | case1 => exact .ok trivial
  | case2 => exact .error .unfinished
  | case3 _ _ _ _ _ _ ih => exact ih
  | case4 => exact .error .malformed

theorem meets_escape (text : List Spot) : Meets (escape text) TokenFault fun _ => True := by
  unfold escape
  split
  · exact .error .unfinished
  · split
    · exact .ok trivial
    · refine (meets_hexNumber _ _ _).bind fun r _ => ?_
      exact .ite (fun _ => .ok trivial) fun hlimit => .error (.codePoint (Nat.le_of_not_lt hlimit))
    · exact .ite (fun _ => meets_quotedBreaks _ _ _) fun _ => .error .malformed

theorem meets_quotedFrom (double : Bool) (fuel : Nat) (done : List Nat) (text : List Spot) :
    Meets (quotedFrom double fuel done text) TokenFault fun _ => True := by
  induction fuel generalizing done text with
  | zero => exact .error .malformed
  | succ fuel ih =>
      cases text with
      | nil => exact .error .unfinished
      | cons s rest =>
          unfold quotedFrom
          dsimp only
          refine .ite (fun _ => ?_) fun _ => .ite (fun _ => ?_) fun _ =>
            .ite (fun _ => ?_) fun _ => ?_
          · exact (meets_quotedGap _).bind fun _ _ => ih _ _
          · refine .ite (fun _ => .ok trivial) fun _ => .ite (fun _ => ?_) fun _ => ih _ _
            exact (meets_escape _).bind fun _ _ => ih _ _
          · split
            · exact .ite (fun _ => ih _ _) fun _ => .ok trivial
            · exact .ok trivial
          · exact ih _ _

theorem meets_blockScalar (folded : Bool) (outer : Int) (text : List Spot) :
    Meets (blockScalar folded outer text) TokenFault fun _ => True := by
  unfold blockScalar
  dsimp only
  refine .guard (fun _ => .malformed) fun _ => .guard (fun _ => .unfinished) fun _ =>
    .guard (fun _ => .malformed) fun _ => ?_
  exact (meets_restOfLine _).bind fun _ _ => .ok trivial

end DepthRules.Yaml
