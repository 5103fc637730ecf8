import DepthRules.Proofs.Text.Feed
import DepthRules.Proofs.Yaml.Scan
import DepthRules.Yaml.Token

/-!
# Faults of tokens

A text that is UTF-8 is cut into tokens up to its end, or up to a fault of the readers of its parts
(`tokens_sound`): what one step cuts off is sound, and so are all tokens.
-/

namespace DepthRules.Yaml

open Text

/-! ## The text of a file -/

namespace Stream

theorem meets_pieces {feed : Feed} (h : feed.Sound) (count : Nat) :
    Meets (pieces count feed) (fun _ => False) fun r => r.2.Sound := by
  induction count generalizing feed with
  | zero => exact h
  | succ count ih =>
      rw [pieces]
      exact (Feed.meets_read h _).bind fun r hr => (ih hr).bind fun r' hr' => hr'

theorem breach_ofFeed {feed : Feed} (h : feed.Sound) (fuel count : Nat) {fault : Fault}
    (hfault : (ofFeed fuel count feed).breach = some fault) : fault = .malformed := by
  induction fuel generalizing feed count with
  | zero => cases hfault
  | succ fuel ih =>
      have hpieces := meets_pieces h count
      rw [ofFeed] at hfault
      split at hfault
      · -- no piece can be at fault for its bytes
        rename_i cause hcause
        exact absurd (hpieces.of_error hcause) id
      · cases hfault
      · rename_i text next _ hnext
        split at hfault
        · exact ih (hpieces.of_ok hnext) 1 hfault
        · cases hfault
          rfl

/-- A text that is UTF-8 breaks off only where it holds a character that may not stand in it. -/
theorem breach_ofBytes {bytes : List UInt8} {cs : List Char} (h : decodeUtf8 bytes = .ok cs)
    {fault : Fault} (hfault : (ofBytes bytes).breach = some fault) : fault = .malformed :=
  breach_ofFeed (Feed.sound_start h) _ _ hfault

end Stream

/-! ## Cutting off a token -/

/-- Of a token: if it is broken, then with a fault of tokens. -/
def Token.Sound : Token → Prop
  | .broken fault => TokenFault fault
  | _ => True

namespace Cutter

/-- The tokens so far are sound, and the text breaks off, if it does, with a fault of tokens. -/
structure Sound (c : Cutter) : Prop where
  tokens : ∀ t ∈ c.tokens, t.Sound
  breach : TokenFault c.breach

namespace Sound

variable {c : Cutter}

theorem emit (h : c.Sound) {t : Token} (ht : t.Sound) : (c.emit t).Sound :=
  ⟨List.forall_mem_cons.mpr ⟨ht, h.tokens⟩, h.breach⟩

theorem emitAt (h : c.Sound) (position : Nat) {t : Token} (ht : t.Sound) :
    (c.emitAt position t).Sound := by
  refine ⟨fun u hu => ?_, h.breach⟩
  rcases List.mem_append.mp hu with hu | hu
  · exact h.tokens u (List.mem_of_mem_take hu)
  · rcases List.mem_cons.mp hu with rfl | hu
    · exact ht
    · exact h.tokens u (List.mem_of_mem_drop hu)

theorem unwindFrom (h : c.Sound) (fuel : Nat) (column : Int) :
    (Cutter.unwindFrom fuel column c).Sound := by
  induction fuel generalizing c with
  | zero => exact h
  | succ fuel ih =>
      rw [Cutter.unwindFrom]
      split
      · split
        · exact h
        · rename_i i indents _
          have hpopped : Cutter.Sound { c with indent := i, indents := indents } :=
            ⟨h.tokens, h.breach⟩
          exact ih (hpopped.emit trivial)
      · exact h

theorem unwind (h : c.Sound) (column : Int) : (c.unwind column).Sound := by
  unfold Cutter.unwind
  split
  · exact h
  · exact h.unwindFrom _ column

theorem openBlock (h : c.Sound) (column : Int) (position : Nat) {t : Token} (ht : t.Sound) :
    (c.openBlock column position t).Sound := by
  unfold Cutter.openBlock
  split
  · have hpushed : Cutter.Sound { c with indent := column, indents := c.indent :: c.indents } :=
      ⟨h.tokens, h.breach⟩
    exact hpushed.emitAt position ht
  · exact h

theorem drop (h : c.Sound) (n : Nat) : (c.drop n).Sound := ⟨h.tokens, h.breach⟩

theorem allowKey (h : c.Sound) (allowed : Bool) : (c.allowKey allowed).Sound :=
  ⟨h.tokens, h.breach⟩

/-- The tokens do not depend on what may be a key. -/
theorem keys (h : c.Sound) (pending : Option KeyStart) (outer : List (Option KeyStart)) :
    Sound { c with pending := pending, outer := outer } := ⟨h.tokens, h.breach⟩

/-- The tokens do not depend on the text to come. -/
theorem goOn (h : c.Sound) (rest : List Spot) : Sound { c with rest := rest } :=
  ⟨h.tokens, h.breach⟩

end Sound

variable {c : Cutter}

theorem meets_recheck (text : List Spot) (start : Option KeyStart) :
    Meets (recheck text start) TokenFault fun _ => True := by
  unfold recheck
  split
  · exact .ok trivial
  · exact .ite (fun _ => .ok trivial) fun _ => .guard (fun _ => .malformed) fun _ => .ok trivial

theorem meets_dropStale (h : c.Sound) : Meets c.dropStale TokenFault Sound :=
  (meets_recheck _ _).bind fun pending _ =>
    (Meets.mapM (meets_recheck _) _).bind fun outer _ => .ok (h.keys pending outer)

theorem meets_dropPending (h : c.Sound) : Meets c.dropPending TokenFault Sound := by
  unfold dropPending
  split
  · exact .ok h
  · exact .guard (fun _ => .malformed) fun _ => .ok (h.keys none c.outer)

theorem meets_notePending (h : c.Sound) : Meets c.notePending TokenFault Sound := by
  unfold notePending
  split
  · exact (meets_dropPending h).bind fun c' hc' => .ok (hc'.keys _ c'.outer)
  · exact .ok h

theorem meets_cutEnd (h : c.Sound) : Meets c.cutEnd TokenFault Sound :=
  (meets_dropPending (h.unwind _)).bind fun _ hc => .ok (hc.emit trivial)

theorem meets_cutDirective (h : c.Sound) : Meets c.cutDirective TokenFault Sound :=
  (meets_dropPending (h.unwind _)).bind fun _ hc =>
    (directive_sound _ trivial).bind fun _ _ => .ok (((hc.allowKey _).goOn _).emit trivial)

theorem meets_cutMarker (h : c.Sound) {t : Token} (ht : t.Sound) :
    Meets (c.cutMarker t) TokenFault Sound :=
  (meets_dropPending (h.unwind _)).bind fun _ hc => .ok (((hc.allowKey _).drop _).emit ht)

theorem meets_cutOpening (h : c.Sound) {t : Token} (ht : t.Sound) :
    Meets (c.cutOpening t) TokenFault Sound :=
  (meets_notePending h).bind fun _ hc =>
    .ok ((((hc.allowKey _).keys _ _).drop _).emit ht)

theorem meets_cutClosing (h : c.Sound) {t : Token} (ht : t.Sound) :
    Meets (c.cutClosing t) TokenFault Sound := by
  refine (meets_dropPending h).bind fun c' hc => ?_
  split
  · exact .error (by split <;> constructor)
  · exact .ok ((((hc.allowKey _).keys _ _).drop _).emit ht)

theorem meets_cutComma (h : c.Sound) : Meets c.cutComma TokenFault Sound :=
  (meets_dropPending (h.allowKey _)).bind fun _ hc => .ok ((hc.drop _).emit trivial)

theorem meets_cutEntry (h : c.Sound) {block mark : Token} (hblock : block.Sound)
    (hmark : mark.Sound) (keyNext : Bool) :
    Meets (c.cutEntry block mark keyNext) TokenFault Sound := by
  unfold cutEntry
  refine .guard (fun _ => .malformed) fun _ => ?_
  have hopened : (if c.inFlow then c else c.openBlock c.column c.count block).Sound := by
    split
    · exact h
    · exact h.openBlock _ _ hblock
  exact (meets_dropPending (hopened.allowKey _)).bind fun _ hc => .ok ((hc.drop _).emit hmark)

theorem meets_cutValue (h : c.Sound) : Meets c.cutValue TokenFault Sound := by
  unfold cutValue
  split
  · rename_i k hk
    have hkey := ((h.allowKey false).keys none c.outer).emitAt k.position (t := .key) trivial
    dsimp only
    split
    · exact .ok ((hkey.drop _).emit trivial)
    · exact .ok (((hkey.openBlock _ _ (by trivial)).drop _).emit trivial)
  · exact meets_cutEntry h (by trivial) (by trivial) _

theorem meets_cutName (h : c.Sound) {t : String → Token} (ht : ∀ name, (t name).Sound) :
    Meets (c.cutName t) TokenFault Sound :=
  (meets_notePending h).bind fun _ hc => (anchorName_sound _ trivial).bind fun _ _ =>
    .ok (((hc.allowKey _).goOn _).emit (ht _))

theorem meets_cutTag (h : c.Sound) : Meets c.cutTag TokenFault Sound :=
  (meets_notePending h).bind fun _ hc => (tag_sound _ trivial).bind fun _ _ =>
    .ok (((hc.allowKey _).goOn _).emit trivial)

theorem meets_cutBlock (h : c.Sound) (folded : Bool) :
    Meets (c.cutBlock folded) TokenFault Sound :=
  (meets_dropPending (h.allowKey _)).bind fun _ hc => (meets_blockScalar _ _ _).bind fun _ _ =>
    .ok ((hc.goOn _).emit trivial)

theorem meets_cutQuoted (h : c.Sound) (double : Bool) :
    Meets (c.cutQuoted double) TokenFault Sound :=
  (meets_notePending h).bind fun _ hc => (meets_quotedFrom _ _ _ _).bind fun _ _ =>
    .ok (((hc.allowKey _).goOn _).emit trivial)

theorem meets_cutPlain (h : c.Sound) : Meets c.cutPlain TokenFault Sound :=
  (meets_notePending h).bind fun _ hc => .ok (((hc.allowKey _).goOn _).emit trivial)

theorem meets_cutAt (h : c.Sound) (s : Spot) (rest : List Spot) :
    Meets (c.cutAt s rest) TokenFault Sound := by
  unfold cutAt
  dsimp only
  -- the end, directives and markers
  refine .ite (fun _ => meets_cutEnd h) fun _ => .ite (fun _ => meets_cutDirective h) fun _ =>
    .guard (fun _ => .unfinished) fun _ => ?_
  refine .ite (fun _ => meets_cutMarker h trivial) fun _ =>
    .ite (fun _ => meets_cutMarker h trivial) fun _ => ?_
  -- brackets and commas
  refine .ite (fun _ => meets_cutOpening h trivial) fun _ =>
    .ite (fun _ => meets_cutOpening h trivial) fun _ =>
    .ite (fun _ => meets_cutClosing h trivial) fun _ =>
    .ite (fun _ => meets_cutClosing h trivial) fun _ => .ite (fun _ => meets_cutComma h) fun _ => ?_
  -- items, keys and values
  refine .ite (fun _ => meets_cutEntry h (by trivial) (by trivial) _) fun _ =>
    .ite (fun _ => meets_cutEntry h (by trivial) (by trivial) _) fun _ =>
    .ite (fun _ => meets_cutValue h) fun _ => ?_
  -- aliases, anchors and tags
  refine .ite (fun _ => meets_cutName h fun _ => trivial) fun _ =>
    .ite (fun _ => meets_cutName h fun _ => trivial) fun _ =>
    .ite (fun _ => meets_cutTag h) fun _ => ?_
  -- scalars
  refine .ite (fun _ => meets_cutBlock h _) fun _ => .ite (fun _ => meets_cutBlock h _) fun _ =>
    .ite (fun _ => meets_cutQuoted h _) fun _ => .ite (fun _ => meets_cutQuoted h _) fun _ =>
    .ite (fun _ => meets_cutPlain h) fun _ => ?_
  exact .error (by split <;> constructor)

theorem meets_cutNext (h : c.Sound) : Meets c.cutNext TokenFault Sound := by
  unfold cutNext
  dsimp only
  split
  · exact .error .unfinished
  · refine (meets_dropStale ?_).bind fun _ hc => meets_cutAt (hc.unwind _) _ _
    exact ⟨h.tokens, h.breach⟩

/-- What one step does. -/
theorem meets_cut (h : c.Sound) : Meets c.cut TokenFault Sound := by
  have hnext := meets_cutNext h
  unfold cut
  split
  · exact .error h.breach
  · exact .error (hnext.of_error ‹_›)
  · exact .guard (fun _ => h.breach) fun _ => .ok (hnext.of_ok ‹_›)

theorem brokenBy_sound (h : c.Sound) {fault : Fault} (hfault : TokenFault fault) :
    ∀ t ∈ c.brokenBy fault, t.Sound := by
  intro t ht
  rcases List.mem_append.mp ht with ht | ht
  · exact h.tokens t (List.mem_of_mem_drop (List.mem_reverse.mp ht))
  · rcases List.mem_singleton.mp ht with rfl
    exact hfault

theorem run_sound (h : c.Sound) (fuel : Nat) : ∀ t ∈ run fuel c, t.Sound := by
  induction fuel generalizing c with
  | zero => exact brokenBy_sound h .malformed
  | succ fuel ih =>
      have hstale := meets_dropStale h
      rw [run]
      split
      · exact brokenBy_sound h (hstale.of_error ‹_›)
      · rename_i c' hc'
        have hcut := meets_cut (hstale.of_ok hc')
        split
        · exact brokenBy_sound (hstale.of_ok hc') (hcut.of_error ‹_›)
        · have hsound := hcut.of_ok ‹_›
          split
          · exact fun t ht => hsound.tokens t (List.mem_reverse.mp ht)
          · exact ih hsound

end Cutter

/-- The tokens of a text that is UTF-8 are sound. -/
theorem tokens_sound {bytes : List UInt8} {cs : List Char} (h : decodeUtf8 bytes = .ok cs) :
    ∀ t ∈ tokens (.ofBytes bytes), t.Sound := by
  refine Cutter.run_sound ⟨fun t ht => absurd ht List.not_mem_nil, ?_⟩ _
  cases hbreach : (Stream.ofBytes bytes).breach with
  | none => exact .unfinished
  | some fault =>
      rw [Stream.breach_ofBytes h hbreach]
      exact .malformed

end DepthRules.Yaml
