import DepthRules.Proofs.Yaml.Token
import DepthRules.Yaml.Composer

/-!
# Faults of the nodes

Tokens are put together to nodes unless one of them is broken or they are malformed. Putting them
together looks at no fault of its own: over sound tokens every step fails with a fault of tokens,
and keeps the tokens to come sound (`meets_compose`).
-/

namespace DepthRules.Yaml

/-- The tokens to come are sound. -/
def Composer.Sound (c : Composer) : Prop := ∀ t ∈ c.tokens, t.Sound

namespace Compose

/-- Of a step: it fails with a fault of tokens, if it does, and leaves sound tokens. -/
abbrev IsSound {α : Type} (x : Compose α) : Prop := Holds Composer.Sound TokenFault x

/-! ## Single steps -/

theorem fail_sound {α : Type} : (fail : Compose α).IsSound := .throw .malformed

theorem peek_sound : peek.IsSound := by
  refine .ofState fun c hc => ?_
  split
  · rename_i fault rest htokens
    exact .throw (hc (.broken fault) (htokens ▸ List.mem_cons_self))
  · exact .pure _
  · exact fail_sound

theorem next_sound : next.IsSound := .modify fun _ hc _ ht => hc _ (List.mem_of_mem_drop ht)

theorem isAt_sound (choices : List Token) : (isAt choices).IsSound :=
  peek_sound.bind fun _ => .pure _

theorem expect_sound (t : Token) : (expect t).IsSound :=
  peek_sound.bind fun _ => .ite next_sound fail_sound

/-- Of a step before which another one may stand. -/
theorem unless_sound {α : Type} {c : Prop} [Decidable c] {x : Compose Unit} {rest : Compose α}
    (hx : x.IsSound) (hrest : rest.IsSound) : IsSound (if c then rest else x >>= fun _ => rest) :=
  .ite hrest (hx.bind fun _ => hrest)

theorem add_sound (node : Node) : (add node).IsSound := fun _ hc => .ok hc

theorem keep_sound (anchor : Option String) (n : NodeId) : (keep anchor n).IsSound := by
  unfold keep
  split
  · exact .pure n
  · exact .bind (.modify fun _ hc => hc) fun _ => .pure n

theorem fill_sound (n : NodeId) (body : Body) : (fill n body).IsSound := by
  unfold fill
  exact .bind (.modify fun _ hc => hc) fun _ => .pure n

theorem aliased_sound (name : String) : (aliased name).IsSound := by
  unfold aliased
  refine Holds.get.bind fun c => ?_
  split
  · exact .pure _
  · exact fail_sound

theorem fresh_sound (anchor : Option String) : (fresh anchor).IsSound := by
  unfold fresh
  split
  · exact .pure _
  · exact Holds.get.bind fun _ => .ite fail_sound (.pure _)

theorem anchor?_sound : anchor?.IsSound := by
  unfold anchor?
  refine peek_sound.bind fun t => ?_
  split
  · exact next_sound.bind fun _ => .pure _
  · exact .pure _

theorem tag?_sound : tag?.IsSound := by
  unfold tag?
  refine peek_sound.bind fun t => ?_
  split
  · exact next_sound.bind fun _ => .pure _
  · exact .pure _

theorem writtenOut_sound (tag : Option WrittenTag) : (writtenOut tag).IsSound := by
  unfold writtenOut
  split
  · exact .pure _
  · split
    · exact .pure _
    · refine Holds.get.bind fun c => ?_
      split
      · exact .pure _
      · exact fail_sound

theorem properties_sound : properties.IsSound := by
  unfold properties
  refine anchor?_sound.bind fun anchor => ?_
  split
  · exact tag?_sound.bind fun _ => (writtenOut_sound _).bind fun _ => .pure _
  · refine tag?_sound.bind fun tag => ?_
    split
    · exact .pure _
    · exact anchor?_sound.bind fun _ => (writtenOut_sound _).bind fun _ => .pure _

/-! ## Nodes -/

/-- Of the readers of nodes and of their parts with so much fuel: all of them are sound. -/
structure NodesSound (fuel : Nat) : Prop where
  node (block loose : Bool) : (node fuel block loose).IsSound
  nodeUnless (missing : List Token) (block loose : Bool) :
    (nodeUnless fuel missing block loose).IsSound
  valueAfterColon (missing : List Token) (block loose : Bool) :
    (valueAfterColon fuel missing block loose).IsSound
  blockItems : (blockItems fuel).IsSound
  looseItems : (looseItems fuel).IsSound
  blockEntries : (blockEntries fuel).IsSound
  flowItems (first : Bool) : (flowItems fuel first).IsSound
  flowEntries (first : Bool) : (flowEntries fuel first).IsSound

namespace NodesSound

variable {fuel : Nat} (h : NodesSound fuel)

/-- A collection is added first, so that it can be referred to from inside, and then filled. -/
theorem collection {α : Type} (anchor : Option String) (node : Node) {parts : Compose α}
    (hparts : parts.IsSound) (body : α → Body) :
    IsSound (do
      let n ← keep anchor (← add node)
      fill n (body (← parts))) :=
  (add_sound _).bind fun _ => (keep_sound _ _).bind fun _ => hparts.bind fun _ => fill_sound _ _

include h

theorem node_succ (block loose : Bool) : (Compose.node (fuel + 1) block loose).IsSound := by
  rw [Compose.node]
  refine peek_sound.bind fun t => ?_
  split
  · exact next_sound.bind fun _ => aliased_sound _
  · refine properties_sound.bind fun ⟨anchor, tag⟩ => peek_sound.bind fun content =>
      (fresh_sound anchor).bind fun _ => ?_
    dsimp only
    -- the kinds of content in the order of `node`: an item that is not indented first
    split
    · exact collection anchor _ h.looseItems _
    · exact next_sound.bind fun _ => (add_sound _).bind fun _ => keep_sound _ _
    · exact next_sound.bind fun _ => collection anchor _ (h.flowItems true) _
    · exact next_sound.bind fun _ => collection anchor _ (h.flowEntries true) _
    · exact next_sound.bind fun _ => collection anchor _ h.blockItems _
    · exact next_sound.bind fun _ => collection anchor _ h.blockEntries _
    · exact .ite fail_sound ((add_sound _).bind fun _ => keep_sound _ _)

theorem nodeUnless_succ (missing : List Token) (block loose : Bool) :
    (Compose.nodeUnless (fuel + 1) missing block loose).IsSound := by
  rw [Compose.nodeUnless]
  exact (isAt_sound _).bind fun _ => .ite (add_sound _) (h.node _ _)

theorem valueAfterColon_succ (missing : List Token) (block loose : Bool) :
    (Compose.valueAfterColon (fuel + 1) missing block loose).IsSound := by
  rw [Compose.valueAfterColon]
  exact (isAt_sound _).bind fun _ =>
    .ite (next_sound.bind fun _ => h.nodeUnless _ _ _) (add_sound _)

theorem blockItems_succ : (Compose.blockItems (fuel + 1)).IsSound := by
  rw [Compose.blockItems]
  refine peek_sound.bind fun t => ?_
  split
  · exact next_sound.bind fun _ => (h.nodeUnless _ _ _).bind fun _ =>
      h.blockItems.bind fun _ => .pure _
  · exact next_sound.bind fun _ => .pure _
  · exact fail_sound

theorem looseItems_succ : (Compose.looseItems (fuel + 1)).IsSound := by
  rw [Compose.looseItems]
  exact (isAt_sound _).bind fun _ => .ite (next_sound.bind fun _ =>
    (h.nodeUnless _ _ _).bind fun _ => h.looseItems.bind fun _ => .pure _) (.pure _)

theorem blockEntries_succ : (Compose.blockEntries (fuel + 1)).IsSound := by
  rw [Compose.blockEntries]
  refine peek_sound.bind fun t => ?_
  split
  · exact next_sound.bind fun _ => (h.nodeUnless _ _ _).bind fun _ =>
      (h.valueAfterColon _ _ _).bind fun _ => h.blockEntries.bind fun _ => .pure _
  · exact next_sound.bind fun _ => .pure _
  · exact fail_sound

theorem flowItems_succ (first : Bool) : (Compose.flowItems (fuel + 1) first).IsSound := by
  rw [Compose.flowItems]
  refine (isAt_sound _).bind fun _ => .ite (next_sound.bind fun _ => .pure _) ?_
  refine unless_sound (expect_sound _) (peek_sound.bind fun t => ?_)
  split
  · exact next_sound.bind fun _ => .pure _
  · exact next_sound.bind fun _ => (add_sound _).bind fun _ => (h.nodeUnless _ _ _).bind fun _ =>
      (h.valueAfterColon _ _ _).bind fun _ => (fill_sound _ _).bind fun _ =>
        (h.flowItems false).bind fun _ => .pure _
  · exact (h.node _ _).bind fun _ => (h.flowItems false).bind fun _ => .pure _

theorem flowEntries_succ (first : Bool) : (Compose.flowEntries (fuel + 1) first).IsSound := by
  rw [Compose.flowEntries]
  refine (isAt_sound _).bind fun _ => .ite (next_sound.bind fun _ => .pure _) ?_
  refine unless_sound (expect_sound _) (peek_sound.bind fun t => ?_)
  split
  · exact next_sound.bind fun _ => .pure _
  · exact next_sound.bind fun _ => (h.nodeUnless _ _ _).bind fun _ =>
      (h.valueAfterColon _ _ _).bind fun _ => (h.flowEntries false).bind fun _ => .pure _
  · exact (h.node _ _).bind fun _ => (add_sound _).bind fun _ =>
      (h.flowEntries false).bind fun _ => .pure _

end NodesSound

theorem nodesSound (fuel : Nat) : NodesSound fuel := by
  -- every reader calls the others with one unit of fuel less
  induction fuel with
  | zero =>
      exact ⟨fun _ _ => fail_sound, fun _ _ _ => fail_sound, fun _ _ _ => fail_sound, fail_sound,
        fail_sound, fail_sound, fun _ => fail_sound, fun _ => fail_sound⟩
  | succ fuel h =>
      exact ⟨h.node_succ, h.nodeUnless_succ, h.valueAfterColon_succ, h.blockItems_succ,
        h.looseItems_succ, h.blockEntries_succ, h.flowItems_succ, h.flowEntries_succ⟩

/-! ## The document -/

theorem directives_sound (fuel : Nat) (versionTold : Bool) :
    (directives fuel versionTold).IsSound := by
  induction fuel generalizing versionTold with
  | zero => exact fail_sound
  | succ fuel ih =>
      rw [directives]
      refine peek_sound.bind fun t => ?_
      split
      · refine next_sound.bind fun _ => ?_
        split
        · exact .ite (fail_sound.bind fun _ => ih true) (ih true)
        · have hdeclared {handle start : String} : IsSound (do
              modify fun c => { c with handles := (handle, start) :: c.handles }
              directives fuel versionTold) :=
            .bind (.modify fun _ hc => hc) fun _ => ih versionTold
          exact Holds.get.bind fun _ => .ite (fail_sound.bind fun _ => hdeclared) hdeclared
        · exact ih versionTold
      · exact .pure _

theorem documentEnds_sound (fuel : Nat) : (documentEnds fuel).IsSound := by
  induction fuel with
  | zero => exact fail_sound
  | succ fuel ih =>
      rw [documentEnds]
      exact (isAt_sound _).bind fun _ => .ite (next_sound.bind fun _ => ih) (.pure _)

theorem onlyDocument_sound (fuel : Nat) : (onlyDocument fuel).IsSound := by
  unfold onlyDocument
  refine (documentEnds_sound fuel).bind fun _ => (isAt_sound _).bind fun _ => .ite (.pure _) ?_
  exact .bind (.modify fun _ hc => hc) fun _ => (directives_sound _ _).bind fun _ => fail_sound

theorem document_sound (fuel : Nat) : (document fuel).IsSound := by
  unfold document
  have hend (root : NodeId) : IsSound (do
      onlyDocument fuel
      return some root) :=
    (onlyDocument_sound fuel).bind fun _ => .pure _
  have hnothing : IsSound (do
      let root ← add Node.nothing
      onlyDocument fuel
      return some root) :=
    (add_sound _).bind hend
  have hnode : IsSound (do
      let root ← node fuel true false
      onlyDocument fuel
      return some root) :=
    ((nodesSound fuel).node _ _).bind hend
  have hmarked {root : Token → Compose (Option NodeId)} (hroot : ∀ t, (root t).IsSound) :
      IsSound (do
        modify fun c => { c with handles := [] }
        directives fuel false
        modify fun c => { c with handles := c.handles ++ defaultHandles }
        expect .documentStart
        root (← peek)) :=
    .bind (.modify fun _ hc => hc) fun _ => (directives_sound fuel false).bind fun _ =>
      .bind (.modify fun _ hc => hc) fun _ => (expect_sound _).bind fun _ => peek_sound.bind hroot
  refine peek_sound.bind fun t => ?_
  dsimp only
  split
  · exact .pure _
  · refine hmarked fun t => ?_
    split <;> assumption
  · refine hmarked fun t => ?_
    split <;> assumption
  · exact hnode

end Compose

/-- Sound tokens are put together to nodes, or fail with a fault of tokens. -/
theorem meets_compose {tokens : List Token} (h : ∀ t ∈ tokens, t.Sound) :
    Meets (compose tokens) TokenFault fun _ => True :=
  (Compose.document_sound _ ⟨tokens, #[], [], Compose.defaultHandles⟩ h).bind fun _ _ =>
    .ok trivial

end DepthRules.Yaml
