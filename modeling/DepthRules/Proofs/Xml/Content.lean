import DepthRules.Proofs.Xml.DocumentType
import DepthRules.Proofs.Xml.StartTag
import DepthRules.Xml.Document

/-!
# Names in the documents that are read

Content is read into the innermost of the open elements, and an element that is closed becomes an
item of the one around it. What is read stays bound on the way (`content_yields`): each open element
has its place in the scope of the next, and the content of an entity, which is read in no scope at
all, may be put in anywhere. So all names of a document that is read are bound (`bound_of_read`).
-/

namespace DepthRules.Xml

/-! ## Open elements -/

/-- The items are bound where nothing is declared. -/
abbrev BoundNowhere (items : List Item) : Prop := ∀ item ∈ items, item.BoundIn []

namespace Frame

/-- What an open element holds so far is bound in the scope inside it. -/
def Holds (f : Frame) : Prop := ∀ item ∈ f.content, item.BoundIn f.scope

/-- The second frame is the first one with more content, which is bound. -/
structure GrowsTo (f g : Frame) : Prop where
  tag_eq : g.tag = f.tag
  scope_eq : g.scope = f.scope
  holds : f.Holds → g.Holds

theorem GrowsTo.refl (f : Frame) : f.GrowsTo f := ⟨rfl, rfl, id⟩

theorem GrowsTo.trans {f g h : Frame} (hfg : f.GrowsTo g) (hgh : g.GrowsTo h) : f.GrowsTo h where
  tag_eq := hgh.tag_eq.trans hfg.tag_eq
  scope_eq := hgh.scope_eq.trans hfg.scope_eq
  holds := fun hf => hgh.holds (hfg.holds hf)

theorem growsTo_add {f : Frame} {item : Item} (h : item.BoundIn f.scope) :
    f.GrowsTo (f.add item) where
  tag_eq := rfl
  scope_eq := rfl
  holds := fun hf => List.forall_mem_cons.2 ⟨h, hf⟩

theorem growsTo_addRun (removeBlank : Bool) (model : Option ContentModel) (f : Frame)
    (run : List Char × List Char) : f.GrowsTo (f.addRun removeBlank model run) := by
  unfold addRun
  split
  rename_i text rest
  have hadd : f.GrowsTo (f.add (.text (String.ofList text))) := growsTo_add (.text _ _)
  split
  · exact .refl f
  split
  · exact hadd
  split
  · exact .refl f
  dsimp only
  split
  · exact hadd.trans ⟨rfl, rfl, id⟩
  · exact hadd

theorem growsTo_foldl {α : Type} {step : Frame → α → Frame} {f : Frame} (items : List α)
    (h : ∀ g, f.GrowsTo g → ∀ a ∈ items, g.GrowsTo (step g a)) :
    f.GrowsTo (items.foldl step f) := by
  induction items using List.reverseRecOn with
  | nil => exact .refl f
  | append_singleton items a ih =>
      rw [List.foldl_append]
      have hbefore := ih fun g hg b hb => h g hg b (List.mem_append_left _ hb)
      exact hbefore.trans (h _ hbefore a (List.mem_append_right _ List.mem_cons_self))

/-- An element that is closed is bound in the scope around it. -/
theorem close_boundIn {f g : Frame} (hscope : f.scope = f.tag.declarations ++ g.scope)
    (htag : f.tag.BoundIn g.scope) (hcontent : f.Holds) : f.close.BoundIn g.scope := by
  refine .element htag fun item hitem => ?_
  have hitem := hcontent item (List.mem_reverse.1 hitem)
  rw [hscope] at hitem
  exact hitem.mono (Scope.within_of_find?_eq (Scope.find?_append _ _))

end Frame

/-- Open elements, the innermost first. The outermost frame is of no element; every other one is of
an element that is bound in the scope of the next. -/
inductive Nested : List Frame → Prop where
  | base {f : Frame} (hscope : f.scope = []) (hcontent : f.Holds) : Nested [f]
  | inside {f g : Frame} {more : List Frame} (hscope : f.scope = f.tag.declarations ++ g.scope)
      (htag : f.tag.BoundIn g.scope) (hcontent : f.Holds) (h : Nested (g :: more)) :
      Nested (f :: g :: more)

namespace Nested

variable {f g : Frame} {outer more : List Frame}

theorem holds (h : Nested (f :: outer)) : f.Holds := by
  cases h with
  | base _ hcontent => exact hcontent
  | inside _ _ hcontent _ => exact hcontent

/-- What the outermost frame holds when no element is open needs no declaration around it. -/
theorem boundNowhere (h : Nested [f]) : BoundNowhere f.content := by
  cases h with
  | base hscope hcontent =>
      intro item hitem
      rw [← hscope]
      exact hcontent item hitem

theorem start : Nested [.base] := .base rfl fun _ hitem => absurd hitem List.not_mem_nil

/-- The innermost element may get more content. -/
theorem grow (h : Nested (f :: outer)) (hg : f.GrowsTo g) : Nested (g :: outer) := by
  have hholds := hg.holds h.holds
  cases h with
  | base hscope _ => exact .base (hg.scope_eq.trans hscope) hholds
  | inside hscope htag _ h =>
      rw [← hg.scope_eq, ← hg.tag_eq] at hscope
      rw [← hg.tag_eq] at htag
      exact .inside hscope htag hholds h

theorem closeInto (h : Nested (f :: outer)) (houter : outer ≠ []) :
    Nested (Scan.closeInto f outer) := by
  cases h with
  | base _ _ => exact absurd rfl houter
  | inside hscope htag hcontent h =>
      exact h.grow (Frame.growsTo_add (Frame.close_boundIn hscope htag hcontent))

end Nested

namespace Scan

/-! ## Parts of content -/

theorem characterData_yields (fuel : Nat) (f : Frame) :
    Yields (State.Cached BoundNowhere) (characterData fuel f) f.GrowsTo := by
  unfold characterData
  refine .ofState fun s hs => Keeps.bind (.lift (.trivial _)) fun found => ?_
  refine Keeps.bind (.set hs) fun _ => .pure ?_
  exact Frame.growsTo_foldl found fun g _ run _ => Frame.growsTo_addRun _ _ g run

theorem endTag_keeps (f : Frame) : Keeps (State.Cached BoundNowhere) (endTag f) := by
  unfold endTag
  refine .ofState fun s hs => .ite ?_ ?_
  · refine Keeps.bind (.set hs) fun _ => (token_keeps _).bind fun _ => token_keeps _
  · refine limits_keeps.bind fun limits => (token_keeps _).bind fun name => ?_
    exact .afterIf (fail_yields _) ((token_keeps _).bind fun _ => token_keeps _)

theorem boundNowhere_text (run : String) : BoundNowhere [.text run] := by
  intro item hitem
  cases List.mem_singleton.1 hitem
  exact .text _ run

/-- A new open element is empty and has its place in the one around it. -/
theorem openElement_yields (fuel depth : Nat) (outer : Frame) :
    Yields (State.Cached BoundNowhere) (openElement fuel depth outer) fun r =>
      r.1.scope = r.1.tag.declarations ++ outer.scope ∧ r.1.tag.BoundIn outer.scope ∧
        r.1.content = [] := by
  unfold openElement
  refine (startTag_yields boundNowhere_text fuel outer.scope).bind fun r hr => ?_
  obtain ⟨tag, written, scope, space⟩ := r
  refine .ofState fun s hs => .afterIf (fail_yields _) ?_
  refine (token_keeps _).bind fun closed => .ite (.pure ⟨hr.2, hr.1, rfl⟩) ?_
  exact (token_keeps _).bind fun _ => .pure ⟨hr.2, hr.1, rfl⟩

/-- A reference adds text, or the content of an entity, which is bound anywhere. -/
theorem reference_yields {expand : List Char → Scan (List Item)}
    (h : ∀ text, Yields (State.Cached BoundNowhere) (expand text) BoundNowhere) (f : Frame) :
    Yields (State.Cached BoundNowhere) (reference expand f) f.GrowsTo := by
  unfold reference
  refine (token_keeps _).bind fun numbered => .ite ?_ ?_
  · exact (token_keeps _).bind fun c => .pure (Frame.growsTo_add (.text _ _))
  refine limits_keeps.bind fun limits => (token_keeps _).bind fun name => .ofState fun s hs => ?_
  split
  · exact .pure (Frame.growsTo_add (.text _ _))
  refine (entity?_yields name).bind fun found hfound => ?_
  obtain _ | ⟨body, kept, fitness⟩ := found
  · refine .pure ?_
    split
    · exact .refl f
    · exact Frame.growsTo_add (.reference _ name)
  have hplace (items : List Item) (hitems : BoundNowhere items) (size : Nat) :
      Yields (State.Cached BoundNowhere) (do
        charge size
        if s.options.resolveEntities then return items.foldl Frame.add f
        else return f.add (.reference name)) f.GrowsTo := by
    refine (charge_keeps size).bind fun _ => .ite (.pure ?_) (.pure ?_)
    · refine Frame.growsTo_foldl items fun g _ item hitem => Frame.growsTo_add ?_
      exact (hitems item hitem).mono (Scope.nil_within _)
    · exact Frame.growsTo_add (.reference _ name)
  cases body with
  | external => exact .ite (fail_yields _) (.pure (Frame.growsTo_add (.reference _ name)))
  | unparsed => exact .ite (fail_yields _) (.pure (Frame.growsTo_add (.reference _ name)))
  | internal content =>
      cases kept with
      | some known =>
          have hknown : Yields (State.Cached BoundNowhere) (pure known : Scan (List Item × Nat))
              fun r => BoundNowhere r.1 := .pure (hfound _ rfl known rfl)
          exact hknown.bind fun r hr => hplace r.1 hr r.2
      | none =>
          refine .ofState fun t ht => Keeps.bind (.modify fun _ hu => hu) fun _ => ?_
          refine (expandingEntity_yields (h _)).bind fun items hitems => .ofState fun u hu => ?_
          refine Keeps.bind (.modify fun _ hv => hv) fun _ => ?_
          refine (keepItems_keeps hitems name _).bind fun _ => ?_
          exact hplace items hitems _

/-! ## Content -/

/-- Of a reading of content: when it ends, only the outermost frame is left, and what that holds
needs no declaration around it. -/
abbrev ReadsBound (x : Scan (List Frame)) : Prop :=
  Yields (State.Cached BoundNowhere) x fun read => ∃ f, read = [f] ∧ BoundNowhere f.content

section Content

variable {expand : Nat → List Char → Scan (List Item)}
  (hexpand : ∀ depth text, Yields (State.Cached BoundNowhere) (expand depth text) BoundNowhere)
  {whole : Bool} {around fuel : Nat}

include hexpand

/-- One step leaves all open elements in their places, so that the reading can go on. -/
theorem content_succ_yields
    (hnext : ∀ frames, Nested frames → ReadsBound (content expand whole around fuel frames))
    {frames : List Frame} (h : Nested frames) :
    ReadsBound (content expand whole around (fuel + 1) frames) := by
  cases frames with
  | nil => nomatch h
  | cons f outer =>
      have hend (hempty : outer.isEmpty = true) : ∃ g, [f] = [g] ∧ BoundNowhere g.content := by
        rw [List.isEmpty_iff.1 hempty] at h
        exact ⟨f, rfl, h.boundNowhere⟩
      have hadd {item : Item} (hitem : item.BoundIn f.scope) :
          ReadsBound (content expand whole around fuel (f.add item :: outer)) :=
        hnext _ (h.grow (Frame.growsTo_add hitem))
      rw [content]
      split
      · rename_i hstop
        rw [Bool.and_eq_true, Bool.and_eq_true] at hstop
        exact .pure (hend hstop.1.2)
      refine .ofState fun s hs => ?_
      -- what comes next tells which part of the content is read
      split
      · split
        · rename_i hempty
          exact .pure (hend hempty)
        · exact fail_yields _
      · refine (token_keeps _).bind fun _ => instruction_yields.bind fun item hitem => ?_
        obtain ⟨target, body, rfl⟩ := hitem
        exact hadd (.instruction _ target body)
      · refine (token_keeps _).bind fun _ => (token_keeps _).bind fun body => ?_
        exact hadd (.text _ body)
      · refine (token_keeps _).bind fun _ => (token_keeps _).bind fun body => ?_
        exact hadd (.comment _ body)
      · split
        · rename_i hempty
          exact .pure (hend hempty)
        · rename_i hopen
          refine (token_keeps _).bind fun _ => (endTag_keeps f).bind fun _ => ?_
          exact hnext _ (h.closeInto fun hempty => hopen (List.isEmpty_iff.2 hempty))
      · refine (token_keeps _).bind fun _ => (openElement_yields _ _ f).bind fun r hr => ?_
        obtain ⟨hscope, htag, hcontent⟩ := hr
        have hholds : r.1.Holds := by
          intro item hitem
          rw [hcontent] at hitem
          exact absurd hitem List.not_mem_nil
        refine .ite (hadd (Frame.close_boundIn hscope htag hholds)) ?_
        exact hnext _ (.inside hscope htag hholds h)
      · refine (token_keeps _).bind fun _ => ?_
        exact (reference_yields (hexpand _) f).bind fun g hg => hnext _ (h.grow hg)
      · exact (characterData_yields fuel f).bind fun g hg => hnext _ (h.grow hg)

theorem content_yields (whole : Bool) (around fuel : Nat) {frames : List Frame}
    (h : Nested frames) : ReadsBound (content expand whole around fuel frames) := by
  induction fuel generalizing frames with
  | zero => exact fail_yields _
  | succ fuel ih => exact content_succ_yields hexpand (fun _ hframes => ih hframes) h

end Content

/-- The content of an entity is bound where nothing is declared. -/
theorem entityContent_yields (levels depth : Nat) (text : List Char) :
    Yields (State.Cached BoundNowhere) (entityContent levels depth text) BoundNowhere := by
  induction levels generalizing depth text with
  | zero => exact fail_yields _
  | succ levels ih =>
      rw [entityContent]
      refine .ofState fun s hs => .afterIf (fail_yields _) ?_
      refine (within_yields (content_yields ih true _ _ Nested.start)).bind fun frames hframes => ?_
      obtain ⟨f, rfl, hcontent⟩ := hframes
      exact .pure fun item hitem => hcontent item (List.mem_reverse.1 hitem)

/-! ## Documents -/

theorem documentDeclaration_keeps (shown : Option Encoding) :
    Keeps (State.Cached BoundNowhere) (documentDeclaration shown) := by
  unfold documentDeclaration
  refine (token_keeps _).bind fun follows => .ite ?_ (.pure trivial)
  refine (token_keeps _).bind fun d => ?_
  have hend : Keeps (State.Cached BoundNowhere)
      (modify fun s => { s with standalone := d.standalone } : Scan Unit) := .modify fun _ hs => hs
  -- the encodings are compared both after a warning and without one
  refine .ite (.ite (warn_keeps.bind fun _ => ?_) (fail_bind_yields _ _)) ?_
  all_goals
    dsimp only
    split
    · exact .ite hend (warn_keeps.bind fun _ => hend)
    · exact hend

theorem miscellany_keeps (fuel : Nat) : Keeps (State.Cached BoundNowhere) (miscellany fuel) := by
  induction fuel with
  | zero => exact .pure trivial
  | succ fuel ih =>
      rw [miscellany]
      refine (token_keeps _).bind fun _ => (token_keeps _).bind fun other => .ite ?_ ?_
      · exact instruction_yields.bind fun _ _ => ih
      · refine (token_keeps _).bind fun comment => .ite ?_ (.pure trivial)
        exact (token_keeps _).bind fun _ => ih

theorem rootElement_yields (fuel : Nat) :
    Yields (State.Cached BoundNowhere) (rootElement fuel) Document.Bound := by
  unfold rootElement
  refine .ofState fun s hs => ?_
  split
  · refine .ite (fail_bind_yields _ _) (.ofState fun t ht => ?_)
    refine (content_yields (entityContent_yields _) false 0 fuel .start).bind fun frames hread => ?_
    obtain ⟨f, rfl, hcontent⟩ := hread
    dsimp only
    split
    · rename_i tag content hroot
      refine .pure (hcontent _ ?_)
      rw [hroot]
      exact List.mem_cons_self
    · exact fail_yields _
  · exact fail_bind_yields _ _

theorem document_yields (shown : Option Encoding) (broken : Bool) :
    Yields (State.Cached BoundNowhere) (document shown broken) Document.Bound := by
  unfold document
  refine .ofState fun s hs => (documentDeclaration_keeps shown).bind fun _ => ?_
  refine (miscellany_keeps _).bind fun _ => (token_keeps _).bind fun typed => ?_
  have hrest : Yields (State.Cached BoundNowhere) (do
      let d ← rootElement (s.rest.length + 1)
      miscellany (s.rest.length + 1)
      let t ← get
      if t.notes.errors = 0 && (broken || !t.rest.isEmpty) then fail .trailing
      if t.notes.last = some .error then fail .namespaces
      return d) Document.Bound := by
    refine (rootElement_yields _).bind fun d hd => (miscellany_keeps _).bind fun _ => ?_
    exact .ofState fun t ht => .afterIf (fail_yields _) (.afterIf (fail_yields _) (.pure hd))
  exact .ite (documentType_keeps.bind fun _ => (miscellany_keeps _).bind fun _ => hrest) hrest

end Scan

theorem State.cached_start (options : Options) (text : List Char) :
    (State.start options text).Cached BoundNowhere := by
  intro entry hentry
  exact absurd hentry List.not_mem_nil

/-- All names of a document that is read are bound. -/
theorem bound_of_read {options : Options} {bytes : List UInt8} {d : Document}
    (h : Document.read options bytes = .ok d) : d.Bound := by
  rw [Document.read] at h
  obtain ⟨⟨encoding, shown, mark⟩, -, h⟩ := bind_eq_ok_iff.1 h
  obtain ⟨⟨read, s⟩, hread, h⟩ := bind_eq_ok_iff.1 h
  cases h
  exact (Scan.document_yields _ _ _ (State.cached_start options _) _ hread).1

end DepthRules.Xml
