import DepthRules.Proofs.Check.Meets
import DepthRules.Xml.AttributeValue

/-!
# The content of entities that a reader keeps

A reader keeps the items that the content of an entity makes up, to put them in wherever the entity
is referred to. They come from the reading of that content, or are a single text if the entity was
needed in the value of an attribute first. `State.Cached P` says that all items kept have the
property `P`; the reading of tokens and of the values of attributes goes from states with it to
states with it.
-/

namespace DepthRules.Xml

/-- The items that are kept of entities have the property `P`. -/
def State.Cached (P : List Item → Prop) (s : State) : Prop :=
  ∀ entry ∈ s.entities, ∀ known, entry.2.items = some known → P known.1

variable {P : List Item → Prop} {α : Type}

namespace Scan

/-! ## Steps of the reader -/

theorem fail_yields {Q : α → Prop} (fault : Malformed) :
    Yields (State.Cached P) (fail fault : Scan α) Q := .throw fault

/-- Nothing comes after a fault. -/
theorem fail_bind_yields {β : Type} {Q : β → Prop} (fault : Malformed) (f : α → Scan β) :
    Yields (State.Cached P) (fail fault >>= f) Q := by
  have hnone : Yields (State.Cached P) (fail fault : Scan α) fun _ => False := fail_yields fault
  exact hnone.bind fun _ hfalse => hfalse.elim

/-- A token has what its reader gives, whatever the text. -/
theorem token_yields {t : Token α} {Q : α → Prop} (h : Yields (fun _ => True) t Q) :
    Yields (State.Cached P) (token t) Q := by
  unfold token
  refine .ofState fun s hs => ?_
  cases hread : t s.rest with
  | error fault => exact .throw fault
  | ok r => exact Keeps.bind (.set hs) fun _ => .pure (h s.rest trivial r hread).1

theorem token_keeps (t : Token α) : Keeps (State.Cached P) (token t) := by
  refine token_yields fun text _ => ?_
  exact (Ensures.trivial (t text)).mono fun _ _ => ⟨trivial, trivial⟩

theorem warn_keeps : Keeps (State.Cached P) warn := .modify fun _ hs => hs

theorem noteError_keeps : Keeps (State.Cached P) noteError := .modify fun _ hs => hs

theorem limits_keeps : Keeps (State.Cached P) limits := by
  unfold limits
  exact Keeps.bind .get fun _ => .pure trivial

/-- What the inner reader reads another text for, the outer one has. -/
theorem within_yields {text : List Char} {reader : Scan α} {Q : α → Prop}
    (h : Yields (State.Cached P) reader Q) : Yields (State.Cached P) (within text reader) Q := by
  unfold within
  refine .ofState fun s hs => .afterIf (fail_yields _) ?_
  refine Keeps.bind (.set hs) fun _ => h.bind fun a ha => ?_
  refine .ofState fun t ht => .afterUnless (fail_yields _) ?_
  exact Keeps.bind (.modify fun _ hu => hu) fun _ => .pure ha

theorem expandingEntity_yields {name : String} {reader : Scan α} {Q : α → Prop}
    (h : Yields (State.Cached P) reader Q) :
    Yields (State.Cached P) (expandingEntity name reader) Q := by
  unfold expandingEntity
  refine .ofState fun s hs => .afterIf (fail_yields _) ?_
  refine Keeps.bind (.set hs) fun _ => h.bind fun a ha => ?_
  exact Keeps.bind (.modify fun _ hu => hu) fun _ => .pure ha

theorem charge_keeps (size : Nat) : Keeps (State.Cached P) (charge size) := by
  unfold charge
  refine .ofState fun s hs => .afterIf (fail_yields _) ?_
  exact .set hs

theorem undeclared_keeps : Keeps (State.Cached P) undeclared := by
  unfold undeclared
  refine .ofState fun s hs => .ite (fail_yields _) ?_
  exact .ite noteError_keeps warn_keeps

/-- An entity that is found has items with the property, if it has been read. -/
theorem entity?_yields (name : String) : Yields (State.Cached P) (entity? name) fun found =>
    ∀ e, found = some e → ∀ known, e.items = some known → P known.1 := by
  unfold entity?
  refine .ofState fun s hs => ?_
  cases hget : s.entities.get? name with
  | none => exact undeclared_keeps.bind fun _ => .pure fun e he => nomatch he
  | some e =>
      dsimp only
      split
      · exact fail_yields _
      · refine .pure fun found hfound known hknown => ?_
        cases hfound
        exact hs _ (Entries.mem_of_get? hget) known hknown

/-- A change of an entity that leaves its items as they are, or gives it items with the
property. -/
theorem updateEntity_keeps {name : String} {change : Entity → Entity}
    (h : ∀ e known, (change e).items = some known → P known.1 ∨ e.items = some known) :
    Keeps (State.Cached P) (updateEntity name change) := by
  refine .modify fun s hs => ?_
  cases hget : s.entities.get? name with
  | none => exact hs
  | some e =>
      intro entry hentry known hknown
      rcases Entries.mem_of_mem_insert hentry with rfl | hbefore
      · rcases h e known hknown with hP | hold
        · exact hP
        · exact hs _ (Entries.mem_of_get? hget) known hold
      · exact hs entry hbefore known hknown

theorem keepItems_keeps {items : List Item} (h : P items) (name : String) (size : Nat) :
    Keeps (State.Cached P) (keepItems name items size) := by
  refine updateEntity_keeps fun e known hknown => ?_
  cases hknown
  exact .inl h

/-! ## The values of attributes -/

theorem joinPieces_keeps (plain : Char → Char) {expand : String → Scan (List Char)}
    (h : ∀ name, Keeps (State.Cached P) (expand name)) (ps : List Piece) :
    Keeps (State.Cached P) (joinPieces plain expand ps) := by
  induction ps with
  | nil => exact .pure trivial
  | cons p rest ih =>
      cases p with
      | plain c => exact ih.bind fun _ => .pure trivial
      | numbered c => exact ih.bind fun _ => .pure trivial
      | entity name => exact (h name).bind fun _ => ih.bind fun _ => .pure trivial

theorem replacementWith_keeps {inner : Option (String → Scan (List Char))}
    (h : ∀ expand ∈ inner, ∀ name, Keeps (State.Cached P) (expand name))
    (name : String) : Keeps (State.Cached P) (replacementWith inner name) := by
  unfold replacementWith
  split
  · exact .pure trivial
  · refine (entity?_yields name).bind fun found _ => ?_
    split
    · exact .pure trivial
    · split
      · rename_i expand _
        refine (charge_keeps _).bind fun _ => limits_keeps.bind fun limits => ?_
        refine Keeps.bind (.lift (.trivial _)) fun ps => ?_
        exact expandingEntity_yields (joinPieces_keeps _ (h expand rfl) ps)
      · exact fail_yields _
      · exact fail_yields _

theorem replacement_keeps (levels : Nat) (name : String) :
    Keeps (State.Cached P) (replacement levels name) := by
  induction levels generalizing name with
  | zero => exact replacementWith_keeps (fun _ hnone => absurd hnone (Option.not_mem_none _)) name
  | succ levels ih =>
      refine replacementWith_keeps (fun expand hexpand => ?_) name
      cases hexpand
      exact ih

theorem sizeOfPieces_keeps {size : String → Scan Nat}
    (h : ∀ name, Keeps (State.Cached P) (size name)) (ps : List Piece) :
    Keeps (State.Cached P) (sizeOfPieces size ps) := by
  induction ps with
  | nil => exact .pure trivial
  | cons p rest ih =>
      cases p with
      | plain c => exact ih
      | numbered c => exact ih
      | entity name => exact (h name).bind fun _ => ih.bind fun _ => .pure trivial

theorem referenceSizeWith_keeps {declaring : Bool} {inner : Option (String → Scan Nat)}
    (h : ∀ size ∈ inner, ∀ name, Keeps (State.Cached P) (size name)) (name : String) :
    Keeps (State.Cached P) (referenceSizeWith declaring inner name) := by
  unfold referenceSizeWith
  refine .ite (.pure trivial) ((entity?_yields name).bind fun found _ => ?_)
  split
  · exact .pure trivial
  · split
    · split
      · exact .pure trivial
      · refine .ite (.pure trivial) ?_
        split
        · exact fail_yields _
        · rename_i size
          refine limits_keeps.bind fun limits => Keeps.bind (.lift (.trivial _)) fun ps => ?_
          have hadded := sizeOfPieces_keeps (h size rfl) ps
          refine (expandingEntity_yields hadded).bind fun added _ => ?_
          -- only what is known of the fitness of the entity changes
          exact Keeps.bind (updateEntity_keeps fun _ _ hknown => .inr hknown) fun _ => .pure trivial
    · exact fail_yields _

theorem referenceSize_keeps (declaring : Bool) (levels : Nat) (name : String) :
    Keeps (State.Cached P) (referenceSize declaring levels name) := by
  induction levels generalizing name with
  | zero => exact referenceSizeWith_keeps (fun _ hnone => absurd hnone (Option.not_mem_none _)) name
  | succ levels ih =>
      refine referenceSizeWith_keeps (fun size hsize => ?_) name
      cases hsize
      exact ih

theorem textOfItems_keeps {text : String → Scan (List Char)}
    (h : ∀ name, Keeps (State.Cached P) (text name)) (items : List Item) :
    Keeps (State.Cached P) (textOfItems text items) := by
  induction items with
  | nil => exact .pure trivial
  | cons item rest ih =>
      cases item with
      | text run => exact ih.bind fun _ => .pure trivial
      | reference name => exact (h name).bind fun _ => ih.bind fun _ => .pure trivial
      | element tag content => exact ih
      | comment body => exact ih
      | instruction target body => exact ih

section Text

variable (htext : ∀ run, P [.text run])

include htext

/-- An entity that is needed in a value is kept as a single text. -/
theorem entityText_keeps (fuel : Nat) (name : String) :
    Keeps (State.Cached P) (entityText fuel name) := by
  induction fuel generalizing name with
  | zero => exact .pure trivial
  | succ fuel ih =>
      rw [entityText]
      refine .ofState fun s hs => ?_
      split
      · exact .pure trivial
      · exact .pure trivial
      · split
        · exact textOfItems_keeps ih _
        · refine limits_keeps.bind fun limits => Keeps.bind (.lift (.trivial _)) fun ps => ?_
          refine (joinPieces_keeps id ih ps).bind fun text => ?_
          exact (keepItems_keeps (htext _) name _).bind fun _ => .pure trivial
        · exact .pure trivial

theorem finishedValue_keeps (parts : List Part) :
    Keeps (State.Cached P) (finishedValue parts) := by
  induction parts with
  | nil => exact .pure trivial
  | cons part rest ih =>
      cases part with
      | char c => exact ih.bind fun _ => .pure trivial
      | reference name =>
          refine .ofState fun s hs => (entityText_keeps htext _ name).bind fun _ => ?_
          exact ih.bind fun _ => .pure trivial

end Text

theorem partsOf_keeps (reading : ValueReading) (p : Piece) :
    Keeps (State.Cached P) (partsOf reading p) := by
  cases p with
  | plain c => exact .pure trivial
  | numbered c => exact .pure trivial
  | entity name =>
      rw [partsOf]
      split
      · exact .pure trivial
      · refine .ofState fun s hs => .ite ?_ ?_
        · exact (replacement_keeps _ name).bind fun _ => .pure trivial
        · refine (referenceSize_keeps _ _ name).bind fun size => .ofState fun t ht => .ite ?_ ?_
          · exact (charge_keeps _).bind fun _ => .pure trivial
          · exact .pure trivial

theorem partsOfAll_keeps (reading : ValueReading) (ps : List Piece) :
    Keeps (State.Cached P) (partsOfAll reading ps) := by
  induction ps with
  | nil => exact .pure trivial
  | cons p rest ih => exact (partsOf_keeps reading p).bind fun _ => ih.bind fun _ => .pure trivial

theorem valueParts_keeps (reading : ValueReading) (tokenized : Bool) :
    Keeps (State.Cached P) (valueParts reading tokenized) := by
  unfold valueParts
  refine (token_keeps _).bind fun raw => limits_keeps.bind fun limits => ?_
  refine Keeps.bind (.lift (.trivial _)) fun ps => (partsOfAll_keeps reading ps).bind fun _ => ?_
  exact .pure trivial

end Scan

end DepthRules.Xml
