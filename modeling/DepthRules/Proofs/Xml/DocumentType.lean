import DepthRules.Proofs.Xml.Entities
import DepthRules.Xml.DocumentType

/-!
# What a document type leaves of the kept content

A document type declares entities whose content has not been read, and looks at declared ones only
as parts of values. So reading it keeps what is known of the items of entities, through every
declaration and every level of references to entities of the document type
(`documentType_keeps`).
-/

namespace DepthRules.Xml.Scan

variable {P : List Item → Prop}

/-! ## Parts of declarations -/

theorem systemLiteral_keeps : Keeps (State.Cached P) systemLiteral := by
  unfold systemLiteral
  refine (token_keeps _).bind fun text => limits_keeps.bind fun limits => ?_
  exact (token_keeps _).bind fun _ => .pure trivial

theorem publicLiteral_keeps : Keeps (State.Cached P) publicLiteral := by
  unfold publicLiteral
  refine (token_keeps _).bind fun text => limits_keeps.bind fun limits => ?_
  exact (token_keeps _).bind fun _ => .ite (.pure trivial) (fail_yields _)

theorem externalId_keeps (strict : Bool) : Keeps (State.Cached P) (externalId strict) := by
  unfold externalId
  refine (token_keeps _).bind fun _ => .ite ?_ ((token_keeps _).bind fun _ => .ite ?_ ?_)
  · exact (token_keeps _).bind fun _ => systemLiteral_keeps.bind fun _ => .pure trivial
  · refine (token_keeps _).bind fun _ => publicLiteral_keeps.bind fun _ => .ite ?_ ?_
    · exact (token_keeps _).bind fun _ => systemLiteral_keeps.bind fun _ => .pure trivial
    · refine (token_keeps _).bind fun _ => .ite ?_ (.pure trivial)
      refine (token_keeps _).bind fun next => .ite ?_ (.pure trivial)
      exact systemLiteral_keeps.bind fun _ => .pure trivial
  · exact .pure trivial

theorem declarationEnd_keeps : Keeps (State.Cached P) declarationEnd :=
  (token_keeps _).bind fun _ => token_keeps _

theorem declaredName_keeps : Keeps (State.Cached P) declaredName :=
  limits_keeps.bind fun _ => token_keeps _

/-! ## Elements and attributes -/

theorem contentModel_keeps : Keeps (State.Cached P) contentModel := by
  unfold contentModel
  refine limits_keeps.bind fun limits => .ofState fun s hs => ?_
  refine (token_keeps _).bind fun _ => .ite (.pure trivial) ?_
  refine (token_keeps _).bind fun _ => .ite (.pure trivial) ?_
  refine (token_keeps _).bind fun _ => (token_keeps _).bind fun _ => ?_
  refine (token_keeps _).bind fun _ => .ite ?_ ?_
  · exact (token_keeps _).bind fun _ => .pure trivial
  · exact (token_keeps _).bind fun _ => .pure trivial

theorem elementDeclaration_keeps : Keeps (State.Cached P) elementDeclaration := by
  unfold elementDeclaration
  refine (token_keeps _).bind fun _ => declaredName_keeps.bind fun name => ?_
  refine (token_keeps _).bind fun _ => contentModel_keeps.bind fun model => ?_
  refine declarationEnd_keeps.bind fun _ => .ofState fun s hs => .ite noteError_keeps ?_
  exact .modify fun _ ht => ht

theorem noteRepetitions_keeps (before words : List (List Char)) :
    Keeps (State.Cached P) (noteRepetitions before words) := by
  induction words generalizing before with
  | nil => exact .pure trivial
  | cons word rest ih => exact .afterIf noteError_keeps (ih _)

theorem attributeType_keeps : Keeps (State.Cached P) attributeType := by
  unfold attributeType
  refine .ofState fun s hs => (token_keeps _).bind fun kind => ?_
  split
  · exact .pure trivial
  · refine (token_keeps _).bind fun named => .afterIf (token_keeps _) ?_
    refine (token_keeps _).bind fun _ => limits_keeps.bind fun limits => ?_
    refine (token_keeps _).bind fun words => (noteRepetitions_keeps [] words).bind fun _ => ?_
    exact .pure trivial

theorem attributeDefault_keeps (tokenized : Bool) :
    Keeps (State.Cached P) (attributeDefault tokenized) := by
  unfold attributeDefault
  refine (token_keeps _).bind fun missing => .ite (.pure trivial) ?_
  refine (token_keeps _).bind fun fixed => .afterIf (token_keeps _) ?_
  exact .ofState fun s hs => (valueParts_keeps _ _).bind fun _ => .pure trivial

theorem declareAttribute_keeps (d : AttributeDeclaration) :
    Keeps (State.Cached P) (declareAttribute d) := by
  unfold declareAttribute
  refine .afterIf noteError_keeps (.afterUnless noteError_keeps ?_)
  refine .ofState fun s hs => .ite warn_keeps (.afterIf noteError_keeps ?_)
  exact .modify fun _ ht => ht

theorem attributeDeclarations_keeps (owner : SplitName) (fuel : Nat) :
    Keeps (State.Cached P) (attributeDeclarations owner fuel) := by
  induction fuel with
  | zero => exact fail_yields _
  | succ fuel ih =>
      rw [attributeDeclarations]
      refine (token_keeps _).bind fun last => .ite (.pure trivial) ?_
      refine declaredName_keeps.bind fun name => (token_keeps _).bind fun _ => ?_
      refine attributeType_keeps.bind fun kind => (token_keeps _).bind fun _ => ?_
      refine (attributeDefault_keeps _).bind fun value => (token_keeps _).bind fun next => ?_
      refine .afterUnless (token_keeps _) ?_
      exact (declareAttribute_keeps _).bind fun _ => ih

theorem attributeListDeclaration_keeps : Keeps (State.Cached P) attributeListDeclaration := by
  unfold attributeListDeclaration
  refine .ofState fun s hs => (token_keeps _).bind fun _ => declaredName_keeps.bind fun name => ?_
  exact (token_keeps _).bind fun _ => attributeDeclarations_keeps _ _

/-! ## Entities and notations -/

theorem entityLiteral_keeps : Keeps (State.Cached P) entityLiteral := by
  unfold entityLiteral
  refine (token_keeps _).bind fun raw => .afterIf (fail_yields _) ?_
  refine .ofState fun s hs => .afterIf (fail_yields _) ?_
  refine limits_keeps.bind fun limits => Keeps.bind (.lift (.trivial _)) fun r => ?_
  obtain ⟨text, cut⟩ := r
  cases cut with
  | none => exact .pure trivial
  | some name =>
      refine Keeps.bind (.modify fun _ ht => ht) fun _ => .ofState fun t ht => .ite ?_ ?_
      · exact fail_bind_yields _ _
      · exact undeclared_keeps.bind fun _ => .pure trivial

theorem entityBody_keeps (parameter : Bool) : Keeps (State.Cached P) (entityBody parameter) := by
  unfold entityBody
  refine (token_keeps _).bind fun next => .ite ?_ ?_
  · exact entityLiteral_keeps.bind fun _ => .pure trivial
  · refine (externalId_keeps true).bind fun system => ?_
    cases system with
    | none => exact fail_bind_yields _ _
    | some system =>
        refine .ite (fail_bind_yields _ _) (.ite (.pure trivial) ?_)
        refine (token_keeps _).bind fun next => .ite (.pure trivial) ?_
        refine (token_keeps _).bind fun _ => (token_keeps _).bind fun unparsed => .ite ?_ ?_
        · refine (token_keeps _).bind fun _ => limits_keeps.bind fun limits => ?_
          exact (token_keeps _).bind fun _ => .pure trivial
        · exact .pure trivial

/-- An entity that is declared has no items yet. -/
theorem declareEntity_keeps (name : String) (body : EntityBody) :
    Keeps (State.Cached P) (declareEntity name body) := by
  unfold declareEntity
  split
  · exact .ite (.pure trivial) warn_keeps
  · refine .ofState fun s hs => .ite (.pure trivial) (.modify fun t ht => ?_)
    intro entry hentry known hknown
    rcases List.mem_append.1 hentry with hbefore | hnew
    · exact ht entry hbefore known hknown
    · cases List.mem_singleton.1 hnew
      cases hknown

theorem declareParameter_keeps (name : String) (body : EntityBody) :
    Keeps (State.Cached P) (declareParameter name body) := by
  unfold declareParameter
  exact .ofState fun s hs => .ite (.pure trivial) (.modify fun _ ht => ht)

theorem entityDeclaration_keeps : Keeps (State.Cached P) entityDeclaration := by
  unfold entityDeclaration
  refine (token_keeps _).bind fun _ => (token_keeps _).bind fun parameter => ?_
  refine .afterIf (token_keeps _) (declaredName_keeps.bind fun name => ?_)
  refine .afterIf noteError_keeps ((token_keeps _).bind fun _ => ?_)
  refine (entityBody_keeps parameter).bind fun body => declarationEnd_keeps.bind fun _ => ?_
  exact .ite (declareParameter_keeps _ _) (declareEntity_keeps _ _)

theorem notationDeclaration_keeps : Keeps (State.Cached P) notationDeclaration := by
  unfold notationDeclaration
  refine (token_keeps _).bind fun _ => declaredName_keeps.bind fun name => ?_
  refine .afterIf noteError_keeps ((token_keeps _).bind fun _ => ?_)
  refine (externalId_keeps false).bind fun system => .afterIf (fail_yields _) ?_
  refine declarationEnd_keeps.bind fun _ => .ofState fun s hs => .ite noteError_keeps ?_
  exact .modify fun _ ht => ht

/-! ## The internal subset -/

theorem instructionTarget_keeps : Keeps (State.Cached P) instructionTarget := by
  unfold instructionTarget
  refine limits_keeps.bind fun limits => (token_keeps _).bind fun name => .ite ?_ ?_
  · refine .ite (fail_bind_yields _ _) (.ite (.pure trivial) ?_)
    exact warn_keeps.bind fun _ => .afterIf noteError_keeps (.pure trivial)
  · exact .afterIf noteError_keeps (.pure trivial)

/-- What is read as an instruction is one. -/
theorem instruction_yields : Yields (State.Cached P) instruction fun item =>
    ∃ target body, item = .instruction target body := by
  unfold instruction
  refine instructionTarget_keeps.bind fun target => (token_keeps _).bind fun body => ?_
  exact .pure ⟨target, body, rfl⟩

theorem markupDeclaration_keeps : Keeps (State.Cached P) markupDeclaration := by
  unfold markupDeclaration
  refine (token_keeps _).bind fun comment => .ite ?_ ?_
  · exact (token_keeps _).bind fun _ => .pure trivial
  refine (token_keeps _).bind fun other => .ite ?_ ?_
  · exact instruction_yields.bind fun _ _ => .pure trivial
  refine (token_keeps _).bind fun element => .ite elementDeclaration_keeps ?_
  refine (token_keeps _).bind fun attributes => .ite attributeListDeclaration_keeps ?_
  refine (token_keeps _).bind fun entity => .ite entityDeclaration_keeps ?_
  exact (token_keeps _).bind fun other => .ite notationDeclaration_keeps (fail_yields _)

section Expand

variable {expand : List Char → Scan Unit} (h : ∀ text, Keeps (State.Cached P) (expand text))

include h

theorem parameterReference_keeps : Keeps (State.Cached P) (parameterReference expand) := by
  unfold parameterReference
  refine limits_keeps.bind fun limits => (token_keeps _).bind fun name => ?_
  refine Keeps.bind (.modify fun _ hs => hs) fun _ => .ofState fun s hs => ?_
  split
  · exact undeclared_keeps
  · exact (charge_keeps _).bind fun _ => expandingEntity_yields (h _)
  · exact .pure trivial

theorem declarations_keeps (fuel : Nat) : Keeps (State.Cached P) (declarations expand fuel) := by
  induction fuel with
  | zero => exact .pure trivial
  | succ fuel ih =>
      rw [declarations]
      refine (token_keeps _).bind fun _ => .ofState fun s hs => ?_
      split
      · exact .pure trivial
      · exact .pure trivial
      · exact (token_keeps _).bind fun _ => (parameterReference_keeps h).bind fun _ => ih
      · exact markupDeclaration_keeps.bind fun _ => ih

end Expand

theorem nestedDeclarations_keeps (levels : Nat) (text : List Char) :
    Keeps (State.Cached P) (nestedDeclarations levels text) := by
  induction levels generalizing text with
  | zero => exact fail_yields _
  | succ levels ih => exact within_yields (declarations_keeps ih _)

/-- Reading a document type keeps what is known of the items of entities. -/
theorem documentType_keeps : Keeps (State.Cached P) documentType := by
  unfold documentType
  refine (token_keeps _).bind fun _ => limits_keeps.bind fun limits => ?_
  refine (token_keeps _).bind fun _ => (token_keeps _).bind fun _ => ?_
  refine (externalId_keeps true).bind fun system => .afterIf (.modify fun _ hs => hs) ?_
  refine (token_keeps _).bind fun _ => (token_keeps _).bind fun subset => .ite ?_ (token_keeps _)
  refine .ofState fun s hs => (declarations_keeps (nestedDeclarations_keeps _) _).bind fun _ => ?_
  exact (token_keeps _).bind fun _ => (token_keeps _).bind fun _ => token_keeps _

end DepthRules.Xml.Scan
