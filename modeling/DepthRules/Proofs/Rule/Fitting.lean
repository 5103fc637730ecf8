import DepthRules.Rule.Ruleset

/-!
# Tags that fit

A comment rule has no tag, any other rule has one that is not empty. `TagFits` says so, and a
declaration is made exactly of parts for which it holds (`Declaration.make_eq_ok_iff`). The rules of
a list are declared up to the first that does not fit (`declareAll_of_fits`,
`declareAll_of_misfit`).
-/

namespace DepthRules

namespace Rule

/-- The tags a rule of a kind may have. -/
def TagFits : Kind → Option Str → Prop
  | .comment, tag => tag = none
  | .element, tag | .content, tag => tag ≠ none ∧ tag ≠ some []

instance : ∀ kind tag, Decidable (TagFits kind tag)
  | .comment, tag => inferInstanceAs (Decidable (tag = none))
  | .element, tag | .content, tag => inferInstanceAs (Decidable (tag ≠ none ∧ tag ≠ some []))

/-- No tag that fits is empty. -/
theorem TagFits.ne_empty {kind : Kind} {tag : Option Str} (h : TagFits kind tag) :
    tag ≠ some [] := by
  cases kind with
  | comment =>
      rintro rfl
      exact Option.some_ne_none _ h
  | element | content => exact h.2

/-- Just comment rules have no tag. -/
theorem TagFits.eq_none_iff {kind : Kind} {tag : Option Str} (h : TagFits kind tag) :
    tag = none ↔ kind = .comment := by
  cases kind with
  | comment => exact iff_of_true h rfl
  | element | content => exact iff_of_false h.1 Kind.noConfusion

/-- A tag that is not empty fits if it fits as a name. -/
theorem checkName_eq_ok_iff {kind : Kind} {tag : Option Str} (hempty : tag ≠ some []) :
    checkName kind tag = .ok () ↔ TagFits kind tag := by
  cases kind with
  | comment => cases tag <;> simp [checkName, TagFits]
  | element | content => cases tag <;> simp_all [checkName, TagFits]

end Rule

namespace Declaration

open Rule

/-- A declaration consists of the parts it is made of, and these fit. -/
theorem make_eq_ok_iff {kind : Kind} {depth : Int} {tag : Option Str} {label : Str}
    {d : Declaration} :
    make kind depth tag label = .ok d ↔ TagFits kind tag ∧ d = ⟨kind, depth, tag, label⟩ := by
  by_cases hempty : tag = some []
  · rw [make, if_pos hempty]
    exact ⟨fun h => by simp at h, fun h => absurd hempty h.1.ne_empty⟩
  · rw [make, if_neg hempty, ← checkName_eq_ok_iff hempty]
    cases checkName kind tag with
    | error cause => simp
    | ok u => simp [eq_comm]

/-- Every declaration with a fitting tag becomes a rule. -/
theorem toRule_of_tagFits {d : Declaration} (h : TagFits d.kind d.tag) :
    d.toRule = .ok ⟨d.kind, d.depth, d.tag⟩ := by
  rw [toRule, Rule.make, (checkName_eq_ok_iff h.ne_empty).2 h]
  rfl

end Declaration

namespace Rule

/-- Whether the tag of a rule of a ruleset fits its kind. -/
def Entry.Fits (e : Entry) : Prop := TagFits e.kind e.tag

instance (e : Entry) : Decidable e.Fits := inferInstanceAs (Decidable (TagFits e.kind e.tag))

/-- The declaration of a rule whose tag fits. -/
def Entry.declared (e : Entry) : Declaration := ⟨e.kind, e.depth, e.tag, e.labelText⟩

theorem Entry.declaration_eq_ok_iff {e : Entry} {d : Declaration} :
    e.declaration = .ok d ↔ e.Fits ∧ d = e.declared :=
  Declaration.make_eq_ok_iff

theorem Entry.declaration_of_fits {e : Entry} (h : e.Fits) : e.declaration = .ok e.declared :=
  Entry.declaration_eq_ok_iff.2 ⟨h, rfl⟩

/-- A rule whose tag does not fit is refused. -/
theorem Entry.exists_declaration_eq_error {e : Entry} (h : ¬ e.Fits) :
    ∃ cause, e.declaration = .error cause := by
  cases hd : e.declaration with
  | error cause => exact ⟨cause, rfl⟩
  | ok d => exact absurd (Entry.declaration_eq_ok_iff.1 hd).1 h

/-- Rules that all fit are all declared, in their order. -/
theorem declareAll_of_fits {entries : List Entry} (h : ∀ e ∈ entries, e.Fits) :
    declareAll entries = .ok (entries.map Entry.declared) := by
  induction entries with
  | nil => rfl
  | cons e rest ih =>
      rw [declareAll, Entry.declaration_of_fits (h e List.mem_cons_self),
        ih fun x hx => h x (List.mem_cons_of_mem e hx)]
      rfl

/-- Of several rules that do not fit the first is told. -/
theorem declareAll_of_misfit {entries : List Entry} {e : Entry} {cause : ReadError}
    (hfirst : entries.find? (fun x => ¬ x.Fits) = some e) (hcause : e.declaration = .error cause) :
    declareAll entries = .error cause := by
  induction entries with
  | nil => simp at hfirst
  | cons x rest ih =>
      by_cases hx : x.Fits
      -- rules that fit are passed over, by the search as by the declaring
      · rw [List.find?_cons_of_neg (by simpa using hx)] at hfirst
        rw [declareAll, Entry.declaration_of_fits hx, ih hfirst]
        rfl
      · rw [List.find?_cons_of_pos (by simpa using hx), Option.some.injEq] at hfirst
        rw [declareAll, hfirst, hcause]
        rfl

end Rule

end DepthRules
