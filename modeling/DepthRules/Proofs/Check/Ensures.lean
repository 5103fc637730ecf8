import DepthRules.Check.Field
import DepthRules.Proofs.Entries

/-!
# What a check ensures

`Ensures x P` says that every value with which `x` succeeds has the property `P`. A check of a value
that is made of parts ensures of the parts what their own checks ensure: this holds for fields, for
the items of a list and for the values of a mapping.
-/

namespace DepthRules

variable {ε ε' α β : Type}

/-- Two computations in a row succeed if the first does and then the second. -/
theorem bind_eq_ok_iff {x : Except ε α} {f : α → Except ε β} {b : β} :
    x >>= f = .ok b ↔ ∃ a, x = .ok a ∧ f a = .ok b := by
  cases x with
  | error e =>
      constructor
      · rintro ⟨⟩
      · rintro ⟨a, ⟨⟩, -⟩
  | ok a =>
      constructor
      · intro h
        exact ⟨a, rfl, h⟩
      · rintro ⟨a', ⟨⟩, h⟩
        exact h

theorem map_eq_ok_iff {x : Except ε α} {f : α → β} {b : β} :
    x.map f = .ok b ↔ ∃ a, x = .ok a ∧ f a = b := by
  cases x with
  | error e =>
      constructor
      · rintro ⟨⟩
      · rintro ⟨a, ⟨⟩, -⟩
  | ok a =>
      constructor
      · intro h
        exact ⟨a, rfl, Except.ok.inj h⟩
      · rintro ⟨a', ⟨⟩, rfl⟩
        rfl

/-- Naming an error otherwise does not make a success. -/
theorem mapError_eq_ok_iff {x : Except ε α} {f : ε → ε'} {a : α} :
    x.mapError f = .ok a ↔ x = .ok a := by
  cases x with
  | error e =>
      constructor
      · rintro ⟨⟩
      · rintro ⟨⟩
  | ok a =>
      constructor
      · intro h
        exact congrArg Except.ok (Except.ok.inj h)
      · rintro ⟨⟩
        rfl

theorem toOption_eq_some_iff {x : Except ε α} {a : α} : x.toOption = some a ↔ x = .ok a := by
  cases x <;> simp [Except.toOption]

/-- Every value with which a computation succeeds has the property. -/
def Ensures (x : Except ε α) (P : α → Prop) : Prop := ∀ a, x = .ok a → P a

namespace Ensures

variable {P : α → Prop} {Q : β → Prop}

theorem ok {a : α} (h : P a) : Ensures (.ok a : Except ε α) P := by
  intro b hb
  cases hb
  exact h

theorem error (e : ε) : Ensures (.error e : Except ε α) P := by
  intro b hb
  cases hb

theorem mono {x : Except ε α} {R : α → Prop} (h : Ensures x P) (hPR : ∀ a, P a → R a) :
    Ensures x R := fun a ha => hPR a (h a ha)

theorem trivial (x : Except ε α) : Ensures x fun _ => True := fun _ _ => True.intro

theorem bind {x : Except ε α} {f : α → Except ε β} (hx : Ensures x P)
    (hf : ∀ a, P a → Ensures (f a) Q) : Ensures (x >>= f) Q := by
  intro b hb
  cases ha : x with
  | error e => rw [ha] at hb; cases hb
  | ok a => rw [ha] at hb; exact hf a (hx a ha) b hb

theorem map {x : Except ε α} {f : α → β} (hx : Ensures x P) (hf : ∀ a, P a → Q (f a)) :
    Ensures (x.map f) Q := by
  intro b hb
  obtain ⟨a, ha, rfl⟩ := map_eq_ok_iff.1 hb
  exact hf a (hx a ha)

theorem mapError {x : Except ε α} (hx : Ensures x P) (f : ε → ε') :
    Ensures (x.mapError f) P := fun a ha => hx a (mapError_eq_ok_iff.1 ha)

end Ensures

namespace Checked

variable {P : α → Prop} {Q : β → Prop}

@[simp] theorem within_eq_ok_iff {c : Checked α} {key : String} {a : α} :
    within key c = .ok a ↔ c = .ok a := by
  cases c <;> simp [within]

@[simp] theorem both_eq_ok_iff {c : Checked α} {d : Checked β} {ab : α × β} :
    both c d = .ok ab ↔ c = .ok ab.1 ∧ d = .ok ab.2 := by
  cases c <;> cases d <;> simp [both, Prod.ext_iff]

/-- What is told of a check that accepts a value is the value. -/
@[simp] theorem told_eq_ok_iff {c : Checked α} {a : α} : c.told = .ok a ↔ c = .ok a := by
  cases c with
  | ok b => simp [told]
  | error ds =>
      rw [told]
      cases ds.findSome? Defect.encodeError? <;> simp

theorem ensures_within {c : Checked α} (h : Ensures c P) (key : String) :
    Ensures (within key c) P := by
  intro a ha
  exact h a (within_eq_ok_iff.1 ha)

theorem ensures_both {c : Checked α} {d : Checked β} (hc : Ensures c P) (hd : Ensures d Q) :
    Ensures (both c d) fun ab => P ab.1 ∧ Q ab.2 := by
  intro ab hab
  obtain ⟨ha, hb⟩ := both_eq_ok_iff.1 hab
  exact ⟨hc _ ha, hd _ hb⟩

theorem ensures_all {cs : List (Checked α)} (h : ∀ c ∈ cs, Ensures c P) :
    Ensures (all cs) fun as => ∀ a ∈ as, P a := by
  induction cs with
  | nil => exact .ok fun a ha => absurd ha List.not_mem_nil
  | cons c rest ih =>
      have hboth := ensures_both (h c List.mem_cons_self)
        (ih fun d hd => h d (List.mem_cons_of_mem c hd))
      rw [all]
      cases hcs : both c (all rest) with
      | error ds => exact .error ds
      | ok found =>
          obtain ⟨hhead, htail⟩ := hboth found hcs
          refine .ok fun a ha => ?_
          rcases List.mem_cons.1 ha with rfl | ha
          · exact hhead
          · exact htail a ha

end Checked

namespace Check

variable {P : α → Prop} {check : Value → Checked α}

theorem ensures_required (h : ∀ v, Ensures (check v) P) (entries : List (Value × Value))
    (name : String) : Ensures (required entries name check) P := by
  refine Checked.ensures_within ?_ name
  cases Value.lookup? entries name with
  | none => exact .error _
  | some v => exact h v

theorem ensures_optional (h : ∀ v, Ensures (check v) P) {missing : α} (hmissing : P missing)
    (entries : List (Value × Value)) (name : String) :
    Ensures (optional entries name missing check) P := by
  rw [optional]
  cases Value.lookup? entries name with
  | none => exact .ok hmissing
  | some v => exact Checked.ensures_within (h v) name

theorem ensures_itemsFrom (h : ∀ v, Ensures (check v) P) (items : List Value) (position : Nat) :
    ∀ c ∈ itemsFrom check position items, Ensures c P := by
  induction items generalizing position with
  | nil => exact fun c hc => absurd hc List.not_mem_nil
  | cons v rest ih =>
      intro c hc
      rcases List.mem_cons.1 hc with rfl | hc
      · exact Checked.ensures_within (h v) _
      · exact ih (position + 1) c hc

/-- The items of a checked list have what the check of an item ensures. -/
theorem ensures_list (h : ∀ v, Ensures (check v) P) (v : Value) :
    Ensures (list check v) fun as => ∀ a ∈ as, P a := by
  rw [list]
  cases items? v with
  | none => exact .error _
  | some items => exact Checked.ensures_all (ensures_itemsFrom h items 0)

/-- The values of a checked mapping have what the check of a value ensures. -/
theorem ensures_mapping (h : ∀ v, Ensures (check v) P) (v : Value) :
    Ensures (mapping check v) fun entries => ∀ e ∈ entries, P e.2 := by
  rw [mapping]
  split
  · rename_i entries _
    refine Ensures.map (P := fun found => ∀ e ∈ found, P e.2) (Checked.ensures_all ?_)
      fun found hfound e he => hfound e (Entries.mem_of_mem_ofList he)
    intro c hc
    obtain ⟨⟨k, w⟩, -, rfl⟩ := List.mem_map.1 hc
    refine Checked.ensures_within ?_ _
    exact (Checked.ensures_both (Ensures.trivial _) (h w)).mono fun _ hboth => hboth.2
  · exact .error _

/-- A checked mapping has a key only once. -/
theorem ensures_mapping_nodup (check : Value → Checked α) (v : Value) :
    Ensures (mapping check v) fun entries => (Entries.keys entries).Nodup := by
  rw [mapping]
  split
  · exact Ensures.map (Ensures.trivial _) fun found _ => Entries.nodup_keys_ofList found
  · exact .error _

end Check

end DepthRules
