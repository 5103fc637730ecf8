import DepthRules.Proofs.Check.Ensures
import DepthRules.Proofs.Text.Characters
import DepthRules.Proofs.Value.Json
import Mathlib.Data.List.Forall2

/-!
# What a check reports

`Reports c Fits Offends` says all there is to say of the outcome of a check: it is the one value
that fits, or, if none does, a list of defects with exactly one for each place that offends. A check
that is made of the checks of parts reports what these report, each place with the step to the part
before it.
-/

namespace DepthRules.Check

/-- A step from a value to a part of it: to the value at a key or to an item. -/
inductive Step where
  | value (k : Value)
  | item (position : Nat)

/-- How the place of a defect shows a step. -/
def Step.shown : Step → String
  | .value k => keyPlace k
  | .item position => toString position

/-- A field is shown by its name. -/
theorem Step.shown_field (name : String) : (Step.value (.str name)).shown = name :=
  Str.lossy_ofString name

variable {α β : Type}

/-- The outcome of a check is the value that fits; or none fits, and there is one defect for each
place that offends. -/
def Reports (c : Checked α) (Fits : α → Prop) (Offends : List Step → Prop) : Prop :=
  match c with
  | .ok a => (∀ b, Fits b ↔ b = a) ∧ ∀ place, ¬ Offends place
  | .error defects =>
      (∀ b, ¬ Fits b) ∧ ∃ places : List (List Step), places ≠ [] ∧ places.Nodup ∧
        (∀ place, place ∈ places ↔ Offends place) ∧
        defects.map Defect.place = places.map (List.map Step.shown)

/-- The check finds at most one defect, of the value itself. -/
def OneDefect (c : Checked α) : Prop :=
  ∀ defects, c = .error defects → ∃ message, defects = [.here message]

theorem oneDefect_ok (a : α) : OneDefect (.ok a : Checked α) := fun _ h => by cases h

theorem oneDefect_refuse (message : Str) : OneDefect (refuse message : Checked α) := by
  rintro defects ⟨⟩
  exact ⟨message, rfl⟩

namespace Reports

variable {c : Checked α} {d : Checked β} {Fits : α → Prop} {Suits : β → Prop}
  {Offends Breaks : List Step → Prop}

/-! ## Outcomes -/

theorem ok_iff (h : Reports c Fits Offends) (a : α) : c = .ok a ↔ Fits a := by
  cases c with
  | ok b =>
      rw [h.1 a]
      exact ⟨fun heq => (Except.ok.inj heq).symm, fun heq => congrArg Except.ok heq.symm⟩
  | error defects => exact iff_of_false (fun heq => by cases heq) (h.1 a)

theorem exists_error_iff (h : Reports c Fits Offends) :
    (∃ defects, c = .error defects) ↔ ∃ place, Offends place := by
  cases c with
  | ok b =>
      refine iff_of_false ?_ ?_
      · rintro ⟨defects, ⟨⟩⟩
      · rintro ⟨place, hplace⟩
        exact h.2 place hplace
  | error defects =>
      obtain ⟨-, places, hne, -, hplaces, -⟩ := h
      obtain ⟨place, hmem⟩ := List.exists_mem_of_ne_nil places hne
      exact iff_of_true ⟨defects, rfl⟩ ⟨place, (hplaces place).1 hmem⟩

/-- What fits and what offends may be said in other words. -/
theorem congr (h : Reports c Fits Offends) {Fits' : α → Prop} {Offends' : List Step → Prop}
    (hfits : ∀ a, Fits' a ↔ Fits a) (hoffends : ∀ place, Offends' place ↔ Offends place) :
    Reports c Fits' Offends' := by
  have hfits : Fits' = Fits := funext fun a => propext (hfits a)
  have hoffends : Offends' = Offends := funext fun place => propext (hoffends place)
  rwa [hfits, hoffends]

/-! ## Checks of a value itself -/

/-- A value of which nothing is accepted offends itself. -/
theorem refuse (message : Str) (hfits : ∀ a, ¬ Fits a)
    (hoffends : ∀ place, Offends place ↔ place = []) :
    Reports (refuse message : Checked α) Fits Offends :=
  ⟨hfits, [[]], List.cons_ne_nil _ _, List.nodup_singleton _,
    fun place => by rw [hoffends, List.mem_singleton], rfl⟩

/-- A value with at most one defect offends itself if nothing fits. -/
theorem leaf (hok : ∀ a, c = .ok a ↔ Fits a) (herror : OneDefect c)
    (hoffends : ∀ place, Offends place ↔ place = [] ∧ ∀ a, ¬ Fits a) :
    Reports c Fits Offends := by
  cases c with
  | ok a =>
      refine ⟨fun b => ?_, fun place hplace => ?_⟩
      · rw [← hok b]
        exact ⟨fun heq => (Except.ok.inj heq).symm, fun heq => congrArg Except.ok heq.symm⟩
      · exact ((hoffends place).1 hplace).2 a ((hok a).1 rfl)
  | error defects =>
      obtain ⟨message, rfl⟩ := herror defects rfl
      have hnone : ∀ a, ¬ Fits a := fun a ha => by cases (hok a).2 ha
      exact refuse message hnone fun place => by simp [hoffends, hnone]

/-! ## Checks made of checks -/

/-- The places in a part have the step to the part before them. -/
theorem within (h : Reports c Fits Offends) (step : Step) :
    Reports (Checked.within step.shown c) Fits
      fun place => ∃ rest, place = step :: rest ∧ Offends rest := by
  cases c with
  | ok a =>
      refine ⟨h.1, ?_⟩
      rintro place ⟨rest, -, hrest⟩
      exact h.2 rest hrest
  | error defects =>
      obtain ⟨hfits, places, hne, hnodup, hplaces, hshown⟩ := h
      refine ⟨hfits, places.map (step :: ·), by simpa using hne,
        hnodup.map fun _ _ heq => (List.cons.inj heq).2, fun place => ?_, ?_⟩
      · simp only [List.mem_map, hplaces]
        constructor
        · rintro ⟨rest, hrest, rfl⟩
          exact ⟨rest, rfl, hrest⟩
        · rintro ⟨rest, rfl, hrest⟩
          exact ⟨rest, hrest, rfl⟩
      · have hunder : (defects.map (Defect.under step.shown)).map Defect.place =
            (defects.map Defect.place).map (step.shown :: ·) := by
          rw [List.map_map, List.map_map]
          rfl
        rw [hunder, hshown, List.map_map, List.map_map]
        rfl

/-- The places in a field have the step to the field before them. -/
theorem field (h : Reports c Fits Offends) (name : String) :
    Reports (Checked.within name c) Fits
      fun place => ∃ rest, place = .value (.str name) :: rest ∧ Offends rest := by
  have hwithin := h.within (.value (.str name))
  rwa [Step.shown_field] at hwithin

/-- Of two checks the places of both are reported, if they have none in common. -/
theorem both (hc : Reports c Fits Offends) (hd : Reports d Suits Breaks)
    (hdisjoint : ∀ place, Offends place → ¬ Breaks place) :
    Reports (Checked.both c d) (fun ab => Fits ab.1 ∧ Suits ab.2)
      fun place => Offends place ∨ Breaks place := by
  cases c with
  | ok a =>
      cases d with
      | ok b =>
          refine ⟨fun ab => ?_, fun place => not_or.2 ⟨hc.2 place, hd.2 place⟩⟩
          rw [Prod.ext_iff, ← hc.1, ← hd.1]
      | error es =>
          obtain ⟨hsuits, places, hne, hnodup, hplaces, hshown⟩ := hd
          refine ⟨fun ab hab => hsuits _ hab.2, places, hne, hnodup, fun place => ?_, hshown⟩
          rw [hplaces]
          exact (or_iff_right (hc.2 place)).symm
  | error ds =>
      obtain ⟨hfits, places, hne, hnodup, hplaces, hshown⟩ := hc
      cases d with
      | ok b =>
          refine ⟨fun ab hab => hfits _ hab.1, places, hne, hnodup, fun place => ?_, hshown⟩
          rw [hplaces]
          exact (or_iff_left (hd.2 place)).symm
      | error es =>
          obtain ⟨-, others, -, hothers, hmore, hrest⟩ := hd
          refine ⟨fun ab hab => hfits _ hab.1, places ++ others, by simp [hne],
            hnodup.append hothers fun place hin hmem =>
              hdisjoint place ((hplaces place).1 hin) ((hmore place).1 hmem),
            fun place => ?_, ?_⟩
          · rw [List.mem_append, hplaces, hmore]
          · rw [List.map_append, List.map_append, hshown, hrest]

/-- What is made of a checked value. -/
theorem map (h : Reports c Fits Offends) (f : α → β) :
    Reports (c.map f) (fun b => ∃ a, Fits a ∧ f a = b) Offends := by
  cases c with
  | ok a =>
      refine ⟨fun b => ?_, h.2⟩
      simp only [h.1, exists_eq_left]
      exact eq_comm
  | error defects =>
      refine ⟨?_, h.2⟩
      rintro b ⟨a, hfits, -⟩
      exact h.1 a hfits

/-- The checks of several parts, each with a step of its own. -/
theorem all {ι : Type} {parts : List ι} {step : ι → Step} {check : ι → Checked α}
    {Fits : ι → α → Prop} {Offends : ι → List Step → Prop}
    (hdistinct : (parts.map step).Nodup)
    (h : ∀ part ∈ parts, Reports (check part) (Fits part) (Offends part)) :
    Reports (Checked.all (parts.map fun part => Checked.within (step part).shown (check part)))
      (List.Forall₂ Fits parts)
      fun place => ∃ part ∈ parts, ∃ rest, place = step part :: rest ∧ Offends part rest := by
  induction parts with
  | nil =>
      refine ⟨fun as => List.forall₂_nil_left_iff, ?_⟩
      rintro place ⟨part, hmem, -⟩
      exact absurd hmem List.not_mem_nil
  | cons part parts ih =>
      obtain ⟨hpart, hparts⟩ := List.forall_mem_cons.1 h
      rw [List.map_cons, List.nodup_cons] at hdistinct
      have hboth := (hpart.within (step part)).both (ih hdistinct.2 hparts) <| by
        rintro place ⟨rest, rfl, -⟩ ⟨other, hmem, rest', heq, -⟩
        exact hdistinct.1 (List.mem_map.2 ⟨other, hmem, (List.cons.inj heq).1.symm⟩)
      have hall : Checked.all ((part :: parts).map fun part =>
          Checked.within (step part).shown (check part)) =
          (Checked.both (Checked.within (step part).shown (check part)) (Checked.all
            (parts.map fun part => Checked.within (step part).shown (check part)))).map
              fun ab => ab.1 :: ab.2 := by
        rw [List.map_cons, Checked.all]
        split
        · rename_i heq
          rw [heq]
          rfl
        · rename_i heq
          rw [heq]
          rfl
      rw [hall]
      refine (hboth.map _).congr (fun as => ?_) fun place => ?_
      · rw [List.forall₂_cons_left_iff]
        constructor
        · rintro ⟨a, rest, ha, hrest, rfl⟩
          exact ⟨(a, rest), ⟨ha, hrest⟩, rfl⟩
        · rintro ⟨ab, hab, rfl⟩
          exact ⟨ab.1, ab.2, hab.1, hab.2, rfl⟩
      · exact List.exists_mem_cons_iff _ _ _

end Reports

/-! ## Fields, items and entries -/

section Parts

variable {check : Value → Checked α} {Fits : Value → α → Prop}
  {Offends : Value → List Step → Prop} {entries : List (Value × Value)}

/-- A field that must be there offends if it is missing, and else where its value does. -/
theorem reports_required (hdistinct : (entries.map Prod.fst).Nodup) (name : String)
    (h : ∀ w, (.str name, w) ∈ entries → Reports (check w) (Fits w) (Offends w)) :
    Reports (required entries name check)
      (fun a => ∃ w, (Value.dict entries).Has name w ∧ Fits w a)
      fun place => ∃ rest, place = .value (.str name) :: rest ∧
        ((∃ w, (Value.dict entries).Has name w ∧ Offends w rest) ∨
          (∀ w, ¬ (Value.dict entries).Has name w) ∧ rest = []) := by
  refine Reports.field ?_ name
  simp only [Value.has_dict_iff]
  cases hfound : Value.lookup? entries name with
  | none =>
      have hnone := Value.lookup?_eq_none_iff.1 hfound
      refine .refuse _ ?_ fun place => ?_
      · rintro a ⟨w, hmem, -⟩
        exact hnone w hmem
      · simp [hnone]
  | some w =>
      have hat (w' : Value) : (.str name, w') ∈ entries ↔ w = w' := by
        rw [← Value.lookup?_eq_some_iff hdistinct, hfound, Option.some_inj]
      refine (h w ((hat w).2 rfl)).congr (fun a => ?_) fun place => ?_
      · simp [hat]
      · simp [hat]

/-- A field that may be missing offends only where its value does. -/
theorem reports_optional (hdistinct : (entries.map Prod.fst).Nodup) (name : String) (missing : α)
    (h : ∀ w, (.str name, w) ∈ entries → Reports (check w) (Fits w) (Offends w)) :
    Reports (optional entries name missing check)
      (fun a => (∃ w, (Value.dict entries).Has name w ∧ Fits w a) ∨
        (∀ w, ¬ (Value.dict entries).Has name w) ∧ a = missing)
      fun place => ∃ rest, place = .value (.str name) :: rest ∧
        ∃ w, (Value.dict entries).Has name w ∧ Offends w rest := by
  simp only [Value.has_dict_iff]
  rw [optional]
  cases hfound : Value.lookup? entries name with
  | none =>
      have hnone := Value.lookup?_eq_none_iff.1 hfound
      refine ⟨fun a => by simp [hnone], ?_⟩
      rintro place ⟨rest, -, w, hmem, -⟩
      exact hnone w hmem
  | some w =>
      have hat (w' : Value) : (.str name, w') ∈ entries ↔ w = w' := by
        rw [← Value.lookup?_eq_some_iff hdistinct, hfound, Option.some_inj]
      refine ((h w ((hat w).2 rfl)).field name).congr (fun a => ?_) fun place => ?_
      · simp [hat]
      · simp [hat]

theorem itemsFrom_eq_map (check : Value → Checked α) (items : List Value) (position : Nat) :
    itemsFrom check position items =
      (items.zipIdx position).map fun p => Checked.within (Step.item p.2).shown (check p.1) := by
  induction items generalizing position with
  | nil => rfl
  | cons item items ih =>
      rw [itemsFrom, ih, List.zipIdx_cons, List.map_cons]
      rfl

/-- The items of a list offend where they do themselves. -/
theorem reports_items {items : List Value}
    (h : ∀ item ∈ items, Reports (check item) (Fits item) (Offends item)) :
    Reports (Checked.all (itemsFrom check 0 items)) (List.Forall₂ Fits items)
      fun place => ∃ position item rest, items[position]? = some item ∧
        place = .item position :: rest ∧ Offends item rest := by
  have hdistinct : (items.zipIdx.map fun p => Step.item p.2).Nodup := by
    have hpositions : (items.zipIdx.map Prod.snd).Nodup := by
      rw [List.zipIdx_map_snd]
      exact List.nodup_range'
    have hsteps := hpositions.map (f := Step.item) fun _ _ heq => Step.item.inj heq
    rwa [List.map_map] at hsteps
  rw [itemsFrom_eq_map]
  refine (Reports.all hdistinct fun p hp => h p.1 (List.fst_mem_of_mem_zipIdx hp)).congr
    (fun as => ?_) fun place => ?_
  · have hitems : items.zipIdx.map Prod.fst = items := List.zipIdx_map_fst 0 items
    calc List.Forall₂ Fits items as ↔ List.Forall₂ Fits (items.zipIdx.map Prod.fst) as := by
          rw [hitems]
      _ ↔ List.Forall₂ (fun p => Fits p.1) items.zipIdx as := List.forall₂_map_left_iff
  · constructor
    · rintro ⟨position, item, rest, hitem, rfl, hrest⟩
      exact ⟨(item, position), List.mem_zipIdx_iff_getElem?.2 hitem, rest, rfl, hrest⟩
    · rintro ⟨⟨item, position⟩, hmem, rest, rfl, hrest⟩
      exact ⟨position, item, rest, List.mem_zipIdx_iff_getElem?.1 hmem, rfl, hrest⟩

/-- A text is accepted as a key. -/
theorem reports_key {k : Value} (h : k.IsText) :
    Reports (Checked.within "[key]" (text k)) (fun name => k = .str name) fun _ => False := by
  obtain ⟨s, rfl⟩ := h
  refine ⟨fun name => ?_, fun _ => id⟩
  exact ⟨fun heq => (Value.str.inj heq).symm, fun heq => congrArg Value.str heq.symm⟩

theorem map_fst_of_forall₂ {named : List (Str × α)}
    (h : List.Forall₂ (fun e named => e.1 = .str named.1 ∧ Fits e.2 named.2) entries named) :
    entries.map Prod.fst = (named.map Prod.fst).map Value.str := by
  induction h with
  | nil => rfl
  | cons hfirst _ ih => rw [List.map_cons, List.map_cons, List.map_cons, hfirst.1, ih]

/-- The entries of a mapping from texts offend where their values do. -/
theorem reports_mapping (hkeys : ∀ e ∈ entries, e.1.IsText)
    (hdistinct : (entries.map Prod.fst).Nodup)
    (h : ∀ e ∈ entries, Reports (check e.2) (Fits e.2) (Offends e.2)) :
    Reports (mapping check (.dict entries))
      (fun made => List.Forall₂ (fun e named => e.1 = .str named.1 ∧ Fits e.2 named.2) entries made)
      fun place => ∃ e ∈ entries, ∃ rest, place = .value e.1 :: rest ∧ Offends e.2 rest := by
  have hsteps : (entries.map fun e => Step.value e.1).Nodup := by
    have hkeys := hdistinct.map (f := Step.value) fun _ _ heq => Step.value.inj heq
    rwa [List.map_map] at hkeys
  have hentry : ∀ e ∈ entries, Reports
      (Checked.both (Checked.within "[key]" (text e.1)) (check e.2))
      (fun named => e.1 = .str named.1 ∧ Fits e.2 named.2) (Offends e.2) := by
    intro e he
    refine ((reports_key (hkeys e he)).both (h e he) fun _ => False.elim).congr
      (fun named => Iff.rfl) fun place => ?_
    rw [false_or]
  refine ((Reports.all hsteps hentry).map Entries.ofList).congr (fun made => ?_)
    fun place => Iff.rfl
  have hsame (named : List (Str × α)) (hnamed : List.Forall₂
      (fun e named => e.1 = .str named.1 ∧ Fits e.2 named.2) entries named) :
      Entries.ofList named = named := by
    rw [map_fst_of_forall₂ hnamed] at hdistinct
    exact Entries.ofList_of_nodup (hdistinct.of_map _)
  constructor
  · exact fun hmade => ⟨made, hmade, hsame made hmade⟩
  · rintro ⟨named, hnamed, rfl⟩
    rwa [hsame named hnamed]

end Parts

end DepthRules.Check
