import DepthRules.Proofs.Console.Tags

/-!
# What a terminal shows

A terminal shows all the items it is given or refuses one of them, after it has shown those before
(`Terminal.shows_or_refuses`). If its stream never fails it refuses just the items with a markup
that cannot be shown (`Terminal.shows_iff_of_isQuiet`).
-/

namespace DepthRules.Console

namespace Terminal

variable {terminal : Terminal} {shown items : List Item}

/-- The terminal shows all the items after those that are shown. -/
def ShowsAfter (terminal : Terminal) (shown items : List Item) : Prop :=
  ∀ before item after, items = before ++ item :: after →
    terminal.refusal? (shown ++ before) item = none

/-- The terminal shows all the items. -/
def Shows (terminal : Terminal) (items : List Item) : Prop := terminal.ShowsAfter [] items

/-- Of the items, the terminal shows those before the given one, and refuses that. -/
structure Refuses (terminal : Terminal) (items before : List Item) (item : Item) (fault : Fault) :
    Prop where
  exists_after : ∃ after, items = before ++ item :: after
  shows : terminal.Shows before
  refusal : terminal.refusal? before item = some fault

/-- The stream of the terminal never fails. -/
def IsQuiet (terminal : Terminal) : Prop := ∀ before item, terminal.stream before item = none

/-! ## Items one after another -/

theorem showsAfter_nil : terminal.ShowsAfter shown [] :=
  fun _ _ _ h => absurd h (by simp)

theorem showsAfter_cons {item : Item} : terminal.ShowsAfter shown (item :: items) ↔
    terminal.refusal? shown item = none ∧ terminal.ShowsAfter (shown ++ [item]) items := by
  constructor
  · intro h
    refine ⟨?_, fun before other after hitems => ?_⟩
    · have hfirst := h [] item items rfl
      rwa [List.append_nil] at hfirst
    · rw [List.append_assoc]
      exact h (item :: before) other after (congrArg (item :: ·) hitems)
  · rintro ⟨hfirst, hrest⟩ before other after hitems
    cases before with
    | nil =>
        obtain ⟨rfl, -⟩ := List.cons_eq_cons.1 hitems
        rwa [List.append_nil]
    | cons first before =>
        obtain ⟨rfl, htail⟩ := List.cons_eq_cons.1 hitems
        have hother := hrest before other after htail
        rwa [List.append_assoc] at hother

/-- Items that are shown are passed over. -/
theorem give_append {before : List Item} (h : terminal.ShowsAfter shown before)
    (rest : List Item) :
    terminal.give shown (before ++ rest) = terminal.give (shown ++ before) rest := by
  induction before generalizing shown with
  | nil => rw [List.nil_append, List.append_nil]
  | cons item before ih =>
      obtain ⟨hfirst, hbefore⟩ := showsAfter_cons.1 h
      rw [List.cons_append, give, hfirst]
      exact (ih hbefore).trans (by rw [List.append_assoc]; rfl)

theorem give_of_shows (h : terminal.Shows items) : terminal.give [] items = (items, none) := by
  have hgive := give_append h []
  rwa [List.append_nil] at hgive

theorem Refuses.give_eq {before : List Item} {item : Item} {fault : Fault}
    (h : terminal.Refuses items before item fault) :
    terminal.give [] items = (before, some (item, fault)) := by
  obtain ⟨after, rfl⟩ := h.exists_after
  rw [give_append h.shows, List.nil_append, give, h.refusal]

/-- Items are shown after those that are shown, or one of them is the first that is refused. -/
theorem showsAfter_or_exists (terminal : Terminal) (shown items : List Item) :
    terminal.ShowsAfter shown items ∨
      ∃ before item after fault, items = before ++ item :: after ∧
        terminal.ShowsAfter shown before ∧
          terminal.refusal? (shown ++ before) item = some fault := by
  induction items generalizing shown with
  | nil => exact .inl showsAfter_nil
  | cons item rest ih =>
      cases hrefusal : terminal.refusal? shown item with
      | some fault =>
          exact .inr ⟨[], item, rest, fault, rfl, showsAfter_nil, by rw [List.append_nil, hrefusal]⟩
      | none =>
          -- the item is shown, and counts as shown for all that come after it
          rcases ih (shown ++ [item]) with hshows |
            ⟨before, other, after, fault, rfl, hshows, hfault⟩
          · exact .inl (showsAfter_cons.2 ⟨hrefusal, hshows⟩)
          · rw [List.append_assoc] at hfault
            exact .inr ⟨item :: before, other, after, fault, rfl,
              showsAfter_cons.2 ⟨hrefusal, hshows⟩, hfault⟩

/-- A terminal shows all items, or refuses one after those before it. -/
theorem shows_or_refuses (terminal : Terminal) (items : List Item) :
    terminal.Shows items ∨ ∃ before item fault, terminal.Refuses items before item fault := by
  rcases terminal.showsAfter_or_exists [] items with h |
    ⟨before, item, after, fault, hitems, hshows, hfault⟩
  · exact .inl h
  · exact .inr ⟨before, item, fault, ⟨⟨after, hitems⟩, hshows, hfault⟩⟩

theorem Refuses.not_shows {before : List Item} {item : Item} {fault : Fault}
    (h : terminal.Refuses items before item fault) : ¬ terminal.Shows items := by
  intro hshows
  obtain ⟨after, hitems⟩ := h.exists_after
  cases h.refusal.symm.trans (hshows before item after hitems)

/-! ## Terminals whose stream never fails -/

theorem refusal?_eq_none_iff (h : terminal.IsQuiet) {before : List Item} {item : Item} :
    terminal.refusal? before item = none ↔ terminal.styles.Accepts item := by
  rw [refusal?, h before item]
  cases hfault : item.markups.findSome? terminal.styles.markupFault? with
  | some cause =>
      obtain ⟨markup, hmarkup, hcause⟩ := List.exists_of_findSome?_eq_some hfault
      refine iff_of_false (fun hnone => by cases hnone) fun haccepts => ?_
      cases hcause.symm.trans (haccepts markup hmarkup)
  | none => exact iff_of_true rfl (List.findSome?_eq_none_iff.1 hfault)

/-- Such a terminal shows items just if all their markups can be shown. -/
theorem shows_iff_of_isQuiet (h : terminal.IsQuiet) :
    terminal.Shows items ↔ ∀ item ∈ items, terminal.styles.Accepts item := by
  constructor
  · intro hshows item hitem
    obtain ⟨before, after, hitems⟩ := List.append_of_mem hitem
    exact (refusal?_eq_none_iff h).1 (hshows before item after hitems)
  · rintro haccepts before item after rfl
    exact (refusal?_eq_none_iff h).2 (haccepts item (by simp))

/-- It shows whatever a run gives to the console, if the texts that are put in as they stand need no
escape. -/
theorem shows_display (h : terminal.IsQuiet) (display : Display)
    (hplain : ∀ s ∈ display.unescaped, escape s = s) : terminal.Shows display.items :=
  (shows_iff_of_isQuiet h).2 (display.accepts terminal.styles hplain)

end Terminal

end DepthRules.Console
