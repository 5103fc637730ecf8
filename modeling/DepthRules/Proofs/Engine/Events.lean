import DepthRules.Engine.Basic

/-!
# The events of a run

A run tells its listener one event after the other until the listener fails. `Engine.events` lists
what a run tells if nothing stops it, and `Engine.run_eq_each` says that every run, with any
listener and from any state, goes through this list from its beginning up to the first failure.
What holds of the list therefore holds of all runs.
-/

namespace DepthRules

namespace Run

variable {σ ε α β : Type}

/-- One part for each item of a list, in order; a failure is final. -/
def each (act : α → Run σ ε) : List α → Run σ ε
  | [] => .done
  | a :: rest => (act a).andThen (each act rest)

theorem done_andThen (next : Run σ ε) : Run.andThen .done next = next := rfl

theorem andThen_done (first : Run σ ε) : first.andThen .done = first := by
  funext s
  rcases h : first s with ⟨t, failure⟩
  cases failure with
  | none => simp [andThen, done, h]
  | some e => simp [andThen, h]

theorem andThen_assoc (first second third : Run σ ε) :
    (first.andThen second).andThen third = first.andThen (second.andThen third) := by
  funext s
  rcases h : first s with ⟨t, failure⟩
  cases failure with
  | none => simp [andThen, h]
  | some e => simp [andThen, h]

@[simp] theorem each_nil (act : α → Run σ ε) : each act [] = .done := rfl

@[simp] theorem each_cons (act : α → Run σ ε) (a : α) (rest : List α) :
    each act (a :: rest) = (act a).andThen (each act rest) := rfl

/-- A list goes through its first part and then through its second. -/
theorem each_append (act : α → Run σ ε) (xs ys : List α) :
    each act (xs ++ ys) = (each act xs).andThen (each act ys) := by
  induction xs with
  | nil => rfl
  -- the head stays outside: `andThen_assoc` moves the bracket behind it
  | cons x rest ih => rw [List.cons_append, each_cons, each_cons, ih, andThen_assoc]

theorem each_pair (act : α → Run σ ε) (a b : α) :
    each act [a, b] = (act a).andThen (act b) := by
  rw [each_cons, each_cons, each_nil, andThen_done]

/-- Items for which nothing happens can be left out. -/
theorem each_filterMap (act : α → Run σ ε) (actOn : β → Run σ ε) (f : α → Option β)
    (hact : ∀ a, act a = (f a).elim .done actOn) (xs : List α) :
    each act xs = each actOn (xs.filterMap f) := by
  induction xs with
  | nil => rfl
  | cons x rest ih =>
      rw [each_cons, ih, hact x]
      cases hf : f x with
      | none => rw [List.filterMap_cons_none hf, Option.elim_none, done_andThen]
      | some b => rw [List.filterMap_cons_some hf, Option.elim_some, each_cons]

/-- Parts that succeed and change the state by `f` amount to a fold. -/
theorem each_eq_foldl (act : α → Run σ ε) (f : σ → α → σ) (xs : List α)
    (hact : ∀ a ∈ xs, ∀ s, act a s = (f s a, none)) (s : σ) :
    each act xs s = (xs.foldl f s, none) := by
  induction xs generalizing s with
  | nil => rfl
  | cons x rest ih =>
      have hx : act x s = (f s x, none) := hact x List.mem_cons_self s
      have hrest := ih (fun a ha => hact a (List.mem_cons_of_mem x ha)) (f s x)
      rw [each_cons, List.foldl_cons, ← hrest, andThen, hx]

end Run

namespace Engine

variable {σ ε : Type}

/-! ## The list of events -/

/-- What a comment rule brings about at a comment. -/
def commentEvents (place : Place) (node : Node) (r : Rule × Nat) : List Event :=
  if r.1.depth = place.level then
    [.read place .textContent, .call ⟨r.2, place, node, .text node.textContent⟩]
  else []

/-- What a rule brings about at a node other than a comment: its name is read for every element and
content rule, and what the handler is given only for a rule that applies. -/
def elementEvents (place : Place) (node : Node) (r : Rule × Nat) : List Event :=
  match r.1.kind with
  | .element =>
      .read place .name ::
        if r.1.appliesTo place.level (some ↑node.name) then
          [.read place .attributes, .call ⟨r.2, place, node, .attributes node.attributes⟩]
        else []
  | .content =>
      .read place .name ::
        if r.1.appliesTo place.level (some ↑node.name) then
          [.read place .textContent, .call ⟨r.2, place, node, .text node.textContent⟩]
        else []
  | .comment => []

/-- What the rules bring about at a node. -/
def dispatchEvents (engine : Engine) (place : Place) (node : Node) : List Event :=
  if node.kind = .comment then engine.commentRules.flatMap (commentEvents place node)
  else engine.rules.flatMap (elementEvents place node)

mutual

/-- What happens at the node at a place and below it. -/
def visitEvents (engine : Engine) (place : Place) : Node → List Event
  | .mk kind name attributes textContent children =>
      if engine.maxDepth < place.level then []
      else
        engine.dispatchEvents place (.mk kind name attributes textContent children) ++
          .read place .children :: engine.visitAllEvents place 0 children

/-- What happens at and below the children of the node at a place, from the one with the given
position on. -/
def visitAllEvents (engine : Engine) (place : Place) (position : Nat) : List Node → List Event
  | [] => []
  | child :: rest =>
      (if child.kind.isVisited then engine.visitEvents (position :: place) child else []) ++
        engine.visitAllEvents place (position + 1) rest

end

/-- What happens in a run that nothing stops. -/
def events (engine : Engine) (root : Node) : List Event := engine.visitEvents [] root

/-! ## Every run goes through the list -/

theorem dispatchComment_eq_each (listen : Listener σ ε) (place : Place) (node : Node)
    (rules : List (Rule × Nat)) :
    dispatchComment listen place node rules =
      Run.each listen (rules.flatMap (commentEvents place node)) := by
  induction rules with
  | nil => rfl
  | cons r rest ih =>
      obtain ⟨rule, number⟩ := r
      -- only what this one rule brings about is left to compare
      rw [List.flatMap_cons, Run.each_append, ← ih]
      by_cases hdepth : rule.depth = place.level
      · simp only [dispatchComment, commentEvents, if_pos hdepth, Run.each_pair]
      · simp only [dispatchComment, commentEvents, if_neg hdepth, Run.each_nil]

theorem dispatchElement_eq_each (listen : Listener σ ε) (place : Place) (node : Node)
    (rules : List (Rule × Nat)) :
    dispatchElement listen place node rules =
      Run.each listen (rules.flatMap (elementEvents place node)) := by
  induction rules with
  | nil => rfl
  | cons r rest ih =>
      obtain ⟨rule, number⟩ := r
      rw [List.flatMap_cons, Run.each_append, ← ih]
      cases hkind : rule.kind with
      | comment => simp only [dispatchElement, elementEvents, hkind, Run.each_nil]
      | element | content =>
          -- the name is read in both cases, before it is known whether the rule applies
          by_cases happlies : rule.appliesTo place.level (some ↑node.name) = true
          · simp only [dispatchElement, elementEvents, hkind, if_pos happlies, Run.each_cons,
              Run.each_nil, Run.andThen_done]
          · simp only [dispatchElement, elementEvents, hkind, if_neg happlies, Run.each_cons,
              Run.each_nil, Run.andThen_done]

theorem dispatch_eq_each (engine : Engine) (listen : Listener σ ε) (place : Place) (node : Node) :
    engine.dispatch listen place node = Run.each listen (engine.dispatchEvents place node) := by
  by_cases hkind : node.kind = .comment
  · rw [dispatch, dispatchEvents, if_pos hkind, if_pos hkind, dispatchComment_eq_each]
  · rw [dispatch, dispatchEvents, if_neg hkind, if_neg hkind, dispatchElement_eq_each]

mutual

theorem visit_eq_each (engine : Engine) (listen : Listener σ ε) (place : Place) :
    ∀ node : Node, engine.visit listen place node =
      Run.each listen (engine.visitEvents place node)
  | .mk kind name attributes textContent children => by
      by_cases hdeep : engine.maxDepth < place.level
      · rw [visit, visitEvents, if_pos hdeep, if_pos hdeep, Run.each_nil]
      · rw [visit, visitEvents, if_neg hdeep, if_neg hdeep, Run.each_append, Run.each_cons,
          dispatch_eq_each, visitAll_eq_each engine listen place children 0]

theorem visitAll_eq_each (engine : Engine) (listen : Listener σ ε) (place : Place) :
    ∀ (children : List Node) (position : Nat), engine.visitAll listen place position children =
      Run.each listen (engine.visitAllEvents place position children)
  | [], _ => rfl
  | child :: rest, position => by
      rw [visitAll, visitAllEvents, Run.each_append,
        -- the later siblings are the same on both sides, so the child's kind decides
        visitAll_eq_each engine listen place rest (position + 1)]
      by_cases hkind : child.kind.isVisited = true
      · simp only [if_pos hkind, visit_eq_each engine listen (position :: place) child]
      · simp only [if_neg hkind, Run.each_nil]

end

/-- A run tells the listener the events in order until it fails. -/
theorem run_eq_each (engine : Engine) (listen : Listener σ ε) (root : Node) :
    engine.run listen root = Run.each listen (engine.events root) :=
  visit_eq_each engine listen [] root

end Engine

end DepthRules
