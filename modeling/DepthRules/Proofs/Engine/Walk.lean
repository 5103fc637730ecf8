import DepthRules.Proofs.Engine.Events
import Mathlib.Data.List.Basic

/-!
# The walk without a limit

`Node.reached` lists every node of a tree that is reached through elements and comments, parents
before children and without any limit on the depth; `Rule.calls` lists, node by node and at each
node rule by rule, the calls of the rules that apply there. An engine stops at its deepest rule and
looks at comments with a list of rules of their own. `Engine.calls_ofRules` says that this changes
nothing: its calls are those of the walk.
-/

namespace DepthRules

/-- The call an event is, if it is one. -/
def Event.call? : Event → Option Call
  | .read _ _ => none
  | .call made => some made

@[simp] theorem Event.call?_read (place : Place) (aspect : Aspect) :
    (Event.read place aspect).call? = none := rfl

@[simp] theorem Event.call?_call (made : Call) : (Event.call made).call? = some made := rfl

namespace Node

mutual

/-- The node at a place and all nodes below it that are reached through elements and comments, with
their places. -/
def reached (place : Place) : Node → List (Place × Node)
  | .mk kind name attributes textContent children =>
      (place, .mk kind name attributes textContent children) :: reachedBelow place 0 children

/-- The nodes reached from the children of the node at a place, from the child with the given
position on. -/
def reachedBelow (place : Place) (position : Nat) : List Node → List (Place × Node)
  | [] => []
  | child :: rest =>
      (if child.kind = .element ∨ child.kind = .comment then child.reached (position :: place)
        else []) ++ reachedBelow place (position + 1) rest

end

mutual

/-- What holds at a node, and at the elements and comments among the children of every node at which
it holds, holds at everything that is reached. -/
theorem forall_mem_reached {P : Place → Node → Prop}
    (hstep : ∀ place node, P place node → ∀ child ∈ node.children, ∀ position,
      child.kind = .element ∨ child.kind = .comment → P (position :: place) child)
    (place : Place) : ∀ node : Node, P place node → ∀ r ∈ node.reached place, P r.1 r.2
  | .mk kind name attributes textContent children, hnode, r, hr => by
      rw [reached, List.mem_cons] at hr
      rcases hr with rfl | hr
      · exact hnode
      · exact forall_mem_reachedBelow hstep place children (hstep place _ hnode) 0 r hr

theorem forall_mem_reachedBelow {P : Place → Node → Prop}
    (hstep : ∀ place node, P place node → ∀ child ∈ node.children, ∀ position,
      child.kind = .element ∨ child.kind = .comment → P (position :: place) child)
    (place : Place) : ∀ children : List Node, (∀ child ∈ children, ∀ position,
      child.kind = .element ∨ child.kind = .comment → P (position :: place) child) →
      ∀ position, ∀ r ∈ reachedBelow place position children, P r.1 r.2
  | [], _, _, r, hr => by simp [reachedBelow] at hr
  | child :: rest, hchildren, position, r, hr => by
      rw [reachedBelow, List.mem_append] at hr
      rcases hr with hr | hr
      · split at hr
        · rename_i hkind
          have hchild := hchildren child List.mem_cons_self position hkind
          exact forall_mem_reached hstep (position :: place) child hchild r hr
        · simp at hr
      · have hrest := fun c hc => hchildren c (List.mem_cons_of_mem child hc)
        exact forall_mem_reachedBelow hstep place rest hrest (position + 1) r hr

end

/-- From an element or a comment only elements and comments are reached. -/
theorem kind_of_mem_reached {node : Node} (hnode : node.kind = .element ∨ node.kind = .comment)
    (place : Place) : ∀ r ∈ node.reached place, r.2.kind = .element ∨ r.2.kind = .comment :=
  forall_mem_reached (P := fun _ n => n.kind = .element ∨ n.kind = .comment)
    (fun _ _ _ _ _ _ hchild => hchild) place node hnode

/-- Nothing that is reached from a node is above it. -/
theorem level_le_of_mem_reached (place : Place) (node : Node) :
    ∀ r ∈ node.reached place, place.level ≤ r.1.level :=
  forall_mem_reached (P := fun p _ => place.level ≤ p.level)
    (fun _ _ hp _ _ _ _ => Nat.le_succ_of_le hp) place node (Nat.le_refl _)

end Node

namespace Rule

/-- What the handler of a rule is given at a node of a level, if the rule applies there: a comment
rule to the comments of its level, any other rule to the nodes of its level and name that are no
comments. -/
def payloadAt (rule : Rule) (level : Nat) (node : Node) : Option Payload :=
  if rule.depth = level then
    match rule.kind with
    | .comment => if node.kind = .comment then some (.text node.textContent) else none
    | .element =>
        if node.kind ≠ .comment ∧ rule.name = some ↑node.name then
          some (.attributes node.attributes)
        else none
    | .content =>
        if node.kind ≠ .comment ∧ rule.name = some ↑node.name then some (.text node.textContent)
        else none
  else none

/-- The call of a numbered rule at the node at a place, if it applies there. -/
def callAt (place : Place) (node : Node) (r : Rule × Nat) : Option Call :=
  (r.1.payloadAt place.level node).map fun payload => ⟨r.2, place, node, payload⟩

/-- The calls of numbered rules at the node at a place. -/
def callsAt (rules : List (Rule × Nat)) (found : Place × Node) : List Call :=
  rules.filterMap (callAt found.1 found.2)

/-- The calls of rules over a tree: all nodes reached from the root, in the order of the walk, and
at each of them all rules that apply, in the order of the list. -/
def calls (rules : List Rule) (root : Node) : List Call :=
  (root.reached []).flatMap (callsAt rules.zipIdx)

end Rule

namespace Engine

variable {σ ε : Type}

/-- The calls of a run that nothing stops. -/
def calls (engine : Engine) (root : Node) : List Call :=
  (engine.events root).filterMap Event.call?

/-! ## The deepest rule -/

theorem le_foldl_max (rules : List Rule) (start : Int) :
    start ≤ rules.foldl (fun depth r => max depth r.depth) start ∧
      ∀ rule ∈ rules, rule.depth ≤ rules.foldl (fun depth r => max depth r.depth) start := by
  induction rules generalizing start with
  | nil => simp
  | cons r rest ih =>
      -- the start grows from rule to rule, which is why the bound is shown for every start
      obtain ⟨hstart, hrest⟩ := ih (max start r.depth)
      rw [List.foldl_cons]
      refine ⟨by omega, fun rule hrule => ?_⟩
      rcases List.mem_cons.1 hrule with rfl | hrule
      · omega
      · exact hrest rule hrule

/-- No rule is deeper than the deepest. -/
theorem le_deepest {rules : List Rule} {rule : Rule} (h : rule ∈ rules) :
    rule.depth ≤ deepest rules := by
  cases rules with
  | nil => simp at h
  | cons r rest =>
      obtain ⟨hstart, hrest⟩ := le_foldl_max rest r.depth
      rcases List.mem_cons.1 h with rfl | h
      · exact hstart
      · exact hrest rule h

theorem exists_foldl_max_eq (rules : List Rule) (start : Int) :
    rules.foldl (fun depth r => max depth r.depth) start = start ∨
      ∃ rule ∈ rules, rule.depth = rules.foldl (fun depth r => max depth r.depth) start := by
  induction rules generalizing start with
  | nil => exact .inl rfl
  | cons r rest ih =>
      rw [List.foldl_cons]
      rcases ih (max start r.depth) with hstart | ⟨rule, hrule, hdepth⟩
      · rw [hstart]
        rcases Int.le_total start r.depth with hle | hle
        · exact .inr ⟨r, List.mem_cons_self, (Int.max_eq_right hle).symm⟩
        · exact .inl (Int.max_eq_left hle)
      · exact .inr ⟨rule, List.mem_cons_of_mem r hrule, hdepth⟩

/-- The deepest depth is that of a rule. -/
theorem exists_depth_eq_deepest {rules : List Rule} (h : rules ≠ []) :
    ∃ rule ∈ rules, rule.depth = deepest rules := by
  cases rules with
  | nil => exact absurd rfl h
  | cons r rest =>
      rcases exists_foldl_max_eq rest r.depth with hfirst | ⟨rule, hrule, hdepth⟩
      · exact ⟨r, List.mem_cons_self, hfirst.symm⟩
      · exact ⟨rule, List.mem_cons_of_mem r hrule, hdepth⟩

/-- Below the deepest rule no rule applies. -/
theorem callsAt_eq_nil {rules : List Rule} {place : Place} (h : deepest rules < place.level)
    (node : Node) : Rule.callsAt rules.zipIdx (place, node) = [] := by
  rw [Rule.callsAt, List.filterMap_eq_nil_iff]
  rintro ⟨rule, number⟩ hr
  have hmem : rule ∈ rules := List.fst_mem_of_mem_zipIdx hr
  have hdepth : rule.depth ≠ place.level := by
    have := le_deepest hmem
    omega
  simp [Rule.callAt, Rule.payloadAt, hdepth]

/-- Below the deepest rule the walk meets nothing to call. -/
theorem reached_flatMap_callsAt_eq_nil {rules : List Rule} {place : Place}
    (h : deepest rules < place.level) (node : Node) :
    (node.reached place).flatMap (Rule.callsAt rules.zipIdx) = [] := by
  rw [List.flatMap_eq_nil_iff]
  -- everything reached is at least as deep as `place`, so deeper than every rule
  rintro ⟨p, n⟩ hmem
  have hlevel : place.level ≤ p.level := Node.level_le_of_mem_reached place node (p, n) hmem
  exact callsAt_eq_nil (by omega) n

/-! ## The calls at a node -/

theorem commentEvents_calls {place : Place} {node : Node} (hnode : node.kind = .comment)
    {r : Rule × Nat} (hr : r.1.kind = .comment) :
    (commentEvents place node r).filterMap Event.call? = (Rule.callAt place node r).toList := by
  by_cases hdepth : r.1.depth = place.level
  · simp [commentEvents, Rule.callAt, Rule.payloadAt, hdepth, hr, hnode, List.filterMap_cons]
  · simp [commentEvents, Rule.callAt, Rule.payloadAt, hdepth]

/-- No rule but a comment rule applies to a comment. -/
theorem callAt_comment_eq_none {place : Place} {node : Node} (hnode : node.kind = .comment)
    {r : Rule × Nat} (hr : r.1.kind ≠ .comment) : Rule.callAt place node r = none := by
  cases hkind : r.1.kind with
  | comment => exact absurd hkind hr
  | element | content => simp [Rule.callAt, Rule.payloadAt, hkind, hnode]

/-- At a comment the rules for comments give the calls that all rules give. -/
theorem commentRules_calls {place : Place} {node : Node} (hnode : node.kind = .comment)
    (rules : List (Rule × Nat)) :
    ((rules.filter fun r => r.1.kind == .comment).flatMap
        (commentEvents place node)).filterMap Event.call? =
      Rule.callsAt rules (place, node) := by
  rw [Rule.callsAt, List.filterMap_flatMap, List.filterMap_eq_flatMap_toList]
  induction rules with
  | nil => rfl
  | cons r rest ih =>
      rw [List.flatMap_cons, ← ih]
      by_cases hr : r.1.kind = .comment
      · rw [List.filter_cons_of_pos (by simp [hr]), List.flatMap_cons,
          commentEvents_calls hnode hr]
      -- a rule that is left out would have made no call at a comment
      · rw [List.filter_cons_of_neg (by simp [hr]), callAt_comment_eq_none hnode hr]
        rfl

theorem elementEvents_calls {place : Place} {node : Node} (hnode : node.kind ≠ .comment)
    (r : Rule × Nat) :
    (elementEvents place node r).filterMap Event.call? = (Rule.callAt place node r).toList := by
  have happlies : r.1.appliesTo place.level (some ↑node.name) = true ↔
      r.1.depth = place.level ∧ r.1.name = some ↑node.name := by
    simp [Rule.appliesTo]
  cases hkind : r.1.kind with
  | comment => simp [elementEvents, Rule.callAt, Rule.payloadAt, hkind, hnode]
  | element | content =>
      by_cases hdepth : r.1.depth = place.level
      · by_cases hname : r.1.name = some ↑node.name
        · simp [elementEvents, Rule.callAt, Rule.payloadAt, hkind, hnode, happlies, hdepth, hname,
            List.filterMap_cons]
        · simp [elementEvents, Rule.callAt, Rule.payloadAt, hkind, happlies, hdepth, hname]
      · simp [elementEvents, Rule.callAt, Rule.payloadAt, hkind, happlies, hdepth]

/-- At every node an engine makes the calls of all its rules that apply. -/
theorem dispatchEvents_calls (rules : List Rule) (place : Place) (node : Node) :
    ((ofRules rules).dispatchEvents place node).filterMap Event.call? =
      Rule.callsAt rules.zipIdx (place, node) := by
  by_cases hnode : node.kind = .comment
  · rw [dispatchEvents, if_pos hnode]
    exact commentRules_calls hnode rules.zipIdx
  · rw [dispatchEvents, if_neg hnode, Rule.callsAt, List.filterMap_flatMap,
      List.filterMap_eq_flatMap_toList]
    exact List.flatMap_congr fun r _ => elementEvents_calls hnode r

/-! ## The calls of a run -/

theorem isVisited_iff (kind : Node.Kind) :
    kind.isVisited = true ↔ kind = .element ∨ kind = .comment := by
  cases kind <;> simp [Node.Kind.isVisited]

mutual

theorem visitEvents_calls (rules : List Rule) (place : Place) :
    ∀ node : Node, ((ofRules rules).visitEvents place node).filterMap Event.call? =
      (node.reached place).flatMap (Rule.callsAt rules.zipIdx)
  | .mk kind name attributes textContent children => by
      by_cases hdeep : (ofRules rules).maxDepth < place.level
      -- the engine stops here; the walk goes on but meets nothing to call
      · rw [visitEvents, if_pos hdeep, List.filterMap_nil]
        exact (reached_flatMap_callsAt_eq_nil hdeep _).symm
      · rw [visitEvents, if_neg hdeep, List.filterMap_append, dispatchEvents_calls,
          List.filterMap_cons_none (Event.call?_read place .children),
          visitAllEvents_calls rules place children 0, Node.reached, List.flatMap_cons]

theorem visitAllEvents_calls (rules : List Rule) (place : Place) :
    ∀ (children : List Node) (position : Nat),
      ((ofRules rules).visitAllEvents place position children).filterMap Event.call? =
        (Node.reachedBelow place position children).flatMap (Rule.callsAt rules.zipIdx)
  | [], _ => rfl
  | child :: rest, position => by
      rw [visitAllEvents, Node.reachedBelow, List.filterMap_append, List.flatMap_append,
        visitAllEvents_calls rules place rest (position + 1)]
      by_cases hkind : child.kind.isVisited = true
      -- engine and walk leave out the same children
      · rw [if_pos hkind, if_pos ((isVisited_iff _).1 hkind),
          visitEvents_calls rules (position :: place) child]
      · rw [if_neg hkind, if_neg fun h => hkind ((isVisited_iff _).2 h)]
        rfl

end

/-- The calls of an engine are those of the walk without a limit. -/
theorem calls_ofRules (rules : List Rule) (root : Node) :
    (ofRules rules).calls root = Rule.calls rules root :=
  visitEvents_calls rules [] root

/-! ## Handlers -/

/-- A listener that does nothing at reads goes through the calls. -/
theorem run_eq_each_calls (engine : Engine) (listen : Listener σ ε)
    (hread : ∀ place aspect, listen (.read place aspect) = .done) (root : Node) :
    engine.run listen root = Run.each (fun made => listen (.call made)) (engine.calls root) := by
  rw [run_eq_each, calls]
  refine Run.each_filterMap listen (fun made => listen (.call made)) Event.call? ?_ _
  intro event
  cases event with
  | read place aspect => exact hread place aspect
  | call made => rfl

/-- The listener for handlers that never fail: a call changes the state, a read does not. -/
def listenerOf (handle : Call → σ → σ) : Listener σ ε
  | .read _ _ => .done
  | .call made => fun s => (handle made s, none)

/-- With handlers that never fail, a run over any tree calls exactly what the walk without a limit
lists, in its order, and ends without a failure. -/
theorem run_listenerOf (rules : List Rule) (root : Node) (handle : Call → σ → σ) (s : σ) :
    (ofRules rules).run (listenerOf handle : Listener σ ε) root s =
      ((Rule.calls rules root).foldl (fun t made => handle made t) s, none) := by
  rw [run_eq_each_calls (ofRules rules) _ (fun _ _ => rfl), calls_ofRules]
  exact Run.each_eq_foldl _ (fun t made => handle made t) _ (fun _ _ _ => rfl) s

end Engine

end DepthRules
