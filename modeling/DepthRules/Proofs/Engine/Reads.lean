import DepthRules.Proofs.Engine.Walk

/-!
# What is read of a tree

A run with a recording listener keeps a log of all reads and calls, whether its handlers fail or
not. `Engine.run_recordingListener` says what the log tells about reads: they concern nodes that are
reached and not below the deepest rule; the attributes and the text of a node are read only for the
call of a rule that applies there; and a run that is completed has read down to the deepest rule, or
as far down as the tree is reached if that is less.
-/

namespace DepthRules

/-- What a handler was given, as an aspect of its node. -/
def Payload.aspect : Payload → Aspect
  | .attributes _ => .attributes
  | .text _ => .textContent

/-- The level of the node that is read, if the event is a read. -/
def Event.readLevel? : Event → Option Nat
  | .read place _ => some place.level
  | .call _ => none

/-- The deepest level at which anything is read. -/
def deepestRead (log : List Event) : Option Nat := (log.filterMap Event.readLevel?).max?

namespace Node

mutual

/-- How many levels below a node are reached through elements and comments. -/
def reach : Node → Nat
  | .mk _ _ _ _ children => reachBelow children

/-- How many levels are reached from the children of a node. -/
def reachBelow : List Node → Nat
  | [] => 0
  | child :: rest =>
      max (if child.kind = .element ∨ child.kind = .comment then child.reach + 1 else 0)
        (reachBelow rest)

end

mutual

/-- Nothing is reached below the reach of a node. -/
theorem level_le_reach (place : Place) :
    ∀ node : Node, ∀ r ∈ node.reached place, r.1.level ≤ place.level + node.reach
  | .mk kind name attributes textContent children, r, hr => by
      rw [reached, List.mem_cons] at hr
      rcases hr with rfl | hr
      · exact Nat.le_add_right _ _
      · exact level_le_reachBelow place children 0 r hr

theorem level_le_reachBelow (place : Place) :
    ∀ (children : List Node) (position : Nat), ∀ r ∈ reachedBelow place position children,
      r.1.level ≤ place.level + reachBelow children
  | [], _, r, hr => by simp [reachedBelow] at hr
  | child :: rest, position, r, hr => by
      rw [reachedBelow, List.mem_append] at hr
      rw [reachBelow]
      rcases hr with hr | hr
      · split at hr
        · rename_i hkind
          have hchild := level_le_reach (position :: place) child r hr
          rw [if_pos hkind]
          simp only [Place.level, List.length_cons] at hchild ⊢
          omega
        · simp at hr
      · have hrest := level_le_reachBelow place rest (position + 1) r hr
        omega

end

mutual

/-- Every level down to the reach of a node is reached. -/
theorem exists_level_of_le_reach (place : Place) :
    ∀ node : Node, ∀ depth ≤ node.reach,
      ∃ r ∈ node.reached place, r.1.level = place.level + depth
  | .mk kind name attributes textContent children, depth, hdepth => by
      rw [reach] at hdepth
      cases depth with
      | zero =>
          have hself : (place, Node.mk kind name attributes textContent children) ∈
              (Node.mk kind name attributes textContent children).reached place := by
            rw [reached]
            exact List.mem_cons_self
          exact ⟨_, hself, rfl⟩
      | succ depth =>
          obtain ⟨r, hr, hlevel⟩ := exists_level_of_lt_reachBelow place children 0 depth hdepth
          refine ⟨r, ?_, hlevel⟩
          rw [reached]
          exact List.mem_cons_of_mem _ hr

theorem exists_level_of_lt_reachBelow (place : Place) :
    ∀ (children : List Node) (position : Nat), ∀ depth < reachBelow children,
      ∃ r ∈ reachedBelow place position children, r.1.level = place.level + (depth + 1)
  | [], _, depth, hdepth => by simp [reachBelow] at hdepth
  | child :: rest, position, depth, hdepth => by
      rw [reachBelow] at hdepth
      rw [reachedBelow]
      by_cases hrest : depth < reachBelow rest
      · obtain ⟨r, hr, hlevel⟩ :=
          exists_level_of_lt_reachBelow place rest (position + 1) depth hrest
        exact ⟨r, List.mem_append_right _ hr, hlevel⟩
      -- the later children do not reach so far, so the first one does, and it is visited
      · have hkind : child.kind = .element ∨ child.kind = .comment := by
          by_contra hkind
          rw [if_neg hkind] at hdepth
          omega
        rw [if_pos hkind] at hdepth
        obtain ⟨r, hr, hlevel⟩ :=
          exists_level_of_le_reach (position :: place) child depth (by omega)
        refine ⟨r, ?_, ?_⟩
        · rw [if_pos hkind]
          exact List.mem_append_left _ hr
        · simp only [Place.level, List.length_cons] at hlevel ⊢
          omega

end

end Node

namespace Engine

variable {σ ε : Type}

/-! ## Recorded runs -/

/-- The listener that records every event, with handlers that may change a state and may fail. A
call is recorded also if its handler fails. -/
def recordingListener (handle : Call → Run σ ε) : Listener (List Event × σ) ε
  | .read place aspect => fun s => ((s.1 ++ [.read place aspect], s.2), none)
  | .call made => fun s =>
      let (t, failure) := handle made s.2
      ((s.1 ++ [.call made], t), failure)

/-- How much of the events `full` is recorded: all of them, or those up to a call that fails. -/
inductive RecordedOf (full : List Event) : List Event → Option ε → Prop
  | whole : RecordedOf full full none
  | stopped {before after : List Event} {made : Call} {failure : ε}
      (hfull : full = before ++ .call made :: after) :
      RecordedOf full (before ++ [.call made]) (some failure)

theorem RecordedOf.cons {full log : List Event} {failure : Option ε} (event : Event)
    (h : RecordedOf full log failure) : RecordedOf (event :: full) (event :: log) failure := by
  cases h with
  | whole => exact .whole
  | @stopped before after made e hfull =>
      have hcons : event :: full = (event :: before) ++ .call made :: after := by
        rw [hfull, List.cons_append]
      exact .stopped hcons

/-- Going through events records them up to the first call that fails. -/
theorem each_recording (handle : Call → Run σ ε) (full before : List Event) (s : σ) :
    ∃ log t failure,
      Run.each (recordingListener handle) full (before, s) = ((before ++ log, t), failure) ∧
      RecordedOf full log failure := by
  induction full generalizing before s with
  | nil => exact ⟨[], s, none, by rw [List.append_nil]; rfl, .whole⟩
  | cons event rest ih =>
      cases event with
      | read place aspect =>
          obtain ⟨log, t, failure, heach, hlog⟩ := ih (before ++ [.read place aspect]) s
          refine ⟨.read place aspect :: log, t, failure, ?_, hlog.cons _⟩
          rw [List.append_assoc, List.singleton_append] at heach
          simp only [Run.each_cons, Run.andThen, recordingListener, heach]
      | call made =>
          rcases hmade : handle made s with ⟨t, failure⟩
          cases failure with
          | some e =>
              have hfirst : Event.call made :: rest = [] ++ .call made :: rest := rfl
              refine ⟨[] ++ [.call made], t, some e, ?_, .stopped hfirst⟩
              simp only [Run.each_cons, Run.andThen, recordingListener, hmade, List.nil_append]
          | none =>
              obtain ⟨log, u, failure, heach, hlog⟩ := ih (before ++ [.call made]) t
              refine ⟨.call made :: log, u, failure, ?_, hlog.cons _⟩
              rw [List.append_assoc, List.singleton_append] at heach
              simp only [Run.each_cons, Run.andThen, recordingListener, hmade, heach]

/-- What is recorded did happen. -/
theorem RecordedOf.subset {full log : List Event} {failure : Option ε}
    (h : RecordedOf full log failure) : log ⊆ full := by
  intro event hevent
  cases h with
  | whole => exact hevent
  | stopped hfull =>
      rw [hfull, ← List.singleton_append, ← List.append_assoc]
      exact List.mem_append_left _ hevent

/-! ## Reads for a call -/

/-- Whatever is read to be given to a handler is given to a handler at once: the next event is a
call at the same node, with what was read. -/
def Answered (events : List Event) : Prop :=
  ∀ before place aspect after, events = before ++ .read place aspect :: after →
    aspect = .attributes ∨ aspect = .textContent →
    ∃ made rest, after = .call made :: rest ∧ made.place = place ∧ made.payload.aspect = aspect

theorem Answered.nil : Answered [] := by
  intro before place aspect after h
  simp at h

/-- A read of a name or of children needs no answer. -/
theorem Answered.cons_read {events : List Event} (h : Answered events) (place : Place)
    {aspect : Aspect} (hname : aspect = .name ∨ aspect = .children) :
    Answered (.read place aspect :: events) := by
  intro before p a after hevents ha
  cases before with
  | nil =>
      simp only [List.nil_append, List.cons.injEq, Event.read.injEq] at hevents
      obtain ⟨⟨-, rfl⟩, -⟩ := hevents
      rcases hname with rfl | rfl <;> simp at ha
  | cons first before =>
      simp only [List.cons_append, List.cons.injEq] at hevents
      exact h before p a after hevents.2 ha

theorem Answered.pair (place : Place) (made : Call) (hplace : made.place = place) :
    Answered [.read place made.payload.aspect, .call made] := by
  intro before p a after hevents ha
  cases before with
  | nil =>
      simp only [List.nil_append, List.cons.injEq, Event.read.injEq] at hevents
      obtain ⟨⟨rfl, rfl⟩, rfl⟩ := hevents
      exact ⟨made, [], rfl, hplace, rfl⟩
  | cons first before =>
      cases before with
      | nil => simp at hevents
      | cons second before => simp at hevents

theorem Answered.append {first second : List Event} (hfirst : Answered first)
    (hsecond : Answered second) : Answered (first ++ second) := by
  intro before place aspect after hevents ha
  rcases List.append_eq_append_iff.1 hevents with ⟨gap, -, hgap⟩ | ⟨gap, hgap, hafter⟩
  · exact hsecond gap place aspect after hgap ha
  · cases gap with
    | nil =>
        rw [List.nil_append] at hafter
        exact hsecond [] place aspect after hafter.symm ha
    -- the read is in the first list, and so is its answer
    | cons event gap =>
        simp only [List.cons_append, List.cons.injEq] at hafter
        obtain ⟨rfl, rfl⟩ := hafter
        obtain ⟨made, rest, rfl, hmade⟩ := hfirst before place aspect gap hgap ha
        exact ⟨made, rest ++ second, rfl, hmade⟩

theorem Answered.flatMap {α : Type} {f : α → List Event} (h : ∀ a, Answered (f a)) (xs : List α) :
    Answered (xs.flatMap f) := by
  induction xs with
  | nil => exact .nil
  | cons x rest ih =>
      rw [List.flatMap_cons]
      exact (h x).append ih

/-- A record ends with a call if it ends early, so no read is left without its answer. -/
theorem RecordedOf.answered {full log : List Event} {failure : Option ε}
    (h : RecordedOf full log failure) (hfull : Answered full) : Answered log := by
  cases h with
  | whole => exact hfull
  | @stopped start stop last e hcut =>
      intro before place aspect after hlog ha
      have hall : full = before ++ .read place aspect :: (after ++ stop) := by
        rw [hcut, ← List.singleton_append, ← List.append_assoc, hlog, List.append_assoc,
          List.cons_append]
      obtain ⟨made, rest, hafter, hmade⟩ := hfull before place aspect (after ++ stop) hall ha
      cases after with
      | nil =>
          have hlast := congrArg List.getLast? hlog
          simp at hlast
      | cons event after =>
          simp only [List.cons_append, List.cons.injEq] at hafter
          exact ⟨made, after, by rw [hafter.1], hmade⟩

theorem answered_commentEvents (place : Place) (node : Node) (r : Rule × Nat) :
    Answered (commentEvents place node r) := by
  rw [commentEvents]
  split
  · exact .pair place ⟨r.2, place, node, .text node.textContent⟩ rfl
  · exact .nil

theorem answered_elementEvents (place : Place) (node : Node) (r : Rule × Nat) :
    Answered (elementEvents place node r) := by
  rw [elementEvents]
  cases r.1.kind with
  | comment => exact .nil
  | element =>
      refine Answered.cons_read ?_ place (.inl rfl)
      split
      · exact .pair place ⟨r.2, place, node, .attributes node.attributes⟩ rfl
      · exact .nil
  | content =>
      refine Answered.cons_read ?_ place (.inl rfl)
      split
      · exact .pair place ⟨r.2, place, node, .text node.textContent⟩ rfl
      · exact .nil

theorem answered_dispatchEvents (engine : Engine) (place : Place) (node : Node) :
    Answered (engine.dispatchEvents place node) := by
  rw [dispatchEvents]
  split
  · exact .flatMap (answered_commentEvents place node) engine.commentRules
  · exact .flatMap (answered_elementEvents place node) engine.rules

mutual

theorem answered_visitEvents (engine : Engine) (place : Place) :
    ∀ node : Node, Answered (engine.visitEvents place node)
  | .mk kind name attributes textContent children => by
      rw [visitEvents]
      split
      · exact .nil
      · refine (answered_dispatchEvents engine place _).append ?_
        exact (answered_visitAllEvents engine place children 0).cons_read place (.inr rfl)

theorem answered_visitAllEvents (engine : Engine) (place : Place) :
    ∀ (children : List Node) (position : Nat),
      Answered (engine.visitAllEvents place position children)
  | [], _ => .nil
  | child :: rest, position => by
      rw [visitAllEvents]
      refine Answered.append ?_ (answered_visitAllEvents engine place rest (position + 1))
      split
      · exact answered_visitEvents engine (position :: place) child
      · exact .nil

end

/-! ## The nodes that are read -/

/-- All reads at a node concern that node. -/
theorem place_of_read_mem_dispatchEvents {engine : Engine} {place p : Place} {node : Node}
    {aspect : Aspect} (h : .read p aspect ∈ engine.dispatchEvents place node) : p = place := by
  rw [dispatchEvents] at h
  split at h
  · obtain ⟨r, -, hr⟩ := List.mem_flatMap.1 h
    rw [commentEvents] at hr
    split at hr <;> simp_all
  · obtain ⟨r, -, hr⟩ := List.mem_flatMap.1 h
    rw [elementEvents] at hr
    cases hkind : r.1.kind with
    | comment => simp [hkind] at hr
    | element | content =>
        simp only [hkind, List.mem_cons, Event.read.injEq] at hr
        rcases hr with hr | hr
        · exact hr.1
        · split at hr <;> simp_all

mutual

/-- What is read below a place is reached from there and not below the deepest rule. -/
theorem reached_of_read_mem_visitEvents (engine : Engine) (place : Place) :
    ∀ node : Node, ∀ p aspect, .read p aspect ∈ engine.visitEvents place node →
      (p.level : Int) ≤ engine.maxDepth ∧ ∃ n, (p, n) ∈ node.reached place
  | .mk kind name attributes textContent children, p, aspect, h => by
      rw [visitEvents] at h
      split at h
      · simp at h
      · rename_i hdepth
        have hself : p = place → (p.level : Int) ≤ engine.maxDepth ∧
            ∃ n, (p, n) ∈ (Node.mk kind name attributes textContent children).reached place := by
          rintro rfl
          rw [Node.reached]
          exact ⟨by omega, _, List.mem_cons_self⟩
        simp only [List.mem_append, List.mem_cons, Event.read.injEq] at h
        rcases h with h | ⟨rfl, -⟩ | h
        · exact hself (place_of_read_mem_dispatchEvents h)
        · exact hself rfl
        · obtain ⟨hlevel, n, hn⟩ :=
            reached_of_read_mem_visitAllEvents engine place children 0 p aspect h
          rw [Node.reached]
          exact ⟨hlevel, n, List.mem_cons_of_mem _ hn⟩

theorem reached_of_read_mem_visitAllEvents (engine : Engine) (place : Place) :
    ∀ (children : List Node) (position : Nat), ∀ p aspect,
      .read p aspect ∈ engine.visitAllEvents place position children →
      (p.level : Int) ≤ engine.maxDepth ∧ ∃ n, (p, n) ∈ Node.reachedBelow place position children
  | [], _, p, aspect, h => by simp [visitAllEvents] at h
  | child :: rest, position, p, aspect, h => by
      rw [visitAllEvents, List.mem_append] at h
      rw [Node.reachedBelow]
      rcases h with h | h
      · by_cases hkind : child.kind.isVisited = true
        · rw [if_pos hkind] at h
          obtain ⟨hlevel, n, hn⟩ :=
            reached_of_read_mem_visitEvents engine (position :: place) child p aspect h
          rw [if_pos ((isVisited_iff _).1 hkind)]
          exact ⟨hlevel, n, List.mem_append_left _ hn⟩
        · rw [if_neg hkind] at h
          simp at h
      · obtain ⟨hlevel, n, hn⟩ :=
          reached_of_read_mem_visitAllEvents engine place rest (position + 1) p aspect h
        exact ⟨hlevel, n, List.mem_append_right _ hn⟩

end

mutual

/-- Of every node that is reached and not below the deepest rule the children are read. -/
theorem read_children_mem_visitEvents (engine : Engine) (place : Place) :
    ∀ node : Node, ∀ r ∈ node.reached place, (r.1.level : Int) ≤ engine.maxDepth →
      .read r.1 .children ∈ engine.visitEvents place node
  | .mk kind name attributes textContent children, r, hr, hlevel => by
      -- the node itself is not below the deepest rule, since what is reached from it is not
      have habove := Node.level_le_of_mem_reached place _ r hr
      rw [visitEvents, if_neg (by omega)]
      rw [Node.reached, List.mem_cons] at hr
      rcases hr with rfl | hr
      · exact List.mem_append_right _ List.mem_cons_self
      · have hbelow := read_children_mem_visitAllEvents engine place children 0 r hr hlevel
        exact List.mem_append_right _ (List.mem_cons_of_mem _ hbelow)

theorem read_children_mem_visitAllEvents (engine : Engine) (place : Place) :
    ∀ (children : List Node) (position : Nat), ∀ r ∈ Node.reachedBelow place position children,
      (r.1.level : Int) ≤ engine.maxDepth →
      .read r.1 .children ∈ engine.visitAllEvents place position children
  | [], _, r, hr, _ => by simp [Node.reachedBelow] at hr
  | child :: rest, position, r, hr, hlevel => by
      rw [Node.reachedBelow, List.mem_append] at hr
      rw [visitAllEvents]
      rcases hr with hr | hr
      · split at hr
        · rename_i hkind
          rw [if_pos ((isVisited_iff _).2 hkind)]
          have hchild := read_children_mem_visitEvents engine (position :: place) child r hr hlevel
          exact List.mem_append_left _ hchild
        · simp at hr
      · have hrest :=
          read_children_mem_visitAllEvents engine place rest (position + 1) r hr hlevel
        exact List.mem_append_right _ hrest

end

theorem mem_readLevels_iff {log : List Event} {level : Nat} :
    level ∈ log.filterMap Event.readLevel? ↔
      ∃ place aspect, .read place aspect ∈ log ∧ place.level = level := by
  rw [List.mem_filterMap]
  constructor
  · rintro ⟨event, hevent, hlevel⟩
    cases event with
    | read place aspect => exact ⟨place, aspect, hevent, Option.some.inj hlevel⟩
    | call made => simp [Event.readLevel?] at hlevel
  · rintro ⟨place, aspect, hread, rfl⟩
    exact ⟨_, hread, rfl⟩

/-- A run that nothing stops reads down to the deepest rule or to the reach of the root. -/
theorem deepestRead_events (engine : Engine) (root : Node) :
    deepestRead (engine.events root) =
      if engine.maxDepth < 0 then none else some (min engine.maxDepth.toNat root.reach) := by
  have hreads : ∀ place aspect, .read place aspect ∈ engine.events root →
      (place.level : Int) ≤ engine.maxDepth ∧ place.level ≤ root.reach := by
    intro place aspect hread
    obtain ⟨hlevel, n, hn⟩ := reached_of_read_mem_visitEvents engine [] root place aspect hread
    have hreach := Node.level_le_reach [] root _ hn
    exact ⟨hlevel, by simpa [Place.level] using hreach⟩
  rw [deepestRead]
  split
  · rename_i hneg
    rw [List.max?_eq_none_iff, List.eq_nil_iff_forall_not_mem]
    intro level hlevel
    obtain ⟨place, aspect, hread, -⟩ := mem_readLevels_iff.1 hlevel
    have := (hreads place aspect hread).1
    omega
  · rename_i hnonneg
    rw [List.max?_eq_some_iff]
    constructor
    -- some node of that level is reached, and its children are read
    · obtain ⟨r, hr, hlevel⟩ := Node.exists_level_of_le_reach [] root
        (min engine.maxDepth.toNat root.reach) (Nat.min_le_right _ _)
      have hlevel : r.1.level = min engine.maxDepth.toNat root.reach := by
        simpa [Place.level] using hlevel
      have hread := read_children_mem_visitEvents engine [] root r hr (by omega)
      exact mem_readLevels_iff.2 ⟨r.1, .children, hread, hlevel⟩
    · intro level hlevel
      obtain ⟨place, aspect, hread, rfl⟩ := mem_readLevels_iff.1 hlevel
      have := hreads place aspect hread
      omega

/-- What every recorded run tells about reads, whatever its handlers do and whether one of them
fails. No read concerns a node below the deepest rule, or one that is not reached from the root
through elements and comments. Attributes and text are read only for a call that follows at once: a
call at that node, with what was read, of a rule that applies there. If the run is completed, the
deepest level read is the smaller of the deepest rule and the reach of the root, and nothing is read
if the deepest rule is negative. -/
theorem run_recordingListener (rules : List Rule) (root : Node) (handle : Call → Run σ ε) (s : σ) :
    ∃ log t failure,
      (ofRules rules).run (recordingListener handle) root ([], s) = ((log, t), failure) ∧
      (∀ place aspect, .read place aspect ∈ log →
        (place.level : Int) ≤ (ofRules rules).maxDepth ∧
          ∃ node, (place, node) ∈ root.reached []) ∧
      (∀ before place aspect after, log = before ++ .read place aspect :: after →
        aspect = .attributes ∨ aspect = .textContent →
        ∃ made rest, after = .call made :: rest ∧ made.place = place ∧
          made.payload.aspect = aspect ∧ made ∈ Rule.calls rules root) ∧
      (failure = none → deepestRead log =
        if (ofRules rules).maxDepth < 0 then none
        else some (min (ofRules rules).maxDepth.toNat root.reach)) := by
  obtain ⟨log, t, failure, heach, hlog⟩ :=
    each_recording handle ((ofRules rules).events root) [] s
  refine ⟨log, t, failure, ?_, ?_, ?_, ?_⟩
  · rw [run_eq_each]
    exact heach
  · intro place aspect hread
    exact reached_of_read_mem_visitEvents (ofRules rules) [] root place aspect (hlog.subset hread)
  · intro before place aspect after hsplit haspect
    have hall := answered_visitEvents (ofRules rules) [] root
    obtain ⟨made, rest, rfl, hplace, hpayload⟩ :=
      hlog.answered hall before place aspect after hsplit haspect
    refine ⟨made, rest, rfl, hplace, hpayload, ?_⟩
    -- the call is one of the log, so one of the run, whose calls are those of the walk
    have hmem : .call made ∈ log := by
      rw [hsplit]
      simp
    rw [← calls_ofRules, calls, List.mem_filterMap]
    exact ⟨.call made, hlog.subset hmem, rfl⟩
  · rintro rfl
    cases hlog with
    | whole => exact deepestRead_events (ofRules rules) root

end Engine

end DepthRules
