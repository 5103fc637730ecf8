import DepthRules.Node.Basic
import DepthRules.Rule.Basic

/-!
# Running rules over a tree

An engine visits a tree once, parents before children, and calls the handler of every rule that
matches the node it is at. Comments and elements below the root are visited; nodes deeper than the
deepest rule are not. All that a run does, reading a node and calling a handler, is told to a
listener, which may stop the run.
-/

namespace DepthRules

/-- What a handler is given: the attributes of an element or a text. -/
inductive Payload where
  | attributes (entries : Entries String String)
  | text (content : String)
  deriving DecidableEq, Repr

/-- What can be read of a node. -/
inductive Aspect where
  | name
  | attributes
  | textContent
  | children
  deriving DecidableEq, Repr

/-- A place in a tree: the positions of a node and its ancestors among their siblings, the node's
own first. The root is at the empty place. -/
abbrev Place := List Nat

/-- The level of a place, zero for the root. -/
def Place.level (place : Place) : Nat := place.length

/-- A call of the handler of the rule with the given number. -/
structure Call where
  rule : Nat
  place : Place
  node : Node
  payload : Payload

/-- What happens in a run. -/
inductive Event where
  | read (place : Place) (aspect : Aspect)
  | call (call : Call)

/-- A part of a run over a state, which may end with a failure. -/
abbrev Run (σ ε : Type) := σ → σ × Option ε

namespace Run

variable {σ ε : Type}

/-- Nothing happens. -/
def done : Run σ ε := fun s => (s, none)

/-- One part after the other; a failure of the first is final. -/
def andThen (first second : Run σ ε) : Run σ ε := fun s =>
  match first s with
  | (s, some failure) => (s, some failure)
  | (s, none) => second s

end Run

/-- What a listener does at an event. -/
abbrev Listener (σ ε : Type) := Event → Run σ ε

/-- Rules with their numbers, the deepest level any of them matches, and those for comments. -/
structure Engine where
  rules : List (Rule × Nat)
  maxDepth : Int
  commentRules : List (Rule × Nat)

namespace Engine

variable {σ ε : Type}

/-- The greatest depth of the rules, zero if there are none. -/
def deepest : List Rule → Int
  | [] => 0
  | rule :: rest => rest.foldl (fun depth r => max depth r.depth) rule.depth

/-- The engine for the rules, which are numbered from zero in their order. -/
def ofRules (rules : List Rule) : Engine where
  rules := rules.zipIdx
  maxDepth := deepest rules
  commentRules := rules.zipIdx.filter fun r => r.1.kind == .comment

/-- Calls the handlers of the comment rules at the level of a comment. -/
def dispatchComment (listen : Listener σ ε) (place : Place) (node : Node) :
    List (Rule × Nat) → Run σ ε
  | [] => .done
  | (rule, number) :: rest =>
      let here : Run σ ε :=
        if rule.depth = place.level then
          (listen (.read place .textContent)).andThen
            (listen (.call ⟨number, place, node, .text node.textContent⟩))
        else .done
      here.andThen (dispatchComment listen place node rest)

/-- Calls the handlers of the element and content rules that match a node. -/
def dispatchElement (listen : Listener σ ε) (place : Place) (node : Node) :
    List (Rule × Nat) → Run σ ε
  | [] => .done
  | (rule, number) :: rest =>
      let applies := rule.appliesTo place.level (some ↑node.name)
      let here : Run σ ε :=
        match rule.kind with
        | .element =>
            (listen (.read place .name)).andThen <|
              if applies then
                (listen (.read place .attributes)).andThen
                  (listen (.call ⟨number, place, node, .attributes node.attributes⟩))
              else .done
        | .content =>
            (listen (.read place .name)).andThen <|
              if applies then
                (listen (.read place .textContent)).andThen
                  (listen (.call ⟨number, place, node, .text node.textContent⟩))
              else .done
        | .comment => .done
      here.andThen (dispatchElement listen place node rest)

/-- Tries the rules at a node. -/
def dispatch (engine : Engine) (listen : Listener σ ε) (place : Place) (node : Node) : Run σ ε :=
  if node.kind = .comment then dispatchComment listen place node engine.commentRules
  else dispatchElement listen place node engine.rules

mutual

/-- Visits the node at a place and what is below it, however deep that is. A limit on how many calls
may be open at once, at which a run over a very deep tree would break off, is not modelled. -/
def visit (engine : Engine) (listen : Listener σ ε) (place : Place) : Node → Run σ ε
  | .mk kind name attributes textContent children =>
      if engine.maxDepth < place.level then .done
      else
        (engine.dispatch listen place (.mk kind name attributes textContent children)).andThen <|
          (listen (.read place .children)).andThen (engine.visitAll listen place 0 children)

/-- Visits those children of the node at a place that are elements or comments, from the one with
the given position on. -/
def visitAll (engine : Engine) (listen : Listener σ ε) (place : Place) (position : Nat) :
    List Node → Run σ ε
  | [] => .done
  | child :: rest =>
      let here : Run σ ε :=
        if child.kind.isVisited then engine.visit listen (position :: place) child else .done
      here.andThen (engine.visitAll listen place (position + 1) rest)

end

/-- Runs the rules over the tree with the given root. -/
def run (engine : Engine) (listen : Listener σ ε) (root : Node) : Run σ ε :=
  engine.visit listen [] root

end Engine

end DepthRules
