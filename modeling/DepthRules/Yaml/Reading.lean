import DepthRules.Yaml.Composer
import DepthRules.Yaml.Merge
import DepthRules.Yaml.Scalar

/-!
# From nodes to values

The nodes of a document are turned to values from the root down, level by level: first all scalars
are read, collections are flattened and their keys are checked, and the first fault met is the
document's. Then the values are put together.
-/

namespace DepthRules.Yaml

/-- What is known of a node: the value of a scalar, or that it is a collection. -/
inductive Known where
  | scalar (value : Value)
  | collection

/-- Where reading the nodes stands: the graph, what is known of each node, and the collections still
to be looked into, the last one first. -/
structure Survey where
  graph : Graph
  known : Array (Option Known)
  waiting : List NodeId

/-- Whether a node of this type is a collection. -/
def Tag.isCollection : Tag → Bool
  | .seq | .map | .set | .omap | .pairs => true
  | _ => false

/-- Reads a scalar, or puts a collection among those to be looked into, if that has not been
done. -/
def Survey.visit (s : Survey) (n : NodeId) : Except Fault Survey :=
  match s.known.getD n none with
  | some _ => .ok s
  | none =>
      if (s.graph.node n).tag.isCollection then
        .ok { s with known := s.known.set! n (some .collection), waiting := n :: s.waiting }
      else do
        let value ← scalarValue s.graph n
        return { s with known := s.known.set! n (some (.scalar value)) }

/-- Visits the keys and the values of entries. No key may be a collection. -/
def Survey.visitEntries : Survey → List (NodeId × NodeId) → Except Fault Survey
  | s, [] => .ok s
  | s, (key, value) :: rest => do
      let s ← s.visit key
      if (s.graph.node key).tag.isCollection then throw .malformed
      let s ← s.visit value
      s.visitEntries rest

/-- The entry of a mapping that has only one. -/
def Graph.singleEntry? (graph : Graph) (n : NodeId) : Option (NodeId × NodeId) :=
  match (graph.node n).body with
  | .mapping [entry] => some entry
  | _ => none

/-- Visits the entries of items that are mappings of one entry each. -/
def Survey.visitPairs : Survey → List NodeId → Except Fault Survey
  | s, [] => .ok s
  | s, n :: rest =>
      match s.graph.singleEntry? n with
      | none => .error .malformed
      | some (key, value) => do
          let s ← s.visit key
          let s ← s.visit value
          s.visitPairs rest

/-- Looks into a collection. -/
def Survey.expand (s : Survey) (n : NodeId) : Except Fault Survey :=
  let node := s.graph.node n
  match node.tag, node.body with
  | .seq, .sequence items => items.foldlM Survey.visit s
  | .omap, .sequence items => s.visitPairs items
  | .pairs, .sequence items => s.visitPairs items
  | .map, .mapping _ => do
      let graph ← s.graph.flatten n
      { s with graph := graph }.visitEntries (graph.entries n)
  | .set, .mapping _ => do
      let graph ← s.graph.flatten n
      { s with graph := graph }.visitEntries (graph.entries n)
  | _, _ => .error .malformed

/-- Looks into the collections of one level, given in order, and then into those found there, until
there are no more. Every level takes one unit of fuel. -/
def Survey.run : Nat → Survey → Except Fault Survey
  | 0, s => .ok s
  | fuel + 1, s =>
      match s.waiting.reverse with
      | [] => .ok s
      | level => do
          let s ← level.foldlM Survey.expand { s with waiting := [] }
          s.run fuel

/-- The value of a node. Collections are put together only where they are asked for, down to a depth
that is the fuel. -/
def Survey.value (s : Survey) : Nat → NodeId → Value
  | 0, _ => .null
  | fuel + 1, n =>
      match s.known.getD n none with
      | none => .null
      | some (.scalar value) => value
      | some .collection => .shared n <| Thunk.mk fun _ =>
          let node := s.graph.node n
          let valueOf := s.value fuel
          match node.tag, node.body with
          | .seq, .sequence items => .list (items.map valueOf)
          | .set, .mapping entries =>
              .set ((Value.ofEntries (entries.map fun e => (valueOf e.1, .null))).map Prod.fst)
          | .map, .mapping entries =>
              .dict (Value.ofEntries (entries.map fun e => (valueOf e.1, valueOf e.2)))
          | _, .sequence items =>
              .list ((items.filterMap s.graph.singleEntry?).map fun e =>
                .pair (valueOf e.1) (valueOf e.2))
          | _, _ => .null

/-- How deep the parts of a rules file are looked into before one of them is written out. -/
def partDepth : Nat := 16

/-- The value of a graph with the given root. -/
def Graph.value (graph : Graph) (root : NodeId) : Except Fault Value := do
  let start : Survey := ⟨graph, Array.replicate graph.size none, []⟩
  let s ← (← start.visit root).run (graph.size + 1)
  return s.value (s.graph.size + partDepth) root

/-- The value of the document in a file; null if the file holds none. -/
def read (bytes : List UInt8) : Except Fault Value := do
  match ← compose (tokens (.ofBytes bytes)) with
  | (_, none) => return .null
  | (graph, some root) => graph.value root

end DepthRules.Yaml
