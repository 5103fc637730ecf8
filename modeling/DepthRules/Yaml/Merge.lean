import DepthRules.Yaml.Fault
import DepthRules.Yaml.Graph

/-!
# Merge keys

The value at a merge key is a mapping, or a sequence of mappings, whose entries go in front of the
mapping's own, so that the mapping's own win; of several mappings the first one wins.
-/

namespace DepthRules.Yaml

/-- Whether an entry's key has a type. -/
def hasKeyOf (graph : Graph) (tag : Tag) (e : NodeId × NodeId) : Bool := (graph.node e.1).tag == tag

/-- The graph in which the entries of a mapping are without merge keys and with value keys as
texts. -/
def withoutSpecialKeys (graph : Graph) (n : NodeId) : Graph :=
  let own := (graph.entries n).filter fun e => !hasKeyOf graph .merge e
  (own.filter (hasKeyOf graph .value)).foldl (fun g e => g.setTag e.1 .str)
    (graph.setBody n (.mapping own))

mutual

/-- Merges into a mapping what its merge keys refer to, after doing so in the mappings they refer
to. Every mapping on the way takes one unit of fuel. -/
def flatten : Nat → NodeId → Graph → Except Fault Graph
  | 0, _, _ => .error .malformed
  | fuel + 1, n, graph => do
      let merges := ((graph.entries n).filter (hasKeyOf graph .merge)).map Prod.snd
      let (merged, graph) ← mergeAll fuel merges (withoutSpecialKeys graph n)
      if merged.isEmpty then return graph
      else return graph.setBody n (.mapping (merged ++ graph.entries n))

/-- The entries that the values at merge keys stand for, in order. -/
def mergeAll : Nat → List NodeId → Graph → Except Fault (List (NodeId × NodeId) × Graph)
  | 0, _, _ => .error .malformed
  | _ + 1, [], graph => .ok ([], graph)
  | fuel + 1, n :: rest, graph => do
      match (graph.node n).body with
      | .scalar _ => throw .malformed
      | .mapping _ =>
          let graph ← flatten fuel n graph
          let entries := graph.entries n
          let (later, graph) ← mergeAll fuel rest graph
          return (entries ++ later, graph)
      | .sequence items =>
          let (entries, graph) ← mergeItems fuel items graph
          let (later, graph) ← mergeAll fuel rest graph
          return (entries ++ later, graph)

/-- The entries that a sequence of mappings stands for: those of the last mapping come first. -/
def mergeItems : Nat → List NodeId → Graph → Except Fault (List (NodeId × NodeId) × Graph)
  | 0, _, _ => .error .malformed
  | _ + 1, [], graph => .ok ([], graph)
  | fuel + 1, n :: rest, graph =>
      if graph.isMapping n then do
        let graph ← flatten fuel n graph
        let entries := graph.entries n
        let (later, graph) ← mergeItems fuel rest graph
        return (later ++ entries, graph)
      else throw .malformed

end

/-- The number of items and entries in all nodes. -/
def partCount (graph : Graph) : Nat :=
  graph.foldl (fun count node =>
    count + match node.body with
      | .scalar _ => 0
      | .sequence items => items.length
      | .mapping entries => entries.length) 0

/-- Merges into a mapping what its merge keys refer to. -/
def Graph.flatten (graph : Graph) (n : NodeId) : Except Fault Graph :=
  Yaml.flatten (2 * (graph.size + partCount graph) + 3) n graph

end DepthRules.Yaml
