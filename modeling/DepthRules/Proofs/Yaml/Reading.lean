import DepthRules.Proofs.Yaml.Composer
import DepthRules.Proofs.Yaml.Scalar
import DepthRules.Yaml.Reading

/-!
# Faults of a document

A document that is UTF-8 is malformed or has a misfit, if it cannot be read (`meets_read`): its
tokens and the merging of its mappings can only be malformed, apart from code points and numbers of
versions, and everything else is the conversion of a scalar.
-/

namespace DepthRules.Yaml

open Text

/-- The faults with which reading a document fails. -/
inductive ReadFault : Fault → Prop where
  | malformed : ReadFault .malformed
  | unfinished : ReadFault .unfinished
  | misfit {fault : Fault} (h : Misfit fault) : ReadFault fault

theorem TokenFault.readFault {fault : Fault} (h : TokenFault fault) : ReadFault fault := by
  cases h with
  | malformed => exact .malformed
  | unfinished => exact .unfinished
  | codePoint hcode => exact .misfit (.codePoint hcode)
  | longVersion hdigits => exact .misfit (.longVersion hdigits)

theorem ReadFault.of_malformed {fault : Fault} (h : fault = .malformed) : ReadFault fault :=
  h ▸ .malformed

/-! ## Merging -/

/-- Of the steps of merging with so much fuel: they fail for malformed documents only. -/
structure MergeSound (fuel : Nat) : Prop where
  flatten (n : NodeId) (graph : Graph) :
    Meets (flatten fuel n graph) (· = .malformed) fun _ => True
  mergeAll (merges : List NodeId) (graph : Graph) :
    Meets (mergeAll fuel merges graph) (· = .malformed) fun _ => True
  mergeItems (items : List NodeId) (graph : Graph) :
    Meets (mergeItems fuel items graph) (· = .malformed) fun _ => True

namespace MergeSound

variable {fuel : Nat} (h : MergeSound fuel)

include h

theorem flatten_succ (n : NodeId) (graph : Graph) :
    Meets (Yaml.flatten (fuel + 1) n graph) (· = .malformed) fun _ => True := by
  rw [Yaml.flatten]
  exact (h.mergeAll _ _).bind fun _ _ => .ite (fun _ => .ok trivial) fun _ => .ok trivial

theorem mergeAll_succ (merges : List NodeId) (graph : Graph) :
    Meets (Yaml.mergeAll (fuel + 1) merges graph) (· = .malformed) fun _ => True := by
  cases merges with
  | nil => exact .ok trivial
  | cons n rest =>
      rw [Yaml.mergeAll]
      split
      · exact .error rfl
      · exact (h.flatten _ _).bind fun _ _ => (h.mergeAll _ _).bind fun _ _ => .ok trivial
      · exact (h.mergeItems _ _).bind fun _ _ => (h.mergeAll _ _).bind fun _ _ => .ok trivial

theorem mergeItems_succ (items : List NodeId) (graph : Graph) :
    Meets (Yaml.mergeItems (fuel + 1) items graph) (· = .malformed) fun _ => True := by
  cases items with
  | nil => exact .ok trivial
  | cons n rest =>
      rw [Yaml.mergeItems]
      exact .ite (fun _ => (h.flatten _ _).bind fun _ _ => (h.mergeItems _ _).bind fun _ _ =>
        .ok trivial) fun _ => .error rfl

end MergeSound

theorem mergeSound (fuel : Nat) : MergeSound fuel := by
  induction fuel with
  | zero => exact ⟨fun _ _ => .error rfl, fun _ _ => .error rfl, fun _ _ => .error rfl⟩
  | succ fuel h => exact ⟨h.flatten_succ, h.mergeAll_succ, h.mergeItems_succ⟩

theorem Graph.meets_flatten (graph : Graph) (n : NodeId) :
    Meets (graph.flatten n) ReadFault fun _ => True :=
  ((mergeSound _).flatten n graph).mono (fun _ => .of_malformed) fun _ _ => trivial

/-! ## Scalars -/

theorem meets_scalarContent (graph : Graph) (fuel : Nat) (n : NodeId) :
    Meets (scalarContent graph fuel n) (· = .malformed) fun _ => True := by
  induction fuel generalizing n with
  | zero => exact .error rfl
  | succ fuel ih =>
      rw [scalarContent]
      split
      · exact .ok trivial
      · exact .error rfl
      · split
        · exact ih _
        · exact .error rfl

theorem meets_valueOfText (tag : Tag) (content : Content) :
    Meets (valueOfText tag content) ReadFault fun _ => True := by
  by_cases htag : tag.IsConverted
  · cases hvalue : valueOfText tag content with
    | ok value => exact .ok trivial
    | error fault => exact .error (.misfit (.text htag hvalue))
  · exact (meets_unconverted htag content).mono (fun _ => .of_malformed) fun _ _ => trivial

theorem meets_scalarValue (graph : Graph) (n : NodeId) :
    Meets (scalarValue graph n) ReadFault fun _ => True := by
  have hcontent := (meets_scalarContent graph (graph.size + 1) n).mono
    (fun _ => ReadFault.of_malformed) fun _ _ => trivial
  exact hcontent.bind fun content _ => .guard (fun _ => .misfit .momentOfMapping) fun _ =>
    meets_valueOfText _ _

/-! ## The document -/

namespace Survey

theorem meets_visit (s : Survey) (n : NodeId) :
    Meets (s.visit n) ReadFault fun _ => True := by
  unfold visit
  split
  · exact .ok trivial
  · exact .ite (fun _ => .ok trivial) fun _ =>
      (meets_scalarValue _ _).bind fun _ _ => .ok trivial

theorem meets_visitEntries (s : Survey) (entries : List (NodeId × NodeId)) :
    Meets (s.visitEntries entries) ReadFault fun _ => True := by
  induction entries generalizing s with
  | nil => exact .ok trivial
  | cons e rest ih =>
      rw [visitEntries]
      exact (meets_visit s _).bind fun s _ => .guard (fun _ => .malformed) fun _ =>
        (meets_visit s _).bind fun s _ => ih s

theorem meets_visitPairs (s : Survey) (items : List NodeId) :
    Meets (s.visitPairs items) ReadFault fun _ => True := by
  induction items generalizing s with
  | nil => exact .ok trivial
  | cons n rest ih =>
      rw [visitPairs]
      split
      · exact .error .malformed
      · exact (meets_visit s _).bind fun s _ => (meets_visit s _).bind fun s _ => ih s

/-- What one step does. -/
theorem meets_expand (s : Survey) (n : NodeId) :
    Meets (s.expand n) ReadFault fun _ => True := by
  unfold expand
  dsimp only
  split
  · exact Meets.foldlM (fun s n _ => meets_visit s n) _ trivial
  · exact meets_visitPairs _ _
  · exact meets_visitPairs _ _
  · exact (Graph.meets_flatten _ _).bind fun _ _ => meets_visitEntries _ _
  · exact (Graph.meets_flatten _ _).bind fun _ _ => meets_visitEntries _ _
  · exact .error .malformed

theorem meets_run (fuel : Nat) (s : Survey) : Meets (run fuel s) ReadFault fun _ => True := by
  induction fuel generalizing s with
  | zero => exact .ok trivial
  | succ fuel ih =>
      rw [run]
      split
      · exact .ok trivial
      · exact (Meets.foldlM (fun s n _ => meets_expand s n) _ trivial).bind fun s _ => ih s

end Survey

theorem Graph.meets_value (graph : Graph) (root : NodeId) :
    Meets (graph.value root) ReadFault fun _ => True :=
  (Survey.meets_visit _ _).bind fun s _ => (Survey.meets_run _ s).bind fun _ _ => .ok trivial

/-- A document that is UTF-8 is malformed or has a misfit, if it cannot be read. -/
theorem meets_read {bytes : List UInt8} {cs : List Char} (h : decodeUtf8 bytes = .ok cs) :
    Meets (read bytes) ReadFault fun _ => True := by
  have hcompose := (meets_compose (tokens_sound h)).mono
    (fun _ => TokenFault.readFault) fun _ _ => trivial
  refine hcompose.bind fun ⟨graph, root⟩ _ => ?_
  cases root with
  | none => exact .ok trivial
  | some root => exact graph.meets_value root

end DepthRules.Yaml
