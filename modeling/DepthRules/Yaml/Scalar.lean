import DepthRules.Text.Base64
import DepthRules.Value.Basic
import DepthRules.Yaml.Graph
import DepthRules.Yaml.Number

/-!
# Values of scalars

The value of a scalar follows from its type and its text. A mapping can stand for a scalar too, if
it has a value key: it then has the text at that key.
-/

namespace DepthRules.Yaml

open Text

/-- The text of a scalar, or of a mapping that stands for one. Each mapping on the way takes one
unit of fuel. -/
def scalarContent (graph : Graph) : Nat → NodeId → Except Fault Content
  | 0, _ => .error .malformed
  | fuel + 1, n =>
      match (graph.node n).body with
      | .scalar content => .ok content
      | .sequence _ => .error .malformed
      | .mapping entries =>
          match entries.find? fun e => (graph.node e.1).tag == .value with
          | some (_, value) => scalarContent graph fuel value
          | none => .error .malformed

/-- Words for truth and for falsehood. -/
def truthOf? (word : String) : Option Bool :=
  match word with
  | "yes" | "true" | "on" => some true
  | "no" | "false" | "off" => some false
  | _ => none

/-- The truth value a text stands for, in any case of its letters. -/
def truth (content : Content) : Except Fault Bool :=
  match content with
  | .codes points => .error (.noTruth (String.ofList (quotedCodes points)))
  | .text chars =>
      let word := String.ofList (lowercase chars)
      match truthOf? word with
      | some b => .ok b
      | none => .error (.noTruth (quote word))

/-- The bytes a text of ASCII characters stands for. -/
def binary (content : Content) : Except Fault (List UInt8) :=
  match content with
  | .codes _ => .error .malformed
  | .text chars =>
      if chars.all fun c => c.toNat < 128 then
        match base64? chars with
        | some bytes => .ok bytes
        | none => .error .malformed
      else .error .malformed

/-- The day or the moment a text stands for. -/
def timestamp (content : Content) : Except Fault Value :=
  match content with
  | .codes _ => .error .noMoment
  | .text chars =>
      match (timestampParts? chars).or (timestampParts? (dropLineFeed chars)) with
      | some parts => parts.toValue
      | none => .error .noMoment

/-- The value of a text of a type. -/
def valueOfText (tag : Tag) (content : Content) : Except Fault Value :=
  match tag, content with
  | .null, _ => .ok .null
  | .bool, content => (truth content).map .bool
  | .int, .text chars => (integer chars).map .int
  | .int, .codes points => .error (.noInteger 10 (String.ofList ((quotedCodes points).take 200)))
  | .float, .text chars => (real chars).map .real
  | .float, .codes points => .error (.noReal (String.ofList (quotedCodes points)))
  | .binary, content => (binary content).map .bytes
  | .timestamp, content => timestamp content
  | .str, .text chars => .ok (.str (Str.ofChars chars))
  | .str, .codes points => .ok (.str points)
  | _, _ => .error .malformed

/-- The value of a node that has the type of a scalar. -/
def scalarValue (graph : Graph) (n : NodeId) : Except Fault Value := do
  let node := graph.node n
  let content ← scalarContent graph (graph.size + 1) n
  if node.tag == .timestamp && graph.isMapping n then throw .momentOfMapping
  valueOfText node.tag content

end DepthRules.Yaml
