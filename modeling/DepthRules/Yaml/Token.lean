import DepthRules.Yaml.Content
import DepthRules.Yaml.Plain
import DepthRules.Yaml.Property
import DepthRules.Yaml.Quotation
import DepthRules.Yaml.Stream

/-!
# Tokens

A document is cut into tokens: marks, scalars, anchors, aliases and tags, and for blocks, which have
no marks of their own, tokens where their indentation begins and ends. A text may turn out to be a
key only by the colon after it; what may be a key is therefore kept in mind, and its key token, and
with the first key of a block the token of that block, is put in afterwards.
-/

namespace DepthRules.Yaml

/-- A token. `broken` stands where no further token can be had. -/
inductive Token where
  | directive (directive : Directive)
  | documentStart
  | documentEnd
  | streamEnd
  | blockSequence
  | blockMapping
  | blockEnd
  | flowSequence
  | flowSequenceEnd
  | flowMapping
  | flowMappingEnd
  | blockEntry
  | flowEntry
  | key
  | value
  | alias (name : String)
  | anchor (name : String)
  | tag (written : WrittenTag)
  | scalar (plain : Bool) (content : Content)
  | broken (fault : Fault)
  deriving DecidableEq, Repr

/-- The longest distance in characters between the start of a key and its colon. -/
def keyReach : Nat := 1024

/-- A place where a key may have started: how many tokens are before it, whether nothing else can
stand there, and where it is. -/
structure KeyStart where
  position : Nat
  required : Bool
  index : Nat
  line : Nat
  column : Nat

/-- Where cutting a text stands: the text to come and the fault that is met where it breaks off, if
it does; the tokens so far, the last one first; the column of the innermost block, -1 outside all
blocks, and those of the blocks around it; whether a key may start here; and what may be a key,
inside the innermost brackets and inside those around them. -/
structure Cutter where
  rest : List Spot
  breach : Fault
  tokens : List Token
  count : Nat
  indent : Int
  indents : List Int
  keyAllowed : Bool
  pending : Option KeyStart
  outer : List (Option KeyStart)

namespace Cutter

/-- The start of a text. -/
def start (text : List Spot) (breach : Fault) : Cutter :=
  ⟨text, breach, [], 0, -1, [], true, none, []⟩

/-- Whether the text breaks off after the character that stands here. -/
def isLast (c : Cutter) : Bool := (c.rest.drop 1).isEmpty

/-- Whether the text to come is inside brackets. -/
def inFlow (c : Cutter) : Bool := !c.outer.isEmpty

/-- Puts a token at the end. -/
def emit (c : Cutter) (t : Token) : Cutter :=
  { c with tokens := t :: c.tokens, count := c.count + 1 }

/-- Puts a token in after the first `position` ones. -/
def emitAt (c : Cutter) (position : Nat) (t : Token) : Cutter :=
  let later := c.count - position
  { c with tokens := c.tokens.take later ++ t :: c.tokens.drop later, count := c.count + 1 }

/-- The column of the text to come. -/
def column (c : Cutter) : Int :=
  match c.rest with
  | [] => 0
  | s :: _ => s.column

/-- Passes over spaces, comments and line ends. After a line end outside brackets a key may
start. -/
def skipSpace (inFlow : Bool) : Bool → Bool → List Spot → List Spot × Bool
  | _, keyAllowed, [] => ([], keyAllowed)
  | comment, keyAllowed, s :: rest =>
      if s.char == endMark then (s :: rest, keyAllowed)
      else if isBreak s.char then skipSpace inFlow false (keyAllowed || !inFlow) rest
      else if comment || s.char == '#' then skipSpace inFlow true keyAllowed rest
      else if s.char == ' ' then skipSpace inFlow false keyAllowed rest
      else (s :: rest, keyAllowed)

/-- Whether what started at a place can still be a key when the text goes on here. -/
def inReach (k : KeyStart) : List Spot → Bool
  | [] => false
  | s :: _ => k.line == s.line && s.index - k.index ≤ keyReach

/-- What may still be a key; a fault if it had to be one. -/
def recheck (text : List Spot) : Option KeyStart → Except Fault (Option KeyStart)
  | none => .ok none
  | some k =>
      if inReach k text then .ok (some k) else if k.required then .error .malformed else .ok none

/-- Drops what can no longer be a key. -/
def dropStale (c : Cutter) : Except Fault Cutter := do
  let pending ← recheck c.rest c.pending
  let outer ← c.outer.mapM (recheck c.rest)
  return { c with pending := pending, outer := outer }

/-- No key has started inside the innermost brackets. -/
def dropPending (c : Cutter) : Except Fault Cutter :=
  match c.pending with
  | none => .ok c
  | some k => if k.required then .error .malformed else .ok { c with pending := none }

/-- A key may start here. -/
def notePending (c : Cutter) : Except Fault Cutter :=
  match c.keyAllowed, c.rest with
  | true, s :: _ => do
      let c ← c.dropPending
      let required := !c.inFlow && c.indent == s.column
      return { c with pending := some ⟨c.count, required, s.index, s.line, s.column⟩ }
  | _, _ => .ok c

/-- Ends the blocks to the right of a column; each takes one unit of fuel. -/
def unwindFrom : Nat → Int → Cutter → Cutter
  | 0, _, c => c
  | fuel + 1, column, c =>
      if column < c.indent then
        match c.indents with
        | [] => c
        | i :: indents =>
            unwindFrom fuel column ({ c with indent := i, indents := indents }.emit .blockEnd)
      else c

/-- Ends the blocks to the right of a column. Inside brackets columns do not matter. -/
def unwind (c : Cutter) (column : Int) : Cutter :=
  if c.inFlow then c else unwindFrom c.indents.length column c

/-- Opens a block at a column, if it is to the right of the present block, and puts in the token
that begins it. -/
def openBlock (c : Cutter) (column : Int) (position : Nat) (t : Token) : Cutter :=
  if c.indent < column then
    { c with indent := column, indents := c.indent :: c.indents }.emitAt position t
  else c

/-- Passes over characters. -/
def drop (c : Cutter) (n : Nat) : Cutter := { c with rest := c.rest.drop n }

/-- Sets whether a key may start here. -/
def allowKey (c : Cutter) (allowed : Bool) : Cutter := { c with keyAllowed := allowed }

/-- The end of the text. -/
def cutEnd (c : Cutter) : Except Fault Cutter := do
  let c ← (c.unwind (-1)).dropPending
  return c.emit .streamEnd

/-- A directive. -/
def cutDirective (c : Cutter) : Except Fault Cutter := do
  let c ← (c.unwind (-1)).dropPending
  let (d, rest) ← directive (c.rest.drop 1)
  return { c.allowKey false with rest := rest }.emit (.directive d)

/-- The marker of the start or the end of a document. -/
def cutMarker (c : Cutter) (t : Token) : Except Fault Cutter := do
  let c ← (c.unwind (-1)).dropPending
  return ((c.allowKey false).drop 3).emit t

/-- An opening bracket. -/
def cutOpening (c : Cutter) (t : Token) : Except Fault Cutter := do
  let c ← c.notePending
  return ({ c.allowKey true with pending := none, outer := c.pending :: c.outer }.drop 1).emit t

/-- A closing bracket, for which there must be an opening one. -/
def cutClosing (c : Cutter) (t : Token) : Except Fault Cutter := do
  let c ← c.dropPending
  match c.outer with
  | [] => throw (if c.isLast then .unfinished else .malformed)
  | pending :: outer =>
      return ({ c.allowKey false with pending := pending, outer := outer }.drop 1).emit t

/-- A comma. -/
def cutComma (c : Cutter) : Except Fault Cutter := do
  let c ← (c.allowKey true).dropPending
  return (c.drop 1).emit .flowEntry

/-- The hyphen of an item or the question mark of a key, which outside brackets can only stand where
a key may start. -/
def cutEntry (c : Cutter) (block mark : Token) (keyNext : Bool) : Except Fault Cutter := do
  if !c.inFlow && !c.keyAllowed then throw .malformed
  let c := if c.inFlow then c else c.openBlock c.column c.count block
  let c ← (c.allowKey keyNext).dropPending
  return (c.drop 1).emit mark

/-- The colon of a value. If a key has started, its token is put in where it started. -/
def cutValue (c : Cutter) : Except Fault Cutter := do
  match c.pending with
  | some k =>
      let c := { c.allowKey false with pending := none }.emitAt k.position .key
      let c := if c.inFlow then c else c.openBlock k.column k.position .blockMapping
      return (c.drop 1).emit .value
  | none => c.cutEntry .blockMapping .value (!c.inFlow)

/-- The name of an anchor or an alias. -/
def cutName (c : Cutter) (t : String → Token) : Except Fault Cutter := do
  let c ← c.notePending
  let (name, rest) ← anchorName (c.rest.drop 1)
  return { c.allowKey false with rest := rest }.emit (t name)

/-- A tag. -/
def cutTag (c : Cutter) : Except Fault Cutter := do
  let c ← c.notePending
  let (written, rest) ← tag c.rest
  return { c.allowKey false with rest := rest }.emit (.tag written)

/-- A block scalar. -/
def cutBlock (c : Cutter) (folded : Bool) : Except Fault Cutter := do
  let c ← (c.allowKey true).dropPending
  let (text, rest) ← blockScalar folded c.indent (c.rest.drop 1)
  return { c with rest := rest }.emit (.scalar false (.text text))

/-- A quoted scalar. -/
def cutQuoted (c : Cutter) (double : Bool) : Except Fault Cutter := do
  let c ← c.notePending
  let (codes, rest) ← quotedScalar double (c.rest.drop 1)
  return { c.allowKey false with rest := rest }.emit (.scalar false (.ofCodes codes))

/-- A plain scalar. After a line end a key may start again. -/
def cutPlain (c : Cutter) : Except Fault Cutter := do
  let c ← c.notePending
  let (text, rest, newLine) := plainScalar c.inFlow (c.indent + 1) c.rest
  return { c.allowKey newLine with rest := rest }.emit (.scalar true (.text text))

/-- Characters that begin no plain scalar. -/
def isMark (c : Char) : Bool :=
  isBlankOrEnd c || isFlowMark c ||
    ['-', '?', ':', '#', '&', '*', '!', '|', '>', '\'', '"', '%', '@', Char.ofNat 0x60].contains c

/-- Whether a plain scalar can begin with a character before this text. -/
def startsPlain (inFlow : Bool) (c : Char) (rest : List Spot) : Bool :=
  !isMark c || (!startsWith isBlankOrEnd rest && (c == '-' || (!inFlow && (c == '?' || c == ':'))))

/-- Cuts off the token that stands here, which begins with the character `s` before `rest`. -/
def cutAt (c : Cutter) (s : Spot) (rest : List Spot) : Except Fault Cutter :=
  let alone := startsWith isBlankOrEnd rest
  if s.char == endMark then c.cutEnd
  else if s.char == '%' && s.column == 0 then c.cutDirective
  else if s.column == 0 && (s.char == '-' || s.char == '.') && !tellsMarker c.rest then
    .error .unfinished
  else if s.column == 0 && isMarkerOf '-' c.rest then c.cutMarker .documentStart
  else if s.column == 0 && isMarkerOf '.' c.rest then c.cutMarker .documentEnd
  else if s.char == '[' then c.cutOpening .flowSequence
  else if s.char == '\x7b' then c.cutOpening .flowMapping
  else if s.char == ']' then c.cutClosing .flowSequenceEnd
  else if s.char == '\x7d' then c.cutClosing .flowMappingEnd
  else if s.char == ',' then c.cutComma
  else if s.char == '-' && alone then c.cutEntry .blockSequence .blockEntry true
  else if s.char == '?' && (c.inFlow || alone) then c.cutEntry .blockMapping .key (!c.inFlow)
  else if s.char == ':' && (c.inFlow || alone) then c.cutValue
  else if s.char == '*' then c.cutName .alias
  else if s.char == '&' then c.cutName .anchor
  else if s.char == '!' then c.cutTag
  else if s.char == '|' && !c.inFlow then c.cutBlock false
  else if s.char == '>' && !c.inFlow then c.cutBlock true
  else if s.char == '\'' then c.cutQuoted false
  else if s.char == '"' then c.cutQuoted true
  else if startsPlain c.inFlow s.char rest then c.cutPlain
  else .error (if c.isLast then .unfinished else .malformed)

/-- Cuts off the next token, up to where the text may break off. -/
def cutNext (c : Cutter) : Except Fault Cutter := do
  let (rest, keyAllowed) := skipSpace c.inFlow false c.keyAllowed c.rest
  match rest with
  | [] => throw .unfinished
  | s :: later =>
      let c ← { c with rest := rest, keyAllowed := keyAllowed }.dropStale
      (c.unwind s.column).cutAt s later

/-- Cuts off the next token. What follows a token is looked at too, so that a text that breaks off
has to go on after it. -/
def cut (c : Cutter) : Except Fault Cutter :=
  match c.cutNext with
  | .error .unfinished => .error c.breach
  | .error other => .error other
  | .ok next => if next.rest.isEmpty then .error c.breach else .ok next

/-- The tokens that are there before a fault is met. They go up to where a key may have started,
since its token would have been put in there. -/
def brokenBy (c : Cutter) (fault : Fault) : List Token :=
  let starts := (c.pending :: c.outer).filterMap fun start => start.map KeyStart.position
  let usable := starts.foldl min c.count
  (c.tokens.drop (c.count - usable)).reverse ++ [.broken fault]

/-- Cuts off all tokens. Each takes at least one character, and one unit of fuel. -/
def run : Nat → Cutter → List Token
  | 0, c => c.brokenBy .malformed
  | fuel + 1, c =>
      match c.dropStale with
      | .error fault => c.brokenBy fault
      | .ok c =>
          match c.cut with
          | .error fault => c.brokenBy fault
          | .ok next =>
              if next.tokens.head? = some .streamEnd then next.tokens.reverse
              else run fuel next

end Cutter

/-- The tokens of a text, of which the last one is the end or a fault. -/
def tokens (stream : Stream) : List Token :=
  let text := spots stream.text stream.breach.isNone
  Cutter.run (text.length + 2) (.start text (stream.breach.getD .unfinished))

end DepthRules.Yaml
