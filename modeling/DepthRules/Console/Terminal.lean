import DepthRules.Console.Display
import DepthRules.Console.Tags

/-!
# Terminals

A terminal shows the items it is given one after another. It refuses an item with markup that cannot
be shown, and when the stream it writes to fails. What was given to it before may matter to the
stream. The cells of a table are looked at column by column, from the top of each.
-/

namespace DepthRules.Console

/-- A failure of the stream: its wording, and whether it is an error in a value, as it is where the
stream cannot encode a text. -/
structure StreamFault where
  wording : Str
  isValue : Bool
  deriving DecidableEq, Repr

/-- Why an item is refused. -/
inductive Fault where
  | markup (cause : MarkupFault)
  | stream (cause : StreamFault)
  deriving DecidableEq, Repr

/-- The wording of a fault. -/
def Fault.message : Fault → Str
  | .markup cause => cause.message
  | .stream cause => cause.wording

/-- The markups of an item, in the order in which they are looked at. -/
def Item.markups : Item → List Str
  | .line markup => [markup]
  | .table columns rows =>
      (List.range columns.length).flatMap fun i => (columns :: rows).filterMap fun row => row[i]?

/-- A terminal: its styles, and how its stream fails at an item after all that was given before. -/
structure Terminal where
  styles : Styles
  stream : List Item → Item → Option StreamFault

namespace Terminal

/-- Why an item is refused after all that was given before, if it is. -/
def refusal? (terminal : Terminal) (before : List Item) (item : Item) : Option Fault :=
  match item.markups.findSome? terminal.styles.markupFault? with
  | some cause => some (.markup cause)
  | none => (terminal.stream before item).map .stream

/-- Gives items to a terminal up to the first that it refuses. This gives those that are shown after
`before`, and the one that is refused with the reason. -/
def give (terminal : Terminal) (before : List Item) :
    List Item → List Item × Option (Item × Fault)
  | [] => (before, none)
  | item :: rest =>
      match terminal.refusal? before item with
      | some fault => (before, some (item, fault))
      | none => terminal.give (before ++ [item]) rest

end Terminal

end DepthRules.Console
