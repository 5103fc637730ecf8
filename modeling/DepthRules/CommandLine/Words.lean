import DepthRules.CommandLine.Usage
import DepthRules.Text.Split

/-!
# Words of a command line

A word that starts with a dash is a switch; its value is the text after an equals sign, or the next
word whatever it is. After the word `--` there are no more switches. Every other word, a single
dash among them, is an operand.
-/

namespace DepthRules.CommandLine

open Text

/-- What one or two words of a command line say. -/
inductive Word where
  | operand (text : String)
  | on (switch : Switch)
  | value (switch : Switch) (text : String)
  deriving DecidableEq, Repr

/-- What a single word says, by itself or with the next one. -/
inductive Meaning where
  | complete (word : Word)
  | wantsValue (switch : Switch) (word : String)
  | wrong (error : UsageError)

/-- The meaning of a switch that is written as `word`, with the value that is attached to it. -/
def meaningOfSwitch (switch : Switch) (word : String) : Option String → Meaning
  | none => if switch.takesValue then .wantsValue switch word else .complete (.on switch)
  | some text =>
      if switch.takesValue then .complete (.value switch text) else .wrong (.needlessValue word)

/-- The meaning of a letter after a single dash: the rest of the word, if there is any, is the value
of the switch. -/
def meaningOfLetter (letter : Char) (rest : List Char) : Meaning :=
  let word := String.ofList ['-', letter]
  match Switch.ofLetter? letter with
  | none => .wrong (.noSuchSwitch word [])
  | some switch =>
      meaningOfSwitch switch word (if rest.isEmpty then none else some (String.ofList rest))

/-- The meaning of a word. -/
def meaning (word : String) : Meaning :=
  match word.toList with
  | '-' :: letter :: rest =>
      let (start, value) := splitFirst '=' word.toList
      let name := String.ofList start
      match Switch.ofWord? name with
      | some switch => meaningOfSwitch switch name (value.map String.ofList)
      | none => if letter = '-' then .wrong (unknownWord name) else meaningOfLetter letter rest
  | _ => .complete (.operand word)

/-- What the words of a command line say, or the first error in them. -/
def readWords : List String → Except UsageError (List Word)
  | [] => .ok []
  | word :: rest =>
      if word = "--" then .ok (rest.map .operand)
      else
        match meaning word with
        | .complete said => (readWords rest).map (said :: ·)
        | .wrong error => .error error
        | .wantsValue switch name =>
            match rest with
            | [] => .error (.missingValue name)
            | value :: rest => (readWords rest).map (.value switch value :: ·)

end DepthRules.CommandLine
