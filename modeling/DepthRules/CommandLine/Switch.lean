/-!
# Switches

The switches of the command line, and the word for each.
-/

namespace DepthRules.CommandLine

/-- What a word that starts with a dash can switch. -/
inductive Switch where
  | rules
  | ruleset
  | rule
  | format
  | output
  | listRules
  | logLevel
  | help
  deriving DecidableEq, Repr

namespace Switch

/-- All switches. -/
def all : List Switch :=
  [.rules, .ruleset, .rule, .format, .output, .listRules, .logLevel, .help]

/-- The word for a switch. -/
def word : Switch → String
  | .rules => "--rules"
  | .ruleset => "--ruleset"
  | .rule => "--rule"
  | .format => "--format"
  | .output => "--output"
  | .listRules => "--list-rules"
  | .logLevel => "--log-level"
  | .help => "--help"

/-- The letter that stands for a switch after a single dash. -/
def letter? : Switch → Option Char
  | .output => some 'o'
  | _ => none

/-- Whether a value follows the switch. -/
def takesValue : Switch → Bool
  | .listRules | .help => false
  | _ => true

/-- The switch a word is for. -/
def ofWord? (word : String) : Option Switch := all.find? fun s => s.word == word

/-- The switch a letter is for. -/
def ofLetter? (letter : Char) : Option Switch := all.find? fun s => s.letter? == some letter

end Switch

end DepthRules.CommandLine
