import DepthRules.Str
import DepthRules.Xml.State

/-!
# Settings

How documents are read, which rules are loaded, and how matches are shown.
-/

namespace DepthRules

/-- How documents are read. Sections of literal text always count as text, whatever `stripCdata`
is. -/
structure ParseSettings where
  removeBlankText : Bool
  resolveEntities : Bool
  hugeTree : Bool
  stripCdata : Bool
  deriving DecidableEq, Repr

/-- The settings of the reader. -/
def ParseSettings.options (s : ParseSettings) : Xml.Options :=
  ⟨s.removeBlankText, s.resolveEntities, s.hugeTree⟩

/-- Which rules are loaded: those of a file, of which a ruleset is chosen if it has rulesets, and
those written here. -/
structure RulesSettings where
  rulesFile : Option String
  ruleset : Str
  rules : List Str
  deriving DecidableEq, Repr

/-- The least length to which a value can be shortened. -/
def leastValueLength : Int := 10

/-- How matches are shown: the length to which values are shortened. -/
structure OutputSettings where
  maxValueLength : Int
  length_ge : leastValueLength ≤ maxValueLength
  deriving DecidableEq, Repr

/-- All settings. -/
structure Settings where
  parse : ParseSettings
  rules : RulesSettings
  output : OutputSettings
  deriving DecidableEq, Repr

/-- How documents are read if nothing else is said. -/
def ParseSettings.standard : ParseSettings := ⟨false, false, false, true⟩

/-- No rules. -/
def RulesSettings.standard : RulesSettings := ⟨none, "default", []⟩

/-- How matches are shown if nothing else is said. -/
def OutputSettings.standard : OutputSettings := ⟨80, by decide⟩

/-- The settings if nothing else is said. -/
def Settings.standard : Settings := ⟨.standard, .standard, .standard⟩

end DepthRules
