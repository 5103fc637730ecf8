import DepthRules.Console.Cell
import DepthRules.Proofs.Text.Shorten
import DepthRules.Settings.Basic

/-!
# What is shown of a value

The value of a match is shown on one line of bounded length. For an element without attributes
there is a fixed mark; of any other value its text is shortened, and then escaped
(`valueCell_of_ne`), so that what is escaped has all that a shortened text has
(`valueCell_shortened`).
-/

namespace DepthRules.Console

open Text

/-- The text of a value: its attributes, or what it says. -/
def valueLine : Given → Str
  | .attributes entries => attributeLine entries
  | .text content => content

/-- Only of no attributes nothing is written. -/
theorem attributeLine_eq_nil_iff {entries : Entries Str Str} :
    attributeLine entries = [] ↔ entries = [] := by
  refine ⟨fun h => ?_, fun h => h ▸ rfl⟩
  cases entries with
  | nil => rfl
  | cons e rest =>
      -- an attribute is written with an equals sign at least
      rw [attributeLine, List.map_cons] at h
      cases rest with
      | nil => simp at h
      | cons next rest =>
          rw [List.map_cons, List.intercalate_cons_cons] at h
          simp at h

theorem valueCell_of_ne (limit : Int) {value : Given} (h : value ≠ .attributes []) :
    valueCell limit value = escape (shorten limit (valueLine value)) := by
  cases value with
  | text content => rfl
  | attributes entries =>
      have hne : attributeLine entries ≠ [] := fun hnil =>
        h (congrArg Given.attributes (attributeLine_eq_nil_iff.1 hnil))
      rw [valueCell, if_neg (by simpa using hne), valueLine]

/-- A text is shortened to at most `limit` characters without blanks other than single spaces. It is
the words of the text with single spaces between them just if these are not too long, and else
their first `limit - 3` characters with three points after them; shortening it again changes
nothing. What is escaped of a value is its text shortened, and so it is one line of at most `limit`
characters, except that there is a mark in the place of no attributes. -/
theorem valueCell_shortened {limit : Int} (hlimit : 3 ≤ limit) :
    (∀ s : Str, ∃ ws, HasWords s ws ∧
      let line := (" " : Str).intercalate ws
      let short := shorten limit s
      (short.length : Int) ≤ limit ∧ SingleSpaced short ∧
      (short = line ↔ (line.length : Int) ≤ limit) ∧
      (limit < line.length → short = line.take (limit - 3).toNat ++ "...") ∧
      shorten limit short = short) ∧
    valueCell limit (.attributes []) = noAttributes ∧
    ∀ value : Given, value ≠ .attributes [] →
      ∃ shown, shown = shorten limit (valueLine value) ∧
        valueCell limit value = escape shown ∧
        (shown.length : Int) ≤ limit ∧ OneLine shown := by
  refine ⟨fun s => ⟨words s, hasWords_iff.2 rfl, ?_⟩, rfl, fun value hvalue => ?_⟩
  · exact ⟨length_shorten_le hlimit s, singleSpaced_shorten hlimit s,
      shorten_eq_collapse_iff hlimit, shorten_of_lt hlimit, shorten_shorten hlimit s⟩
  · exact ⟨_, rfl, valueCell_of_ne limit hvalue, length_shorten_le hlimit _,
      (singleSpaced_shorten hlimit _).oneLine⟩

/-- A text is cut off right after a space. -/
theorem valueCell_shortened_space :
    (3 : Int) ≤ leastValueLength ∧
    shorten leastValueLength "\tabcdef \n ghijk " = "abcdef ..." ∧
    SingleSpaced "abcdef ..." ∧
    shorten leastValueLength "abcdef ..." = "abcdef ..." := by
  have hlimit : (3 : Int) ≤ leastValueLength := by decide
  obtain ⟨htexts, -, -⟩ := valueCell_shortened hlimit
  obtain ⟨ws, hws, -, hspaced, -, -, hagain⟩ := htexts "\tabcdef \n ghijk "
  have hshort : shorten leastValueLength "\tabcdef \n ghijk " = "abcdef ..." := by
    decide
  rw [hshort] at hspaced hagain
  exact ⟨hlimit, hshort, hspaced, hagain⟩

end DepthRules.Console
