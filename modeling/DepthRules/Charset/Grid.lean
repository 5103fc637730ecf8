/-!
# Grids of characters

Large character sets number their characters by rows and columns.
-/

namespace DepthRules.Charset

/-- Stands in tables where there is no character. -/
def missing : Char := '\ufffd'

/-- Characters in rows, each of which may be shorter than others. -/
structure Grid where
  rows : Array (Array Char)

namespace Grid

/-- The grid of rows given by their numbers, which go up, and their characters. -/
def ofRows (rows : List (Nat × String)) : Grid :=
  ⟨rows.foldl (fun made row =>
    (made ++ Array.replicate (row.1 - made.size) #[]).push row.2.toList.toArray) #[]⟩

/-- The character in a row and a column, if there is one. -/
def character? (grid : Grid) (row column : Nat) : Option Char :=
  ((grid.rows.getD row #[])[column]?).filter (· ≠ missing)

end Grid

end DepthRules.Charset
