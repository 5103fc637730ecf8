import DepthRules.Console.Terminal

/-!
# The console without styles

Markup as the text it shows: tags are left out, a tag with an odd number of backslashes before it is
shown, and every two backslashes before a tag are one. A table is shown with its columns side by
side.
-/

namespace DepthRules.Console

/-- The text shown by markup that comes after `slashes` backslashes, and in a tag if `inTag`. -/
def plainFrom (slashes : Nat) (inTag : Bool) : Str → Str
  | [] => List.replicate slashes '\\'.toNat
  | c :: rest =>
      if inTag then plainFrom 0 (c != ']'.toNat) rest
      else if c == '\\'.toNat then plainFrom (slashes + 1) false rest
      else if c == '['.toNat && isTag rest then
        List.replicate (slashes / 2) '\\'.toNat ++
          (if slashes % 2 = 1 then '['.toNat :: plainFrom 0 false rest else plainFrom 0 true rest)
      else List.replicate slashes '\\'.toNat ++ c :: plainFrom 0 false rest

/-- The text shown by markup. -/
def plain (markup : Str) : Str := plainFrom 0 false markup

/-- The text with spaces up to a width. -/
def pad (width : Nat) (text : Str) : Str :=
  text ++ (List.replicate (width - text.length) ' '.toNat : Str)

/-- The width of every column. -/
def columnWidths (rows : List (List Str)) : List Nat :=
  rows.foldl
    (fun widths row =>
      (List.range (max widths.length row.length)).map fun i =>
        max (widths.getD i 0) ((row[i]?.map List.length).getD 0))
    []

/-- A row of a table with two spaces between columns. -/
def plainRow (widths : List Nat) (row : List Str) : Str :=
  ("  " : Str).intercalate (List.zipWith pad widths row)

/-- The text shown by an item. -/
def Item.plain : Item → Str
  | .line markup => Console.plain markup
  | .table columns rows =>
      let rows := (columns :: rows).map fun row => row.map Console.plain
      ("\n" : Str).intercalate (rows.map (plainRow (columnWidths rows)))

/-- A terminal that shows all it is given and takes a name of a style as it is written. -/
def Terminal.plain : Terminal := ⟨⟨id, fun _ => none⟩, fun _ _ => none⟩

end DepthRules.Console
