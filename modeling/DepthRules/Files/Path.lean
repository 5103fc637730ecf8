import DepthRules.Text.Lowercase
import DepthRules.Text.Split

/-!
# Paths

A path is a text with slashes between its parts. In normal form it has no empty parts, none that is
a single point, and no slash at its end; the empty path is a single point. Of leading slashes one is
kept, or two if there are exactly two.
-/

namespace DepthRules.Path

open Text

/-- The slashes a normal path keeps of those at its start. -/
def root (cs : List Char) : List Char :=
  match cs with
  | '/' :: '/' :: '/' :: _ => ['/']
  | '/' :: '/' :: _ => ['/', '/']
  | '/' :: _ => ['/']
  | _ => []

/-- The parts of a path that name something. -/
def parts (cs : List Char) : List (List Char) :=
  (splitAll '/' cs).filter fun part => part != [] && part != ['.']

/-- The normal form of a path, on characters. -/
def normalizeChars (cs : List Char) : List Char :=
  match root cs ++ ['/'].intercalate (parts cs) with
  | [] => ['.']
  | normal => normal

/-- The normal form of a path. -/
def normalize (path : String) : String := String.ofList (normalizeChars path.toList)

/-- The paths on the way to a path, and the path itself, in normal form. -/
def waysTo (path : String) : List String :=
  let names := parts path.toList
  (List.range names.length).map fun i =>
    String.ofList (root path.toList ++ ['/'].intercalate (names.take (i + 1)))

/-- The ending of a file's name from its last point on, in lower case; a point at either end of the
name begins none. -/
def ending (path : String) : String :=
  match (parts path.toList).getLast? with
  | none => ""
  | some name =>
      let after := (name.reverse.takeWhile (· != '.')).reverse
      let stem := name.length - after.length - 1
      if after.length = name.length || after.isEmpty || stem = 0 then ""
      else String.ofList (lowercase ('.' :: after))

end DepthRules.Path
