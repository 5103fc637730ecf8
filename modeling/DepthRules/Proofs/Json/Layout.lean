import DepthRules.Proofs.Json.Numbers
import DepthRules.Proofs.Json.Strings

/-!
# Layouts of JSON

The text on one line and the text over several lines differ only in blanks. Both are written by one
function that is given the blanks at the edges of an array or object and between its items: a
`Layout` (`oneLine_write`, `indented_write`). What is proved of the text of every layout holds of
both, first of all that it is ASCII (`Layout.isAscii_write`).
-/

namespace DepthRules.Json

open Text Decimal

/-- The blanks before the first and after the last item of an array or object, and those before each
further item, by the level of the line. -/
structure Layout where
  edge : Nat → List Char
  between : Nat → List Char
  edge_blank : ∀ level, ∀ c ∈ edge level, isSpace c = true
  between_blank : ∀ level, ∀ c ∈ between level, isSpace c = true

mutual

/-- A value whose numbers are whole, whose texts are made of characters, and whose objects have a
name only once. -/
def Plain : Json → Prop
  | .null => True
  | .bool _ => True
  | .int _ => True
  | .real _ => False
  | .str s => s.IsChars
  | .arr items => PlainItems items
  | .obj members => (members.map Prod.fst).Nodup ∧ PlainMembers members

/-- All items are plain. -/
def PlainItems : List Json → Prop
  | [] => True
  | j :: rest => j.Plain ∧ PlainItems rest

/-- All names of members are made of characters, and all their values are plain. -/
def PlainMembers : List (Str × Json) → Prop
  | [] => True
  | (name, j) :: rest => (name.IsChars ∧ j.Plain) ∧ PlainMembers rest

end

theorem plainItems_iff {items : List Json} : PlainItems items ↔ ∀ j ∈ items, j.Plain := by
  induction items with
  | nil => simp [PlainItems]
  | cons j rest ih => simp [PlainItems, ih]

theorem plainMembers_iff {members : List (Str × Json)} :
    PlainMembers members ↔ ∀ e ∈ members, e.1.IsChars ∧ e.2.Plain := by
  induction members with
  | nil => simp [PlainMembers]
  | cons e rest ih => simp [PlainMembers, ih]

namespace Layout

mutual

/-- The value in a layout, its own lines starting at `level`. -/
def write (l : Layout) (level : Nat) : Json → List Char
  | .arr [] => ['[', ']']
  | .obj [] => ['\x7b', '\x7d']
  | .arr (j :: rest) =>
      '[' :: (l.edge (level + 1) ++ l.write (level + 1) j ++ l.writeItems (level + 1) rest ++
        l.edge level ++ [']'])
  | .obj ((name, j) :: rest) =>
      '\x7b' :: (l.edge (level + 1) ++ writtenString name ++ [':', ' '] ++
        l.write (level + 1) j ++ l.writeMembers (level + 1) rest ++ l.edge level ++ ['\x7d'])
  | j => writtenScalar j

/-- Further items, each after a comma. -/
def writeItems (l : Layout) (level : Nat) : List Json → List Char
  | [] => []
  | j :: rest => ',' :: (l.between level ++ l.write level j ++ l.writeItems level rest)

/-- Further members, each after a comma. -/
def writeMembers (l : Layout) (level : Nat) : List (Str × Json) → List Char
  | [] => []
  | (name, j) :: rest =>
      ',' :: (l.between level ++ writtenString name ++ [':', ' '] ++ l.write level j ++
        l.writeMembers level rest)

end

end Layout

/-! ## The two layouts -/

/-- Everything on one line, with a space after each comma. -/
def oneLine : Layout where
  edge _ := []
  between _ := [' ']
  edge_blank _ := List.forall_mem_nil _
  between_blank _ := List.forall_mem_singleton.mpr rfl

@[simp] theorem oneLine_edge (level : Nat) : oneLine.edge level = [] := rfl

@[simp] theorem oneLine_between (level : Nat) : oneLine.between level = [' '] := rfl

theorem isSpace_of_mem_newline (level : Nat) : ∀ c ∈ newline level, isSpace c = true := by
  intro c hc
  rcases List.mem_cons.1 hc with rfl | hspace
  · rfl
  · rw [List.eq_of_mem_replicate hspace]
    rfl

/-- Every item on a line of its own. -/
def indented : Layout where
  edge := newline
  between := newline
  edge_blank := isSpace_of_mem_newline
  between_blank := isSpace_of_mem_newline

mutual

/-- The layout on one line is that of the writer. -/
theorem oneLine_write (level : Nat) : ∀ j : Json, oneLine.write level j = compact j
  | .null => rfl
  | .bool _ => rfl
  | .int _ => rfl
  | .real _ => rfl
  | .str _ => rfl
  | .arr [] => rfl
  | .arr (j :: rest) => by
      simp [Layout.write, compact, compactItems, oneLine_write (level + 1) j,
        oneLine_writeItems (level + 1) rest]
  | .obj [] => rfl
  | .obj ((name, j) :: rest) => by
      simp [Layout.write, compact, compactMembers, oneLine_write (level + 1) j,
        oneLine_writeMembers (level + 1) rest]

theorem oneLine_writeItems (level : Nat) :
    ∀ items : List Json, oneLine.writeItems level items = compactItems false items
  | [] => rfl
  | j :: rest => by
      simp [Layout.writeItems, compactItems, oneLine_write level j, oneLine_writeItems level rest]

theorem oneLine_writeMembers (level : Nat) : ∀ members : List (Str × Json),
    oneLine.writeMembers level members = compactMembers false members
  | [] => rfl
  | (name, j) :: rest => by
      simp [Layout.writeMembers, compactMembers, oneLine_write level j,
        oneLine_writeMembers level rest]

end

mutual

/-- The layout over several lines is that of the writer. -/
theorem indented_write (level : Nat) : ∀ j : Json, indented.write level j = pretty level j
  | .null => rfl
  | .bool _ => rfl
  | .int _ => rfl
  | .real _ => rfl
  | .str _ => rfl
  | .arr [] => rfl
  | .arr (j :: rest) => by
      rw [Layout.write, pretty, indented_write (level + 1) j, indented_writeItems (level + 1) rest]
      rfl
  | .obj [] => rfl
  | .obj ((name, j) :: rest) => by
      rw [Layout.write, pretty, indented_write (level + 1) j,
        indented_writeMembers (level + 1) rest]
      rfl

theorem indented_writeItems (level : Nat) :
    ∀ items : List Json, indented.writeItems level items = prettyItems level items
  | [] => rfl
  | j :: rest => by
      rw [Layout.writeItems, prettyItems, indented_write level j, indented_writeItems level rest]
      rfl

theorem indented_writeMembers (level : Nat) : ∀ members : List (Str × Json),
    indented.writeMembers level members = prettyMembers level members
  | [] => rfl
  | (name, j) :: rest => by
      rw [Layout.writeMembers, prettyMembers, indented_write level j,
        indented_writeMembers level rest]
      rfl

end

/-! ## Characters of a layout -/

theorem isAscii_of_isSpace {cs : List Char} (h : ∀ c ∈ cs, isSpace c = true) : IsAscii cs := by
  intro c hc
  have hspace := h c hc
  simp only [isSpace, Bool.or_eq_true, beq_iff_eq] at hspace
  rcases hspace with ((rfl | rfl) | rfl) | rfl <;> decide

theorem isAscii_writtenInt (i : Int) : IsAscii (writtenInt i) := by
  have hdigits : IsAscii (digitsOf i.natAbs) := by
    intro c hc
    have hlast : c.toNat ≤ '9'.toNat := (Char.isDigit_iff_toNat.1 (isDigit_of_mem_digitsOf hc)).2
    exact Nat.lt_of_le_of_lt hlast (by decide)
  rw [writtenInt]
  split <;> simp [hdigits]

namespace Layout

variable (l : Layout)

@[simp] theorem isAscii_edge (level : Nat) : IsAscii (l.edge level) :=
  isAscii_of_isSpace (l.edge_blank level)

@[simp] theorem isAscii_between (level : Nat) : IsAscii (l.between level) :=
  isAscii_of_isSpace (l.between_blank level)

mutual

/-- The text of a plain value is ASCII. -/
theorem isAscii_write (level : Nat) : ∀ j : Json, j.Plain → IsAscii (l.write level j)
  | .null, _ => (by decide : IsAscii "null".toList)
  | .bool true, _ => (by decide : IsAscii "true".toList)
  | .bool false, _ => (by decide : IsAscii "false".toList)
  | .int i, _ => isAscii_writtenInt i
  | .str s, _ => isAscii_writtenString s
  | .arr [], _ => (by decide : IsAscii ['[', ']'])
  | .arr (j :: rest), h => by
      simp [write, isAscii_write (level + 1) j h.1, isAscii_writeItems (level + 1) rest h.2]
  | .obj [], _ => (by decide : IsAscii ['\x7b', '\x7d'])
  | .obj ((name, j) :: rest), h => by
      simp [write, isAscii_write (level + 1) j h.2.1.2,
        isAscii_writeMembers (level + 1) rest h.2.2]

theorem isAscii_writeItems (level : Nat) :
    ∀ items : List Json, PlainItems items → IsAscii (l.writeItems level items)
  | [], _ => isAscii_nil
  | j :: rest, h => by
      simp [writeItems, isAscii_write level j h.1, isAscii_writeItems level rest h.2]

theorem isAscii_writeMembers (level : Nat) :
    ∀ members : List (Str × Json), PlainMembers members → IsAscii (l.writeMembers level members)
  | [], _ => isAscii_nil
  | (name, j) :: rest, h => by
      simp [writeMembers, isAscii_write level j h.1.2, isAscii_writeMembers level rest h.2]

end

end Layout

end DepthRules.Json
