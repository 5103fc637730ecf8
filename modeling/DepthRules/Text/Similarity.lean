/-!
# Similar words

Two words are the more similar the more characters they have in common blocks: the longest common
block counts, and with it the blocks found in the same way to its left and to its right.
-/

namespace DepthRules.Text

/-- The length of the common beginning of two texts. -/
def sharedStart : List Char → List Char → Nat
  | c :: a, d :: b => if c = d then sharedStart a b + 1 else 0
  | _, _ => 0

/-- A common block of two texts: where it starts in each, and its length. -/
structure CommonBlock where
  left : Nat
  right : Nat
  size : Nat

/-- The longer of two blocks, the first one if they are equally long. -/
def CommonBlock.longer (x y : CommonBlock) : CommonBlock := if x.size < y.size then y else x

/-- The longest common block that starts where `a` does, the first such in `b`, which starts at
`right` of its text. -/
def longestAgainst (a : List Char) (left right : Nat) : List Char → CommonBlock
  | [] => ⟨left, right, 0⟩
  | d :: b =>
      CommonBlock.longer ⟨left, right, sharedStart a (d :: b)⟩ (longestAgainst a left (right + 1) b)

/-- The longest common block of two texts, of several the first in `a`, and then in `b`. -/
def longestCommon (left : Nat) : List Char → List Char → CommonBlock
  | [], _ => ⟨left, 0, 0⟩
  | c :: a, b =>
      CommonBlock.longer (longestAgainst (c :: a) left 0 b) (longestCommon (left + 1) a b)

/-- The number of characters in common blocks. The bound is on how often texts are cut at a block;
as every block has a character of `a`, the length of `a` is enough. -/
def commonCount : Nat → List Char → List Char → Nat
  | 0, _, _ => 0
  | bound + 1, a, b =>
      let block := longestCommon 0 a b
      if block.size = 0 then 0
      else
        block.size + commonCount bound (a.take block.left) (b.take block.right) +
          commonCount bound (a.drop (block.left + block.size)) (b.drop (block.right + block.size))

/-- A candidate for a word, with the number of characters in common blocks of the two and the number
of characters in both. -/
structure Candidate where
  text : String
  common : Nat
  total : Nat

/-- The candidate that a text is for a word. -/
def Candidate.of (word text : String) : Candidate :=
  let a := text.toList
  let b := word.toList
  ⟨text, commonCount a.length a b, a.length + b.length⟩

/-- Whether at least three fifths of the characters are in common blocks. -/
def Candidate.isClose (c : Candidate) : Bool := 3 * c.total ≤ 5 * (2 * c.common)

/-- Whether `c` comes before `d`: with the greater part in common blocks, or with an equal part and
the greater text. -/
def Candidate.before (c d : Candidate) : Bool :=
  d.common * c.total < c.common * d.total ||
    (c.common * d.total == d.common * c.total && decide (d.text ≤ c.text))

/-- The most texts that are named as similar. -/
def mostSimilar : Nat := 3

/-- The texts most similar to a word, in alphabetical order. -/
def similar (word : String) (texts : List String) : List String :=
  let close := (texts.map (Candidate.of word)).filter Candidate.isClose
  let best := (close.mergeSort Candidate.before).take mostSimilar
  (best.map Candidate.text).mergeSort fun s t => decide (s ≤ t)

end DepthRules.Text
