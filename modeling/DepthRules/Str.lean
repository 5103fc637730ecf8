import DepthRules.Text.Hex

/-!
# Texts as code points

A text from outside is given by its code points. All of them may be characters, which is what a text
in a document or on a command line is made of, but in data surrogates can occur as well: code points
that are no characters, so that such a text is no string and cannot be encoded.
-/

namespace DepthRules

/-- A text, as its code points. -/
abbrev Str := List Nat

/-- Texts are the same if their code points are. -/
instance instLawfulBEqStr : LawfulBEq Str := inferInstance

/-- What texts are made of: characters or code points. -/
class Letter (α : Type) where
  /-- The code point. -/
  code : α → Nat

instance : Letter Char := ⟨Char.toNat⟩

instance : Letter Nat := ⟨id⟩

/-- A character as its code point. -/
instance instCoeCharNat : Coe Char Nat := ⟨Char.toNat⟩

namespace Str

/-- The text of characters. -/
def ofChars (cs : List Char) : Str := cs.map Char.toNat

/-- A string as a text. -/
@[coe] def ofString (s : String) : Str := ofChars s.toList

instance : Coe String Str := ⟨ofString⟩

/-- Of a text: it is made of characters. -/
def IsChars (s : Str) : Prop := ∀ n ∈ s, n.isValidChar

instance : DecidablePred IsChars := fun s => inferInstanceAs (Decidable (∀ n ∈ s, n.isValidChar))

/-- The characters of a text that is made of them. -/
def chars? (s : Str) : Option (List Char) :=
  if s.IsChars then some (s.map Char.ofNat) else none

/-- The string a text is, if it is one. -/
def string? (s : Str) : Option String := s.chars?.map String.ofList

/-- A code point as characters; three replacement characters stand for the three bytes of a
surrogate. -/
def lossyCode (code : Nat) : List Char :=
  if code.isValidChar then [Char.ofNat code] else List.replicate 3 '\ufffd'

/-- A text as it is shown where only characters can be. -/
def lossy (s : Str) : String := String.ofList (s.flatMap lossyCode)

@[simp] theorem ofChars_nil : ofChars [] = [] := rfl

@[simp] theorem ofChars_cons (c : Char) (cs : List Char) : ofChars (c :: cs) = ↑c :: ofChars cs :=
  rfl

@[simp] theorem ofChars_append (cs ds : List Char) :
    ofChars (cs ++ ds) = ofChars cs ++ ofChars ds :=
  List.map_append

@[simp] theorem ofString_ofList (cs : List Char) : ofString (String.ofList cs) = ofChars cs := by
  rw [ofString, String.toList_ofList]

/-- Different characters make different texts. -/
theorem ofChars_injective : Function.Injective ofChars :=
  fun _ _ h => List.map_inj_right (fun _ _ hc => Char.toNat_inj.1 hc) |>.1 h

@[simp] theorem ofChars_inj {cs ds : List Char} : ofChars cs = ofChars ds ↔ cs = ds :=
  ofChars_injective.eq_iff

@[simp] theorem ofString_inj {s t : String} : (s : Str) = t ↔ s = t := by
  rw [ofString, ofString, ofChars_inj, String.toList_inj]

@[simp] theorem ofString_append (s t : String) : ofString (s ++ t) = ofString s ++ ofString t := by
  rw [ofString, String.toList_append, ofChars_append, ofString, ofString]

@[simp] theorem ofString_eq_nil {s : String} : ofString s = [] ↔ s = "" := by
  rw [ofString, ofChars, List.map_eq_nil_iff, String.toList_eq_nil_iff]

theorem isValidChar_toNat (c : Char) : c.toNat.isValidChar := c.valid

theorem isChars_ofChars (cs : List Char) : (ofChars cs).IsChars := by
  rintro n hn
  obtain ⟨c, -, rfl⟩ := List.mem_map.1 hn
  exact isValidChar_toNat c

/-- A text of characters is made of just these. -/
@[simp] theorem chars?_ofChars (cs : List Char) : chars? (ofChars cs) = some cs := by
  rw [chars?, if_pos (isChars_ofChars cs), ofChars, List.map_map]
  congr 1
  exact List.map_id'' Char.ofNat_toNat cs

@[simp] theorem string?_ofString (s : String) : string? s = some s := by
  rw [string?, ofString, chars?_ofChars, Option.map_some, String.ofList_toList]

end Str

/-- Why a text cannot be encoded: from `start` to `stop` it has surrogates, of which the first is
`first`. -/
structure EncodeError where
  start : Nat
  stop : Nat
  first : Nat
  deriving DecidableEq, Repr

/-- The wording of an error. One code point is shown, several by their positions. -/
def EncodeError.message (e : EncodeError) : String :=
  let place :=
    if e.stop = e.start + 1 then
      "character '\\u" ++ String.ofList (Text.hexDigits 4 e.first) ++ "' in position " ++
        toString e.start
    else "characters in position " ++ toString e.start ++ "-" ++ toString (e.stop - 1)
  "'utf-8' codec can't encode " ++ place ++ ": surrogates not allowed"

/-- The error in encoding a text that comes after `start` code points, if there is one: it is about
the first surrogates that stand next to each other. -/
def Str.encodeErrorFrom? (start : Nat) : Str → Option EncodeError
  | [] => none
  | n :: rest =>
      if n.isValidChar then encodeErrorFrom? (start + 1) rest
      else
        let more := rest.takeWhile fun n => !decide n.isValidChar
        some ⟨start, start + 1 + more.length, n⟩

/-- The error in encoding a text, if there is one. -/
def Str.encodeError? (s : Str) : Option EncodeError := s.encodeErrorFrom? 0

end DepthRules
