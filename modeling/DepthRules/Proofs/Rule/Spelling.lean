import DepthRules.Proofs.Rule.Valid
import DepthRules.Proofs.Text.Characters
import DepthRules.Proofs.Text.Integer
import DepthRules.Proofs.Text.Split

/-!
# Texts of rules

Writing a rule and reading it are inverse. What is read from a text is in a normal form
(`ensures_parse_normal`): its depth has no more digits than a literal may have, its tag is
trimmed, and its label is its own text. The text of a declaration in normal form reads back as the
same declaration (`parse_text`), so two texts are read as the same declaration exactly if what is
read from them is written in the same way.
-/

namespace DepthRules

open Text

/-- A declaration that can be written and read again. -/
structure Declaration.Normal (d : Declaration) : Prop extends d.Valid where
  length_depth : (toString d.depth).length ≤ maxDigits
  trimmed_tag : d.tag.map trim = d.tag
  label_eq : d.label = d.text

namespace Rule

/-! ## Parts between colons -/

section Parts

variable {kindText depthText : Str}

/-- Two parts with a colon between them. -/
theorem append_colon (kindText rest : Str) :
    kindText ++ ":" ++ rest = kindText ++ ':'.toNat :: rest := by
  rw [List.append_assoc]
  rfl

/-- Three parts with colons between them. -/
theorem append_colon_append_colon (kindText depthText tagText : Str) :
    kindText ++ ":" ++ depthText ++ ":" ++ tagText =
      kindText ++ ':'.toNat :: (depthText ++ ':'.toNat :: tagText) := by
  rw [append_colon kindText, append_colon, List.append_assoc]
  rfl

/-- Blanks around the parts do not matter. -/
theorem assemble_trimLeft (kindText depthText : Str) (tagText : Option Str) :
    assemble (trimLeft kindText) depthText tagText = assemble kindText depthText tagText := by
  rw [assemble, trim_trimLeft, assemble]

/-- A text is cut at its first colon, and what comes after it at the next one. -/
theorem parse_append_cons (hkind : ':'.toNat ∉ kindText) (rest : Str) :
    parse (kindText ++ ':'.toNat :: rest) =
      assemble kindText (splitFirst ':'.toNat (trimRight rest)).1
        (splitFirst ':'.toNat (trimRight rest)).2 := by
  have htrim : trim (kindText ++ ':'.toNat :: rest) =
      trimLeft kindText ++ ':'.toNat :: trimRight rest :=
    trim_append_cons (by decide)
  rw [parse, htrim, if_neg (by simp), splitFirst_append_cons (not_mem_trimLeft hkind)]
  exact assemble_trimLeft _ _ _

/-- A text with two parts is a rule without a tag. -/
theorem parse_of_two (hkind : ':'.toNat ∉ kindText) (hdepth : ':'.toNat ∉ depthText) :
    parse (kindText ++ ":" ++ depthText) = assemble kindText depthText none := by
  rw [append_colon, parse_append_cons hkind, splitFirst_of_not_mem (not_mem_trimRight hdepth),
    assemble, trim_trimRight, assemble]

/-- Everything after the second colon is the tag. -/
theorem parse_of_three (hkind : ':'.toNat ∉ kindText) (hdepth : ':'.toNat ∉ depthText)
    (tagText : Str) :
    parse (kindText ++ ":" ++ depthText ++ ":" ++ tagText) =
      assemble kindText depthText (some tagText) := by
  rw [append_colon_append_colon, parse_append_cons hkind, trimRight_append_cons (by decide),
    splitFirst_append_cons hdepth, assemble, Option.map_some, trim_trimRight, assemble,
    Option.map_some]

end Parts

/-! ## Depths -/

/-- Blanks around the literal of a depth do not matter. -/
theorem integer?_trim (s : Str) : integer? (trim s) = integer? s := by
  rw [integer?, Str.chars?_trim, Option.bind_map, integer?]
  exact congrArg s.chars?.bind (funext integerLiteral?_trim)

theorem integer?_ofChars (cs : List Char) : integer? (Str.ofChars cs) = integerLiteral? cs := by
  rw [integer?, Str.chars?_ofChars, Option.bind_some]

/-- The text that stands for a depth is made of characters, and these are a literal. -/
theorem integer?_eq_some_iff {s : Str} {depth : Int} :
    integer? s = some depth ↔ ∃ cs, s = Str.ofChars cs ∧ integerLiteral? cs = some depth := by
  rw [integer?, Option.bind_eq_some_iff]
  simp only [Str.chars?_eq_some_iff]

theorem length_toString_of_integer? {s : Str} {depth : Int} (hnonneg : 0 ≤ depth)
    (h : integer? s = some depth) : (toString depth).length ≤ maxDigits := by
  obtain ⟨cs, -, hcs⟩ := integer?_eq_some_iff.1 h
  exact length_toString_of_integerLiteral? hnonneg hcs

/-! ## What is read is in normal form -/

/-- The declaration has the kind and the depth that texts stand for, the given tag, and its own text
as label. -/
structure Spells (kindText depthText : Str) (tag : Option Str) (d : Declaration) : Prop where
  readKind_eq : readKind kindText = .ok d.kind
  depth_eq : integer? depthText = some d.depth
  depth_nonneg : 0 ≤ d.depth
  tag_eq : d.tag = tag
  tagFits : TagFits d.kind d.tag
  label_eq : d.label = d.text

/-- The parts of a text are assembled to the declaration they spell, once blanks around them are
dropped. -/
theorem assemble_eq_ok_iff {kindText depthText : Str} {tagText : Option Str} {d : Declaration} :
    assemble kindText depthText tagText = .ok d ↔
      Spells (trim kindText) depthText (tagText.map trim) d := by
  rw [assemble, bind_eq_ok_iff]
  constructor
  · rintro ⟨kind, hkind, h⟩
    obtain ⟨depth, hdepth, hmake⟩ := bind_eq_ok_iff.1 h
    obtain ⟨hliteral, hnonneg⟩ := acceptDepth_eq_ok_iff.1 hdepth
    obtain ⟨hfits, rfl⟩ := Declaration.make_eq_ok_iff.1 hmake
    rw [integer?_trim] at hliteral
    exact ⟨hkind, hliteral, hnonneg, rfl, hfits, rfl⟩
  · rintro ⟨hkind, hliteral, hnonneg, htag, hfits, hlabel⟩
    refine ⟨d.kind, hkind, bind_eq_ok_iff.2 ⟨d.depth, ?_, ?_⟩⟩
    · refine acceptDepth_eq_ok_iff.2 ⟨?_, hnonneg⟩
      rwa [integer?_trim]
    · have hspelling : spelling d.kind d.depth d.tag = d.label := hlabel.symm
      have hmake : Declaration.make d.kind d.depth d.tag d.label = .ok d :=
        Declaration.make_eq_ok_iff.2 ⟨hfits, rfl⟩
      rw [← htag]
      dsimp only
      rw [hspelling, hmake]

/-- A declaration is spelled in normal form exactly if its tag is trimmed. -/
theorem Spells.normal_iff {kindText depthText : Str} {tag : Option Str} {d : Declaration}
    (h : Spells kindText depthText tag d) : d.Normal ↔ tag.map trim = tag := by
  rw [← h.tag_eq]
  constructor
  · intro hnormal
    exact hnormal.trimmed_tag
  · intro htag
    have hlength := length_toString_of_integer? h.depth_nonneg h.depth_eq
    exact ⟨⟨h.depth_nonneg, h.tagFits⟩, hlength, htag, h.label_eq⟩

theorem ensures_assemble_normal (kindText depthText : Str) (tagText : Option Str) :
    Ensures (assemble kindText depthText tagText) Declaration.Normal := by
  intro d hd
  refine (assemble_eq_ok_iff.1 hd).normal_iff.2 ?_
  cases tagText with
  | none => rfl
  | some text => rw [Option.map_some, Option.map_some, trim_trim]

/-- What is read from a text is in normal form. -/
theorem ensures_parse_normal (s : Str) : Ensures (parse s) Declaration.Normal :=
  ensures_parse_of ensures_assemble_normal s

/-! ## What is in normal form reads back -/

@[simp] theorem readKind_word (kind : Kind) : readKind kind.word = .ok kind := by
  cases kind <;> rfl

@[simp] theorem trim_word (kind : Kind) : trim (kind.word : Str) = kind.word := by
  cases kind <;> rfl

theorem colon_not_mem_word (kind : Kind) : ':'.toNat ∉ (kind.word : Str) := by
  cases kind <;> decide

theorem colon_not_mem_depth {depth : Int} (h : 0 ≤ depth) : ':'.toNat ∉ (toString depth : Str) := by
  obtain ⟨n, rfl⟩ := Int.eq_ofNat_of_zero_le h
  rw [Str.ofString, toList_toString_natCast]
  intro hmem
  obtain ⟨c, hc, hcolon⟩ := List.mem_map.1 hmem
  rw [Char.toNat_inj] at hcolon
  rw [hcolon] at hc
  exact absurd (Nat.isDigit_of_mem_toDigits (by decide) (by decide) hc) (by decide)

/-- The parts of a text are assembled to the declaration whose text it is. -/
theorem assemble_of_normal {d : Declaration} (h : d.Normal) :
    assemble d.kind.word (toString d.depth) d.tag = .ok d := by
  have hkind : readKind (trim (d.kind.word : Str)) = .ok d.kind := by
    rw [trim_word, readKind_word]
  have hdepth : integer? (toString d.depth) = some d.depth := by
    rw [Str.ofString, integer?_ofChars, integerLiteral?_toString h.depth_nonneg h.length_depth]
  exact assemble_eq_ok_iff.2
    ⟨hkind, hdepth, h.depth_nonneg, h.trimmed_tag.symm, h.tagFits, h.label_eq⟩

theorem spelling_none (kind : Kind) (depth : Int) :
    spelling kind depth none = (kind.word : Str) ++ ":" ++ (toString depth : Str) := by
  simp [spelling]

theorem spelling_some (kind : Kind) (depth : Int) (tag : Str) :
    spelling kind depth (some tag) =
      (kind.word : Str) ++ ":" ++ (toString depth : Str) ++ ":" ++ tag := by
  simp [spelling]

/-- The text of a declaration in normal form is read as that declaration. -/
theorem parse_text {d : Declaration} (h : d.Normal) : parse d.text = .ok d := by
  have hassemble := assemble_of_normal h
  have hword := colon_not_mem_word d.kind
  have hdepth := colon_not_mem_depth h.depth_nonneg
  rw [Declaration.text]
  -- neither the kind nor the depth has a colon, so the text is cut where it was put together
  cases htag : d.tag with
  | none =>
      rw [htag] at hassemble
      rw [spelling_none, parse_of_two hword hdepth, hassemble]
  | some tag =>
      rw [htag] at hassemble
      rw [spelling_some, parse_of_three hword hdepth, hassemble]

/-- Exactly the declarations in normal form are what their text is read as. -/
theorem parse_text_eq_ok_iff {d : Declaration} : parse d.text = .ok d ↔ d.Normal :=
  ⟨ensures_parse_normal d.text d, parse_text⟩

/-- Declarations in normal form that are written in the same way are the same. -/
theorem eq_of_text_eq {d e : Declaration} (hd : d.Normal) (he : e.Normal)
    (h : d.text = e.text) : d = e := by
  have hread : parse d.text = .ok e := by rw [h, parse_text he]
  rw [parse_text hd] at hread
  exact Except.ok.inj hread

/-! ## Reading and writing are inverse -/

/-- Of two texts that are read, each is read again from what it is read as, and what they are read
as is the same exactly if it is written in the same way. No depth has more digits than a literal may
have, so that writing it does not fail either. -/
theorem parse_text_of_parse {s t : Str} {d e : Declaration} (hs : parse s = .ok d)
    (ht : parse t = .ok e) :
    (toString d.depth).length ≤ maxDigits ∧ parse d.text = .ok d ∧
      (d = e ↔ d.text = e.text) := by
  have hd := ensures_parse_normal _ d hs
  have he := ensures_parse_normal _ e ht
  refine ⟨hd.length_depth, parse_text hd, ?_, eq_of_text_eq hd he⟩
  intro heq
  rw [heq]

/-- Two texts of the same rule, with blanks, marks between digits and colons in the tag. -/
theorem parse_text_of_parse_content :
    ∃ d, parse " Content :\t+0_7: a:b, c " = .ok d ∧ parse "content:7:a:b, c" = .ok d ∧
      d.text = "content:7:a:b, c" ∧ parse d.text = .ok d := by
  have hs : parse " Content :\t+0_7: a:b, c " =
      .ok ⟨.content, 7, some "a:b, c", "content:7:a:b, c"⟩ := by rfl
  have ht : parse "content:7:a:b, c" =
      .ok ⟨.content, 7, some "a:b, c", "content:7:a:b, c"⟩ := by rfl
  obtain ⟨-, hread, -⟩ := parse_text_of_parse hs ht
  exact ⟨_, hs, ht, rfl, hread⟩

end Rule

end DepthRules
