import DepthRules.Proofs.Rule.Spelling
import DepthRules.Proofs.Text.Literal

/-!
# The texts that are rules

`Written` is the grammar of rules: which texts are rules, and which declaration each of them writes.
It is told by the parts between colons, the blanks around them and the words and numbers in them,
without regard to how a text is read. Reading accepts exactly these texts, gives the declaration
they write, and refuses every other text (`parse_iff_written`).
-/

namespace DepthRules.Rule

open Text

/-- What stands before the tag of a rule: the word of a kind, in any case, and the literal of a
depth that is not negative. Blanks may stand around each of them, colons in neither. -/
structure Begins (kindText depthText : Str) (kind : Kind) (depth : Int) : Prop where
  colon_not_mem_kind : ':'.toNat ∉ kindText
  colon_not_mem_depth : ':'.toNat ∉ depthText
  kind_spelled : ∃ word, Strips kindText word ∧ lower word = kind.word
  depth_spelled : ∃ literal, Strips depthText (Str.ofChars literal) ∧ SpellsInteger literal depth
  depth_nonneg : 0 ≤ depth

/-- The texts of rules and what they declare. A comment rule ends after its depth. Any other rule
has a second colon and then its tag, which is all that comes after it, colons too, without the
blanks at its ends; some of it has to be left. The label of a rule is its kind, depth and tag with
colons between them. -/
inductive Written : Str → Declaration → Prop
  | untagged {kindText depthText : Str} {depth : Int}
      (h : Begins kindText depthText .comment depth) :
      Written (kindText ++ ":" ++ depthText)
        ⟨.comment, depth, none, "comment" ++ ":" ++ toString depth⟩
  | tagged {kindText depthText tagText tag : Str} {kind : Kind} {depth : Int}
      (hkind : kind = .element ∨ kind = .content) (h : Begins kindText depthText kind depth)
      (htag : Strips tagText tag) (hne : tag ≠ []) :
      Written (kindText ++ ":" ++ depthText ++ ":" ++ tagText)
        ⟨kind, depth, some tag, kind.word ++ ":" ++ toString depth ++ ":" ++ tag⟩

/-! ## Parts of a rule -/

theorem ofWord?_eq_some_iff {word : Str} {kind : Kind} :
    Kind.ofWord? word = some kind ↔ word = kind.word := by
  constructor
  · intro h
    rw [Kind.ofWord?] at h
    have hfound := List.find?_some h
    exact (beq_iff_eq.1 hfound).symm
  · rintro rfl
    exact Kind.ofWord?_word kind

/-- A word stands for a kind if it is the word of that kind in lower case. -/
theorem readKind_eq_ok_iff {word : Str} {kind : Kind} :
    readKind word = .ok kind ↔ lower word = kind.word := by
  rw [readKind, ← ofWord?_eq_some_iff]
  cases Kind.ofWord? (lower word) with
  | none => simp
  | some found => simp

/-- A text stands for a depth if it is, without the blanks at its ends, a literal of it. -/
theorem integer?_eq_some_iff_spells {s : Str} {depth : Int} :
    integer? s = some depth ↔
      ∃ literal, Strips s (Str.ofChars literal) ∧ SpellsInteger literal depth := by
  constructor
  · intro h
    obtain ⟨cs, rfl, hcs⟩ := integer?_eq_some_iff.1 h
    refine ⟨trim cs, ?_, integerLiteral?_eq_some_iff.1 hcs⟩
    rw [← Str.trim_ofChars]
    exact strips_trim _
  · rintro ⟨literal, hstrips, hspells⟩
    have hliteral : trim literal = literal := by
      rw [← Str.ofChars_inj, ← Str.trim_ofChars, ← strips_iff.1 hstrips, trim_trim]
    rw [← integer?_trim, strips_iff.1 hstrips, integer?_ofChars, integerLiteral?_eq_some_iff,
      hliteral]
    exact hspells

/-- The parts of a text spell a declaration exactly if its kind and depth stand at the beginning of
the text and its tag is the one given. -/
theorem spells_iff_begins {kindText depthText : Str} (hkind : ':'.toNat ∉ kindText)
    (hdepth : ':'.toNat ∉ depthText) {tag : Option Str} {d : Declaration} :
    Spells (trim kindText) depthText tag d ↔
      Begins kindText depthText d.kind d.depth ∧ d.tag = tag ∧ TagFits d.kind d.tag ∧
        d.label = d.text := by
  constructor
  · intro h
    refine ⟨⟨hkind, hdepth, ?_, ?_, h.depth_nonneg⟩, h.tag_eq, h.tagFits, h.label_eq⟩
    · exact ⟨trim kindText, strips_trim kindText, readKind_eq_ok_iff.1 h.readKind_eq⟩
    · exact integer?_eq_some_iff_spells.1 h.depth_eq
  · rintro ⟨hbegins, htag, hfits, hlabel⟩
    obtain ⟨word, hword, hlower⟩ := hbegins.kind_spelled
    rw [← strips_iff.1 hword] at hlower
    exact ⟨readKind_eq_ok_iff.2 hlower, integer?_eq_some_iff_spells.2 hbegins.depth_spelled,
      hbegins.depth_nonneg, htag, hfits, hlabel⟩

/-! ## Texts with one colon and with more -/

variable {kindText depthText : Str} {d : Declaration}

/-- A text without a colon is no rule. -/
theorem not_parse_of_no_colon {s : Str} (h : ':'.toNat ∉ s) : parse s ≠ .ok d := by
  have htrim : ':'.toNat ∉ trim s := not_mem_trimRight (not_mem_trimLeft h)
  rw [parse, splitFirst_of_not_mem htrim]
  split
  · rintro ⟨⟩
  · rintro ⟨⟩

/-- A text with one colon is a rule only if it declares a comment rule. -/
theorem parse_of_two_iff (hkind : ':'.toNat ∉ kindText) (hdepth : ':'.toNat ∉ depthText) :
    parse (kindText ++ ":" ++ depthText) = .ok d ↔
      ∃ depth, Begins kindText depthText .comment depth ∧
        d = ⟨.comment, depth, none, "comment" ++ ":" ++ toString depth⟩ := by
  rw [parse_of_two hkind hdepth, assemble_eq_ok_iff, Option.map_none,
    spells_iff_begins hkind hdepth]
  constructor
  · obtain ⟨kind, depth, tag, label⟩ := d
    dsimp only [Declaration.text]
    rintro ⟨hbegins, rfl, hfits, rfl⟩
    -- without a tag no other kind fits
    cases kind with
    | comment => exact ⟨depth, hbegins, rfl⟩
    | element | content => exact absurd rfl hfits.1
  · rintro ⟨depth, hbegins, rfl⟩
    exact ⟨hbegins, rfl, rfl, rfl⟩

/-- A text with more colons is a rule only if it declares a rule with a tag. -/
theorem parse_of_three_iff (hkind : ':'.toNat ∉ kindText) (hdepth : ':'.toNat ∉ depthText)
    {tagText tag : Str} (htag : trim tagText = tag) :
    parse (kindText ++ ":" ++ depthText ++ ":" ++ tagText) = .ok d ↔
      ∃ kind depth, (kind = .element ∨ kind = .content) ∧ Begins kindText depthText kind depth ∧
        tag ≠ [] ∧
        d = ⟨kind, depth, some tag, kind.word ++ ":" ++ toString depth ++ ":" ++ tag⟩ := by
  rw [parse_of_three hkind hdepth, assemble_eq_ok_iff, Option.map_some, htag,
    spells_iff_begins hkind hdepth]
  constructor
  · obtain ⟨kind, depth, dtag, label⟩ := d
    dsimp only [Declaration.text]
    rintro ⟨hbegins, rfl, hfits, rfl⟩
    have hne : tag ≠ [] := fun h => hfits.ne_empty (congrArg some h)
    cases kind with
    | comment => cases hfits
    | element => exact ⟨.element, depth, .inl rfl, hbegins, hne, rfl⟩
    | content => exact ⟨.content, depth, .inr rfl, hbegins, hne, rfl⟩
  · rintro ⟨kind, depth, hkinds, hbegins, hne, rfl⟩
    have hfits : TagFits kind (some tag) := by
      have hparts := And.intro (Option.some_ne_none tag) fun h => hne (Option.some_inj.1 h)
      rcases hkinds with rfl | rfl
      · exact hparts
      · exact hparts
    exact ⟨hbegins, rfl, hfits, rfl⟩

/-! ## Reading and the grammar -/

theorem parse_of_written {s : Str} (h : Written s d) : parse s = .ok d := by
  cases h with
  | untagged h =>
      exact (parse_of_two_iff h.colon_not_mem_kind h.colon_not_mem_depth).2 ⟨_, h, rfl⟩
  | tagged hkind h htag hne =>
      exact (parse_of_three_iff h.colon_not_mem_kind h.colon_not_mem_depth
        (strips_iff.1 htag)).2 ⟨_, _, hkind, h, hne, rfl⟩

theorem written_of_parse {s : Str} (h : parse s = .ok d) : Written s d := by
  by_cases hcolon : ':'.toNat ∈ s
  · obtain ⟨kindText, rest, rfl, hkind⟩ := List.eq_append_cons_of_mem hcolon
    by_cases hmore : ':'.toNat ∈ rest
    · obtain ⟨depthText, tagText, rfl, hdepth⟩ := List.eq_append_cons_of_mem hmore
      rw [← append_colon_append_colon] at h ⊢
      obtain ⟨kind, depth, hkinds, hbegins, hne, rfl⟩ :=
        (parse_of_three_iff hkind hdepth rfl).1 h
      exact .tagged hkinds hbegins (strips_trim tagText) hne
    · rw [← append_colon] at h ⊢
      obtain ⟨depth, hbegins, rfl⟩ := (parse_of_two_iff hkind hmore).1 h
      exact .untagged hbegins
  · exact absurd h (not_parse_of_no_colon hcolon)

/-- Exactly the texts of the grammar are read as rules, and as the declarations they write. Every
other text is refused, as a text that is no rule. -/
theorem parse_iff_written (s : Str) :
    (∀ d, parse s = .ok d ↔ Written s d) ∧
      ((∃ cause : ReadError, parse s = .error cause) ↔ ¬ ∃ d, Written s d) := by
  have hread : ∀ d, parse s = .ok d ↔ Written s d := fun d =>
    ⟨written_of_parse, parse_of_written⟩
  refine ⟨hread, ?_⟩
  simp only [← hread]
  cases parse s with
  | error cause => simp
  | ok d => simp

end DepthRules.Rule
