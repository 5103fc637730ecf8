import DepthRules.Proofs.Text.Integer
import DepthRules.Proofs.Text.Split
import Mathlib.Data.Nat.Digits.Defs

/-!
# The texts of integers

`SpellsInteger` says which texts stand for which integers, without regard to how they are read: an
optional sign, and groups of decimal digits with one underscore between neighbours, not too many
digits in all. The reader accepts these texts and no others, and reads the number that their digits
have in base ten (`integerLiteral?_eq_some_iff`).
-/

namespace DepthRules.Text

/-- The text falls into groups of decimal digits with an underscore between neighbours, and these
are the values of its digits. -/
def SpellsDigits (cs : List Char) (digits : List Nat) : Prop :=
  ∃ groups : List (List Char), groups ≠ [] ∧ [] ∉ groups ∧ cs = ['_'].intercalate groups ∧
    groups.flatten.map decimalValue? = digits.map some

/-- The text spells digits, not more than a literal may have, and they are those of the number in
base ten, the most significant first. -/
def SpellsNat (cs : List Char) (n : Nat) : Prop :=
  ∃ digits, SpellsDigits cs digits ∧ digits.length ≤ 4300 ∧ n = Nat.ofDigits 10 digits.reverse

/-- The text spells an integer: the digits of a natural number, which may follow a sign. -/
inductive SpellsInteger : List Char → Int → Prop
  | unsigned {cs : List Char} {n : Nat} (h : SpellsNat cs n) : SpellsInteger cs n
  | plus {cs : List Char} {n : Nat} (h : SpellsNat cs n) : SpellsInteger ('+' :: cs) n
  | minus {cs : List Char} {n : Nat} (h : SpellsNat cs n) : SpellsInteger ('-' :: cs) (-n)

/-! ## Groups of digits -/

namespace SpellsDigits

variable {c : Char} {d : Nat} {cs : List Char} {digits : List Nat}

theorem singleton (hc : decimalValue? c = some d) : SpellsDigits [c] [d] :=
  ⟨[[c]], by simp, by simp, rfl, by simp [hc]⟩

/-- A digit before an underscore is a group of its own. -/
theorem mark (hc : decimalValue? c = some d) (h : SpellsDigits cs digits) :
    SpellsDigits (c :: '_' :: cs) (d :: digits) := by
  obtain ⟨groups, hne, hfull, rfl, hdigits⟩ := h
  refine ⟨[c] :: groups, by simp, by simpa using hfull, ?_, by simp [hc, hdigits]⟩
  rw [List.intercalate_cons_of_ne_nil hne]
  rfl

/-- A digit before another one belongs to its group. -/
theorem next (hc : decimalValue? c = some d) (h : SpellsDigits cs digits) :
    SpellsDigits (c :: cs) (d :: digits) := by
  obtain ⟨groups, hne, hfull, rfl, hdigits⟩ := h
  cases groups with
  | nil => exact absurd rfl hne
  | cons group rest =>
      refine ⟨(c :: group) :: rest, by simp, ?_, ?_, ?_⟩
      · simpa using fun hmem => hfull (List.mem_cons_of_mem _ hmem)
      · cases rest with
        | nil => rfl
        | cons next rest => rfl
      · simpa [hc] using hdigits

/-- A text of digits starts with a digit. After it the text ends, or it goes on with digits, with or
without an underscore before them. -/
theorem exists_first (h : SpellsDigits cs digits) :
    ∃ c d, decimalValue? c = some d ∧
      (cs = [c] ∧ digits = [d] ∨ ∃ rest more, SpellsDigits rest more ∧ digits = d :: more ∧
        (cs = c :: '_' :: rest ∨ cs = c :: rest)) := by
  obtain ⟨groups, hne, hfull, rfl, hdigits⟩ := h
  cases groups with
  | nil => exact absurd rfl hne
  | cons group rest =>
      cases group with
      | nil => exact absurd List.mem_cons_self hfull
      | cons c others =>
          have hrest : [] ∉ rest := fun hmem => hfull (List.mem_cons_of_mem _ hmem)
          cases digits with
          | nil => simp at hdigits
          | cons d more =>
              rw [List.flatten_cons, List.cons_append, List.map_cons, List.map_cons,
                List.cons.injEq] at hdigits
              obtain ⟨hc, hmore⟩ := hdigits
              refine ⟨c, d, hc, ?_⟩
              -- the group ends with the first digit or has more of them
              cases others with
              | cons c' others =>
                  refine .inr ⟨_, more, ⟨(c' :: others) :: rest, by simp, ?_, rfl, hmore⟩, rfl,
                    .inr ?_⟩
                  · simpa using hrest
                  · cases rest with
                    | nil => rfl
                    | cons group rest => rfl
              | nil =>
                  rw [List.nil_append] at hmore
                  cases rest with
                  | nil => exact .inl ⟨rfl, by simpa using hmore⟩
                  | cons group rest =>
                      exact .inr ⟨_, more, ⟨group :: rest, by simp, hrest, rfl, hmore⟩, rfl,
                        .inl rfl⟩

end SpellsDigits

/-! ## The reader -/

variable {cs : List Char} {digits : List Nat}

/-- Neither the underscore nor a sign is a digit. -/
theorem decimalValue?_eq_none : ∀ c ∈ ['_', '+', '-'], decimalValue? c = none := by
  simp only [List.forall_mem_cons]
  exact ⟨rfl, rfl, rfl, List.forall_mem_nil _⟩

theorem digitsAfterMark?_cons_eq_some_iff {c : Char} {rest : List Char} :
    (do let d ← decimalValue? c; let ds ← digitsAfterMark? rest; return d :: ds) = some digits ↔
      ∃ d more, decimalValue? c = some d ∧ digitsAfterMark? rest = some more ∧
        digits = d :: more := by
  simp only [Option.bind_eq_bind, Option.bind_eq_some_iff]
  constructor
  · rintro ⟨d, hd, more, hmore, ⟨⟩⟩
    exact ⟨d, more, hd, hmore, rfl⟩
  · rintro ⟨d, more, hd, hmore, rfl⟩
    exact ⟨d, hd, more, hmore, rfl⟩

theorem spellsDigits_of_digitsAfterMark? (h : digitsAfterMark? cs = some digits) :
    SpellsDigits cs digits := by
  induction cs using digitsAfterMark?.induct generalizing digits with
  | case1 => cases h
  | case2 c =>
      obtain ⟨d, hd, rfl⟩ := Option.map_eq_some_iff.1 h
      exact .singleton hd
  | case3 c rest ih =>
      obtain ⟨d, more, hd, hmore, rfl⟩ := digitsAfterMark?_cons_eq_some_iff.1 h
      exact .mark hd (ih hmore)
  | case4 c rest hend hmark ih =>
      rw [digitsAfterMark?] at h
      · obtain ⟨d, more, hd, hmore, rfl⟩ := digitsAfterMark?_cons_eq_some_iff.1 h
        exact .next hd (ih hmore)
      · exact hend
      · exact hmark

theorem digitsAfterMark?_of_spellsDigits (h : SpellsDigits cs digits) :
    digitsAfterMark? cs = some digits := by
  induction digits generalizing cs with
  | nil =>
      obtain ⟨c, d, -, ⟨-, ⟨⟩⟩ | ⟨-, -, -, ⟨⟩, -⟩⟩ := h.exists_first
  | cons first digits ih =>
      obtain ⟨c, d, hd, ⟨rfl, hone⟩ | ⟨rest, more, hrest, hmore, hcs⟩⟩ := h.exists_first
      · rw [hone, digitsAfterMark?, hd]
        rfl
      · obtain ⟨rfl, rfl⟩ := List.cons.inj hmore
        rcases hcs with rfl | rfl
        · exact digitsAfterMark?_cons_eq_some_iff.2 ⟨_, _, hd, ih hrest, rfl⟩
        · -- the rest starts with a digit, so it is not empty and no underscore comes first
          obtain ⟨c', d', hd', hshape⟩ := hrest.exists_first
          have hhead : ∃ tail, rest = c' :: tail := by
            rcases hshape with ⟨rfl, -⟩ | ⟨-, -, -, -, rfl | rfl⟩ <;> exact ⟨_, rfl⟩
          obtain ⟨tail, rfl⟩ := hhead
          rw [digitsAfterMark?]
          · exact digitsAfterMark?_cons_eq_some_iff.2 ⟨_, _, hd, ih hrest, rfl⟩
          · rintro ⟨⟩
          · rintro tail' ⟨⟩
            rw [decimalValue?_eq_none '_' (by decide)] at hd'
            cases hd'

theorem digitsAfterMark?_eq_some_iff : digitsAfterMark? cs = some digits ↔ SpellsDigits cs digits :=
  ⟨spellsDigits_of_digitsAfterMark?, digitsAfterMark?_of_spellsDigits⟩

/-- Digits that are read one after the other are those of the number in base ten. -/
theorem ofDigits_eq_ofDigits_reverse (digits : List Nat) :
    ofDigits digits = Nat.ofDigits 10 digits.reverse := by
  rw [ofDigits, Nat.ofDigits_eq_foldr, List.foldr_reverse]
  congr
  funext n d
  simp [Nat.add_comm]

theorem natLiteral?_eq_some_iff {n : Nat} : natLiteral? cs = some n ↔ SpellsNat cs n := by
  simp only [natLiteral?, Option.bind_eq_bind, Option.bind_eq_some_iff]
  constructor
  · rintro ⟨digits, hdigits, hn⟩
    split at hn
    · rename_i hlength
      cases hn
      exact ⟨digits, digitsAfterMark?_eq_some_iff.1 hdigits, hlength,
        ofDigits_eq_ofDigits_reverse digits⟩
    · cases hn
  · rintro ⟨digits, hdigits, hlength, rfl⟩
    refine ⟨digits, digitsAfterMark?_eq_some_iff.2 hdigits, ?_⟩
    have hmost : digits.length ≤ maxDigits := hlength
    rw [if_pos hmost, ofDigits_eq_ofDigits_reverse]

/-- A text of digits starts with a digit. -/
theorem SpellsNat.exists_first {n : Nat} (h : SpellsNat cs n) :
    ∃ c rest d, cs = c :: rest ∧ decimalValue? c = some d := by
  obtain ⟨digits, hdigits, -, -⟩ := h
  obtain ⟨c, d, hd, ⟨rfl, -⟩ | ⟨-, -, -, -, rfl | rfl⟩⟩ := hdigits.exists_first
  all_goals exact ⟨c, _, d, rfl, hd⟩

theorem signedLiteral?_eq_some_iff {n : Int} :
    signedLiteral? cs = some n ↔ SpellsInteger cs n := by
  constructor
  · intro h
    rw [signedLiteral?.eq_def] at h
    split at h <;> obtain ⟨m, hm, rfl⟩ := Option.map_eq_some_iff.1 h
    · exact .minus (natLiteral?_eq_some_iff.1 hm)
    · exact .plus (natLiteral?_eq_some_iff.1 hm)
    · exact .unsigned (natLiteral?_eq_some_iff.1 hm)
  · intro h
    cases h with
    | minus h => rw [signedLiteral?, natLiteral?_eq_some_iff.2 h, Option.map_some]
    | plus h => rw [signedLiteral?, natLiteral?_eq_some_iff.2 h, Option.map_some]
    | unsigned h =>
        obtain ⟨c, rest, d, rfl, hd⟩ := h.exists_first
        rw [signedLiteral?, natLiteral?_eq_some_iff.2 h, Option.map_some]
        · rintro cs ⟨⟩
          rw [decimalValue?_eq_none '-' (by decide)] at hd
          cases hd
        · rintro cs ⟨⟩
          rw [decimalValue?_eq_none '+' (by decide)] at hd
          cases hd

/-- A text stands for an integer exactly if it spells it, once blanks around it are dropped. -/
theorem integerLiteral?_eq_some_iff {n : Int} :
    integerLiteral? cs = some n ↔ SpellsInteger (trim cs) n :=
  signedLiteral?_eq_some_iff

/-! ## Characters of literals -/

/-- The character occurs in no literal and not around one. -/
def Foreign (c : Char) : Prop :=
  isBlank c = false ∧ decimalValue? c = none ∧ c ∉ ['_', '+', '-']

instance : DecidablePred Foreign := fun _ => inferInstanceAs (Decidable (_ ∧ _ ∧ _))

theorem SpellsNat.not_mem {c : Char} {n : Nat} (h : SpellsNat cs n) (hc : Foreign c) : c ∉ cs := by
  obtain ⟨digits, ⟨groups, -, -, rfl, hdigits⟩, -, -⟩ := h
  obtain ⟨-, hvalue, hmark⟩ := hc
  intro hmem
  rcases mem_of_mem_intercalate hmem with rfl | hmem
  · exact hmark List.mem_cons_self
  · -- every character of a group has a value
    have hsome : decimalValue? c ∈ digits.map some := hdigits ▸ List.mem_map_of_mem hmem
    rw [hvalue, List.mem_map] at hsome
    obtain ⟨d, -, ⟨⟩⟩ := hsome

theorem SpellsInteger.not_mem {c : Char} {n : Int} (h : SpellsInteger cs n) (hc : Foreign c) :
    c ∉ cs := by
  have hplus : c ≠ '+' := fun heq => hc.2.2 (by simp [heq])
  have hminus : c ≠ '-' := fun heq => hc.2.2 (by simp [heq])
  cases h with
  | unsigned h => exact h.not_mem hc
  | plus h => exact List.not_mem_cons_of_ne_of_not_mem hplus (h.not_mem hc)
  | minus h => exact List.not_mem_cons_of_ne_of_not_mem hminus (h.not_mem hc)

/-- A text with such a character stands for no integer. -/
theorem integerLiteral?_of_foreign {c : Char} (hmem : c ∈ cs) (hc : Foreign c) :
    integerLiteral? cs = none := by
  cases hliteral : integerLiteral? cs with
  | none => rfl
  | some n =>
      have hspells := integerLiteral?_eq_some_iff.1 hliteral
      exact absurd (mem_trim hmem hc.1) (hspells.not_mem hc)

end DepthRules.Text
