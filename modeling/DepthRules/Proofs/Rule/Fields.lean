import DepthRules.Proofs.Check.Reports
import DepthRules.Proofs.Rule.Entry
import DepthRules.Proofs.Rule.Grammar

/-!
# The fields of a rule

Which values of JSON are accepted as the kind, the depth, the tag or the label of a rule of a
ruleset, or as the name of the ruleset that another one extends, and as what: `IsKind`, `IsDepth`,
`IsLabel` and `IsBase` tell it without regard to how values are written and read. The checks of the
fields accept exactly these values.
-/

namespace DepthRules.Rule

open Text Check

/-- A text that is the word of a kind in lower case. -/
inductive IsKind : Value → Kind → Prop
  | word {s : Str} {kind : Kind} (h : lower s = kind.word) : IsKind (.str s) kind

/-- A depth that is not negative: an integer that is not too long, or a text that spells one. -/
inductive IsDepth : Value → Int → Prop
  | int {i : Int} (hnonneg : 0 ≤ i) (hshort : i.natAbs < 10 ^ maxDigits) : IsDepth (.int i) i
  | literal {s : Str} {literal : List Char} {depth : Int} (hstrips : Strips s (Str.ofChars literal))
      (hspells : SpellsInteger literal depth) (hnonneg : 0 ≤ depth) : IsDepth (.str s) depth

/-- Null is no tag and no label; any other value stands for its plain form, if it has one. -/
inductive IsLabel : Value → Option Str → Prop
  | null : IsLabel .null none
  | plain {v : Value} {s : Str} (hnull : v ≠ .null) (hplain : v.plain? = some s) :
      IsLabel v (some s)

/-- Null is no base, a text is the name of one. -/
inductive IsBase : Value → Option Str → Prop
  | null : IsBase .null none
  | name (s : Str) : IsBase (.str s) (some s)

variable {v : Value}

/-! ## Kinds -/

theorem mem_all (kind : Kind) : kind ∈ Kind.all := by
  cases kind <;> decide

/-- The character is its own lower case and occurs in no word of a kind. -/
def Unspoken (c : Char) : Prop := lowerChar c = [c] ∧ ∀ kind ∈ Kind.all, c ∉ kind.word.toList

instance : DecidablePred Unspoken := fun _ => inferInstanceAs (Decidable (_ ∧ _))

theorem unspoken_of_isDigit {c : Char} (h : c.isDigit = true) : Unspoken c := by
  have hdigit := Char.isDigit_iff_toNat.1 h
  have hnine : '9'.toNat = 57 := rfl
  constructor
  · have hsmall : c.toNat < 128 := by omega
    have hcapital : ¬ ('A' ≤ c ∧ c ≤ 'Z') := by
      rintro ⟨hA, -⟩
      have hle : 'A'.toNat ≤ c.toNat := hA
      have hA : 'A'.toNat = 65 := rfl
      omega
    rw [lowerChar, if_neg hcapital, if_pos hsmall]
  · intro kind _ hmem
    have hword : (kind.word.toList.all fun c => !c.isDigit) = true := by
      cases kind <;> decide
    have hno := List.all_eq_true.1 hword c hmem
    rw [h] at hno
    cases hno

/-- A text with such a character is the word of no kind. -/
theorem readKind_ne_ok {cs : List Char} {c : Char} (hmem : c ∈ cs) (hc : Unspoken c)
    (kind : Kind) : readKind (Str.ofChars cs) ≠ .ok kind := by
  intro h
  have hlower : c ∈ lowercase cs := List.mem_flatMap.2 ⟨c, hmem, by simp [hc.1]⟩
  rw [readKind_eq_ok_iff, Str.lower_ofChars, Str.ofString, Str.ofChars_inj] at h
  rw [h] at hlower
  exact hc.2 kind (mem_all kind) hlower

theorem oneDefect_checkKind (v : Value) : OneDefect (checkKind v) := by
  cases hplain : v.plain? with
  | none =>
      rw [checkKind_of_none hplain]
      exact oneDefect_refuse _
  | some s =>
      rw [checkKind_of_some hplain]
      cases readKind s with
      | ok kind => exact oneDefect_ok kind
      | error cause => exact oneDefect_refuse _

/-- The written form of a value of JSON that is no text is the word of no kind. -/
theorem readKind_written_ne_ok (h : v.IsJson) (hstr : ∀ s, v ≠ .str s) {cs : List Char}
    (hwritten : v.written? = some cs) (kind : Kind) : readKind (Str.ofChars cs) ≠ .ok kind := by
  rcases h.written?_cases hstr hwritten with
    ⟨i, -, hint⟩ | rfl | ⟨b, -, rfl⟩ | ⟨x, rfl⟩ | ⟨c, hc, hmem⟩
  · obtain ⟨c, hmem, hdigit⟩ := Value.exists_isDigit_of_writtenInt? hint
    exact readKind_ne_ok hmem (unspoken_of_isDigit hdigit) kind
  · rintro ⟨⟩
  · cases b
    · exact readKind_ne_ok (c := 's') (by decide) (by decide) kind
    · exact readKind_ne_ok (c := 'r') (by decide) (by decide) kind
  · rcases Value.mem_written x with hmem | ⟨-, hmem | hmem⟩ | ⟨-, hmem | hmem⟩
    all_goals exact readKind_ne_ok hmem (by decide) kind
  · have hall : ∀ c ∈ ['[', '\x7b'], Unspoken c := by
      simp only [List.forall_mem_cons]
      exact ⟨by decide, by decide, List.forall_mem_nil _⟩
    exact readKind_ne_ok hmem (hall c hc) kind

/-- Only a text is accepted as a kind, as the one whose word it is. -/
theorem checkKind_eq_ok_iff (h : v.IsJson) (kind : Kind) :
    checkKind v = .ok kind ↔ IsKind v kind := by
  by_cases hstr : ∃ s, v = .str s
  · obtain ⟨s, rfl⟩ := hstr
    rw [checkKind_str_eq_ok_iff, readKind_eq_ok_iff]
    constructor
    · exact .word
    · rintro ⟨h⟩
      exact h
  have hnot : ∀ s, v ≠ .str s := fun s hs => hstr ⟨s, hs⟩
  refine iff_of_false ?_ fun hkind => by cases hkind; exact hstr ⟨_, rfl⟩
  have hplain := h.plain?_eq_written hnot
  cases hwritten : v.written? with
  | none =>
      rw [hwritten, Option.map_none] at hplain
      rw [checkKind_of_none hplain]
      rintro ⟨⟩
  | some cs =>
      rw [hwritten, Option.map_some] at hplain
      have hread := readKind_written_ne_ok h hnot hwritten kind
      rw [checkKind_of_some hplain]
      cases hresult : readKind (Str.ofChars cs) with
      | ok found =>
          rw [hresult] at hread
          rintro ⟨⟩
          exact hread rfl
      | error cause => rintro ⟨⟩

theorem reports_checkKind (h : v.IsJson) :
    Reports (checkKind v) (IsKind v) fun place => place = [] ∧ ∀ kind, ¬ IsKind v kind :=
  .leaf (checkKind_eq_ok_iff h) (oneDefect_checkKind v) fun _ => Iff.rfl

/-! ## Depths -/

theorem oneDefect_checkDepth (v : Value) : OneDefect (checkDepth v) := by
  rw [checkDepth]
  cases v.written? with
  | none => exact oneDefect_refuse _
  | some shown =>
      dsimp only
      split
      · exact oneDefect_ok _
      · exact oneDefect_refuse _

/-- A value is accepted as the depth that its plain form is a literal of. -/
theorem checkDepth_eq_ok_iff_literal {depth : Int} :
    checkDepth v = .ok depth ↔
      v.written? ≠ none ∧ depthLiteral? v.content = some depth ∧ 0 ≤ depth := by
  rw [checkDepth]
  cases v.written? with
  | none => simp [refuseValue, refuse]
  | some shown =>
      have haccept : acceptDepth (String.ofList shown) (depthLiteral? v.content) = .ok depth ↔ _ :=
        acceptDepth_eq_ok_iff
      dsimp only
      rw [← haccept]
      cases acceptDepth (String.ofList shown) (depthLiteral? v.content) with
      | ok found => simp
      | error cause => simp [refuseValue, refuse]

/-- Any other value than a text or a truth value stands for the integer its written form is a
literal of. -/
theorem depthLiteral?_of_not_str (h : v.IsJson) (hstr : ∀ s, v ≠ .str s)
    (hbool : ∀ b, v ≠ .bool b) : depthLiteral? v = v.written?.bind integerLiteral? := by
  have hplain : depthLiteral? v = v.plain?.bind fun s => integer? (trim s) := by
    cases v with
    | bool b => exact absurd rfl (hbool b)
    | _ => rfl
  have hliteral (cs : List Char) : integer? (trim (Str.ofChars cs)) = integerLiteral? cs := by
    rw [integer?_trim, integer?_ofChars]
  rw [hplain, h.plain?_eq_written hstr, Option.bind_map]
  exact congrArg v.written?.bind (funext hliteral)

theorem depthLiteral?_int_eq_some_iff {i depth : Int} :
    Value.writtenInt? i ≠ none ∧ depthLiteral? (.int i) = some depth ↔
      i.natAbs < 10 ^ maxDigits ∧ depth = i := by
  have hwritten : (Value.int i).written? = Value.writtenInt? i := by
    rw [Value.written?, Value.writtenIn?]
  have hliteral := depthLiteral?_of_not_str (.int i) (by rintro _ ⟨⟩) (by rintro _ ⟨⟩)
  rw [ne_eq, Value.writtenInt?_eq_none_iff, Nat.not_le, hliteral, hwritten]
  refine and_congr_right fun hshort => ?_
  cases hcs : Value.writtenInt? i with
  | none => exact absurd (Value.writtenInt?_eq_none_iff.1 hcs) (by omega)
  | some cs =>
      rw [Option.bind_some, Value.integerLiteral?_writtenInt? hcs, Option.some_inj]
      exact eq_comm

theorem depthLiteral?_of_no_literal (h : v.IsJson) (hint : ∀ i, v ≠ .int i)
    (hstr : ∀ s, v ≠ .str s) : depthLiteral? v = none := by
  by_cases hbool : ∃ b, v = .bool b
  · obtain ⟨b, rfl⟩ := hbool
    rfl
  · rw [depthLiteral?_of_not_str h hstr fun b hb => hbool ⟨b, hb⟩, Option.bind_eq_none_iff]
    exact fun cs => h.integerLiteral?_written hint hstr

/-- Only an integer and a text are accepted as a depth. -/
theorem checkDepth_eq_ok_iff (h : v.IsJson) (depth : Int) :
    checkDepth v = .ok depth ↔ IsDepth v depth := by
  by_cases hstr : ∃ s, v = .str s
  · obtain ⟨s, rfl⟩ := hstr
    rw [checkDepth_str_eq_ok_iff, integer?_eq_some_iff_spells]
    constructor
    · rintro ⟨⟨literal, hstrips, hspells⟩, hnonneg⟩
      exact .literal hstrips hspells hnonneg
    · rintro (_ | ⟨hstrips, hspells, hnonneg⟩)
      exact ⟨⟨_, hstrips, hspells⟩, hnonneg⟩
  rw [checkDepth_eq_ok_iff_literal, h.content_eq]
  by_cases hint : ∃ i, v = .int i
  · obtain ⟨i, rfl⟩ := hint
    have hwritten : (Value.int i).written? = Value.writtenInt? i := by
      rw [Value.written?, Value.writtenIn?]
    rw [hwritten, ← and_assoc, depthLiteral?_int_eq_some_iff]
    constructor
    · rintro ⟨⟨hshort, rfl⟩, hnonneg⟩
      exact .int hnonneg hshort
    · rintro (⟨hnonneg, hshort⟩ | _)
      exact ⟨⟨hshort, rfl⟩, hnonneg⟩
  · rw [depthLiteral?_of_no_literal h (fun i hi => hint ⟨i, hi⟩) fun s hs => hstr ⟨s, hs⟩]
    refine iff_of_false ?_ fun hdepth => ?_
    · rintro ⟨-, ⟨⟩, -⟩
    · cases hdepth
      · exact hint ⟨_, rfl⟩
      · exact hstr ⟨_, rfl⟩

theorem reports_checkDepth (h : v.IsJson) :
    Reports (checkDepth v) (IsDepth v) fun place => place = [] ∧ ∀ depth, ¬ IsDepth v depth :=
  .leaf (checkDepth_eq_ok_iff h) (oneDefect_checkDepth v) fun _ => Iff.rfl

/-! ## Tags and labels -/

/-- Apart from null, a value is given by its plain form. -/
theorem checkScalar_eq_plain (h : v.IsJson) (hnull : v ≠ .null) :
    checkScalar v = match v.plain? with
      | some s => .ok (some s)
      | none => refuseValue Value.tooManyDigits := by
  rw [checkScalar, h.content_eq]
  split
  · exact absurd rfl hnull
  · rw [checkPlain]
    cases v.plain? <;> rfl

theorem oneDefect_checkScalar (h : v.IsJson) : OneDefect (checkScalar v) := by
  by_cases hnull : v = .null
  · subst hnull
    exact oneDefect_ok none
  rw [checkScalar_eq_plain h hnull]
  cases v.plain? with
  | none => exact oneDefect_refuse _
  | some s => exact oneDefect_ok _

theorem checkScalar_eq_ok_iff (h : v.IsJson) (label : Option Str) :
    checkScalar v = .ok label ↔ IsLabel v label := by
  by_cases hnull : v = .null
  · subst hnull
    constructor
    · rintro ⟨⟩
      exact .null
    · rintro (_ | ⟨hnull, -⟩)
      · rfl
      · exact absurd rfl hnull
  rw [checkScalar_eq_plain h hnull]
  constructor
  · intro heq
    cases hplain : v.plain? with
    | none =>
        rw [hplain] at heq
        cases heq
    | some s =>
        rw [hplain] at heq
        cases heq
        exact .plain hnull hplain
  · rintro (_ | ⟨-, hplain⟩)
    · exact absurd rfl hnull
    · rw [hplain]

/-- A value stands for no text if it holds an integer that is too long. -/
theorem forall_not_isLabel_iff (h : v.IsJson) : (∀ label, ¬ IsLabel v label) ↔ v.HoldsLong := by
  rw [← h.plain?_eq_none_iff]
  constructor
  · intro hnone
    by_contra hplain
    obtain ⟨s, hs⟩ := Option.ne_none_iff_exists'.1 hplain
    by_cases hnull : v = .null
    · subst hnull
      exact hnone none .null
    · exact hnone _ (.plain hnull hs)
  · rintro hplain label (_ | ⟨-, hs⟩)
    · rw [Value.plain?, Value.written?, Value.writtenIn?] at hplain
      · cases hplain
      all_goals rintro _ ⟨⟩
    · rw [hs] at hplain
      cases hplain

theorem reports_checkScalar (h : v.IsJson) :
    Reports (checkScalar v) (IsLabel v) fun place => place = [] ∧ v.HoldsLong :=
  .leaf (checkScalar_eq_ok_iff h) (oneDefect_checkScalar h) fun _ => by
    rw [forall_not_isLabel_iff h]

/-! ## Names of bases -/

theorem reports_textOrNull (h : v.IsJson) :
    Reports (textOrNull v) (IsBase v) fun place => place = [] ∧ ∀ base, ¬ IsBase v base := by
  have hrefused (message : Str) (hnull : v ≠ .null) (hstr : ∀ s, v ≠ .str s) :
      Reports (refuse message) (IsBase v) fun place => place = [] ∧ ∀ base, ¬ IsBase v base := by
    have hnone : ∀ base, ¬ IsBase v base := by
      rintro base ⟨⟩
      · exact hnull rfl
      · exact hstr _ rfl
    exact .refuse message hnone fun place => and_iff_left hnone
  cases h with
  | null =>
      refine .leaf (fun base => ⟨?_, ?_⟩) (oneDefect_ok none) fun _ => Iff.rfl
      · rintro ⟨⟩
        exact .null
      · rintro ⟨⟩
        rfl
  | str s =>
      refine .leaf (fun base => ⟨?_, ?_⟩) (oneDefect_ok (some s)) fun _ => Iff.rfl
      · rintro ⟨⟩
        exact .name s
      · rintro ⟨⟩
        rfl
  | bool | int | real | list | dict => exact hrefused _ (by rintro ⟨⟩) (by rintro _ ⟨⟩)

end DepthRules.Rule
