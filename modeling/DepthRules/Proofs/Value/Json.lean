import DepthRules.Proofs.Text.Literal
import DepthRules.Value.Written
import Mathlib.Data.List.Nodup

/-!
# Values of JSON

A value of JSON is a scalar, a list of such values, or a mapping from texts to such values in which
a key occurs once (`IsJson`). A text may have surrogates, which are no characters.

Such a value has a written form, and so a plain one, unless it holds an integer of more digits than
are ever written (`IsJson.plain?_eq_none_iff`). But for texts the plain form is the written one
(`IsJson.plain?_eq_written`), and that is an integer literal only for an integer, which it stands
for (`integerLiteral?_writtenInt?`, `IsJson.integerLiteral?_written`).
-/

namespace DepthRules.Value

open Text Decimal

/-- The value is a text. -/
def IsText (v : Value) : Prop := ∃ s, v = .str s

/-- A value of JSON. -/
inductive IsJson : Value → Prop
  | null : IsJson .null
  | bool (b : Bool) : IsJson (.bool b)
  | int (i : Int) : IsJson (.int i)
  | real (x : Double) : IsJson (.real x)
  | str (s : Str) : IsJson (.str s)
  | list {items : List Value} (h : ∀ item ∈ items, item.IsJson) : IsJson (.list items)
  | dict {entries : List (Value × Value)} (hkeys : ∀ e ∈ entries, e.1.IsText)
      (hdistinct : (entries.map Prod.fst).Nodup) (h : ∀ e ∈ entries, e.2.IsJson) :
      IsJson (.dict entries)

/-- The value is a mapping. -/
def IsDict (v : Value) : Prop := ∃ entries, v = .dict entries

/-- The value is a mapping in which `w` stands at the name. -/
def Has (v : Value) (name : Str) (w : Value) : Prop :=
  ∃ entries, v = .dict entries ∧ (.str name, w) ∈ entries

/-- The value holds an integer of more digits than are written. -/
inductive HoldsLong : Value → Prop
  | int {i : Int} (h : 10 ^ maxDigits ≤ i.natAbs) : HoldsLong (.int i)
  | item {items : List Value} {item : Value} (hmem : item ∈ items) (h : item.HoldsLong) :
      HoldsLong (.list items)
  | entry {entries : List (Value × Value)} {e : Value × Value} (hmem : e ∈ entries)
      (h : e.2.HoldsLong) : HoldsLong (.dict entries)

/-! ## Fields -/

/-- Values of JSON have no identity. -/
theorem IsJson.content_eq {v : Value} (h : v.IsJson) : v.content = v := by
  cases h <;> rfl

theorem IsJson.of_dict {entries : List (Value × Value)} (h : (Value.dict entries).IsJson) :
    (∀ e ∈ entries, e.1.IsText) ∧ (entries.map Prod.fst).Nodup ∧ ∀ e ∈ entries, e.2.IsJson := by
  cases h with
  | dict hkeys hdistinct h => exact ⟨hkeys, hdistinct, h⟩

section Fields

variable {entries : List (Value × Value)} {name : Str} {w : Value}

@[simp] theorem has_dict_iff : (dict entries).Has name w ↔ (.str name, w) ∈ entries := by
  constructor
  · rintro ⟨_, ⟨⟩, h⟩
    exact h
  · exact fun h => ⟨entries, rfl, h⟩

theorem isDict_dict (entries : List (Value × Value)) : (dict entries).IsDict := ⟨entries, rfl⟩

theorem Has.isDict {v : Value} (h : v.Has name w) : v.IsDict := by
  obtain ⟨entries, hv, -⟩ := h
  exact ⟨entries, hv⟩

theorem lookup?_eq_none_iff : lookup? entries name = none ↔ ∀ w, (.str name, w) ∉ entries := by
  rw [lookup?, Option.map_eq_none_iff, List.find?_eq_none]
  constructor
  · intro h w hmem
    exact h _ hmem (beq_self_eq_true name)
  · rintro h ⟨k, v⟩ hmem hk
    dsimp only at hk
    split at hk
    · rename_i s
      rw [beq_iff_eq] at hk
      subst hk
      exact h v hmem
    · cases hk

theorem mem_of_lookup?_eq_some (h : lookup? entries name = some w) : (.str name, w) ∈ entries := by
  rw [lookup?, Option.map_eq_some_iff] at h
  obtain ⟨⟨k, v⟩, hfind, rfl⟩ := h
  have hk := List.find?_some hfind
  dsimp only at hk
  split at hk
  · rename_i s
    rw [beq_iff_eq] at hk
    subst hk
    exact List.mem_of_find?_eq_some hfind
  · cases hk

/-- In a mapping with distinct keys, a name has the value that is looked up. -/
theorem lookup?_eq_some_iff (hdistinct : (entries.map Prod.fst).Nodup) :
    lookup? entries name = some w ↔ (.str name, w) ∈ entries := by
  refine ⟨mem_of_lookup?_eq_some, fun hmem => ?_⟩
  cases hfound : lookup? entries name with
  | none => exact absurd hmem (lookup?_eq_none_iff.1 hfound w)
  | some found =>
      have hsame : found = w :=
        congrArg Prod.snd
          (List.inj_on_of_nodup_map hdistinct (mem_of_lookup?_eq_some hfound) hmem rfl)
      rw [hsame]

end Fields

/-! ## Written forms -/

theorem writtenInt?_eq_none_iff {i : Int} :
    writtenInt? i = none ↔ 10 ^ maxDigits ≤ i.natAbs := by
  have hlength : (digitsOf i.natAbs).length ≤ maxDigits ↔ i.natAbs < 10 ^ maxDigits :=
    Nat.length_toDigits_le_iff (by decide) (by decide)
  rw [writtenInt?]
  split
  · exact iff_of_true rfl (by omega)
  · exact iff_of_false (Option.some_ne_none _) (by omega)

theorem writtenAll?_eq_none_iff {enclosing : List Nat} {items : List Value} :
    writtenAll? enclosing items = none ↔ ∃ item ∈ items, writtenIn? enclosing item = none := by
  induction items with
  | nil =>
      rw [writtenAll?]
      simp
  | cons v rest ih =>
      rw [writtenAll?, List.exists_mem_cons_iff, ← ih]
      cases writtenIn? enclosing v with
      | none => simp
      | some piece => cases writtenAll? enclosing rest <;> simp

theorem writtenEntries?_eq_none_iff {enclosing : List Nat} {entries : List (Value × Value)} :
    writtenEntries? enclosing entries = none ↔
      ∃ e ∈ entries, writtenIn? enclosing e.1 = none ∨ writtenIn? enclosing e.2 = none := by
  induction entries with
  | nil =>
      rw [writtenEntries?]
      simp
  | cons e rest ih =>
      rw [writtenEntries?, List.exists_mem_cons_iff, ← ih]
      cases writtenIn? enclosing e.1 with
      | none => simp
      | some key =>
          cases writtenIn? enclosing e.2 with
          | none => simp
          | some value => cases writtenEntries? enclosing rest <;> simp

theorem IsText.writtenIn?_ne_none {v : Value} (h : v.IsText) (enclosing : List Nat) :
    writtenIn? enclosing v ≠ none := by
  obtain ⟨s, rfl⟩ := h
  rw [writtenIn?]
  exact Option.some_ne_none _

/-- A value of JSON is written unless it holds an integer that is too long. -/
theorem IsJson.writtenIn?_eq_none_iff {v : Value} (h : v.IsJson) (enclosing : List Nat) :
    writtenIn? enclosing v = none ↔ v.HoldsLong := by
  induction h with
  | null | bool | real | str =>
      rw [writtenIn?]
      exact iff_of_false (Option.some_ne_none _) (by rintro ⟨⟩)
  | int i =>
      rw [writtenIn?, writtenInt?_eq_none_iff]
      constructor
      · exact .int
      · rintro ⟨h⟩
        exact h
  | @list items h ih =>
      have hitems : writtenIn? enclosing (.list items) = none ↔
          writtenAll? enclosing items = none := by
        rw [writtenIn?]
        cases writtenAll? enclosing items <;> simp
      rw [hitems, writtenAll?_eq_none_iff]
      constructor
      · rintro ⟨item, hmem, hnone⟩
        exact .item hmem ((ih item hmem).1 hnone)
      · rintro (_ | ⟨hmem, hlong⟩)
        exact ⟨_, hmem, (ih _ hmem).2 hlong⟩
  | @dict entries hkeys hdistinct h ih =>
      have hentries : writtenIn? enclosing (.dict entries) = none ↔
          writtenEntries? enclosing entries = none := by
        rw [writtenIn?]
        cases writtenEntries? enclosing entries <;> simp
      rw [hentries, writtenEntries?_eq_none_iff]
      constructor
      · rintro ⟨e, hmem, hnone⟩
        -- the key is a text, which is always written
        have hvalue := hnone.resolve_left ((hkeys e hmem).writtenIn?_ne_none enclosing)
        exact .entry hmem ((ih e hmem).1 hvalue)
      · rintro (_ | _ | ⟨hmem, hlong⟩)
        exact ⟨_, hmem, .inr ((ih _ hmem).2 hlong)⟩

/-- Any value of JSON but a text stands for the text that is its written form. -/
theorem IsJson.plain?_eq_written {v : Value} (h : v.IsJson) (hstr : ∀ s, v ≠ .str s) :
    v.plain? = v.written?.map Str.ofChars := by
  cases h with
  | str s => exact absurd rfl (hstr s)
  | null | bool | int | real | list | dict => rfl

/-- A value of JSON stands for a text unless it holds an integer that is too long. -/
theorem IsJson.plain?_eq_none_iff {v : Value} (h : v.IsJson) : v.plain? = none ↔ v.HoldsLong := by
  have hwritten := h.writtenIn?_eq_none_iff []
  cases h with
  | str s => exact iff_of_false (Option.some_ne_none _) (by rintro ⟨⟩)
  | null | bool | int | real | list | dict => exact Option.map_eq_none_iff.trans hwritten

/-! ## Written forms and integer literals -/

/-- An integer is written as a literal that stands for it. -/
theorem integerLiteral?_writtenInt? {i : Int} {cs : List Char} (h : writtenInt? i = some cs) :
    integerLiteral? cs = some i := by
  have hdigits : ∀ c ∈ Nat.toDigits 10 i.natAbs, c.isDigit = true := fun c hc =>
    Nat.isDigit_of_mem_toDigits (by decide) (by decide) hc
  rw [writtenInt?, digitsOf] at h
  split at h
  · cases h
  · rename_i hlength
    have hnatural := natLiteral?_toDigits (Nat.not_lt.1 hlength)
    cases h
    split
    · rename_i hneg
      have hblank : ∀ c ∈ '-' :: Nat.toDigits 10 i.natAbs, isBlank c = false :=
        List.forall_mem_cons.2 ⟨by decide, fun c hc => isBlank_of_isDigit (hdigits c hc)⟩
      rw [integerLiteral?, trim_of_forall_not_blank hblank, signedLiteral?, hnatural,
        Option.map_some]
      exact congrArg some (by omega)
    · rw [integerLiteral?,
        trim_of_forall_not_blank fun c hc => isBlank_of_isDigit (hdigits c hc),
        signedLiteral?_of_isDigit hdigits, hnatural, Option.map_some]
      exact congrArg some (by omega)

theorem exists_isDigit_of_writtenInt? {i : Int} {cs : List Char} (h : writtenInt? i = some cs) :
    ∃ c ∈ cs, c.isDigit = true := by
  obtain ⟨c, hc⟩ := List.exists_mem_of_ne_nil (Nat.toDigits 10 i.natAbs) Nat.toDigits_ne_nil
  refine ⟨c, ?_, Nat.isDigit_of_mem_toDigits (by decide) (by decide) hc⟩
  rw [writtenInt?, digitsOf] at h
  split at h
  · cases h
  · cases h
    split
    · exact List.mem_cons_of_mem _ hc
    · exact hc

/-- A number is laid out with a point, or with an exponent and its sign. -/
theorem mem_layout (digits : List Char) (power : Int) :
    '.' ∈ layout digits power ∨
      'e' ∈ layout digits power ∧ ('+' ∈ layout digits power ∨ '-' ∈ layout digits power) := by
  unfold layout
  split
  · left
    split <;> simp
  · refine .inr ⟨by simp, ?_⟩
    by_cases hneg : power < 0
    · exact .inr (by simp [hneg])
    · exact .inl (by simp [hneg])

/-- A number with a point is written with one, or with an exponent and its sign, or is the word for
what is infinite or no number. -/
theorem mem_written (x : Double) :
    '.' ∈ x.written ∨ 'e' ∈ x.written ∧ ('+' ∈ x.written ∨ '-' ∈ x.written) ∨
      'n' ∈ x.written ∧ ('a' ∈ x.written ∨ 'i' ∈ x.written) := by
  cases x with
  | nan => exact .inr (.inr (by decide))
  | infinite negative => cases negative <;> exact .inr (.inr (by decide))
  | finite negative m e =>
      -- a sign in front keeps what is in the rest
      have hsigned (body : List Char)
          (h : '.' ∈ body ∨ 'e' ∈ body ∧ ('+' ∈ body ∨ '-' ∈ body)) :
          '.' ∈ (if negative then '-' :: body else body) ∨
            'e' ∈ (if negative then '-' :: body else body) ∧
              ('+' ∈ (if negative then '-' :: body else body) ∨
                '-' ∈ (if negative then '-' :: body else body)) := by
        cases negative
        · exact h
        · exact h.imp (List.mem_cons_of_mem _) fun h =>
            ⟨List.mem_cons_of_mem _ h.1, .inr List.mem_cons_self⟩
      rw [Double.written]
      refine (hsigned _ ?_).imp id .inl
      split
      · exact .inl (by decide)
      · exact mem_layout _ _

/-- What the written forms of the values of JSON are, or at least what occurs in them. -/
theorem IsJson.written?_cases {v : Value} (h : v.IsJson) (hstr : ∀ s, v ≠ .str s) {cs : List Char}
    (hwritten : v.written? = some cs) :
    (∃ i, v = .int i ∧ writtenInt? i = some cs) ∨ cs = "None".toList ∨
      (∃ b, v = .bool b ∧ cs = if b then "True".toList else "False".toList) ∨
      (∃ x : Double, cs = x.written) ∨ ∃ c ∈ ['[', '\x7b'], c ∈ cs := by
  rw [written?] at hwritten
  cases h with
  | null =>
      rw [writtenIn?] at hwritten
      cases hwritten
      exact .inr (.inl rfl)
  | bool b =>
      rw [writtenIn?] at hwritten
      cases hwritten
      exact .inr (.inr (.inl ⟨b, rfl, rfl⟩))
  | int i =>
      rw [writtenIn?] at hwritten
      exact .inl ⟨i, rfl, hwritten⟩
  | real x =>
      rw [writtenIn?] at hwritten
      cases hwritten
      exact .inr (.inr (.inr (.inl ⟨x, rfl⟩)))
  | str s => exact absurd rfl (hstr s)
  | list h =>
      rw [writtenIn?] at hwritten
      obtain ⟨pieces, -, ⟨⟩⟩ := Option.bind_eq_some_iff.1 hwritten
      exact .inr (.inr (.inr (.inr ⟨'[', by decide, List.mem_cons_self⟩)))
  | dict hkeys hdistinct h =>
      rw [writtenIn?] at hwritten
      obtain ⟨pieces, -, ⟨⟩⟩ := Option.bind_eq_some_iff.1 hwritten
      exact .inr (.inr (.inr (.inr ⟨'\x7b', by decide, List.mem_cons_self⟩)))

/-- The written form of anything but an integer and a text is no integer literal. -/
theorem IsJson.integerLiteral?_written {v : Value} (h : v.IsJson) (hint : ∀ i, v ≠ .int i)
    (hstr : ∀ s, v ≠ .str s) {cs : List Char} (hwritten : v.written? = some cs) :
    integerLiteral? cs = none := by
  have hforeign : ∃ c ∈ cs, Foreign c := by
    rcases h.written?_cases hstr hwritten with
      ⟨i, hv, -⟩ | rfl | ⟨b, -, rfl⟩ | ⟨x, rfl⟩ | ⟨c, hc, hmem⟩
    · exact absurd hv (hint i)
    · exact ⟨'N', by decide, by decide⟩
    · cases b
      · exact ⟨'F', by decide, by decide⟩
      · exact ⟨'T', by decide, by decide⟩
    · rcases mem_written x with hmem | ⟨hmem, -⟩ | ⟨hmem, -⟩
      · exact ⟨'.', hmem, by decide⟩
      · exact ⟨'e', hmem, by decide⟩
      · exact ⟨'n', hmem, by decide⟩
    · have hall : ∀ c ∈ ['[', '\x7b'], Foreign c := by
        simp only [List.forall_mem_cons]
        exact ⟨by decide, by decide, List.forall_mem_nil _⟩
      exact ⟨c, hmem, hall c hc⟩
  obtain ⟨c, hmem, hc⟩ := hforeign
  exact integerLiteral?_of_foreign hmem hc

end DepthRules.Value
