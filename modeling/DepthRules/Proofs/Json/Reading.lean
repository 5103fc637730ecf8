import DepthRules.Proofs.Entries
import DepthRules.Proofs.Json.Layout

/-!
# Reading what has been written

`decode?` is the decoder of the standard: it sets no limit to the digits of a whole number. It gives
back every plain value from its text, on one line as well as over several
(`decode?_of_toString?`). A value has a text unless it has an integer with more digits than are
written.

`Reads cs j` says that a value's text is read as the value wherever it stands, and `ReadsItems` and
`ReadsMembers` say the same of what stands between the brackets. These are put together in the way
the text is, one lemma for each form of an array or object, and every layout keeps them
(`Layout.reads_write`).
-/

namespace DepthRules.Json

open Text

/-- What texts mean to a decoder without a limit to the digits of a number. -/
def exactMeaning : Meaning Json := { meaning with mostDigits := none }

/-- All characters are blanks. -/
def IsGap (gap : List Char) : Prop := ∀ c ∈ gap, isSpace c = true

theorem isGap_nil : IsGap [] := List.forall_mem_nil _

/-- The text starts with a character that is neither a blank nor a closing bracket. -/
def Starts (cs : List Char) : Prop :=
  ∃ c more, cs = c :: more ∧ isSpace c = false ∧ c ≠ ']' ∧ c ≠ '\x7d'

theorem Starts.append {cs : List Char} (h : Starts cs) (ds : List Char) : Starts (cs ++ ds) := by
  obtain ⟨c, more, rfl, hc⟩ := h
  exact ⟨c, more ++ ds, rfl, hc⟩

/-! ## Blanks -/

theorem skipSpace_gap {gap : List Char} (h : IsGap gap) (cs : List Char) :
    skipSpace (gap ++ cs) = skipSpace cs := List.dropWhile_append_of_pos h

theorem skipSpace_cons {c : Char} (h : isSpace c = false) (cs : List Char) :
    skipSpace (c :: cs) = c :: cs := by
  rw [skipSpace, List.dropWhile_cons, h]
  rfl

theorem Starts.skipSpace {cs : List Char} (h : Starts cs) (ds : List Char) :
    skipSpace (cs ++ ds) = cs ++ ds := by
  obtain ⟨c, more, rfl, hc, -⟩ := h
  exact skipSpace_cons hc _

theorem endsNumber_cons {c : Char}
    (h : isSpace c = true ∨ c = ',' ∨ c = ']' ∨ c = '\x7d') (cs : List Char) :
    EndsNumber (c :: cs) := by
  simp only [isSpace, Bool.or_eq_true, beq_iff_eq] at h
  constructor <;> rintro d ⟨⟩ <;>
    rcases h with (((rfl | rfl) | rfl) | rfl) | rfl | rfl | rfl <;> decide

/-- A number ends before blanks and what ends an item. -/
theorem endsNumber_gap {gap : List Char} (hgap : IsGap gap) {c : Char}
    (h : c = ',' ∨ c = ']' ∨ c = '\x7d') (cs : List Char) : EndsNumber (gap ++ c :: cs) := by
  cases gap with
  | nil => exact endsNumber_cons (.inr h) cs
  | cons d gap => exact endsNumber_cons (.inl (hgap d List.mem_cons_self)) _

/-- The text is read as the value, wherever it stands. -/
structure Reads (cs : List Char) (j : Json) : Prop where
  starts : Starts cs
  reads : ∀ fuel rest, cs.length < fuel → EndsNumber rest →
    readValue? exactMeaning fuel (cs ++ rest) = some (j, rest)

/-- The text is read as items and the bracket that closes their array. -/
def ReadsItems (cs : List Char) (items : List Json) : Prop :=
  ∀ fuel rest, cs.length < fuel → readItems? exactMeaning fuel (cs ++ rest) = some (items, rest)

/-- The text is read as members and the brace that closes their object. -/
def ReadsMembers (cs : List Char) (members : List (Str × Json)) : Prop :=
  ∀ fuel rest, cs.length < fuel → readMembers? exactMeaning fuel (cs ++ rest) =
    some (members, rest)

/-! ## Scalars -/

theorem readValue?_of_scalar {c : Char} (hquote : c ≠ '"') (hbracket : c ≠ '[')
    (hbrace : c ≠ '\x7b') (fuel : Nat) (cs : List Char) :
    readValue? exactMeaning (fuel + 1) (c :: cs) = readScalar? exactMeaning (c :: cs) := by
  rw [readValue?]
  · rintro rest ⟨rfl, rfl⟩
    exact hquote rfl
  · rintro rest ⟨rfl, rfl⟩
    exact hbracket rfl
  · rintro rest ⟨rfl, rfl⟩
    exact hbrace rfl

/-- A text that starts with none of the three marks is read as a scalar. -/
theorem reads_of_readScalar? {c : Char} {cs : List Char} {j : Json}
    (hc : isSpace c = false ∧ c ≠ ']' ∧ c ≠ '\x7d') (hquote : c ≠ '"') (hbracket : c ≠ '[')
    (hbrace : c ≠ '\x7b')
    (h : ∀ rest, EndsNumber rest →
      readScalar? exactMeaning (c :: cs ++ rest) = some (j, rest)) : Reads (c :: cs) j where
  starts := ⟨c, cs, rfl, hc⟩
  reads fuel rest hfuel hrest := by
    obtain ⟨fuel, rfl⟩ := Nat.exists_eq_add_one.2 (Nat.zero_lt_of_lt hfuel)
    rw [List.cons_append, readValue?_of_scalar hquote hbracket hbrace]
    exact h rest hrest

theorem reads_null : Reads "null".toList .null :=
  reads_of_readScalar? (by decide) (by decide) (by decide) (by decide) fun _ _ => rfl

theorem reads_bool : ∀ b : Bool, Reads (writtenScalar (.bool b)) (.bool b)
  | true => reads_of_readScalar? (by decide) (by decide) (by decide) (by decide) fun _ _ => rfl
  | false => reads_of_readScalar? (by decide) (by decide) (by decide) (by decide) fun _ _ => rfl

theorem reads_int (i : Int) : Reads (writtenInt i) (.int i) := by
  have hread : ∀ rest, EndsNumber rest →
      readScalar? exactMeaning (writtenInt i ++ rest) = some (.int i, rest) :=
    fun rest hrest => readScalar?_writtenInt rfl i hrest
  -- a minus sign or a digit is none of the marks at which something else starts
  obtain ⟨c, more, hwritten, hc⟩ := writtenInt_start i
  have hne : ∀ d : Char, d ≠ '-' → d.isDigit = false → c ≠ d := by
    rintro d hminus hdigit rfl
    rcases hc with hsame | hsome
    · exact hminus hsame
    · rw [hsome] at hdigit
      cases hdigit
  have hspace : isSpace c = false := by
    simp [isSpace, hne]
  rw [hwritten] at hread ⊢
  exact reads_of_readScalar?
    ⟨hspace, hne _ (by decide) (by decide), hne _ (by decide) (by decide)⟩
    (hne _ (by decide) (by decide)) (hne _ (by decide) (by decide)) (hne _ (by decide) (by decide))
    fun rest hrest => hread rest hrest

theorem readString?_writtenString {s : Str} (hs : s.IsChars) (rest : List Char) :
    readString? ((s.flatMap escapedCode ++ '"' :: rest).length + 1)
      (s.flatMap escapedCode ++ '"' :: rest) [] = some (s, rest) := by
  have hlength := length_le_flatMap_escapedCode s
  refine readString?_written hs ?_ rest []
  simp only [List.length_append]
  omega

theorem writtenString_append (s : Str) (rest : List Char) :
    writtenString s ++ rest = '"' :: (s.flatMap escapedCode ++ '"' :: rest) := by
  simp [writtenString]

theorem starts_writtenString (s : Str) : Starts (writtenString s) :=
  ⟨_, _, rfl, by decide, by decide, by decide⟩

theorem reads_str {s : Str} (hs : s.IsChars) : Reads (writtenString s) (.str s) where
  starts := starts_writtenString s
  reads fuel rest hfuel _ := by
    obtain ⟨fuel, rfl⟩ := Nat.exists_eq_add_one.2 (Nat.zero_lt_of_lt hfuel)
    rw [writtenString_append, readValue?, readString?_writtenString hs]
    simp [exactMeaning, meaning]

/-! ## Arrays -/

theorem reads_empty_arr : Reads ['[', ']'] (.arr []) where
  starts := ⟨_, _, rfl, by decide, by decide, by decide⟩
  reads fuel rest hfuel _ := by
    obtain ⟨fuel, rfl⟩ := Nat.exists_eq_add_one.2 (Nat.zero_lt_of_lt hfuel)
    rfl

/-- An item is read, and what follows it decides whether there are more. -/
theorem Reads.item {cs : List Char} {j : Json} (h : Reads cs j) {before : List Char}
    (hbefore : IsGap before) {fuel : Nat} (hfuel : cs.length < fuel) {tail : List Char}
    (htail : EndsNumber tail) :
    readItems? exactMeaning (fuel + 1) (before ++ (cs ++ tail)) =
      match skipSpace tail with
      | ',' :: rest => (readItems? exactMeaning fuel rest).map fun read => (j :: read.1, read.2)
      | ']' :: rest => some ([j], rest)
      | _ => none := by
  rw [readItems?, skipSpace_gap hbefore, h.starts.skipSpace, h.reads fuel tail hfuel htail,
    Option.bind_eq_bind, Option.bind_some]
  simp only [Option.bind_eq_bind, Option.pure_def, Option.map_eq_bind]
  rfl

theorem Reads.last_item {cs : List Char} {j : Json} (h : Reads cs j) {before after : List Char}
    (hbefore : IsGap before) (hafter : IsGap after) :
    ReadsItems (before ++ (cs ++ (after ++ [']']))) [j] := by
  intro fuel rest hfuel
  obtain ⟨fuel, rfl⟩ := Nat.exists_eq_add_one.2 (Nat.zero_lt_of_lt hfuel)
  simp only [List.length_append, List.length_singleton] at hfuel
  have hclose : skipSpace (after ++ ']' :: rest) = ']' :: rest := by
    rw [skipSpace_gap hafter, skipSpace_cons (by decide)]
  simp only [List.append_assoc, List.singleton_append]
  rw [h.item hbefore (by omega) (endsNumber_gap hafter (by simp) rest), hclose]
  rfl

theorem Reads.next_item {cs ds : List Char} {j : Json} {items : List Json} (h : Reads cs j)
    {before : List Char} (hbefore : IsGap before) (hitems : ReadsItems ds items) :
    ReadsItems (before ++ (cs ++ ',' :: ds)) (j :: items) := by
  intro fuel rest hfuel
  obtain ⟨fuel, rfl⟩ := Nat.exists_eq_add_one.2 (Nat.zero_lt_of_lt hfuel)
  simp only [List.length_append, List.length_cons] at hfuel
  have hcomma : skipSpace (',' :: (ds ++ rest)) = ',' :: (ds ++ rest) :=
    skipSpace_cons (by decide) _
  simp only [List.append_assoc, List.cons_append]
  rw [h.item hbefore (by omega) (endsNumber_cons (by simp) _), hcomma]
  simp only [hitems fuel rest (by omega), Option.map_some]

theorem ReadsItems.arr {cs : List Char} {items : List Json} (h : ReadsItems cs items)
    (hstarts : Starts cs) {gap : List Char} (hgap : IsGap gap) :
    Reads ('[' :: (gap ++ cs)) (.arr items) where
  starts := ⟨_, _, rfl, by decide, by decide, by decide⟩
  reads fuel rest hfuel _ := by
    obtain ⟨fuel, rfl⟩ := Nat.exists_eq_add_one.2 (Nat.zero_lt_of_lt hfuel)
    simp only [List.length_append, List.length_cons] at hfuel
    have hopen : skipSpace (gap ++ (cs ++ rest)) = cs ++ rest := by
      rw [skipSpace_gap hgap, hstarts.skipSpace]
    obtain ⟨c, more, rfl, -, hc, -⟩ := hstarts
    rw [List.cons_append, List.append_assoc, readValue?, hopen, List.cons_append]
    -- a bracket right here would close an array without items
    split
    · rename_i heq
      cases heq
      exact absurd rfl hc
    · rw [← List.cons_append, h fuel rest (by omega)]
      rfl

/-! ## Objects -/

theorem reads_empty_obj : Reads ['\x7b', '\x7d'] (.obj []) where
  starts := ⟨_, _, rfl, by decide, by decide, by decide⟩
  reads fuel rest hfuel _ := by
    obtain ⟨fuel, rfl⟩ := Nat.exists_eq_add_one.2 (Nat.zero_lt_of_lt hfuel)
    rfl

/-- A member is read, and what follows it decides whether there are more. -/
theorem Reads.member {cs : List Char} {j : Json} (h : Reads cs j) {name : Str}
    (hname : name.IsChars) {before : List Char} (hbefore : IsGap before) {fuel : Nat}
    (hfuel : cs.length < fuel) {tail : List Char} (htail : EndsNumber tail) :
    readMembers? exactMeaning (fuel + 1)
        (before ++ (writtenString name ++ ':' :: ' ' :: (cs ++ tail))) =
      match skipSpace tail with
      | ',' :: rest =>
          (readMembers? exactMeaning fuel rest).map fun read => ((name, j) :: read.1, read.2)
      | '\x7d' :: rest => some ([(name, j)], rest)
      | _ => none := by
  have hvalue : skipSpace (' ' :: (cs ++ tail)) = cs ++ tail := h.starts.skipSpace tail
  rw [readMembers?, skipSpace_gap hbefore, (starts_writtenString name).skipSpace,
    writtenString_append]
  simp only [readString?_writtenString hname, Option.bind_eq_bind, Option.bind_some,
    skipSpace_cons (c := ':') (by decide), hvalue, h.reads fuel tail hfuel htail, Option.pure_def,
    Option.map_eq_bind]
  rfl

theorem Reads.last_member {cs : List Char} {j : Json} (h : Reads cs j) {name : Str}
    (hname : name.IsChars) {before after : List Char} (hbefore : IsGap before)
    (hafter : IsGap after) :
    ReadsMembers (before ++ (writtenString name ++ ':' :: ' ' :: (cs ++ (after ++ ['\x7d']))))
      [(name, j)] := by
  intro fuel rest hfuel
  obtain ⟨fuel, rfl⟩ := Nat.exists_eq_add_one.2 (Nat.zero_lt_of_lt hfuel)
  simp only [List.length_append, List.length_cons, List.length_nil] at hfuel
  have hclose : skipSpace (after ++ '\x7d' :: rest) = '\x7d' :: rest := by
    rw [skipSpace_gap hafter, skipSpace_cons (by decide)]
  simp only [List.append_assoc, List.cons_append, List.nil_append]
  rw [h.member hname hbefore (by omega) (endsNumber_gap hafter (by simp) rest), hclose]
  rfl

theorem Reads.next_member {cs ds : List Char} {j : Json} {members : List (Str × Json)}
    (h : Reads cs j) {name : Str} (hname : name.IsChars) {before : List Char}
    (hbefore : IsGap before)
    (hmembers : ReadsMembers ds members) :
    ReadsMembers (before ++ (writtenString name ++ ':' :: ' ' :: (cs ++ ',' :: ds)))
      ((name, j) :: members) := by
  intro fuel rest hfuel
  obtain ⟨fuel, rfl⟩ := Nat.exists_eq_add_one.2 (Nat.zero_lt_of_lt hfuel)
  simp only [List.length_append, List.length_cons] at hfuel
  have hcomma : skipSpace (',' :: (ds ++ rest)) = ',' :: (ds ++ rest) :=
    skipSpace_cons (by decide) _
  simp only [List.append_assoc, List.cons_append]
  rw [h.member hname hbefore (by omega) (endsNumber_cons (by simp) _), hcomma]
  simp only [hmembers fuel rest (by omega), Option.map_some]

theorem ReadsMembers.obj {cs : List Char} {members : List (Str × Json)}
    (h : ReadsMembers cs members) (hnames : (members.map Prod.fst).Nodup) (hstarts : Starts cs)
    {gap : List Char} (hgap : IsGap gap) : Reads ('\x7b' :: (gap ++ cs)) (.obj members) where
  starts := ⟨_, _, rfl, by decide, by decide, by decide⟩
  reads fuel rest hfuel _ := by
    obtain ⟨fuel, rfl⟩ := Nat.exists_eq_add_one.2 (Nat.zero_lt_of_lt hfuel)
    simp only [List.length_append, List.length_cons] at hfuel
    have hopen : skipSpace (gap ++ (cs ++ rest)) = cs ++ rest := by
      rw [skipSpace_gap hgap, hstarts.skipSpace]
    -- no name is written twice, so that merging the members changes nothing
    have hmembers : exactMeaning.obj members = .obj members :=
      congrArg Json.obj (Entries.ofList_of_nodup hnames)
    obtain ⟨c, more, rfl, -, -, hc⟩ := hstarts
    rw [List.cons_append, List.append_assoc, readValue?, hopen, List.cons_append]
    split
    · rename_i heq
      cases heq
      exact absurd rfl hc
    · rw [← List.cons_append, h fuel rest (by omega), ← hmembers]
      rfl

/-! ## Layouts -/

namespace Layout

variable (l : Layout)

mutual

/-- The text of a plain value in a layout is read as the value. -/
theorem reads_write (level : Nat) : ∀ j : Json, j.Plain → Reads (l.write level j) j
  | .null, _ => reads_null
  | .bool b, _ => reads_bool b
  | .int i, _ => reads_int i
  | .str _, h => reads_str h
  | .arr [], _ => reads_empty_arr
  | .arr (j :: rest), h => by
      have hj := reads_write (level + 1) j h.1
      have hitems := reads_writeItems (level + 1) rest h.2 hj isGap_nil (l.edge_blank level)
      have harr := hitems.arr (hj.starts.append _) (l.edge_blank (level + 1))
      simpa [write] using harr
  | .obj [], _ => reads_empty_obj
  | .obj ((name, j) :: rest), h => by
      have hj := reads_write (level + 1) j h.2.1.2
      have hmembers := reads_writeMembers (level + 1) rest h.2.2 h.2.1.1 hj isGap_nil
        (l.edge_blank level)
      have hobj := hmembers.obj h.1 ((starts_writtenString name).append _)
        (l.edge_blank (level + 1))
      simpa [write] using hobj

/-- An item and the further items are read, up to the bracket. -/
theorem reads_writeItems (level : Nat) : ∀ rest : List Json, PlainItems rest →
    ∀ {cs : List Char} {j : Json}, Reads cs j →
    ∀ {before after : List Char}, IsGap before → IsGap after →
      ReadsItems (before ++ (cs ++ (l.writeItems level rest ++ (after ++ [']'])))) (j :: rest)
  | [], _, _, _, hj, _, _, hbefore, hafter => hj.last_item hbefore hafter
  | j :: rest, h, _, _, hfirst, _, _, hbefore, hafter => by
      have hj := reads_write level j h.1
      have hitems := reads_writeItems level rest h.2 hj (l.between_blank level) hafter
      have hnext := hfirst.next_item hbefore hitems
      simpa [writeItems] using hnext

/-- A member and the further members are read, up to the brace. -/
theorem reads_writeMembers (level : Nat) : ∀ rest : List (Str × Json), PlainMembers rest →
    ∀ {cs : List Char} {j : Json} {name : Str}, name.IsChars → Reads cs j →
    ∀ {before after : List Char}, IsGap before → IsGap after →
      ReadsMembers (before ++ (writtenString name ++ ':' :: ' ' ::
        (cs ++ (l.writeMembers level rest ++ (after ++ ['\x7d']))))) ((name, j) :: rest)
  | [], _, _, _, _, hname, hj, _, _, hbefore, hafter => hj.last_member hname hbefore hafter
  | (_, j) :: rest, h, _, _, _, hname, hfirst, _, _, hbefore, hafter => by
      have hj := reads_write level j h.1.2
      have hmembers := reads_writeMembers level rest h.2 h.1.1 hj (l.between_blank level) hafter
      have hnext := hfirst.next_member hname hbefore hmembers
      simpa [writeMembers] using hnext

end

end Layout

end DepthRules.Json
