import DepthRules.Entries
import Mathlib.Data.List.Induction

/-!
# Reading a mapping that is made of entries

Of several entries with the same key the last one counts (`get?_ofList`), so what is read at a key
is certain where all entries with that key have the same value (`get?_ofList_of_mem`). A mapping has
no other entries than those it is made of (`mem_of_mem_ofList`).
-/

namespace DepthRules.Entries

variable {κ α : Type} [DecidableEq κ] {entries : List (κ × α)} {key : κ} {value : α}

theorem mem_of_get? (h : get? entries key = some value) : (key, value) ∈ entries := by
  rw [get?, Option.map_eq_some_iff] at h
  obtain ⟨e, hfind, rfl⟩ := h
  have hkey : e.1 = key := by simpa using List.find?_some hfind
  rw [← hkey]
  exact List.mem_of_find?_eq_some hfind

theorem exists_get?_of_mem (h : (key, value) ∈ entries) :
    ∃ found, get? entries key = some found := by
  cases hget : get? entries key with
  | some found => exact ⟨found, rfl⟩
  | none =>
      rw [get?, Option.map_eq_none_iff, List.find?_eq_none] at hget
      exact absurd (decide_eq_true rfl) (hget _ h)

/-- The last entry is put into the mapping that those before it make up. -/
theorem ofList_append_singleton (entries : List (κ × α)) (e : κ × α) :
    ofList (entries ++ [e]) = insert (ofList entries) e.1 e.2 := by
  rw [ofList, List.foldl_append]
  rfl

/-- Of the entries a mapping is made of, the last one with a key counts. -/
theorem get?_ofList (entries : List (κ × α)) (key : κ) :
    get? (ofList entries) key = get? entries.reverse key := by
  induction entries using List.reverseRecOn with
  | nil => rfl
  | append_singleton entries e ih =>
      rw [ofList_append_singleton, get?_insert, List.reverse_append, List.reverse_singleton,
        List.singleton_append, get?_cons, ih]

theorem mem_of_get?_ofList (h : get? (ofList entries) key = some value) :
    (key, value) ∈ entries := by
  rw [get?_ofList] at h
  exact List.mem_reverse.1 (mem_of_get? h)

/-- A key with only one value is read with that value. -/
theorem get?_ofList_of_mem (hmem : (key, value) ∈ entries)
    (hsame : ∀ other, (key, other) ∈ entries → other = value) :
    get? (ofList entries) key = some value := by
  obtain ⟨found, hfound⟩ := exists_get?_of_mem (List.mem_reverse.2 hmem)
  rw [get?_ofList, hfound, hsame found (List.mem_reverse.1 (mem_of_get? hfound))]

/-- A key without an entry is not read. -/
theorem get?_ofList_of_not_mem (h : ∀ other, (key, other) ∉ entries) :
    get? (ofList entries) key = none := by
  cases hget : get? (ofList entries) key with
  | none => rfl
  | some found => exact absurd (mem_of_get?_ofList hget) (h found)

theorem mem_of_mem_insert {made : Entries κ α} {e : κ × α} (h : e ∈ made.insert key value) :
    e = (key, value) ∨ e ∈ made := by
  induction made with
  | nil => exact .inl (List.mem_singleton.1 h)
  | cons first rest ih =>
      obtain ⟨k, v⟩ := first
      -- either the key is that of the first entry, whose value is replaced, or it goes further down
      rw [insert] at h
      split at h
      · rename_i hkey
        rcases List.mem_cons.1 h with rfl | hrest
        · exact .inl (by rw [hkey])
        · exact .inr (List.mem_cons_of_mem _ hrest)
      · rcases List.mem_cons.1 h with rfl | hrest
        · exact .inr List.mem_cons_self
        · rcases ih hrest with heq | hmem
          · exact .inl heq
          · exact .inr (List.mem_cons_of_mem _ hmem)

/-- A mapping has no other entries than those put in. -/
theorem mem_of_mem_ofList {e : κ × α} (h : e ∈ ofList entries) : e ∈ entries := by
  induction entries using List.reverseRecOn with
  | nil => exact h
  | append_singleton entries last ih =>
      rw [ofList_append_singleton] at h
      rcases mem_of_mem_insert h with rfl | hbefore
      · exact List.mem_append_right _ (List.mem_singleton_self _)
      · exact List.mem_append_left _ (ih hbefore)

/-! ## Keys -/

theorem insert_of_not_mem {made : Entries κ α} (h : key ∉ made.keys) :
    made.insert key value = made ++ [(key, value)] := by
  induction made with
  | nil => rfl
  | cons first rest ih =>
      obtain ⟨k, v⟩ := first
      rw [keys, List.map_cons, List.mem_cons, not_or] at h
      rw [insert, if_neg fun hk => h.1 hk.symm, ih h.2, List.cons_append]

/-- Entries with keys of their own are the mapping that they make up. -/
theorem ofList_of_nodup (h : (entries.map Prod.fst).Nodup) : ofList entries = entries := by
  induction entries using List.reverseRecOn with
  | nil => rfl
  | append_singleton entries last ih =>
      rw [List.map_append, List.nodup_append] at h
      have hnot : last.1 ∉ keys entries := fun hmem => h.2.2 _ hmem _ (by simp) rfl
      rw [ofList_append_singleton, ih h.1, insert_of_not_mem hnot]

theorem keys_insert_of_mem {made : Entries κ α} (h : key ∈ made.keys) :
    (made.insert key value).keys = made.keys := by
  induction made with
  | nil => cases h
  | cons first rest ih =>
      obtain ⟨k, v⟩ := first
      rw [insert]
      split
      · rfl
      · rename_i hkey
        rcases List.mem_cons.1 h with rfl | hrest
        · exact absurd rfl hkey
        · exact congrArg (List.cons k) (ih hrest)

/-- A mapping has a key only once. -/
theorem nodup_keys_ofList (entries : List (κ × α)) : (keys (ofList entries)).Nodup := by
  induction entries using List.reverseRecOn with
  | nil => exact List.nodup_nil
  | append_singleton entries last ih =>
      rw [ofList_append_singleton]
      by_cases hkey : last.1 ∈ keys (ofList entries)
      · rwa [keys_insert_of_mem hkey]
      · rw [insert_of_not_mem hkey, keys, List.map_append]
        refine List.nodup_append.2 ⟨ih, List.pairwise_singleton _ _, fun k hk other hother => ?_⟩
        rintro rfl
        exact hkey (List.mem_singleton.1 hother ▸ hk)

end DepthRules.Entries
