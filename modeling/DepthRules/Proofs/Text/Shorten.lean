import DepthRules.Proofs.Text.Lines
import DepthRules.Text.Shorten
import Mathlib.Data.List.Basic

/-!
# Words, and texts put into one line

The words of a text are told by `HasWords` without regard to how they are found (`hasWords_iff`).
Words with single spaces between them are their own words (`words_intercalate`), and cutting such a
text off anywhere leaves words again if a word is put where it is cut (`exists_words_take_append`).
So a shortened text is made of words too, and shortening it again changes nothing
(`shorten_shorten`).
-/

namespace DepthRules.Text

variable {α : Type} [Letter α]

/-- A word: not empty, and without blanks. -/
structure IsWord (word : List α) : Prop where
  ne_nil : word ≠ []
  not_blank : ∀ c ∈ word, isBlank c = false

/-- The words of a text, with blanks between them and possibly at both ends. -/
inductive HasWords : List α → List (List α) → Prop where
  | blank {gap : List α} (hgap : ∀ c ∈ gap, isBlank c = true) : HasWords gap []
  | word {gap word rest : List α} {later : List (List α)}
      (hgap : ∀ c ∈ gap, isBlank c = true) (hword : IsWord word)
      (hend : ∀ c ∈ rest.head?, isBlank c = true) (hrest : HasWords rest later) :
      HasWords (gap ++ word ++ rest) (word :: later)

/-- The word that is open at the start of a text, and the words after it. -/
def openWords : List α → List α × List (List α)
  | [] => ([], [])
  | c :: rest =>
      if isBlank c then ([], closeWord (openWords rest).1 (openWords rest).2)
      else (c :: (openWords rest).1, (openWords rest).2)

variable {cs gap word rest : List α} {ws : List (List α)}

/-! ## The words of a text -/

/-- Reading backwards up to some place leaves the words from there on. -/
theorem wordsBefore_reverse_append (cs before : List α) :
    wordsBefore (cs.reverse ++ before) [] [] =
      wordsBefore before (openWords cs).1 (openWords cs).2 := by
  induction cs generalizing before with
  | nil => rfl
  | cons c rest ih =>
      rw [List.reverse_cons, List.append_assoc, List.singleton_append, ih, wordsBefore, openWords]
      split <;> rfl

theorem words_eq_closeWord (cs : List α) :
    words cs = closeWord (openWords cs).1 (openWords cs).2 := by
  have hread := wordsBefore_reverse_append cs []
  rwa [List.append_nil] at hread

theorem words_cons_of_blank {c : α} (hc : isBlank c = true) (rest : List α) :
    words (c :: rest) = words rest := by
  rw [words_eq_closeWord, words_eq_closeWord rest, openWords, if_pos hc]
  rfl

theorem words_append_of_blank (hgap : ∀ c ∈ gap, isBlank c = true) (rest : List α) :
    words (gap ++ rest) = words rest := by
  induction gap with
  | nil => rfl
  | cons c gap ih =>
      obtain ⟨hc, hgap⟩ := List.forall_mem_cons.1 hgap
      rw [List.cons_append, words_cons_of_blank hc, ih hgap]

/-- No word is open before a blank. -/
theorem openWords_of_blank (hend : ∀ c ∈ rest.head?, isBlank c = true) :
    openWords rest = ([], words rest) := by
  cases rest with
  | nil => rfl
  | cons c rest =>
      have hc : isBlank c = true := hend c rfl
      rw [openWords, if_pos hc, words_cons_of_blank hc, words_eq_closeWord]

theorem openWords_append (hword : ∀ c ∈ word, isBlank c = false) (rest : List α) :
    openWords (word ++ rest) = (word ++ (openWords rest).1, (openWords rest).2) := by
  induction word with
  | nil => rfl
  | cons c word ih =>
      obtain ⟨hc, hword⟩ := List.forall_mem_cons.1 hword
      rw [List.cons_append, openWords, if_neg (by simp [hc]), ih hword]
      rfl

/-- A word with a blank or nothing after it is the first of the words. -/
theorem words_append (hword : IsWord word) (hend : ∀ c ∈ rest.head?, isBlank c = true) :
    words (word ++ rest) = word :: words rest := by
  rw [words_eq_closeWord, openWords_append hword.not_blank, openWords_of_blank hend,
    List.append_nil, closeWord, if_neg (by simp [hword.ne_nil])]

theorem HasWords.words_eq (h : HasWords cs ws) : words cs = ws := by
  induction h with
  | @blank gap hgap =>
      rw [← List.append_nil gap, words_append_of_blank hgap, words_nil]
  | word hgap hword hend hrest ih =>
      rw [List.append_assoc, words_append_of_blank hgap, words_append hword hend, ih]

/-- A character more at the start of a text is a blank more, or it goes into the first word if this
one has no blanks before it, and else it is a word by itself. -/
theorem exists_hasWords_cons (c : α) (h : HasWords rest ws) :
    ∃ ws', HasWords (c :: rest) ws' := by
  by_cases hc : isBlank c = true
  · cases h with
    | blank hgap => exact ⟨[], .blank (List.forall_mem_cons.2 ⟨hc, hgap⟩)⟩
    | word hgap hword hend hrest =>
        exact ⟨_, .word (List.forall_mem_cons.2 ⟨hc, hgap⟩) hword hend hrest⟩
  · have hnot : isBlank c = false := by simpa using hc
    have hsingle : IsWord [c] := ⟨List.cons_ne_nil c [], by simpa using hnot⟩
    have hnone : ∀ x ∈ ([] : List α), isBlank x = true := fun x hx => nomatch hx
    cases h with
    | blank hgap =>
        exact ⟨[[c]], .word hnone hsingle (fun x hx => hgap x (List.mem_of_mem_head? hx))
          (.blank hgap)⟩
    | @word gap word after later hgap hword hend hrest =>
        cases gap with
        | nil =>
            have hlonger : IsWord (c :: word) :=
              ⟨List.cons_ne_nil c word, List.forall_mem_cons.2 ⟨hnot, hword.not_blank⟩⟩
            exact ⟨_, .word hnone hlonger hend hrest⟩
        | cons x gap =>
            have hx : ∀ y ∈ (x :: gap ++ word ++ after).head?, isBlank y = true := by
              rintro y ⟨⟩
              exact hgap x List.mem_cons_self
            exact ⟨_, .word hnone hsingle hx (.word hgap hword hend hrest)⟩

theorem exists_hasWords (cs : List α) : ∃ ws, HasWords cs ws := by
  induction cs with
  | nil => exact ⟨[], .blank fun x hx => nomatch hx⟩
  | cons c rest ih =>
      obtain ⟨ws, h⟩ := ih
      exact exists_hasWords_cons c h

/-- Exactly the words of a text are found. -/
theorem hasWords_iff : HasWords cs ws ↔ words cs = ws := by
  refine ⟨HasWords.words_eq, ?_⟩
  rintro rfl
  obtain ⟨ws, h⟩ := exists_hasWords cs
  rwa [h.words_eq]

theorem HasWords.isWord (h : HasWords cs ws) : ∀ w ∈ ws, IsWord w := by
  induction h with
  | blank hgap => exact fun w hw => nomatch hw
  | word hgap hword hend hrest ih => exact List.forall_mem_cons.2 ⟨hword, ih⟩

/-! ## Words with single spaces between them -/

/-- Blanks are single spaces between code points that are not blank. -/
def SingleSpaced (line : Str) : Prop :=
  ∀ (before : Str) (c : Nat) (after : Str), line = before ++ c :: after → isBlank c = true →
    c = ' ' ∧ (∃ x ∈ before.getLast?, isBlank x = false) ∧ ∃ x ∈ after.head?, isBlank x = false

variable {word : Str} {ws : List Str}

/-- Words are put together around single spaces. -/
theorem intercalate_cons_cons (w next : Str) (rest : List Str) :
    (" " : Str).intercalate (w :: next :: rest) =
      w ++ ' '.toNat :: (" " : Str).intercalate (next :: rest) := by
  rw [List.intercalate_cons_cons, List.append_assoc]
  rfl


/-- A text of words does not start with a blank. -/
theorem head?_intercalate_not_blank (h : ∀ w ∈ ws, IsWord w) (hne : ws ≠ []) :
    ∃ x ∈ ((" " : Str).intercalate ws).head?, isBlank x = false := by
  cases ws with
  | nil => exact absurd rfl hne
  | cons w rest =>
      obtain ⟨hword, hblank⟩ := h w List.mem_cons_self
      cases w with
      | nil => exact absurd rfl hword
      | cons c w =>
          refine ⟨c, ?_, hblank c List.mem_cons_self⟩
          cases rest with
          | nil => rfl
          | cons next rest => rw [intercalate_cons_cons]; rfl

theorem words_intercalate (h : ∀ w ∈ ws, IsWord w) : words ((" " : Str).intercalate ws) = ws := by
  induction ws with
  | nil => rfl
  | cons w rest ih =>
      obtain ⟨hw, hrest⟩ := List.forall_mem_cons.1 h
      cases rest with
      | nil =>
          have hlast : words (w ++ []) = w :: words [] := words_append hw fun c hc => nomatch hc
          rw [List.intercalate_singleton, ← List.append_nil w, hlast, words_nil, List.append_nil]
      | cons next rest =>
          have hspace : ∀ c ∈ (' '.toNat :: (" " : Str).intercalate (next :: rest)).head?,
              isBlank c = true := by
            rintro c ⟨⟩
            decide
          rw [intercalate_cons_cons,
            words_append hw hspace, words_cons_of_blank (by decide), ih hrest]

theorem collapse_intercalate (h : ∀ w ∈ ws, IsWord w) :
    collapse ((" " : Str).intercalate ws) = (" " : Str).intercalate ws := by
  rw [collapse, words_intercalate h]

theorem singleSpaced_intercalate (h : ∀ w ∈ ws, IsWord w) :
    SingleSpaced ((" " : Str).intercalate ws) := by
  induction ws with
  | nil =>
      intro before c after hsplit
      exact absurd hsplit (by simp)
  | cons w rest ih =>
      obtain ⟨hw, hrest⟩ := List.forall_mem_cons.1 h
      intro before c after hsplit hc
      have hnot : c ∉ w := fun hmem => by
        rw [hw.not_blank c hmem] at hc
        cases hc
      cases rest with
      | nil =>
          rw [List.intercalate_singleton] at hsplit
          exact absurd (hsplit ▸ List.mem_append_right before List.mem_cons_self) hnot
      | cons next rest =>
          have hlast : ∃ x ∈ w.getLast?, isBlank x = false :=
            ⟨w.getLast hw.ne_nil, List.getLast?_eq_some_getLast hw.ne_nil,
              hw.not_blank _ (List.getLast_mem hw.ne_nil)⟩
          have hnext := head?_intercalate_not_blank hrest (List.cons_ne_nil next rest)
          rw [intercalate_cons_cons] at hsplit
          -- the blank is in the first word, or it is the space after it, or it comes later
          rcases List.append_eq_append_iff.1 hsplit with
            ⟨part, hbefore, hafter⟩ | ⟨part, hw', hafter⟩
          · cases part with
            | nil =>
                rw [List.nil_append, List.cons.injEq] at hafter
                rw [List.append_nil] at hbefore
                rw [hbefore, ← hafter.1, ← hafter.2]
                exact ⟨rfl, hlast, hnext⟩
            | cons x part =>
                rw [List.cons_append, List.cons.injEq] at hafter
                obtain ⟨hspace, ⟨y, hy, hynot⟩, hend⟩ := ih hrest part c after hafter.2 hc
                refine ⟨hspace, ⟨y, ?_, hynot⟩, hend⟩
                rw [hbefore, List.getLast?_append, List.getLast?_cons, hy]
                rfl
          · cases part with
            | nil =>
                rw [List.nil_append, List.cons.injEq] at hafter
                rw [List.append_nil] at hw'
                rw [← hw', hafter.1, hafter.2]
                exact ⟨rfl, hlast, hnext⟩
            | cons x part =>
                rw [List.cons_append, List.cons.injEq] at hafter
                exact absurd (by rw [hw', hafter.1]; simp) hnot

/-- A text without blanks other than single spaces is one line. -/
theorem SingleSpaced.oneLine {line : Str} (h : SingleSpaced line) : OneLine line := by
  intro c hmem
  obtain ⟨before, after, hsplit⟩ := List.append_of_mem hmem
  by_contra hend
  have hblank : isBlank c = true := by
    simp only [isLineEnd, Bool.not_eq_false, Bool.or_eq_true, Bool.and_eq_true, decide_eq_true_eq,
      beq_iff_eq] at hend
    simp only [isBlank, Bool.or_eq_true, Bool.and_eq_true, decide_eq_true_eq, beq_iff_eq]
    omega
  rw [(h before c after hsplit hblank).1] at hend
  exact hend (by decide)

/-! ## Shortened texts -/

/-- The start of a word and another word make one word. -/
theorem IsWord.take_append {tail : Str} (hword : IsWord word) (htail : IsWord tail)
    (n : Nat) : IsWord (word.take n ++ tail) := by
  refine ⟨List.append_ne_nil_of_right_ne_nil _ htail.ne_nil, fun c hc => ?_⟩
  rcases List.mem_append.1 hc with hc | hc
  · exact hword.not_blank c (List.mem_of_mem_take hc)
  · exact htail.not_blank c hc

/-- Where a text of words is cut off, and a word put there, words are left. -/
theorem exists_words_take_append {tail : Str} (h : ∀ w ∈ ws, IsWord w) (htail : IsWord tail)
    (n : Nat) :
    ∃ us, us ≠ [] ∧ (∀ u ∈ us, IsWord u) ∧
      ((" " : Str).intercalate ws).take n ++ tail = (" " : Str).intercalate us := by
  induction ws generalizing n with
  | nil => exact ⟨[tail], List.cons_ne_nil _ _, by simpa using htail, by simp⟩
  | cons w rest ih =>
      obtain ⟨hw, hrest⟩ := List.forall_mem_cons.1 h
      have hone := hw.take_append htail n
      cases rest with
      | nil => exact ⟨[w.take n ++ tail], List.cons_ne_nil _ _, by simpa using hone, by simp⟩
      | cons next rest =>
          rw [intercalate_cons_cons]
          rcases Nat.lt_or_ge w.length n with hlong | hshort
          · -- the space after the word stays too, also if nothing of the next word does
            obtain ⟨k, rfl⟩ : ∃ k, n = w.length + (k + 1) := ⟨n - w.length - 1, by omega⟩
            obtain ⟨us, hne, hus, heq⟩ := ih hrest k
            refine ⟨w :: us, List.cons_ne_nil _ _, List.forall_mem_cons.2 ⟨hw, hus⟩, ?_⟩
            rw [List.take_length_add_append, List.take_succ_cons, List.append_assoc,
              List.cons_append, heq, List.intercalate_cons_of_ne_nil hne, List.append_assoc]
            rfl
          · rw [List.take_append_of_le_length hshort]
            exact ⟨[w.take n ++ tail], List.cons_ne_nil _ _, by simpa using hone, by simp⟩

theorem isWord_points : IsWord ("..." : Str) := ⟨by decide, by decide⟩

variable {limit : Int} {s : Str}

theorem shorten_of_le (h : ((collapse s).length : Int) ≤ limit) :
    shorten limit s = collapse s := by
  rw [shorten, if_neg (by omega)]

theorem shorten_of_lt (hlimit : 3 ≤ limit) (h : limit < (collapse s).length) :
    shorten limit s = (collapse s).take (limit - 3).toNat ++ "..." := by
  rw [shorten, if_pos h, takeSigned, if_pos (by omega)]

theorem length_shorten_le (hlimit : 3 ≤ limit) (s : Str) :
    ((shorten limit s).length : Int) ≤ limit := by
  rcases Int.lt_or_le limit (collapse s).length with h | h
  · rw [shorten_of_lt hlimit h, List.length_append, List.length_take]
    have hpoints : List.length ("..." : Str) = 3 := rfl
    omega
  · rwa [shorten_of_le h]

/-- A text in one line is kept as it is just if it is not too long. -/
theorem shorten_eq_collapse_iff (hlimit : 3 ≤ limit) :
    shorten limit s = collapse s ↔ ((collapse s).length : Int) ≤ limit := by
  refine ⟨fun h => ?_, shorten_of_le⟩
  rw [← h]
  exact length_shorten_le hlimit s

/-- A shortened text is made of words. -/
theorem exists_words_shorten (hlimit : 3 ≤ limit) (s : Str) :
    ∃ us, (∀ u ∈ us, IsWord u) ∧ shorten limit s = (" " : Str).intercalate us := by
  have hwords : ∀ w ∈ words s, IsWord w := (hasWords_iff.2 rfl).isWord
  rcases Int.lt_or_le limit (collapse s).length with h | h
  · obtain ⟨us, -, hus, heq⟩ := exists_words_take_append hwords isWord_points (limit - 3).toNat
    exact ⟨us, hus, (shorten_of_lt hlimit h).trans heq⟩
  · exact ⟨words s, hwords, shorten_of_le h⟩

theorem singleSpaced_shorten (hlimit : 3 ≤ limit) (s : Str) :
    SingleSpaced (shorten limit s) := by
  obtain ⟨us, hus, heq⟩ := exists_words_shorten hlimit s
  rw [heq]
  exact singleSpaced_intercalate hus

/-- Shortening a shortened text changes nothing. -/
theorem shorten_shorten (hlimit : 3 ≤ limit) (s : Str) :
    shorten limit (shorten limit s) = shorten limit s := by
  -- a text of words is in one line already, and short enough
  obtain ⟨us, hus, heq⟩ := exists_words_shorten hlimit s
  have hcollapse : collapse (shorten limit s) = shorten limit s := by
    rw [heq, collapse_intercalate hus]
  rw [shorten_of_le (by rw [hcollapse]; exact length_shorten_le hlimit s), hcollapse]

end DepthRules.Text
