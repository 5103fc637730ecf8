import DepthRules.Console.Terminal
import DepthRules.Proofs.Console.Display
import DepthRules.Proofs.Console.Markup

/-!
# Tags of what the console is given

A text that needs no escape adds no tag to a markup (`inert_of_escape_eq`), so that only the tags of
the fixed parts are left, and of these every one that closes a style closes the one that was opened
last. So all that the console is given can be shown, unless a text that is put in as it stands would
need an escape (`Display.accepts`).
-/

namespace DepthRules.Console

open Text

/-! ## Texts without tags -/

theorem closes_append {rest : Str} (h : closes rest = false) (s : Str) :
    closes (s ++ rest) = closes s := by
  induction s with
  | nil => exact h
  | cons c s ih => rw [List.cons_append, closes, closes, ih]

theorem isTag_eq_false {rest : Str} (h : closes rest = false) : isTag rest = false := by
  cases rest with
  | nil => rfl
  | cons c rest =>
      rw [closes] at h
      rw [isTag, Bool.and_eq_false_iff]
      split at h
      · cases h
      · split at h
        · rename_i hbracket
          exact .inl (beq_iff_eq.1 hbracket ▸ rfl)
        · exact .inr h

theorem isTag_append {rest : Str} (h : closes rest = false) (s : Str) :
    isTag (s ++ rest) = isTag s := by
  cases s with
  | nil => exact isTag_eq_false h
  | cons c s => rw [List.cons_append, isTag, isTag, closes_append h]

theorem tagsFrom_slashes (position slashes n : Nat) (s : Str) :
    tagsFrom position slashes none (List.replicate n '\\'.toNat ++ s) =
      tagsFrom (position + n) (slashes + n) none s := by
  induction n generalizing position slashes with
  | zero => rfl
  | succ n ih =>
      have hnext := ih (position + 1) (slashes + 1)
      rw [Nat.add_right_comm, Nat.add_right_comm slashes] at hnext
      exact hnext

/-- A text adds no tag to a markup, where a tag opens before one closes after it. -/
def Inert (s : Str) : Prop :=
  ∀ position rest, closes rest = false → ∃ after slashes,
    tagsFrom position 0 none (s ++ rest) = tagsFrom after slashes none rest

/-- The escape of a text has no tags, whatever backslashes are pending. -/
theorem inert_escapeFrom (n : Nat) (s : Str) : Inert (escapeFrom n s) := by
  intro position rest hrest
  induction s generalizing n position with
  | nil => exact ⟨_, _, tagsFrom_slashes position 0 n rest⟩
  | cons c s ih =>
      rw [escapeFrom]
      split
      · exact ih (n + 1) position
      · rename_i hslash
        split
        · -- the number of backslashes before the bracket is odd
          obtain ⟨after, slashes, hafter⟩ := ih 0 (position + (2 * n + 1) + 1)
          refine ⟨after, slashes, ?_⟩
          have hodd : (0 + (2 * n + 1)) % 2 = 1 := by omega
          rw [List.append_assoc, tagsFrom_slashes, List.cons_append, tagsFrom, if_neg (by decide),
            hodd, if_neg (by simp), hafter]
        · rename_i htag
          obtain ⟨after, slashes, hafter⟩ := ih 0 (position + n + 1)
          refine ⟨after, slashes, ?_⟩
          rw [List.append_assoc, tagsFrom_slashes, List.cons_append, tagsFrom, if_neg hslash,
            isTag_append hrest, isTag_escapeFrom, if_neg (by simp_all), hafter]

theorem inert_escape (s : Str) : Inert (escape s) := by
  rw [escape]
  split
  · rw [← escapeFrom_append_slash]
    exact inert_escapeFrom 0 _
  · exact inert_escapeFrom 0 s

/-- A text that needs no escape has no tags. -/
theorem inert_of_escape_eq {s : Str} (h : escape s = s) : Inert s := h ▸ inert_escape s

/-- A text without brackets that open and without backslashes. -/
def IsPlain (s : Str) : Prop := ∀ c ∈ s, c ≠ '['.toNat ∧ c ≠ '\\'.toNat

instance (s : Str) : Decidable (IsPlain s) := List.decidableBAll _ s

/-- A plain text is passed over. -/
theorem tagsFrom_plain {s : Str} (h : IsPlain s) (position : Nat) (rest : Str) :
    tagsFrom position 0 none (s ++ rest) = tagsFrom (position + s.length) 0 none rest := by
  induction s generalizing position with
  | nil => rfl
  | cons c s ih =>
      obtain ⟨⟨hbracket, hslash⟩, hs⟩ := List.forall_mem_cons.1 h
      rw [List.cons_append, tagsFrom, beq_false_of_ne hslash, beq_false_of_ne hbracket,
        List.length_cons, Nat.add_comm s.length, ← Nat.add_assoc, ← ih hs]
      rfl

theorem isPlain_toString (n : Nat) : IsPlain (toString n : String) := by
  intro c hc
  obtain ⟨digit, hdigit, rfl⟩ := List.mem_map.1 hc
  rw [Nat.toString_eq_ofList_toDigits, String.toList_ofList] at hdigit
  have hlast : digit.toNat ≤ '9'.toNat :=
    (Char.isDigit_iff_toNat.1 (Nat.isDigit_of_mem_toDigits (by decide) (by decide) hdigit)).2
  exact ⟨Nat.ne_of_lt (Nat.lt_of_le_of_lt hlast (by decide)),
    Nat.ne_of_lt (Nat.lt_of_le_of_lt hlast (by decide))⟩

theorem IsPlain.inert {s : Str} (h : IsPlain s) : Inert s :=
  fun position rest _ => ⟨_, 0, tagsFrom_plain h position rest⟩

/-- Nothing is left of an inert text at the end of a markup. -/
theorem Inert.exists_tagsFrom {s : Str} (h : Inert s) (position : Nat) :
    ∃ after slashes, tagsFrom position 0 none s = tagsFrom after slashes none [] := by
  obtain ⟨after, slashes, hafter⟩ := h position [] rfl
  rw [List.append_nil] at hafter
  exact ⟨after, slashes, hafter⟩

/-- A markup that is an inert text has no tags at all. -/
theorem Inert.tags_eq_nil {s : Str} (h : Inert s) : tags s = [] := by
  obtain ⟨after, slashes, hafter⟩ := h.exists_tagsFrom 0
  rw [tags, hafter]
  cases slashes <;> rfl

/-! ## Pairs of tags -/

/-- Without parameters there is nothing to be said of a tag when it is closed. -/
theorem complaintAt?_of_no_parameters (styles : Styles) (position : Nat) (name : Str) :
    styles.complaintAt? ⟨position, name, none⟩ = none := by
  rw [Styles.complaintAt?]
  split <;> rfl

theorem isClosing_eq_false {name : Str} (h : name.head? ≠ some '/'.toNat) {position : Nat}
    {parameters : Option Str} : (⟨position, name, parameters⟩ : Tag).isClosing = false := by
  rw [Tag.isClosing]
  cases hhead : name.head? with
  | none => rfl
  | some c => exact beq_false_of_ne fun heq => h (hhead.trans (congrArg some heq))

theorem faultFrom?_opening (styles : Styles) (opened : List Tag) {name : Str}
    (hname : name.head? ≠ some '/'.toNat) (position : Nat) (rest : List Tag) :
    styles.faultFrom? opened (⟨position, name, none⟩ :: rest) =
      styles.faultFrom? (⟨position, styles.normalize name, none⟩ :: opened) rest := by
  rw [Styles.faultFrom?, isClosing_eq_false hname]
  rfl

/-- A tag that closes the style that was opened last changes nothing. -/
theorem faultFrom?_pair (styles : Styles) (opened : List Tag) {name : Str}
    (hname : name.head? ≠ some '/'.toNat) (htrim : trim name = name) (position close : Nat)
    (rest : List Tag) :
    styles.faultFrom? opened
        (⟨position, name, none⟩ :: ⟨close, '/'.toNat :: name, none⟩ :: rest) =
      styles.faultFrom? opened rest := by
  have hclosed : (⟨close, '/'.toNat :: name, none⟩ : Tag).closed = name := htrim
  have hends : (name.isEmpty || styles.normalize name == styles.normalize name) = true := by simp
  have hclose : styles.close ⟨close, '/'.toNat :: name, none⟩
      (⟨position, styles.normalize name, none⟩ :: opened) = .ok opened := by
    simp only [Styles.close, hclosed, List.find?_cons, hends, complaintAt?_of_no_parameters,
      List.eraseP_cons, cond_true]
  rw [faultFrom?_opening styles opened hname, Styles.faultFrom?, hclose]
  rfl

/-! ## Lines -/

/-- The item can be shown with these styles. -/
def Styles.Accepts (styles : Styles) (item : Item) : Prop :=
  ∀ markup ∈ item.markups, styles.markupFault? markup = none

theorem accepts_line {styles : Styles} {markup : Str} :
    styles.Accepts (.line markup) ↔ styles.faultFrom? [] (tags markup) = none :=
  List.forall_mem_singleton

/-- A complaint can be shown if what is complained of has no tags. -/
theorem accepts_complaint (styles : Styles) {markup : Str}
    (h : ∃ after slashes, tagsFrom 28 0 none markup = tagsFrom after slashes none []) :
    styles.Accepts (complaint markup) := by
  obtain ⟨after, slashes, hafter⟩ := h
  have htags : tags ("[bold red]Error:[/bold red] " ++ markup) =
      ⟨0, "bold red", none⟩ :: ⟨16, "/bold red", none⟩ :: tagsFrom 28 0 none markup := rfl
  rw [complaint, accepts_line, htags, hafter]
  exact faultFrom?_pair styles [] (by decide) (by decide) 0 16 _

theorem accepts_noRules (styles : Styles) : styles.Accepts noRules :=
  accepts_complaint styles ⟨0, 0, rfl⟩

theorem accepts_failed (styles : Styles) (message : Str) : styles.Accepts (failed message) :=
  accepts_complaint styles ((inert_escape message).exists_tagsFrom 28)

theorem accepts_notLoaded (styles : Styles) (message : Str) :
    styles.Accepts (notLoaded message) :=
  -- the words before the message have no brackets
  accepts_complaint styles ((inert_escape message).exists_tagsFrom 50)

/-- A bracket that would open a tag does so after an even number of backslashes. -/
theorem tagsFrom_bracket (rest : Str) (h : isTag rest = true) (position slashes : Nat) :
    tagsFrom position slashes none ('['.toNat :: rest) =
      if slashes % 2 = 0 then tagsFrom (position + 1) 0 (some (position, [])) rest
      else tagsFrom (position + 1) 0 none rest := by
  rw [tagsFrom, if_neg (by decide), h]
  by_cases heven : slashes % 2 = 0 <;> simp [heven]

/-- The end of the dim style, which does not count as a tag after an odd number of backslashes. -/
theorem tagsFrom_dim_end (position slashes : Nat) :
    tagsFrom position slashes none "[/dim]" =
      if slashes % 2 = 0 then [⟨position, "/dim", none⟩] else [] :=
  tagsFrom_bracket "/dim]" rfl position slashes

/-- A rule in the list of rules can be shown if its written form has no tags. -/
theorem accepts_ruleLine (styles : Styles) {d : Declaration} (h : Inert d.text) :
    styles.Accepts (ruleLine d) := by
  have htags : ∀ rest : Str, tags ("  [cyan]•[/cyan] " ++ rest) =
      ⟨2, "cyan", none⟩ :: ⟨9, "/cyan", none⟩ :: tagsFrom 17 0 none rest := fun _ => rfl
  have hdim : ∀ position slashes (rest : Str), tagsFrom position slashes none (" [dim]" ++ rest) =
      ⟨position + 1, "dim", none⟩ :: tagsFrom (position + 6) 0 none rest := fun _ _ _ => rfl
  obtain ⟨middle, slashes, hlabel⟩ := inert_escape d.label 17 (" [dim]" ++ (d.text ++ "[/dim]")) rfl
  obtain ⟨last, slashes', htext⟩ := h (middle + 6) "[/dim]" rfl
  simp only [ruleLine, accepts_line, List.append_assoc]
  -- the tags of the line are those of its fixed parts, the last of which may not count
  rw [htags, hlabel, hdim, htext, tagsFrom_dim_end]
  refine (faultFrom?_pair styles [] (by decide) (by decide) 2 9 _).trans ?_
  split
  · exact faultFrom?_pair styles [] (by decide) (by decide) _ _ []
  · exact faultFrom?_opening styles [] (by decide) _ []

/-- The list of rules can be shown if the written forms of the rules have no tags. -/
theorem accepts_ruleList (styles : Styles) {declarations : List Declaration}
    (h : ∀ d ∈ declarations, Inert d.text) :
    ∀ item ∈ ruleList declarations, styles.Accepts item := by
  rw [ruleList]
  refine List.forall_mem_cons.2 ⟨?_, List.forall_mem_append.2 ⟨?_, ?_⟩⟩
  · have htags : ∀ rest : Str, tags ("\n[bold blue]Rules (" ++ rest) =
        ⟨1, "bold blue", none⟩ :: tagsFrom 19 0 none rest := fun _ => rfl
    have hlast : ∀ position, tagsFrom position 0 none "):[/bold blue]\n" =
        [⟨position + 2, "/bold blue", none⟩] := fun _ => rfl
    rw [accepts_line, List.append_assoc, htags, tagsFrom_plain (isPlain_toString _), hlast]
    exact faultFrom?_pair styles [] (by decide) (by decide) _ _ []
  · intro item hitem
    obtain ⟨d, hd, rfl⟩ := List.mem_map.1 hitem
    exact accepts_ruleLine styles (h d hd)
  · exact List.forall_mem_singleton.2 (accepts_line.2 rfl)

/-! ## Reports -/

/-- The heading of a report can be shown if the path has no tags. -/
theorem accepts_heading (styles : Styles) {r : Report}
    (h : Inert (r.path.getD "None" : String)) : styles.Accepts (heading r) := by
  have htags : ∀ rest : Str, tags ("\n[bold cyan]" ++ rest) =
      ⟨1, "bold cyan", none⟩ :: tagsFrom 12 0 none rest := fun _ => rfl
  -- the path may end in backslashes, after an odd number of which the next tag does not count
  have hnext : ∀ position slashes (rest : Str),
      tagsFrom position slashes none ("[/bold cyan] [dim](" ++ rest) =
        if slashes % 2 = 0 then ⟨position, "/bold cyan", none⟩ :: ⟨position + 13, "dim", none⟩ ::
          tagsFrom (position + 19) 0 none rest
        else ⟨position + 13, "dim", none⟩ :: tagsFrom (position + 19) 0 none rest :=
    fun position slashes rest =>
      tagsFrom_bracket ("/bold cyan] [dim](" ++ rest) rfl position slashes
  have hlast : ∀ position, tagsFrom position 0 none ")[/dim]" = [⟨position + 1, "/dim", none⟩] :=
    fun _ => rfl
  obtain ⟨position, slashes, hpath⟩ := h 12 ("[/bold cyan] [dim](" ++ (toString r.ruleCount ++
    (" rule(s), max depth " ++ (toString r.maxDepth ++ ")[/dim]")))) rfl
  simp only [heading, accepts_line, List.append_assoc]
  rw [htags, hpath, hnext, tagsFrom_plain (isPlain_toString _), tagsFrom_plain (by decide),
    tagsFrom_plain (isPlain_toString _), hlast]
  split
  · refine (faultFrom?_pair styles [] (by decide) (by decide) _ _ _).trans ?_
    exact faultFrom?_pair styles [] (by decide) (by decide) _ _ []
  · refine (faultFrom?_opening styles [] (by decide) _ _).trans ?_
    exact faultFrom?_pair styles _ (by decide) (by decide) _ _ []

/-- A table can be shown if all its cells can. -/
theorem accepts_table {styles : Styles} {columns : List Str} {rows : List (List Str)}
    (h : ∀ row ∈ columns :: rows, ∀ cell ∈ row, styles.markupFault? cell = none) :
    styles.Accepts (.table columns rows) := by
  intro markup hmarkup
  obtain ⟨i, -, hcolumn⟩ := List.mem_flatMap.1 hmarkup
  obtain ⟨row, hrow, hcell⟩ := List.mem_filterMap.1 hcolumn
  exact h row hrow markup (List.mem_of_getElem? hcell)

theorem Inert.markupFault?_eq_none {s : Str} (h : Inert s) (styles : Styles) :
    styles.markupFault? s = none := by
  rw [Styles.markupFault?, h.tags_eq_nil]
  rfl

theorem markupFault?_valueCell (styles : Styles) (limit : Int) (value : Given) :
    styles.markupFault? (valueCell limit value) = none := by
  cases value with
  | text content => exact (inert_escape _).markupFault?_eq_none styles
  | attributes entries =>
      rw [valueCell]
      split
      · exact faultFrom?_pair styles [] (by decide) (by decide) 0 20 []
      · exact (inert_escape _).markupFault?_eq_none styles

/-- A match can be shown in a table if the name of the node has no tags. -/
theorem markupFault?_matchRow (styles : Styles) (limit : Int) (place : Nat) {m : Match}
    (h : Inert m.nodeName) :
    ∀ cell ∈ matchRow limit place m, styles.markupFault? cell = none := by
  simp only [matchRow, List.forall_mem_cons]
  exact ⟨(isPlain_toString place).inert.markupFault?_eq_none styles,
    (inert_escape m.label).markupFault?_eq_none styles,
    (isPlain_toString m.depth).inert.markupFault?_eq_none styles,
    h.markupFault?_eq_none styles, markupFault?_valueCell styles limit m.value,
    List.forall_mem_nil _⟩

theorem markupFault?_matchRows (styles : Styles) (limit : Int) (place : Nat) {found : List Match}
    (h : ∀ m ∈ found, Inert m.nodeName) :
    ∀ row ∈ matchRows limit place found, ∀ cell ∈ row, styles.markupFault? cell = none := by
  induction found generalizing place with
  | nil => exact List.forall_mem_nil _
  | cons m rest ih =>
      obtain ⟨hm, hrest⟩ := List.forall_mem_cons.1 h
      exact List.forall_mem_cons.2 ⟨markupFault?_matchRow styles limit place hm, ih _ hrest⟩

/-- A report can be shown if the path and the names of the nodes have no tags. -/
theorem accepts_report (styles : Styles) (limit : Int) {r : Report}
    (hpath : Inert (r.path.getD "None" : String)) (hnames : ∀ m ∈ r.recorded, Inert m.nodeName) :
    ∀ item ∈ report limit r, styles.Accepts item := by
  rw [report]
  refine List.forall_mem_cons.2 ⟨accepts_heading styles hpath, ?_⟩
  split
  · exact List.forall_mem_singleton.2
      (accepts_line.2 (faultFrom?_pair styles [] (by decide) (by decide) 1 26 []))
  · refine List.forall_mem_cons.2 ⟨accepts_table ?_, List.forall_mem_singleton.2 ?_⟩
    · refine List.forall_mem_cons.2 ⟨?_, markupFault?_matchRows styles limit 1 hnames⟩
      have hcolumns : ∀ column ∈ matchColumns, IsPlain column := by decide
      exact fun column hcolumn => (hcolumns column hcolumn).inert.markupFault?_eq_none styles
    · have htags : ∀ rest : Str, tags ("[bold green]" ++ rest) =
          ⟨0, "bold green", none⟩ :: tagsFrom 12 0 none rest := fun _ => rfl
      have hlast : ∀ position, tagsFrom position 0 none " match(es)[/bold green]\n" =
          [⟨position + 10, "/bold green", none⟩] := fun _ => rfl
      rw [accepts_line, List.append_assoc, htags, tagsFrom_plain (isPlain_toString _), hlast]
      exact faultFrom?_pair styles [] (by decide) (by decide) _ _ []

/-! ## What a run shows -/

/-- All that the console is given can be shown if the texts that are put in as they stand need no
escape. -/
theorem Display.accepts (styles : Styles) (shown : Display)
    (h : ∀ s ∈ shown.unescaped, escape s = s) : ∀ item ∈ shown.items, styles.Accepts item := by
  have hinert : ∀ s ∈ shown.unescaped, Inert s := fun s hs => inert_of_escape_eq (h s hs)
  cases shown with
  | nothing => exact List.forall_mem_nil _
  | noRules => exact List.forall_mem_singleton.2 (accepts_noRules styles)
  | notLoaded message => exact List.forall_mem_singleton.2 (accepts_notLoaded styles message)
  | failed message => exact List.forall_mem_singleton.2 (accepts_failed styles message)
  | rules declarations =>
      exact accepts_ruleList styles fun d hd => hinert _ (List.mem_map_of_mem hd)
  | report limit r =>
      obtain ⟨hpath, hnames⟩ := List.forall_mem_cons.1 hinert
      exact accepts_report styles limit hpath fun m hm => hnames _ (List.mem_map_of_mem hm)

end DepthRules.Console
