import DepthRules.Proofs.Rule.Loading
import DepthRules.Proofs.Text.Blank
import DepthRules.Proofs.Text.Lines
import DepthRules.Proofs.Text.Split
import DepthRules.Proofs.Text.Utf8
import Mathlib

/-!
# Rules in lists, in files and in settings

The same rules can be written with commas between them, one to a line of a file, or as texts in the
settings. However they are padded and whatever is put between them that holds no rule, all three
ways of reading them give the same rules, or stop at the same one (`parseList_readLines_load`).

Each way is a loop over pieces that `Lists` relates to the texts of the rules. What a loop does with
the pieces of rules that can be read is said once, before any further pieces
(`parsePieces_append`, `parseLinesFrom_append`, `parseAll_append`); with no further piece this is
the success, and with the first rule that cannot be read it is the failure.
-/

namespace DepthRules.Rule

open Text

/-! ## Pieces of rules -/

/-- The piece is the text with blanks at either end. -/
def Pads (piece text : Str) : Prop :=
  ∃ before after, piece = before ++ text ++ after ∧ (∀ c ∈ before, isBlank c = true) ∧
    ∀ c ∈ after, isBlank c = true

/-- The pieces are the texts in their order, each padded, with idle pieces put anywhere. -/
inductive Lists (idle : Str → Prop) : List Str → List Str → Prop
  | nil : Lists idle [] []
  | text {piece text : Str} {pieces texts : List Str} (hpads : Pads piece text)
      (hrest : Lists idle pieces texts) : Lists idle (piece :: pieces) (text :: texts)
  | idle {piece : Str} {pieces texts : List Str} (hidle : idle piece)
      (hrest : Lists idle pieces texts) : Lists idle (piece :: pieces) texts

/-- A text that can stand among others with commas between them and on a line of a file. -/
structure Separate (text : Str) : Prop where
  not_blank : trim text ≠ []
  not_comment : (trim text).head? ≠ some '#'.toNat
  no_comma : ','.toNat ∉ text

/-- Each text is read as the declaration in its place. -/
def ReadAs (texts : List Str) (declarations : List Declaration) : Prop :=
  List.Forall₂ (fun text d => parse text = .ok d) texts declarations

section Pieces

variable {idle : Str → Prop} {piece text : Str}
  {pieces texts before after : List Str} {declarations : List Declaration}

/-- Blanks at the ends are trimmed off. -/
theorem Pads.trim_eq (h : Pads piece text) : trim piece = trim text := by
  obtain ⟨before, after, rfl, hbefore, hafter⟩ := h
  obtain ⟨first, last, htext, hfirst, hlast, hhead, hend⟩ := strips_trim text
  apply strips_iff.1
  refine ⟨before ++ first, last ++ after, ?_, List.forall_mem_append.2 ⟨hbefore, hfirst⟩,
    List.forall_mem_append.2 ⟨hlast, hafter⟩, hhead, hend⟩
  conv_lhs => rw [htext]
  simp only [List.append_assoc]

/-- A rule is read from its text without the blanks at the ends. -/
theorem parse_eq_of_trim_eq (h : trim piece = trim text) :
    parse piece = parse text := by
  rw [parse, parse, h]

theorem parse_trim (text : Str) : parse (trim text) = parse text :=
  parse_eq_of_trim_eq (trim_trim text)

theorem Separate.isEmpty_eq_false (h : Separate text) : (trim text).isEmpty = false :=
  List.isEmpty_eq_false_iff.2 h.not_blank

theorem Separate.isIdle_eq_false (h : Separate text) : isIdle (trim text) = false := by
  cases htext : trim text with
  | nil => exact absurd htext h.not_blank
  | cons c cs =>
      have hc := h.not_comment
      rw [htext, List.head?_cons] at hc
      exact beq_false_of_ne fun heq => hc (congrArg some heq)

theorem comma_not_blank {s : Str} (h : ∀ c ∈ s, isBlank c = true) : ','.toNat ∉ s :=
  fun hmem => absurd (h _ hmem) (by decide)

theorem comma_not_mem_of_trim_eq_nil (h : trim piece = []) : ','.toNat ∉ piece := by
  obtain ⟨before, after, rfl, hbefore, hafter, -⟩ := strips_iff.2 h
  rw [List.append_nil, List.mem_append]
  exact not_or.2 ⟨comma_not_blank hbefore, comma_not_blank hafter⟩

theorem Pads.comma_not_mem (h : Pads piece text) (htext : ','.toNat ∉ text) :
    ','.toNat ∉ piece := by
  obtain ⟨before, after, rfl, hbefore, hafter⟩ := h
  rw [List.mem_append, List.mem_append]
  exact not_or.2 ⟨not_or.2 ⟨comma_not_blank hbefore, htext⟩, comma_not_blank hafter⟩

/-- Blank pieces and padded texts have no comma if the texts have none. -/
theorem Lists.comma_not_mem (h : Lists (fun piece => trim piece = []) pieces texts)
    (htexts : ∀ text ∈ texts, ','.toNat ∉ text) : ∀ piece ∈ pieces, ','.toNat ∉ piece := by
  induction h with
  | nil => exact fun piece hpiece => absurd hpiece List.not_mem_nil
  | text hpads hrest ih =>
      obtain ⟨htext, htexts⟩ := List.forall_mem_cons.1 htexts
      exact List.forall_mem_cons.2 ⟨hpads.comma_not_mem htext, ih htexts⟩
  | idle hidle hrest ih =>
      exact List.forall_mem_cons.2 ⟨comma_not_mem_of_trim_eq_nil hidle, ih htexts⟩

/-- The piece of a text stands between those of the texts before it and those of the texts after
it. -/
theorem Lists.exists_of_append (h : Lists idle pieces (before ++ text :: after)) :
    ∃ piecesBefore piece piecesAfter, pieces = piecesBefore ++ piece :: piecesAfter ∧
      Lists idle piecesBefore before ∧ Pads piece text ∧ Lists idle piecesAfter after := by
  generalize htexts : before ++ text :: after = texts at h
  induction h generalizing before with
  | nil => exact absurd htexts (by simp)
  | @text piece own pieces texts hpads hrest ih =>
      cases before with
      | nil =>
          obtain ⟨rfl, rfl⟩ := List.cons_eq_cons.1 htexts
          exact ⟨[], piece, pieces, rfl, .nil, hpads, hrest⟩
      | cons first before =>
          obtain ⟨rfl, htail⟩ := List.cons_eq_cons.1 htexts
          obtain ⟨piecesBefore, other, piecesAfter, rfl, hbefore, hother, hafter⟩ := ih htail
          exact ⟨piece :: piecesBefore, other, piecesAfter, rfl, .text hpads hbefore, hother,
            hafter⟩
  | @idle piece pieces texts hidle hrest ih =>
      obtain ⟨piecesBefore, other, piecesAfter, rfl, hbefore, hother, hafter⟩ := ih htexts
      exact ⟨piece :: piecesBefore, other, piecesAfter, rfl, .idle hidle hbefore, hother, hafter⟩

/-- All texts can be read, or one is the first that cannot. -/
theorem readAs_or_exists_error (texts : List Str) :
    (∃ declarations, ReadAs texts declarations) ∨
      ∃ before text after declarations cause, texts = before ++ text :: after ∧
        ReadAs before declarations ∧ parse text = .error cause := by
  induction texts with
  | nil => exact .inl ⟨[], .nil⟩
  | cons first texts ih =>
      cases hfirst : parse first with
      | error cause => exact .inr ⟨[], first, texts, [], cause, rfl, .nil, hfirst⟩
      | ok d =>
          rcases ih with ⟨ds, hds⟩ | ⟨before, text, after, ds, cause, rfl, hds, hcause⟩
          · exact .inl ⟨d :: ds, .cons hfirst hds⟩
          · exact .inr ⟨first :: before, text, after, d :: ds, cause, rfl, .cons hfirst hds, hcause⟩

end Pieces

/-! ## What the loops do with rules that can be read -/

section Loops

variable {piece text : Str} {pieces rows texts : List Str}
  {declarations : List Declaration} {cause : ReadError}

theorem map_cons_map_append {ε α : Type} (a : α) (as : List α) (result : Except ε (List α)) :
    (result.map (as ++ ·)).map (a :: ·) = result.map (a :: as ++ ·) := by
  cases result <;> rfl

theorem map_nil_append {ε α : Type} (result : Except ε (List α)) :
    result.map ([] ++ ·) = result := by
  cases result <;> rfl

theorem parsePieces_of_trim_eq_nil (h : trim piece = []) :
    parsePieces (piece :: pieces) = parsePieces pieces := by
  rw [parsePieces, h]
  rfl

/-- Pieces of rules that can be read give these rules, whatever pieces come after them. -/
theorem parsePieces_append (h : Lists (fun piece => trim piece = []) pieces texts)
    (htexts : ∀ text ∈ texts, Separate text) (hread : ReadAs texts declarations)
    (rest : List Str) :
    parsePieces (pieces ++ rest) = (parsePieces rest).map (declarations ++ ·) := by
  -- on how the pieces list the texts: the loop comes to `rest` with nothing of them left
  induction h generalizing declarations with
  | nil =>
      cases hread
      exact (map_nil_append _).symm
  | @text piece text pieces texts hpads hrest ih =>
      obtain ⟨htext, htexts⟩ := List.forall_mem_cons.1 htexts
      cases hread with
      | @cons _ d _ ds hfirst hread =>
          have hpiece : parse (trim text) = .ok d := by rw [parse_trim, hfirst]
          rw [List.cons_append, parsePieces, hpads.trim_eq, htext.isEmpty_eq_false]
          simp only [Bool.false_eq_true, if_false, hpiece]
          rw [ih htexts hread, map_cons_map_append]
  | idle hidle hrest ih =>
      rw [List.cons_append, parsePieces_of_trim_eq_nil hidle, ih htexts hread]

/-- Lines of rules that can be read give these rules, and every line counts, also an idle one. -/
theorem parseLinesFrom_append (file : String) (number : Nat)
    (h : Lists (fun row => isIdle (trim row) = true) rows texts)
    (htexts : ∀ text ∈ texts, Separate text) (hread : ReadAs texts declarations)
    (rest : List Str) :
    parseLinesFrom file number (rows ++ rest) =
      (parseLinesFrom file (number + rows.length) rest).map (declarations ++ ·) := by
  induction h generalizing declarations number with
  | nil =>
      cases hread
      exact (map_nil_append _).symm
  | @text row text rows texts hpads hrest ih =>
      obtain ⟨htext, htexts⟩ := List.forall_mem_cons.1 htexts
      cases hread with
      | @cons _ d _ ds hfirst hread =>
          have hrow : parse (trim text) = .ok d := by rw [parse_trim, hfirst]
          rw [List.cons_append, parseLinesFrom, hpads.trim_eq, htext.isIdle_eq_false]
          simp only [Bool.false_eq_true, if_false, hrow]
          rw [ih (number + 1) htexts hread, map_cons_map_append, List.length_cons,
            Nat.add_right_comm, Nat.add_assoc]
  | @idle row rows texts hidle hrest ih =>
      -- the row is passed over, but the next one has the next number
      rw [List.cons_append, parseLinesFrom, if_pos hidle, ih (number + 1) htexts hread,
        List.length_cons, Nat.add_right_comm, Nat.add_assoc]

/-- Texts that can be read give their rules, whatever texts come after them. -/
theorem parseAll_append {inline : List Str} (h : List.Forall₂ Pads inline texts)
    (hread : ReadAs texts declarations) (others : List Str) :
    parseAll (inline ++ others) = (parseAll others).map (declarations ++ ·) := by
  induction h generalizing declarations with
  | nil =>
      cases hread
      exact (map_nil_append _).symm
  | @cons s text inline texts hpads hrest ih =>
      cases hread with
      | @cons _ d _ ds hfirst hread =>
          have hs : parse s = .ok d := (parse_eq_of_trim_eq hpads.trim_eq).trans hfirst
          rw [List.cons_append, parseAll, hs, ih hread]
          cases parseAll others <;> rfl

end Loops

/-! ## The first rule that cannot be read -/

section Failures

variable {text : Str} {pieces rows before after : List Str} {read : List Declaration}
  {cause : ReadError}

/-- A list of rules stops at the piece of the first one that cannot be read, and names it. -/
theorem parsePieces_of_error
    (h : Lists (fun piece => trim piece = []) pieces (before ++ text :: after))
    (htexts : ∀ other ∈ before ++ text :: after, Separate other) (hread : ReadAs before read)
    (hcause : parse text = .error cause) :
    parsePieces pieces = .error (.inPiece (trim text) cause) := by
  obtain ⟨hbefore, htext⟩ := List.forall_mem_append.1 htexts
  obtain ⟨piecesBefore, piece, piecesAfter, rfl, hlists, hpads, -⟩ := h.exists_of_append
  have hpiece : parse (trim text) = .error cause := by rw [parse_trim, hcause]
  rw [parsePieces_append hlists hbefore hread, parsePieces, hpads.trim_eq,
    (htext text List.mem_cons_self).isEmpty_eq_false]
  simp only [Bool.false_eq_true, if_false, hpiece]
  rfl

/-- A file stops at the row of the first rule that cannot be read, and names the file and the number
of the row. -/
theorem parseLinesFrom_of_error (file : String) (number : Nat)
    (h : Lists (fun row => isIdle (trim row) = true) rows (before ++ text :: after))
    (htexts : ∀ other ∈ before ++ text :: after, Separate other) (hread : ReadAs before read)
    (hcause : parse text = .error cause) :
    ∃ rowsBefore row rowsAfter, rows = rowsBefore ++ row :: rowsAfter ∧
      Lists (fun row => isIdle (trim row) = true) rowsBefore before ∧ Pads row text ∧
      Lists (fun row => isIdle (trim row) = true) rowsAfter after ∧
      parseLinesFrom file number rows =
        .error (.atLine file (number + rowsBefore.length) cause) := by
  obtain ⟨hbefore, htext⟩ := List.forall_mem_append.1 htexts
  obtain ⟨rowsBefore, row, rowsAfter, rfl, hlists, hpads, hafter⟩ := h.exists_of_append
  refine ⟨rowsBefore, row, rowsAfter, rfl, hlists, hpads, hafter, ?_⟩
  have hrow : parse (trim text) = .error cause := by rw [parse_trim, hcause]
  rw [parseLinesFrom_append file number hlists hbefore hread, parseLinesFrom, hpads.trim_eq,
    (htext text List.mem_cons_self).isIdle_eq_false]
  simp only [Bool.false_eq_true, if_false, hrow]
  rfl

/-- Texts in settings stop at the first one that cannot be read. -/
theorem parseAll_of_error {inline : List Str}
    (h : List.Forall₂ Pads inline (before ++ text :: after))
    (hread : ReadAs before read) (hcause : parse text = .error cause) :
    parseAll inline = .error cause := by
  have hbefore := List.forall₂_take_append inline before (text :: after) h
  have hrest := List.forall₂_drop_append inline before (text :: after) h
  obtain ⟨s, others, hpads, -, hdrop⟩ := List.forall₂_cons_right_iff.1 hrest
  have hs : parse s = .error cause := (parse_eq_of_trim_eq hpads.trim_eq).trans hcause
  rw [← List.take_append_drop before.length inline, parseAll_append hbefore hread, hdrop, parseAll,
    hs]
  rfl

end Failures

/-! ## The three ways of reading -/

section Ways

variable {pieces : List Str} {rows : List (List Char)} {file path : String} {files : Files}
  {settings : RulesSettings}

/-- A list of rules is read piece by piece. -/
theorem parseList_intercalate (h : ∀ piece ∈ pieces, ','.toNat ∉ piece) :
    parseList (("," : Str).intercalate pieces) = parsePieces pieces := by
  rw [parseList]
  by_cases hempty : pieces = []
  · -- the empty text has one piece with nothing in it
    subst hempty
    rfl
  · exact congrArg parsePieces (splitAll_intercalate hempty h)

/-- An empty line at the end holds no rule. -/
theorem parseLinesFrom_concat_nil (number : Nat) (rows : List Str) :
    parseLinesFrom file number (rows ++ [[]]) = parseLinesFrom file number rows := by
  induction rows generalizing number with
  | nil => rfl
  | cons row rows ih =>
      rw [List.cons_append, parseLinesFrom, parseLinesFrom]
      simp only [ih]

/-- A file is read row by row. -/
theorem readLines_eq (hrows : ∀ row ∈ rows, OneLine row)
    (hread : files.read (Path.normalize path) = .ok (encodeUtf8 (['\n'].intercalate rows))) :
    readLines files path =
      (parseLinesFrom path 1 (rows.map Str.ofChars)).mapError LoadError.rules := by
  have hplain : unifyNewlines (['\n'].intercalate rows) = ['\n'].intercalate rows :=
    unifyNewlines_of_not_mem (return_not_mem_intercalate hrows)
  have htext : readText files (Path.normalize path) = .ok (['\n'].intercalate rows) := by
    rw [readText, hread]
    dsimp only
    rw [decodeUtf8_encodeUtf8]
    dsimp only
    rw [hplain]
  have hparse : parseLines path (['\n'].intercalate rows) =
      parseLinesFrom path 1 (rows.map Str.ofChars) := by
    rw [parseLines, hplain, lines_intercalate hrows]
    split
    · rename_i hlast
      obtain ⟨init, rfl⟩ := List.getLast?_eq_some_iff.1 hlast
      rw [List.dropLast_concat, List.map_append]
      exact (parseLinesFrom_concat_nil 1 _).symm
    · rfl
  rw [readLines, htext]
  dsimp only [bind, Except.bind]
  rw [hparse]
  cases parseLinesFrom path 1 (rows.map Str.ofChars) <;> rfl

/-- Without a rules file, loading reads the texts in the settings. -/
theorem load_outcome_of_no_file (h : ∀ file ∈ settings.rulesFile, file = "") :
    (load files settings).outcome.1 = (parseAll settings.rules).mapError LoadError.rules := by
  have hfile : fileRules files settings = .ok [] := by
    rw [fileRules]
    cases hpath : settings.rulesFile with
    | none => rfl
    | some path =>
        rw [h path hpath]
        rfl
  rw [(load_gives files settings).outcome, loadedRules, hfile]
  cases parseAll settings.rules <;> rfl

/-- Rules written with commas between them, one to a line of a file, and as texts in the settings
are read as the same declarations, in the same order. Or none of the three gives any, since the same
text is the first that cannot be read: with commas, the text is named; in a file, the file and
the line, where idle lines count. -/
theorem parseList_readLines_load {texts : List Str}
    (htexts : ∀ text ∈ texts, Separate text)
    (hpieces : Lists (fun piece => trim piece = []) pieces texts)
    (hrows : Lists (fun row => isIdle (trim row) = true) (rows.map Str.ofChars) texts)
    (hlines : ∀ row ∈ rows, OneLine row)
    (hread : files.read (Path.normalize path) = .ok (encodeUtf8 (['\n'].intercalate rows)))
    (hinline : List.Forall₂ Pads settings.rules texts)
    (hfile : ∀ file ∈ settings.rulesFile, file = "") :
    (∃ declarations, ReadAs texts declarations ∧
      parseList (("," : Str).intercalate pieces) = .ok declarations ∧
      readLines files path = .ok declarations ∧
      (load files settings).outcome.1 = .ok declarations) ∨
    ∃ before text after read cause, texts = before ++ text :: after ∧ ReadAs before read ∧
      parse text = .error cause ∧
      (∃ e, parseList (("," : Str).intercalate pieces) = .error e ∧
        e.message = "Error parsing rule '" ++ trim text ++ "': " ++ cause.message) ∧
      (∃ e rowsBefore row rowsAfter, readLines files path = .error (.rules e) ∧
        rows.map Str.ofChars = rowsBefore ++ row :: rowsAfter ∧
        Lists (fun row => isIdle (trim row) = true) rowsBefore before ∧ Pads row text ∧
        Lists (fun row => isIdle (trim row) = true) rowsAfter after ∧
        e.message = path ++ ", line " ++ toString (rowsBefore.length + 1) ++ ": " ++
          cause.message) ∧
      (load files settings).outcome.1 = .error (.rules cause) := by
  have hcommas := hpieces.comma_not_mem fun text htext => (htexts text htext).no_comma
  rw [parseList_intercalate hcommas, readLines_eq hlines hread, load_outcome_of_no_file hfile]
  rcases readAs_or_exists_error texts with
    ⟨ds, hds⟩ | ⟨before, text, after, read, cause, rfl, hds, hcause⟩
  · left
    -- no further piece comes after those of the texts
    have hlist := parsePieces_append hpieces htexts hds []
    have hfrom := parseLinesFrom_append path 1 hrows htexts hds []
    have hall := parseAll_append hinline hds []
    rw [List.append_nil] at hlist hfrom hall
    rw [hlist, hfrom, hall, parsePieces, parseLinesFrom, parseAll]
    simp [hds, Except.map, Except.mapError]
  · right
    have hlist := parsePieces_of_error hpieces htexts hds hcause
    obtain ⟨rowsBefore, row, rowsAfter, hsplit, hbefore, hpads, hafter, hfrom⟩ :=
      parseLinesFrom_of_error path 1 hrows htexts hds hcause
    refine ⟨before, text, after, read, cause, rfl, hds, hcause, ⟨_, hlist, rfl⟩,
      ⟨.atLine path (rowsBefore.length + 1) cause, rowsBefore, row, rowsAfter, ?_, hsplit, hbefore,
        hpads, hafter, rfl⟩, ?_⟩
    · rw [hfrom, Nat.add_comm]
      rfl
    · rw [parseAll_of_error hinline hds hcause]
      rfl

end Ways

/-- A tree with one file. -/
def holding (bytes : List UInt8) : Files := ⟨[], [], [([['r']], bytes)]⟩

theorem read_holding (bytes : List UInt8) :
    (holding bytes).read (Path.normalize "r") = .ok bytes := by cbv

/-- The texts of two rules. -/
def pair : List Str := ["element:0:a", "comment:1"]

/-- The two rules with an idle piece between them. -/
def pairPieces : List Str := [" element:0:a", [], "comment:1"]

/-- The two rules below a line that says what they are. -/
def pairRows : List (List Char) := ["# two rules".toList, "element:0:a ".toList, "comment:1".toList]

/-- The two rules in settings. -/
def pairSettings : RulesSettings := ⟨none, "default", ["element:0:a", "comment:1"]⟩

theorem pads_self (text : Str) : Pads text text :=
  ⟨[], [], by simp, by simp, by simp⟩

/-- Two rules are read from a list, from a file and from settings, with idle pieces in between. -/
theorem parseList_readLines_load_pair :
    ∃ declarations, ReadAs pair declarations ∧
      parseList (("," : Str).intercalate pairPieces) = .ok declarations ∧
      readLines (holding (encodeUtf8 (['\n'].intercalate pairRows))) "r" = .ok declarations ∧
      (load (holding (encodeUtf8 (['\n'].intercalate pairRows))) pairSettings).outcome.1 =
        .ok declarations := by
  have htexts : ∀ text ∈ pair, Separate text := by
    intro text htext
    simp only [pair, List.mem_cons, List.not_mem_nil, or_false] at htext
    rcases htext with rfl | rfl <;> exact ⟨by decide, by decide, by decide⟩
  have hpieces : Lists (fun piece => trim piece = []) pairPieces pair :=
    .text ⟨" ", [], by decide, List.forall_mem_singleton.2 rfl, List.forall_mem_nil _⟩ <|
      .idle rfl <| .text (pads_self _) .nil
  have hrows : Lists (fun row => isIdle (trim row) = true) (pairRows.map Str.ofChars) pair :=
    .idle (by decide) <|
      .text ⟨[], " ", by decide, List.forall_mem_nil _, List.forall_mem_singleton.2 rfl⟩ <|
        .text (pads_self _) .nil
  have hplain : (pairRows.all fun row => row.all fun c => !isLineEnd c) = true := by decide
  have hlines : ∀ row ∈ pairRows, OneLine row := by
    intro row hrow c hc
    simpa using List.all_eq_true.1 (List.all_eq_true.1 hplain row hrow) c hc
  have hinline : List.Forall₂ Pads pairSettings.rules pair :=
    .cons (pads_self _) (.cons (pads_self _) .nil)
  have hfile : ∀ file ∈ pairSettings.rulesFile, file = "" := by simp [pairSettings]
  rcases parseList_readLines_load htexts hpieces hrows hlines (read_holding _) hinline hfile with
    hall | ⟨before, text, after, read, cause, hsplit, -, hcause, -⟩
  · exact hall
  · -- both texts can be read
    have hparse : ∀ text ∈ pair, ∃ d, parse text = .ok d := by
      intro text htext
      simp only [pair, List.mem_cons, List.not_mem_nil, or_false] at htext
      rcases htext with rfl | rfl
      · exact ⟨⟨.element, 0, some "a", "element:0:a"⟩, by cbv⟩
      · exact ⟨⟨.comment, 1, none, "comment:1"⟩, by cbv⟩
    obtain ⟨d, hd⟩ := hparse text (by rw [hsplit]; simp)
    cases hcause.symm.trans hd

end DepthRules.Rule
