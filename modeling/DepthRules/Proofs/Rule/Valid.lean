import DepthRules.Proofs.Check.Ensures
import DepthRules.Proofs.Entries
import DepthRules.Proofs.Rule.Resolution
import DepthRules.Rule.Source

/-!
# Valid declarations

A declaration is valid if its depth is not negative and its tag fits its kind. Every way of reading
rules passes on what its parts ensure, whatever is read: a list, the lines of a file and the texts
in settings ensure of all their declarations what a text ensures of its own (`ensures_parse`), and
the rulesets of a file what their rules do (`Entry.ensures_declaration`).
-/

namespace DepthRules

/-- A declaration that a rule can be made of and whose matches can be recorded. -/
structure Declaration.Valid (d : Declaration) : Prop where
  depth_nonneg : 0 ≤ d.depth
  tagFits : Rule.TagFits d.kind d.tag

namespace Rule

/-! ## From texts -/

theorem acceptDepth_eq_ok_iff {shown : String} {depth? : Option Int} {depth : Int} :
    acceptDepth shown depth? = .ok depth ↔ depth? = some depth ∧ 0 ≤ depth := by
  cases depth? with
  | none => simp [acceptDepth]
  | some n =>
      rw [acceptDepth]
      by_cases hneg : n < 0
      · rw [if_pos hneg]
        constructor
        · rintro ⟨⟩
        · rintro ⟨⟨⟩, hnonneg⟩
          omega
      · rw [if_neg hneg]
        constructor
        · rintro ⟨⟩
          exact ⟨rfl, Int.not_lt.1 hneg⟩
        · rintro ⟨⟨⟩, -⟩
          rfl

theorem ensures_acceptDepth (shown : String) (depth? : Option Int) :
    Ensures (acceptDepth shown depth?) fun depth => 0 ≤ depth := by
  intro depth h
  exact (acceptDepth_eq_ok_iff.1 h).2

theorem ensures_assemble (kindText depthText : Str) (tagText : Option Str) :
    Ensures (assemble kindText depthText tagText) Declaration.Valid := by
  refine (Ensures.trivial (readKind (Text.trim kindText))).bind fun kind _ => ?_
  refine (ensures_acceptDepth _ _).bind fun depth hdepth => ?_
  intro d hd
  obtain ⟨hfits, rfl⟩ := Declaration.make_eq_ok_iff.1 hd
  exact ⟨hdepth, hfits⟩

/-- What parts of a text ensure of the declaration they are assembled to, a text ensures of its. -/
theorem ensures_parse_of {P : Declaration → Prop}
    (h : ∀ kindText depthText tagText, Ensures (assemble kindText depthText tagText) P)
    (s : Str) : Ensures (parse s) P := by
  rw [parse]
  split
  · exact .error _
  · split
    · exact .error _
    · exact h _ _ _

/-- What is read from a text is valid. -/
theorem ensures_parse (s : Str) : Ensures (parse s) Declaration.Valid :=
  ensures_parse_of ensures_assemble s

section Texts

variable {P : Declaration → Prop} (hP : ∀ s, Ensures (parse s) P)
include hP

/-- What texts ensure of their declarations holds of the first of several and of the others. -/
theorem ensures_cons {rest : Except ReadError (List Declaration)}
    (hrest : Ensures rest fun ds => ∀ d ∈ ds, P d) (wrap : ReadError → ReadError)
    (s : Str) :
    Ensures
      (match parse s with
      | .error cause => .error (wrap cause)
      | .ok d => rest.map (d :: ·))
      fun ds => ∀ d ∈ ds, P d := by
  split
  · exact .error _
  · rename_i d hd
    exact hrest.map fun ds hds => List.forall_mem_cons.2 ⟨hP s d hd, hds⟩

/-- What a text ensures of its declaration, pieces of a list ensure of all of theirs. -/
theorem ensures_parsePieces (pieces : List Str) :
    Ensures (parsePieces pieces) fun ds => ∀ d ∈ ds, P d := by
  induction pieces with
  | nil => exact .ok fun d hd => absurd hd List.not_mem_nil
  | cons piece rest ih =>
      rw [parsePieces]
      split
      · exact ih
      · exact ensures_cons hP ih (.inPiece _) _

/-- So do the lines of a text. -/
theorem ensures_parseLinesFrom (file : String) (number : Nat) (rows : List Str) :
    Ensures (parseLinesFrom file number rows) fun ds => ∀ d ∈ ds, P d := by
  induction rows generalizing number with
  | nil => exact .ok fun d hd => absurd hd List.not_mem_nil
  | cons row rest ih =>
      rw [parseLinesFrom]
      split
      · exact ih (number + 1)
      · exact ensures_cons hP (ih (number + 1)) (.atLine file number) _

/-- So do several texts. -/
theorem ensures_parseAll (texts : List Str) :
    Ensures (parseAll texts) fun ds => ∀ d ∈ ds, P d := by
  induction texts with
  | nil => exact .ok fun d hd => absurd hd List.not_mem_nil
  | cons text rest ih =>
      refine (hP text).bind fun d hd => ?_
      refine ih.bind fun ds hds => ?_
      exact .ok (List.forall_mem_cons.2 ⟨hd, hds⟩)

/-- So do the lines of a file. -/
theorem ensures_readLines (files : Files) (path : String) :
    Ensures (readLines files path) fun ds => ∀ d ∈ ds, P d := by
  refine (Ensures.trivial _).bind fun text _ => ?_
  split
  · rename_i ds hds
    exact .ok (ensures_parseLinesFrom hP _ _ _ ds hds)
  · exact .error _

end Texts

/-! ## From rulesets -/

/-- The depths of all rules of a file are not negative. -/
def RulesFile.DepthsValid (file : RulesFile) : Prop :=
  ∀ r ∈ file.rulesets, ∀ e ∈ r.2.rules, 0 ≤ e.depth

theorem ensures_checkDepth (v : Value) : Ensures (checkDepth v) fun depth => 0 ≤ depth := by
  rw [checkDepth]
  split
  · exact .error _
  · split
    · rename_i depth hdepth
      exact .ok (ensures_acceptDepth _ _ depth hdepth)
    · exact .error _

theorem ensures_entryCheck (v : Value) : Ensures (Entry.check v) fun e => 0 ≤ e.depth := by
  refine (Ensures.trivial _).bind fun entries _ => ?_
  have hdepth := Check.ensures_required ensures_checkDepth entries "depth"
  refine Ensures.bind (Checked.ensures_both (Ensures.trivial _)
    (Checked.ensures_both hdepth (Ensures.trivial _))) fun parts hparts => ?_
  exact .ok hparts.2.1

theorem ensures_checkRules (v : Value) :
    Ensures (checkRules v) fun es => ∀ e ∈ es, 0 ≤ e.depth := by
  rw [checkRules]
  split
  · exact .ok fun e he => absurd he List.not_mem_nil
  · exact Check.ensures_list ensures_entryCheck _

theorem ensures_rulesetCheck (v : Value) :
    Ensures (Ruleset.check v) fun r => ∀ e ∈ r.rules, 0 ≤ e.depth := by
  have hempty : ∀ e ∈ ([] : List Entry), 0 ≤ e.depth := fun e he => absurd he List.not_mem_nil
  rw [Ruleset.check]
  split
  · exact .ok hempty
  · refine (Ensures.trivial _).bind fun entries _ => ?_
    have hrules := Check.ensures_optional ensures_checkRules hempty entries "rules"
    refine Ensures.bind (Checked.ensures_both (Ensures.trivial _) hrules) fun parts hparts => ?_
    exact .ok hparts.2

theorem ensures_rulesFileCheck (v : Value) :
    Ensures (RulesFile.check v) RulesFile.DepthsValid := by
  refine (Ensures.trivial _).bind fun entries _ => ?_
  refine (Check.ensures_required (Check.ensures_mapping ensures_rulesetCheck) entries
    "rulesets").bind fun rulesets hrulesets => ?_
  exact .ok hrulesets

theorem ensures_rulesFileRead (v : Value) : Ensures (RulesFile.read v) RulesFile.DepthsValid :=
  fun file hfile => ensures_rulesFileCheck v file (Checked.told_eq_ok_iff.1 hfile)

theorem ensures_parseRulesets (path : String) (bytes : List UInt8) :
    Ensures (parseRulesets path bytes) RulesFile.DepthsValid := by
  unfold parseRulesets
  generalize Yaml.read bytes = outcome
  cases outcome with
  | error fault => cases fault <;> exact .error _
  | ok value =>
      dsimp only
      cases hfile : RulesFile.read value with
      | error refusal => cases refusal <;> exact .error _
      | ok file => exact .ok (ensures_rulesFileRead value file hfile)

namespace RulesFile

variable {file : RulesFile}

/-- The rules of all rulesets of a file. -/
def entries (file : RulesFile) : List Entry := file.rulesets.flatMap fun r => r.2.rules

theorem depth_nonneg_of_mem_entries (h : file.DepthsValid) {e : Entry} (he : e ∈ file.entries) :
    0 ≤ e.depth := by
  obtain ⟨r, hr, he⟩ := List.mem_flatMap.1 he
  exact h r hr e he

/-- Every rule on a chain is a rule of the file. -/
theorem mem_entries_of_mem_entriesOf {names : List Str} {e : Str × Entry}
    (he : e ∈ entriesOf (file.rulesetsOf names)) : e.2 ∈ file.entries := by
  -- from the rule to its ruleset, from there to the entry of the file
  obtain ⟨⟨owner, ruleset⟩, hruleset, he⟩ := List.mem_flatMap.1 he
  obtain ⟨entry, hentry, rfl⟩ := List.mem_map.1 he
  obtain ⟨name, -, hname⟩ := List.mem_filterMap.1 hruleset
  obtain ⟨found, hget, hfound⟩ := Option.map_eq_some_iff.1 hname
  cases hfound
  exact List.mem_flatMap.2 ⟨_, Entries.mem_of_get? hget, hentry⟩

/-- What the rules of a file ensure of their declarations, a ruleset ensures of what it resolves
to. -/
theorem ensures_resolve {P : Declaration → Prop}
    (hP : ∀ e ∈ file.entries, Ensures e.declaration P) (name : Str) :
    Ensures (file.resolve name) fun ds => ∀ d ∈ ds, P d := by
  obtain ⟨passed, current, -, hresolution⟩ := exists_resolution file name
  intro ds hds
  rw [hds] at hresolution
  generalize file.visitedAt passed current = visited at hresolution
  -- a resolution that succeeds is that of a chain whose rules all fit
  cases hresolution with
  | declared hchain hfits =>
      intro d hd
      obtain ⟨e, he, rfl⟩ := List.mem_map.1 hd
      exact hP e.2 (mem_entries_of_mem_entriesOf he) _ (Entry.declaration_of_fits (hfits e he))

end RulesFile

theorem Entry.ensures_declaration {e : Entry} (h : 0 ≤ e.depth) :
    Ensures e.declaration Declaration.Valid := by
  intro d hd
  obtain ⟨hfits, rfl⟩ := Entry.declaration_eq_ok_iff.1 hd
  exact ⟨h, hfits⟩

/-! ## From files -/

/-- The rulesets of the file at a path. -/
def rulesetsAt (files : Files) (path : String) : Except LoadError RulesFile := do
  let bytes ← (files.read path).mapError .access
  parseRulesets path bytes

theorem ensures_rulesetsAt (files : Files) (path : String) :
    Ensures (rulesetsAt files path) RulesFile.DepthsValid :=
  (Ensures.trivial _).bind fun bytes _ => ensures_parseRulesets path bytes

theorem readRuleset_eq_rulesetsAt (files : Files) (path : String) (name : Str) :
    readRuleset files path name =
      (rulesetsAt files path >>= fun file => (file.resolve name).mapError LoadError.rules) := by
  rw [readRuleset, rulesetsAt]
  cases files.read path with
  | error cause => rfl
  | ok bytes =>
      refine congrArg (parseRulesets path bytes >>= ·) (funext fun file => ?_)
      cases file.resolve name with
      | ok declarations => rfl
      | error cause => rfl

section Files

variable {P : Declaration → Prop}

/-- What the rules of a file of rulesets ensure of their declarations, reading one of its rulesets
does. -/
theorem ensures_readRuleset {files : Files} {path : String}
    (hP : ∀ file, rulesetsAt files path = .ok file → ∀ e ∈ file.entries, Ensures e.declaration P)
    (name : Str) : Ensures (readRuleset files path name) fun ds => ∀ d ∈ ds, P d := by
  rw [readRuleset_eq_rulesetsAt]
  refine Ensures.bind (P := fun file => rulesetsAt files path = .ok file) (fun _ h => h) ?_
  intro file hfile
  exact (RulesFile.ensures_resolve (hP file hfile) name).mapError _

/-- The rulesets of the file at a path, if its name ends as that of such a file. -/
def rulesetsIn? (files : Files) (path : String) : Option RulesFile :=
  if rulesetEndings.contains (Path.ending path) then (rulesetsAt files path).toOption else none

/-- What texts and the rules of a file of rulesets ensure of their declarations, reading a file
does. -/
theorem ensures_readFile (htexts : ∀ s, Ensures (parse s) P) {files : Files} {path : String}
    (hentries : ∀ file, rulesetsIn? files path = some file →
      ∀ e ∈ file.entries, Ensures e.declaration P) (name : Str) :
    Ensures (readFile files path name) fun r => ∀ d ∈ r.1, P d := by
  rw [readFile]
  split
  · rename_i hending
    refine (ensures_readRuleset ?_ name).map fun ds hds => hds
    intro file hfile
    refine hentries file ?_
    rw [rulesetsIn?, if_pos hending, hfile]
    rfl
  · exact (ensures_readLines htexts files path).map fun ds hds => hds

end Files

theorem depthsValid_of_rulesetsIn? {files : Files} {path : String} {file : RulesFile}
    (h : rulesetsIn? files path = some file) : file.DepthsValid := by
  rw [rulesetsIn?] at h
  split at h
  · exact ensures_rulesetsAt files path file (toOption_eq_some_iff.1 h)
  · cases h

end Rule

end DepthRules
