import DepthRules.Proofs.Rule.Valid
import DepthRules.Proofs.Task

/-!
# What loading rules gives

Loading gives the rules of the file in the settings and then those written in the settings, whatever
is logged meanwhile. All of them are valid.
-/

namespace DepthRules.Rule

/-- The rules of the file in the settings, if there is one. -/
def fileRules (files : Files) (settings : RulesSettings) : Except LoadError (List Declaration) :=
  match settings.rulesFile with
  | none => .ok []
  | some path =>
      if path.isEmpty then .ok []
      else (readFile files (Path.normalize path) settings.ruleset).map Prod.fst

/-- The rules of the file in the settings and those written there. -/
def loadedRules (files : Files) (settings : RulesSettings) :
    Except LoadError (List Declaration) := do
  let fromFile ← fileRules files settings
  let inline ← (parseAll settings.rules).mapError LoadError.rules
  return fromFile ++ inline

theorem loadFile_gives (files : Files) (settings : RulesSettings) :
    (loadFile files settings).Gives (fileRules files settings) := by
  rw [loadFile, fileRules]
  cases settings.rulesFile with
  | none => exact Task.gives_pure []
  | some path =>
      dsimp only
      by_cases hempty : path.isEmpty = true
      · rw [if_pos hempty, if_pos hempty]
        exact Task.gives_pure []
      · rw [if_neg hempty, if_neg hempty]
        refine (Task.gives_ofExcept_id _).map fun r => ?_
        exact (Task.gives_log _ _ _).next (Task.gives_pure _)

theorem logActive_gives (declarations : List Declaration) :
    (logActive declarations).Gives (.ok ()) := by
  rw [logActive]
  by_cases hempty : declarations.isEmpty = true
  · rw [if_pos hempty]
    exact Task.gives_log _ _ _
  · rw [if_neg hempty]
    refine (Task.gives_log _ _ _).next ?_
    refine (Task.gives_forIn declarations fun d => Task.gives_log _ _ _).next ?_
    exact Task.gives_pure ()

/-- Loading gives the rules of the file and then those of the settings. -/
theorem load_gives (files : Files) (settings : RulesSettings) :
    (load files settings).Gives (loadedRules files settings) := by
  refine (loadFile_gives files settings).bind fun fromFile => ?_
  refine (Task.gives_ofExcept LoadError.rules _).bind fun inline => ?_
  exact (logActive_gives _).next (Task.gives_pure _)

/-! ## Loaded rules -/

/-- The rulesets of the file in the settings, if it is a file of rulesets. -/
def rulesetsNamed? (files : Files) (settings : RulesSettings) : Option RulesFile :=
  settings.rulesFile.bind fun path => rulesetsIn? files (Path.normalize path)

/-- What texts and the rules of the file of rulesets ensure of their declarations, loading does. -/
theorem ensures_loadedRules_of {P : Declaration → Prop}
    (htexts : ∀ s, Ensures (parse s) P) {files : Files} {settings : RulesSettings}
    (hentries : ∀ file, rulesetsNamed? files settings = some file →
      ∀ e ∈ file.entries, Ensures e.declaration P) :
    Ensures (loadedRules files settings) fun ds => ∀ d ∈ ds, P d := by
  have hnone : ∀ d ∈ ([] : List Declaration), P d := fun d hd => absurd hd List.not_mem_nil
  have hfile : Ensures (fileRules files settings) fun ds => ∀ d ∈ ds, P d := by
    rw [rulesetsNamed?] at hentries
    rw [fileRules]
    cases hpath : settings.rulesFile with
    | none => exact .ok hnone
    | some path =>
        rw [hpath, Option.bind_some] at hentries
        dsimp only
        split
        · exact .ok hnone
        · exact (ensures_readFile htexts hentries _).map fun r hr => hr
  refine hfile.bind fun fromFile hfromFile => ?_
  refine ((ensures_parseAll htexts settings.rules).mapError _).bind fun inline hinline => ?_
  exact .ok (List.forall_mem_append.2 ⟨hfromFile, hinline⟩)

theorem depthsValid_of_rulesetsNamed? {files : Files} {settings : RulesSettings} {file : RulesFile}
    (h : rulesetsNamed? files settings = some file) : file.DepthsValid := by
  rw [rulesetsNamed?, Option.bind_eq_some_iff] at h
  obtain ⟨path, -, h⟩ := h
  exact depthsValid_of_rulesetsIn? h

/-- Loaded rules are valid. -/
theorem ensures_loadedRules (files : Files) (settings : RulesSettings) :
    Ensures (loadedRules files settings) fun ds => ∀ d ∈ ds, d.Valid := by
  refine ensures_loadedRules_of ensures_parse fun file hfile e he => ?_
  have hdepth := RulesFile.depth_nonneg_of_mem_entries (depthsValid_of_rulesetsNamed? hfile) he
  exact Entry.ensures_declaration hdepth

/-- Loading that succeeds has succeeded with the file and with the settings. -/
theorem exists_of_loadedRules_eq_ok {files : Files} {settings : RulesSettings}
    {declarations : List Declaration} (h : loadedRules files settings = .ok declarations) :
    ∃ fromFile inline, fileRules files settings = .ok fromFile ∧
      parseAll settings.rules = .ok inline ∧ declarations = fromFile ++ inline := by
  rw [loadedRules] at h
  cases hfile : fileRules files settings with
  | error cause => rw [hfile] at h; cases h
  | ok fromFile =>
      rw [hfile] at h
      cases hinline : parseAll settings.rules with
      | error cause => rw [hinline] at h; cases h
      | ok inline =>
          rw [hinline] at h
          cases h
          exact ⟨fromFile, inline, rfl, rfl, rfl⟩

end DepthRules.Rule
