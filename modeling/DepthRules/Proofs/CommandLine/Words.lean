import DepthRules.CommandLine.Arguments
import DepthRules.Proofs.Check.Ensures

/-!
# Command lines without a switch

What a command line asks for is told by its words (`request_eq_run_iff`). A line from which a switch
is taken away, with its values, has all the other words (`readWords_without`), and if the switch is
that for the output, it asks for the same run without an output (`request_without_output`).
-/

namespace DepthRules.CommandLine

/-- A command line without a switch and its values. -/
def without (dropped : Switch) : List String → List String
  | [] => []
  | word :: rest =>
      if word = "--" then word :: rest
      else
        match meaning word with
        | .complete (.value switch _) =>
            if switch = dropped then without dropped rest else word :: without dropped rest
        | .wantsValue switch _ =>
            match rest with
            | [] => [word]
            | value :: rest =>
                if switch = dropped then without dropped rest
                else word :: value :: without dropped rest
        | _ => word :: without dropped rest

/-- A word that does not give a value to a switch. -/
def Word.spares (dropped : Switch) : Word → Bool
  | .value switch _ => switch ≠ dropped
  | _ => true

variable {dropped : Switch} {word : String} {rest : List String} {words : List Word}

/-! ## The words that are left -/

theorem readWords_of_complete {said : Word} (hword : word ≠ "--")
    (hmeaning : meaning word = .complete said) :
    readWords (word :: rest) = (readWords rest).map (said :: ·) := by
  rw [readWords.eq_def]
  simp only [if_neg hword, hmeaning]

theorem readWords_of_wantsValue {switch : Switch} {name value : String} (hword : word ≠ "--")
    (hmeaning : meaning word = .wantsValue switch name) :
    readWords (word :: value :: rest) = (readWords rest).map (.value switch value :: ·) := by
  rw [readWords.eq_def]
  simp only [if_neg hword, hmeaning]

/-- A line without a switch says what the line says, without the values of that switch. -/
theorem readWords_without {line : List String} (h : readWords line = .ok words) :
    readWords (without dropped line) = .ok (words.filter (Word.spares dropped)) := by
  fun_induction readWords line generalizing words with
  | case1 =>
      cases h
      rfl
  | case2 rest =>
      cases h
      -- after the mark there are only operands, which all stay
      have hall : ∀ said ∈ rest.map Word.operand, said.spares dropped = true := by
        simp [Word.spares]
      rw [without, if_pos rfl, List.filter_eq_self.2 hall, readWords, if_pos rfl]
  | case3 word rest hword said hmeaning ih =>
      obtain ⟨others, hrest, rfl⟩ := map_eq_ok_iff.1 h
      have hothers := ih hrest
      rw [without.eq_def]
      simp only [if_neg hword, hmeaning]
      cases said with
      | operand text =>
          rw [readWords_of_complete hword hmeaning, hothers, List.filter_cons_of_pos rfl]
          rfl
      | on switch =>
          rw [readWords_of_complete hword hmeaning, hothers, List.filter_cons_of_pos rfl]
          rfl
      | value switch text =>
          dsimp only
          split
          · rename_i hdropped
            rw [hothers, List.filter_cons_of_neg (by simp [Word.spares, hdropped])]
          · rename_i hkept
            rw [readWords_of_complete hword hmeaning, hothers,
              List.filter_cons_of_pos (by simp [Word.spares, hkept])]
            rfl
  | case4 => cases h
  | case5 => cases h
  | case6 word hword switch name hmeaning value rest ih =>
      -- the next word is the value whatever it is, and is dropped or kept with the switch
      obtain ⟨others, hrest, rfl⟩ := map_eq_ok_iff.1 h
      have hothers := ih hrest
      rw [without.eq_def]
      simp only [if_neg hword, hmeaning]
      split
      · rename_i hdropped
        rw [hothers, List.filter_cons_of_neg (by simp [Word.spares, hdropped])]
      · rename_i hkept
        rw [readWords_of_wantsValue hword hmeaning, hothers,
          List.filter_cons_of_pos (by simp [Word.spares, hkept])]
        rfl

/-! ## What is left of what the words say -/

theorem valuesOf_spared (words : List Word) {switch : Switch} (h : switch ≠ dropped) :
    valuesOf switch (words.filter (Word.spares dropped)) = valuesOf switch words := by
  rw [valuesOf, valuesOf, List.filterMap_filter]
  congr 1
  funext said
  cases said with
  | operand text => rfl
  | on other => rfl
  | value other text =>
      by_cases hother : other = switch
      · simp [Word.spares, hother, h]
      · simp [hother]

theorem valuesOf_dropped (words : List Word) :
    valuesOf dropped (words.filter (Word.spares dropped)) = [] := by
  rw [valuesOf, List.filterMap_filter, List.filterMap_eq_nil_iff]
  intro said _
  cases said with
  | operand text => rfl
  | on other => rfl
  | value other text => by_cases hother : other = dropped <;> simp [Word.spares, hother]

theorem valueOf?_spared (words : List Word) {switch : Switch} (h : switch ≠ dropped) :
    valueOf? switch (words.filter (Word.spares dropped)) = valueOf? switch words := by
  rw [valueOf?, valueOf?, valuesOf_spared words h]

theorem operands_spared (words : List Word) :
    operands (words.filter (Word.spares dropped)) = operands words := by
  rw [operands, operands, List.filterMap_filter]
  congr 1
  funext said
  cases said with
  | operand text => rfl
  | on other => rfl
  | value other text => simp

theorem contains_on_spared (words : List Word) (switch : Switch) :
    (words.filter (Word.spares dropped)).contains (.on switch) = words.contains (.on switch) := by
  rw [Bool.eq_iff_iff, List.contains_iff_mem, List.contains_iff_mem, List.mem_filter]
  exact and_iff_left rfl

/-- A switch that is kept is checked as before. -/
theorem checkSwitch_spared (files : Files) (words : List Word) {switch : Switch}
    (h : switch ≠ dropped) :
    checkSwitch files (words.filter (Word.spares dropped)) switch =
      checkSwitch files words switch := by
  cases switch with
  | rules => rw [checkSwitch, checkSwitch, valueOf?_spared words h]
  | output => rw [checkSwitch, checkSwitch, valueOf?_spared words h]
  | format => rw [checkSwitch, checkSwitch, formatOf, formatOf, valueOf?_spared words h]
  | logLevel => rw [checkSwitch, checkSwitch, levelOf, levelOf, valueOf?_spared words h]
  | ruleset => rfl
  | rule => rfl
  | listRules => rfl
  | help => rfl

theorem checkSwitches_spared {files : Files} {given : List Word}
    (h : checkSwitches files words given = .ok ()) :
    checkSwitches files (words.filter (Word.spares dropped))
      (given.filter (Word.spares dropped)) = .ok () := by
  induction given with
  | nil => rfl
  | cons said rest ih =>
      cases said with
      | operand text =>
          rw [List.filter_cons_of_pos rfl]
          exact ih h
      | on switch =>
          rw [List.filter_cons_of_pos rfl]
          exact ih h
      | value switch text =>
          rw [checkSwitches] at h
          obtain ⟨checked, hswitch, hrest⟩ := bind_eq_ok_iff.1 h
          by_cases hdropped : switch = dropped
          · rw [List.filter_cons_of_neg (by simp [Word.spares, hdropped])]
            exact ih hrest
          · rw [List.filter_cons_of_pos (by simp [Word.spares, hdropped]), checkSwitches]
            refine bind_eq_ok_iff.2 ⟨checked, ?_, ih hrest⟩
            rw [checkSwitch_spared files words hdropped, hswitch]

/-! ## What a line asks for -/

/-- Words that ask for a run. -/
structure Asks (files : Files) (words : List Word) (arguments : Arguments) : Prop where
  no_help : words.contains (.on .help) = false
  checked : checkSwitches files words words = .ok ()
  path_eq : pathOf files (operands words) = .ok arguments.path
  rulesFile_eq : arguments.rulesFile = valueOf? .rules words
  ruleset_eq : arguments.ruleset = valueOf? .ruleset words
  rules_eq : arguments.rules = valuesOf .rule words
  format_eq : formatOf words = .ok arguments.format
  output_eq : arguments.output = valueOf? .output words
  listRules_eq : arguments.listRules = words.contains (.on .listRules)
  logLevel_eq : levelOf words = .ok arguments.logLevel

theorem request_eq_run_iff {files : Files} {line : List String} {arguments : Arguments} :
    request files line = .ok (.run arguments) ↔
      ∃ words, readWords line = .ok words ∧ Asks files words arguments := by
  constructor
  · intro h
    obtain ⟨words, hwords, h⟩ := bind_eq_ok_iff.1 h
    have hread : readWords line = .ok words := mapError_eq_ok_iff.1 hwords
    split at h
    · cases h
    · rename_i hhelp
      obtain ⟨checked, hchecked, h⟩ := bind_eq_ok_iff.1 h
      obtain ⟨path, hpath, h⟩ := bind_eq_ok_iff.1 h
      obtain ⟨format, hformat, h⟩ := bind_eq_ok_iff.1 h
      obtain ⟨level, hlevel, h⟩ := bind_eq_ok_iff.1 h
      cases h
      exact ⟨words, hread, by simpa using hhelp, hchecked, hpath, rfl, rfl, rfl, hformat, rfl, rfl,
        hlevel⟩
  · rintro ⟨words, hread, h⟩
    obtain ⟨path, rulesFile, ruleset, rules, format, output, listRules, logLevel⟩ := arguments
    obtain ⟨hhelp, hchecked, hpath, rfl, rfl, rfl, hformat, rfl, rfl, hlevel⟩ := h
    refine bind_eq_ok_iff.2 ⟨words, mapError_eq_ok_iff.2 hread, ?_⟩
    rw [hhelp, if_neg Bool.false_ne_true]
    refine bind_eq_ok_iff.2 ⟨(), hchecked, bind_eq_ok_iff.2 ⟨path, hpath, ?_⟩⟩
    exact bind_eq_ok_iff.2 ⟨format, hformat, bind_eq_ok_iff.2 ⟨logLevel, hlevel, rfl⟩⟩

/-- Without the switch for the output, a line asks for the same run without an output. -/
theorem request_without_output {files : Files} {line : List String} {arguments : Arguments}
    (h : request files line = .ok (.run arguments)) :
    request files (without .output line) = .ok (.run { arguments with output := none }) := by
  obtain ⟨words, hread, hasks⟩ := request_eq_run_iff.1 h
  refine request_eq_run_iff.2 ⟨_, readWords_without hread, ?_⟩
  exact {
    no_help := by rw [contains_on_spared, hasks.no_help]
    checked := checkSwitches_spared hasks.checked
    path_eq := by rw [operands_spared, hasks.path_eq]
    rulesFile_eq := by rw [valueOf?_spared words (by decide), hasks.rulesFile_eq]
    ruleset_eq := by rw [valueOf?_spared words (by decide), hasks.ruleset_eq]
    rules_eq := by rw [valuesOf_spared words (by decide), hasks.rules_eq]
    format_eq := by rw [formatOf, valueOf?_spared words (by decide), ← formatOf, hasks.format_eq]
    output_eq := by rw [valueOf?, valuesOf_dropped]; rfl
    listRules_eq := by rw [contains_on_spared, hasks.listRules_eq]
    logLevel_eq := by
      rw [levelOf, valueOf?_spared words (by decide), ← levelOf, hasks.logLevel_eq] }

end DepthRules.CommandLine
