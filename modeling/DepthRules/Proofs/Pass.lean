import DepthRules.Pass
import DepthRules.Proofs.Document
import DepthRules.Proofs.Engine.Walk
import DepthRules.Proofs.Rule.Loading
import Mathlib

/-!
# What a pass reports

`Pass.matchesIn` says which matches declarations make in a tree: node by node in the order of the
walk without a limit, and at each node declaration by declaration. A pass whose document can be read
and whose rules can be loaded always succeeds and reports just these (`Pass.run_reports`). The call
of a rule is put down to the declaration with the number of the rule, and the numbers are those of
the declarations' places in their list, so that declarations that look the same are still told
apart.
-/

namespace DepthRules

namespace Declaration

/-- Whether a declaration is about a node, at whatever level it is. -/
def Selects (d : Declaration) (node : Node) : Prop :=
  match d.kind with
  | .comment => node.kind = .comment
  | .element | .content => node.kind = .element ∧ d.tag = some ↑node.name

instance (d : Declaration) (node : Node) : Decidable (d.Selects node) := by
  unfold Selects
  split <;> infer_instance

/-- What a handler is given of a node for a declaration. -/
def valueAt (d : Declaration) (node : Node) : Payload :=
  match d.kind with
  | .element => .attributes node.attributes
  | .content | .comment => .text node.textContent

/-- The match of a declaration at the node at a place, if it applies there. -/
def matchAt (found : Place × Node) (d : Declaration) : Option Match :=
  if d.depth = found.1.level ∧ d.Selects found.2 then
    some ⟨d.label, d.kind.word, found.1.level, found.2.name, (d.valueAt found.2).given⟩
  else none

/-- The rule that is declared. -/
def rule (d : Declaration) : Rule := ⟨d.kind, d.depth, d.tag⟩

end Declaration

namespace Pass

/-- The matches that declarations make in the tree with the given root. -/
def matchesIn (declarations : List Declaration) (root : Node) : List Match :=
  (root.reached []).flatMap fun found => declarations.filterMap (Declaration.matchAt found)

/-- The greatest depth of declarations, zero if there are none. -/
def IsGreatestDepth (declarations : List Declaration) (depth : Nat) : Prop :=
  (∀ d ∈ declarations, d.depth ≤ depth) ∧
    (declarations = [] ∧ depth = 0 ∨ ∃ d ∈ declarations, d.depth = depth)

/-! ## Rules of valid declarations -/

/-- The rules that are declared, each with the handler that is chosen for its declaration. -/
def bindAll {η : Type} (handler : Declaration → η) :
    List Declaration → Except Rule.NameError (List (Rule × η))
  | [] => .ok []
  | d :: rest => do
      let rule ← d.toRule
      let bound ← bindAll handler rest
      return (rule, handler d) :: bound

/-- Handlers do not bear on whether declarations can be bound, nor on the rules. -/
theorem map_bindAll {η : Type} (handler : Declaration → η) (declarations : List Declaration) :
    (bindAll handler declarations).map (List.map Prod.fst) = rulesOf declarations := by
  induction declarations with
  | nil => rfl
  | cons d rest ih =>
      rw [bindAll, rulesOf, ← ih]
      cases d.toRule with
      | error cause => rfl
      | ok rule =>
          cases bindAll handler rest with
          | error cause => rfl
          | ok bound => rfl

theorem bindAll_of_valid {η : Type} (handler : Declaration → η) {declarations : List Declaration}
    (h : ∀ d ∈ declarations, d.Valid) :
    bindAll handler declarations = .ok (declarations.map fun d => (d.rule, handler d)) := by
  induction declarations with
  | nil => rfl
  | cons d rest ih =>
      obtain ⟨hd, hrest⟩ := List.forall_mem_cons.1 h
      rw [bindAll, Declaration.toRule_of_tagFits hd.tagFits, ih hrest]
      rfl

theorem rulesOf_of_valid {declarations : List Declaration} (h : ∀ d ∈ declarations, d.Valid) :
    rulesOf declarations = .ok (declarations.map Declaration.rule) := by
  rw [← map_bindAll (fun _ => ()) declarations, bindAll_of_valid _ h, Except.map, List.map_map]
  rfl

/-- The deepest level of an engine is the greatest depth of its declarations. -/
theorem exists_greatestDepth {declarations : List Declaration} (h : ∀ d ∈ declarations, d.Valid) :
    ∃ depth : Nat, Engine.deepest (declarations.map Declaration.rule) = depth ∧
      IsGreatestDepth declarations depth := by
  have hle : ∀ d ∈ declarations,
      d.depth ≤ Engine.deepest (declarations.map Declaration.rule) := fun d hd =>
    Engine.le_deepest (List.mem_map_of_mem hd : d.rule ∈ declarations.map Declaration.rule)
  cases declarations with
  | nil => exact ⟨0, rfl, hle, .inl ⟨rfl, rfl⟩⟩
  | cons first rest =>
      have hne : (first :: rest).map Declaration.rule ≠ [] := List.cons_ne_nil _ _
      obtain ⟨rule, hrule, hdepth⟩ := Engine.exists_depth_eq_deepest hne
      obtain ⟨d, hd, rfl⟩ := List.mem_map.1 hrule
      obtain ⟨depth, hnat⟩ := Int.eq_ofNat_of_zero_le (h d hd).depth_nonneg
      have hdeepest : Engine.deepest ((first :: rest).map Declaration.rule) = depth := by
        rw [← hnat]
        exact hdepth.symm
      rw [hdeepest] at hle
      exact ⟨depth, hdeepest, hle, .inr ⟨d, hd, hnat⟩⟩

/-! ## Matches of calls -/

/-- The match that a call is recorded as. -/
def matchOf (declarations : List Declaration) (call : Call) : Option Match :=
  declarations[call.rule]?.map fun d =>
    ⟨d.label, d.kind.word, d.depth.toNat, call.node.name, call.payload.given⟩

theorem make_of_nonneg {depth : Int} (h : 0 ≤ depth) (label kind nodeName : Str)
    (value : Given) :
    Match.make label kind depth nodeName value =
      .ok ⟨label, kind, depth.toNat, nodeName, value⟩ := by
  rw [Match.make, Checked.natural, if_neg (Int.not_lt.2 h)]
  rfl

/-- A call is recorded without a defect. -/
theorem record_call {declarations : List Declaration} (h : ∀ d ∈ declarations, d.Valid)
    (call : Call) :
    record declarations (.call call) =
      (matchOf declarations call).elim .done fun m recorded => (m :: recorded, none) := by
  funext recorded
  cases hd : declarations[call.rule]? with
  | none => simp only [record, matchOf, hd, Option.map_none, Option.elim_none, Run.done]
  | some d =>
      have hdepth := (h d (List.mem_of_getElem? hd)).depth_nonneg
      simp only [record, matchOf, hd, Option.map_some, Option.elim_some, make_of_nonneg hdepth]

/-- All calls of a run are recorded, in their order. -/
theorem matchesOf_eq {declarations : List Declaration} (h : ∀ d ∈ declarations, d.Valid)
    (rules : List Rule) (root : Node) :
    matchesOf declarations (Engine.ofRules rules) root =
      .ok ((Rule.calls rules root).filterMap (matchOf declarations)) := by
  have hrun : (Engine.ofRules rules).run (record declarations) root [] =
      (((Rule.calls rules root).filterMap (matchOf declarations)).foldl
        (fun recorded m => m :: recorded) [], none) := by
    rw [Engine.run_eq_each_calls _ _ (fun _ _ => rfl), Engine.calls_ofRules,
      Run.each_filterMap _ (fun m recorded => (m :: recorded, none)) (matchOf declarations)
        (record_call h)]
    exact Run.each_eq_foldl _ _ _ (fun _ _ _ => rfl) []
  rw [List.foldl_flip_cons_eq_append', List.append_nil] at hrun
  rw [matchesOf, hrun]
  exact congrArg Except.ok (List.reverse_reverse _)

/-! ## Calls at a node -/

/-- At elements and comments the rule of a declaration is called where the declaration is about the
node. -/
theorem payloadAt_rule (d : Declaration) (level : Nat) {node : Node}
    (hnode : node.kind = .element ∨ node.kind = .comment) :
    d.rule.payloadAt level node =
      if d.depth = level ∧ d.Selects node then some (d.valueAt node) else none := by
  -- the engine asks for nodes that are no comments, which here are the elements
  have hkinds : node.kind ≠ .comment ↔ node.kind = .element := by
    rcases hnode with hnode | hnode <;> simp [hnode]
  rw [Rule.payloadAt, Declaration.rule]
  by_cases hdepth : d.depth = level
  · cases hkind : d.kind with
    | comment => simp [hdepth, Declaration.Selects, Declaration.valueAt, hkind]
    | element | content =>
        simp [hdepth, Declaration.Selects, Declaration.valueAt, hkind, ← hkinds]
  · simp [hdepth]

/-- The match of a call is that of the declaration with the number of the rule. -/
theorem callAt_bind_matchOf {declarations : List Declaration} {d : Declaration} {number : Nat}
    (hd : declarations[number]? = some d) {found : Place × Node}
    (hnode : found.2.kind = .element ∨ found.2.kind = .comment) :
    (Rule.callAt found.1 found.2 (d.rule, number)).bind (matchOf declarations) =
      d.matchAt found := by
  rw [Rule.callAt, payloadAt_rule d found.1.level hnode, Declaration.matchAt]
  by_cases happlies : d.depth = found.1.level ∧ d.Selects found.2
  · have hlevel : d.depth.toNat = found.1.level := by omega
    simp [if_pos happlies, matchOf, hd, hlevel]
  · simp [if_neg happlies]

/-- The matches of the calls at a node are those of the declarations that apply there. -/
theorem callsAt_filterMap (declarations : List Declaration) {found : Place × Node}
    (hnode : found.2.kind = .element ∨ found.2.kind = .comment) :
    (Rule.callsAt (declarations.map Declaration.rule).zipIdx found).filterMap
        (matchOf declarations) =
      declarations.filterMap (Declaration.matchAt found) := by
  -- the numbers of the rules are the places of their declarations in the list
  have hnumbered : declarations.filterMap (Declaration.matchAt found) =
      declarations.zipIdx.filterMap fun r => r.1.matchAt found := by
    conv_lhs => rw [← List.zipIdx_map_fst 0 declarations, List.filterMap_map]
    rfl
  rw [hnumbered, Rule.callsAt, List.zipIdx_map, List.filterMap_map, List.filterMap_filterMap]
  refine List.filterMap_congr fun r hr => ?_
  exact callAt_bind_matchOf (List.mem_zipIdx_iff_getElem?.1 hr) hnode

/-- In a tree whose root is an element, the matches of the calls are those of the declarations. -/
theorem calls_filterMap (declarations : List Declaration) {root : Node}
    (hroot : root.kind = .element) :
    (Rule.calls (declarations.map Declaration.rule) root).filterMap (matchOf declarations) =
      matchesIn declarations root := by
  rw [Rule.calls, List.filterMap_flatMap, matchesIn]
  refine List.flatMap_congr fun found hfound => ?_
  exact callsAt_filterMap declarations
    (Node.kind_of_mem_reached (.inl hroot) [] found hfound)

/-! ## Reports -/

theorem reportMake_eq (path : Option String) (maxDepth ruleCount : Nat) (found : List Match) :
    Report.make path maxDepth ruleCount found = .ok ⟨path, maxDepth, ruleCount, found⟩ := by
  have hmax : ¬ (maxDepth : Int) < 0 := by omega
  have hcount : ¬ (ruleCount : Int) < 0 := by omega
  rw [Report.make, Checked.natural, Checked.natural, if_neg hmax, if_neg hcount]
  rfl

variable {files : Files}

/-- With rules that can be loaded the engine for them is built. -/
theorem prepare_gives {settings : RulesSettings} {declarations : List Declaration}
    (hload : Rule.loadedRules files settings = .ok declarations) :
    (prepare files settings).Gives
      (.ok (declarations, Engine.ofRules (declarations.map Declaration.rule))) := by
  have hvalid := Rule.ensures_loadedRules files settings declarations hload
  have hrules : (Task.ofExcept PassError.rule (rulesOf declarations)).Gives
      (.ok (declarations.map Declaration.rule)) := by
    rw [rulesOf_of_valid hvalid]
    exact Task.gives_pure _
  have hloaded : (part PassError.load (Rule.load files settings)).Gives (.ok declarations) := by
    have hadapt := (Rule.load_gives files settings).adapt PassError.load
    rwa [hload] at hadapt
  refine (Task.gives_log _ _ _).next (hloaded.next (hrules.next ?_))
  exact (Task.gives_log _ _ _).next ((Task.gives_log _ _ _).next (Task.gives_pure _))

/-- A pass whose document can be read and whose rules can be loaded comes to a report. -/
theorem run_gives {settings : Settings} {path : String} {root : Node}
    {declarations : List Declaration}
    (hdoc : Document.fileRoot files settings.parse path = .ok root)
    (hload : Rule.loadedRules files settings.rules = .ok declarations) {depth : Nat}
    (hdepth : Engine.deepest (declarations.map Declaration.rule) = depth) :
    (run files settings path).Gives
      (.ok ⟨some (Path.normalize path), depth, declarations.length,
        matchesIn declarations root⟩) := by
  have hvalid := Rule.ensures_loadedRules files settings.rules declarations hload
  have hroot := Document.ensures_fileRoot files settings.parse path root hdoc
  have hread : (part PassError.document
      (Document.load files settings.parse (Path.normalize path))).Gives (.ok root) := by
    have hadapt := (Document.load_gives files settings.parse (Path.normalize path)).adapt
      PassError.document
    rwa [Document.fileRoot_normalize, hdoc] at hadapt
  have hmatches : (Task.ofExcept PassError.defects (matchesOf declarations
      (Engine.ofRules (declarations.map Declaration.rule)) root)).Gives
        (.ok (matchesIn declarations root)) := by
    rw [matchesOf_eq hvalid, calls_filterMap declarations hroot]
    exact Task.gives_pure _
  -- the stages of the pass, one after the other
  refine (Task.gives_log _ _ _).next (hread.next ((prepare_gives hload).next ?_))
  refine (Task.gives_log _ _ _).next (hmatches.next ((Task.gives_log _ _ _).next ?_))
  dsimp only [Engine.ofRules]
  rw [hdepth, reportMake_eq]
  exact Task.gives_pure _

/-- A pass over a document that can be read, with rules that can be loaded, succeeds. The rules are
those of the file in the settings and then those written there. The report counts them, has the
greatest depth among them, and holds the matches that they make in the document. -/
theorem run_reports {settings : Settings} {path : String} {root : Node}
    {declarations : List Declaration}
    (hdoc : (Document.load files settings.parse path).outcome.1 = .ok root)
    (hload : (Rule.load files settings.rules).outcome.1 = .ok declarations) :
    ∃ fromFile inline report,
      (Rule.loadFile files settings.rules).outcome.1 = .ok fromFile ∧
      Rule.parseAll settings.rules.rules = .ok inline ∧
      declarations = fromFile ++ inline ∧
      (run files settings path).outcome.1 = .ok report ∧
      report.path = some (Path.normalize path) ∧
      report.ruleCount = declarations.length ∧
      IsGreatestDepth declarations report.maxDepth ∧
      report.recorded = matchesIn declarations root := by
  rw [(Document.load_gives files settings.parse path).outcome] at hdoc
  rw [(Rule.load_gives files settings.rules).outcome] at hload
  obtain ⟨fromFile, inline, hfile, hinline, hboth⟩ := Rule.exists_of_loadedRules_eq_ok hload
  obtain ⟨depth, hdepth, hgreatest⟩ := exists_greatestDepth
    (Rule.ensures_loadedRules files settings.rules declarations hload)
  refine ⟨fromFile, inline, _, ?_, hinline, hboth, (run_gives hdoc hload hdepth).outcome, rfl, rfl,
    hgreatest, rfl⟩
  rw [(Rule.loadFile_gives files settings.rules).outcome, hfile]

/-- A tree with one document, which holds an element and a comment. -/
def noteFiles : Files :=
  ⟨[], [], [([['n']], "<n k=\"v\"><!--c--></n>".toUTF8.data.toList)]⟩

/-- Settings with the same element rule twice and a comment rule. -/
def noteSettings : Settings :=
  { Settings.standard with
    rules := ⟨none, "default", ["element:0:n", "comment:1", "element:0:n"]⟩ }

theorem run_reports_note : ∃ report, (run noteFiles noteSettings "./n").outcome.1 = .ok report ∧
    report.ruleCount = 3 ∧
    report.recorded = [⟨"element:0:n", "element", 0, "n", .attributes [("k", "v")]⟩,
      ⟨"element:0:n", "element", 0, "n", .attributes [("k", "v")]⟩,
      ⟨"comment:1", "comment", 1, "#comment", .text "c"⟩] := by
  have hdoc : (Document.load noteFiles noteSettings.parse "./n").outcome.1 =
      .ok (.mk .element "n" [("k", "v")] "" [.mk .comment "#comment" [] "c" []]) := by cbv
  have hload : (Rule.load noteFiles noteSettings.rules).outcome.1 =
      .ok [⟨.element, 0, some "n", "element:0:n"⟩, ⟨.comment, 1, none, "comment:1"⟩,
        ⟨.element, 0, some "n", "element:0:n"⟩] :=
    (Rule.load_gives noteFiles noteSettings.rules).outcome.trans (by rfl)
  obtain ⟨fromFile, inline, report, -, -, -, hrun, -, hcount, -, hrecorded⟩ :=
    run_reports hdoc hload
  exact ⟨report, hrun, hcount, hrecorded.trans (by rfl)⟩

end Pass

end DepthRules
