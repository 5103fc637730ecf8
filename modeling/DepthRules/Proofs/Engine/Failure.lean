import DepthRules.Proofs.Engine.Walk

/-!
# Handlers that fail

A handler may fail at any call, which may depend on all calls made before, in this run and in the
runs before it. `Engine.outcome` is what a run comes to after the calls of earlier runs, and
`Engine.outcomes` what several runs of one engine come to, one after the other. `CutAt` says how a
failure cuts a list of calls, and `outcomes_cutAt` that every run makes the calls it would make if
no handler failed, cut in this way, and that nothing of an earlier run but its calls bears on it.
-/

namespace DepthRules

/-- When handlers fail: with what the handler of a call fails after the calls made before, if it
does. -/
abbrev Failing (ε : Type) := List Call → Call → Option ε

/-- The calls of the runs before a run, and those made in it so far. -/
structure History where
  past : List Call
  made : List Call

variable {ε : Type}

/-- How a failure cuts the calls `full`, which are due after the calls `past`: if none of them
fails, all are made and there is no failure. Otherwise those up to and including the first that
fails are made, and the failure is the one its handler fails with. -/
inductive CutAt (fails : Failing ε) (past full : List Call) : List Call → Option ε → Prop
  | whole (h : ∀ before c after, full = before ++ c :: after → fails (past ++ before) c = none) :
      CutAt fails past full full none
  | cut {before after : List Call} {c : Call} {failure : ε} (hfull : full = before ++ c :: after)
      (hbefore : ∀ b d a, before = b ++ d :: a → fails (past ++ b) d = none)
      (hfails : fails (past ++ before) c = some failure) :
      CutAt fails past full (before ++ [c]) (some failure)

namespace CutAt

variable {fails : Failing ε} {past full made : List Call} {failure : Option ε}

theorem nil : CutAt fails past [] [] none :=
  .whole fun before c after h => by simp at h

theorem head {c : Call} {e : ε} (h : fails past c = some e) (rest : List Call) :
    CutAt fails past (c :: rest) [c] (some e) := by
  have hnil : ∀ b d a, [] = b ++ d :: a → fails (past ++ b) d = none :=
    fun b d a hb => by simp at hb
  have hc : fails (past ++ []) c = some e := by rw [List.append_nil, h]
  exact .cut rfl hnil hc

/-- A list of calls none of which fails is one call after another. -/
theorem none_fails_cons {c : Call} {calls : List Call} (hc : fails past c = none)
    (h : ∀ b d a, calls = b ++ d :: a → fails (past ++ [c] ++ b) d = none) :
    ∀ b d a, c :: calls = b ++ d :: a → fails (past ++ b) d = none := by
  intro b d a hcalls
  cases b with
  | nil =>
      rw [List.nil_append, List.cons.injEq] at hcalls
      rw [List.append_nil, ← hcalls.1]
      exact hc
  | cons x b =>
      rw [List.cons_append, List.cons.injEq] at hcalls
      have hd := h b d a hcalls.2
      rw [List.append_assoc, List.singleton_append, hcalls.1] at hd
      exact hd

theorem cons {c : Call} (hc : fails past c = none)
    (h : CutAt fails (past ++ [c]) full made failure) :
    CutAt fails past (c :: full) (c :: made) failure := by
  cases h with
  | whole h => exact .whole (none_fails_cons hc h)
  | @cut before after d e hfull hbefore hfails =>
      have hd : fails (past ++ (c :: before)) d = some e := by
        rw [← List.singleton_append, ← List.append_assoc]
        exact hfails
      rw [hfull, ← List.cons_append]
      exact .cut rfl (none_fails_cons hc hbefore) hd

end CutAt

namespace Engine

/-- The listener for handlers that may fail. A call counts as made also if it fails. -/
def failingListener (fails : Failing ε) : Listener History ε
  | .read _ _ => .done
  | .call c => fun h => (⟨h.past, h.made ++ [c]⟩, fails (h.past ++ h.made) c)

/-- What a run comes to after the calls `past` of earlier runs: the calls made in it, and the
failure that ended it if it was not completed. -/
def outcome (engine : Engine) (fails : Failing ε) (past : List Call) (root : Node) :
    List Call × Option ε :=
  let (history, failure) := engine.run (failingListener fails) root ⟨past, []⟩
  (history.made, failure)

/-- What runs over several trees come to, one after the other on one engine, whether they are
completed or not. -/
def outcomes (engine : Engine) (fails : Failing ε) (past : List Call) :
    List Node → List (List Call × Option ε)
  | [] => []
  | root :: rest =>
      let here := engine.outcome fails past root
      here :: engine.outcomes fails (past ++ here.1) rest

/-- The calls that were made in the first runs. -/
def madeBefore (outcomes : List (List Call × Option ε)) (runs : Nat) : List Call :=
  (outcomes.take runs).flatMap Prod.fst

/-! ## One run -/

/-- Going through calls makes them up to the first failure. -/
theorem each_failing_cutAt (fails : Failing ε) (past calls made : List Call) :
    ∃ more failure,
      Run.each (fun c => failingListener fails (.call c)) calls ⟨past, made⟩ =
        (⟨past, made ++ more⟩, failure) ∧
      CutAt fails (past ++ made) calls more failure := by
  induction calls generalizing made with
  | nil => exact ⟨[], none, by rw [List.append_nil]; rfl, .nil⟩
  | cons c rest ih =>
      cases hc : fails (past ++ made) c with
      | some e =>
          -- this call fails, so it is the last one made and nothing follows it
          refine ⟨[c], some e, ?_, .head hc rest⟩
          simp only [Run.each_cons, Run.andThen, failingListener, hc]
      | none =>
          -- this call succeeds: the rest is cut as it is after one more call
          obtain ⟨more, failure, heach, hcut⟩ := ih (made ++ [c])
          refine ⟨c :: more, failure, ?_, .cons hc ?_⟩
          · simp only [Run.each_cons, Run.andThen, failingListener, hc]
            rw [List.append_assoc, List.singleton_append] at heach
            exact heach
          · rw [List.append_assoc]
            exact hcut

/-- Calls of earlier runs bear on a run only as what the handlers know of. -/
theorem each_failing_shift (fails : Failing ε) (past calls made : List Call) :
    Run.each (fun c => failingListener (fun before => fails (past ++ before)) (.call c)) calls
        ⟨[], made⟩ =
      let (history, failure) :=
        Run.each (fun c => failingListener fails (.call c)) calls ⟨past, made⟩
      (⟨[], history.made⟩, failure) := by
  induction calls generalizing made with
  | nil => rfl
  | cons c rest ih =>
      cases hc : fails (past ++ made) c with
      | some e => simp only [Run.each_cons, Run.andThen, failingListener, List.nil_append, hc]
      | none =>
          simp only [Run.each_cons, Run.andThen, failingListener, List.nil_append, hc]
          exact ih (made ++ [c])

theorem run_failingListener (engine : Engine) (fails : Failing ε) (root : Node) :
    engine.run (failingListener fails) root =
      Run.each (fun c => failingListener fails (.call c)) (engine.calls root) :=
  run_eq_each_calls engine _ (fun _ _ => rfl) root

/-- A run makes the calls of a run that nothing stops, cut at the first failure. -/
theorem outcome_cutAt (engine : Engine) (fails : Failing ε) (past : List Call) (root : Node) :
    CutAt fails past (engine.calls root) (engine.outcome fails past root).1
      (engine.outcome fails past root).2 := by
  obtain ⟨more, failure, heach, hcut⟩ := each_failing_cutAt fails past (engine.calls root) []
  rw [List.append_nil] at hcut
  simp only [outcome, run_failingListener, heach, List.nil_append]
  exact hcut

/-- If no handler fails, a run makes all its calls. -/
theorem outcome_of_none_fails (engine : Engine) (root : Node) :
    engine.outcome (fun _ _ => none : Failing ε) [] root = (engine.calls root, none) := by
  have hcut := outcome_cutAt engine (fun _ _ => none : Failing ε) [] root
  -- a cut would need a call that fails
  rcases hout : engine.outcome (fun _ _ => none : Failing ε) [] root with ⟨made, failure⟩
  rw [hout] at hcut
  cases hcut with
  | whole => rfl
  | cut _ _ hfails => simp at hfails

theorem outcome_shift (engine : Engine) (fails : Failing ε) (past : List Call) (root : Node) :
    engine.outcome (fun before => fails (past ++ before)) [] root =
      engine.outcome fails past root := by
  simp only [outcome, run_failingListener, each_failing_shift]

/-! ## Several runs -/

theorem outcomes_length (engine : Engine) (fails : Failing ε) (past : List Call)
    (roots : List Node) : (engine.outcomes fails past roots).length = roots.length := by
  induction roots generalizing past with
  | nil => rfl
  | cons root rest ih => simp only [outcomes, List.length_cons, ih]

/-- Each of several runs comes to what it comes to after the calls of those before it. -/
theorem outcomes_getElem? (engine : Engine) (fails : Failing ε) (past : List Call)
    (roots : List Node) (i : Nat) :
    (engine.outcomes fails past roots)[i]? =
      roots[i]?.map (engine.outcome fails
        (past ++ madeBefore (engine.outcomes fails past roots) i)) := by
  induction roots generalizing past i with
  | nil => rfl
  | cons root rest ih =>
      cases i with
      | zero => simp [outcomes, madeBefore]
      | succ i =>
          have hpast := ih (past ++ (engine.outcome fails past root).1) i
          rw [outcomes, List.getElem?_cons_succ, List.getElem?_cons_succ, hpast, madeBefore,
            madeBefore, List.take_succ_cons, List.flatMap_cons, List.append_assoc]

/-- Of several runs of an engine, each makes exactly the calls that a run over its tree makes on a
fresh engine with handlers that never fail, up to and including the first call that fails; the
failure that ends it is the one of that call, and without one all calls are made. It comes to what a
run on a fresh engine comes to whose handlers know of the earlier calls. -/
theorem outcomes_cutAt (engine : Engine) (fails : Failing ε) (roots : List Node) :
    (engine.outcomes fails [] roots).length = roots.length ∧
      ∀ i : Fin roots.length, ∃ full made failure,
        engine.outcome (fun _ _ => none : Failing ε) [] roots[i] = (full, none) ∧
        (engine.outcomes fails [] roots)[i.val]? = some (made, failure) ∧
        CutAt fails (madeBefore (engine.outcomes fails [] roots) i) full made failure ∧
        engine.outcome
            (fun before => fails (madeBefore (engine.outcomes fails [] roots) i ++ before)) []
            roots[i] = (made, failure) := by
  refine ⟨outcomes_length engine fails [] roots, fun i => ?_⟩
  have hget := outcomes_getElem? engine fails [] roots i
  rw [List.getElem?_eq_getElem i.isLt, Option.map_some, List.nil_append] at hget
  -- what the earlier runs made is from here on any list of calls
  generalize madeBefore (engine.outcomes fails [] roots) i = past at hget ⊢
  exact ⟨engine.calls roots[i], _, _, outcome_of_none_fails engine roots[i], hget,
    outcome_cutAt engine fails past roots[i], outcome_shift engine fails past roots[i]⟩

end Engine

end DepthRules
