import DepthRules.Log

/-!
# What tasks give

A task writes to a log and may fail. `Task.Gives task result` says that it comes to `result`
whatever has been logged before. A task of several steps gives what its steps give one after the
other (`Gives.bind`), so that what it comes to can be computed without its log.
-/

namespace DepthRules.Task

variable {ε δ α β : Type}

/-- What a task comes to after what has been logged before, and the log then, each with the last
entry first. -/
def runFrom (task : Task ε α) (entries : List LogEntry) : Except ε α × List LogEntry :=
  Id.run (StateT.run (ExceptT.run task) entries)

/-- The task comes to the result, whatever has been logged before. -/
def Gives (task : Task ε α) (result : Except ε α) : Prop :=
  ∀ entries, (task.runFrom entries).1 = result

theorem runFrom_bind (task : Task ε α) (next : α → Task ε β) (entries : List LogEntry) :
    (task >>= next).runFrom entries =
      match task.runFrom entries with
      | (.ok a, more) => (next a).runFrom more
      | (.error e, more) => (.error e, more) := by
  simp only [runFrom, ExceptT.run_bind, StateT.run_bind, Id.run_bind]
  rcases Id.run (StateT.run (ExceptT.run task) entries) with ⟨result, more⟩
  cases result with
  | error e => rfl
  | ok a => rfl

theorem Gives.outcome {task : Task ε α} {result : Except ε α} (h : task.Gives result) :
    task.outcome.1 = result := h []

theorem gives_pure (a : α) : (pure a : Task ε α).Gives (.ok a) := fun _ => rfl

theorem gives_log (level : LogLevel) (source : LogSource) (message : Str) :
    (log level source message : Task ε Unit).Gives (.ok ()) := fun _ => rfl

theorem gives_ofExcept (wrap : δ → ε) (result : Except δ α) :
    (ofExcept wrap result).Gives (result.mapError wrap) := by
  intro entries
  cases result with
  | error e => rfl
  | ok a => rfl

theorem gives_ofExcept_id (result : Except ε α) : (ofExcept id result).Gives result := by
  intro entries
  cases result with
  | error e => rfl
  | ok a => rfl

theorem Gives.adapt {task : Task δ α} {result : Except δ α} (h : task.Gives result)
    (wrap : δ → ε) : Gives (ExceptT.adapt wrap task) (result.mapError wrap) := by
  intro entries
  rw [← h entries]
  rfl

/-- The steps of a task give what each of them gives. -/
theorem Gives.bind {task : Task ε α} {next : α → Task ε β} {result : Except ε α}
    {results : α → Except ε β} (h : task.Gives result) (hnext : ∀ a, (next a).Gives (results a)) :
    (task >>= next).Gives (result >>= results) := by
  intro entries
  have hfirst := h entries
  rw [runFrom_bind]
  rcases hrun : task.runFrom entries with ⟨first, more⟩
  rw [hrun] at hfirst
  rw [← hfirst]
  -- a failure of the first step skips the second on both sides
  cases first with
  | error e => rfl
  | ok a => exact hnext a more

/-- Further steps that succeed change only what a task comes to. -/
theorem Gives.map {task : Task ε α} {next : α → Task ε β} {result : Except ε α} {f : α → β}
    (h : task.Gives result) (hnext : ∀ a, (next a).Gives (.ok (f a))) :
    (task >>= next).Gives (result.map f) := by
  have hbind : (task >>= next).Gives (result >>= fun a => .ok (f a)) := h.bind hnext
  cases result with
  | error e => exact hbind
  | ok a => exact hbind

/-- Further steps that succeed with what the first comes to change nothing. -/
theorem Gives.keep {task : Task ε α} {next : α → Task ε α} {result : Except ε α}
    (h : task.Gives result) (hnext : ∀ a, (next a).Gives (.ok a)) :
    (task >>= next).Gives result := by
  have hmap : (task >>= next).Gives (result.map id) := h.map hnext
  cases result with
  | error e => exact hmap
  | ok a => exact hmap

/-- After a step that succeeds the rest is done with what it came to. -/
theorem Gives.next {task : Task ε α} {next : α → Task ε β} {a : α} {result : Except ε β}
    (h : task.Gives (.ok a)) (hnext : (next a).Gives result) : (task >>= next).Gives result := by
  intro entries
  have hfirst := h entries
  rw [runFrom_bind]
  rcases hrun : task.runFrom entries with ⟨first, more⟩
  rw [hrun] at hfirst
  cases hfirst
  exact hnext more

/-- After a step that fails nothing more is done. -/
theorem Gives.stop {task : Task ε α} {next : α → Task ε β} {e : ε} (h : task.Gives (.error e)) :
    (task >>= next).Gives (.error e) := by
  intro entries
  have hfirst := h entries
  rw [runFrom_bind]
  rcases hrun : task.runFrom entries with ⟨first, more⟩
  rw [hrun] at hfirst
  cases hfirst
  rfl

/-- A loop whose steps succeed succeeds. -/
theorem gives_forIn (items : List α) {act : α → Task ε Unit} (h : ∀ a, (act a).Gives (.ok ())) :
    Gives (forIn items () fun a _ => do act a; pure (ForInStep.yield ())) (.ok ()) := by
  induction items with
  | nil => exact gives_pure ()
  | cons a rest ih =>
      rw [List.forIn_cons]
      have hfirst : Gives (do act a; pure (ForInStep.yield ())) (.ok (ForInStep.yield ())) :=
        (h a).next (gives_pure _)
      exact hfirst.next ih

end DepthRules.Task
