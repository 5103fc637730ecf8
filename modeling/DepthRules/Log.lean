import DepthRules.Str

/-!
# Logs

What a task tells on its way, whether it succeeds or not.
-/

namespace DepthRules

/-- How important an entry is. -/
inductive LogLevel where
  | debug
  | info
  | warning
  | error
  | critical
  deriving DecidableEq, Repr

namespace LogLevel

/-- All levels, the least important first. -/
def all : List LogLevel := [.debug, .info, .warning, .error, .critical]

/-- The word for a level. -/
def word : LogLevel → String
  | .debug => "DEBUG"
  | .info => "INFO"
  | .warning => "WARNING"
  | .error => "ERROR"
  | .critical => "CRITICAL"

/-- The place of a level among all levels. -/
def rank : LogLevel → Nat
  | .debug => 0
  | .info => 1
  | .warning => 2
  | .error => 3
  | .critical => 4

end LogLevel

/-- The part of a task an entry comes from. -/
inductive LogSource where
  | pass
  | document
  | rules
  | engine
  deriving DecidableEq, Repr

/-- An entry of a log. -/
structure LogEntry where
  level : LogLevel
  source : LogSource
  message : Str
  deriving DecidableEq, Repr

/-- A task with a log, the last entry first, which is kept if the task fails. -/
abbrev Task (ε α : Type) := ExceptT ε (StateM (List LogEntry)) α

namespace Task

variable {ε α : Type}

/-- Adds an entry to the log. -/
def log (level : LogLevel) (source : LogSource) (message : Str) : Task ε Unit :=
  modifyThe (List LogEntry) fun entries => ⟨level, source, message⟩ :: entries

/-- A task that may fail and tells nothing, its error as one of another kind. -/
def ofExcept {δ : Type} (wrap : δ → ε) : Except δ α → Task ε α
  | .ok a => pure a
  | .error e => throw (wrap e)

/-- The outcome of a task and its log, the first entry first. -/
def outcome (task : Task ε α) : Except ε α × List LogEntry :=
  let (outcome, entries) := Id.run (StateT.run (ExceptT.run task) [])
  (outcome, entries.reverse)

end Task

end DepthRules
