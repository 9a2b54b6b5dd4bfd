/-!
# Log

What an operation reports besides its answer. A log is part of the answer of the operations here, in the order in
which the lines were written.
-/

namespace SqlMapper

/-- How serious a line is. -/
inductive Level where
  | debug
  | warn
  | error
deriving DecidableEq, Repr

/-- The name of a level in front of its lines. -/
def Level.name : Level → String
  | debug => "DEBUG"
  | warn => "WARN"
  | error => "ERROR"

/-- One line of a log. -/
structure LogLine where
  level : Level
  message : String
deriving DecidableEq, Repr

/-- A line about normal work. -/
def LogLine.debug (message : String) : LogLine := ⟨.debug, message⟩

/-- A line about something that may be a mistake. -/
def LogLine.warn (message : String) : LogLine := ⟨.warn, message⟩

/-- A line about a failure. -/
def LogLine.error (message : String) : LogLine := ⟨.error, message⟩

/-- Lines in the order in which they were written. -/
abbrev Log := List LogLine

end SqlMapper
