namespace IndexSearch

/-!
# Log levels

How grave an event must be to be reported. Two of the levels have a second name.
-/

/-- A log level. -/
inductive LogLevel where
  /-- Only what ends the work. -/
  | critical
  /-- Also what fails. -/
  | error
  /-- Also what is doubtful. -/
  | warning
  /-- Also what is done. -/
  | info
  /-- Also how it is done. -/
  | debug
  /-- No level of its own. -/
  | unset
deriving DecidableEq

namespace LogLevel

/-- The name of a level. -/
def name : LogLevel → String
  | critical => "CRITICAL"
  | error => "ERROR"
  | warning => "WARNING"
  | info => "INFO"
  | debug => "DEBUG"
  | unset => "NOTSET"

/-- All levels. -/
def all : List LogLevel := [critical, error, warning, info, debug, unset]

/-- Second names of levels. -/
def otherNames : List (String × LogLevel) := [("FATAL", critical), ("WARN", warning)]

/-- The level of a name. -/
def ofName? (s : String) : Option LogLevel :=
  match all.find? fun l => l.name = s, otherNames.find? fun n => n.1 = s with
  | some l, _ => some l
  | none, some n => some n.2
  | none, none => none

/-- The level of the name of a level is the level. -/
theorem ofName?_name (l : LogLevel) : ofName? l.name = some l := by
  cases l <;> rfl

end LogLevel

end IndexSearch
