/-!
# Levels of log records
-/

namespace SecretSync

/-- How much a log record matters. -/
inductive LogLevel where
  | debug
  | info
  | warning
  | error
  | critical
  deriving DecidableEq, Repr

namespace LogLevel

/-- The number of a level. -/
def number : LogLevel → Nat
  | debug => 10
  | info => 20
  | warning => 30
  | error => 40
  | critical => 50

/-- The word for a level. -/
def name : LogLevel → String
  | debug => "debug"
  | info => "info"
  | warning => "warning"
  | error => "error"
  | critical => "critical"

/-- The level that a word names. -/
def ofName? (s : String) : Option LogLevel :=
  [debug, info, warning, error, critical].find? (fun l => l.name == s)

/-- Other words for levels. -/
def synonyms : List (String × LogLevel) := [("warn", warning), ("fatal", critical)]

/-- The level that a word names, also by another word. -/
def ofWord? (s : String) : Option LogLevel := (ofName? s).or (synonyms.lookup s)

/-- Whether a record of one level matters where another one is required. -/
def reaches (level threshold : LogLevel) : Bool := threshold.number ≤ level.number

end LogLevel
end SecretSync
