import Roster.Fault

/-!
# Log entries

A log entry has a level, a message and fields in a fixed order. How entries are written out is for
the writers of log lines to decide.
-/

namespace Roster.Log

/-- How grave an entry is. The named levels lie four apart. -/
inductive Level where
  | debug
  | info
  | warn
  | error
deriving DecidableEq, Repr

/-- The number of a level. -/
def Level.value : Level → Int
  | .debug => -4
  | .info => 0
  | .warn => 4
  | .error => 8

/-- The name of a level. -/
def Level.name : Level → Text
  | .debug => "DEBUG"
  | .info => "INFO"
  | .warn => "WARN"
  | .error => "ERROR"

/-- The value of a field. -/
inductive Value where
  | text (t : Text)
  | number (n : Int)
  | span (d : Span)
  | fault (f : Fault)
deriving Repr

/-- The plain text of a value. -/
def Value.render : Value → Text
  | .text t => t
  | .number n => Text.decimalInt n
  | .span d => Span.render d
  | .fault f => f.message

/-- One line of a log. -/
structure Entry where
  level : Level
  message : Text
  fields : List (Text × Value) := []
deriving Repr

end Roster.Log
