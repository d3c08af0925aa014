/-!
# Log records

What the bus and its handlers write to the log: a level, a message, and named values.
-/

namespace EventBus

/-- How serious a log record is. -/
inductive LogLevel where
  | debug
  | info
  | warn
  | error
  deriving DecidableEq, Repr

def LogLevel.label : LogLevel → String
  | debug => "DEBUG"
  | info => "INFO"
  | warn => "WARN"
  | error => "ERROR"

/-- A named value of a log record. -/
inductive LogValue where
  | text (s : String)
  | number (n : Int)
  | flag (b : Bool)
  deriving DecidableEq, Repr

/-- One log record. -/
structure LogRecord where
  level : LogLevel
  message : String
  /-- The named values, in the order they were given. -/
  fields : List (String × LogValue)
  deriving DecidableEq, Repr

end EventBus
