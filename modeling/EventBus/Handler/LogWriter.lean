import EventBus.Handler
import EventBus.Text.Blank

/-!
# The log writer

A handler that writes log events to the log. The payload is the message: its bytes are read as UTF-8,
ill-formed pieces are replaced, and white space at the end is left out. Other events it passes over.
-/

namespace EventBus.Handler

variable {c : Catalog} {σ : Type}

/-- The level of a log kind, and whether it is one of the two kinds of errors and then the fatal one. -/
def logLevel? (bareName : String) : Option (LogLevel × Option Bool) :=
  [("LOG_DEBUG", (.debug, none)), ("LOG_INFO", (.info, none)), ("LOG_WARN", (.warn, none)),
    ("LOG_ERROR", (.error, some false)), ("LOG_FATAL", (.error, some true))].lookup bareName

def logMessage (payload : Bytes) : String :=
  String.ofList (Text.trimEnd (Text.lossy payload))

/-- The log record of an event, if it is a log event. -/
def logRecord? (event : Event c) : Option LogRecord :=
  (logLevel? (Catalog.row event.kind).bareName).map fun (level, fatal) =>
    { level
      message := logMessage event.payload
      fields :=
        ("origin", .number event.origin.raw.toNat) :: (fatal.map fun b => ("fatal", LogValue.flag b)).toList }

/-- Writes log events to the log; always succeeds. -/
def logWriter : Handler c σ where
  name := "log"
  handle event view :=
    match logRecord? event with
    | some record => .note record (.done .ok view)
    | none => .done .ok view

end EventBus.Handler
