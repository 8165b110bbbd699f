/-!
# Log lines

What a sweep tells its operators: a level, a message and named values. A sweeper is given a sink for
its lines: they may be kept as they are, passed on as trace events, or dropped. A trace event names
the part of the program that it comes from; a line passed on becomes an event with one field, which
holds all values in a row.
-/

namespace KeySweeper

/-- How important a line is. -/
inductive Level where
  /-- Of interest only when looking for a fault. -/
  | debug
  /-- The usual course of events. -/
  | info
  /-- Something that may need attention. -/
  | warn
  /-- Something that failed. -/
  | error
deriving DecidableEq, Repr

/-- The name of a level in trace events. -/
def Level.name : Level → String
  | .debug => "DEBUG"
  | .info => "INFO"
  | .warn => "WARN"
  | .error => "ERROR"

/-- A named value of a log line. -/
structure Field where
  /-- The name. -/
  key : String
  /-- The value as a text. -/
  value : String
deriving DecidableEq, Repr

/-- A line as a sweep logs it. -/
structure LogLine where
  /-- How important the line is. -/
  level : Level
  /-- What happened. -/
  message : String
  /-- The values that belong to the message. -/
  fields : List Field
deriving DecidableEq, Repr

/-- An event as the trace of the service shows it. -/
structure TraceEvent where
  /-- How important the event is. -/
  level : Level
  /-- The part of the program that the event comes from. -/
  target : String
  /-- What happened. -/
  message : String
  /-- The values that belong to the message. -/
  fields : List Field
deriving DecidableEq, Repr

/-- Where the lines of a sweeper go. -/
inductive LogSink where
  /-- Lines are kept as they are. -/
  | record
  /-- Lines become trace events. -/
  | trace
  /-- Lines are dropped. -/
  | discard
deriving DecidableEq, Repr

namespace LogLine

/-- The values of a line in a row, each with its name and an equals sign. -/
def fieldText (fields : List Field) : String :=
  " ".intercalate (fields.map fun f => f.key ++ "=" ++ f.value)

/-- The line as a trace event. -/
def toTrace (line : LogLine) : TraceEvent where
  level := line.level
  target := "redis_cleaner::logging"
  message := line.message
  fields := [⟨"fields", fieldText line.fields⟩]

end LogLine

end KeySweeper
