import KeySweeper.Schedule
import KeySweeper.Server.Address
import KeySweeper.Server.Sweep
import KeySweeper.Text.Blank
import KeySweeper.Text.Terminal

/-!
# The service

The service reads its configuration, connects to the server, sweeps on a schedule and offers the
admin interface until it is told to end; it then ends the schedule and waits for the sweep under
way. The life that is followed here is the shortest complete one: the first scheduled sweep comes
out, and then the signal arrives. A service whose address cannot be used ends at once with an error.
-/

namespace KeySweeper.Service

/-- A signal that ends the service. -/
inductive Signal where
  /-- The request to terminate. -/
  | terminate
  /-- The interrupt from the keyboard. -/
  | interrupt
deriving DecidableEq, Repr

/-- The name of a signal in the log. -/
def Signal.label : Signal → String
  | .terminate => "SIGTERM"
  | .interrupt => "Ctrl+C"

/-- What can be seen of the life of a service. -/
structure Life where
  /-- The exit code. -/
  exitCode : Nat
  /-- The trace, in the order of the events. -/
  trace : List TraceEvent
  /-- The commands sent to the server. -/
  sent : List SentCommand
  /-- The first line of the error shown at the end, if there is one. -/
  error : Option String
deriving Repr

/-- The part of the program that the service itself belongs to, as the trace names it. -/
def target : String := "redis_cleaner"

/-- An event of the usual course of the service. -/
def note (message : String) : TraceEvent := ⟨.info, target, message, []⟩

/-- The event that shows the configuration. -/
def configurationEvent (c : Configuration) : TraceEvent :=
  note ("Configuration loaded: pattern=" ++ c.settings.pattern
    ++ ", min_ttl=" ++ toString c.settings.minTtlSeconds ++ "s, batch_size="
    ++ toString c.settings.batchSize ++ ", interval=" ++ toString c.interval ++ "s, port="
    ++ toString c.port)

/-- The events before the service connects. -/
def openingTrace (c : Configuration) : List TraceEvent :=
  [note "Starting Redis Cleaner", configurationEvent c]

/-- The events of a service whose schedule starts. -/
def startTrace (c : Configuration) : List TraceEvent :=
  [note "Connected to Redis", Schedule.startEvent c.interval,
    note "Background cleaner task started",
    note ("Server listening on http://0.0.0.0:" ++ toString c.port)]

/-- The events of a service that is told to end. -/
def endTrace (signal : Signal) : List TraceEvent :=
  [note ("Received " ++ signal.label ++ ", initiating shutdown..."),
    ⟨.warn, target, "Cleaner schedule cancelled", []⟩, Schedule.endEvent,
    note "Server shutdown complete"]

/-- The life of a service that is connected: one scheduled sweep, then the signal. -/
def connectedLife (c : Configuration) (connection : Connection) (signal : Signal) : Life :=
  let last := (ServerSweep.start c.settings connection c.scanCount).run
  { exitCode := 0
    trace := openingTrace c ++ startTrace c ++ last.lines.map LogLine.toTrace
      ++ (last.outcome?.map Schedule.outcomeEvents).getD [] ++ endTrace signal
    sent := last.connection.sent
    error := none }

/-- The first line of a text that other lines follow. A carriage return before the line feed belongs
to the end of the line. -/
def firstLine (text : String) : String :=
  let line := text.toList.takeWhile (· != '\n')
  String.ofList (if line.getLast? = some '\r' then line.dropLast else line)

/-- The life of a service whose address cannot be used. -/
def refusedLife (c : Configuration) : Life where
  exitCode := 1
  trace := openingTrace c
  sent := []
  error := some (firstLine ("Error: failed to connect to " ++ c.serverUrl))

/-- The life of a service. Without an address in its environment it finds the given connection; an
address in its environment leads nowhere else, so that the service ends at once. -/
def life (env : Environment) (connection : Connection) (signal : Signal) : Life :=
  let c := Configuration.ofEnvironment env
  match env "REDIS_URL" with
  | none => connectedLife c connection signal
  | some _ => refusedLife c

/-- The least important level that the trace shows. Only the filter that shows everything of the
service itself lowers it. -/
def shownLevels (filter : Option String) : List Level :=
  if filter = some "redis_cleaner=debug" then [.debug, .info, .warn, .error]
  else [.info, .warn, .error]

/-- The written form of an event, which may be more than one line. Its message cannot steer the
terminal that shows it; its values are written as they are. -/
def lineOf (e : TraceEvent) : String :=
  e.level.name ++ " " ++ e.target ++ ": " ++ Text.Terminal.tame e.message
    ++ String.join (e.fields.map fun f => " " ++ f.key ++ "=" ++ f.value)

/-- The lines that a service writes, sorted, without the blanks at their ends. A line feed in an
event starts another line. -/
def lines (filter : Option String) (trace : List TraceEvent) : List String :=
  let shown := trace.filter fun e => (shownLevels filter).contains e.level
  (shown.flatMap fun e => ((lineOf e).splitOn "\n").map Text.trimEnd).mergeSort fun a b =>
    decide (a ≤ b)

end KeySweeper.Service
