import KeySweeper.Sweeper
import KeySweeper.Schedule
import KeySweeper.Store.Fault

/-!
# Fleets

Several sweepers at work on one store, each behind its own layer of planned faults, with everybody
who can make them move: callers that ask for sweeps and hold or drive them, operators, and
schedules. Every sweep that was asked for is an errand, and the errands are kept in the order in
which they were asked for. What happens is recorded in four journals: store events and log lines of
the sweepers, trace events of the service, and the outcomes that callers received.
-/

namespace KeySweeper

/-- A sweeper of a fleet. -/
structure Member where
  /-- The sweeper. -/
  sweeper : Sweeper
  /-- The layer between the sweeper and the store. -/
  plan : FaultPlan
  /-- Where the lines of the sweeper go. -/
  sink : LogSink
  /-- The scans of the sweeper's sweeps, by sweep; a scan that is not listed has read nothing. -/
  scans : List (Nat × Scan)
deriving Repr

namespace Member

/-- A member that never ran. -/
def ofSettings (settings : Settings) (faults : List Fault) (sink : LogSink) : Member :=
  ⟨.ofSettings settings, .ofFaults faults, sink, []⟩

/-- The scan of a sweep. -/
def scan (m : Member) (sweep : Nat) : Scan :=
  (List.lookup sweep m.scans).getD (.fresh m.sweeper.settings.pattern)

/-- The member with another state of the scan of a sweep. -/
def withScan (m : Member) (sweep : Nat) (scan : Scan) : Member :=
  { m with scans := (sweep, scan) :: m.scans.filter fun (index, _) => index != sweep }

/-- How many keys a sweep of a member may find that no store holds before a planned fault has it
wind down: the one that is furthest away waits for so many calls, and a call that deletes takes a
whole batch. -/
def patience (m : Member) : Nat :=
  (m.sweeper.settings.batchSize + 1)
    * m.plan.faults.foldr (fun fault total => fault.nth.getD 0 + 1 + total) 0

/-- How many keys the scans of a member are known to yield still. -/
def yieldable (m : Member) : Nat :=
  m.scans.foldr (fun (_, scan) total => (scan.remaining.getD []).length + total) 0

end Member

/-- Who asked for a sweep. -/
inductive Client where
  /-- A caller, who knows the sweep by this number. -/
  | caller (run : Nat)
  /-- An operator, over the admin interface. -/
  | operator
  /-- The schedule of this index. -/
  | schedule (index : Nat)
deriving DecidableEq, Repr

/-- A sweep that somebody asked for. -/
structure Errand where
  /-- The sweeper that sweeps. -/
  member : Nat
  /-- The sweep among those of the sweeper. -/
  sweep : Nat
  /-- Who asked for it. -/
  client : Client
  /-- Whether the client does not drive the sweep yet. -/
  held : Bool
  /-- Whether the client has received the outcome, or dropped the sweep. -/
  settled : Bool
deriving DecidableEq, Repr

/-- A part of a sweep that may wait for a store call. -/
structure Site where
  /-- The sweeper. -/
  member : Nat
  /-- The sweep among those of the sweeper. -/
  sweep : Nat
  /-- The part of the sweep. -/
  part : Sweep.Part
deriving DecidableEq, Repr

/-- What happened in a fleet. -/
structure Journal where
  /-- Completed store calls, each with the sweeper that made it. -/
  events : List (Nat × StoreEvent)
  /-- Log lines that were kept, each with the sweeper that logged it. -/
  lines : List (Nat × LogLine)
  /-- Trace events. -/
  traces : List TraceEvent
  /-- Outcomes that callers received. -/
  outcomes : List (Nat × SweepOutcome)
deriving Repr

/-- A journal in which nothing happened. -/
def Journal.empty : Journal := ⟨[], [], [], []⟩

/-- A fleet. -/
structure Fleet where
  /-- The store that the sweepers share. -/
  store : Store
  /-- The sweepers. -/
  members : List Member
  /-- The sweeps that were asked for, oldest first. -/
  errands : List Errand
  /-- How many sweeps callers have asked for. -/
  runs : Nat
  /-- The flags below which callers put their sweeps; the last one is current. -/
  callers : List Bool
  /-- The schedules. -/
  schedules : List Schedule
  /-- The indices of the schedules, in the order in which they last began to wait. -/
  turns : List Nat
  /-- The time on the clock of the schedules, in milliseconds. -/
  clock : Nat
  /-- The kinds of store call that go first. -/
  priority : List CallKind
  /-- The sites that wait for the store, longest first. -/
  arrivals : List Site
  /-- What happened. -/
  journal : Journal
deriving Repr

namespace Fleet

/-- The order in which waiting calls are let through unless another one is asked for. -/
def defaultPriority : List CallKind := [.delete, .inspect, .scan, .check, .write]

/-- A fleet at rest. -/
def ofMembers (store : Store) (members : List Member) : Fleet where
  store := store
  members := members
  errands := []
  runs := 0
  callers := [false]
  schedules := []
  turns := []
  clock := 0
  priority := defaultPriority
  arrivals := []
  journal := .empty

/-- The current flag for callers. -/
def currentCaller (f : Fleet) : Nat := f.callers.length - 1

/-- Whether a caller's flag is raised. -/
def isCancelled (f : Fleet) (caller : Nat) : Bool := (f.callers[caller]?).getD false

/-- The engagement behind a sweep. -/
def engagement? (f : Fleet) (member sweep : Nat) : Option Engagement :=
  (f.members[member]?).bind fun m => m.sweeper.engagements[sweep]?

/-- Adds trace events. -/
def trace (f : Fleet) (events : List TraceEvent) : Fleet :=
  { f with journal := { f.journal with traces := f.journal.traces ++ events } }

/-- Adds a store event of a sweeper. -/
def noteEvent (f : Fleet) (member : Nat) (event : StoreEvent) : Fleet :=
  { f with journal := { f.journal with events := f.journal.events ++ [(member, event)] } }

/-- Adds a log line of a sweeper, to wherever its lines go. -/
def noteLine (f : Fleet) (member : Nat) (sink : LogSink) (line : LogLine) : Fleet :=
  match sink with
  | .record => { f with journal := { f.journal with lines := f.journal.lines ++ [(member, line)] } }
  | .trace => f.trace [line.toTrace]
  | .discard => f

/-- Adds what a move of a sweeper shows. -/
def note (f : Fleet) (member : Nat) (sink : LogSink) : List Effect → Fleet
  | [] => f
  | .called event :: rest => note (f.noteEvent member event) member sink rest
  | .logged line :: rest => note (f.noteLine member sink line) member sink rest

/-- A sweeper makes a move. There is no fleet after it if the move cannot be made now. -/
def move? (f : Fleet) (member : Nat) (move : Sweeper.Move) : Option Fleet :=
  match f.members[member]? with
  | none => none
  | some m =>
    match m.sweeper.step? move with
    | none => none
    | some (sweeper, effects) =>
      some (note { f with members := f.members.set member { m with sweeper } } member
        m.sink effects)

/-- The fleet with one more errand, for the latest sweep of a sweeper. -/
def withErrand (f : Fleet) (member sweep : Nat) (client : Client) (held : Bool) : Fleet :=
  { f with errands := f.errands ++ [⟨member, sweep, client, held, false⟩] }

/-- How many sweeps a sweeper was asked for. -/
def sweepCount (f : Fleet) (member : Nat) : Nat :=
  ((f.members[member]?).map (·.sweeper.engagements.length)).getD 0

/-- Somebody asks a sweeper for a sweep. -/
def request (f : Fleet) (member : Nat) (caller : Option Nat) (client : Client) (held : Bool) :
    Fleet :=
  match f.move? member (.request caller) with
  | none => f
  | some next => next.withErrand member (f.sweepCount member) client held

/-- Raises a caller's flag for everything that hangs below it. -/
def cancelCaller (f : Fleet) (caller : Nat) : Fleet :=
  { f with
    callers := f.callers.set caller true
    members := f.members.map fun m => { m with sweeper := m.sweeper.cancelCaller caller } }

end Fleet

end KeySweeper
