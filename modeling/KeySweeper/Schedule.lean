import KeySweeper.Duration
import KeySweeper.Log
import KeySweeper.Sweep

/-!
# Schedules

A schedule has its sweeper sweep at once and then every so many seconds. It asks for a sweep only
after the one before has come out, whatever way it came out. A tick that was missed while a sweep
was under way is made up for by one sweep at once, and the next tick is then a full period later. A
schedule ends when its flag is raised and no sweep of its own is under way.

Time is counted in milliseconds on a clock that schedules share. A tick that is noticed only a
little late keeps its place on the grid. The clock has a last moment, and a tick planned beyond it
comes with it, so that from then on every tick has come. A schedule asks the ticker of the runtime
for ticks that are its interval apart. The ticker has the runtime's timer wait for them, so that
with an interval beyond the longest wait of the timer the ticks are only that wait apart.
-/

namespace KeySweeper

/-- What a schedule is doing. -/
inductive Schedule.State where
  /-- It waits for its next tick. -/
  | waiting
  /-- A sweep of its own is under way. -/
  | sweeping
  /-- It has ended. -/
  | over
deriving DecidableEq, Repr

/-- A schedule. -/
structure Schedule where
  /-- The sweeper that sweeps. -/
  member : Nat
  /-- The flag that ends the schedule. -/
  caller : Nat
  /-- The time between two ticks. -/
  period : Nat
  /-- The moment of the next tick. -/
  next : Nat
  /-- What the schedule is doing. -/
  state : Schedule.State
deriving DecidableEq, Repr

namespace Schedule

/-- The seconds between two ticks, which are at least one. -/
def effectiveInterval (requested : Nat) : Nat := max 1 requested

/-- The milliseconds between two ticks of the runtime's ticker, if it is asked for ticks that are an
interval apart: that interval, up to the longest wait of the timer. -/
def periodOf (interval : Nat) : Nat :=
  (Duration.ofSeconds (effectiveInterval interval)).awaited.millis

/-- A schedule whose first tick is due at once. -/
def start (member caller interval now : Nat) : Schedule where
  member := member
  caller := caller
  period := periodOf interval
  next := now
  state := .waiting

/-- How late a tick may be noticed without moving the ticks after it, in milliseconds. -/
def tolerance : Nat := 5

/-- The last moment of the clock, the greatest number of sixty-four bits but two. Later moments do
not differ from it when it comes to what is due. -/
def lastMoment : Nat := 18446744073709551613

/-- The moment at which the next tick comes. -/
def dueMoment (s : Schedule) : Nat := min s.next lastMoment

/-- Whether the next tick has come. -/
def isDue (s : Schedule) (now : Nat) : Bool := decide (s.dueMoment ≤ now)

/-- The moment of the tick after the one that is noticed now. -/
def following (s : Schedule) (now : Nat) : Nat :=
  if s.next + tolerance < now then now + s.period else s.next + s.period

/-- The schedule once its tick was noticed and its sweep was asked for. -/
def tick (s : Schedule) (now : Nat) : Schedule :=
  { s with next := s.following now, state := .sweeping }

/-- The schedule once its sweep came out. A crash of the sweep ends the schedule with it. -/
def afterSweep (s : Schedule) : SweepOutcome → Schedule
  | .crashed _ => { s with state := .over }
  | _ => { s with state := .waiting }

/-- The part of the program that schedules belong to, as the trace names it. -/
def target : String := "redis_cleaner::tasks::cleanup"

/-- The event at the start of a schedule. -/
def startEvent (interval : Nat) : TraceEvent :=
  ⟨.info, target,
    "Starting redis-cleaner task with interval of " ++ toString (effectiveInterval interval)
      ++ " seconds", []⟩

/-- The event at the end of a schedule whose flag was raised. -/
def endEvent : TraceEvent := ⟨.warn, target, "redis-cleaner task terminated", []⟩

/-- The event when a sweep of a schedule has come out. A crash shows nothing. -/
def outcomeEvents : SweepOutcome → List TraceEvent
  | .completed report =>
    [⟨.debug, target, "Scheduled redis-cleaner run finished",
      [⟨"deleted", toString report.deleted.toNat⟩, ⟨"elapsed_ms", toString report.elapsed.millis⟩]⟩]
  | .alreadyRunning =>
    [⟨.debug, target, "Scheduled redis-cleaner run skipped, guard is held", []⟩]
  | .guardFailed cause =>
    [⟨.error, target, "Error executing redis-cleaner",
      [⟨"error", (SweepError.guard cause).message⟩]⟩]
  | .crashed _ => []

end Schedule

namespace OnDemand

/-- The part of the program that sweeps on demand belong to, as the trace names it. -/
def target : String := "redis_cleaner::api::handlers"

/-- The event when a sweep that an operator started has come out. A crash shows nothing. -/
def outcomeEvents : SweepOutcome → List TraceEvent
  | .completed report =>
    [⟨.info, target, "On-demand redis-cleaner run finished",
      [⟨"deleted", toString report.deleted.toNat⟩]⟩]
  | .alreadyRunning =>
    [⟨.info, target, "On-demand redis-cleaner run skipped, guard is held", []⟩]
  | .guardFailed cause =>
    [⟨.error, target, "On-demand redis-cleaner run failed",
      [⟨"error", (SweepError.guard cause).message⟩]⟩]
  | .crashed _ => []

end OnDemand

end KeySweeper
