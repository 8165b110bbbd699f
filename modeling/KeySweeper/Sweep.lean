import KeySweeper.Guard
import KeySweeper.Pipeline
import KeySweeper.Text.Literal
import KeySweeper.Timestamp

/-!
# Sweeps

One sweep from its request to its end. A sweep claims its sweeper, acquires the guard of the fleet,
runs the pipeline, waits for the three stages in turn, releases the guard and reports. Its caller
may drop it at any point at which it waits. A sweep that is dropped while its stages are at work
still owes the release of the guard: a task of its own, the releaser, then waits for the remaining
stages and releases the guard in the sweep's place.

Like the pipeline, a sweep is a transition system whose moves carry the answers of the store. What a
move does to the bookkeeping of the sweeper is announced as a slot change; a sweep never reads that
bookkeeping. A sweep also has no clock: the move that ends it brings the measured times along.
-/

namespace KeySweeper

/-- The result of a sweep that came to its end. -/
structure SweepReport where
  /-- How many keys were handed over for deletion, whether or not the calls succeeded. -/
  deleted : UInt64
  /-- How long the sweep took. -/
  elapsed : Duration
  /-- When the sweep ended. -/
  finishedAt : Timestamp
deriving DecidableEq, Repr

/-- How a sweep that was driven to its end came out. -/
inductive SweepOutcome where
  /-- Another sweep was running, and nothing was touched. -/
  | alreadyRunning
  /-- The sweep ran. -/
  | completed (report : SweepReport)
  /-- It could not be found out whether a sweep is running. -/
  | guardFailed (cause : StoreError)
  /-- The code behind one of the guard's calls crashed. -/
  | crashed (text : String)
deriving DecidableEq, Repr

/-- What a sweep does to the bookkeeping of its sweeper. -/
inductive SlotChange where
  /-- The guard was acquired and the stages start. -/
  | enter
  /-- The stages have ended. -/
  | drain
  /-- The sweep ends without having run. -/
  | rest
  /-- The sweep ends with a report. -/
  | complete (report : SweepReport)
deriving DecidableEq, Repr

/-- What the task that drives a sweep is doing. -/
inductive Driver where
  /-- The sweeper was not claimed yet. -/
  | unclaimed
  /-- The sweeper is claimed and nothing else was done. -/
  | claimed
  /-- It asks whether the guard key exists. -/
  | checking
  /-- It writes the guard key. -/
  | marking
  /-- It waits for these stages, in order. -/
  | joining (rest : List StageName)
  /-- It deletes the guard key. -/
  | releasing
  /-- It has come to its end. -/
  | finished (outcome : SweepOutcome)
  /-- Its caller dropped it. -/
  | dropped
deriving DecidableEq, Repr

/-- What the task that releases the guard in place of a dropped sweep is doing. -/
inductive Releaser where
  /-- There is no such task. -/
  | absent
  /-- It waits for these stages, in order. -/
  | joining (rest : List StageName)
  /-- It deletes the guard key. -/
  | releasing
  /-- It has come to its end. -/
  | ended
deriving DecidableEq, Repr

/-- The part of a sweep that works on keys. -/
inductive Work where
  /-- The stages were not started yet; the sweep may have been told to wind down already. -/
  | waiting (cancelled : Bool)
  /-- The stages were started. -/
  | running (pipeline : Pipeline)
deriving DecidableEq, Repr

namespace Work

/-- Whether the sweep was told to wind down. -/
def isCancelled : Work → Bool
  | .waiting cancelled => cancelled
  | .running p => p.control.cancelled

/-- Tells the sweep to wind down. -/
def cancel : Work → Work
  | .waiting _ => .waiting true
  | .running p => .running { p with control := p.control.cancel }

/-- How many keys were handed over for deletion. -/
def deleted : Work → UInt64
  | .waiting _ => 0
  | .running p => p.control.deleted

/-- Whether a stage has ended; a stage that was never started has not. -/
def hasEnded (w : Work) (stage : StageName) : Bool :=
  match w with
  | .waiting _ => false
  | .running p => !p.isLive stage

/-- The text with which a stage crashed, if it did. -/
def crash? (w : Work) (stage : StageName) : Option String :=
  match w with
  | .waiting _ => none
  | .running p => p.crash? stage

end Work

/-- A sweep. -/
structure Sweep where
  /-- What the task that drives it is doing. -/
  driver : Driver
  /-- Its stages. -/
  work : Work
  /-- What the task that may release the guard in its place is doing. -/
  releaser : Releaser
deriving DecidableEq, Repr

namespace Sweep

/-- A sweep that was asked for. -/
def requested : Sweep := ⟨.unclaimed, .waiting false, .absent⟩

/-- A sweep that has just claimed its sweeper, told to wind down if its caller was. -/
def claimed (cancelled : Bool) : Sweep := ⟨.claimed, .waiting cancelled, .absent⟩

/-- One step of a sweep, or of somebody else. -/
inductive Move where
  /-- The sweep, having claimed its sweeper, asks for the guard. -/
  | begin
  /-- The existence check of the guard returns. -/
  | guardChecked (answer : Answer Bool)
  /-- The write of the guard returns. -/
  | guardMarked (answer : Answer Unit)
  /-- A stage moves. -/
  | stage (move : Pipeline.Move)
  /-- The first stage waited for has ended. -/
  | join
  /-- All stages waited for have ended. -/
  | proceed
  /-- The deletion of the guard returns, after so much time and at this moment. -/
  | guardReleased (answer : Answer Nat) (elapsed : Duration) (finishedAt : Timestamp)
  /-- The sweep is told to wind down. -/
  | cancel
  /-- The caller drops the sweep, at a place where a task can still be started or not. -/
  | drop (canSpawn : Bool)
  /-- The first stage that the releaser waits for has ended. -/
  | releaserJoin
  /-- All stages that the releaser waits for have ended. -/
  | releaserProceed
  /-- The deletion of the guard by the releaser returns. -/
  | releaserReleased (answer : Answer Nat)
deriving DecidableEq, Repr

/-- A sweep after a move, and what the move shows and announces. -/
structure Progress where
  /-- The sweep after the move. -/
  sweep : Sweep
  /-- What the move shows. -/
  effects : List Effect
  /-- What the move announces to the sweeper. -/
  slot : Option SlotChange
deriving DecidableEq, Repr

/-- What is logged when the guard is held by another sweep. -/
def heldLine (s : Settings) : LogLine :=
  ⟨.info, "redis-cleaner is already running", [⟨"guard_key", s.guardKey⟩]⟩

/-- What is logged when it cannot be found out whether the guard is held. -/
def checkFailureLine (s : Settings) (cause : StoreError) : LogLine :=
  ⟨.error, "error getting redis-cleaner running status",
    [⟨"guard_key", s.guardKey⟩, ⟨"error", cause.message⟩]⟩

/-- What is logged when the stages start. -/
def startLine (s : Settings) : LogLine :=
  ⟨.info, "starting redis-cleaner...",
    [⟨"key_pattern", s.pattern⟩, ⟨"min_ttl_secs", toString s.minTtlSeconds⟩,
      ⟨"batch_size", toString s.batchSize⟩]⟩

/-- What is logged when a stage turns out to have crashed. Tasks have no numbers here, so the place
of the number is only marked. -/
def stageCrashLine (stage : StageName) (text : String) : LogLine :=
  ⟨.error, "redis-cleaner stage failed",
    [⟨"stage", stage.label⟩,
      ⟨"error", "task <id> panicked with message " ++ Text.Literal.quote text⟩]⟩

/-- What is logged when the guard cannot be released. -/
def releaseFailureLine (s : Settings) (cause : StoreError) : LogLine :=
  ⟨.error, "error releasing redis-cleaner running status",
    [⟨"guard_key", s.guardKey⟩, ⟨"error", cause.message⟩]⟩

/-- What is logged when a dropped sweep has nobody who could release the guard. -/
def guardLeftLine (s : Settings) : LogLine :=
  ⟨.warn, "redis-cleaner guard left in place, no runtime to release it",
    [⟨"guard_key", s.guardKey⟩]⟩

/-- What is logged about the work done, if the settings ask for it. -/
def reportLine (r : SweepReport) : LogLine :=
  ⟨.info, "redis-cleaner report",
    [⟨"deleted_keys", toString r.deleted.toNat⟩, ⟨"duration_in_millis", toString r.elapsed.millis⟩]⟩

/-- What is logged at the very end. -/
def stoppedLine : LogLine := ⟨.info, "redis-cleaner stopped", []⟩

/-- The lines at the end of a sweep that ran. -/
def closingLines (s : Settings) (r : SweepReport) : List LogLine :=
  if s.report then [reportLine r, stoppedLine] else [stoppedLine]

/-- What is logged when a stage that was waited for has ended. -/
def joinLines (w : Work) (stage : StageName) : List LogLine :=
  match w.crash? stage with
  | some text => [stageCrashLine stage text]
  | none => []

/-- The line about a failed release, if it failed. -/
def releaseLines (s : Settings) : Answer Nat → List LogLine
  | .failed cause => [releaseFailureLine s cause]
  | _ => []

/-- The line about a failed write of the guard, if it failed. -/
def markLines (s : Settings) : Answer Unit → List LogLine
  | .failed cause => [Guard.writeFailureLine s.guardKey cause]
  | _ => []

/-- The sweep once the guard has been asked for. -/
def afterCheck (s : Settings) (sweep : Sweep) (answer : Answer Bool) : Progress :=
  let event := Effect.called (.checked s.guardKey answer)
  match Guard.check answer with
  | .held =>
    ⟨{ sweep with driver := .finished .alreadyRunning }, [event, .logged (heldLine s)], some .rest⟩
  | .free => ⟨{ sweep with driver := .marking }, [event], none⟩
  | .failed cause =>
    ⟨{ sweep with driver := .finished (.guardFailed cause) },
      [event, .logged (checkFailureLine s cause)], some .rest⟩
  | .crashed text => ⟨{ sweep with driver := .finished (.crashed text) }, [event], none⟩

/-- The sweep once the guard has been written, or not: the stages start unless the code behind the
call crashed. -/
def afterMark (s : Settings) (sweep : Sweep) (answer : Answer Unit) : Progress :=
  let event := Effect.called (.written s.guardKey Guard.mark answer)
  match answer with
  | .crashed text => ⟨{ sweep with driver := .finished (.crashed text) }, [event], none⟩
  | _ =>
    ⟨{ sweep with
        driver := .joining StageName.all
        work := .running (.fresh (.fresh sweep.work.isCancelled)) },
      event :: (markLines s answer ++ [startLine s]).map .logged, some .enter⟩

/-- The sweep once the guard has been deleted, or not: the sweep ends with a report unless the code
behind the call crashed. -/
def afterRelease (s : Settings) (sweep : Sweep) (answer : Answer Nat) (elapsed : Duration)
    (finishedAt : Timestamp) : Progress :=
  let event := Effect.called (.deleted [s.guardKey] answer)
  match answer with
  | .crashed text => ⟨{ sweep with driver := .finished (.crashed text) }, [event], none⟩
  | _ =>
    let report : SweepReport := ⟨sweep.work.deleted, elapsed, finishedAt⟩
    ⟨{ sweep with driver := .finished (.completed report) },
      event :: (releaseLines s answer ++ closingLines s report).map .logged,
      some (.complete report)⟩

/-- The sweep once its caller has dropped it. From the start of the stages on, dropping also tells
the sweep to wind down; while the guard is owed, its release passes to a task of its own if one can
be started. There is nothing to drop once the sweep has ended. -/
def afterDrop? (s : Settings) (sweep : Sweep) (canSpawn : Bool) : Option Progress :=
  match sweep.driver with
  | .finished _ => none
  | .dropped => none
  | .joining rest =>
    some (if canSpawn then
      ⟨{ driver := .dropped, work := sweep.work.cancel, releaser := .joining rest }, [], none⟩
    else
      ⟨{ sweep with driver := .dropped, work := sweep.work.cancel },
        [.logged (guardLeftLine s)], none⟩)
  | .releasing => some ⟨{ sweep with driver := .dropped, work := sweep.work.cancel }, [], none⟩
  | _ => some ⟨{ sweep with driver := .dropped }, [], none⟩

/-- The sweep after a move. There is none if the move cannot be made now. -/
def step? (s : Settings) (sweep : Sweep) : Move → Option Progress
  | .begin =>
    match sweep.driver with
    | .claimed => some ⟨{ sweep with driver := .checking }, [], none⟩
    | _ => none
  | .guardChecked answer =>
    match sweep.driver with
    | .checking => some (afterCheck s sweep answer)
    | _ => none
  | .guardMarked answer =>
    match sweep.driver with
    | .marking => some (afterMark s sweep answer)
    | _ => none
  | .stage move =>
    match sweep.work with
    | .running p =>
      (p.step? s move).map fun (p, effects) => ⟨{ sweep with work := .running p }, effects, none⟩
    | _ => none
  | .join =>
    match sweep.driver with
    | .joining (stage :: rest) =>
      if sweep.work.hasEnded stage then
        some ⟨{ sweep with driver := .joining rest },
          (joinLines sweep.work stage).map .logged, none⟩
      else none
    | _ => none
  | .proceed =>
    match sweep.driver with
    | .joining [] =>
      some ⟨{ sweep with driver := .releasing, work := sweep.work.cancel }, [], some .drain⟩
    | _ => none
  | .guardReleased answer elapsed finishedAt =>
    match sweep.driver with
    | .releasing => some (afterRelease s sweep answer elapsed finishedAt)
    | _ => none
  | .cancel => some ⟨{ sweep with work := sweep.work.cancel }, [], none⟩
  | .drop canSpawn => afterDrop? s sweep canSpawn
  | .releaserJoin =>
    match sweep.releaser with
    | .joining (stage :: rest) =>
      if sweep.work.hasEnded stage then
        some ⟨{ sweep with releaser := .joining rest },
          (joinLines sweep.work stage).map .logged, none⟩
      else none
    | _ => none
  | .releaserProceed =>
    match sweep.releaser with
    | .joining [] => some ⟨{ sweep with releaser := .releasing }, [], none⟩
    | _ => none
  | .releaserReleased answer =>
    match sweep.releaser with
    | .releasing =>
      some ⟨{ sweep with releaser := .ended },
        .called (.deleted [s.guardKey] answer) :: (releaseLines s answer).map .logged, none⟩
    | _ => none

/-- A part of a sweep that goes on by itself and can wait for a store call. -/
inductive Part where
  /-- The task that drives the sweep. -/
  | driver
  /-- The scanner. -/
  | scanner
  /-- The filter. -/
  | filter
  /-- The deleter. -/
  | deleter
  /-- The task that releases the guard in place of the sweep. -/
  | releaser
deriving DecidableEq, Repr

namespace Part

/-- All parts of a sweep. -/
def all : List Part := [.driver, .scanner, .filter, .deleter, .releaser]

/-- The moves of a part that need neither the store nor anybody outside, in the order in which they
are tried. -/
def internalMoves : Part → List Move
  | .driver => [.begin, .join, .proceed]
  | .scanner => [.stage .offerCandidate]
  | .filter => [.stage .takeCandidate, .stage .offerMatch]
  | .deleter => [.stage .takeMatch]
  | .releaser => [.releaserJoin, .releaserProceed]

/-- The first move that a part can make without the store and without anybody outside. -/
def internalStep? (s : Settings) (sweep : Sweep) (part : Part) : Option Move :=
  part.internalMoves.find? fun move => (sweep.step? s move).isSome

end Part

/-- The first move that can be made without the store and without anybody outside. -/
def internalStep? (s : Settings) (sweep : Sweep) : Option Move :=
  Part.all.findSome? (Part.internalStep? s sweep)

/-- The store call that the driving task waits for. -/
def driverCall? (s : Settings) : Driver → Option StoreCall
  | .checking => some (.check s.guardKey)
  | .marking => some (.write s.guardKey Guard.mark)
  | .releasing => some (.delete [s.guardKey])
  | _ => none

/-- The store call that the scanner waits for. -/
def scannerCall? (s : Settings) : Work → Option StoreCall
  | .waiting _ => none
  | .running p =>
    match p.scanner with
    | .asking => some (.scan s.pattern)
    | _ => none

/-- The store call that the filter waits for. -/
def filterCall? : Work → Option StoreCall
  | .waiting _ => none
  | .running p =>
    match p.filter with
    | .inspecting key => some (.inspect key)
    | _ => none

/-- The store call that the deleter waits for. -/
def deleterCall? : Work → Option StoreCall
  | .waiting _ => none
  | .running p =>
    match p.deleter with
    | .deleting batch _ => some (.delete batch)
    | _ => none

/-- The store call that the releasing task waits for. -/
def releaserCall? (s : Settings) : Releaser → Option StoreCall
  | .releasing => some (.delete [s.guardKey])
  | _ => none

/-- The store call that a part of the sweep waits for. -/
def pending? (s : Settings) (sweep : Sweep) : Part → Option StoreCall
  | .driver => driverCall? s sweep.driver
  | .scanner => scannerCall? s sweep.work
  | .filter => filterCall? sweep.work
  | .deleter => deleterCall? sweep.work
  | .releaser => releaserCall? s sweep.releaser

/-- A bound on the number of moves that can follow each other without the store and without anybody
outside. -/
def pressure (sweep : Sweep) : Nat :=
  (match sweep.driver with
    | .claimed => 1
    | .joining rest => rest.length + 1
    | _ => 0)
    + (match sweep.releaser with | .joining rest => rest.length + 1 | _ => 0)
    + (match sweep.work with | .waiting _ => 0 | .running p => p.pressure)

end Sweep

end KeySweeper
