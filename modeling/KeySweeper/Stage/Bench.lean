import KeySweeper.Pipeline
import KeySweeper.Store.Fault

/-!
# One stage on its own

A stage can be put on a bench: its store calls are answered at once by a store behind planned
faults, keys are fed into its inbox, which has room for any number of them, and taken from its
outbox, and the ends of both can be closed. Between two actions of the bench the stage runs until it
waits for one of its queues or is done.
-/

namespace KeySweeper

/-- The stage on the bench. -/
inductive BenchStage where
  /-- A scanner with its pattern. -/
  | scanner (pattern : String) (state : Scanner)
  /-- A filter with its threshold. -/
  | filter (threshold : Duration) (state : Filter)
  /-- A deleter with its batch size. -/
  | deleter (size : Nat) (state : Deleter)
deriving DecidableEq, Repr

/-- A bench with a stage on it. -/
structure StageBench where
  /-- The stage. -/
  stage : BenchStage
  /-- The store. -/
  store : Store
  /-- The layer in front of the store. -/
  plan : FaultPlan
  /-- The scan of the scanner. -/
  scan : Scan
  /-- The flag and the counter that the stage uses. -/
  control : Control
  /-- The keys fed to the stage. -/
  inbox : Handoff
  /-- Whether more keys may be fed. -/
  inboxOpen : Bool
  /-- The keys that the stage sent. -/
  outbox : Handoff
  /-- Whether the keys can be received. -/
  outboxOpen : Bool
deriving Repr

/-- What is done on a bench. -/
inductive BenchCommand where
  /-- Nothing; the stage runs. -/
  | settle
  /-- The flag is raised. -/
  | cancel
  /-- No more keys will be fed. -/
  | closeInput
  /-- The keys that the stage sends can no longer be received. -/
  | dropOutput
  /-- Keys are fed one after the other. -/
  | feed (keys : List String)
  /-- Keys are received, at most so many. -/
  | receive (count : Nat)
deriving DecidableEq, Repr

/-- How one feeding or receiving came out. -/
inductive BenchResult where
  /-- The key was accepted or not; not, if the stage is gone. -/
  | fed (accepted : Bool)
  /-- The inbox was closed before. -/
  | inputClosed
  /-- A key was received. -/
  | received (key : String)
  /-- There was no key, but one may come. -/
  | empty
  /-- There was no key, and none can come. -/
  | closed
  /-- The receiving end was dropped before. -/
  | dropped
deriving DecidableEq, Repr

namespace StageBench

/-- Whether the stage is still at work. -/
def isLive (b : StageBench) : Bool :=
  match b.stage with
  | .scanner _ state => state.isLive
  | .filter _ state => state.isLive
  | .deleter _ state => state.isLive

/-- One step of a scanner. -/
def scannerStep? (b : StageBench) (pattern : String) : Scanner → Option (StageBench × List Effect)
  | .asking =>
    let (answer, scan, plan) := b.plan.nextKey b.store b.scan
    some ({ b with
        stage := .scanner pattern (Scanner.afterAnswer b.control.cancelled answer)
        scan, plan
        control := Pipeline.cancelIfFailed b.control answer },
      Pipeline.effects (.scanned pattern answer) (Scanner.failureLine pattern) answer)
  | .offering key =>
    (Scanner.offer? key b.control.cancelled b.outboxOpen b.outbox).map fun (state, outbox) =>
      ({ b with stage := .scanner pattern state, outbox }, [])
  | _ => none

/-- One step of a filter. -/
def filterStep? (b : StageBench) (threshold : Duration) :
    Filter → Option (StageBench × List Effect)
  | .waiting =>
    (Filter.take? b.inboxOpen b.inbox).map fun (state, inbox) =>
      ({ b with stage := .filter threshold state, inbox }, [])
  | .inspecting key =>
    let (answer, plan) := b.plan.inspectKey b.store key
    some ({ b with
        stage := .filter threshold (Filter.afterAnswer threshold key answer)
        plan
        control := Pipeline.cancelIfFailed b.control answer },
      Pipeline.effects (.inspected key answer) (Filter.failureLine key) answer)
  | .offering key =>
    (Filter.offer? key b.outboxOpen b.outbox).map fun (state, outbox) =>
      ({ b with stage := .filter threshold state, outbox }, [])
  | _ => none

/-- One step of a deleter. -/
def deleterStep? (b : StageBench) (size : Nat) : Deleter → Option (StageBench × List Effect)
  | .collecting batch =>
    (Deleter.take? (Deleter.effectiveSize size) batch b.inboxOpen b.inbox).map
      fun (state, inbox) => ({ b with stage := .deleter size state, inbox }, [])
  | .deleting batch next =>
    let (answer, store, plan) := b.plan.deleteKeys b.store batch
    some ({ b with
        stage := .deleter size (Deleter.afterAnswer next answer)
        store, plan
        control :=
          Pipeline.recordUnlessCrashed (Pipeline.cancelIfFailed b.control answer) batch answer },
      Pipeline.effects (.deleted batch answer) (Deleter.failureLine batch) answer)
  | _ => none

/-- One step of the stage, if it can make one. -/
def step? (b : StageBench) : Option (StageBench × List Effect) :=
  match b.stage with
  | .scanner pattern state => b.scannerStep? pattern state
  | .filter threshold state => b.filterStep? threshold state
  | .deleter size state => b.deleterStep? size state

/-- A bound on the number of steps that the stage makes on its own: three for each key in its inbox,
or for each key that fits into its outbox, and a few at the end. -/
def pressure (b : StageBench) : Nat := 3 * (b.inbox.queue.length + b.outbox.capacity + 3)

/-- Lets the stage make at most so many steps. -/
def settleWithin : Nat → StageBench → StageBench × List Effect
  | 0, b => (b, [])
  | bound + 1, b =>
    match b.step? with
    | none => (b, [])
    | some (next, effects) =>
      let (last, later) := settleWithin bound next
      (last, effects ++ later)

/-- Lets the stage run until it waits or is done. -/
def settle (b : StageBench) : StageBench × List Effect := settleWithin b.pressure b

/-- Feeds one key. -/
def feedOne (b : StageBench) (key : String) : BenchResult × StageBench :=
  if !b.inboxOpen then (.inputClosed, b)
  else if b.isLive then (.fed true, { b with inbox := b.inbox.push key })
  else (.fed false, b)

/-- Feeds keys one after the other. -/
def feed (b : StageBench) : List String → List BenchResult × StageBench
  | [] => ([], b)
  | key :: rest =>
    let (result, next) := b.feedOne key
    let (results, last) := feed next rest
    (result :: results, last)

/-- Receives one key. -/
def receiveOne (b : StageBench) : BenchResult × StageBench :=
  if !b.outboxOpen then (.dropped, b)
  else
    match b.outbox.pop? with
    | some (key, outbox) => (.received key, { b with outbox })
    | none => (if b.isLive then .empty else .closed, b)

/-- Receives keys, at most so many; the stage runs before each of them. -/
def receive : Nat → StageBench → List BenchResult × StageBench × List Effect
  | 0, b => ([], b, [])
  | count + 1, b =>
    let (settled, effects) := b.settle
    let (result, next) := settled.receiveOne
    let (results, last, later) := receive count next
    (result :: results, last, effects ++ later)

/-- Carries out a command, without letting the stage run afterwards. -/
def perform (b : StageBench) : BenchCommand → List BenchResult × StageBench × List Effect
  | .settle => ([], b, [])
  | .cancel => ([], { b with control := b.control.cancel }, [])
  | .closeInput => ([], { b with inboxOpen := false }, [])
  | .dropOutput =>
    ([], { b with outboxOpen := false, outbox := .empty b.outbox.capacity }, [])
  | .feed keys =>
    let (results, next) := b.feed keys
    (results, next, [])
  | .receive count => receive count b

/-- Carries out a command and lets the stage run. -/
def run (b : StageBench) (command : BenchCommand) :
    List BenchResult × StageBench × List Effect :=
  let (results, next, effects) := b.perform command
  let (settled, later) := next.settle
  (results, settled, effects ++ later)

/-- A bench with a stage that has not run yet. -/
def fresh (stage : BenchStage) (store : Store) (faults : List Fault) (capacity : Nat)
    (cancelled : Bool) : StageBench where
  stage := stage
  store := store
  plan := .ofFaults faults
  scan := .fresh (match stage with | .scanner pattern _ => pattern | _ => "")
  control := .fresh cancelled
  inbox := .empty 0
  inboxOpen := true
  outbox := .empty capacity
  outboxOpen := true

end StageBench

end KeySweeper
