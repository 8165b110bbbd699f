import KeySweeper.Admin
import KeySweeper.Fleet.Gate
import KeySweeper.Store.Session

/-!
# Scripts for a fleet

A fleet is put through its paces by commands: callers ask for sweeps, hold, drive or drop them,
operators stop sweepers and use the admin interface, flags are raised, schedules are started and
their clock is moved, other clients use the store directly, and waiting store calls are let through.
After every command the fleet settles, and an observation shows its state together with what is new
in its journals.
-/

namespace KeySweeper.Fleet

/-- A command for a fleet. -/
inductive Command where
  /-- A caller asks for a sweep, and drives it from the start or holds it. -/
  | run (held : Bool)
  /-- A caller asks for a sweep below the current flag. -/
  | runUntil (held : Bool)
  /-- A caller has the sweeper claimed at once. -/
  | start (held : Bool)
  /-- A caller starts to drive a sweep that it held. -/
  | poll (run : Nat)
  /-- A caller drops a sweep, at a place where a task can still be started or not. -/
  | drop (run : Nat) (canSpawn : Bool)
  /-- The sweeper is asked to stop. -/
  | stop
  /-- The current flag is raised. -/
  | shutdown
  /-- A fresh flag takes the place of the current one. -/
  | newCaller
  /-- At most so many waiting calls are let through. -/
  | step (count : Nat) (selection : Selection)
  /-- Waiting calls are let through until none is left. -/
  | finish (selection : Selection)
  /-- Other kinds of call go first from now on. -/
  | priority (order : List CallKind)
  /-- Other faults are planned for the sweeper, and its calls are counted anew. -/
  | plan (faults : List Fault)
  /-- Another client uses the store. -/
  | store (command : SessionCommand)
  /-- An operator uses the admin interface of the sweeper. -/
  | http (request : Admin.Request)
  /-- The sweeper is put on a schedule below the current flag. -/
  | schedule (interval : Nat)
  /-- The clock of the schedules moves. -/
  | advance (millis : Nat)
deriving Repr

/-- The answer to a command. -/
inductive Result where
  /-- The command was carried out. -/
  | done
  /-- A sweep was asked for and has this number. -/
  | run (number : Nat)
  /-- The sweeper was busy. -/
  | refused
  /-- The sweep of this sweeper was dropped. -/
  | dropped (member : Nat)
  /-- There was nothing to drop. -/
  | notActive
  /-- So many calls were let through. -/
  | released (count : Nat)
  /-- A schedule was started and has this index. -/
  | schedule (index : Nat)
  /-- The store answered. -/
  | store (answer : SessionAnswer)
  /-- The admin interface answered. -/
  | http (response : Admin.Response)
  /-- There is no such sweeper. -/
  | noSuchSweeper
  /-- There is no such sweep. -/
  | noSuchRun
  /-- The command is not known. -/
  | unknownCommand
deriving Repr

/-- The index and the errand of a sweep that a caller asked for. -/
def errandOf? (f : Fleet) (run : Nat) : Option (Nat × Errand) :=
  f.errands.zipIdx.findSome? fun (e, index) =>
    if e.client = .caller run then some (index, e) else none

/-- A caller asks for a sweep and gets its number. -/
def requestRun (f : Fleet) (member : Nat) (caller : Option Nat) (held : Bool) : Result × Fleet :=
  (.run f.runs,
    { f.request member caller (.caller f.runs) held with runs := f.runs + 1 })

/-- A caller has the sweeper claimed at once, if it is free. -/
def startRun (f : Fleet) (member : Nat) (held : Bool) : Result × Fleet :=
  match f.move? member .start with
  | none => (.refused, f)
  | some next =>
    (.run f.runs,
      { next.withErrand member (f.sweepCount member) (.caller f.runs) held with
        runs := f.runs + 1 })

/-- A caller starts to drive a sweep. -/
def pollRun (f : Fleet) (run : Nat) : Result × Fleet :=
  match f.errandOf? run with
  | none => (.noSuchRun, f)
  | some (index, _) =>
    (.done, { f with errands := f.errands.modify index fun e => { e with held := false } })

/-- A caller drops a sweep, which gives up its claim at once. -/
def dropRun (f : Fleet) (run : Nat) (canSpawn : Bool) : Result × Fleet :=
  match f.errandOf? run with
  | none => (.notActive, f)
  | some (index, e) =>
    match f.move? e.member (.sweep e.sweep (.drop canSpawn)) with
    | none => (.notActive, f)
    | some next =>
      (.dropped e.member,
        ({ next with errands := next.errands.modify index fun e => { e with held := false } }
          |>.settleErrand index))

/-- An operator uses the admin interface. A sweep that is started this way is driven from now on. -/
def serve (f : Fleet) (member : Nat) (request : Admin.Request) : Result × Fleet :=
  match f.members[member]? with
  | none => (.noSuchSweeper, f)
  | some m =>
    let reply := Admin.handle m.sweeper .epoch request
    let next := { f with members := f.members.set member { m with sweeper := reply.sweeper } }
    (.http reply.response,
      match reply.started with
      | none => next
      | some sweep => next.withErrand member sweep .operator false)

/-- Puts a sweeper on a schedule below the current flag. -/
def addSchedule (f : Fleet) (member interval : Nat) : Result × Fleet :=
  (.schedule f.schedules.length,
    { f.trace [Schedule.startEvent interval] with
      schedules := f.schedules ++ [.start member f.currentCaller interval f.clock]
      turns := f.turns ++ [f.schedules.length] })

/-- Plans other faults for a sweeper. -/
def replan (f : Fleet) (member : Nat) (faults : List Fault) : Fleet :=
  { f with members := f.members.modify member fun m => { m with plan := .ofFaults faults } }

/-- Another client uses the store. -/
def useStore (f : Fleet) (command : SessionCommand) : Result × Fleet :=
  let (answer, _, session) := (Session.ofStore f.store).run command
  (.store answer, { f with store := session.store })

/-- Carries out a command for a sweeper that exists, without settling afterwards. -/
def perform (f : Fleet) (member : Nat) : Command → Result × Fleet
  | .run held => f.requestRun member none held
  | .runUntil held => f.requestRun member (some f.currentCaller) held
  | .start held => f.startRun member held
  | .poll run => f.pollRun run
  | .drop run canSpawn => f.dropRun run canSpawn
  | .stop => (.done, (f.move? member .stop).getD f)
  | .shutdown => (.done, f.cancelCaller f.currentCaller)
  | .newCaller => (.done, { f with callers := f.callers ++ [false] })
  | .step count selection =>
    let (released, next) := release selection count f.settle
    (.released released, next)
  | .finish selection =>
    let settled := f.settle
    let (released, next) := release selection settled.workload settled
    (.released released, next)
  | .priority order => (.done, { f with priority := order })
  | .plan faults => (.done, f.replan member faults)
  | .store command => f.useStore command
  | .http request => f.serve member request
  | .schedule interval => f.addSchedule member interval
  | .advance millis => (.done, { f with clock := f.clock + millis })

/-- Whether a command names a sweeper that has to exist. Dropping a sweep where no task can be
started names only the sweep. -/
def needsSweeper : Option Command → Bool
  | some (.drop _ canSpawn) => canSpawn
  | _ => true

/-- Carries out a command, if it is one, and settles. -/
def execute (f : Fleet) (member : Nat) (command : Option Command) : Result × Fleet :=
  if needsSweeper command && f.members.length ≤ member then (.noSuchSweeper, f)
  else
    match command with
    | none => (.unknownCommand, f)
    | some command =>
      let (result, next) := f.perform member command
      (result, next.settle)

/-- What can be seen of a fleet after a command. -/
structure Observation where
  /-- The phases of the sweepers. -/
  phases : List Phase
  /-- How many keys each sweeper's last sweep handed over for deletion. -/
  lastDeleted : List (Option UInt64)
  /-- For each schedule, whether it has ended. -/
  schedulesOver : List Bool
  /-- The calls that wait at the gate. -/
  waiting : List WaitingCall
  /-- How many live keys the store holds. -/
  live : Nat
  /-- What is new in the journals. -/
  news : Journal
deriving Repr

/-- Observes a fleet, whose journals start anew. -/
def observe (f : Fleet) : Observation × Fleet :=
  ({ phases := f.members.map (·.sweeper.slot.phase)
     lastDeleted := f.members.map fun m => m.sweeper.slot.lastReport.map (·.deleted)
     schedulesOver := f.schedules.map fun s => s.state == .over
     waiting := f.listed
     live := f.store.size
     news := f.journal },
    { f with journal := .empty })

end KeySweeper.Fleet
