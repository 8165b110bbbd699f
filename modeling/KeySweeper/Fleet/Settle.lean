import KeySweeper.Fleet.Basic

/-!
# Settling

Between two answers of the store everything that can go on without the store goes on, until every
task waits for the store, for another task or for the clock, or is over. The tasks take turns in a
fixed order; since only one answer sets them going at a time, the order hardly shows. A schedule
acts at most once before the next answer: after a tick it waits for a sweep or for the clock, and at
the last moment of the clock, where ticks never end, it waits for the next answer.
-/

namespace KeySweeper.Fleet

/-- The errand with another state of its client. -/
def settleErrand (f : Fleet) (index : Nat) : Fleet :=
  { f with errands := f.errands.modify index fun e => { e with settled := true } }

/-- A schedule with another state. -/
def withSchedule (f : Fleet) (index : Nat) (s : Schedule) : Fleet :=
  { f with schedules := f.schedules.set index s }

/-- The client of an errand receives the outcome. -/
def deliver (f : Fleet) (client : Client) (outcome : SweepOutcome) : Fleet :=
  match client with
  | .caller run =>
    { f with journal := { f.journal with outcomes := f.journal.outcomes ++ [(run, outcome)] } }
  | .operator => f.trace (OnDemand.outcomeEvents outcome)
  | .schedule index =>
    match f.schedules[index]? with
    | none => f
    | some s =>
      let next :=
        (f.trace (Schedule.outcomeEvents outcome)).withSchedule index (s.afterSweep outcome)
      { next with turns := f.turns.erase index ++ [index] }

/-- The move of a sweeper that an errand makes next without the store. -/
def errandMove? (f : Fleet) (e : Errand) : Option Sweeper.Move :=
  match f.members[e.member]?, f.engagement? e.member e.sweep with
  | some m, some g =>
    if e.held then none
    else
      match g.sweep.driver with
      | .unclaimed => some (.claim e.sweep ((g.caller.map f.isCancelled).getD false))
      | _ =>
        match g.sweep.internalStep? m.sweeper.settings with
        | some move => some (.sweep e.sweep move)
        | none =>
          if g.claim.isSome && Sweeper.isOver g.sweep.driver then some (.giveUp e.sweep) else none
  | _, _ => none

/-- The outcome that the client of an errand has not received yet. -/
def undelivered? (f : Fleet) (e : Errand) : Option SweepOutcome :=
  if e.settled then none
  else (f.members[e.member]?).bind fun m => m.sweeper.outcome? e.sweep

/-- Lets one errand go on, if it can without the store. -/
def errandStep? (f : Fleet) (index : Nat) (e : Errand) : Option Fleet :=
  match f.errandMove? e with
  | some move => f.move? e.member move
  | none => (f.undelivered? e).map fun outcome => (f.deliver e.client outcome).settleErrand index

/-- Lets one schedule go on, if it can now. Its flag goes before its clock. -/
def scheduleStep? (f : Fleet) (index : Nat) (s : Schedule) : Option Fleet :=
  match s.state with
  | .waiting =>
    if f.isCancelled s.caller then
      some ((f.trace [Schedule.endEvent]).withSchedule index { s with state := .over })
    else if s.isDue f.clock then
      some ((f.withSchedule index (s.tick f.clock)).request s.member (some s.caller)
        (.schedule index) false)
    else none
  | _ => none

/-- The schedules in the order in which they notice their ticks: the earliest tick goes first, and
of ticks at the same moment the one of the schedule that has waited longer. -/
def scheduleOrder (f : Fleet) : List (Nat × Schedule) :=
  (f.turns.filterMap fun index => (f.schedules[index]?).map fun s => (index, s)).mergeSort
    fun a b => decide (a.2.dueMoment ≤ b.2.dueMoment)

/-- Lets the first task go on that can, given the schedules that have acted, and answers with the
fleet after it the schedules that have acted then. -/
def internalStep? (f : Fleet) (acted : List Nat) : Option (Fleet × List Nat) :=
  match f.errands.zipIdx.findSome? fun (e, index) => f.errandStep? index e with
  | some next => some (next, acted)
  | none =>
    f.scheduleOrder.findSome? fun (index, s) =>
      if acted.contains index then none
      else (f.scheduleStep? index s).map fun next => (next, index :: acted)

/-- A bound on the number of steps that can follow each other without the store and without anybody
outside: those of the sweeps, the deliveries, and for each schedule one sweep that is due. -/
def pressure (f : Fleet) : Nat :=
  f.members.foldr (fun m total => m.sweeper.pressure + total) 0 + f.errands.length + 16 *
    f.schedules.length

/-- Lets tasks go on for at most so many steps, given the schedules that have acted. -/
def settleWithin : Nat → List Nat → Fleet → Fleet
  | 0, _, f => f
  | bound + 1, acted, f =>
    match f.internalStep? acted with
    | some (next, acted) => settleWithin bound acted next
    | none => f

/-- The sites of the fleet that wait for the store. -/
def waitingSites (f : Fleet) : List Site :=
  f.errands.flatMap fun e =>
    match f.members[e.member]?, f.engagement? e.member e.sweep with
    | some m, some g =>
      (Sweep.Part.all.filter fun part => (g.sweep.pending? m.sweeper.settings part).isSome).map
        fun part => ⟨e.member, e.sweep, part⟩
    | _, _ => []

/-- Notes which sites have come to wait for the store and which have ceased to. -/
def noteArrivals (f : Fleet) : Fleet :=
  let waiting := f.waitingSites
  { f with
    arrivals := f.arrivals.filter waiting.contains
      ++ waiting.filter fun site => !f.arrivals.contains site }

/-- Lets everything go on that can without the store. -/
def settle (f : Fleet) : Fleet := (settleWithin f.pressure [] f).noteArrivals

end KeySweeper.Fleet
