import KeySweeper.Slot

/-!
# Sweepers

A sweeper runs sweeps over its store, one at a time. Sweeps can be asked for in three ways: on their
own, below a flag of the caller, or claimed at once so that a stop request reaches them before their
first step. All sweeps that were ever asked for are kept in order, because a dropped sweep goes on
to drain while the next one is already at work.

The sweeper is a transition system over its slot and its sweeps. A step of a sweep and what it
announces to the slot are one move; giving up the claim afterwards is a move of its own, so that
another claim may come in between.
-/

namespace KeySweeper

/-- A sweep as its sweeper knows it. -/
structure Engagement where
  /-- The sweep. -/
  sweep : Sweep
  /-- The caller's flag below which the sweep hangs, if there is one. -/
  caller : Option Nat
  /-- The generation of the claim that the sweep still holds. -/
  claim : Option Nat
deriving DecidableEq, Repr

/-- A bound on the number of moves that an engagement can make without the store and without anybody
outside: those of its sweep, its claim, and giving the claim up. -/
def Engagement.pressure (e : Engagement) : Nat :=
  e.sweep.pressure + (match e.sweep.driver with | .unclaimed => 4 | _ => 0)
    + (match e.claim with | some _ => 1 | none => 0) + 1

/-- A sweeper. -/
structure Sweeper where
  /-- What the sweeper was told. -/
  settings : Settings
  /-- The bookkeeping of the current sweep. -/
  slot : Slot
  /-- All sweeps that were asked for, in order. -/
  engagements : List Engagement
deriving DecidableEq, Repr

namespace Sweeper

/-- A sweeper that never ran. -/
def ofSettings (settings : Settings) : Sweeper := ⟨settings, .fresh, []⟩

/-- What is logged when a sweep finds its own sweeper busy. -/
def busyLine : LogLine := ⟨.info, "redis-cleaner is already running", []⟩

/-- One step of a sweeper, one of its sweeps, or somebody else. -/
inductive Move where
  /-- A sweep is asked for; it will claim the sweeper when it is first driven. -/
  | request (caller : Option Nat)
  /-- A sweep is asked for and claims the sweeper at once. -/
  | start
  /-- A sweep that was asked for tries to claim the sweeper; its caller's flag may be raised
  already. -/
  | claim (sweep : Nat) (callerCancelled : Bool)
  /-- A sweep makes a move. -/
  | sweep (index : Nat) (move : Sweep.Move)
  /-- A sweep that is over gives up its claim. -/
  | giveUp (sweep : Nat)
  /-- The current sweep is told to wind down. -/
  | stop
  /-- A caller's flag is raised. -/
  | cancelCaller (caller : Nat)
deriving DecidableEq, Repr

/-- A sweeper after a move, and what the move shows. -/
abbrev Progress := Sweeper × List Effect

/-- Whether the driving task of a sweep is over. -/
def isOver : Driver → Bool
  | .finished _ => true
  | .dropped => true
  | _ => false

/-- Whether the flag that a stop request raises is raised. -/
def holderCancelled (c : Sweeper) : Bool :=
  ((c.slot.holder.bind fun i => c.engagements[i]?).map (·.sweep.work.isCancelled)).getD false

/-- The sweeper with another engagement at an index. -/
def replace (c : Sweeper) (index : Nat) (e : Engagement) : Sweeper :=
  { c with engagements := c.engagements.set index e }

/-- Tells a sweep to wind down. -/
def cancelSweep (e : Engagement) : Engagement :=
  { e with sweep := { e.sweep with work := e.sweep.work.cancel } }

/-- A sweep tries to claim the sweeper. If another sweep is under way it ends at once, without
touching the store. -/
def claim? (c : Sweeper) (index : Nat) (callerCancelled : Bool) : Option Progress :=
  match c.engagements[index]? with
  | none => none
  | some e =>
    match e.sweep.driver with
    | .unclaimed =>
      match c.slot.claim? index with
      | some slot =>
        some ({ c.replace index
                  { e with sweep := .claimed callerCancelled, claim := some slot.generation } with
                slot }, [])
      | none =>
        some
          (c.replace index { e with sweep := { e.sweep with driver := .finished .alreadyRunning } },
          [.logged busyLine])
    | _ => none

/-- A sweep makes a move, and the slot hears of it. A dropped or finished sweep gives up its claim
by a move of its own. -/
def sweepStep? (c : Sweeper) (index : Nat) (move : Sweep.Move) : Option Progress :=
  match c.engagements[index]? with
  | none => none
  | some e =>
    match e.sweep.step? c.settings move with
    | none => none
    | some progress =>
      let slot := match progress.slot with
        | none => c.slot
        | some change => c.slot.apply c.holderCancelled change
      some ({ c.replace index { e with sweep := progress.sweep } with slot }, progress.effects)

/-- A sweep that is over gives up the claim it still holds. -/
def giveUp? (c : Sweeper) (index : Nat) : Option Progress :=
  match c.engagements[index]? with
  | none => none
  | some e =>
    match e.claim with
    | none => none
    | some generation =>
      if isOver e.sweep.driver then
        some ({ c.replace index { e with claim := none } with slot := c.slot.giveUp generation },
          [])
      else none

/-- The sweeper after a stop request: the latest claim's sweep is told to wind down. -/
def stop (c : Sweeper) : Sweeper :=
  { c with
    slot := c.slot.stop
    engagements := match c.slot.holder with
      | none => c.engagements
      | some index => c.engagements.modify index cancelSweep }

/-- The sweeper after a caller's flag was raised: the sweeps that claimed below it are told to wind
down. -/
def cancelCaller (c : Sweeper) (caller : Nat) : Sweeper :=
  { c with
    engagements := c.engagements.map fun e =>
      if e.caller = some caller ∧ e.sweep.driver ≠ .unclaimed then cancelSweep e else e }

/-- The sweeper after a move. There is none if the move cannot be made now. -/
def step? (c : Sweeper) : Move → Option Progress
  | .request caller =>
    some ({ c with engagements := c.engagements ++ [⟨.requested, caller, none⟩] }, [])
  | .start =>
    match c.slot.claim? c.engagements.length with
    | none => none
    | some slot =>
      some ({ c with
        slot
        engagements := c.engagements ++ [⟨.claimed false, none, some slot.generation⟩] }, [])
  | .claim index callerCancelled => c.claim? index callerCancelled
  | .sweep index move => c.sweepStep? index move
  | .giveUp index => c.giveUp? index
  | .stop => some (c.stop, [])
  | .cancelCaller caller => some (c.cancelCaller caller, [])

/-- How the sweep at an index came out, once it is over. -/
def outcome? (c : Sweeper) (index : Nat) : Option SweepOutcome :=
  match c.engagements[index]? with
  | some e =>
    match e.sweep.driver with
    | .finished outcome => some outcome
    | _ => none
  | none => none

/-- A bound on the number of moves of the sweeps that can follow each other without the store and
without anybody outside, claims and their ends included. -/
def pressure (c : Sweeper) : Nat := c.engagements.foldr (fun e total => e.pressure + total) 0

end Sweeper

end KeySweeper
