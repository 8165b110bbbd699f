import KeySweeper.Proofs.Containment

/-!
# Joining the stages, poll by poll

A sweep waits for a stage in one move. Seen from closer up, the task that waits polls the handle of
the stage where it lies, at the front of a list, and is suspended until the stage has ended; only
then does it take the handle off the list and note a crash. While it is suspended its sweep can be
dropped, and a task that is spawned then takes the list over and starts the same loop from its
front. A handle must not be polled again once it has given its result.

This module follows the loop statement by statement. Between the poll that gets a result and the
removal of the handle the task is never suspended, so the list that is handed over holds no handle
whose result was taken: each handle gives its result once, to one of the two tasks, and the crash of
each stage is noted once, in the order of the list.
-/

namespace KeySweeper

/-- Who runs the loop. -/
inductive Joining.Caller where
  /-- The sweep, which waits for its stages. -/
  | run
  /-- The sweep, which is about to release the guard and makes sure that no stage is left. -/
  | release
  /-- The task that was spawned when the sweep was dropped. -/
  | spawned
  /-- Nobody. The sweep was dropped where no task can be spawned. -/
  | nobody
deriving DecidableEq, Repr

/-- The handle of a stage. -/
structure Joining.Handle where
  /-- The stage. -/
  stage : StageName
  /-- Whether the handle has given its result. -/
  spent : Bool
deriving DecidableEq, Repr

/-- Where the loop stands. -/
inductive Joining.Place where
  /-- It looks for the first handle of the list. -/
  | looking
  /-- It is suspended at the first handle. -/
  | suspended
  /-- The first handle has given its result, the text of a crash or none, and is still on the
  list. -/
  | answered (crash : Option String)
  /-- The handle is off the list, and its result is not noted yet. -/
  | unnoted (stage : StageName) (crash : Option String)
  /-- The list is empty, and the loop is over. -/
  | through
  /-- The guard is being released. -/
  | releasing
  /-- Nothing goes on any more. -/
  | halted
deriving DecidableEq, Repr

/-- A sweep whose stages are being joined. -/
structure Joining where
  /-- The stages. -/
  work : Work
  /-- Who runs the loop. -/
  caller : Joining.Caller
  /-- The handles of the stages that are not joined yet. -/
  handles : List Joining.Handle
  /-- Where the loop stands. -/
  place : Joining.Place
deriving DecidableEq, Repr

namespace Joining

open Sweep (Part entries stageCrashLine joinLines crashNotes)

/-- Handles that have not given their results. -/
def fresh (stages : List StageName) : List Handle := stages.map fun stage => ⟨stage, false⟩

/-- The stages have just been started. -/
def opened (flag : Bool) : Joining where
  work := .running (.fresh (.fresh flag))
  caller := .run
  handles := fresh StageName.all
  place := .looking

/-- What happens next. -/
inductive Move where
  /-- A stage moves. -/
  | stage (move : Pipeline.Move)
  /-- The sweep is told to wind down. -/
  | cancel
  /-- The task looks for the first handle and polls it. The runtime may make it wait even if the
  stage has ended. -/
  | poll (granted : Bool)
  /-- The task takes the first handle off the list. -/
  | remove
  /-- The task notes the result. -/
  | note
  /-- The task goes on behind the loop. -/
  | proceed
  /-- The sweep is dropped, at a place where a task can be spawned or not. -/
  | drop (canSpawn : Bool)
deriving DecidableEq, Repr

/-- What can be seen of a move. -/
inductive Event where
  /-- A handle has given its result. -/
  | completed (caller : Caller) (stage : StageName)
  /-- A handle was polled that had given its result before. -/
  | misused (caller : Caller) (stage : StageName)
  /-- The release of the guard begins. -/
  | released (caller : Caller)
  /-- Something that belongs to the chronicle of the sweep. -/
  | shown (entry : Part × Effect)
deriving DecidableEq, Repr

/-- The lines about a result. -/
def crashLines (stage : StageName) (crash : Option String) : List LogLine :=
  crash.toList.map (stageCrashLine stage)

/-- The move of the sweep that stands for noting a stage. -/
def Caller.joinMove : Caller → Sweep.Move
  | .spawned => .releaserJoin
  | _ => .join

variable (s : Settings) (j : Joining)

/-- The state after a poll of the first handle. -/
def afterPoll (granted : Bool) (first : Handle) (rest : List Handle) : Joining × List Event :=
  if first.spent then ({ j with place := .halted }, [.misused j.caller first.stage])
  else if granted && j.work.hasEnded first.stage then
    ({ j with
        handles := { first with spent := true } :: rest
        place := .answered (j.work.crash? first.stage) }, [.completed j.caller first.stage])
  else ({ j with place := .suspended }, [])

/-- The state once the sweep was dropped. The list goes to a task if one can be spawned. -/
def afterDrop (canSpawn : Bool) : Joining × List Event :=
  if canSpawn then ({ j with work := j.work.cancel, caller := .spawned, place := .looking }, [])
  else ({ j with work := j.work.cancel, caller := .nobody, place := .halted },
    [.shown (.driver, .logged (Sweep.guardLeftLine s))])

/-- The state after a move and what can be seen of it. There is none if the move cannot be made now.
Only a suspended task can be dropped, and the spawned one is never. -/
def step? : Move → Option (Joining × List Event)
  | .stage move =>
    match j.work with
    | .running p => (p.step? s move).map fun (p, effects) =>
        ({ j with work := .running p }, (entries (.stage move) effects).map .shown)
    | .waiting _ => none
  | .cancel => some ({ j with work := j.work.cancel }, [])
  | .poll granted =>
    match j.place, j.handles with
    | .looking, [] => some ({ j with place := .through }, [])
    | .looking, first :: rest => some (j.afterPoll granted first rest)
    | .suspended, first :: rest => some (j.afterPoll granted first rest)
    | _, _ => none
  | .remove =>
    match j.place, j.handles with
    | .answered crash, first :: rest =>
      some ({ j with handles := rest, place := .unnoted first.stage crash }, [])
    | _, _ => none
  | .note =>
    match j.place with
    | .unnoted stage crash => some ({ j with place := .looking },
        (entries j.caller.joinMove ((crashLines stage crash).map .logged)).map .shown)
    | _ => none
  | .proceed =>
    match j.place, j.caller with
    | .through, .run =>
      some ({ j with work := j.work.cancel, caller := .release, place := .looking }, [])
    | .through, .nobody => none
    | .through, _ => some ({ j with place := .releasing }, [.released j.caller])
    | _, _ => none
  | .drop canSpawn =>
    match j.place, j.caller with
    | .suspended, .run => some (j.afterDrop s canSpawn)
    | .suspended, .release => some (j.afterDrop s canSpawn)
    | _, _ => none

/-- The state after a sequence of moves and what can be seen of them. -/
abbrev run? (s : Settings) : Joining → List Move → Option (Joining × List Event) :=
  Execution.run? (step? s)

/-- The stages whose handles have given their results, in order. -/
def completed (events : List Event) : List StageName :=
  events.filterMap fun
    | .completed _ stage => some stage
    | _ => none

/-- What belongs to the chronicle of the sweep. -/
def chronicle (events : List Event) : Sweep.Chronicle :=
  events.filterMap fun
    | .shown entry => some entry
    | _ => none

variable {s j}

/-- The stages of the handles that have not given their results. -/
def unspent (j : Joining) : List StageName :=
  (j.handles.filter fun handle => !handle.spent).map (·.stage)

/-- The lines about a result that is not noted yet. -/
def unnoted (j : Joining) : List LogLine :=
  match j.place with
  | .answered crash => (j.handles.take 1).flatMap fun first => crashLines first.stage crash
  | .unnoted stage crash => crashLines stage crash
  | _ => []

/-- The stages that the sweep still has to wait for. A stage that was joined and not noted is one of
them. -/
def unjoined (j : Joining) : List StageName :=
  (match j.place with
    | .unnoted stage _ => [stage]
    | _ => []) ++ j.handles.map (·.stage)

/-- The sweep whose stages are being joined. -/
def toSweep (j : Joining) : Sweep :=
  match j.caller with
  | .run => ⟨.joining j.unjoined, j.work, .absent⟩
  | .release => ⟨.releasing, j.work, .absent⟩
  | .spawned =>
    ⟨.dropped, j.work, if j.place = .releasing then .releasing else .joining j.unjoined⟩
  | .nobody => ⟨.dropped, j.work, .absent⟩

/-- A way in which a move can come about. -/
inductive Steps (s : Settings) (j : Joining) : Move → Joining → List Event → Prop where
  /-- A stage moves. -/
  | staged (move : Pipeline.Move) (p next : Pipeline) (effects : List Effect)
      (running : j.work = .running p) (stepped : p.step? s move = some (next, effects)) :
      Steps s j (.stage move) { j with work := .running next }
        ((entries (.stage move) effects).map .shown)
  /-- The sweep is told to wind down. -/
  | told : Steps s j .cancel { j with work := j.work.cancel } []
  /-- No handle is left. -/
  | emptied (granted : Bool) (looking : j.place = .looking) (none : j.handles = []) :
      Steps s j (.poll granted) { j with place := .through } []
  /-- A handle is polled that has given its result before. -/
  | misused (granted : Bool) (first : Handle) (rest : List Handle)
      (polls : j.place = .looking ∨ j.place = .suspended) (handles : j.handles = first :: rest)
      (spent : first.spent = true) :
      Steps s j (.poll granted) { j with place := .halted } [.misused j.caller first.stage]
  /-- The task has to wait for the first handle. -/
  | waited (granted : Bool) (first : Handle) (rest : List Handle)
      (polls : j.place = .looking ∨ j.place = .suspended) (handles : j.handles = first :: rest)
      (held : granted = true → j.work.hasEnded first.stage = false) :
      Steps s j (.poll granted) { j with place := .suspended } []
  /-- The first handle gives its result. -/
  | answered (granted : Bool) (first : Handle) (rest : List Handle)
      (polls : j.place = .looking ∨ j.place = .suspended) (handles : j.handles = first :: rest)
      (unspent : first.spent = false) (ended : j.work.hasEnded first.stage = true) :
      Steps s j (.poll granted)
        { j with
          handles := { first with spent := true } :: rest
          place := .answered (j.work.crash? first.stage) } [.completed j.caller first.stage]
  /-- The first handle is taken off the list. -/
  | removed (crash : Option String) (first : Handle) (rest : List Handle)
      (answered : j.place = .answered crash) (handles : j.handles = first :: rest) :
      Steps s j .remove { j with handles := rest, place := .unnoted first.stage crash } []
  /-- A result is noted. -/
  | noted (stage : StageName) (crash : Option String) (unnoted : j.place = .unnoted stage crash) :
      Steps s j .note { j with place := .looking }
        ((entries j.caller.joinMove ((crashLines stage crash).map .logged)).map .shown)
  /-- The sweep has joined its stages and makes sure of it. -/
  | turned (through : j.place = .through) (own : j.caller = .run) :
      Steps s j .proceed { j with work := j.work.cancel, caller := .release, place := .looking } []
  /-- The release of the guard begins. -/
  | begun (through : j.place = .through) (second : j.caller = .release ∨ j.caller = .spawned) :
      Steps s j .proceed { j with place := .releasing } [.released j.caller]
  /-- The sweep is dropped and a task takes the list. -/
  | passedOn (suspended : j.place = .suspended) (own : j.caller = .run ∨ j.caller = .release) :
      Steps s j (.drop true) { j with work := j.work.cancel, caller := .spawned, place := .looking }
        []
  /-- The sweep is dropped and nobody takes the list. -/
  | left (suspended : j.place = .suspended) (own : j.caller = .run ∨ j.caller = .release) :
      Steps s j (.drop false) { j with work := j.work.cancel, caller := .nobody, place := .halted }
        [.shown (.driver, .logged (Sweep.guardLeftLine s))]

variable {next : Joining} {move : Move} {shown events : List Event} {moves : List Move}
  {flag : Bool}

/-- A poll of the first handle comes about in one of three ways. -/
theorem steps_afterPoll {granted : Bool} {first : Handle} {rest : List Handle}
    (polls : j.place = .looking ∨ j.place = .suspended) (handles : j.handles = first :: rest) :
    Steps s j (.poll granted) (j.afterPoll granted first rest).1
      (j.afterPoll granted first rest).2 := by
  simp only [afterPoll]
  split
  · next spent => exact .misused granted first rest polls handles spent
  · next fresh =>
    split
    · next given =>
      simp only [Bool.and_eq_true] at given
      exact .answered granted first rest polls handles (Bool.not_eq_true _ ▸ fresh) given.2
    · next held =>
      refine .waited granted first rest polls handles fun wanted => ?_
      simpa only [wanted, Bool.true_and, Bool.not_eq_true] using held

/-- Every move comes about in one of these ways. -/
theorem steps_of_step? (stepped : step? s j move = some (next, shown)) :
    Steps s j move next shown := by
  cases move with
  | stage stageMove =>
    simp only [step?] at stepped
    split at stepped
    · next p running =>
      obtain ⟨⟨after, effects⟩, made, result⟩ := Option.map_eq_some_iff.mp stepped
      obtain ⟨rfl, rfl⟩ := Prod.mk.inj result
      exact .staged stageMove p after effects running made
    · cases stepped
  | cancel =>
    obtain ⟨rfl, rfl⟩ := Prod.mk.inj (Option.some.inj stepped)
    exact .told
  | poll granted =>
    simp only [step?] at stepped
    split at stepped
    · next looking none =>
      obtain ⟨rfl, rfl⟩ := Prod.mk.inj (Option.some.inj stepped)
      exact .emptied granted looking none
    · next first rest looking handles =>
      obtain ⟨rfl, rfl⟩ := Prod.mk.inj (Option.some.inj stepped)
      exact steps_afterPoll (Or.inl looking) handles
    · next first rest suspended handles =>
      obtain ⟨rfl, rfl⟩ := Prod.mk.inj (Option.some.inj stepped)
      exact steps_afterPoll (Or.inr suspended) handles
    · cases stepped
  | remove =>
    simp only [step?] at stepped
    split at stepped
    · next crash first rest answered handles =>
      obtain ⟨rfl, rfl⟩ := Prod.mk.inj (Option.some.inj stepped)
      exact .removed crash first rest answered handles
    · cases stepped
  | note =>
    simp only [step?] at stepped
    split at stepped
    · next stage crash unnoted =>
      obtain ⟨rfl, rfl⟩ := Prod.mk.inj (Option.some.inj stepped)
      exact .noted stage crash unnoted
    · cases stepped
  | proceed =>
    simp only [step?] at stepped
    split at stepped
    · next through own =>
      obtain ⟨rfl, rfl⟩ := Prod.mk.inj (Option.some.inj stepped)
      exact .turned through own
    · cases stepped
    · next through notRun notNobody =>
      obtain ⟨rfl, rfl⟩ := Prod.mk.inj (Option.some.inj stepped)
      refine .begun through ?_
      cases caller : j.caller with
      | run => exact absurd caller notRun
      | release => exact Or.inl rfl
      | spawned => exact Or.inr rfl
      | nobody => exact absurd caller notNobody
    · cases stepped
  | drop canSpawn =>
    have dropped (suspended : j.place = .suspended) (own : j.caller = .run ∨ j.caller = .release) :
        Steps s j (.drop canSpawn) (j.afterDrop s canSpawn).1 (j.afterDrop s canSpawn).2 := by
      cases canSpawn with
      | true => exact .passedOn suspended own
      | false => exact .left suspended own
    simp only [step?] at stepped
    split at stepped
    · next suspended own =>
      obtain ⟨rfl, rfl⟩ := Prod.mk.inj (Option.some.inj stepped)
      exact dropped suspended (Or.inl own)
    · next suspended own =>
      obtain ⟨rfl, rfl⟩ := Prod.mk.inj (Option.some.inj stepped)
      exact dropped suspended (Or.inr own)
    · cases stepped

/-! ### The shapes of the loop -/

/-- How the loop can stand. -/
inductive Stands (work : Work) : Caller → List Handle → Place → Prop where
  /-- It looks for the first handle. When the guard is about to be released there is none. -/
  | looking (caller : Caller) (rest : List StageName) (somebody : caller ≠ .nobody)
      (last : caller = .release → rest = []) : Stands work caller (fresh rest) .looking
  /-- It is suspended at the first handle. -/
  | suspended (caller : Caller) (stage : StageName) (rest : List StageName)
      (joins : caller = .run ∨ caller = .spawned) :
      Stands work caller (fresh (stage :: rest)) .suspended
  /-- The first handle has given its result, and no other has. -/
  | answered (caller : Caller) (stage : StageName) (rest : List StageName) (crash : Option String)
      (joins : caller = .run ∨ caller = .spawned) (ended : work.hasEnded stage = true)
      (result : crash = work.crash? stage) :
      Stands work caller (⟨stage, true⟩ :: fresh rest) (.answered crash)
  /-- The handle is off the list. -/
  | unnoted (caller : Caller) (stage : StageName) (rest : List StageName) (crash : Option String)
      (joins : caller = .run ∨ caller = .spawned) (ended : work.hasEnded stage = true)
      (result : crash = work.crash? stage) : Stands work caller (fresh rest) (.unnoted stage crash)
  /-- The list is empty. -/
  | through (caller : Caller) (somebody : caller ≠ .nobody) : Stands work caller [] .through
  /-- The guard is being released. -/
  | releasing (caller : Caller) (second : caller = .release ∨ caller = .spawned) :
      Stands work caller [] .releasing
  /-- The sweep was dropped and nobody took the list. -/
  | left (rest : List StageName) : Stands work .nobody (fresh rest) .halted

/-- A step lets the stages be, lets one of them move or tells them to wind down. -/
theorem workStep_of_steps (steps : Steps s j move next shown) :
    ∃ called, Sweep.WorkStep s j.work next.work called := by
  have told := Sweep.WorkStep.cancel (s := s) j.work
  cases steps with
  | staged stageMove p after effects running stepped =>
    rw [running]
    exact ⟨calls effects, .staged stageMove p after effects stepped⟩
  | told => exact ⟨[], told⟩
  | turned through own => exact ⟨[], told⟩
  | passedOn suspended own => exact ⟨[], told⟩
  | left suspended own => exact ⟨[], told⟩
  | _ => exact ⟨[], .still j.work⟩

variable {work after : Work} {caller : Caller} {handles : List Handle} {place : Place}
  {called : List StoreEvent}

/-- How the loop stands does not depend on what the stages do, because a stage that has ended stays
as it is. -/
theorem Stands.worked (stands : Stands work caller handles place)
    (onward : Sweep.WorkStep s work after called) :
    Stands after caller handles place := by
  cases stands with
  | looking _ rest somebody last => exact .looking caller rest somebody last
  | suspended _ stage rest joins => exact .suspended caller stage rest joins
  | answered _ stage rest crash joins ended result =>
    have still := Sweep.ended_step onward ended
    exact .answered caller stage rest crash joins still.1 (result.trans still.2.symm)
  | unnoted _ stage rest crash joins ended result =>
    have still := Sweep.ended_step onward ended
    exact .unnoted caller stage rest crash joins still.1 (result.trans still.2.symm)
  | through _ somebody => exact .through caller somebody
  | releasing _ second => exact .releasing caller second
  | left rest => exact .left rest

/-- A task that polls its first handle joins, and neither this handle nor one behind it has given
its result. -/
theorem Stands.polled {first : Handle} {rest : List Handle}
    (stands : Stands work caller (first :: rest) place)
    (polls : place = .looking ∨ place = .suspended) :
    (caller = .run ∨ caller = .spawned) ∧ ∃ stages, first.spent = false ∧ rest = fresh stages := by
  generalize split : first :: rest = handles at stands
  rcases polls with rfl | rfl
  · cases stands with
    | looking _ stages somebody last =>
      cases stages with
      | nil => cases split
      | cons stage stages =>
        obtain ⟨rfl, rfl⟩ := List.cons.inj split
        refine ⟨?_, stages, rfl, rfl⟩
        cases caller with
        | run => exact Or.inl rfl
        | release => cases last rfl
        | spawned => exact Or.inr rfl
        | nobody => exact absurd rfl somebody
  · cases stands with
    | suspended _ stage stages joins =>
      obtain ⟨rfl, rfl⟩ := List.cons.inj split
      exact ⟨joins, stages, rfl, rfl⟩

/-- So no handle is polled that has given its result before. -/
theorem Stands.unspent_first {first : Handle} {rest : List Handle}
    (stands : Stands work caller handles place) (polls : place = .looking ∨ place = .suspended)
    (split : handles = first :: rest) :
    first.spent = false := by
  rw [split] at stands
  obtain ⟨-, stages, unspent, -⟩ := stands.polled polls
  exact unspent

/-- Only a handle that has given its result is taken off the list, and then it was the only one. -/
theorem Stands.taken {crash : Option String} {first : Handle} {rest : List Handle}
    (stands : Stands work caller (first :: rest) (.answered crash)) :
    (caller = .run ∨ caller = .spawned) ∧ ∃ stages, first.spent = true ∧ rest = fresh stages ∧
      work.hasEnded first.stage = true ∧ crash = work.crash? first.stage := by
  generalize split : first :: rest = handles at stands
  cases stands with
  | answered _ stage stages _ joins ended result =>
    obtain ⟨rfl, rfl⟩ := List.cons.inj split
    exact ⟨joins, stages, rfl, rfl, ended, result⟩

/-- A result that is not noted yet is that of a stage that has ended. -/
theorem Stands.noting {stage : StageName} {crash : Option String}
    (stands : Stands work caller handles (.unnoted stage crash)) :
    (caller = .run ∨ caller = .spawned) ∧ ∃ stages, handles = fresh stages ∧
      work.hasEnded stage = true ∧ crash = work.crash? stage := by
  cases stands with
  | unnoted _ _ stages _ joins ended result => exact ⟨joins, stages, rfl, ended, result⟩

/-- Only a task that joins is ever suspended. -/
theorem Stands.held (stands : Stands work caller handles .suspended) :
    (caller = .run ∨ caller = .spawned) ∧ ∃ stage stages, handles = fresh (stage :: stages) := by
  cases stands with
  | suspended _ stage stages joins => exact ⟨joins, stage, stages, rfl⟩

/-- The sweep is never suspended on its way to the release, because no handle is left then. -/
theorem Stands.dropped (stands : Stands work caller handles .suspended)
    (own : caller = .run ∨ caller = .release) : caller = .run := by
  obtain ⟨rfl | rfl, -⟩ := stands.held
  · rfl
  · rcases own with impossible | impossible <;> cases impossible

/-- Somebody looks for the first handle. -/
theorem Stands.somebody (stands : Stands work caller handles .looking) : caller ≠ .nobody := by
  cases stands with
  | looking _ rest somebody last => exact somebody

/-- Behind the loop no handle is left. -/
theorem Stands.behind (stands : Stands work caller handles .through) : handles = [] := by
  cases stands with
  | through _ somebody => rfl

/-- When the guard is being released no handle is left. -/
theorem Stands.closed (stands : Stands work caller handles .releasing) : handles = [] := by
  cases stands with
  | releasing _ second => rfl

/-- No move leads the loop out of its shapes. -/
theorem Stands.step (stands : Stands j.work j.caller j.handles j.place)
    (steps : Steps s j move next shown) :
    Stands next.work next.caller next.handles next.place := by
  obtain ⟨called, onward⟩ := workStep_of_steps steps
  cases steps with
  | staged stageMove p after effects running stepped => exact stands.worked onward
  | told => exact stands.worked onward
  | emptied granted looking none =>
    rw [looking] at stands
    simp only [none]
    exact .through j.caller stands.somebody
  | misused granted first rest polls handles spent =>
    cases spent.symm.trans (stands.unspent_first polls handles)
  | waited granted first rest polls handles held =>
    simp only [handles] at stands ⊢
    obtain ⟨joins, stages, unspent, rfl⟩ := stands.polled polls
    obtain ⟨stage, spent⟩ := first
    obtain rfl : spent = false := unspent
    exact .suspended j.caller stage stages joins
  | answered granted first rest polls handles unspent ended =>
    rw [handles] at stands
    obtain ⟨joins, stages, -, rfl⟩ := stands.polled polls
    exact .answered j.caller first.stage stages _ joins ended rfl
  | removed crash first rest answered handles =>
    rw [handles, answered] at stands
    obtain ⟨joins, stages, -, rfl, ended, result⟩ := stands.taken
    exact .unnoted j.caller first.stage stages crash joins ended result
  | noted stage crash unnoted =>
    rw [unnoted] at stands
    obtain ⟨joins, stages, handles, -⟩ := stands.noting
    simp only [handles]
    refine .looking j.caller stages ?_ ?_ <;> rcases joins with
      own | own <;> rw [own] <;> exact nofun
  | turned through own =>
    rw [through] at stands
    simp only [stands.behind]
    exact .looking .release [] nofun fun _ => rfl
  | begun through second =>
    rw [through] at stands
    simp only [stands.behind]
    exact .releasing j.caller second
  | passedOn suspended own =>
    rw [suspended] at stands
    obtain ⟨-, stage, stages, handles⟩ := stands.held
    simp only [handles]
    exact .looking .spawned (stage :: stages) nofun nofun
  | left suspended own =>
    rw [suspended] at stands
    obtain ⟨-, stage, stages, handles⟩ := stands.held
    simp only [handles]
    exact .left (stage :: stages)

/-! ### The account of the results -/

@[simp] theorem completed_append (events later : List Event) :
    completed (events ++ later) = completed events ++ completed later := List.filterMap_append

@[simp] theorem chronicle_append (events later : List Event) :
    chronicle (events ++ later) = chronicle events ++ chronicle later := List.filterMap_append

@[simp] theorem completed_shown (log : Sweep.Chronicle) : completed (log.map .shown) = [] := by
  simp only [completed, List.filterMap_map, Function.comp_def, List.filterMap_none]

@[simp] theorem chronicle_shown (log : Sweep.Chronicle) : chronicle (log.map .shown) = log := by
  simp only [chronicle, List.filterMap_map, Function.comp_def, List.filterMap_some]

/-- The lines about the result of a stage are what the sweep notes of it. -/
theorem crashLines_crash? (work : Work) (stage : StageName) :
    crashLines stage (work.crash? stage) = joinLines work stage :=
  (Sweep.joinLines_eq work stage).symm

/-- The account of the results that the handles have given. -/
structure Account (j : Joining) (events : List Event) : Prop where
  /-- The loop has one of its shapes. -/
  stands : Stands j.work j.caller j.handles j.place
  /-- Each handle has given its result once, or is on the list and has not given it, all in the
  order of the stages. -/
  exact : completed events ++ j.unspent = StageName.all
  /-- A handle has given its result when its stage had ended. -/
  ended : ∀ stage ∈ completed events, j.work.hasEnded stage = true
  /-- The crashes of these stages were noted in this order, the last of them perhaps not yet. -/
  notes : crashNotes (chronicle events) ++ j.unnoted = (completed events).flatMap (joinLines j.work)
  /-- No handle was polled behind its result. -/
  sound : ∀ caller stage, .misused caller stage ∉ events

/-- At the start all handles are on the list. -/
theorem Account.opened (flag : Bool) : Account (.opened flag) [] where
  stands := .looking .run StageName.all nofun nofun
  exact := rfl
  ended := List.forall_mem_nil _
  notes := rfl
  sound _ _ := List.not_mem_nil

/-- A step that gets no result keeps the account, if it notes what is no longer to be noted. -/
theorem Account.kept (account : Account j events) (steps : Steps s j move next shown)
    (unspent : next.unspent = j.unspent) (silent : completed shown = [])
    (notes : crashNotes (chronicle shown) ++ next.unnoted = j.unnoted)
    (sound : ∀ caller stage, .misused caller stage ∉ shown) : Account next (events ++ shown) where
  stands := account.stands.step steps
  exact := by rw [completed_append, silent, List.append_nil, unspent, account.exact]
  ended stage member := by
    obtain ⟨called, onward⟩ := workStep_of_steps steps
    rw [completed_append, silent, List.append_nil] at member
    exact (Sweep.ended_step onward (account.ended stage member)).1
  notes := by
    obtain ⟨called, onward⟩ := workStep_of_steps steps
    rw [completed_append, silent, List.append_nil, Sweep.joinLines_step onward account.ended,
      ← account.notes, chronicle_append, Sweep.crashNotes_append, List.append_assoc, notes]
  sound caller stage member := by
    rcases List.mem_append.mp member with before | now
    · exact account.sound caller stage before
    · exact sound caller stage now

/-- The result of the first handle moves its stage from the list to the stages that are accounted
for. -/
theorem Account.answered {first : Handle} {rest : List Handle} (account : Account j events)
    (stands : Stands j.work j.caller ({ first with spent := true } :: rest)
      (.answered (j.work.crash? first.stage)))
    (polls : j.place = .looking ∨ j.place = .suspended) (handles : j.handles = first :: rest)
    (unspent : first.spent = false) (ended : j.work.hasEnded first.stage = true) :
    Account { j with
      handles := { first with spent := true } :: rest
      place := .answered (j.work.crash? first.stage) }
        (events ++ [.completed j.caller first.stage]) where
  stands := stands
  exact := by
    have whole := account.exact
    simp only [Joining.unspent, handles, unspent, Bool.not_false, List.filter_cons_of_pos,
      List.map_cons] at whole
    rw [completed_append]
    simpa [Joining.unspent, completed] using whole
  ended stage member := by
    rw [completed_append] at member
    rcases List.mem_append.mp member with before | now
    · exact account.ended stage before
    · obtain rfl := List.mem_singleton.mp now
      exact ended
  notes := by
    have notes := account.notes
    have none : j.unnoted = [] := by
      rcases polls with now | now <;> simp only [Joining.unnoted, now]
    rw [none, List.append_nil] at notes
    rw [completed_append, List.flatMap_append, ← notes, chronicle_append]
    simp [chronicle, Joining.unnoted, completed, crashLines_crash?]
  sound caller stage member := by
    rcases List.mem_append.mp member with before | now
    · exact account.sound caller stage before
    · cases List.mem_singleton.mp now

/-- Every step keeps the account. -/
theorem Account.step (account : Account j events) (steps : Steps s j move next shown) :
    Account next (events ++ shown) := by
  have stands := account.stands
  have onward := account.stands.step steps
  have kept := account.kept steps
  cases steps with
  | staged stageMove p after effects running stepped =>
    have made : Sweep.Steps s ⟨.dropped, j.work, .absent⟩ (.stage stageMove) _ :=
      .staged stageMove p after effects running stepped
    refine kept rfl (completed_shown _) ?_ (by simp)
    rw [chronicle_shown, Sweep.crashNotes_step made ⟨nofun, nofun⟩, List.nil_append]
    rfl
  | told => exact kept rfl rfl rfl nofun
  | emptied granted looking none =>
    refine kept rfl rfl ?_ nofun
    simp only [unnoted, looking]
    rfl
  | misused granted first rest polls handles spent =>
    cases spent.symm.trans (stands.unspent_first polls handles)
  | waited granted first rest polls handles held =>
    refine kept rfl rfl ?_ nofun
    rcases polls with now | now <;> simp only [unnoted, now] <;> rfl
  | answered granted first rest polls handles unspent ended =>
    exact account.answered onward polls handles unspent ended
  | removed crash first rest answered handles =>
    rw [handles, answered] at stands
    obtain ⟨-, stages, spent, -⟩ := stands.taken
    refine kept ?_ rfl ?_ nofun
    · simp only [unspent, handles, spent, Bool.not_true, List.filter_cons,
        Bool.false_eq_true, if_false]
    · simp only [unnoted, answered, handles, List.take_one, List.head?_cons, Option.toList_some,
        List.flatMap_singleton]
      rfl
  | noted stage crash unnoted =>
    rw [unnoted] at stands
    obtain ⟨-, stages, -, -, rfl⟩ := stands.noting
    refine kept rfl (completed_shown _) ?_ (by simp)
    rw [chronicle_shown, crashLines_crash?, Sweep.crashNotes_joined]
    simp only [Joining.unnoted, unnoted, crashLines_crash?, List.append_nil]
  | turned through own =>
    refine kept rfl rfl ?_ nofun
    simp only [unnoted, through]
    rfl
  | begun through second =>
    refine kept rfl rfl ?_ (by simp)
    simp only [unnoted, through]
    rfl
  | passedOn suspended own =>
    refine kept rfl rfl ?_ nofun
    simp only [unnoted, suspended]
    rfl
  | left suspended own =>
    have made : Sweep.Steps s ⟨.joining [], j.work, .absent⟩ (.drop false) _ := .left [] rfl
    refine kept rfl rfl ?_ (by simp)
    simp only [unnoted, suspended]
    exact Sweep.crashNotes_step made ⟨nofun, nofun⟩

/-- The account holds in all states. -/
theorem account_along (ran : run? s (.opened flag) moves = some (j, events)) :
    Account j events := by
  refine Execution.induction_along
    (motive := fun _ j events => Account j events) (.opened flag) ?_ ran
  intro moves move mid before next shown _ inductionHypothesis stepped
  exact inductionHypothesis.step (steps_of_step? stepped)

/-- Once the list is empty and nothing is left to be noted, all stages were joined and all crashes
are noted. -/
theorem Account.complete (account : Account j events) (none : j.handles = [])
    (noted : j.unnoted = []) :
    completed events = StageName.all ∧
      crashNotes (chronicle events) = StageName.all.flatMap (joinLines j.work) := by
  have whole := account.exact
  have notes := account.notes
  rw [show j.unspent =
    [] by simp only [unspent, none, List.filter_nil, List.map_nil], List.append_nil] at whole
  rw [noted, List.append_nil, whole] at notes
  exact ⟨whole, notes⟩

/-- The release of the guard begins only once the list is empty, all stages were joined and all
crashes are noted. -/
theorem Account.released (account : Account j events) (steps : Steps s j move next shown)
    {caller : Caller} (shows : .released caller ∈ shown) :
    j.handles = [] ∧ completed events = StageName.all ∧
      crashNotes (chronicle events) = StageName.all.flatMap (joinLines j.work) := by
  cases steps with
  | begun through second =>
    have stands := account.stands
    rw [through] at stands
    exact ⟨stands.behind, account.complete stands.behind (by simp only [unnoted, through])⟩
  | _ => simp at shows

end Joining

end KeySweeper
