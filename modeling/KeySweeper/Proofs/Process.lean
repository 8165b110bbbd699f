import KeySweeper.Admin
import KeySweeper.Proofs.Workplace
import KeySweeper.Schedule

/-!
# The process of the service

Once its schedule is started the main task of the service binds the address of the admin interface,
serves requests until a signal arrives, and waits for the schedule to end. Its end is graceful then.
It ends at once with an error if the address cannot be bound or if the server fails. The signal
raises the flag of the schedule; the server ends later, when the requests on open connections are
answered.

Everything happens at one workplace. The schedule asks for sweeps below its flag, one after the
other, and operators start sweeps over the admin interface. All these sweeps are driven by tasks of
the process, which never drop them; they take their turns in any order, and so do the store and its
other clients. When the main task ends nothing moves any more.
-/

namespace KeySweeper

namespace Admin

/-- Whether a request asks the sweeper to stop its current sweep. -/
def Request.AsksStop (request : Request) : Prop :=
  request.method = "POST" ∧ Route.ofPath? (pathOf request.target) = some .stop

/-- The ways in which a request can be answered. -/
inductive Handled (c : Sweeper) (request : Request) : Reply → Prop where
  /-- The sweeper stays as it is. -/
  | aside (response : Response) : Handled c request ⟨response, c, none⟩
  /-- The current sweep is told to wind down. -/
  | stopped (response : Response) (asked : request.AsksStop) :
      Handled c request ⟨response, c.stop, none⟩
  /-- A sweep claims the sweeper and has to be driven. -/
  | started (response : Response) (next : Sweeper) (free : c.step? .start = some (next, [])) :
      Handled c request ⟨response, next, some c.engagements.length⟩

/-- Every request is answered in one of these ways. -/
theorem handled (c : Sweeper) (now : Timestamp) (request : Request) :
    Handled c request (handle c now request) := by
  simp only [handle]
  split
  · exact .aside _
  · split
    · next route found =>
      simp only [serve]
      split
      · split
        · exact .aside _
        · split
          · exact .aside _
          · exact .aside _
      · next acting =>
        split
        · next posted =>
          cases route with
          | run =>
            simp only [actRoute]
            split
            · next next shown started =>
              have silent : shown = [] := by
                simp only [Sweeper.step?] at started
                split at started
                · cases started
                · exact (Prod.mk.inj (Option.some.inj started)).2.symm
              subst silent
              exact .started _ next started
            · exact .aside _
          | stop => exact .stopped _ ⟨posted, found⟩
          | health => exact absurd rfl acting
          | status => exact absurd rfl acting
          | report => exact absurd rfl acting
        · exact .aside _
    · exact .aside _

end Admin

/-- Whether a move of a sweep is made by one of the tasks that work for it. -/
def Sweep.Move.isTask : Sweep.Move → Bool
  | .cancel => false
  | .stage .cancel => false
  | .drop _ => false
  | _ => true

/-- Whether a turn at a workplace is taken by a task of a sweep, by the store or by another
client. -/
def Workplace.Turn.isTask : Workplace.Turn → Bool
  | .own (.sweep _ move) => move.isTask
  | .own (.giveUp _) => true
  | .own _ => false
  | .call _ _ _ => true
  | .others _ => true

/-- How far the main task has come since it started the schedule. -/
inductive Process.Stage where
  /-- It binds the address of the admin interface. -/
  | binding
  /-- It serves the admin interface. -/
  | serving
  /-- The server is over, and it waits for the schedule to end. -/
  | awaiting
  /-- It has ended, in good order or with an error. -/
  | ended (graceful : Bool)
deriving DecidableEq, Repr

/-- Whether the main task has ended. -/
def Process.Stage.isOver : Process.Stage → Bool
  | .ended _ => true
  | _ => false

/-- The process of the service. -/
structure Process where
  /-- The sweeper at its work. -/
  workplace : Workplace
  /-- The schedule. -/
  schedule : Schedule
  /-- The sweep that the schedule waits for. -/
  awaited : Option Nat
  /-- The sweeps that operators started over the admin interface. -/
  demanded : List Nat
  /-- Whether the signal has raised the flag of the schedule. -/
  raised : Bool
  /-- How far the main task has come. -/
  stage : Process.Stage
  /-- The time on the clock of the schedule, in milliseconds. -/
  clock : Nat

namespace Process

/-- A process whose schedule has just been started. -/
def opened (s : Settings) (store : Store) (interval : Nat) : Process where
  workplace := .opened s store
  schedule := .start 0 0 interval 0
  awaited := none
  demanded := []
  raised := false
  stage := .binding
  clock := 0

/-- A process whose schedule has just been started, with the time between two ticks left open. -/
def openedEvery (s : Settings) (store : Store) (period : Nat) : Process where
  workplace := .opened s store
  schedule := ⟨0, 0, period, 0, .waiting⟩
  awaited := none
  demanded := []
  raised := false
  stage := .binding
  clock := 0

/-- What happens next in the process. -/
inductive Move where
  /-- A task of a sweep, the store or another client of the store takes its turn. -/
  | turn (turn : Workplace.Turn)
  /-- A sweep of the schedule tries to claim the sweeper. -/
  | claim (index : Nat)
  /-- The schedule notices its tick and asks for a sweep. -/
  | tick
  /-- The schedule learns how its sweep came out. -/
  | deliver
  /-- The schedule notices that its flag is raised, and ends. -/
  | quit
  /-- Time passes. -/
  | elapse (millis : Nat)
  /-- A request is answered. -/
  | answer (now : Timestamp) (request : Admin.Request)
  /-- The address is bound, and the server starts. -/
  | bound
  /-- The address cannot be bound. -/
  | bindingFails
  /-- The server fails. -/
  | servingFails
  /-- A signal arrives and raises the flag of the schedule. -/
  | signal
  /-- After the signal, the server has answered its last request. -/
  | drained
  /-- The main task sees the end of the schedule, and ends. -/
  | joined

/-- The engagement of a sweep. -/
def engagement? (p : Process) (index : Nat) : Option Engagement :=
  p.workplace.sweeper.engagements[index]?

/-- The process after a turn at its workplace, and the entries of the sweeper's log for it. -/
def take? (p : Process) (turn : Workplace.Turn) : Option (Process × Sweeper.Log) :=
  (p.workplace.step? turn).map fun (workplace, shown) => ({ p with workplace }, shown)

/-- The process once the schedule has noticed its tick. Its clock and its flag are watched at the
same time, so that it may notice the tick after the flag is raised. -/
def tick? (p : Process) : Option (Process × Sweeper.Log) :=
  if p.schedule.state = .waiting ∧ p.schedule.isDue p.clock = true then
    (p.take? (.own (.request (some p.schedule.caller)))).map fun (next, shown) =>
      ({ next with
        schedule := p.schedule.tick p.clock
        awaited := some p.workplace.sweeper.engagements.length }, shown)
  else none

/-- How the sweep that the schedule waits for came out, once it is over and has given up its
claim. -/
def outcome? (p : Process) : Option SweepOutcome :=
  p.awaited.bind fun index => (p.engagement? index).bind fun e =>
    match e.sweep.driver, e.claim with
    | .finished outcome, none => some outcome
    | _, _ => none

/-- The process once a request is answered. -/
def answered (p : Process) (now : Timestamp) (request : Admin.Request) : Process :=
  let reply := Admin.handle p.workplace.sweeper now request
  { p with
    workplace := { p.workplace with sweeper := reply.sweeper }
    demanded := p.demanded ++ reply.started.toList }

/-- The process after a move that the main task has not ended before. -/
def advance? (p : Process) : Move → Option (Process × Sweeper.Log)
  | .turn turn => if turn.isTask then p.take? turn else none
  | .claim index => p.take? (.own (.claim index p.raised))
  | .tick => p.tick?
  | .deliver => p.outcome?.map fun outcome =>
      ({ p with schedule := p.schedule.afterSweep outcome, awaited := none }, [])
  | .quit =>
    if p.schedule.state = .waiting ∧ p.raised = true then
      some ({ p with schedule := { p.schedule with state := .over } }, [])
    else none
  | .elapse millis => some ({ p with clock := p.clock + millis }, [])
  | .answer now request =>
    if p.stage = .serving then some (p.answered now request, []) else none
  | .bound => if p.stage = .binding then some ({ p with stage := .serving }, []) else none
  | .bindingFails =>
    if p.stage = .binding then some ({ p with stage := .ended false }, []) else none
  | .servingFails =>
    if p.stage = .serving then some ({ p with stage := .ended false }, []) else none
  | .signal =>
    if p.stage = .serving then
      (p.take? (.own (.cancelCaller p.schedule.caller))).map fun (next, shown) =>
        ({ next with raised := true }, shown)
    else none
  | .drained =>
    if p.stage = .serving ∧ p.raised = true then some ({ p with stage := .awaiting }, []) else none
  | .joined =>
    if p.stage = .awaiting ∧ p.schedule.state = .over then
      some ({ p with stage := .ended true }, [])
    else none

/-- The process after a move and the entries of the sweeper's log for it. There is none if the move
cannot be made now, and none at all once the main task has ended. -/
def step? (p : Process) (move : Move) : Option (Process × Sweeper.Log) :=
  if p.stage.isOver then none else p.advance? move

/-- The process after a sequence of moves, and the log of its sweeper. -/
abbrev run? : Process → List Move → Option (Process × Sweeper.Log) := Execution.run? step?

/-- The ways in which a move of the process can come about. -/
inductive Steps (p : Process) : Move → Process → Sweeper.Log → Prop where
  /-- A task of a sweep, the store or another client takes its turn. -/
  | turned (turn : Workplace.Turn) (task : turn.isTask = true) (workplace : Workplace)
      (shown : Sweeper.Log) (taken : p.workplace.step? turn = some (workplace, shown)) :
      Steps p (.turn turn) { p with workplace } shown
  /-- A sweep of the schedule claims the sweeper or finds it busy. -/
  | claimed (index : Nat) (workplace : Workplace) (shown : Sweeper.Log)
      (taken : p.workplace.step? (.own (.claim index p.raised)) = some (workplace, shown)) :
      Steps p (.claim index) { p with workplace } shown
  /-- The schedule asks for a sweep. -/
  | ticked (waiting : p.schedule.state = .waiting) (workplace : Workplace) (shown : Sweeper.Log)
      (taken : p.workplace.step? (.own (.request (some p.schedule.caller))) =
        some (workplace, shown)) :
      Steps p .tick
        { p with
          workplace
          schedule := p.schedule.tick p.clock
          awaited := some p.workplace.sweeper.engagements.length } shown
  /-- The schedule learns how its sweep came out. -/
  | delivered (index : Nat) (e : Engagement) (outcome : SweepOutcome)
      (awaits : p.awaited = some index) (present : p.engagement? index = some e)
      (finished : e.sweep.driver = .finished outcome) :
      Steps p .deliver
        { p with schedule := p.schedule.afterSweep outcome, awaited := none } []
  /-- The schedule ends. -/
  | quitted (waiting : p.schedule.state = .waiting) (raised : p.raised = true) :
      Steps p .quit { p with schedule := { p.schedule with state := .over } } []
  /-- Time passes. -/
  | elapsed (millis : Nat) : Steps p (.elapse millis) { p with clock := p.clock + millis } []
  /-- A request is answered. -/
  | answered (now : Timestamp) (request : Admin.Request) (serving : p.stage = .serving) :
      Steps p (.answer now request) (p.answered now request) []
  /-- The server starts. -/
  | bound (binding : p.stage = .binding) : Steps p .bound { p with stage := .serving } []
  /-- The main task ends because the address cannot be bound. -/
  | bindingFailed (binding : p.stage = .binding) :
      Steps p .bindingFails { p with stage := .ended false } []
  /-- The main task ends because the server fails. -/
  | servingFailed (serving : p.stage = .serving) :
      Steps p .servingFails { p with stage := .ended false } []
  /-- A signal raises the flag of the schedule. -/
  | signalled (serving : p.stage = .serving) (workplace : Workplace) (shown : Sweeper.Log)
      (taken : p.workplace.step? (.own (.cancelCaller p.schedule.caller)) =
        some (workplace, shown)) :
      Steps p .signal { p with workplace, raised := true } shown
  /-- The server is over. -/
  | drained (serving : p.stage = .serving) (raised : p.raised = true) :
      Steps p .drained { p with stage := .awaiting } []
  /-- The main task ends in good order. -/
  | joined (awaiting : p.stage = .awaiting) (halted : p.schedule.state = .over) :
      Steps p .joined { p with stage := .ended true } []

variable {p next : Process} {move : Move} {shown : Sweeper.Log}

/-- A turn at the workplace of a process changes nothing else. -/
theorem take?_eq_some {turn : Workplace.Turn} (taken : p.take? turn = some (next, shown)) :
    ∃ workplace, p.workplace.step? turn = some (workplace, shown) ∧
      next = { p with workplace } := by
  obtain ⟨⟨workplace, entries⟩, made, result⟩ := Option.map_eq_some_iff.mp taken
  obtain ⟨rfl, rfl⟩ := Prod.mk.inj result
  exact ⟨workplace, made, rfl⟩

/-- A move that waits for a condition is made only when the condition holds. -/
theorem ready_of_made {ready : Prop} [Decidable ready] {after : Process}
    (made : (if ready then some (after, ([] : Sweeper.Log)) else none) = some (next, shown)) :
    ready ∧ next = after ∧ shown = [] := by
  obtain ⟨holds, same⟩ := Option.ite_none_right_eq_some.mp made
  obtain ⟨rfl, rfl⟩ := Prod.mk.inj (Option.some.inj same)
  exact ⟨holds, rfl, rfl⟩

/-- A sweep whose outcome the schedule learns is the one it waits for, its driver has finished, and
it has given up its claim. -/
theorem outcome?_eq_some {outcome : SweepOutcome} (known : p.outcome? = some outcome) :
    ∃ index e, p.awaited = some index ∧ p.engagement? index = some e ∧
      e.sweep.driver = .finished outcome ∧ e.claim = none := by
  obtain ⟨index, awaits, rest⟩ := Option.bind_eq_some_iff.mp known
  obtain ⟨e, present, read⟩ := Option.bind_eq_some_iff.mp rest
  split at read
  · next finished free =>
    obtain rfl := Option.some.inj read
    exact ⟨index, e, awaits, present, finished, free⟩
  · cases read

/-- Every move of the process comes about in one of these ways, and before the main task has
ended. -/
theorem steps_of_step? (stepped : p.step? move = some (next, shown)) :
    p.stage.isOver = false ∧ Steps p move next shown := by
  simp only [step?] at stepped
  split at stepped
  · cases stepped
  · next going =>
    refine ⟨by simpa using going, ?_⟩
    cases move with
    | turn turn =>
      simp only [advance?] at stepped
      split at stepped
      · next task =>
        obtain ⟨workplace, taken, rfl⟩ := take?_eq_some stepped
        exact .turned turn task workplace shown taken
      · cases stepped
    | claim index =>
      obtain ⟨workplace, taken, rfl⟩ := take?_eq_some stepped
      exact .claimed index workplace shown taken
    | tick =>
      simp only [advance?, tick?] at stepped
      split at stepped
      · next due =>
        obtain ⟨⟨after, entries⟩, made, result⟩ := Option.map_eq_some_iff.mp stepped
        obtain ⟨rfl, rfl⟩ := Prod.mk.inj result
        obtain ⟨workplace, taken, rfl⟩ := take?_eq_some made
        exact .ticked due.1 workplace entries taken
      · cases stepped
    | deliver =>
      obtain ⟨outcome, known, result⟩ := Option.map_eq_some_iff.mp stepped
      obtain ⟨rfl, rfl⟩ := Prod.mk.inj result
      obtain ⟨index, e, awaits, present, finished, -⟩ := outcome?_eq_some known
      exact .delivered index e outcome awaits present finished
    | quit =>
      obtain ⟨ready, rfl, rfl⟩ := ready_of_made stepped
      exact .quitted ready.1 ready.2
    | elapse millis =>
      obtain ⟨rfl, rfl⟩ := Prod.mk.inj (Option.some.inj stepped)
      exact .elapsed millis
    | answer now request =>
      obtain ⟨serving, rfl, rfl⟩ := ready_of_made stepped
      exact .answered now request serving
    | bound =>
      obtain ⟨binding, rfl, rfl⟩ := ready_of_made stepped
      exact .bound binding
    | bindingFails =>
      obtain ⟨binding, rfl, rfl⟩ := ready_of_made stepped
      exact .bindingFailed binding
    | servingFails =>
      obtain ⟨serving, rfl, rfl⟩ := ready_of_made stepped
      exact .servingFailed serving
    | signal =>
      simp only [advance?] at stepped
      split at stepped
      · next serving =>
        obtain ⟨⟨after, entries⟩, made, result⟩ := Option.map_eq_some_iff.mp stepped
        obtain ⟨rfl, rfl⟩ := Prod.mk.inj result
        obtain ⟨workplace, taken, rfl⟩ := take?_eq_some made
        exact .signalled serving workplace entries taken
      · cases stepped
    | drained =>
      obtain ⟨ready, rfl, rfl⟩ := ready_of_made stepped
      exact .drained ready.1 ready.2
    | joined =>
      obtain ⟨ready, rfl, rfl⟩ := ready_of_made stepped
      exact .joined ready.1 ready.2

/-- What happens at the workplace in a move of the process is a sequence of turns. -/
theorem turns_of_steps (steps : Steps p move next shown) :
    ∃ turns, Workplace.run? p.workplace turns = some (next.workplace, shown) := by
  have one {turn : Workplace.Turn} {w : Workplace} {entries : Sweeper.Log}
      (taken : p.workplace.step? turn = some (w, entries)) :
      ∃ turns, Workplace.run? p.workplace turns = some (w, entries) :=
    ⟨[turn], Execution.run?_singleton.trans taken⟩
  cases steps with
  | turned turn task workplace shown taken => exact one taken
  | claimed index workplace shown taken => exact one taken
  | ticked waiting workplace shown taken => exact one taken
  | signalled serving workplace shown taken => exact one taken
  | answered now request serving =>
    simp only [answered]
    have ways := Admin.handled p.workplace.sweeper now request
    generalize Admin.handle p.workplace.sweeper now request = reply at ways
    cases ways with
    | aside response => exact ⟨[], rfl⟩
    | stopped response asked =>
      apply @one (.own .stop)
      rfl
    | started response after free =>
      apply @one (.own .start)
      simp only [Workplace.step?, Sweeper.Move.takesAnswer, Bool.false_eq_true, if_false,
        Sweeper.recorded?, free, Option.map_some]
      rfl
  | _ => exact ⟨[], rfl⟩

/-- What a step of the process is for its sweeper: nothing, or a move. A sweep claims below the flag
of the schedule, and a sweep that claims at once is started on demand. -/
theorem sweeper_of_steps (steps : Steps p move next shown) :
    (next.workplace.sweeper = p.workplace.sweeper ∧ shown = []) ∨
      ∃ inner, Sweeper.Steps p.workplace.sweeper inner next.workplace.sweeper shown ∧
        (∀ index flag, inner = .claim index flag → flag = p.raised) ∧
        (inner = .start → p.workplace.sweeper.engagements.length ∈ next.demanded) := by
  cases steps with
  | turned turn task workplace shown taken =>
    cases Workplace.turns_of_step? taken with
    | own inner silent sweeper entries made =>
      refine Or.inr ⟨inner, made, ?_, ?_⟩
      · rintro index flag rfl
        cases task
      · rintro rfl
        cases task
    | called index part mishap e call sweeper entries present pending made =>
      exact Or.inr ⟨_, made, fun _ _ => Sweeper.Move.noConfusion, Sweeper.Move.noConfusion⟩
    | others command => exact Or.inl ⟨rfl, rfl⟩
  | claimed index workplace shown taken =>
    cases Workplace.turns_of_step? taken with
    | own inner silent sweeper entries made =>
      exact Or.inr ⟨_, made, fun _ _ same => (Sweeper.Move.claim.inj same).2.symm,
        Sweeper.Move.noConfusion⟩
  | ticked waiting workplace shown taken =>
    cases Workplace.turns_of_step? taken with
    | own inner silent sweeper entries made =>
      exact Or.inr ⟨_, made, fun _ _ => Sweeper.Move.noConfusion, Sweeper.Move.noConfusion⟩
  | signalled serving workplace shown taken =>
    cases Workplace.turns_of_step? taken with
    | own inner silent sweeper entries made =>
      exact Or.inr ⟨_, made, fun _ _ => Sweeper.Move.noConfusion, Sweeper.Move.noConfusion⟩
  | answered now request serving =>
    simp only [Process.answered]
    have ways := Admin.handled p.workplace.sweeper now request
    generalize Admin.handle p.workplace.sweeper now request = reply at ways
    cases ways with
    | aside response => exact Or.inl ⟨rfl, trivial⟩
    | stopped response asked =>
      exact Or.inr ⟨.stop, .stopped, fun _ _ => Sweeper.Move.noConfusion, Sweeper.Move.noConfusion⟩
    | started response begun free =>
      have made : p.workplace.sweeper.recorded? .start = some (begun, []) := by
        simp only [Sweeper.recorded?, free, Option.map_some, Sweeper.Move.entries]
      exact Or.inr ⟨.start, Sweeper.steps_of_recorded? made, fun _ _ => Sweeper.Move.noConfusion,
        fun _ => by simp⟩
  | _ => exact Or.inl ⟨rfl, rfl⟩

/-- No step lowers the flag of the schedule or takes a sweep on demand back. -/
theorem kept_of_steps (steps : Steps p move next shown) :
    (p.raised = true → next.raised = true) ∧ ∀ index ∈ p.demanded, index ∈ next.demanded := by
  cases steps with
  | signalled => exact ⟨fun _ => rfl, fun _ => id⟩
  | answered now request serving => exact ⟨id, fun _ member => List.mem_append_left _ member⟩
  | _ => exact ⟨id, fun _ => id⟩

/-- The log of a process is the log of its workplace, whose turns are those of its moves. -/
theorem workplace_along {s : Settings} {store : Store} {period : Nat} {moves : List Move}
    {log : Sweeper.Log} (ran : run? (openedEvery s store period) moves = some (p, log)) :
    ∃ turns, Workplace.run? (.opened s store) turns = some (p.workplace, log) := by
  refine Execution.induction_along (motive := fun _ p log =>
    ∃ turns, Workplace.run? (.opened s store) turns = some (p.workplace, log)) ⟨[], rfl⟩ ?_ ran
  rintro moves move mid before after shown - ⟨turns, led⟩ stepped
  obtain ⟨later, went⟩ := turns_of_steps (steps_of_step? stepped).2
  exact ⟨turns ++ later, Execution.run?_append_iff.mpr ⟨_, _, _, led, went, rfl⟩⟩

end Process

end KeySweeper
