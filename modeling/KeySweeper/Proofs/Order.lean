import KeySweeper.Proofs.Process
import KeySweeper.Proofs.Tenancy

/-!
# The order of a process

What stays true in all states of a process. Every sweep was asked for either over the admin
interface or by the schedule below its flag, and none is dropped. A sweep of the schedule is the one
that the schedule waits for or has finished, and once the flag is raised it is told to wind down as
soon as it has claimed the sweeper. When the main task ends in good order the schedule waits for
nobody.
-/

namespace KeySweeper

/-- No step of a stage takes the flag of its sweep back. -/
theorem Pipeline.cancelled_step {s : Settings} {p next : Pipeline} {move : Pipeline.Move}
    {shown : List Effect} (stepped : p.step? s move = some (next, shown))
    (told : p.control.cancelled = true) : next.control.cancelled = true := by
  have failed {α : Type} (answer : Answer α) :
      (cancelIfFailed p.control answer).cancelled = true := by
    cases answer with
    | failed cause => rfl
    | _ => exact told
  cases steps_of_step? stepped with
  | scanned answer => exact failed answer
  | inspected answer => exact failed answer
  | deleted answer =>
    cases answer with
    | failed cause => rfl
    | _ => exact told
  | cancelled => rfl
  | _ => exact told

/-- Work that is told to wind down was told. -/
@[simp] theorem Work.isCancelled_cancel (work : Work) : work.cancel.isCancelled = true := by
  cases work with
  | waiting flag => rfl
  | running p => rfl

namespace Sweep

variable {s : Settings} {sweep : Sweep} {move : Move} {progress : Progress}

/-- No step of a sweep takes its flag back. -/
theorem cancelled_step (steps : Steps s sweep move progress)
    (told : sweep.work.isCancelled = true) :
    progress.sweep.work.isCancelled = true := by
  have still := sweep.work.isCancelled_cancel
  cases steps with
  | staged stageMove p next shown running stepped =>
    rw [running] at told
    exact Pipeline.cancelled_step stepped told
  | proceeded joining => exact still
  | cancelled => exact still
  | passedOn rest joining => exact still
  | left rest joining => exact still
  | abandoned releasing canSpawn => exact still
  | _ => exact told

/-- A driver that is over stays as it is. -/
theorem driver_of_over (steps : Steps s sweep move progress)
    (halted : Sweeper.isOver sweep.driver = true) : progress.sweep.driver = sweep.driver := by
  cases steps with
  | withdrawn opening canSpawn =>
    rw [← Bool.not_eq_false] at halted
    refine absurd ?_ halted
    cases driver : sweep.driver with
    | finished outcome => rw [driver] at opening; cases opening
    | dropped => rw [driver] at opening; cases opening
    | _ => rfl
  | staged => rfl
  | cancelled => rfl
  | releaserJoined => rfl
  | releaserProceeded => rfl
  | releaserEnded => rfl
  | _ => simp_all [Sweeper.isOver]

/-- Only a sweep that is dropped comes to be dropped. -/
theorem dropped_of_step (steps : Steps s sweep move progress)
    (dropped : progress.sweep.driver = .dropped) :
    sweep.driver = .dropped ∨ ∃ canSpawn, move = .drop canSpawn := by
  cases steps with
  | staged => exact Or.inl dropped
  | cancelled => exact Or.inl dropped
  | releaserJoined => exact Or.inl dropped
  | releaserProceeded => exact Or.inl dropped
  | releaserEnded => exact Or.inl dropped
  | passedOn => exact Or.inr ⟨_, rfl⟩
  | left => exact Or.inr ⟨_, rfl⟩
  | abandoned => exact Or.inr ⟨_, rfl⟩
  | withdrawn => exact Or.inr ⟨_, rfl⟩
  | _ => cases dropped

end Sweep

namespace Process

/-- How a sweep of the process stands. It was asked for over the admin interface, or by the schedule
below its flag; it is not dropped; and if the schedule asked for it, the schedule waits for it or it
has finished, and it is told to wind down once the flag is raised. -/
structure Standing (caller : Nat) (demanded : List Nat) (awaited : Option Nat) (raised : Bool)
    (index : Nat) (e : Engagement) : Prop where
  asker : index ∈ demanded ∧ e.caller = none ∨ index ∉ demanded ∧ e.caller = some caller
  driven : e.sweep.driver ≠ .dropped
  ready : index ∈ demanded → e.sweep.driver ≠ .unclaimed
  pursued : index ∉ demanded → awaited = some index ∨ ∃ outcome, e.sweep.driver = .finished outcome
  told : raised = true → index ∉ demanded → e.sweep.driver.isEngaged = true →
    e.sweep.work.isCancelled = true

section Standing

variable {caller : Nat} {demanded : List Nat} {awaited : Option Nat} {raised : Bool} {index : Nat}
variable {e after : Engagement} {s : Settings} {inner : Sweep.Move} {progress : Sweep.Progress}

/-- A sweep that moves and is not dropped keeps its standing. -/
theorem Standing.moved (standing : Standing caller demanded awaited raised index e)
    (made : e.sweep.step? s inner = some progress) (kept : ∀ canSpawn, inner ≠ .drop canSpawn) :
    Standing caller demanded awaited raised index { e with sweep := progress.sweep } := by
  have steps := Sweep.steps_of_step? made
  refine ⟨standing.asker, ?_, ?_, ?_, ?_⟩
  · intro dropped
    rcases Sweep.dropped_of_step steps dropped with before | ⟨canSpawn, now⟩
    · exact standing.driven before
    · exact kept canSpawn now
  · intro demand unclaimed
    exact standing.ready demand (Sweeper.unclaimed_of_step steps unclaimed)
  · intro scheduled
    rcases standing.pursued scheduled with awaits | ⟨outcome, finished⟩
    · exact Or.inl awaits
    · have same := Sweep.driver_of_over steps (by rw [finished]; rfl)
      exact Or.inr ⟨outcome, same.trans finished⟩
  · intro flag scheduled engaged
    exact Sweep.cancelled_step steps
      (standing.told flag scheduled (Sweep.engaged_of_step steps engaged))

/-- A sweep that is told to wind down keeps its standing. -/
theorem Standing.cancelled (standing : Standing caller demanded awaited raised index e) :
    Standing caller demanded awaited true index (Sweeper.cancelSweep e) where
  asker := standing.asker
  driven := standing.driven
  ready := standing.ready
  pursued := standing.pursued
  told _ _ _ := e.sweep.work.isCancelled_cancel

/-- Whatever the sweeper does, a sweep that was asked for keeps its standing, if it is not dropped
and claims below the flag as it is. -/
theorem Standing.fate {c : Sweeper} {move : Sweeper.Move} {entries : Sweep.Chronicle}
    (standing : Standing caller demanded awaited raised index e)
    (fate : Sweeper.Fate c index move (some e) after entries)
    (kept : ∀ canSpawn, move ≠ .sweep index (.drop canSpawn))
    (below : ∀ flag, move = .claim index flag → flag = raised) :
    Standing caller demanded awaited raised index after := by
  cases fate with
  | spared => exact standing
  | told move e reaches =>
    have told := standing.cancelled
    exact ⟨told.asker, told.driven, told.ready, told.pursued, fun _ => told.told rfl⟩
  | admitted flag e slot unclaimed free =>
    obtain rfl := below flag rfl
    refine ⟨standing.asker, Driver.noConfusion, fun _ => Driver.noConfusion, ?_, fun now _ _ => now⟩
    intro scheduled
    rcases standing.pursued scheduled with awaits | ⟨outcome, finished⟩
    · exact Or.inl awaits
    · cases unclaimed.symm.trans finished
  | refused flag e unclaimed =>
    refine ⟨standing.asker, Driver.noConfusion, fun _ => Driver.noConfusion, ?_, fun _ _ =>
      Bool.noConfusion⟩
    exact fun _ => Or.inr ⟨_, rfl⟩
  | moved inner e progress made =>
    exact standing.moved made fun canSpawn same => kept canSpawn (by rw [same])
  | gaveUp e generation held halted =>
    exact ⟨standing.asker, standing.driven, standing.ready, standing.pursued, standing.told⟩

end Standing

/-- The order of a process: every sweep has its standing, sweeps on demand were asked for, and the
schedule waits for a sweep only while one is under way and the main task has not ended in good
order. -/
structure Order (p : Process) : Prop where
  standing : ∀ (index : Nat) (e : Engagement), p.engagement? index = some e →
    Standing p.schedule.caller p.demanded p.awaited p.raised index e
  known : ∀ index ∈ p.demanded, index < p.workplace.sweeper.engagements.length
  resting : p.schedule.state ≠ .sweeping → p.awaited = none
  parted : p.stage = .ended true → p.awaited = none

variable {p next : Process} {move : Move} {shown : Sweeper.Log}

/-- A process is opened in order. -/
theorem Order.opened (s : Settings) (store : Store) (period : Nat) :
    Order (.openedEvery s store period) where
  standing index e impossible := by
    simp [engagement?, Process.openedEvery, Workplace.opened, Sweeper.ofSettings] at impossible
  known := List.forall_mem_nil _
  resting _ := rfl
  parted := Stage.noConfusion

/-- Moves of the sweeper that ask for no sweep, drop none, and claim below the flag as it is keep
the order. -/
theorem Order.worked (order : Order p) {workplace : Workplace} {inner : Sweeper.Move}
    (steps : Sweeper.Steps p.workplace.sweeper inner workplace.sweeper shown)
    (settled : inner ≠ .start ∧ ∀ caller, inner ≠ .request caller)
    (kept : ∀ index canSpawn, inner ≠ .sweep index (.drop canSpawn))
    (below : ∀ index flag, inner = .claim index flag → flag = p.raised) :
    Order { p with workplace } := by
  refine ⟨?_, ?_, order.resting, order.parted⟩
  · intro index after there
    have fate := Sweeper.fate_of_steps steps there
    generalize Sweeper.chronicle index shown = entries at fate
    cases present : p.workplace.sweeper.engagements[index]? with
    | none =>
      rw [present] at fate
      cases fate with
      | requested caller => exact absurd rfl (settled.2 caller)
      | started slot free => exact absurd rfl settled.1
    | some e =>
      rw [present] at fate
      exact (order.standing index e present).fate fate (kept index) (below index)
  · intro index demand
    exact Nat.lt_of_lt_of_le (order.known index demand) (Sweeper.known_step steps).1

/-- A tick asks for a sweep below the flag of the schedule, which waits for that sweep from then
on. -/
theorem Order.ticked (order : Order p) (going : p.stage.isOver = false)
    (waiting : p.schedule.state = .waiting) {workplace : Workplace}
    (taken : p.workplace.step? (.own (.request (some p.schedule.caller))) =
      some (workplace, shown)) :
    Order { p with
      workplace
      schedule := p.schedule.tick p.clock
      awaited := some p.workplace.sweeper.engagements.length } := by
  cases Workplace.turns_of_step? taken with
  | own move silent sweeper entries steps =>
    cases steps
    refine ⟨?_, ?_, fun idle => absurd rfl idle, ?_⟩
    · intro index after there
      rcases Sweeper.append_cases there with ⟨rfl, -, rfl⟩ | before
      · have scheduled : p.workplace.sweeper.engagements.length ∉ p.demanded := by
          intro demand
          exact Nat.lt_irrefl _ (order.known _ demand)
        exact ⟨Or.inr ⟨scheduled, rfl⟩, Driver.noConfusion, fun demand => absurd demand scheduled,
          fun _ => Or.inl rfl, fun _ _ => Bool.noConfusion⟩
      · have standing := order.standing index after before
        refine ⟨standing.asker, standing.driven, standing.ready, ?_, standing.told⟩
        intro scheduled
        rcases standing.pursued scheduled with awaits | finished
        · rw [order.resting (by rw [waiting]; exact Schedule.State.noConfusion)] at awaits
          cases awaits
        · exact Or.inr finished
    · intro index demand
      have inside := order.known index demand
      simp only [List.length_append, List.length_singleton]
      omega
    · intro halted
      have ended : p.stage = .ended true := halted
      rw [ended] at going
      cases going

/-- An answer may start a sweep on demand or stop the current one, and keeps the order. -/
theorem Order.answered (order : Order p) (now : Timestamp) (request : Admin.Request) :
    Order (p.answered now request) := by
  simp only [Process.answered]
  have ways := Admin.handled p.workplace.sweeper now request
  generalize Admin.handle p.workplace.sweeper now request = reply at ways
  cases ways with
  | aside response => simpa using order
  | stopped response asked =>
    have stopped : Order { p with
        workplace := { p.workplace with sweeper := p.workplace.sweeper.stop } } :=
      order.worked .stopped ⟨Sweeper.Move.noConfusion, fun _ => Sweeper.Move.noConfusion⟩
        (fun _ _ => Sweeper.Move.noConfusion) fun _ _ => Sweeper.Move.noConfusion
    simpa using stopped
  | started response after free =>
    obtain ⟨slot, claimed, rfl⟩ : ∃ slot,
        p.workplace.sweeper.slot.claim? p.workplace.sweeper.engagements.length = some slot ∧
          after = { p.workplace.sweeper with
            slot
            engagements := p.workplace.sweeper.engagements ++
              [⟨.claimed false, none, some slot.generation⟩] } := by
      simp only [Sweeper.step?] at free
      split at free
      · cases free
      · next slot claimed => exact ⟨slot, claimed, (Prod.mk.inj (Option.some.inj free)).1.symm⟩
    refine ⟨?_, ?_, order.resting, order.parted⟩
    · intro index e there
      simp only [Option.toList_some]
      rcases Sweeper.append_cases there with ⟨rfl, -, rfl⟩ | before
      · have demand : p.workplace.sweeper.engagements.length ∈
            p.demanded ++ [p.workplace.sweeper.engagements.length] :=
          List.mem_append_right _ (List.mem_singleton.mpr rfl)
        exact ⟨Or.inl ⟨demand, rfl⟩, Driver.noConfusion, fun _ => Driver.noConfusion,
          fun scheduled => absurd demand scheduled, fun _ scheduled => absurd demand scheduled⟩
      · have inside := (List.getElem?_eq_some_iff.mp before).1
        have same : index ∈ p.demanded ++ [p.workplace.sweeper.engagements.length] ↔
            index ∈ p.demanded := by
          simp only [List.mem_append, List.mem_singleton]
          exact ⟨fun given => given.resolve_right (Nat.ne_of_lt inside), Or.inl⟩
        have standing := order.standing index e before
        refine ⟨?_, standing.driven, ?_, ?_, ?_⟩
        · rw [same]
          exact standing.asker
        · rw [same]
          exact standing.ready
        · rw [same]
          exact standing.pursued
        · rw [same]
          exact standing.told
    · intro index demand
      simp only [Option.toList_some, List.mem_append, List.mem_singleton] at demand
      simp only [List.length_append, List.length_singleton]
      rcases demand with before | rfl
      · have inside := order.known index before
        omega
      · omega

/-- The schedule waits for nobody once it has learned how its sweep came out. -/
theorem Order.delivered (order : Order p) {index : Nat} {e : Engagement} {outcome : SweepOutcome}
    (awaits : p.awaited = some index) (present : p.engagement? index = some e)
    (finished : e.sweep.driver = .finished outcome) :
    Order { p with schedule := p.schedule.afterSweep outcome, awaited := none } := by
  have caller : (p.schedule.afterSweep outcome).caller = p.schedule.caller := by
    cases outcome <;> rfl
  refine ⟨?_, order.known, fun _ => rfl, fun _ => rfl⟩
  intro other after there
  have standing := order.standing other after there
  simp only [caller]
  refine ⟨standing.asker, standing.driven, standing.ready, ?_, standing.told⟩
  intro scheduled
  rcases standing.pursued scheduled with waits | halted
  · obtain rfl := Option.some.inj (awaits.symm.trans waits)
    obtain rfl := Option.some.inj (present.symm.trans there)
    exact Or.inr ⟨outcome, finished⟩
  · exact Or.inr halted

/-- The signal tells the sweeps of the schedule to wind down that have claimed the sweeper. -/
theorem Order.signalled (order : Order p) {workplace : Workplace}
    (taken : p.workplace.step? (.own (.cancelCaller p.schedule.caller)) = some (workplace, shown)) :
    Order { p with workplace, raised := true } := by
  cases Workplace.turns_of_step? taken with
  | own move silent sweeper entries steps =>
    cases steps
    refine ⟨?_, ?_, order.resting, order.parted⟩
    · intro index after there
      simp only [engagement?, Sweeper.cancelCaller, List.getElem?_map] at there
      obtain ⟨e, present, rfl⟩ := Option.map_eq_some_iff.mp there
      have standing := order.standing index e present
      split
      · exact standing.cancelled
      · next beyond =>
        refine ⟨standing.asker, standing.driven, standing.ready, standing.pursued, ?_⟩
        intro _ scheduled engaged
        rcases standing.asker with ⟨demand, -⟩ | ⟨-, caller⟩
        · exact absurd demand scheduled
        · have unclaimed : e.sweep.driver = .unclaimed := by
            by_contra claimed
            exact beyond ⟨caller, claimed⟩
          rw [unclaimed] at engaged
          cases engaged
    · intro index demand
      simpa [Sweeper.cancelCaller] using order.known index demand

/-- Every move of the process keeps its order. -/
theorem Order.step (order : Order p) (going : p.stage.isOver = false)
    (steps : Steps p move next shown) :
    Order next := by
  have restaged {stage : Stage} (early : stage ≠ .ended true) : Order { p with stage } :=
    ⟨order.standing, order.known, order.resting, fun halted => absurd halted early⟩
  cases steps with
  | turned turn task workplace shown taken =>
    rcases Workplace.fate_of_turn taken with ⟨same, -, -⟩ | ⟨inner, made, whose⟩
    · refine ⟨?_, ?_, order.resting, order.parted⟩
      · intro index e there
        simp only [engagement?, same] at there
        exact order.standing index e there
      · simpa only [same] using order.known
    · have own : inner.takesAnswer = true ∨ Workplace.Turn.isTask (.own inner) = true := by
        rcases whose with rfl | ⟨-, takes⟩
        · exact Or.inr task
        · exact Or.inl takes
      refine order.worked made ⟨?_, ?_⟩ ?_ ?_
      · rintro rfl
        rcases own with impossible | impossible <;> cases impossible
      · rintro caller rfl
        rcases own with impossible | impossible <;> cases impossible
      · rintro index canSpawn rfl
        rcases own with impossible | impossible <;> cases impossible
      · rintro index flag rfl
        rcases own with impossible | impossible <;> cases impossible
  | claimed index workplace shown taken =>
    cases Workplace.turns_of_step? taken with
    | own move silent sweeper entries made =>
      refine order.worked made ⟨Sweeper.Move.noConfusion, fun _ => Sweeper.Move.noConfusion⟩
        (fun _ _ => Sweeper.Move.noConfusion) ?_
      intro other flag same
      exact (Sweeper.Move.claim.inj same).2.symm
  | ticked waiting workplace shown taken => exact order.ticked going waiting taken
  | delivered index e outcome awaits present finished =>
    exact order.delivered awaits present finished
  | quitted waiting raised =>
    refine ⟨order.standing, order.known, fun _ => order.resting ?_, order.parted⟩
    rw [waiting]
    exact Schedule.State.noConfusion
  | elapsed millis => exact ⟨order.standing, order.known, order.resting, order.parted⟩
  | answered now request serving => exact order.answered now request
  | bound binding => exact restaged Stage.noConfusion
  | bindingFailed binding => exact restaged (by simp)
  | servingFailed serving => exact restaged (by simp)
  | signalled serving workplace shown taken => exact order.signalled taken
  | drained serving raised => exact restaged Stage.noConfusion
  | joined awaiting halted =>
    refine ⟨order.standing, order.known, order.resting, fun _ => order.resting ?_⟩
    rw [halted]
    exact Schedule.State.noConfusion

/-- A process is in order in all its states. -/
theorem order_along {s : Settings} {store : Store} {period : Nat} {moves : List Move}
    {log : Sweeper.Log} (ran : run? (openedEvery s store period) moves = some (p, log)) :
    Order p := by
  refine Execution.induction_along (motive := fun _ p _ => Order p) (.opened s store period) ?_ ran
  intro moves move mid before after shown _ inductionHypothesis stepped
  obtain ⟨going, steps⟩ := steps_of_step? stepped
  exact inductionHypothesis.step going steps

end Process

end KeySweeper
