import KeySweeper.Sweep

/-!
# What a step of a sweep can do

The step function of a sweep, turned round: one constructor for each way in which a move can come
about, with the state in which it is made, the sweep after it, what it shows and what it announces.
Every argument about the driver and the releaser is a case analysis of this relation and does not
open the step function again.
-/

namespace KeySweeper

/-- Whether a driving task has not acquired the guard yet. -/
def Driver.isOpening : Driver → Bool
  | .unclaimed => true
  | .claimed => true
  | .checking => true
  | .marking => true
  | _ => false

namespace Sweep

/-- No stage of the sweep is at work, or was ever started. -/
def IsQuiet (sweep : Sweep) : Prop :=
  ∀ p, sweep.work = .running p → ∀ stage, p.isLive stage = false

/-- Whether a call came back at all, with a value or with a failure. -/
def returned {α : Type} : Answer α → Bool
  | .crashed _ => false
  | _ => true

/-- The ways in which a move of a sweep can come about. -/
inductive Steps (s : Settings) (sweep : Sweep) : Move → Progress → Prop where
  /-- A claimed sweep asks for the guard. -/
  | begun (claimed : sweep.driver = .claimed) :
      Steps s sweep .begin ⟨{ sweep with driver := .checking }, [], none⟩
  /-- The guard is held, and the sweep ends. -/
  | held (checking : sweep.driver = .checking) :
      Steps s sweep (.guardChecked (.value true))
        ⟨{ sweep with driver := .finished .alreadyRunning },
          [.called (.checked s.guardKey (.value true)), .logged (heldLine s)], some .rest⟩
  /-- The guard is free, and the sweep goes on to write it. -/
  | free (checking : sweep.driver = .checking) :
      Steps s sweep (.guardChecked (.value false))
        ⟨{ sweep with driver := .marking }, [.called (.checked s.guardKey (.value false))], none⟩
  /-- The guard cannot be checked, and the sweep ends. -/
  | unknown (checking : sweep.driver = .checking) (cause : StoreError) :
      Steps s sweep (.guardChecked (.failed cause))
        ⟨{ sweep with driver := .finished (.guardFailed cause) },
          [.called (.checked s.guardKey (.failed cause)), .logged (checkFailureLine s cause)],
          some .rest⟩
  /-- The code behind the check crashes, and the sweep with it. -/
  | checkCrashed (checking : sweep.driver = .checking) (text : String) :
      Steps s sweep (.guardChecked (.crashed text))
        ⟨{ sweep with driver := .finished (.crashed text) },
          [.called (.checked s.guardKey (.crashed text))], none⟩
  /-- The guard is acquired, whether or not it was written, and the stages start. -/
  | acquired (marking : sweep.driver = .marking) (answer : Answer Unit)
      (back : returned answer = true) :
      Steps s sweep (.guardMarked answer)
        ⟨{ sweep with
            driver := .joining StageName.all
            work := .running (.fresh (.fresh sweep.work.isCancelled)) },
          .called (.written s.guardKey Guard.mark answer) ::
            (markLines s answer ++ [startLine s]).map .logged,
          some .enter⟩
  /-- The code behind the write of the guard crashes, and the sweep with it. -/
  | markCrashed (marking : sweep.driver = .marking) (text : String) :
      Steps s sweep (.guardMarked (.crashed text))
        ⟨{ sweep with driver := .finished (.crashed text) },
          [.called (.written s.guardKey Guard.mark (.crashed text))], none⟩
  /-- A stage moves. -/
  | staged (move : Pipeline.Move) (p next : Pipeline) (shown : List Effect)
      (running : sweep.work = .running p) (stepped : p.step? s move = some (next, shown)) :
      Steps s sweep (.stage move) ⟨{ sweep with work := .running next }, shown, none⟩
  /-- The driver has waited for a stage. -/
  | joined (stage : StageName) (rest : List StageName)
      (joining : sweep.driver = .joining (stage :: rest))
      (ended : sweep.work.hasEnded stage = true) :
      Steps s sweep .join
        ⟨{ sweep with driver := .joining rest }, (joinLines sweep.work stage).map .logged, none⟩
  /-- The driver has waited for every stage and goes on to release the guard. -/
  | proceeded (joining : sweep.driver = .joining []) :
      Steps s sweep .proceed
        ⟨{ sweep with driver := .releasing, work := sweep.work.cancel }, [], some .drain⟩
  /-- The guard is released, or at least the call has come back, and the sweep ends with a
  report. -/
  | completed (releasing : sweep.driver = .releasing) (answer : Answer Nat)
      (back : returned answer = true) (elapsed : Duration) (finishedAt : Timestamp) :
      Steps s sweep (.guardReleased answer elapsed finishedAt)
        ⟨{ sweep with
            driver := .finished (.completed ⟨sweep.work.deleted, elapsed, finishedAt⟩) },
          .called (.deleted [s.guardKey] answer) ::
            (releaseLines s answer ++
              closingLines s ⟨sweep.work.deleted, elapsed, finishedAt⟩).map .logged,
          some (.complete ⟨sweep.work.deleted, elapsed, finishedAt⟩)⟩
  /-- The code behind the release of the guard crashes, and the sweep with it. -/
  | releaseCrashed (releasing : sweep.driver = .releasing) (text : String) (elapsed : Duration)
      (finishedAt : Timestamp) :
      Steps s sweep (.guardReleased (.crashed text) elapsed finishedAt)
        ⟨{ sweep with driver := .finished (.crashed text) },
          [.called (.deleted [s.guardKey] (.crashed text))], none⟩
  /-- The sweep is told to wind down. -/
  | cancelled : Steps s sweep .cancel ⟨{ sweep with work := sweep.work.cancel }, [], none⟩
  /-- The sweep is dropped while it waits for its stages, and the release passes to a task. -/
  | passedOn (rest : List StageName) (joining : sweep.driver = .joining rest) :
      Steps s sweep (.drop true)
        ⟨{ driver := .dropped, work := sweep.work.cancel, releaser := .joining rest }, [], none⟩
  /-- The sweep is dropped while it waits for its stages, where no task can be started. -/
  | left (rest : List StageName) (joining : sweep.driver = .joining rest) :
      Steps s sweep (.drop false)
        ⟨{ sweep with driver := .dropped, work := sweep.work.cancel },
          [.logged (guardLeftLine s)], none⟩
  /-- The sweep is dropped while it releases the guard. -/
  | abandoned (releasing : sweep.driver = .releasing) (canSpawn : Bool) :
      Steps s sweep (.drop canSpawn)
        ⟨{ sweep with driver := .dropped, work := sweep.work.cancel }, [], none⟩
  /-- The sweep is dropped before it has acquired the guard. -/
  | withdrawn (opening : sweep.driver.isOpening = true) (canSpawn : Bool) :
      Steps s sweep (.drop canSpawn) ⟨{ sweep with driver := .dropped }, [], none⟩
  /-- The releaser has waited for a stage. -/
  | releaserJoined (stage : StageName) (rest : List StageName)
      (joining : sweep.releaser = .joining (stage :: rest))
      (ended : sweep.work.hasEnded stage = true) :
      Steps s sweep .releaserJoin
        ⟨{ sweep with releaser := .joining rest }, (joinLines sweep.work stage).map .logged, none⟩
  /-- The releaser has waited for every stage and goes on to release the guard. -/
  | releaserProceeded (joining : sweep.releaser = .joining []) :
      Steps s sweep .releaserProceed ⟨{ sweep with releaser := .releasing }, [], none⟩
  /-- The call that releases the guard has ended, and the releaser with it. -/
  | releaserEnded (releasing : sweep.releaser = .releasing) (answer : Answer Nat) :
      Steps s sweep (.releaserReleased answer)
        ⟨{ sweep with releaser := .ended },
          .called (.deleted [s.guardKey] answer) :: (releaseLines s answer).map .logged, none⟩

variable {s : Settings} {sweep : Sweep} {move : Move} {progress : Progress}

/-- A check of the guard leads where its answer says. -/
theorem steps_guardChecked {answer : Answer Bool} (checking : sweep.driver = .checking) :
    Steps s sweep (.guardChecked answer) (afterCheck s sweep answer) := by
  cases answer with
  | value present =>
    cases present with
    | true => exact .held checking
    | false => exact .free checking
  | failed cause => exact .unknown checking cause
  | crashed text => exact .checkCrashed checking text

/-- A write of the guard starts the stages unless it crashes. -/
theorem steps_guardMarked {answer : Answer Unit} (marking : sweep.driver = .marking) :
    Steps s sweep (.guardMarked answer) (afterMark s sweep answer) := by
  cases answer with
  | value done => exact .acquired marking _ rfl
  | failed cause => exact .acquired marking _ rfl
  | crashed text => exact .markCrashed marking text

/-- A release of the guard ends the sweep. -/
theorem steps_guardReleased {answer : Answer Nat} {elapsed : Duration} {finishedAt : Timestamp}
    (releasing : sweep.driver = .releasing) :
    Steps s sweep (.guardReleased answer elapsed finishedAt)
      (afterRelease s sweep answer elapsed finishedAt) := by
  cases answer with
  | value removed => exact .completed releasing _ rfl elapsed finishedAt
  | failed cause => exact .completed releasing _ rfl elapsed finishedAt
  | crashed text => exact .releaseCrashed releasing text elapsed finishedAt

/-- What dropping a sweep does depends on what its driver is doing. -/
theorem steps_drop {canSpawn : Bool} (dropped : afterDrop? s sweep canSpawn = some progress) :
    Steps s sweep (.drop canSpawn) progress := by
  cases driver : sweep.driver with
  | finished outcome => simp only [afterDrop?, driver] at dropped; cases dropped
  | dropped => simp only [afterDrop?, driver] at dropped; cases dropped
  | joining rest =>
    simp only [afterDrop?, driver] at dropped
    obtain rfl := Option.some.inj dropped
    cases canSpawn with
    | true => exact .passedOn rest driver
    | false => exact .left rest driver
  | releasing =>
    simp only [afterDrop?, driver] at dropped
    obtain rfl := Option.some.inj dropped
    exact .abandoned driver canSpawn
  | _ =>
    simp only [afterDrop?, driver] at dropped
    obtain rfl := Option.some.inj dropped
    exact .withdrawn (by rw [driver]; rfl) canSpawn

/-- Every step of a sweep comes about in one of these ways. -/
theorem steps_of_step? (stepped : sweep.step? s move = some progress) :
    Steps s sweep move progress := by
  cases move with
  | begin =>
    simp only [step?] at stepped
    split at stepped
    · next claimed =>
      obtain rfl := Option.some.inj stepped
      exact .begun claimed
    · cases stepped
  | guardChecked answer =>
    simp only [step?] at stepped
    split at stepped
    · next checking =>
      obtain rfl := Option.some.inj stepped
      exact steps_guardChecked checking
    · cases stepped
  | guardMarked answer =>
    simp only [step?] at stepped
    split at stepped
    · next marking =>
      obtain rfl := Option.some.inj stepped
      exact steps_guardMarked marking
    · cases stepped
  | stage move =>
    simp only [step?] at stepped
    split at stepped
    · next p running =>
      obtain ⟨⟨next, shown⟩, made, rfl⟩ := Option.map_eq_some_iff.mp stepped
      exact .staged move p next shown running made
    · cases stepped
  | join =>
    simp only [step?] at stepped
    split at stepped
    · next stage rest joining =>
      split at stepped
      · next ended =>
        obtain rfl := Option.some.inj stepped
        exact .joined stage rest joining ended
      · cases stepped
    · cases stepped
  | proceed =>
    simp only [step?] at stepped
    split at stepped
    · next joining =>
      obtain rfl := Option.some.inj stepped
      exact .proceeded joining
    · cases stepped
  | guardReleased answer elapsed finishedAt =>
    simp only [step?] at stepped
    split at stepped
    · next releasing =>
      obtain rfl := Option.some.inj stepped
      exact steps_guardReleased releasing
    · cases stepped
  | cancel =>
    obtain rfl := Option.some.inj stepped
    exact .cancelled
  | drop canSpawn => exact steps_drop stepped
  | releaserJoin =>
    simp only [step?] at stepped
    split at stepped
    · next stage rest joining =>
      split at stepped
      · next ended =>
        obtain rfl := Option.some.inj stepped
        exact .releaserJoined stage rest joining ended
      · cases stepped
    · cases stepped
  | releaserProceed =>
    simp only [step?] at stepped
    split at stepped
    · next joining =>
      obtain rfl := Option.some.inj stepped
      exact .releaserProceeded joining
    · cases stepped
  | releaserReleased answer =>
    simp only [step?] at stepped
    split at stepped
    · next releasing =>
      obtain rfl := Option.some.inj stepped
      exact .releaserEnded releasing answer
    · cases stepped

end Sweep

end KeySweeper
