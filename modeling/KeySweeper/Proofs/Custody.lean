import KeySweeper.Proofs.Chronicle
import KeySweeper.Sweeper

/-!
# Who owes the release of the guard

From the moment at which its stages start a sweep owes the release of the guard. The duty lies with
the driver until the sweep is dropped, and then with the releaser. This module follows the duty
through all executions of a sweep: where it lies in each state, and what the log says about the
calls on the guard by then. There is one state without anybody to do it: a sweep that was dropped
while the driver was already releasing the guard, or where no task could be started, has forsaken
the guard.
-/

namespace KeySweeper

/-- Whether a driving task has acquired the guard and not released it yet. -/
def Driver.isBound : Driver → Bool
  | .joining _ => true
  | .releasing => true
  | _ => false

/-- Whether a releaser is at work. -/
def Releaser.isBound : Releaser → Bool
  | .joining _ => true
  | .releasing => true
  | _ => false

namespace Sweep

/-- The calls on the guard in a chronicle: those of the driver and the releaser. -/
def guardCalls (log : Chronicle) : List StoreEvent := callsBy (fun part => !part.isStage) log

@[simp] theorem guardCalls_append (log later : Chronicle) :
    guardCalls (log ++ later) = guardCalls log ++ guardCalls later := callsBy_append ..

/-- The answers to the checks of the guard, in order. -/
def checks (s : Settings) (log : Chronicle) : List (Answer Bool) :=
  (guardCalls log).filterMap fun
    | .checked key answer => if key = s.guardKey then some answer else none
    | _ => none

/-- The answers to the writes of the guard, in order. -/
def marks (s : Settings) (log : Chronicle) : List (Answer Unit) :=
  (guardCalls log).filterMap fun
    | .written key _ answer => if key = s.guardKey then some answer else none
    | _ => none

/-- The answers to the deletions of the guard, in order. -/
def releases (s : Settings) (log : Chronicle) : List (Answer Nat) :=
  (guardCalls log).filterMap fun
    | .deleted keys answer => if keys = [s.guardKey] then some answer else none
    | _ => none

/-- An entry of a chronicle stands for one of the calls on the guard if no stage made it. -/
theorem mem_guardCalls {log : Chronicle} {event : StoreEvent} :
    event ∈ guardCalls log ↔ ∃ part, part.isStage = false ∧ (part, .called event) ∈ log := by
  rw [guardCalls, mem_callsBy]
  simp only [Bool.not_eq_true']

/-- An answer that is read from one call alone is counted if a chronicle shows that call. -/
theorem mem_guardAnswers {α : Type} {log : Chronicle} {read : StoreEvent → Option α} {answer : α}
    {event : StoreEvent} (alone : ∀ other, read other = some answer ↔ other = event) :
    answer ∈ (guardCalls log).filterMap read ↔
      ∃ part, part.isStage = false ∧ (part, .called event) ∈ log := by
  rw [← mem_guardCalls, List.mem_filterMap]
  constructor
  · rintro ⟨other, member, same⟩
    obtain rfl := (alone other).mp same
    exact member
  · intro member
    exact ⟨event, member, (alone event).mpr rfl⟩

/-- A check of the guard is counted if a chronicle shows it. -/
theorem mem_checks {s : Settings} {log : Chronicle} {answer : Answer Bool} :
    answer ∈ checks s log ↔
      ∃ part, part.isStage = false ∧ (part, .called (.checked s.guardKey answer)) ∈ log := by
  apply mem_guardAnswers
  intro other
  cases other <;> simp

/-- A deletion of the guard is counted if a chronicle shows it. -/
theorem mem_releases {s : Settings} {log : Chronicle} {answer : Answer Nat} :
    answer ∈ releases s log ↔
      ∃ part, part.isStage = false ∧ (part, .called (.deleted [s.guardKey] answer)) ∈ log := by
  apply mem_guardAnswers
  intro other
  cases other <;> simp

/-- A write of the guard is counted if a chronicle shows it. -/
theorem mem_marks {s : Settings} {log : Chronicle} {answer : Answer Unit} {part : Part}
    (outside : part.isStage = false) {value : String}
    (shown : (part, .called (.written s.guardKey value answer)) ∈ log) : answer ∈ marks s log := by
  rw [marks, List.mem_filterMap]
  exact ⟨_, mem_guardCalls.mpr ⟨part, outside, shown⟩, if_pos rfl⟩

/-- The call on the guard that a move completes, if it completes one. -/
def Move.guardCall? (s : Settings) : Move → Option StoreEvent
  | .guardChecked answer => some (.checked s.guardKey answer)
  | .guardMarked answer => some (.written s.guardKey Guard.mark answer)
  | .guardReleased answer _ _ => some (.deleted [s.guardKey] answer)
  | .releaserReleased answer => some (.deleted [s.guardKey] answer)
  | _ => none

variable {s : Settings} {sweep : Sweep} {move : Move} {progress : Progress} {log : Chronicle}

/-- A step shows the call on the guard that its move completes and no other. -/
theorem guardCalls_step (steps : Steps s sweep move progress) :
    guardCalls (entries move progress.effects) = (move.guardCall? s).toList := by
  rw [guardCalls, callsBy_entries]
  cases steps with
  | acquired marking answer back => exact calls_called_logged ..
  | completed releasing answer back elapsed finishedAt => exact calls_called_logged ..
  | releaserEnded releasing answer => exact calls_called_logged ..
  | joined stage rest joining ended => exact calls_logged _
  | releaserJoined stage rest joining ended => exact calls_logged _
  | staged stageMove p after effects running stepped =>
    cases stageMove with
    | cancel =>
      obtain ⟨-, rfl⟩ := Pipeline.step_cancel stepped
      rfl
    | _ => rfl
  | _ => rfl

/-- The answer to a check of the guard, if a move takes one up. -/
def Move.check? : Move → Option (Answer Bool)
  | .guardChecked answer => some answer
  | _ => none

/-- The answer to a write of the guard, if a move takes one up. -/
def Move.mark? : Move → Option (Answer Unit)
  | .guardMarked answer => some answer
  | _ => none

/-- The answer to a deletion of the guard, if a move takes one up. -/
def Move.release? : Move → Option (Answer Nat)
  | .guardReleased answer _ _ => some answer
  | .releaserReleased answer => some answer
  | _ => none

/-- What is read from the calls on the guard grows in a step by what is read from the call that its
move completes. -/
theorem guardAnswers_step {α : Type} (read : StoreEvent → Option α) (log : Chronicle)
    (steps : Steps s sweep move progress) :
    (guardCalls (log ++ entries move progress.effects)).filterMap read =
      (guardCalls log).filterMap read ++ ((move.guardCall? s).bind read).toList := by
  rw [guardCalls_append, List.filterMap_append, guardCalls_step steps]
  cases call : move.guardCall? s with
  | none => rfl
  | some event => cases found : read event <;> simp [found]

/-- After a step the guard was checked once more if its move takes up the answer to a check. -/
theorem checks_step (log : Chronicle) (steps : Steps s sweep move progress) :
    checks s (log ++ entries move progress.effects) = checks s log ++ move.check?.toList := by
  rw [checks, guardAnswers_step _ log steps]
  cases move <;> simp [Move.guardCall?, Move.check?, checks]

/-- After a step the guard was written once more if its move takes up the answer to a write. -/
theorem marks_step (log : Chronicle) (steps : Steps s sweep move progress) :
    marks s (log ++ entries move progress.effects) = marks s log ++ move.mark?.toList := by
  rw [marks, guardAnswers_step _ log steps]
  cases move <;> simp [Move.guardCall?, Move.mark?, marks]

/-- After a step the guard was deleted once more if its move takes up the answer to a deletion. -/
theorem releases_step (log : Chronicle) (steps : Steps s sweep move progress) :
    releases s (log ++ entries move progress.effects) = releases s log ++ move.release?.toList := by
  rw [releases, guardAnswers_step _ log steps]
  cases move <;> simp [Move.guardCall?, Move.release?, releases]

/-- Where the duty to release the guard lies in a state with this chronicle. -/
inductive Custody (s : Settings) (sweep : Sweep) (log : Chronicle) : Prop where
  /-- Nowhere yet, or never: the sweep has not acquired the guard. -/
  | outside (driver : sweep.driver.isOpening = true ∨ Sweeper.isOver sweep.driver = true)
      (work : ∃ flag, sweep.work = .waiting flag) (releaser : sweep.releaser = .absent)
      (unmarked : .value () ∉ marks s log) (unreleased : releases s log = [])
      (free : sweep.driver = .marking → .value false ∈ checks s log)
  /-- With the driver. -/
  | owed (driver : sweep.driver.isBound = true) (work : ∃ p, sweep.work = .running p)
      (releaser : sweep.releaser = .absent) (unreleased : releases s log = [])
      (free : .value false ∈ checks s log)
  /-- With the releaser. -/
  | passed (driver : sweep.driver = .dropped) (work : ∃ p, sweep.work = .running p)
      (releaser : sweep.releaser.isBound = true) (unreleased : releases s log = [])
      (free : .value false ∈ checks s log)
  /-- Nowhere any more: the guard was deleted, once. -/
  | settled (place : (∃ outcome, sweep.driver = .finished outcome) ∧ sweep.releaser = .absent ∨
        sweep.driver = .dropped ∧ sweep.releaser = .ended)
      (work : ∃ p, sweep.work = .running p) (answer : Answer Nat)
      (released : releases s log = [answer]) (free : .value false ∈ checks s log)
  /-- With nobody, though the guard was not deleted. -/
  | forsaken (driver : sweep.driver = .dropped) (work : ∃ p, sweep.work = .running p)
      (releaser : sweep.releaser = .absent) (unreleased : releases s log = [])
      (free : .value false ∈ checks s log)

/-- A check of the guard is never taken back. -/
theorem free_step (steps : Steps s sweep move progress) (free : .value false ∈ checks s log) :
    .value false ∈ checks s (log ++ entries move progress.effects) := by
  rw [checks_step log steps]
  exact List.mem_append_left _ free

/-- A move that deletes no guard adds no deletion. -/
theorem unreleased_step (unreleased : releases s log = []) (steps : Steps s sweep move progress)
    (other : move.release? = none) : releases s (log ++ entries move progress.effects) = [] := by
  rw [releases_step log steps, unreleased, other]
  rfl

/-- A driver at its beginning is under way. -/
theorem under_of_opening (opening : sweep.driver.isOpening = true) :
    Sweeper.isOver sweep.driver = false := by
  cases driver : sweep.driver <;> simp_all [Driver.isOpening, Sweeper.isOver]

/-- A driver at its beginning or at its end does not owe the release. -/
theorem unbound_of (outside : sweep.driver.isOpening = true ∨ Sweeper.isOver sweep.driver = true) :
    sweep.driver.isBound = false := by
  cases driver : sweep.driver with
  | joining rest => simp [driver, Driver.isOpening, Sweeper.isOver] at outside
  | releasing => simp [driver, Driver.isOpening, Sweeper.isOver] at outside
  | _ => rfl

/-- A sweep outside the guard stays there until it has written the guard, which it does only after
it has found the guard free. -/
theorem Custody.outside_step
    (outside : sweep.driver.isOpening = true ∨ Sweeper.isOver sweep.driver = true)
    (waiting : ∃ flag, sweep.work = .waiting flag) (absent : sweep.releaser = .absent)
    (unmarked : .value () ∉ marks s log) (unreleased : releases s log = [])
    (free : sweep.driver = .marking → .value false ∈ checks s log)
    (steps : Steps s sweep move progress) :
    Custody s progress.sweep (log ++ entries move progress.effects) := by
  have unbound := unbound_of outside
  have keeps (unwritten : move.mark? = none) :
      .value () ∉ marks s (log ++ entries move progress.effects) := by
    rwa [marks_step log steps, unwritten, Option.toList_none, List.append_nil]
  have still := unreleased_step unreleased steps
  have checked := checks_step log steps
  have marked := marks_step log steps
  obtain ⟨flag, work⟩ := waiting
  cases steps with
  | begun claimed =>
    exact .outside (Or.inl rfl) ⟨flag, work⟩ absent (keeps rfl) (still rfl) Driver.noConfusion
  | held checking =>
    exact .outside (Or.inr rfl) ⟨flag, work⟩ absent (keeps rfl) (still rfl) Driver.noConfusion
  | free checking =>
    refine .outside (Or.inl rfl) ⟨flag, work⟩ absent (keeps rfl) (still rfl) fun _ => ?_
    rw [checked]
    exact List.mem_append_right _ List.mem_cons_self
  | unknown checking cause =>
    exact .outside (Or.inr rfl) ⟨flag, work⟩ absent (keeps rfl) (still rfl) Driver.noConfusion
  | checkCrashed checking text =>
    exact .outside (Or.inr rfl) ⟨flag, work⟩ absent (keeps rfl) (still rfl) Driver.noConfusion
  | acquired marking answer back =>
    exact .owed rfl ⟨_, rfl⟩ absent (still rfl) (checked ▸ List.mem_append_left _ (free marking))
  | markCrashed marking text =>
    refine .outside (Or.inr rfl) ⟨flag, work⟩ absent ?_ (still rfl) Driver.noConfusion
    rw [marked]
    simpa [Move.mark?] using unmarked
  | cancelled =>
    refine .outside outside ⟨true, ?_⟩ absent (keeps rfl) (still rfl) fun marking => ?_
    · simp only [work, Work.cancel]
    · exact checked ▸ List.mem_append_left _ (free marking)
  | withdrawn early canSpawn =>
    exact .outside (Or.inr rfl) ⟨flag, work⟩ absent (keeps rfl) (still rfl) Driver.noConfusion
  | staged stageMove p after effects running stepped => rw [work] at running; cases running
  | joined stage rest joining ended => rw [joining] at unbound; cases unbound
  | proceeded joining => rw [joining] at unbound; cases unbound
  | completed releasing answer back elapsed finishedAt => rw [releasing] at unbound; cases unbound
  | releaseCrashed releasing text elapsed finishedAt => rw [releasing] at unbound; cases unbound
  | passedOn rest joining => rw [joining] at unbound; cases unbound
  | left rest joining => rw [joining] at unbound; cases unbound
  | abandoned releasing canSpawn => rw [releasing] at unbound; cases unbound
  | releaserJoined stage rest joining ended => rw [joining] at absent; cases absent
  | releaserProceeded joining => rw [joining] at absent; cases absent
  | releaserEnded releasing answer => rw [releasing] at absent; cases absent

/-- The driver owes the release until it has deleted the guard or is dropped. -/
theorem Custody.owed_step (bound : sweep.driver.isBound = true)
    (working : ∃ p, sweep.work = .running p) (absent : sweep.releaser = .absent)
    (unreleased : releases s log = []) (free : .value false ∈ checks s log)
    (steps : Steps s sweep move progress) :
    Custody s progress.sweep (log ++ entries move progress.effects) := by
  have still := unreleased_step unreleased steps
  have free := free_step steps free
  have released := releases_step log steps
  rw [unreleased, List.nil_append] at released
  obtain ⟨p, running⟩ := working
  have told : ∃ p, sweep.work.cancel = .running p := ⟨_, by rw [running]; rfl⟩
  cases steps with
  | staged stageMove q after effects now stepped =>
    exact .owed bound ⟨_, rfl⟩ absent (still rfl) free
  | joined stage rest joining ended => exact .owed rfl ⟨p, running⟩ absent (still rfl) free
  | proceeded joining => exact .owed rfl told absent (still rfl) free
  | completed releasing answer back elapsed finishedAt =>
    exact .settled (Or.inl ⟨⟨_, rfl⟩, absent⟩) ⟨p, running⟩ answer released free
  | releaseCrashed releasing text elapsed finishedAt =>
    exact .settled (Or.inl ⟨⟨_, rfl⟩, absent⟩) ⟨p, running⟩ (.crashed text) released free
  | cancelled => exact .owed bound told absent (still rfl) free
  | passedOn rest joining => exact .passed rfl told rfl (still rfl) free
  | left rest joining => exact .forsaken rfl told absent (still rfl) free
  | abandoned releasing canSpawn => exact .forsaken rfl told absent (still rfl) free
  | withdrawn early canSpawn => rw [unbound_of (Or.inl early)] at bound; cases bound
  | releaserJoined stage rest joining ended => rw [joining] at absent; cases absent
  | releaserProceeded joining => rw [joining] at absent; cases absent
  | releaserEnded releasing answer => rw [releasing] at absent; cases absent
  | begun now => rw [now] at bound; cases bound
  | held now => rw [now] at bound; cases bound
  | free now => rw [now] at bound; cases bound
  | unknown now cause => rw [now] at bound; cases bound
  | checkCrashed now text => rw [now] at bound; cases bound
  | acquired now answer back => rw [now] at bound; cases bound
  | markCrashed now text => rw [now] at bound; cases bound

/-- Once the driver is over only stages, the releaser and requests to wind down move a sweep. Of
these only the end of the releaser's call deletes the guard. -/
theorem step_of_over (halted : Sweeper.isOver sweep.driver = true)
    (working : ∃ p, sweep.work = .running p) (steps : Steps s sweep move progress) :
    progress.sweep.driver = sweep.driver ∧ (∃ p, progress.sweep.work = .running p) ∧
      (move.release? = none ∧ (progress.sweep.releaser = sweep.releaser ∨
          sweep.releaser.isBound = true ∧ progress.sweep.releaser.isBound = true) ∨
        sweep.releaser = .releasing ∧ progress.sweep.releaser = .ended ∧
          ∃ answer, move.release? = some answer) := by
  obtain ⟨p, running⟩ := working
  cases steps with
  | staged stageMove q after effects now stepped => exact ⟨rfl, ⟨_, rfl⟩, Or.inl ⟨rfl, Or.inl rfl⟩⟩
  | cancelled => exact ⟨rfl, ⟨_, by rw [running]; rfl⟩, Or.inl ⟨rfl, Or.inl rfl⟩⟩
  | releaserJoined stage rest joining ended =>
    exact ⟨rfl, ⟨p, running⟩, Or.inl ⟨rfl, Or.inr ⟨by rw [joining]; rfl, rfl⟩⟩⟩
  | releaserProceeded joining =>
    exact ⟨rfl, ⟨p, running⟩, Or.inl ⟨rfl, Or.inr ⟨by rw [joining]; rfl, rfl⟩⟩⟩
  | releaserEnded releasing answer =>
    exact ⟨rfl, ⟨p, running⟩, Or.inr ⟨releasing, rfl, answer, rfl⟩⟩
  | withdrawn early canSpawn =>
    cases driver : sweep.driver with
    | finished outcome => simp [driver, Driver.isOpening] at early
    | dropped => simp [driver, Driver.isOpening] at early
    | _ => simp [driver, Sweeper.isOver] at halted
  | begun now => rw [now] at halted; cases halted
  | held now => rw [now] at halted; cases halted
  | free now => rw [now] at halted; cases halted
  | unknown now cause => rw [now] at halted; cases halted
  | checkCrashed now text => rw [now] at halted; cases halted
  | acquired now answer back => rw [now] at halted; cases halted
  | markCrashed now text => rw [now] at halted; cases halted
  | joined stage rest now ended => rw [now] at halted; cases halted
  | proceeded now => rw [now] at halted; cases halted
  | completed now answer back elapsed finishedAt => rw [now] at halted; cases halted
  | releaseCrashed now text elapsed finishedAt => rw [now] at halted; cases halted
  | passedOn rest now => rw [now] at halted; cases halted
  | left rest now => rw [now] at halted; cases halted
  | abandoned now canSpawn => rw [now] at halted; cases halted

/-- The duty to release the guard goes from hand to hand as described, in every step. -/
theorem Custody.step (custody : Custody s sweep log) (steps : Steps s sweep move progress) :
    Custody s progress.sweep (log ++ entries move progress.effects) := by
  have released := releases_step log steps
  cases custody with
  | outside driver work releaser unmarked unreleased free =>
    exact outside_step driver work releaser unmarked unreleased free steps
  | owed driver work releaser unreleased free =>
    exact owed_step driver work releaser unreleased free steps
  | passed driver work releaser unreleased free =>
    have halted : Sweeper.isOver sweep.driver = true := by rw [driver]; rfl
    obtain ⟨same, running, ⟨none, kept⟩ | ⟨-, ended, answer, one⟩⟩ := step_of_over halted work steps
    · have bound : progress.sweep.releaser.isBound = true := by
        rcases kept with kept | ⟨-, bound⟩
        · rwa [kept]
        · exact bound
      exact .passed (same.trans driver) running bound (unreleased_step unreleased steps none)
        (free_step steps free)
    · rw [unreleased, one] at released
      exact .settled (Or.inr ⟨same.trans driver, ended⟩) running answer released
        (free_step steps free)
  | settled place work answer one free =>
    have halted : Sweeper.isOver sweep.driver = true := by
      rcases place with ⟨⟨outcome, driver⟩, -⟩ | ⟨driver, -⟩ <;> rw [driver] <;> rfl
    have idle : sweep.releaser.isBound = false := by
      rcases place with ⟨-, releaser⟩ | ⟨-, releaser⟩ <;> rw [releaser] <;> rfl
    obtain ⟨same, running, ⟨none, kept⟩ | ⟨busy, -⟩⟩ := step_of_over halted work steps
    · have still : progress.sweep.releaser = sweep.releaser := by
        rcases kept with kept | ⟨bound, -⟩
        · exact kept
        · rw [idle] at bound
          cases bound
      rw [one, none] at released
      exact .settled (by rwa [same, still]) running answer released (free_step steps free)
    · rw [busy] at idle
      cases idle
  | forsaken driver work releaser unreleased free =>
    have halted : Sweeper.isOver sweep.driver = true := by rw [driver]; rfl
    obtain ⟨same, running, ⟨none, kept⟩ | ⟨busy, -⟩⟩ := step_of_over halted work steps
    · have still : progress.sweep.releaser = .absent := by
        rcases kept with kept | ⟨bound, -⟩
        · exact kept.trans releaser
        · rw [releaser] at bound
          cases bound
      exact .forsaken (same.trans driver) running still (unreleased_step unreleased steps none)
        (free_step steps free)
    · rw [releaser] at busy
      cases busy

/-- In every state that an execution of a sweep can reach the duty lies in one of these places. -/
theorem custody_along {flag : Bool} {moves : List Move}
    (ran : run? s (.claimed flag) moves = some (sweep, log)) : Custody s sweep log := by
  refine Execution.induction_along (motive := fun _ sweep log => Custody s sweep log) ?_ ?_ ran
  · exact .outside (Or.inl rfl) ⟨flag, rfl⟩ rfl List.not_mem_nil rfl Driver.noConfusion
  · intro moves move mid before next shown _ inductionHypothesis stepped
    obtain ⟨progress, made, rfl, rfl⟩ := recorded?_eq_some stepped
    exact inductionHypothesis.step (steps_of_step? made)

end Sweep

end KeySweeper
