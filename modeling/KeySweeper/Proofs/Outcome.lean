import KeySweeper.Proofs.Order
import KeySweeper.Proofs.Passage

/-!
# What an outcome says

A sweep that was driven to its end reports how it came out. The outcome tells which calls the sweep
made: a sweep that found the guard held, or could not find out, made no other call; a sweep that
completed checked the guard, wrote it, let its stages work until all of them were over, and deleted
the guard, all in this order; and a crash is the crash of one of the guard's own calls. The report
of a completed sweep carries the number that its stages had counted when the last of them was over.
-/

namespace KeySweeper.Sweep

/-- What the outcome of a sweep says about its stages and its calls. -/
inductive Verdict (s : Settings) (work : Work) (past : List (Part × StoreEvent)) :
    SweepOutcome → Prop where
  /-- The guard was held, and nothing else was asked. -/
  | refused (idle : ∃ flag, work = .waiting flag) (calls : past = [checkCall s (.value true)]) :
      Verdict s work past .alreadyRunning
  /-- The check of the guard failed, and nothing else was asked. -/
  | unknown (cause : StoreError) (idle : ∃ flag, work = .waiting flag)
      (calls : past = [checkCall s (.failed cause)]) : Verdict s work past (.guardFailed cause)
  /-- The stages worked until they were over, and the deletion of the guard came back. -/
  | completed (report : SweepReport) (p : Pipeline) (running : work = .running p)
      (quiet : ∀ stage, p.isLive stage = false) (counted : report.deleted = p.control.deleted)
      (answer : Answer Nat) (back : returned answer = true)
      (entered : Acquired s (some (.driver, .deleted [s.guardKey] answer)) past) :
      Verdict s work past (.completed report)
  /-- The check of the guard crashed. -/
  | checkCrashed (text : String) (calls : past = [checkCall s (.crashed text)]) :
      Verdict s work past (.crashed text)
  /-- The write of the guard crashed. -/
  |
      markCrashed (text : String)
        (calls : past = [checkCall s (.value false), markCall s (.crashed text)]) :
      Verdict s work past (.crashed text)
  /-- The deletion of the guard crashed. -/
  | releaseCrashed (text : String)
      (entered : Acquired s (some (.driver, .deleted [s.guardKey] (.crashed text))) past) :
      Verdict s work past (.crashed text)

variable {s : Settings} {sweep : Sweep} {move : Move} {progress : Progress}
variable {past : List (Part × StoreEvent)} {issued : Nat} {outcome : SweepOutcome}

/-- Being told to wind down changes nothing about an outcome. -/
theorem Verdict.cancel {work : Work} (verdict : Verdict s work past outcome) :
    Verdict s work.cancel past outcome := by
  have still (idle : ∃ flag, work = .waiting flag) : ∃ flag, work.cancel = .waiting flag := by
    obtain ⟨flag, rfl⟩ := idle
    exact ⟨true, rfl⟩
  cases verdict with
  | refused idle calls => exact .refused (still idle) calls
  | unknown cause idle calls => exact .unknown cause (still idle) calls
  | completed report p running quiet counted answer back entered =>
    refine .completed report { p with control := p.control.cancel } (by rw [running]; rfl) ?_
      counted answer back entered
    exact fun stage => Pipeline.over_of_step (rfl : p.step? s .cancel = some (_, [])) (quiet stage)
  | checkCrashed text calls => exact .checkCrashed text calls
  | markCrashed text calls => exact .markCrashed text calls
  | releaseCrashed text entered => exact .releaseCrashed text entered

/-- A sweep that checks the guard has called nothing. -/
theorem Passage.of_checking (passage : Passage s sweep past issued)
    (checking : sweep.driver = .checking) :
    past = [] ∧ ∃ flag, sweep.work = .waiting flag := by
  cases passage with
  | before driver work releaser early =>
    exact ⟨early.nothing (by rw [checking]; nofun) (by rw [checking]; rfl), work⟩
  | during p rest place => simp [checking] at place
  | left p driver => rw [checking] at driver; cases driver
  | issued p place => simp [checking] at place
  | closed p driver => simp [checking] at driver

/-- A sweep that writes the guard has found it free. -/
theorem Passage.of_marking (passage : Passage s sweep past issued)
    (marking : sweep.driver = .marking) :
    past = [checkCall s (.value false)] ∧ ∃ flag, sweep.work = .waiting flag := by
  cases passage with
  | before driver work releaser early => exact ⟨(marking ▸ early).found, work⟩
  | during p rest place => simp [marking] at place
  | left p driver => rw [marking] at driver; cases driver
  | issued p place => simp [marking] at place
  | closed p driver => simp [marking] at driver

/-- A sweep that deletes the guard has stages that are over. -/
theorem Passage.of_releasing (passage : Passage s sweep past issued)
    (releasing : sweep.driver = .releasing) :
    Acquired s none past ∧ ∃ p, sweep.work = .running p ∧ ∀ stage, p.isLive stage = false := by
  cases passage with
  | before driver => rw [releasing] at driver; rcases driver with now | now <;> cases now
  | during p rest place => simp [releasing] at place
  | left p driver => rw [releasing] at driver; cases driver
  | issued p place work quiet entered => exact ⟨entered, p, work, quiet⟩
  | closed p driver => simp [releasing] at driver

/-- A sweep that has an outcome does nothing more. At most it is told to wind down. -/
theorem still_of_finished (passage : Passage s sweep past issued)
    (finished : sweep.driver = .finished outcome) (steps : Steps s sweep move progress) :
    calls progress.effects = [] ∧
      (progress.sweep.work = sweep.work ∨ progress.sweep.work = sweep.work.cancel) := by
  have halted : Sweeper.isOver sweep.driver = true := by rw [finished]; rfl
  cases passage with
  | before driver work releaser early =>
    obtain ⟨flag, waiting⟩ := work
    cases steps with
    | cancelled => exact ⟨rfl, Or.inr rfl⟩
    | staged stageMove p next shown running stepped => rw [waiting] at running; cases running
    | releaserJoined stage rest joining ended => rw [releaser] at joining; cases joining
    | releaserProceeded joining => rw [releaser] at joining; cases joining
    | releaserEnded releasing answer => rw [releaser] at releasing; cases releasing
    | withdrawn opening canSpawn => rw [finished] at opening; cases opening
    | _ => simp_all
  | during p rest place => simp [finished] at place
  | left p driver => rw [finished] at driver; cases driver
  | issued p place => simp [finished] at place
  | closed p driver releaser work quiet release entered =>
    rcases staged_or_told halted releaser work steps with
      ⟨stageMove, after, shown, -, stepped, rfl⟩ | ⟨-, rfl⟩
    · refine ⟨Pipeline.silent_of_over quiet stepped, Or.inr ?_⟩
      by_cases outside : stageMove = .cancel
      · subst outside
        obtain ⟨rfl, -⟩ := Pipeline.step_cancel stepped
        exact (told_of_running work).symm
      · obtain ⟨mover, moved⟩ := Pipeline.mover_of_step stepped outside
        exact absurd ((quiet mover).symm.trans moved.live) Bool.false_ne_true
    · exact ⟨rfl, Or.inr rfl⟩

/-- The step with which a sweep comes to its outcome makes the last of the calls that the outcome
tells about. -/
theorem verdict_of_step (passage : Passage s sweep past issued)
    (under : Sweeper.isOver sweep.driver = false) (steps : Steps s sweep move progress)
    (finished : progress.sweep.driver = .finished outcome) :
    Verdict s progress.sweep.work (past ++ trail (entries move progress.effects)) outcome := by
  cases steps with
  | held checking =>
    obtain ⟨rfl, idle⟩ := passage.of_checking checking
    cases finished
    exact .refused idle rfl
  | unknown checking cause =>
    obtain ⟨rfl, idle⟩ := passage.of_checking checking
    cases finished
    exact .unknown cause idle rfl
  | checkCrashed checking text =>
    obtain ⟨rfl, -⟩ := passage.of_checking checking
    cases finished
    exact .checkCrashed text rfl
  | markCrashed marking text =>
    obtain ⟨rfl, -⟩ := passage.of_marking marking
    cases finished
    exact .markCrashed text rfl
  | completed releasing answer back elapsed finishedAt =>
    obtain ⟨entered, p, running, quiet⟩ := passage.of_releasing releasing
    cases finished
    rw [trail_entries, calls_called_logged]
    exact .completed _ p running quiet (by rw [running]; rfl) answer back
      (entered.released (.own answer))
  | releaseCrashed releasing text elapsed finishedAt =>
    obtain ⟨entered, -⟩ := passage.of_releasing releasing
    cases finished
    exact .releaseCrashed text (entered.released (.own (.crashed text)))
  | staged => rw [finished] at under; cases under
  | cancelled => rw [finished] at under; cases under
  | releaserJoined => rw [finished] at under; cases under
  | releaserProceeded => rw [finished] at under; cases under
  | releaserEnded => rw [finished] at under; cases under
  | _ => cases finished

/-- In every state that can be reached from the claim on, the outcome of a sweep, if it has one,
tells which calls the sweep made. -/
theorem verdict_along {flag : Bool} {moves : List Move} {log : Chronicle}
    (ran : run? s (.claimed flag) moves = some (sweep, log))
    (finished : sweep.driver = .finished outcome) :
    Verdict s sweep.work (trail log) outcome := by
  refine Execution.induction_along (motive := fun _ sweep log => ∀ outcome,
    sweep.driver = .finished outcome → Verdict s sweep.work (trail log) outcome)
    ?_ ?_ ran outcome finished
  · intro outcome impossible
    cases impossible
  · intro moves move mid before next shown reached inductionHypothesis stepped outcome finished
    obtain ⟨progress, made, rfl, rfl⟩ := recorded?_eq_some stepped
    have steps := steps_of_step? made
    have passage := passage_along reached
    rw [trail_append]
    cases halted : Sweeper.isOver mid.driver with
    | false => exact verdict_of_step passage halted steps finished
    | true =>
      have same := driver_of_over steps halted
      have verdict := inductionHypothesis outcome (same.symm.trans finished)
      obtain ⟨silent, work⟩ := still_of_finished passage (same.symm.trans finished) steps
      rw [still_of_silent _ _ _ silent]
      rcases work with now | now
      · rw [now]
        exact verdict
      · rw [now]
        exact verdict.cancel

/-- A sweep has acquired the guard: it found the guard free, and its write of the guard came back,
whether it took effect or failed. -/
def HasAcquired (s : Settings) (log : Chronicle) : Prop :=
  checkCall s (.value false) ∈ trail log ∧
    ∃ answer, returned answer = true ∧ markCall s answer ∈ trail log

/-- A sweep that acquired the guard and has come out, in whatever way, has deleted the guard
itself. -/
theorem guardDeleted_of_finished {flag : Bool} {moves : List Move} {log : Chronicle}
    (ran : run? s (.claimed flag) moves = some (sweep, log))
    (finished : sweep.driver = .finished outcome) (acquired : HasAcquired s log) :
    ∃ answer, (.driver, .deleted [s.guardKey] answer) ∈ trail log := by
  obtain ⟨checked, answer, back, marked⟩ := acquired
  cases verdict_along ran finished with
  | refused idle calls => simp [calls] at checked
  | unknown cause idle calls => simp [calls] at checked
  | checkCrashed text calls => simp [calls] at checked
  | markCrashed text calls =>
    obtain rfl : answer = .crashed text := by simpa [calls] using marked
    cases back
  | releaseCrashed text entered => exact ⟨_, entered.release_mem⟩
  | completed report p running quiet counted answer back entered => exact ⟨_, entered.release_mem⟩

end KeySweeper.Sweep
