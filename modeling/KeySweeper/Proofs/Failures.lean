import KeySweeper.Proofs.Outcome
import KeySweeper.Proofs.Crashes
import KeySweeper.Proofs.Termination

/-!
# Every failure is accounted for once

A store call of a sweep can fail in six places, and the sweep reacts in four ways: a failed check of
the guard ends it with that failure as its outcome; a failed write of the guard is passed over; a
failed call of a stage tells the sweep to wind down; a failed deletion of the guard is passed over
at the end. Whatever the reaction, each failure is logged by one line of its own, and without
crashes there is no other error line. Nothing but a failed call of a stage makes a sweep wind down
from the inside before its stages are over.
-/

namespace KeySweeper

/-- The cause with which a call failed, if it did. -/
def Answer.failure? {α : Type} : Answer α → Option StoreError
  | .failed cause => some cause
  | _ => none

namespace StoreEvent

/-- The cause with which a completed call failed, if it did. -/
def failure? : StoreEvent → Option StoreError
  | .checked _ answer => answer.failure?
  | .written _ _ answer => answer.failure?
  | .scanned _ answer => answer.failure?
  | .inspected _ answer => answer.failure?
  | .deleted _ answer => answer.failure?

/-- Whether a completed call came back, with a value or with a failure. -/
def cameBack : StoreEvent → Bool
  | .checked _ answer => Sweep.returned answer
  | .written _ _ answer => Sweep.returned answer
  | .scanned _ answer => Sweep.returned answer
  | .inspected _ answer => Sweep.returned answer
  | .deleted _ answer => Sweep.returned answer

end StoreEvent

/-- The line of an effect, if it is one. -/
def Effect.line? : Effect → Option LogLine
  | .logged line => some line
  | .called _ => none

open Ledger

namespace Pipeline

/-- A failed answer raises the flag, and no other answer does. -/
theorem cancelled_cancelIfFailed {α : Type} (control : Control) (answer : Answer α) :
    (cancelIfFailed control answer).cancelled = true ↔ control.cancelled = true ∨
    answer.failure? ≠ none := by
  cases answer <;> simp [cancelIfFailed, Control.cancel, Answer.failure?]

/-- Stages are told to wind down from outside or by the failure of one of their calls, and in no
other way. -/
theorem flag_step {s : Settings} {p next : Pipeline} {move : Move} {shown : List Effect}
    (stepped : p.step? s move = some (next, shown)) :
    next.control.cancelled = true ↔
      p.control.cancelled = true ∨ move = .cancel ∨ ∃ event ∈ calls shown,
        event.failure? ≠ none := by
  cases steps_of_step? stepped with
  | scanned answer asking => simp [cancelled_cancelIfFailed, StoreEvent.failure?]
  | inspected answer key inspecting => simp [cancelled_cancelIfFailed, StoreEvent.failure?]
  | deleted answer batch waiting deleting =>
    have raised : (recordUnlessCrashed (cancelIfFailed p.control answer) batch answer).cancelled =
        (cancelIfFailed p.control answer).cancelled := by
      cases answer <;> rfl
    simp [raised, cancelled_cancelIfFailed, StoreEvent.failure?]
  | cancelled => simp [Control.cancel]
  | _ => simp [calls]

end Pipeline

namespace Sweep

/-- The line that is logged when a call of a part fails. -/
def failureLine (s : Settings) : Part → StoreCall → StoreError → LogLine
  | _, .check _, cause => checkFailureLine s cause
  | _, .write _ _, cause => Guard.writeFailureLine s.guardKey cause
  | _, .scan pattern, cause => Scanner.failureLine pattern cause
  | _, .inspect key, cause => Filter.failureLine key cause
  | .deleter, .delete batch, cause => Deleter.failureLine batch cause
  | _, .delete _, cause => releaseFailureLine s cause

/-- The lines for the failed ones among calls, one for each and in order. -/
def failureLines (s : Settings) (past : List (Part × StoreEvent)) : List LogLine :=
  past.filterMap fun call => call.2.failure?.map (failureLine s call.1 call.2.call)

/-- The lines of a chronicle, in order. -/
def lines (log : Chronicle) : List LogLine := log.filterMap fun entry => entry.2.line?

/-- The lines of a chronicle that tell of something that went wrong, in order. -/
def errorLines (log : Chronicle) : List LogLine :=
  (lines log).filter fun line => line.level = .error

@[simp] theorem lines_append (log later : Chronicle) :
    lines (log ++ later) = lines log ++ lines later :=
  List.filterMap_append

@[simp] theorem errorLines_append (log later : Chronicle) :
    errorLines (log ++ later) = errorLines log ++ errorLines later := by
  simp only [errorLines, lines_append, List.filter_append]

@[simp] theorem failureLines_append (s : Settings) (past later : List (Part × StoreEvent)) :
    failureLines s (past ++ later) = failureLines s past ++ failureLines s later :=
  List.filterMap_append

variable {s : Settings} {sweep : Sweep} {move : Move} {progress : Progress} {flag : Bool}
variable {moves : List Move} {log : Chronicle}

/-- The lines of one move are those that it shows. -/
theorem lines_entries (move : Move) (effects : List Effect) :
    lines (entries move effects) = effects.filterMap Effect.line? := by
  simp only [lines, entries, List.filterMap_map, Function.comp_def]

/-- A completed call and the lines behind it show these lines. -/
theorem lines_called (move : Move) (event : StoreEvent) (after : List LogLine) :
    lines (entries move (.called event :: after.map .logged)) = after := by
  simp only [lines_entries, List.filterMap_cons, Effect.line?, List.filterMap_map,
    Function.comp_def, List.filterMap_some]

/-- Of the lines behind a completed call those that tell of something that went wrong are error
lines. -/
theorem errorLines_called (move : Move) (event : StoreEvent) (after : List LogLine) :
    errorLines (entries move (.called event :: after.map .logged)) =
      after.filter fun line => line.level = .error := by
  rw [errorLines, lines_called]

/-- A completed call of a stage is followed by its line if it failed, and by none otherwise. -/
theorem errorLines_effects {α : Type} (move : Move) {event : StoreEvent} {answer : Answer α}
    (line : StoreError → LogLine) (same : event.failure? = answer.failure?)
    (severe : ∀ cause, (line cause).level = .error)
    (named : ∀ cause, line cause = failureLine s move.part event.call cause) :
    errorLines (entries move (Pipeline.effects event line answer)) =
      failureLines s (trail (entries move (Pipeline.effects event line answer))) := by
  rw [trail_entries, calls_effects]
  simp only [failureLines, List.map_cons, List.map_nil, List.filterMap_cons,
    List.filterMap_nil, same]
  cases answer with
  | failed cause =>
    rw [show Pipeline.effects event line (.failed cause) = .called event ::
      [line cause].map .logged from rfl, errorLines_called]
    simp [Answer.failure?, severe, ← named]
  | value result => rfl
  | crashed text => rfl

/-- A sound stage that was waited for is not mentioned. -/
theorem joinLines_of_sound {work : Work} {stage : StageName} (sound : work.crash? stage = none) :
    joinLines work stage = [] := by
  simp only [joinLines, sound]

/-- A step logs one error line for a call that fails in it, and none otherwise, as long as no stage
has crashed. -/
theorem errorLines_step (steps : Steps s sweep move progress)
    (sound : ∀ stage, sweep.work.crash? stage = none) :
    errorLines (entries move progress.effects) =
      failureLines s (trail (entries move progress.effects)) := by
  cases steps with
  | staged stageMove p next shown running stepped =>
    cases Pipeline.steps_of_step? stepped with
    | scanned answer asking => exact errorLines_effects _ _ rfl (fun _ => rfl) fun _ => rfl
    | inspected answer key inspecting =>
      exact errorLines_effects _ _ rfl (fun _ => rfl) fun _ => rfl
    | deleted answer batch waiting deleting =>
      exact errorLines_effects _ _ rfl (fun _ => rfl) fun _ => rfl
    | _ => rfl
  | acquired marking answer back =>
    rw [errorLines_called, trail_entries, calls_called_logged]
    cases answer <;> rfl
  | completed releasing answer back elapsed finishedAt =>
    rw [errorLines_called, trail_entries, calls_called_logged]
    simp only [List.filter_append, closingLines]
    cases answer <;> cases s.report <;> rfl
  | releaserEnded releasing answer =>
    rw [errorLines_called, trail_entries, calls_called_logged]
    cases answer <;> rfl
  | joined stage rest joining ended => rw [joinLines_of_sound (sound stage)]; rfl
  | releaserJoined stage rest joining ended => rw [joinLines_of_sound (sound stage)]; rfl
  | _ => rfl

/-- A call that the stages made stands in the trail of the sweep. -/
theorem trail_of_stageCalls {event : StoreEvent} (member : event ∈ stageCalls log) :
    ∃ part, (part, event) ∈ trail log := by
  obtain ⟨part, -, present⟩ := mem_callsBy.mp member
  exact ⟨part, mem_trail.mpr present⟩

/-- A call with the text of a crash has not come back. -/
theorem lost_of_crashText {stage : StageName} {event : StoreEvent} {text : String}
    (crashed : crashText? stage event = some text) : event.cameBack = false := by
  cases stage <;> cases event <;> first
    | cases crashed
    | (next key answer => cases answer <;> first | rfl | cases crashed)

/-- If every call came back no stage has crashed. -/
theorem sound_of_back (ran : run? s (.claimed flag) moves = some (sweep, log))
    (back : ∀ call ∈ trail log, call.2.cameBack = true) (stage : StageName) :
    sweep.work.crash? stage = none := by
  have crashed := crashes_along ran stage
  have none : crashes stage (stageCalls log) = [] := by
    refine List.eq_nil_iff_forall_not_mem.mpr fun text member => ?_
    obtain ⟨event, present, read⟩ := List.mem_filterMap.mp member
    obtain ⟨part, shown⟩ := trail_of_stageCalls present
    exact absurd ((lost_of_crashText read).symm.trans (back (part, event) shown)) Bool.false_ne_true
  rw [none] at crashed
  exact Option.toList_eq_nil_iff.mp crashed.symm

/-- As long as every call comes back the error lines of a sweep are those for its failed calls. -/
theorem errorLines_along (ran : run? s (.claimed flag) moves = some (sweep, log))
    (back : ∀ call ∈ trail log, call.2.cameBack = true) :
    errorLines log = failureLines s (trail log) := by
  refine Execution.induction_along
    (motive := fun _ _ log => (∀ call ∈ trail log, call.2.cameBack = true) →
    errorLines log = failureLines s (trail log)) (fun _ => rfl) ?_ ran back
  intro moves move mid before next shown reached inductionHypothesis stepped back
  obtain ⟨progress, made, rfl, rfl⟩ := recorded?_eq_some stepped
  rw [trail_append] at back ⊢
  have earlier (call : Part × StoreEvent) (member : call ∈ trail before) : call.2.cameBack = true :=
    back call (List.mem_append_left _ member)
  rw [errorLines_append, failureLines_append, inductionHypothesis earlier,
    errorLines_step (steps_of_step? made) (sound_of_back reached earlier)]

/-- A call of a stage that fails tells the sweep to wind down, in the same step. -/
theorem cancelled_of_failed (steps : Steps s sweep move progress) {event : StoreEvent}
    (member : event ∈ stageCalls (entries move progress.effects)) (failed : event.failure? ≠ none) :
    progress.sweep.work.isCancelled = true := by
  cases steps with
  | staged stageMove p next shown running stepped =>
    rw [stageCalls_staged stepped] at member
    exact (Pipeline.flag_step stepped).mpr (Or.inr (Or.inr ⟨event, member, failed⟩))
  | _ =>
    rw [stageCalls_entries rfl] at member
    cases member

/-- A sweep is told to wind down from the moment on at which a call of one of its stages has
failed. -/
theorem cancelled_along (ran : run? s (.claimed flag) moves = some (sweep, log))
    {event : StoreEvent} (member : event ∈ stageCalls log) (failed : event.failure? ≠ none) :
    sweep.work.isCancelled = true := by
  refine Execution.induction_along (motive := fun _ sweep log => event ∈ stageCalls log →
    sweep.work.isCancelled = true)
    (fun impossible => absurd impossible List.not_mem_nil) ?_ ran member
  intro moves move mid before next shown _ inductionHypothesis stepped member
  obtain ⟨progress, made, rfl, rfl⟩ := recorded?_eq_some stepped
  rw [stageCalls_append] at member
  rcases List.mem_append.mp member with earlier | now
  · exact cancelled_step (steps_of_step? made) (inductionHypothesis earlier)
  · exact cancelled_of_failed (steps_of_step? made) now failed

/-- A driver that has waited for all stages has stages that are over. -/
theorem Passage.of_joined {past : List (Part × StoreEvent)} {issued : Nat}
    (passage : Passage s sweep past issued) (joined : sweep.driver = .joining []) :
    ∃ p, sweep.work = .running p ∧ ∀ stage, p.isLive stage = false := by
  cases passage with
  | before driver => rw [joined] at driver; rcases driver with now | now <;> cases now
  | during p rest place work halted entered =>
    obtain ⟨now, -⟩ | ⟨now, -⟩ := place
    · obtain rfl := Driver.joining.inj (joined.symm.trans now)
      exact ⟨p, work, fun stage => halted stage List.not_mem_nil⟩
    · rw [joined] at now; cases now
  | left p driver => rw [joined] at driver; cases driver
  | issued p place => simp [joined] at place
  | closed p driver => simp [joined] at driver

/-- A sweep whose stages make no failing call and that nobody tells from outside is told to wind
down only when all its stages are over.

Proof: induction along the execution. The flag is raised by the driver when it has waited for all
stages, and otherwise only from outside or by a failing call; and stages that are over stay over. -/
theorem over_of_told (ran : run? s (.claimed false) moves = some (sweep, log))
    (own : ∀ move ∈ moves, move.isOwn = true)
    (unfailed : ∀ event ∈ stageCalls log, event.failure? = none)
    (told : sweep.work.isCancelled = true) :
    ∃ p, sweep.work = .running p ∧ ∀ stage, p.isLive stage = false := by
  refine Execution.induction_along
    (motive := fun moves sweep log => (∀ move ∈ moves, move.isOwn = true) →
    (∀ event ∈ stageCalls log, event.failure? = none) → sweep.work.isCancelled = true →
      ∃ p, sweep.work = .running p ∧ ∀ stage, p.isLive stage = false) ?_ ?_ ran own unfailed told
  · intro _ _ impossible
    cases impossible
  · intro moves move mid before next shown reached inductionHypothesis stepped own unfailed told
    obtain ⟨progress, made, rfl, rfl⟩ := recorded?_eq_some stepped
    have steps := steps_of_step? made
    have passage := passage_along reached
    have itself : move.isOwn = true :=
      own move (List.mem_append_right _ (List.mem_singleton_self move))
    rw [stageCalls_append] at unfailed
    have before (told : mid.work.isCancelled = true) :
        ∃ p, mid.work = .running p ∧ ∀ stage, p.isLive stage = false :=
      inductionHypothesis (fun move member => own move (List.mem_append_left _ member))
        (fun event member => unfailed event (List.mem_append_left _ member)) told
    cases steps with
    | acquired marking answer back =>
      obtain ⟨-, raised, waiting⟩ := passage.of_marking marking
      obtain ⟨p, running, -⟩ := before told
      cases waiting.symm.trans running
    | staged stageMove p next shown running inner =>
      rcases (Pipeline.flag_step inner).mp told with earlier | rfl | ⟨event, member, failed⟩
      · rw [running] at before
        obtain ⟨q, same, quiet⟩ := before earlier
        obtain rfl := Work.running.inj same
        exact ⟨next, rfl, fun stage => Pipeline.over_of_step inner (quiet stage)⟩
      · cases itself
      · refine absurd (unfailed event (List.mem_append_right _ ?_)) failed
        rw [stageCalls_staged inner]
        exact member
    | proceeded joining =>
      obtain ⟨p, running, quiet⟩ := passage.of_joined joining
      exact ⟨_, told_of_running running,
        fun stage => Pipeline.over_of_step (rfl : p.step? s .cancel = some (_, [])) (quiet stage)⟩
    | cancelled => cases itself
    | passedOn => cases itself
    | left => cases itself
    | abandoned => cases itself
    | withdrawn => cases itself
    | _ => exact before told

/-- A sweep that acquired the guard has checked it once and found it free. -/
theorem Acquired.checked_iff {release : Option (Part × StoreEvent)}
    {past : List (Part × StoreEvent)} (entered : Acquired s release past) (answer : Answer Bool) :
    checkCall s answer ∈ past ↔ answer = .value false := by
  obtain ⟨written, back, stages, work, last⟩ := entered
  constructor
  · intro member
    rcases List.mem_cons.mp member with now | member
    · exact (StoreEvent.checked.inj (Prod.mk.inj now).2).2
    · rcases List.mem_cons.mp member with now | member
      · cases now
      · rcases List.mem_append.mp member with among | release
        · cases work _ among
        · cases last _ (Option.mem_toList.mp release)
  · rintro rfl
    exact List.mem_cons_self

/-- If no call for the guard crashes the outcome of a sweep is the answer to its check of the
guard. -/
theorem outcome_of_check (ran : run? s (.claimed flag) moves = some (sweep, log))
    (back : ∀ call ∈ trail log, call.1.isStage = false → call.2.cameBack = true)
    {outcome : SweepOutcome} (finished : sweep.driver = .finished outcome) :
    outcome = .alreadyRunning ∧ (∃ flag, sweep.work = .waiting flag) ∧
    trail log = [checkCall s (.value true)] ∨
      (∃ cause, outcome = .guardFailed cause ∧ (∃ flag, sweep.work = .waiting flag) ∧
        trail log = [checkCall s (.failed cause)]) ∨
      ∃ report p release, outcome = .completed report ∧ sweep.work = .running p ∧
        (∀ stage, p.isLive stage = false) ∧ Acquired s release (trail log) := by
  have verdict := verdict_along ran finished
  cases verdict with
  | refused idle calls => exact Or.inl ⟨rfl, idle, calls⟩
  | unknown cause idle calls => exact Or.inr (Or.inl ⟨cause, rfl, idle, calls⟩)
  | completed report p running quiet counted answer came entered =>
    exact Or.inr (Or.inr ⟨report, p, _, rfl, running, quiet, entered⟩)
  | checkCrashed text calls =>
    cases back (checkCall s (.crashed text)) (by rw [calls]; exact List.mem_cons_self) rfl
  | markCrashed text calls =>
    cases back (markCall s (.crashed text))
      (by rw [calls]; exact List.mem_cons_of_mem _ List.mem_cons_self) rfl
  | releaseCrashed text entered =>
    cases back _ entered.release_mem rfl

/-- A sweep goes on behind a failed write of the guard as it does behind a successful one. -/
theorem mark_failed (marking : sweep.driver = .marking) (cause : StoreError) :
    ∃ failed written, sweep.step? s (.guardMarked (.failed cause)) = some failed ∧
      sweep.step? s (.guardMarked (.value ())) = some written ∧ failed.sweep = written.sweep ∧
      failed.slot = written.slot ∧ failed.sweep.driver = .joining StageName.all ∧
      failed.sweep.work.isCancelled = sweep.work.isCancelled := by
  refine ⟨afterMark s sweep (.failed cause), afterMark s sweep (.value ()), ?_, ?_, rfl,
    rfl, rfl, rfl⟩
  · simp only [step?, marking]
  · simp only [step?, marking]

/-- Every failure of a store call is accounted for once, and only the check of the guard decides how
the sweep comes out. In every execution in which no call crashes, whatever calls fail and however
the parts of the sweep interleave:

* the error lines are one for each failed call, the check of the guard included, in the order of the
  calls;
* an outcome is a failure of the guard exactly if the check failed, with the same cause, and then
  the check was the only call; it says that another sweep is running exactly if the check found the
  guard; and it is a report exactly if the check found the guard free, whatever failed behind it,
  with all stages over and all keys that passed handed over;
* behind a failed write of the guard the sweep goes on as behind a successful one, and is not told
  to wind down;
* from the step on in which a call of a stage fails the sweep is told to wind down;
* a sweep that nobody tells from outside, and none of whose stages makes a failing call, is not told
  to wind down before all its stages are over.

And a sweep whose parts get their turns comes to an outcome, if nobody drops it and its scan is
finite or it is told to wind down. -/
theorem failures_accounted (ran : run? s (.claimed flag) moves = some (sweep, log))
    (back : ∀ call ∈ trail log, call.2.cameBack = true) :
    errorLines log = failureLines s (trail log) ∧
    (∀ outcome, sweep.driver = .finished outcome →
      (∀ cause, outcome = .guardFailed cause ↔ checkCall s (.failed cause) ∈ trail log) ∧
      (∀ cause, outcome = .guardFailed cause → trail log = [checkCall s (.failed cause)]) ∧
      (outcome = .alreadyRunning ↔ checkCall s (.value true) ∈ trail log) ∧
      ((∃ report, outcome = .completed report) ↔ checkCall s (.value false) ∈ trail log) ∧
      (∀ report, outcome = .completed report →
        (∃ p, sweep.work = .running p ∧ ∀ stage, p.isLive stage = false) ∧
        handedOver (stageCalls log) = cleared s.minTtl (stageCalls log))) ∧
    (sweep.driver = .marking → ∀ cause, ∃ failed written,
      sweep.step? s (.guardMarked (.failed cause)) = some failed ∧
      sweep.step? s (.guardMarked (.value ())) = some written ∧ failed.sweep = written.sweep ∧
      failed.slot = written.slot ∧ failed.sweep.driver = .joining StageName.all ∧
      failed.sweep.work.isCancelled = sweep.work.isCancelled) ∧
    (∀ event ∈ stageCalls log, event.failure? ≠ none → sweep.work.isCancelled = true) ∧
    (flag = false → (∀ move ∈ moves, move.isOwn = true) →
      (∀ event ∈ stageCalls log, event.failure? = none) →
      sweep.work.isCancelled = true → ∃ p, sweep.work = .running p ∧
        ∀ stage, p.isLive stage = false) ∧
    ∀ run : Unending (recorded? s), run.state 0 = .claimed flag → IsFair run →
      (∀ moment canSpawn, run.made moment ≠ some (.drop canSpawn)) →
      ((∃ bound, ∀ moment, (found (stageCalls (run.log moment))).length ≤ bound) ∨
        ∃ moment, (run.state moment).work.isCancelled = true) →
      ∃ outcome last, ∀ later, last ≤ later → (run.state later).driver = .finished outcome := by
  refine ⟨errorLines_along ran back, ?_, mark_failed, fun event => cancelled_along ran, ?_, ?_⟩
  · intro outcome finished
    rcases outcome_of_check ran (fun call member _ => back call member) finished with
      ⟨rfl, -, calls⟩ | ⟨cause, rfl, -, calls⟩ | ⟨report, p, release, rfl, running, quiet, entered⟩
    · rw [calls]
      simp [checkCall]
    · rw [calls]
      refine ⟨fun other => ?_, ?_, ?_, ?_, nofun⟩
      · simp only [checkCall, List.mem_singleton, Prod.mk.injEq, StoreEvent.checked.injEq,
          Answer.failed.injEq, SweepOutcome.guardFailed.injEq, true_and]
        exact eq_comm
      · rintro _ ⟨⟩
        rfl
      · simp [checkCall]
      · simp [checkCall]
    · refine ⟨fun cause => ?_, nofun, ?_, ?_, ?_⟩
      · rw [entered.checked_iff]
        exact ⟨nofun, nofun⟩
      · rw [entered.checked_iff]
        exact ⟨nofun, nofun⟩
      · rw [entered.checked_iff]
        exact ⟨fun _ => rfl, fun _ => ⟨report, rfl⟩⟩
      · intro _ _
        have sound := sound_of_back ran back
        rw [running] at sound
        obtain ⟨lost, flow⟩ := flow_of_running ran running
        exact ⟨⟨p, running, quiet⟩, flow.handed_over sound (quiet .deleter)⟩
  · rintro rfl own unfailed told
    exact over_of_told ran own unfailed told
  · intro run begins fair kept ends
    exact outcome_at_last begins fair kept ends

/-- A store that does not answer. -/
abbrev down : StoreError := .unavailable "down"

/-- A sweep that finds two keys over a store that fails often: the write of the guard, the
inspection of the second key, the rest of the scan, the deletion of the first key and the deletion
of the guard. -/
def failingOften : List Move :=
  [.begin, .guardChecked (.value false), .guardMarked (.failed down),
    .stage (.scanned (.value (some "a"))), .stage .offerCandidate, .stage .takeCandidate,
    .stage (.scanned (.value (some "b"))),
    .stage (.inspected (.value (.expires (.ofSeconds 3600)))),
    .stage .offerMatch, .stage .takeMatch, .stage .offerCandidate, .stage .takeCandidate,
    .stage (.inspected (.failed down)), .stage (.scanned (.failed down)), .stage .takeCandidate,
    .stage .takeMatch, .stage (.deleted (.failed down)), .join, .join, .join, .proceed,
    .guardReleased (.failed down) .zero .epoch]

/-- The calls of that sweep. -/
def failingCalls : List (Part × StoreEvent) :=
  let s : Settings := .ofPattern "a*" 10
  [checkCall s (.value false), markCall s (.failed down),
    (.scanner, .scanned "a*" (.value (some "a"))),
    (.scanner, .scanned "a*" (.value (some "b"))),
    (.filter, .inspected "a" (.value (.expires (.ofSeconds 3600)))),
    (.filter, .inspected "b" (.failed down)),
    (.scanner, .scanned "a*" (.failed down)), (.deleter, .deleted ["a"] (.failed down)),
    (.driver, .deleted [s.guardKey] (.failed down))]

/-- That sweep logs five error lines, is told to wind down, and reports. -/
theorem failures_accounted_often :
    ∃ sweep log report, run? (.ofPattern "a*" 10) (.claimed false) failingOften =
      some (sweep, log) ∧
      (∀ call ∈ trail log, call.2.cameBack = true) ∧ sweep.driver = .finished (.completed report) ∧
      errorLines log = failureLines (.ofPattern "a*" 10) (trail log) ∧ (errorLines log).length = 5 ∧
      sweep.work.isCancelled = true ∧ handedOver (stageCalls log) =
        cleared (Settings.minTtl (.ofPattern "a*" 10)) (stageCalls log) := by
  obtain ⟨sweep, log, report, ran, finished, listed, failing⟩ : ∃ sweep log report,
      run? (.ofPattern "a*" 10) (.claimed false) failingOften = some (sweep, log) ∧
      sweep.driver = .finished (.completed report) ∧ trail log = failingCalls ∧
      .inspected "b" (.failed down) ∈ stageCalls log := by
    refine ⟨_, _, _, rfl, rfl, rfl, ?_⟩
    exact mem_callsBy.mpr ⟨.filter, rfl, mem_trail.mp (by decide)⟩
  have back : ∀ call ∈ trail log, call.2.cameBack = true := by
    rw [listed]
    decide
  obtain ⟨lines, outcomes, -, cancels, -, -⟩ := failures_accounted ran back
  have five : (errorLines log).length = 5 := by
    rw [lines, listed]
    rfl
  exact ⟨sweep, log, report, ran, back, finished, lines, five, cancels _ failing nofun,
    ((outcomes _ finished).2.2.2.2 report rfl).2⟩

/-- A failed check of the guard logs an error line too, although it is none of the calls behind the
check. -/
theorem checkFailure_logged :
    ∃ sweep log cause, run? (.ofPattern "a*" 10) (.claimed false) [.begin,
        .guardChecked (.failed down)] = some (sweep, log) ∧
      (∀ call ∈ trail log, call.2.cameBack = true) ∧ sweep.driver = .finished (.guardFailed cause) ∧
      errorLines log ≠ failureLines (.ofPattern "a*" 10)
        ((trail log).filter fun call => call.2.call.kind ≠ .check) := by
  refine ⟨_, _, down, rfl, ?_, rfl, ?_⟩
  · decide
  · exact List.cons_ne_nil _ _

end Sweep

end KeySweeper
