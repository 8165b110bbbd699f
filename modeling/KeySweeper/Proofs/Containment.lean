import KeySweeper.Proofs.Delivery
import KeySweeper.Proofs.Failures
import KeySweeper.Proofs.Forsaken
import Mathlib.Data.List.Basic

/-!
# Crashes of stages are contained

A stage that crashes is over, and nothing else of the sweep crashes with it. Its neighbours notice
that it is gone from their queues: the stages behind it finish what it had sent, and the stage
before it stops. The task that waits for the stages waits for a crashed one as for any other, notes
the crash in the log when its turn comes, and goes on. So a sweep with crashed stages comes to its
report as a sound one does, and only what a crashed stage held is lost.

The notes come in the order in which the stages are waited for, whatever order they crashed in. The
invariant behind that is: the notes so far are those of the stages that were waited for so far,
which are over and so stay as they were noted.
-/

namespace KeySweeper.Sweep

open Ledger

/-- The lines of a chronicle that note the crash of a stage, in order. -/
def crashNotes (log : Chronicle) : List LogLine :=
  (lines log).filter fun line => line.message = "redis-cleaner stage failed"

@[simp] theorem crashNotes_append (log later : Chronicle) :
    crashNotes (log ++ later) = crashNotes log ++ crashNotes later := by
  simp only [crashNotes, lines_append, List.filter_append]

variable {s : Settings} {sweep : Sweep} {move : Move} {progress : Progress} {flag : Bool}
variable {moves : List Move} {log : Chronicle} {past : List (Part × StoreEvent)} {issued : Nat}

/-- A stage that was waited for is noted if it has crashed. -/
theorem joinLines_eq (work : Work) (stage : StageName) :
    joinLines work stage = (work.crash? stage).toList.map (stageCrashLine stage) := by
  simp only [joinLines]
  cases work.crash? stage <;> rfl

/-- What is noted about a stage that was waited for. -/
theorem crashNotes_joined (move : Move) (work : Work) (stage : StageName) :
    crashNotes (entries move ((joinLines work stage).map .logged)) = joinLines work stage := by
  simp only [crashNotes, lines_entries, joinLines]
  cases work.crash? stage <;> rfl

/-- A completed call notes no crash as long as none of the lines behind it does. -/
theorem crashNotes_called (move : Move) (event : StoreEvent) {after : List LogLine}
    (other : ∀ line ∈ after, line.message ≠ "redis-cleaner stage failed") :
    crashNotes (entries move (.called event :: after.map .logged)) = [] := by
  rw [crashNotes, lines_called, List.filter_eq_nil_iff]
  intro line member
  simpa only [decide_eq_true_eq] using other line member

/-- A call of a stage notes no crash: a line behind it tells of its failure. -/
theorem crashNotes_effects {α : Type} (move : Move) (event : StoreEvent)
    {line : StoreError → LogLine} (answer : Answer α)
    (other : ∀ cause, (line cause).message ≠ "redis-cleaner stage failed") :
    crashNotes (entries move (Pipeline.effects event line answer)) = [] := by
  cases answer with
  | failed cause => exact crashNotes_called move event (List.forall_mem_singleton.mpr (other cause))
  | value result => rfl
  | crashed text => rfl

/-- Only a task that has waited for a stage notes a crash. -/
theorem crashNotes_step (steps : Steps s sweep move progress)
    (waits : move ≠ .join ∧ move ≠ .releaserJoin) :
    crashNotes (entries move progress.effects) = [] := by
  have released (answer : Answer Nat) :
      ∀ line ∈ releaseLines s answer, line.message ≠ "redis-cleaner stage failed" := by
    cases answer <;> simp [releaseLines, releaseFailureLine]
  have closed (report : SweepReport) :
      ∀ line ∈ closingLines s report, line.message ≠ "redis-cleaner stage failed" := by
    cases asked : s.report <;> simp [closingLines, asked, reportLine, stoppedLine]
  cases steps with
  | joined stage rest joining ended => exact absurd rfl waits.1
  | releaserJoined stage rest joining ended => exact absurd rfl waits.2
  | staged stageMove p next shown running stepped =>
    cases Pipeline.steps_of_step? stepped with
    | scanned answer asking =>
      exact crashNotes_effects _ _ answer fun cause => by simp [Scanner.failureLine]
    | inspected answer key inspecting =>
      exact crashNotes_effects _ _ answer fun cause => by simp [Filter.failureLine]
    | deleted answer batch waiting deleting =>
      exact crashNotes_effects _ _ answer fun cause => by simp [Deleter.failureLine]
    | _ => rfl
  | acquired marking answer back =>
    refine crashNotes_called _ _ ?_
    cases answer <;> simp [markLines, startLine, Guard.writeFailureLine]
  | completed releasing answer back elapsed finishedAt =>
    refine crashNotes_called _ _ fun line member => ?_
    rcases List.mem_append.mp member with release | closing
    · exact released answer line release
    · exact closed _ line closing
  | releaserEnded releasing answer => exact crashNotes_called _ _ (released answer)
  | held checking => simp [crashNotes, lines_entries, Effect.line?, heldLine]
  | unknown checking cause => simp [crashNotes, lines_entries, Effect.line?, checkFailureLine]
  | left rest joining => simp [crashNotes, lines_entries, Effect.line?, guardLeftLine]
  | _ => rfl

/-- The stages that a sweep has yet to wait for, if one of its two tasks waits for stages or has
waited for all of them. -/
def awaited? (sweep : Sweep) : Option (List StageName) :=
  match sweep.driver with
  | .joining rest => some rest
  | .releasing => some []
  | .finished (.completed _) => some []
  | .dropped =>
    match sweep.releaser with
    | .joining rest => some rest
    | .releasing => some []
    | .ended => some []
    | .absent => none
  | _ => none

/-- The stages that were waited for between two states of a sweep: those in front of the ones that
it has yet to wait for. -/
def joinedBetween (before after : Sweep) : List StageName :=
  match before.awaited?, after.awaited? with
  | some rest, some others => rest.take (rest.length - others.length)
  | _, _ => []

/-- The stages that the two tasks of a sweep have waited for in an execution, in order. -/
def joins (s : Settings) (flag : Bool) : List Move → List StageName :=
  Execution.readings (recorded? s) joinedBetween (.claimed flag)

/-- The account of the stages that were waited for. -/
structure Joined (sweep : Sweep) (joined : List StageName) (notes : List LogLine) : Prop where
  /-- Together with others they are all stages in their order, and the others are those still waited
  for, if any are. -/
  split : ∃ rest, joined ++ rest = StageName.all ∧ ∀ others, sweep.awaited? = some others →
    others = rest
  /-- They have ended. -/
  ended : ∀ stage ∈ joined, sweep.work.hasEnded stage = true
  /-- Their crashes are noted. -/
  notes : notes = joined.flatMap (joinLines sweep.work)

/-- A sweep that was just claimed has waited for nothing. -/
theorem Joined.claimed (flag : Bool) : Joined (.claimed flag) [] [] where
  split := ⟨StageName.all, rfl, fun _ impossible => nomatch impossible⟩
  ended := List.forall_mem_nil _
  notes := rfl

/-- Nothing was waited for before the stages start. -/
theorem Joined.none_of_waiting {joined : List StageName} {notes : List LogLine}
    (account : Joined sweep joined notes) {flag : Bool}
    (waiting : sweep.work = .waiting flag) : joined = [] := by
  refine List.eq_nil_iff_forall_not_mem.mpr fun stage member => ?_
  have ended := account.ended stage member
  rw [waiting] at ended
  cases ended

/-- A step other than the end of a wait, or of the write of the guard, changes nothing about the
stages that a sweep awaits. -/
theorem awaited_step (passage : Passage s sweep past issued) (steps : Steps s sweep move progress)
    (waits : move ≠ .join ∧ move ≠ .releaserJoin) (writes : ∀ answer, move ≠ .guardMarked answer)
    {rest : List StageName} (awaited : progress.sweep.awaited? = some rest) :
    sweep.awaited? = some rest := by
  cases steps with
  | joined => exact absurd rfl waits.1
  | releaserJoined => exact absurd rfl waits.2
  | acquired marking answer => exact absurd rfl (writes answer)
  | markCrashed marking text => exact absurd rfl (writes _)
  | left others joining =>
    have absent := passage.absent_of_driven (by rw [joining]; rfl)
    simp [awaited?, absent] at awaited
  | abandoned releasing canSpawn =>
    have absent := passage.absent_of_driven (by rw [releasing]; rfl)
    simp [awaited?, absent] at awaited
  | withdrawn opening canSpawn =>
    have absent := passage.absent_of_driven (under_of_opening opening)
    simp [awaited?, absent] at awaited
  | releaserProceeded joining =>
    have dropped := passage.dropped_of_bound (by rw [joining]; rfl)
    simpa [awaited?, dropped, joining] using awaited
  | releaserEnded releasing answer =>
    have dropped := passage.dropped_of_bound (by rw [releasing]; rfl)
    simpa [awaited?, dropped, releasing] using awaited
  | _ => simp_all [awaited?]

/-- A step changes nothing about a stage that has ended. -/
theorem ended_step {before after : Work} {called : List StoreEvent}
    (onward : WorkStep s before after called) {stage : StageName}
    (ended : before.hasEnded stage = true) :
    after.hasEnded stage = true ∧ after.crash? stage = before.crash? stage := by
  cases onward with
  | still work => exact ⟨ended, rfl⟩
  | told flag => cases ended
  | started flag raised => cases ended
  | staged stageMove p next shown stepped =>
    have quiet : p.isLive stage = false := by
      simpa only [Work.hasEnded, Bool.not_eq_true'] using ended
    obtain ⟨live, crash⟩ := Pipeline.untouched_of_over stepped quiet
    exact ⟨by simp only [Work.hasEnded, live, quiet, Bool.not_false], crash⟩

/-- What is noted of stages that have ended does not change. -/
theorem joinLines_step {before after : Work} {called : List StoreEvent}
    (onward : WorkStep s before after called) {stages : List StageName}
    (ended : ∀ stage ∈ stages, before.hasEnded stage = true) :
    stages.flatMap (joinLines after) = stages.flatMap (joinLines before) := by
  refine List.flatMap_congr fun stage member => ?_
  rw [joinLines_eq, joinLines_eq, (ended_step onward (ended stage member)).2]

/-- The end of a wait notes the stage that was waited for, and moves it from the awaited stages to
the others. -/
theorem Joined.next {joined : List StageName} {notes : List LogLine} {next : Sweep}
    {stage : StageName} {rest : List StageName} (account : Joined sweep joined notes)
    (awaited : sweep.awaited? = some (stage :: rest)) (ended : sweep.work.hasEnded stage = true)
    (work : next.work = sweep.work) (onward : next.awaited? = some rest) :
    Joined next (joined ++ joinedBetween sweep next) (notes ++ joinLines sweep.work stage) := by
  have one : joinedBetween sweep next = [stage] := by
    simp [joinedBetween, awaited, onward]
  obtain ⟨others, split, same⟩ := account.split
  obtain rfl := same _ awaited
  rw [one, account.notes]
  refine ⟨⟨rest, by rw [List.append_assoc, List.singleton_append, split], ?_⟩, ?_, ?_⟩
  · intro others now
    exact (Option.some.inj (onward.symm.trans now)).symm
  · intro other member
    rw [work]
    rcases List.mem_append.mp member with before | now
    · exact account.ended other before
    · obtain rfl := List.mem_singleton.mp now
      exact ended
  · rw [work, List.flatMap_append, List.flatMap_singleton]

/-- A step that neither ends a wait nor starts the stages changes nothing about the stages that were
waited for. -/
theorem Joined.kept {joined : List StageName} {notes : List LogLine}
    (account : Joined sweep joined notes) (ran : run? s (.claimed flag) moves = some (sweep, log))
    (steps : Steps s sweep move progress) (waits : move ≠ .join ∧ move ≠ .releaserJoin)
    (writes : ∀ answer, move ≠ .guardMarked answer) :
    Joined progress.sweep (joined ++ joinedBetween sweep progress.sweep) notes := by
  have onward := workStep_of_steps (opening_along ran) steps
  generalize stageCalls (entries move progress.effects) = called at onward
  have same {rest : List StageName} (later : progress.sweep.awaited? = some rest) :
      sweep.awaited? = some rest :=
    awaited_step (passage_along ran) steps waits writes later
  have none : joinedBetween sweep progress.sweep = [] := by
    simp only [joinedBetween]
    cases later : progress.sweep.awaited? with
    | none => cases sweep.awaited? <;> rfl
    | some others => simp [same later]
  obtain ⟨rest, split, awaited⟩ := account.split
  rw [none, List.append_nil]
  refine ⟨⟨rest, split, fun others later => awaited others (same later)⟩, ?_, ?_⟩
  · exact fun stage member => (ended_step onward (account.ended stage member)).1
  · rw [account.notes, joinLines_step onward account.ended]

/-- A sweep waits for each stage once and notes it as it was when it had ended.

Proof: the stages that were waited for are those in front of the awaited ones. The end of a wait
moves one stage across, and no other step changes the awaited stages, or a stage that has ended. -/
theorem Joined.step {joined : List StageName} {notes : List LogLine}
    (account : Joined sweep joined notes) (ran : run? s (.claimed flag) moves = some (sweep, log))
    (steps : Steps s sweep move progress) :
    Joined progress.sweep (joined ++ joinedBetween sweep progress.sweep)
      (notes ++ crashNotes (entries move progress.effects)) := by
  have silent := crashNotes_step steps
  have kept := account.kept ran steps
  cases steps with
  | joined stage rest joining ended =>
    rw [crashNotes_joined]
    exact account.next (by simp only [awaited?, joining]) ended rfl rfl
  | releaserJoined stage rest joining ended =>
    have dropped := (passage_along ran).dropped_of_bound (by rw [joining]; rfl)
    have awaited : sweep.awaited? = some (stage :: rest) := by
      simp only [awaited?, dropped, joining]
    rw [crashNotes_joined]
    exact account.next awaited ended rfl (by simp only [awaited?, dropped])
  | acquired marking answer back =>
    obtain ⟨-, raised, waiting⟩ := (passage_along ran).of_marking marking
    have unawaited : sweep.awaited? = none := by simp only [awaited?, marking]
    obtain rfl := account.none_of_waiting waiting
    rw [silent ⟨nofun, nofun⟩, account.notes]
    simp only [joinedBetween, unawaited, List.append_nil]
    refine ⟨⟨StageName.all, rfl, fun others now => (Option.some.inj now).symm⟩,
      List.forall_mem_nil _, rfl⟩
  | markCrashed marking text =>
    obtain ⟨-, raised, waiting⟩ := (passage_along ran).of_marking marking
    have unawaited : sweep.awaited? = none := by simp only [awaited?, marking]
    obtain rfl := account.none_of_waiting waiting
    rw [silent ⟨nofun, nofun⟩, account.notes]
    simp only [joinedBetween, unawaited, List.append_nil]
    exact ⟨⟨StageName.all, rfl, nofun⟩, List.forall_mem_nil _, rfl⟩
  | _ =>
    rw [silent ⟨nofun, nofun⟩, List.append_nil]
    exact kept ⟨nofun, nofun⟩ nofun

/-- The account of the stages that were waited for holds in all states of a sweep. -/
theorem joined_along (ran : run? s (.claimed flag) moves = some (sweep, log)) :
    Joined sweep (joins s flag moves) (crashNotes log) := by
  refine Execution.induction_along (motive := fun moves sweep log =>
    Joined sweep (joins s flag moves) (crashNotes log)) (.claimed flag) ?_ ran
  intro moves move mid before next shown reached inductionHypothesis stepped
  rw [joins, Execution.readings_concat reached stepped]
  obtain ⟨progress, made, rfl, rfl⟩ := recorded?_eq_some stepped
  rw [crashNotes_append]
  exact inductionHypothesis.step reached (steps_of_step? made)

/-- A deletion of the guard is issued only by a task that has no stage left to wait for. -/
theorem joins_of_release (ran : run? s (.claimed flag) moves = some (sweep, log))
    (made : sweep.step? s move = some progress) (issues : move.issuesRelease = true) :
    joins s flag moves = StageName.all := by
  obtain ⟨rest, split, same⟩ := (joined_along ran).split
  have none : sweep.awaited? = some [] := by
    cases steps_of_step? made with
    | proceeded joining => simp only [awaited?, joining]
    | releaserProceeded joining =>
      have dropped := (passage_along ran).dropped_of_bound (by rw [joining]; rfl)
      simp only [awaited?, dropped, joining]
    | _ => cases issues
  rw [← same [] none, List.append_nil] at split
  exact split

/-- A sweep that has waited for all its stages has noted the crash of each one that crashed, once
and in the order of the stages. -/
theorem noted_of_awaited (ran : run? s (.claimed flag) moves = some (sweep, log))
    (awaited : sweep.awaited? = some []) :
    crashNotes log = StageName.all.flatMap fun stage =>
      (sweep.work.crash? stage).toList.map (stageCrashLine stage) := by
  have account := joined_along ran
  obtain ⟨rest, split, same⟩ := account.split
  obtain rfl := same [] awaited
  rw [List.append_nil] at split
  rw [account.notes, split]
  exact List.flatMap_congr fun stage _ => joinLines_eq sweep.work stage

/-- A sweep whose stages were started and whose calls for the guard came back can only come out with
a report. -/
theorem completed_of_back (ran : run? s (.claimed flag) moves = some (sweep, log)) {p : Pipeline}
    (running : sweep.work = .running p)
    (back : ∀ call ∈ trail log, call.1.isStage = false → call.2.cameBack = true)
    {outcome : SweepOutcome}
    (finished : sweep.driver = .finished outcome) : ∃ report, outcome = .completed report := by
  rcases outcome_of_check ran back finished with
    ⟨-, ⟨raised, waiting⟩, -⟩ | ⟨cause, -, ⟨raised, waiting⟩, -⟩ | ⟨report, -, -, completed, -⟩
  · cases waiting.symm.trans running
  · cases waiting.symm.trans running
  · exact ⟨report, completed⟩

/-- A deletion of the guard is issued only once all stages are over. -/
theorem over_of_release (ran : run? s (.claimed flag) moves = some (sweep, log))
    (release : (∃ part keys, part.isStage = false ∧ sweep.pending? s part = some (.delete keys)) ∨
      ∃ call ∈ trail log, IsRelease s call) :
    ∃ p, sweep.work = .running p ∧ ∀ stage, p.isLive stage = false := by
  have passage := passage_along ran
  generalize moves.countP Move.issuesRelease = issued at passage
  obtain rfl : issued = 1 := by
    rcases release with ⟨part, keys, outside, pending⟩ | ⟨call, member, released⟩
    · exact passage.issued_of_pending outside pending
    · exact passage.issued_of_released member released
  exact passage.of_issued.2

/-- A sweep that has come to its report, or that has left the guard to a task which is over, has
deleted the guard.

Proof: a report is given only behind that deletion; and by the custody of the guard the task that
stands in for a sweep ends only with it. -/
theorem released_of_over (ran : run? s (.claimed flag) moves = some (sweep, log))
    (done : (∃ report, sweep.driver = .finished (.completed report)) ∨
      sweep.driver = .dropped ∧ sweep.releaser = .ended) :
    ∃ call ∈ trail log, IsRelease s call := by
  rcases done with ⟨report, completed⟩ | ⟨-, ended⟩
  · cases verdict_along ran completed with
    | completed report p running quiet counted answer back entered =>
      exact ⟨_, entered.release_mem, .own answer⟩
  · cases custody_along ran with
    | outside driver work absent => cases absent.symm.trans ended
    | owed driver work absent => cases absent.symm.trans ended
    | passed driver work bound =>
      rw [ended] at bound
      cases bound
    | forsaken driver work absent => cases absent.symm.trans ended
    | settled place work answer released =>
      have counted : answer ∈ releases s log := by rw [released]; exact List.mem_singleton.mpr rfl
      obtain ⟨part, outside, shown⟩ := mem_releases.mp counted
      refine ⟨_, mem_trail.mpr shown, ?_⟩
      cases part with
      | driver => exact .own answer
      | releaser => exact .passed answer
      | _ => cases outside

/-- The crashes of stages are contained. In every execution, whatever calls of the stages crash,
fail or succeed and however the parts of the sweep interleave:

* a stage has crashed exactly if one of its calls has, with the text of that call, and then it is
  one call;
* once the stages were started, the only outcome is a report, unless a call for the guard crashes;
* a sweep with a report, or one in whose place the guard was released, has noted the crash of each
  crashed stage by one line, and these lines are in the order scanner, filter, deleter; and it has
  deleted the guard;
* that deletion of the guard is issued only once all stages are over;
* once the stages are over, and the deleter has not crashed, all keys that the filter had forwarded
  were handed over; if the filter has not crashed either, all keys that the scanner had delivered
  were inspected, and all that passed were handed over.

And a sweep whose parts get their turns, and which has started its stages and whose calls for the
guard come back, comes to its report and has then deleted the guard, if nobody drops it and its scan
is finite or it is told to wind down. -/
theorem crashes_contained (ran : run? s (.claimed flag) moves = some (sweep, log)) :
    (∀ stage, crashes stage (stageCalls log) = (sweep.work.crash? stage).toList) ∧
    (∀ p outcome, sweep.work = .running p →
      (∀ call ∈ trail log, call.1.isStage = false → call.2.cameBack = true) →
      sweep.driver = .finished outcome → ∃ report, outcome = .completed report) ∧
    ((∃ report, sweep.driver = .finished (.completed report)) ∨
        sweep.driver = .dropped ∧ sweep.releaser = .ended →
      crashNotes log = (StageName.all.flatMap fun stage =>
          (sweep.work.crash? stage).toList.map (stageCrashLine stage)) ∧
        ∃ call ∈ trail log, IsRelease s call) ∧
    ((∃ part keys, part.isStage = false ∧ sweep.pending? s part = some (.delete keys)) ∨
        (∃ call ∈ trail log, IsRelease s call) →
      ∃ p, sweep.work = .running p ∧ ∀ stage, p.isLive stage = false) ∧
    (∀ p, sweep.work = .running p → (∀ stage, p.isLive stage = false) → p.crash? .deleter = none →
      forwarded s flag moves = handedOver (stageCalls log) ∧
      (p.crash? .filter = none → delivered s flag moves = inspected (stageCalls log) ∧
        cleared s.minTtl (stageCalls log) = handedOver (stageCalls log))) ∧
    ∀ run : Unending (recorded? s), run.state 0 = .claimed flag → IsFair run →
      (∀ moment canSpawn, run.made moment ≠ some (.drop canSpawn)) →
      (∃ moment p, (run.state moment).work = .running p) →
      (∀ moment, ∀ call ∈ trail (run.log moment), call.1.isStage = false → call.2.cameBack = true) →
      ((∃ bound, ∀ moment, (found (stageCalls (run.log moment))).length ≤ bound) ∨
        ∃ moment, (run.state moment).work.isCancelled = true) →
      ∃ report last, ∀ later, last ≤ later →
        (run.state later).driver = .finished (.completed report) ∧
          ∃ call ∈ trail (run.log later), IsRelease s call := by
  refine ⟨crashes_along ran, fun p outcome running back => completed_of_back ran running back, ?_,
    over_of_release ran, ?_, ?_⟩
  · intro done
    refine ⟨noted_of_awaited ran ?_, released_of_over ran done⟩
    rcases done with ⟨report, completed⟩ | ⟨dropped, ended⟩
    · simp only [awaited?, completed]
    · simp only [awaited?, dropped, ended]
  · intro p running quiet sound
    obtain ⟨lost, flow⟩ := flow_of_running ran running
    have conveyed := conveyed_of_running ran running
    refine ⟨conveyed.forwarded_handed_over flow sound (quiet .deleter), fun intact => ?_⟩
    exact ⟨conveyed.delivered_inspected flow intact sound (quiet .filter),
      (flow.handed_over_of_deleter sound (quiet .deleter)).symm⟩
  · rintro run begins fair kept ⟨start, p, started⟩ back ends
    obtain ⟨outcome, last, finished⟩ := outcome_at_last begins fair kept ends
    obtain ⟨q, running⟩ := lasting_of_steps (fun sweep => ∃ p, sweep.work = .running p)
      (fun _ _ _ _ _ _ steps working => running_step steps working) ⟨p, started⟩
      (Nat.le_max_right last start)
    have reached := run.reached (max last start)
    rw [begins] at reached
    obtain ⟨report, rfl⟩ :=
      completed_of_back reached running (back _) (finished _ (Nat.le_max_left last start))
    refine ⟨report, last, fun later onward => ⟨finished later onward, ?_⟩⟩
    have there := run.reached later
    rw [begins] at there
    exact released_of_over there (Or.inl ⟨report, finished later onward⟩)

/-- A sweep whose scanner crashes behind the key that it has delivered. -/
def scannerCrash : List Move :=
  [.begin, .guardChecked (.value false), .guardMarked (.value ()),
    .stage (.scanned (.value (some "a"))), .stage .offerCandidate,
    .stage (.scanned (.crashed "boom")),
    .stage .takeCandidate, .stage (.inspected (.value (.expires (.ofSeconds 3600)))),
    .stage .offerMatch,
    .stage .takeCandidate, .stage .takeMatch, .stage .takeMatch, .stage (.deleted (.value 1)),
    .join, .join, .join, .proceed, .guardReleased (.value 1) .zero .epoch]

/-- That sweep comes to its report, has noted the crash of its scanner and deleted the guard, and
has inspected and deleted the key that the scanner had delivered. -/
theorem crashes_contained_scanner :
    ∃ run : Unending (recorded? (.ofPattern "a*" 10)), run.state 0 = .claimed false ∧ IsFair run ∧
      (∃ report last, ∀ later, last ≤ later →
        (run.state later).driver = .finished (.completed report) ∧
        ∃ call ∈ trail (run.log later), IsRelease (.ofPattern "a*" 10) call) ∧
      ∃ sweep log, run? (.ofPattern "a*" 10) (.claimed false) scannerCrash = some (sweep, log) ∧
        crashNotes log = [stageCrashLine .scanner "boom"] ∧
        (∃ call ∈ trail log, IsRelease (.ofPattern "a*" 10) call) ∧
        delivered (.ofPattern "a*" 10) false scannerCrash = ["a"] ∧
        inspected (stageCalls log) = ["a"] ∧ handedOver (stageCalls log) = ["a"] := by
  obtain ⟨sweep, log, p, report, ran, finished, running, driver, quiet, crashed, cleared, back⟩ :
      ∃ sweep log p report, run? (.ofPattern "a*" 10) (.claimed false) scannerCrash =
        some (sweep, log) ∧
        sweep.IsFinished ∧ sweep.work = .running p ∧ sweep.driver = .finished (.completed report) ∧
        (∀ stage, p.isLive stage = false) ∧
        (∀ stage, p.crash? stage = if stage = .scanner then some "boom" else none) ∧
        Ledger.cleared (Settings.minTtl (.ofPattern "a*" 10)) (stageCalls log) = ["a"] ∧
        ∀ call ∈ trail log, call.1.isStage = false → call.2.cameBack = true := by
    refine ⟨_, _, _, _, rfl, ⟨rfl, rfl, ?_⟩, rfl, rfl, ?_, ?_, rfl, by decide⟩
    · rintro p same stage
      obtain rfl := Work.running.inj same
      cases stage <;> rfl
    · intro stage
      cases stage <;> rfl
    · intro stage
      cases stage <;> rfl
  obtain ⟨-, -, notes, -, sent, lives⟩ := crashes_contained ran
  have ended : (Unending.ending ran).state scannerCrash.length = sweep :=
    Unending.ending_state ran (Nat.le_refl _)
  have delivery : delivered (.ofPattern "a*" 10) false scannerCrash = ["a"] := rfl
  obtain ⟨-, complete⟩ := sent p running quiet (crashed .deleter)
  obtain ⟨seen, deleted⟩ := complete (crashed .filter)
  obtain ⟨noted, released⟩ := notes (Or.inl ⟨report, driver⟩)
  refine ⟨Unending.ending ran, rfl, isFair_ending ran finished, ?_, sweep, log, ran, ?_,
    released, delivery, seen.symm.trans delivery, deleted.symm.trans cleared⟩
  · refine lives (Unending.ending ran) rfl (isFair_ending ran finished) ?_
      ⟨scannerCrash.length, p, ?_⟩ ?_ (Or.inl ⟨_, finite_ending ran⟩)
    · intro moment canSpawn made
      exact absurd (List.mem_of_getElem? made) (by cases canSpawn <;> decide)
    · rw [ended, running]
    · intro moment call member
      obtain ⟨rest, whole⟩ := Unending.ending_log ran moment
      refine back call ?_
      rw [← whole, trail_append]
      exact List.mem_append_left _ member
  · rw [noted, running]
    simp [StageName.all, Work.crash?, crashed]

end KeySweeper.Sweep
