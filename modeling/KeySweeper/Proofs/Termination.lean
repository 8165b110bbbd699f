import KeySweeper.Proofs.Calm
import KeySweeper.Proofs.Forsaken
import KeySweeper.Proofs.Order
import KeySweeper.Proofs.Unending

/-!
# Every sweep comes to its end

The stages of a sweep wait for each other through two queues of one place, and any of them may crash
or leave with keys still queued. Nevertheless the sweep ends. As long as it is not over one of its
parts can take its turn, because the end of a stage is noticed at the other end of its queue; and
every turn brings the end closer, except that each key of the scan adds the steps that the stages
owe to it. A finite scan adds only so many, and a sweep that was told to wind down takes up no key
at all.

So a sweep whose parts all get their turns, with a store that returns or crashes on every call, ends
with all of its tasks, whatever the store answers and however often the sweep is told to wind down
or dropped meanwhile.
-/

namespace KeySweeper

open Ledger

namespace Pipeline

variable {s : Settings} {p next : Pipeline} {move : Move} {shown : List Effect}

/-- Stages that were told to wind down take up no key of the scan, so that every step costs
effort. -/
theorem effort_step_of_cancelled (stepped : p.step? s move = some (next, shown))
    (inside : move ≠ .cancel) (told : p.control.cancelled = true) : next.effort < p.effort := by
  have spent := effort_step stepped inside
  cases steps_of_step? stepped with
  | scanned answer asking =>
    have before : p.scanner.effort = 1 := by rw [asking]; rfl
    have after : (Scanner.afterAnswer p.control.cancelled answer).effort = 0 := by
      rw [told]
      cases answer with
      | value result => cases result <;> rfl
      | failed cause => rfl
      | crashed text => rfl
    simp only [effort, before, after]
    omega
  | inspected answer key inspecting =>
    rw [calls_effects] at spent
    exact spent
  | deleted answer batch waiting deleting =>
    rw [calls_effects] at spent
    exact spent
  | cancelled => exact absurd rfl inside
  | _ => exact spent

/-- What stages can do without the store they can also do once they were told to wind down. -/
theorem possible_of_cancelled (inside : move.isInternal = true)
    (possible : (p.step? s move).isSome = true) :
    ({ p with control := p.control.cancel }.step? s move).isSome = true := by
  obtain ⟨⟨next, shown⟩, stepped⟩ := Option.isSome_iff_exists.mp possible
  cases steps_of_step? stepped with
  | candidateLost key offering reason => exact offerCandidate_possible offering (Or.inl rfl)
  | candidateSent key offering uncancelled live room =>
    exact offerCandidate_possible offering (Or.inl rfl)
  | candidateTaken key rest waiting queued =>
    exact takeCandidate_possible waiting (Or.inr ⟨key, rest, queued⟩)
  | candidatesEnded waiting queued halted => exact takeCandidate_possible waiting (Or.inl halted)
  | matchLost key offering gone => exact offerMatch_possible offering (Or.inl gone)
  | matchSent key offering live room => exact offerMatch_possible offering (Or.inr room)
  | matchTaken batch key rest collecting queued =>
    exact takeMatch_possible collecting (Or.inr ⟨key, rest, queued⟩)
  | matchesEnded batch collecting queued halted =>
    exact takeMatch_possible collecting (Or.inl halted)
  | _ => cases inside

/-- Both queues between the stages are closed: nobody sends into them any more, and nobody
receives. -/
structure IsClosed (p : Pipeline) : Prop where
  candidates : p.scanner.isLive = false ∧ p.filter.isLive = false
  matched : p.filter.isLive = false ∧ p.deleter.isLive = false

/-- Stages that are over have left their queues at both ends. -/
theorem closed_of_over (halted : ∀ stage, p.isLive stage = false) : p.IsClosed where
  candidates := ⟨halted .scanner, halted .filter⟩
  matched := ⟨halted .filter, halted .deleter⟩

end Pipeline

/-- The turns that the task which stands in for the driver has before it, those of the stages
aside. -/
def Releaser.ahead : Releaser → Nat
  | .joining rest => rest.length + 2
  | .releasing => 1
  | _ => 0

namespace Sweep

/-- Whether a move tells the sweep to wind down. -/
def Move.isTold : Move → Bool
  | .cancel => true
  | .stage .cancel => true
  | _ => false

/-- Whether a part of the sweep makes a move by itself. Being told to wind down and being dropped
come from outside. -/
def Move.isOwn : Move → Bool
  | .cancel => false
  | .stage .cancel => false
  | .drop _ => false
  | _ => true

/-- A bound on the turns that a sweep has before it, if its scan yields no other key: those of its
driver, of the releaser and of the stages, and one more as long as it can be dropped. -/
def ahead (sweep : Sweep) : Nat :=
  (!Sweeper.isOver sweep.driver).toNat + sweep.driver.ahead + sweep.releaser.ahead +
    sweep.work.ahead

/-- A part of a sweep can take its turn: it can move without the store, or waits for a call. -/
inductive IsReady (s : Settings) (sweep : Sweep) (part : Part) : Prop where
  /-- It can move. -/
  | move (move : Move) (inside : move ∈ part.internalMoves)
      (possible : (sweep.step? s move).isSome = true)
  /-- It waits for a call. -/
  | call (pending : (sweep.pending? s part).isSome = true)

variable {s : Settings} {sweep : Sweep} {move : Move} {progress : Progress}

/-- A call that a part waits for can come back with every answer, and the part goes on with it. -/
theorem answerable {part : Part} {event : StoreEvent}
    (pending : sweep.pending? s part = some event.call) :
    ∃ move progress, sweep.step? s move = some progress ∧ Answers s sweep move part event := by
  have waits := waits_of_pending? pending
  generalize called : event.call = call at waits
  cases waits with
  | checking now =>
    cases event with
    | checked key answer =>
      obtain rfl := StoreCall.check.inj called
      exact ⟨.guardChecked answer, _, by simp only [step?, now]; rfl, .checked answer now⟩
    | _ => cases called
  | marking now =>
    cases event with
    | written key value answer =>
      obtain ⟨rfl, rfl⟩ := StoreCall.write.inj called
      exact ⟨.guardMarked answer, _, by simp only [step?, now]; rfl, .written answer now⟩
    | _ => cases called
  | releasing now =>
    cases event with
    | deleted keys answer =>
      obtain rfl := StoreCall.delete.inj called
      exact ⟨.guardReleased answer .zero .epoch, _,
        by simp only [step?, now]; rfl, .released answer _ _ now⟩
    | _ => cases called
  | passed now =>
    cases event with
    | deleted keys answer =>
      obtain rfl := StoreCall.delete.inj called
      exact ⟨.releaserReleased answer, _, by simp only [step?, now]; rfl, .passed answer now⟩
    | _ => cases called
  | asking p running now =>
    cases event with
    | scanned pattern answer =>
      obtain rfl := StoreCall.scan.inj called
      exact ⟨.stage (.scanned answer), _, by simp only [step?, running, Pipeline.step?, now]; rfl,
        .scanned answer p running now⟩
    | _ => cases called
  | inspecting p key running now =>
    cases event with
    | inspected other answer =>
      obtain rfl := StoreCall.inspect.inj called
      exact ⟨.stage (.inspected answer), _,
        by simp only [step?, running, Pipeline.step?, now]; rfl,
        .inspected answer p other running now⟩
    | _ => cases called
  | deleting p batch waiting running now =>
    cases event with
    | deleted keys answer =>
      obtain rfl := StoreCall.delete.inj called
      exact ⟨.stage (.deleted answer), _, by simp only [step?, running, Pipeline.step?, now]; rfl,
        .deleted answer p keys waiting running now⟩
    | _ => cases called

/-- Where a sweep can go on, one of its parts can take its turn. -/
theorem CanGoOn.ready (able : sweep.CanGoOn s) : ∃ part, IsReady s sweep part := by
  cases able with
  | move part move inside possible => exact ⟨part, .move move inside possible⟩
  | call part pending => exact ⟨part, .call pending⟩

/-- Where its stages can go on, one of them can take its turn. -/
theorem ready_of_stages {p : Pipeline} (work : sweep.work = .running p) (able : p.CanGoOn s) :
    ∃ part, part.isStage = true ∧ IsReady s sweep part := by
  cases able with
  | move move inside possible =>
    refine ⟨move.part, ?_, .move (.stage move) (stage_mem_internalMoves.mpr ⟨inside, rfl⟩) ?_⟩
    · cases move <;> first | rfl | cases inside
    · simpa only [step?, work, Option.isSome_map] using possible
  | scan asking => exact ⟨.scanner, rfl, .call (by simp [pending?, scannerCall?, work, asking])⟩
  | inspect key inspecting =>
    exact ⟨.filter, rfl, .call (by simp [pending?, filterCall?, work, inspecting])⟩
  | delete batch waiting deleting =>
    exact ⟨.deleter, rfl, .call (by simp [pending?, deleterCall?, work, deleting])⟩

/-- The queues of a sweep have room for a key. -/
theorem queues_along {flag : Bool} {moves : List Move} {log : Chronicle}
    (ran : run? s (.claimed flag) moves = some (sweep, log)) {p : Pipeline}
    (work : sweep.work = .running p) :
    p.HasQueues := by
  have holds : HoldsOf (fun p _ => p.HasQueues) (stageCalls log) sweep.work :=
    (holds_along (fun _ => .fresh _) (fun _ _ _ _ _ queues stepped => queues.step stepped) ran).2
  exact holds.of_running work

/-- A task that waits for stages can go on: the next stage is over, or the stages themselves can go
on. -/
theorem goes_on_joining {p : Pipeline} {rest : List StageName}
    (place : sweep.driver = .joining rest ∧ sweep.releaser = .absent ∨
      sweep.driver = .dropped ∧ sweep.releaser = .joining rest)
    (work : sweep.work = .running p) (queues : p.HasQueues) : sweep.CanGoOn s := by
  cases rest with
  | nil =>
    obtain ⟨driver, -⟩ | ⟨-, releaser⟩ := place
    · exact .move .driver .proceed (by simp [Part.internalMoves])
        (by simp only [step?, driver, Option.isSome_some])
    · exact .move .releaser .releaserProceed (by simp [Part.internalMoves])
        (by simp only [step?, releaser, Option.isSome_some])
  | cons stage rest =>
    cases live : p.isLive stage with
    | true => exact .staged work (Pipeline.goes_on queues live)
    | false =>
      have ended : sweep.work.hasEnded stage = true := by simp [work, Work.hasEnded, live]
      obtain ⟨driver, -⟩ | ⟨-, releaser⟩ := place
      · exact .move .driver .join (by simp [Part.internalMoves])
          (by simp only [step?, driver, ended, if_true, Option.isSome_some])
      · exact .move .releaser .releaserJoin (by simp [Part.internalMoves])
          (by simp only [step?, releaser, ended, if_true, Option.isSome_some])

/-- In every state that can be reached from the claim on, a sweep can go on or is finished with all
its tasks. -/
theorem goes_on_or_finished {flag : Bool} {moves : List Move} {log : Chronicle}
    (ran : run? s (.claimed flag) moves = some (sweep, log)) :
    sweep.CanGoOn s ∨ sweep.IsFinished := by
  have passage := passage_along ran
  generalize moves.countP Move.issuesRelease = issued at passage
  cases passage with
  | before driver work releaser early =>
    rcases driver with opening | halted
    · left
      cases driver : sweep.driver with
      | unclaimed => exact absurd driver (Sweeper.claimed_along ran)
      | claimed =>
        exact .move .driver .begin List.mem_cons_self
          (by simp only [step?, driver, Option.isSome_some])
      | checking => exact .driver (by rw [driver]; rfl)
      | marking => exact .driver (by rw [driver]; rfl)
      | _ => rw [driver] at opening; cases opening
    · right
      obtain ⟨flag, waiting⟩ := work
      exact ⟨halted, by rw [releaser]; rfl,
        fun p running => by rw [waiting] at running; cases running⟩
  | during p rest place work joined entered =>
    exact Or.inl (goes_on_joining place work (queues_along ran work))
  | left p driver releaser work entered =>
    by_cases live : ∃ stage, p.isLive stage = true
    · obtain ⟨stage, live⟩ := live
      exact Or.inl (.staged work (Pipeline.goes_on (queues_along ran work) live))
    · right
      refine ⟨by rw [driver]; rfl, by rw [releaser]; rfl, fun q running stage => ?_⟩
      obtain rfl := Work.running.inj (work.symm.trans running)
      exact Bool.eq_false_iff.mpr fun now => live ⟨stage, now⟩
  | issued p place work quiet entered =>
    left
    obtain ⟨driver, -⟩ | ⟨-, releaser⟩ := place
    · exact .driver (by rw [driver]; rfl)
    · exact .call .releaser (by simp only [pending?, releaser, releaserCall?, Option.isSome_some])
  | closed p driver releaser work quiet release entered =>
    right
    refine ⟨?_, releaser, fun q running => ?_⟩
    · rcases driver with now | ⟨_, now⟩ | ⟨_, now⟩ <;> rw [now] <;> rfl
    · obtain rfl := Work.running.inj (work.symm.trans running)
      exact quiet

/-- Every turn brings a sweep closer to its end, up to the effort that its stages can gain in it. -/
theorem ahead_step (gain : Nat) (steps : Steps s sweep move progress)
    (worked : ∀ stageMove p next shown, move = .stage stageMove → sweep.work = .running p →
      p.step? s stageMove = some (next, shown) → stageMove ≠ .cancel →
      next.effort < p.effort + gain) :
    progress.sweep.ahead + (!move.isTold).toNat ≤ sweep.ahead + gain := by
  have told := sweep.work.ahead_cancel
  cases steps with
  | staged stageMove p next shown running stepped =>
    by_cases outside : stageMove = .cancel
    · subst outside
      obtain ⟨rfl, -⟩ := Pipeline.step_cancel stepped
      simp only [ahead, running, Work.ahead, Move.isTold, Bool.not_true, Bool.toNat_false]
      exact Nat.le_add_right _ gain
    · have spent := worked stageMove p next shown rfl running stepped outside
      have own : (!(Move.stage stageMove).isTold).toNat = 1 := by
        cases stageMove <;> first | rfl | exact absurd rfl outside
      simp only [ahead, running, Work.ahead, own]
      omega
  | acquired marking answer back =>
    simp only [ahead, marking, Driver.ahead, Work.ahead, Pipeline.effort_fresh, StageName.all,
      Sweeper.isOver,
      Move.isTold, List.length_cons, List.length_nil, Bool.not_false, Bool.toNat_true]
    omega
  | withdrawn opening canSpawn =>
    simp only [ahead, under_of_opening opening, Move.isTold, Bool.not_false, Bool.toNat_true]
    simp only [Driver.ahead, Sweeper.isOver, Bool.not_true, Bool.toNat_false]
    omega
  | cancelled =>
    simp only [ahead, told, Move.isTold, Bool.not_true, Bool.toNat_false]
    omega
  | _ =>
    simp_all only [ahead, Driver.ahead, Releaser.ahead, Sweeper.isOver, Move.isTold,
      List.length_cons,
      List.length_nil, Bool.not_true, Bool.not_false, Bool.toNat_true, Bool.toNat_false]
    omega

/-- Every turn brings a sweep closer to its end, up to seven steps for each key that the scan yields
in it. -/
theorem ahead_step_found (steps : Steps s sweep move progress) :
    progress.sweep.ahead + (!move.isTold).toNat ≤
      sweep.ahead + 7 * (found (stageCalls (entries move progress.effects))).length := by
  refine ahead_step _ steps ?_
  rintro stageMove p next shown rfl running stepped inside
  cases steps with
  | staged _ q after effects now made =>
    obtain rfl := Work.running.inj (running.symm.trans now)
    obtain ⟨rfl, rfl⟩ := Prod.mk.inj (Option.some.inj (stepped.symm.trans made))
    rw [stageCalls_staged stepped]
    exact Pipeline.effort_step stepped inside

/-- Being told to wind down only raises the flag. -/
theorem told_step (steps : Steps s sweep move progress) (told : move.isTold = true) :
    progress.sweep = { sweep with work := sweep.work.cancel } := by
  cases steps with
  | cancelled => rfl
  | staged stageMove p next shown running stepped =>
    cases stageMove with
    | cancel =>
      obtain ⟨rfl, -⟩ := Pipeline.step_cancel stepped
      rw [told_of_running running]
    | _ => cases told
  | _ => cases told

/-- Being told to wind down ends no stage. -/
theorem hasEnded_cancel (work : Work) (stage : StageName) :
    work.cancel.hasEnded stage = work.hasEnded stage := by
  cases work with
  | waiting flag => rfl
  | running p => cases stage <;> rfl

/-- Being told to wind down takes no call back. -/
theorem pending_cancel (part : Part) :
    pending? s { sweep with work := sweep.work.cancel } part = sweep.pending? s part := by
  cases part with
  | driver => rfl
  | releaser => rfl
  | scanner => simp only [pending?]; cases sweep.work <;> rfl
  | filter => simp only [pending?]; cases sweep.work <;> rfl
  | deleter => simp only [pending?]; cases sweep.work <;> rfl

/-- A part that can take its turn can still take it once the sweep was told to wind down. -/
theorem IsReady.told {part : Part} (ready : IsReady s sweep part) :
    IsReady s { sweep with work := sweep.work.cancel } part := by
  cases ready with
  | call pending =>
    refine .call ?_
    rw [pending_cancel]
    exact pending
  | move move inside possible =>
    refine .move move inside ?_
    obtain ⟨progress, made⟩ := Option.isSome_iff_exists.mp possible
    cases steps_of_step? made with
    | begun claimed => simp only [step?, claimed, Option.isSome_some]
    | joined stage rest joining ended =>
      simp only [step?, joining, hasEnded_cancel, ended, if_true, Option.isSome_some]
    | proceeded joining => simp only [step?, joining, Option.isSome_some]
    | releaserJoined stage rest joining ended =>
      simp only [step?, joining, hasEnded_cancel, ended, if_true, Option.isSome_some]
    | releaserProceeded joining => simp only [step?, joining, Option.isSome_some]
    | staged stageMove p next shown running stepped =>
      have internal := (stage_mem_internalMoves.mp inside).1
      have still := Pipeline.possible_of_cancelled internal (Option.isSome_of_eq_some stepped)
      simpa only [step?, told_of_running running, Option.isSome_map] using still
    | _ => cases part <;> simp [Part.internalMoves] at inside

/-- The parts of a sweep get their turns: a part that can take its turn all the time takes one at
last. A part that waits for the store can only take up an answer, so every store call returns or
crashes. -/
def IsFair (run : Unending (recorded? s)) : Prop :=
  ∀ part, run.IsFair (fun sweep => IsReady s sweep part) fun move => move.isOwn = true ∧
    move.part = part

section Unending

variable {run : Unending (recorded? s)} {flag : Bool} {moment : Nat}

/-- What the steps of a sweep pass on from some moment on lasts from that moment on. -/
theorem lasting_of_steps (holds : Sweep → Prop)
    (passedOn : ∀ later move sweep progress, moment ≤ later → run.made later = some move →
      Steps s sweep move progress → holds sweep → holds progress.sweep)
    (now : holds (run.state moment)) {later : Nat} (after : moment ≤ later) :
    holds (run.state later) := by
  refine run.lasting holds ?_ now after
  intro later move beyond made known
  obtain ⟨progress, stepped, next, -⟩ := recorded?_eq_some (run.moved later move made)
  rw [next]
  exact passedOn later move _ progress beyond made (steps_of_step? stepped) known

/-- A fair sweep that from some moment on is at most told to wind down has no part that could take
its turn then: such a part could still take it later, and would. -/
theorem not_ready_at_rest (fair : IsFair run)
    (rests : ∀ later move, moment ≤ later → run.made later = some move → move.isTold = true)
    (part : Part) :
    ¬ IsReady s (run.state moment) part := by
  intro ready
  have always (later : Nat) (after : moment ≤ later) : IsReady s (run.state later) part := by
    refine lasting_of_steps (fun sweep => IsReady s sweep part) ?_ ready after
    intro now move sweep progress beyond made steps ready
    rw [told_step steps (rests now move beyond made)]
    exact ready.told
  obtain ⟨later, move, after, made, own, -⟩ := fair part moment always
  have told := rests later move after made
  cases move with
  | stage stageMove =>
    cases stageMove with
    | cancel => cases own
    | _ => cases told
  | cancel => cases own
  | _ => cases told

/-- A fair sweep that is at most told to wind down from some moment on is finished then. -/
theorem finished_at_rest (begins : run.state 0 = .claimed flag) (fair : IsFair run)
    (rests : ∀ later move, moment ≤ later → run.made later = some move → move.isTold = true) :
    (run.state moment).IsFinished := by
  have reached := run.reached moment
  rw [begins] at reached
  refine (goes_on_or_finished reached).resolve_left fun able => ?_
  obtain ⟨part, ready⟩ := able.ready
  exact not_ready_at_rest fair rests part ready

/-- A fair sweep with a measure that falls with every move other than being told to wind down comes
to its end. -/
theorem finishes (moment : Nat) (begins : run.state 0 = .claimed flag) (fair : IsFair run)
    (measure : Nat → Nat)
    (still : ∀ later, moment ≤ later → run.made later = none → measure (later + 1) = measure later)
    (falls : ∀ later move, moment ≤ later → run.made later = some move →
      measure (later + 1) + (!move.isTold).toNat ≤ measure later) :
    ∃ last, ∀ later, last ≤ later → (run.state later).IsFinished := by
  obtain ⟨last, -, never⟩ := eventually_never measure
    (fun later => ∃ move, run.made later = some move ∧ move.isTold = false)
    (by
      intro later after
      cases made : run.made later with
      | none => exact Nat.le_of_eq (still later after made)
      | some move => exact Nat.le_of_add_right_le (falls later move after made))
    (by
      rintro later after ⟨move, made, own⟩
      have fallen := falls later move after made
      rw [own] at fallen
      exact fallen)
  refine ⟨last, fun later after => finished_at_rest begins fair fun next move beyond made => ?_⟩
  by_contra own
  exact never next (Nat.le_trans after beyond) ⟨move, made, by simpa using own⟩

/-- A fair sweep comes to its end if its scan is finite: the keys that the scan has yet to yield
count for the steps that the stages owe to them. -/
theorem finishes_of_finite (begins : run.state 0 = .claimed flag) (fair : IsFair run) {bound : Nat}
    (finite : ∀ moment, (found (stageCalls (run.log moment))).length ≤ bound) :
    ∃ last, ∀ later, last ≤ later → (run.state later).IsFinished := by
  refine finishes 0 begins fair (fun moment =>
    (run.state moment).ahead + 7 * (bound - (found (stageCalls (run.log moment))).length)) ?_ ?_
  · intro moment _ made
    obtain ⟨same, silent⟩ := run.still moment made
    simp only [same, run.log_succ, silent, List.append_nil]
  · intro moment move _ made
    obtain ⟨progress, stepped, next, shown⟩ := recorded?_eq_some (run.moved moment move made)
    have closer := ahead_step_found (steps_of_step? stepped)
    have within := finite (moment + 1)
    rw [run.log_succ, stageCalls_append, found_append, List.length_append] at within ⊢
    rw [next]
    rw [shown] at within ⊢
    omega

/-- A fair sweep comes to its end once it was told to wind down, whatever its scan has yet to
yield. -/
theorem finishes_of_cancelled (begins : run.state 0 = .claimed flag) (fair : IsFair run)
    (told : (run.state moment).work.isCancelled = true) :
    ∃ last, ∀ later, last ≤ later → (run.state later).IsFinished := by
  refine finishes moment begins fair (fun moment => (run.state moment).ahead) ?_ ?_
  · intro later _ made
    rw [(run.still later made).1]
  · intro later move after made
    have still : (run.state later).work.isCancelled = true :=
      lasting_of_steps (fun sweep => sweep.work.isCancelled = true)
        (fun _ _ _ _ _ _ steps told => cancelled_step steps told) told after
    obtain ⟨progress, stepped, next, -⟩ := recorded?_eq_some (run.moved later move made)
    rw [next]
    refine ahead_step 0 (steps_of_step? stepped) ?_
    intro stageMove p onward shown _ running inner outside
    rw [running] at still
    exact Pipeline.effort_step_of_cancelled inner outside still

/-- A fair sweep over a finite scan, or told to wind down at some moment, is finished with all its
tasks from some moment on. -/
theorem finished_at_last (begins : run.state 0 = .claimed flag) (fair : IsFair run)
    (ends : (∃ bound, ∀ moment, (found (stageCalls (run.log moment))).length ≤ bound) ∨
      ∃ moment, (run.state moment).work.isCancelled = true) :
    ∃ last, ∀ later, last ≤ later → (run.state later).IsFinished := by
  rcases ends with ⟨bound, finite⟩ | ⟨moment, told⟩
  · exact finishes_of_finite begins fair finite
  · exact finishes_of_cancelled begins fair told

/-- A fair sweep that nobody drops, over a finite scan or told to wind down at some moment, comes to
an outcome. -/
theorem outcome_at_last (begins : run.state 0 = .claimed flag) (fair : IsFair run)
    (kept : ∀ moment canSpawn, run.made moment ≠ some (.drop canSpawn))
    (ends : (∃ bound, ∀ moment, (found (stageCalls (run.log moment))).length ≤ bound) ∨
      ∃ moment, (run.state moment).work.isCancelled = true) :
    ∃ outcome last, ∀ later, last ≤ later → (run.state later).driver = .finished outcome := by
  obtain ⟨last, finished⟩ := finished_at_last begins fair ends
  have driven : (run.state last).driver ≠ .dropped := by
    refine lasting_of_steps (fun sweep => sweep.driver ≠ .dropped) ?_ ?_ (Nat.zero_le last)
    · intro moment move sweep progress _ made steps driven dropped
      rcases dropped_of_step steps dropped with before | ⟨canSpawn, rfl⟩
      · exact driven before
      · exact kept moment canSpawn made
    · rw [begins]
      exact Driver.noConfusion
  obtain ⟨outcome, reported⟩ : ∃ outcome, (run.state last).driver = .finished outcome := by
    have halted := (finished last (Nat.le_refl last)).driver
    cases driver : (run.state last).driver with
    | finished outcome => exact ⟨outcome, rfl⟩
    | dropped => exact absurd driver driven
    | _ => rw [driver] at halted; cases halted
  refine ⟨outcome, last, fun later after => ?_⟩
  refine lasting_of_steps (fun sweep => sweep.driver = .finished outcome) ?_ reported after
  intro moment move sweep progress _ _ steps now
  rw [driver_of_over steps (by rw [now]; rfl)]
  exact now

end Unending

/-- A finished sweep that started its stages was dropped, or has waited for all of them and come
behind the release of the guard. -/
theorem Passage.outcome_of_finished {past : List (Part × StoreEvent)} {issued : Nat}
    (passage : Passage s sweep past issued) (finished : sweep.IsFinished) {p : Pipeline}
    (work : sweep.work = .running p) :
    sweep.driver = .dropped ∨ (∃ report, sweep.driver = .finished (.completed report)) ∨
      ∃ text, sweep.driver = .finished (.crashed text) := by
  have halted := finished.driver
  have free := finished.releaser
  cases passage with
  | before driver waiting =>
    obtain ⟨flag, waiting⟩ := waiting
    cases waiting.symm.trans work
  | during q rest place =>
    obtain ⟨driver, -⟩ | ⟨-, releaser⟩ := place
    · rw [driver] at halted; cases halted
    · rw [releaser] at free; cases free
  | left q driver => exact Or.inl driver
  | issued q place =>
    obtain ⟨driver, -⟩ | ⟨-, releaser⟩ := place
    · rw [driver] at halted; cases halted
    · rw [releaser] at free; cases free
  | closed q driver => exact driver

/-- The stages of a sweep cannot block each other, and the sweep always comes to its end, whatever
the store answers, wherever stages crash and however the parts of the sweep interleave:

* in every state with a stage at work one of the stages can take its turn, by a move of its own or
  by the answer to its call, and a call can be answered in any way;
* every step of a stage lowers the measure made of the effort of the stages and seven for each key
  that the scan has yet to yield, and once the sweep was told to wind down it lowers the effort
  alone;
* a sweep whose parts get their turns, over a scan that yields only so many keys or told to wind
  down at some moment, has from some moment on no stage and no other task at work, both queues are
  closed at both ends, and its driver, unless it was dropped, has waited for all stages and come
  behind the release of the guard. -/
theorem stages_always_end (s : Settings) (flag : Bool) :
    (∀ moves sweep log p stage, run? s (.claimed flag) moves = some (sweep, log) →
      sweep.work = .running p →
      p.isLive stage = true → ∃ part, part.isStage = true ∧ IsReady s sweep part) ∧
    (∀ sweep part event, pending? s sweep part = some event.call →
      ∃ move progress, sweep.step? s move = some progress ∧ Answers s sweep move part event) ∧
    (∀ (p next : Pipeline) move shown, p.step? s move = some (next, shown) → move ≠ .cancel →
      (∀ unseen, next.effort + 7 * unseen < p.effort + 7 *
        (unseen + (found (calls shown)).length)) ∧
      (p.control.cancelled = true → next.effort < p.effort)) ∧
    ∀ run : Unending (recorded? s), run.state 0 = .claimed flag → IsFair run →
      ((∃ bound, ∀ moment, (found (stageCalls (run.log moment))).length ≤ bound) ∨
        ∃ moment, (run.state moment).work.isCancelled = true) →
      ∃ last, ∀ later, last ≤ later → (run.state later).IsFinished ∧
        ∀ p, (run.state later).work = .running p → p.IsClosed ∧
          ((run.state later).driver = .dropped ∨
            (∃ report, (run.state later).driver = .finished (.completed report)) ∨
            ∃ text, (run.state later).driver = .finished (.crashed text)) := by
  refine ⟨?_, fun sweep part event => answerable, ?_, ?_⟩
  · intro moves sweep log p stage ran work live
    exact ready_of_stages work (Pipeline.goes_on (queues_along ran work) live)
  · intro p next move shown stepped inside
    refine ⟨fun unseen => ?_, Pipeline.effort_step_of_cancelled stepped inside⟩
    have spent := Pipeline.effort_step stepped inside
    omega
  · intro run begins fair ends
    obtain ⟨last, finished⟩ := finished_at_last begins fair ends
    refine ⟨last, fun later after => ⟨finished later after, fun p work => ?_⟩⟩
    have reached := run.reached later
    rw [begins] at reached
    have halted := finished later after
    exact ⟨Pipeline.closed_of_over (halted.stages p work),
      (passage_along reached).outcome_of_finished halted work⟩

/-- Nobody has anything to do in a finished sweep. -/
theorem not_ready_of_finished (finished : sweep.IsFinished) (part : Part) :
    ¬ IsReady s sweep part := by
  have halted := finished.driver
  have free := finished.releaser
  intro ready
  cases ready with
  | call pending =>
    obtain ⟨call, pending⟩ := Option.isSome_iff_exists.mp pending
    have waits := waits_of_pending? pending
    cases stage : part.isStage with
    | true =>
      obtain ⟨p, name, running, live⟩ := live_of_waits waits stage
      rw [finished.stages p running name] at live
      cases live
    | false =>
      cases waits with
      | checking now => rw [now] at halted; cases halted
      | marking now => rw [now] at halted; cases halted
      | releasing now => rw [now] at halted; cases halted
      | passed now => rw [now] at free; cases free
      | _ => cases stage
  | move move inside possible =>
    obtain ⟨progress, made⟩ := Option.isSome_iff_exists.mp possible
    cases steps_of_step? made with
    | begun claimed => rw [claimed] at halted; cases halted
    | joined stage rest joining ended => rw [joining] at halted; cases halted
    | proceeded joining => rw [joining] at halted; cases halted
    | releaserJoined stage rest joining ended => rw [joining] at free; cases free
    | releaserProceeded joining => rw [joining] at free; cases free
    | staged stageMove p next shown running stepped =>
      have internal := (stage_mem_internalMoves.mp inside).1
      obtain ⟨mover, moved⟩ := Pipeline.mover_of_step stepped (by rintro rfl; cases internal)
      exact absurd ((finished.stages p running mover).symm.trans moved.live) Bool.false_ne_true
    | _ => cases part <;> simp [Part.internalMoves] at inside

/-- An execution that ends with a finished sweep is fair. -/
theorem isFair_ending {flag : Bool} {moves : List Move} {log : Chronicle}
    (ran : run? s (.claimed flag) moves = some (sweep, log)) (finished : sweep.IsFinished) :
    IsFair (Unending.ending ran) :=
  fun part => Unending.ending_isFair ran (not_ready_of_finished finished part)

/-- An execution that ends has a finite scan. -/
theorem finite_ending {flag : Bool} {moves : List Move} {log : Chronicle}
    (ran : run? s (.claimed flag) moves = some (sweep, log)) (moment : Nat) :
    (found (stageCalls ((Unending.ending ran).log moment))).length ≤
      (found (stageCalls log)).length := by
  obtain ⟨rest, whole⟩ := Unending.ending_log ran moment
  have parts := congrArg (fun log => (found (stageCalls log)).length) whole
  simp only [stageCalls_append, found_append, List.length_append] at parts ⊢
  omega

/-- The sweep that finds one key, up to its report. -/
def oneKeyReported : List Move :=
  oneKey ++ [.join, .join, .join, .proceed, .guardReleased (.value 1) .zero .epoch]

/-- The sweep that finds one key is fair and has a finite scan, so it comes to its end. -/
theorem stages_always_end_one :
    ∃ run : Unending (recorded? (.ofPattern "a*" 10)), run.state 0 = .claimed false ∧ IsFair run ∧
      (∃ bound, ∀ moment, (found (stageCalls (run.log moment))).length ≤ bound) ∧
      ∃ last, ∀ later, last ≤ later → (run.state later).IsFinished := by
  obtain ⟨sweep, log, ran, finished⟩ : ∃ sweep log,
      run? (.ofPattern "a*" 10) (.claimed false) oneKeyReported = some (sweep, log) ∧
      sweep.IsFinished := by
    refine ⟨_, _, rfl, rfl, rfl, ?_⟩
    rintro p same stage
    obtain rfl := Work.running.inj same
    cases stage <;> rfl
  have fair := isFair_ending ran finished
  have finite : ∃ bound, ∀ moment,
      (found (stageCalls ((Unending.ending ran).log moment))).length ≤ bound :=
        ⟨_, finite_ending ran⟩
  obtain ⟨last, comes⟩ :=
    (stages_always_end (.ofPattern "a*" 10) false).2.2.2 (Unending.ending ran) rfl fair
      (Or.inl finite)
  exact ⟨Unending.ending ran, rfl, fair, finite, last, fun later after => (comes later after).1⟩

end Sweep

end KeySweeper
