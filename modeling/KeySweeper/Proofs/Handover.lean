import KeySweeper.Proofs.Joining

/-!
# The stages are handed over without loss

The loop that joins the stages poll by poll is the sweep itself, seen from closer up. Every
execution of the loop is an execution of the sweep, in which noting a stage is the move that waits
for it, and up to the release of the guard the sweep has no others, if it is dropped only while it
waits for a stage.

The loop comes to its end. The runtime may hold up its polls and other tasks may move in between,
but once the stages have ended each of its turns takes it closer to the release of the guard, and
nothing takes it away from there.
-/

namespace KeySweeper.Joining

open Sweep (entries joinLines crashNotes)

variable {s : Settings} {j next : Joining} {move : Move} {shown events : List Event}
  {moves : List Move} {flag : Bool}

/-! ### What it means for the sweep -/

/-- How a sweep comes to its stages. -/
def acquisition : List Sweep.Move :=
  [.begin, .guardChecked (.value false), .guardMarked (.value ())]

/-- What it has shown then. -/
def acquired (s : Settings) : Sweep.Chronicle :=
  [(.driver, .called (.checked s.guardKey (.value false))),
    (.driver, .called (.written s.guardKey Guard.mark (.value ()))),
    (.driver, .logged (Sweep.startLine s))]

/-- A sweep that has acquired the guard has just started its stages. -/
theorem acquisition_opens (s : Settings) (flag : Bool) :
    Sweep.run? s (.claimed flag) acquisition = some ((Joining.opened flag).toSweep, acquired s) :=
  rfl

@[simp] theorem work_toSweep (j : Joining) : j.toSweep.work = j.work := by
  obtain ⟨work, caller, handles, place⟩ := j
  cases caller <;> rfl

/-- What the stages do is the same for the sweep. -/
theorem toSweep_worked (j : Joining) (work : Work) :
    toSweep { j with work } = { j.toSweep with work } := by
  obtain ⟨before, caller, handles, place⟩ := j
  cases caller <;> rfl

/-- Each step is a step of the sweep that shows the same, or changes nothing about the sweep. -/
theorem coarse_step (stands : Stands j.work j.caller j.handles j.place)
    (steps : Steps s j move next shown) :
    ∃ coarse, Sweep.run? s j.toSweep coarse = some (next.toSweep, chronicle shown) := by
  have unmoved (same : j.toSweep = next.toSweep) (silent : chronicle shown = []) :
      ∃ coarse, Sweep.run? s j.toSweep coarse = some (next.toSweep, chronicle shown) :=
    ⟨[], by rw [← same, silent]; rfl⟩
  have moved (coarse : Sweep.Move) (progress : Sweep.Progress)
    (made : j.toSweep.step? s coarse = some progress)
      (same : progress.sweep = next.toSweep) (seen : entries coarse progress.effects =
        chronicle shown) :
      ∃ coarse, Sweep.run? s j.toSweep coarse = some (next.toSweep, chronicle shown) := by
    refine ⟨[coarse], ?_⟩
    rw [Sweep.run?, Execution.run?_singleton, Sweep.recorded?, made, Option.map_some, same, seen]
  cases steps with
  | staged stageMove p after effects running stepped =>
    refine moved (.stage stageMove) ⟨{ j.toSweep with work := .running after }, effects, none⟩ ?_
      (toSweep_worked j _).symm (chronicle_shown _).symm
    simp only [Sweep.step?, work_toSweep, running, stepped, Option.map_some]
  | told =>
    refine moved .cancel ⟨{ j.toSweep with work := j.work.cancel }, [], none⟩ ?_
      (toSweep_worked j _).symm rfl
    simp only [Sweep.step?, work_toSweep]
  | emptied granted looking none =>
    refine unmoved ?_ rfl
    simp [toSweep, unjoined, looking]
  | misused granted first rest polls handles spent =>
    cases spent.symm.trans (stands.unspent_first polls handles)
  | waited granted first rest polls handles held =>
    refine unmoved ?_ rfl
    rcases polls with now | now <;> simp [toSweep, unjoined, now]
  | answered granted first rest polls handles unspent ended =>
    refine unmoved ?_ rfl
    rcases polls with now | now <;> simp [toSweep, unjoined, now, handles]
  | removed crash first rest answered handles =>
    refine unmoved ?_ rfl
    simp [toSweep, unjoined, answered, handles]
  | noted stage crash unnoted =>
    rw [unnoted] at stands
    obtain ⟨joins, stages, -, ended, result⟩ := stands.noting
    have same : crashLines stage crash = joinLines j.work stage := by rw [result, crashLines_crash?]
    rcases joins with own | own
    · refine moved .join
        ⟨⟨.joining (j.handles.map (·.stage)), j.work, .absent⟩,
          (joinLines j.work stage).map .logged, none⟩ ?_ ?_ ?_
      · simp [Sweep.step?, toSweep, unjoined, own, unnoted, ended]
      · simp [toSweep, unjoined, own]
      · rw [chronicle_shown, own, same]
        rfl
    · refine moved .releaserJoin
        ⟨⟨.dropped, j.work, .joining (j.handles.map (·.stage))⟩,
          (joinLines j.work stage).map .logged, none⟩ ?_ ?_ ?_
      · simp [Sweep.step?, toSweep, unjoined, own, unnoted, ended]
      · simp [toSweep, unjoined, own]
      · rw [chronicle_shown, own, same]
        rfl
  | turned through own =>
    rw [through] at stands
    refine moved .proceed ⟨⟨.releasing, j.work.cancel, .absent⟩, [], some .drain⟩ ?_ ?_ rfl
    · simp [Sweep.step?, toSweep, unjoined, own, through, stands.behind]
    · simp [toSweep]
  | begun through second =>
    rw [through] at stands
    rcases second with own | own
    · refine unmoved ?_ rfl
      simp [toSweep, own]
    · refine moved .releaserProceed ⟨⟨.dropped, j.work, .releasing⟩, [], none⟩ ?_ ?_ rfl
      · simp [Sweep.step?, toSweep, unjoined, own, through, stands.behind]
      · simp [toSweep, own]
  | passedOn suspended own =>
    rw [suspended] at stands
    have driven := stands.dropped own
    refine moved (.drop true) ⟨⟨.dropped, j.work.cancel, .joining (j.handles.map (·.stage))⟩, [],
      none⟩ ?_ ?_ rfl
    · simp [Sweep.step?, Sweep.afterDrop?, toSweep, unjoined, driven, suspended]
    · simp [toSweep, unjoined]
  | left suspended own =>
    rw [suspended] at stands
    have driven := stands.dropped own
    refine moved (.drop false)
      ⟨⟨.dropped, j.work.cancel, .absent⟩, [.logged (Sweep.guardLeftLine s)], none⟩ ?_ ?_ rfl
    · simp [Sweep.step?, Sweep.afterDrop?, toSweep, unjoined, driven, suspended]
    · simp [toSweep]

/-- Every execution of the loop is one of the sweep, which shows the same. -/
theorem coarse_along (ran : run? s (.opened flag) moves = some (j, events)) :
    ∃ coarse, Sweep.run? s (.claimed flag) (acquisition ++ coarse) =
      some (j.toSweep, acquired s ++ chronicle events) := by
  refine Execution.induction_along (motive := fun _ j events => ∃ coarse,
    Sweep.run? s (.claimed flag) (acquisition ++ coarse) = some (j.toSweep,
      acquired s ++ chronicle events)) ?_ ?_ ran
  · refine ⟨[], ?_⟩
    rw [List.append_nil]
    exact acquisition_opens s flag
  · intro moves move mid before next shown reached inductionHypothesis stepped
    obtain ⟨coarse, led⟩ := inductionHypothesis
    obtain ⟨onward, made⟩ := coarse_step (account_along reached).stands (steps_of_step? stepped)
    refine ⟨coarse ++ onward, ?_⟩
    rw [← List.append_assoc, chronicle_append, ← List.append_assoc]
    exact Execution.run?_append_iff.mpr ⟨_, _, _, led, made, rfl⟩

/-- The loop between two moves of the sweep. -/
inductive Rests : Joining → Prop where
  /-- It looks for the first handle. -/
  | joining (work : Work) (caller : Caller) (rest : List StageName) (joins : caller = .run ∨
      caller = .spawned) :
      Rests ⟨work, caller, fresh rest, .looking⟩
  /-- The sweep is about to release the guard. -/
  | closing (work : Work) : Rests ⟨work, .release, [], .looking⟩
  /-- The spawned task releases the guard. -/
  | releasing (work : Work) : Rests ⟨work, .spawned, [], .releasing⟩
  /-- Nobody took the list. -/
  | left (work : Work) (rest : List StageName) : Rests ⟨work, .nobody, fresh rest, .halted⟩

/-- The moves of a sweep that joins its stages, up to the release of the guard. It is suspended, and
so can be dropped, only as long as there is a stage to wait for. -/
def Covers (sweep : Sweep) : Sweep.Move → Prop
  | .drop _ => ∃ stage rest, sweep.driver = .joining (stage :: rest)
  | .guardReleased .. => False
  | .releaserReleased _ => False
  | _ => True

@[simp] theorem stages_fresh (rest : List StageName) : (fresh rest).map (·.stage) = rest := by
  simp only [fresh, List.map_map, Function.comp_def, List.map_id']

/-- A sweep that waits for stages is in the loop. -/
theorem Rests.of_joining (rests : Rests j) {rest : List StageName}
    (joining : j.toSweep.driver = .joining rest) :
    ∃ work, j = ⟨work, .run, fresh rest, .looking⟩ := by
  cases rests with
  | joining work caller stages joins =>
    rcases joins with rfl | rfl
    · simp only [toSweep, unjoined, stages_fresh, List.nil_append, Driver.joining.injEq] at joining
      exact ⟨work, by rw [joining]⟩
    · cases joining
  | _ => cases joining

/-- A task that waits for stages in place of the sweep is in the loop. -/
theorem Rests.of_passed (rests : Rests j) {rest : List StageName}
    (joining : j.toSweep.releaser = .joining rest) :
    ∃ work, j = ⟨work, .spawned, fresh rest, .looking⟩ := by
  cases rests with
  | joining work caller stages joins =>
    rcases joins with rfl | rfl
    · cases joining
    · simp only [toSweep, unjoined, stages_fresh, List.nil_append, reduceCtorEq, if_false,
        Releaser.joining.injEq] at joining
      exact ⟨work, by rw [joining]⟩
  | _ => cases joining

/-- The loop joins a stage that has ended in three turns. -/
theorem run?_join (work : Work) (caller : Caller) (rest : List StageName) {stage : StageName}
    (ended : work.hasEnded stage = true) :
    run? s ⟨work, caller, fresh (stage :: rest), .looking⟩ [.poll true, .remove, .note] =
      some (⟨work, caller, fresh rest, .looking⟩, .completed caller stage ::
        (entries caller.joinMove ((joinLines work stage).map .logged)).map .shown) := by
  simp [run?, Execution.run?, step?, afterPoll, fresh, ended, crashLines_crash?]

/-- The loop rests whatever the stages do. -/
theorem Rests.worked (rests : Rests j) (work : Work) : Rests { j with work } := by
  cases rests with
  | joining before caller rest joins => exact .joining work caller rest joins
  | closing => exact .closing work
  | releasing => exact .releasing work
  | left before rest => exact .left work rest

/-- Each move of a sweep that joins its stages is made by the loop, which shows the same. -/
theorem fine_step {coarse : Sweep.Move} {progress : Sweep.Progress} (rests : Rests j)
    (made : j.toSweep.step? s coarse = some progress) (covered : Covers j.toSweep coarse) :
    ∃ moves next shown, run? s j moves = some (next, shown) ∧ Rests next ∧
      next.toSweep = progress.sweep ∧ chronicle shown = entries coarse progress.effects := by
  have driven : Sweeper.isOver j.toSweep.driver = true ∨ j.toSweep.driver = .releasing ∨
      ∃ rest, j.toSweep.driver = .joining rest := by
    cases rests with
    | joining work caller rest joins =>
      rcases joins with rfl | rfl <;> simp [toSweep, Sweeper.isOver]
    | _ => simp [toSweep, Sweeper.isOver]
  cases Sweep.steps_of_step? made with
  | staged stageMove p after effects running stepped =>
    rw [work_toSweep] at running
    refine ⟨[.stage stageMove], { j with work := .running after }, _, ?_, rests.worked _,
      toSweep_worked j _, chronicle_shown _⟩
    rw [run?, Execution.run?_singleton]
    simp only [step?, running, stepped, Option.map_some]
  | cancelled =>
    refine ⟨[.cancel], { j with work := j.work.cancel }, [], rfl, rests.worked _, ?_, rfl⟩
    rw [toSweep_worked, work_toSweep]
  | joined stage rest joining ended =>
    obtain ⟨work, rfl⟩ := rests.of_joining joining
    exact ⟨_, _, _, run?_join work .run rest ended, .joining work .run rest (Or.inl rfl),
      by simp [toSweep, unjoined], chronicle_shown _⟩
  | proceeded joining =>
    obtain ⟨work, rfl⟩ := rests.of_joining joining
    exact ⟨[.poll true, .proceed], ⟨work.cancel, .release, [], .looking⟩, [], rfl,
      .closing _, rfl, rfl⟩
  | passedOn rest joining =>
    obtain ⟨stage, others, waits⟩ := covered
    obtain ⟨work, rfl⟩ := rests.of_joining waits
    refine ⟨[.poll false, .drop true], ⟨work.cancel, .spawned, fresh (stage :: others), .looking⟩,
      [], rfl, .joining _ _ _ (Or.inr rfl), ?_, rfl⟩
    simpa [toSweep, unjoined] using joining
  | left rest joining =>
    obtain ⟨stage, others, waits⟩ := covered
    obtain ⟨work, rfl⟩ := rests.of_joining waits
    exact ⟨[.poll false, .drop false], ⟨work.cancel, .nobody, fresh (stage :: others), .halted⟩, _,
      rfl, .left _ _, rfl, rfl⟩
  | releaserJoined stage rest joining ended =>
    obtain ⟨work, rfl⟩ := rests.of_passed joining
    exact ⟨_, _, _, run?_join work .spawned rest ended, .joining work .spawned rest (Or.inr rfl),
      by simp [toSweep, unjoined], chronicle_shown _⟩
  | releaserProceeded joining =>
    obtain ⟨work, rfl⟩ := rests.of_passed joining
    exact ⟨[.poll true, .proceed], ⟨work, .spawned, [], .releasing⟩, [.released .spawned], rfl,
      .releasing _, rfl, rfl⟩
  | completed => cases covered
  | releaseCrashed => cases covered
  | releaserEnded => cases covered
  | abandoned releasing canSpawn =>
    obtain ⟨stage, rest, joining⟩ := covered
    cases releasing.symm.trans joining
  | withdrawn opening canSpawn =>
    obtain ⟨stage, rest, joining⟩ := covered
    rw [joining] at opening
    cases opening
  | _ => simp_all [Sweeper.isOver]

/-- Every execution of a sweep that joins its stages, up to the release of the guard, is one of the
loop, which shows the same. -/
theorem fine_along {coarse : List Sweep.Move} {sweep : Sweep} {log : Sweep.Chronicle}
    (ran : Sweep.run? s (Joining.opened flag).toSweep coarse = some (sweep, log))
    (covered : ∀ first move rest mid before, coarse = first ++ move :: rest →
      Sweep.run? s (Joining.opened flag).toSweep first = some (mid, before) → Covers mid move) :
    ∃ moves j events, run? s (.opened flag) moves = some (j, events) ∧ Rests j ∧ j.toSweep = sweep ∧
      chronicle events = log := by
  refine Execution.induction_along (motive := fun coarse sweep log =>
    (∀ first move rest mid before, coarse = first ++ move :: rest →
      Sweep.run? s (Joining.opened flag).toSweep first = some (mid, before) → Covers mid move) →
    ∃ moves j events, run? s (.opened flag) moves = some (j, events) ∧ Rests j ∧ j.toSweep = sweep ∧
      chronicle events = log) ?_ ?_ ran covered
  · exact fun _ => ⟨[], .opened flag, [], rfl, .joining _ .run StageName.all (Or.inl rfl), rfl, rfl⟩
  · intro earlier move mid before next shown reached inductionHypothesis stepped covered
    obtain ⟨moves, j, events, led, rests, rfl, rfl⟩ :=
      inductionHypothesis fun first other rest mid before split =>
      covered first other (rest ++ [move]) mid before
        (by rw [split, List.append_assoc, List.cons_append])
    obtain ⟨progress, made, rfl, rfl⟩ := Sweep.recorded?_eq_some stepped
    obtain ⟨onward, last, seen, went, still, same, told⟩ :=
      fine_step rests made (covered earlier move [] _ _ rfl reached)
    refine ⟨moves ++ onward, last, events ++ seen, ?_, still, same, ?_⟩
    · exact Execution.run?_append_iff.mpr ⟨j, events, seen, led, went, rfl⟩
    · rw [chronicle_append, told]

/-! ### The loop comes to its end -/

/-- Whether a move is one of the task that runs the loop, not held up by the runtime. -/
def Move.isTurn : Move → Bool
  | .poll granted => granted
  | .remove => true
  | .note => true
  | .proceed => true
  | _ => false

/-- The task that runs the loop can take its turn. -/
def CanTurn (s : Settings) (j : Joining) : Prop :=
  ∃ move, move.isTurn = true ∧ (step? s j move).isSome = true

/-- The task that runs the loop gets its turns. -/
def IsFair (run : Unending (step? s)) : Prop :=
  run.IsFair (CanTurn s) fun move => move.isTurn = true

/-- A bound on the turns that the loop takes from a place on, with so many handles on the list. -/
def Place.cost (handles : Nat) : Place → Nat
  | .looking => 4 * handles + 2
  | .suspended => 4 * handles + 1
  | .answered _ => 4 * handles
  | .unnoted _ _ => 4 * handles + 3
  | .through => 1
  | .releasing => 0
  | .halted => 0

/-- A bound on the turns until the release of the guard begins. The sweep goes through the loop
twice. -/
def remaining (j : Joining) : Nat :=
  j.place.cost j.handles.length + if j.caller = .run then 2 else 0

/-- No step takes the loop away from its end, and each turn takes it closer once the stages have
ended. -/
theorem remaining_step (stands : Stands j.work j.caller j.handles j.place)
    (steps : Steps s j move next shown) :
    next.remaining ≤ j.remaining ∧
      (move.isTurn = true → (∀ stage, j.work.hasEnded stage = true) →
        next.remaining < j.remaining) := by
  cases steps with
  | staged => exact ⟨Nat.le_refl _, nofun⟩
  | told => exact ⟨Nat.le_refl _, nofun⟩
  | emptied granted looking none => simp [remaining, looking, none, Place.cost]
  | misused granted first rest polls handles spent =>
    rcases polls with now | now <;> simp [remaining, now, handles, Place.cost]
  | waited granted first rest polls handles held =>
    refine ⟨?_, fun turn ended => ?_⟩
    · rcases polls with now | now <;> simp [remaining, now, handles, Place.cost]
    · cases (held turn).symm.trans (ended first.stage)
  | answered granted first rest polls handles unspent ended =>
    rcases polls with now | now <;> simp [remaining, now, handles, Place.cost]
  | removed crash first rest answered handles =>
    simp only [remaining, answered, handles, Place.cost, List.length_cons]
    omega
  | noted stage crash unnoted => simp [remaining, unnoted, Place.cost]
  | turned through own =>
    rw [through] at stands
    simp [remaining, through, own, stands.behind, Place.cost]
  | begun through second => simp [remaining, through, Place.cost]
  | passedOn suspended own =>
    rw [suspended] at stands
    refine ⟨?_, nofun⟩
    simp [remaining, suspended, stands.dropped own, Place.cost]
  | left suspended own =>
    refine ⟨?_, nofun⟩
    simp [remaining, suspended, Place.cost]

/-- Nobody runs the loop only if the sweep was dropped where no task can be spawned. -/
theorem nobody_of_step (steps : Steps s j move next shown) (now : next.caller = .nobody) :
    j.caller = .nobody ∨ move = .drop false := by
  cases steps with
  | turned => cases now
  | passedOn => cases now
  | left => exact Or.inr rfl
  | _ => exact Or.inl now

/-- The release of the guard is the end of the loop. -/
theorem releasing_step (steps : Steps s j move next shown) (now : j.place = .releasing) :
    next.place = .releasing := by
  cases steps <;> simp_all

/-- Before its end the loop can go on. -/
theorem goes_on (stands : Stands j.work j.caller j.handles j.place) (somebody : j.caller ≠ .nobody)
    (unfinished : j.place ≠ .releasing) : CanTurn s j := by
  obtain ⟨work, caller, handles, place⟩ := j
  cases stands with
  | looking _ rest => exact ⟨.poll true, rfl, by cases rest <;> rfl⟩
  | suspended _ stage rest => exact ⟨.poll true, rfl, rfl⟩
  | answered _ stage rest crash => exact ⟨.remove, rfl, rfl⟩
  | unnoted _ stage rest crash => exact ⟨.note, rfl, rfl⟩
  | through =>
    refine ⟨.proceed, rfl, ?_⟩
    cases caller with
    | nobody => exact absurd rfl somebody
    | _ => rfl
  | releasing => exact absurd rfl unfinished
  | left => exact absurd rfl somebody

/-- When the guard is being released the loop has no turn left. -/
theorem not_canTurn_of_releasing (releasing : j.place = .releasing) : ¬ CanTurn s j := by
  rintro ⟨move, turn, possible⟩
  obtain ⟨⟨next, shown⟩, made⟩ := Option.isSome_iff_exists.mp possible
  cases steps_of_step? made <;> simp_all [Move.isTurn]

variable {run : Unending (step? s)} {moment later : Nat}

/-- A move made at some moment leads to the next state. -/
theorem steps_at (made : run.made moment = some move) :
    Steps s (run.state moment) move (run.state (moment + 1)) (run.shown moment) :=
  steps_of_step? (run.moved moment move made)

/-- Somebody runs the loop all the time, if a task takes the list when the sweep is dropped. -/
theorem somebody_at (begins : run.state 0 = .opened flag)
    (spawns : ∀ moment, run.made moment ≠ some (.drop false)) :
    (run.state moment).caller ≠ .nobody := by
  refine run.lasting (fun j => j.caller ≠ .nobody) ?_ (by rw [begins]; exact nofun)
    (Nat.zero_le moment)
  intro later move _ made somebody nobody
  rcases nobody_of_step (steps_at made) nobody with before | rfl
  · exact somebody before
  · exact spawns later made

/-- Stages that have ended stay so. -/
theorem ended_after (ended : ∀ stage, (run.state moment).work.hasEnded stage = true)
    (after : moment ≤ later) :
    ∀ stage, (run.state later).work.hasEnded stage = true := by
  refine run.lasting (fun j => ∀ stage, j.work.hasEnded stage = true) ?_ ended after
  intro now move _ made ended stage
  obtain ⟨called, onward⟩ := workStep_of_steps (steps_at made)
  exact (Sweep.ended_step onward (ended stage)).1

/-- A release that has begun goes on. -/
theorem releasing_after (releasing : (run.state moment).place = .releasing)
    (after : moment ≤ later) :
    (run.state later).place = .releasing := by
  refine run.lasting (fun j => j.place = .releasing) ?_ releasing after
  intro now move _ made releasing
  exact releasing_step (steps_at made) releasing

/-- If the task that runs the loop gets its turns, the stages end, and a task takes the list if the
sweep is dropped, then the release of the guard begins.

Proof: otherwise the loop could go on all the time and would take turns again and again, and from
the moment on at which the stages have ended each of them takes it closer to its end. -/
theorem released_at_last (begins : run.state 0 = .opened flag) (fair : IsFair run)
    (spawns : ∀ moment, run.made moment ≠ some (.drop false))
    (ended : ∀ stage, (run.state moment).work.hasEnded stage = true) :
    ∃ last, (run.state last).place = .releasing := by
  have stands (later : Nat) := (account_along (begins ▸ run.reached later)).stands
  by_contra unfinished
  push Not at unfinished
  have falls (later : Nat) (_ : moment ≤ later) :
      (run.state (later + 1)).remaining ≤ (run.state later).remaining := by
    cases made : run.made later with
    | none => exact Nat.le_of_eq (congrArg remaining (run.still later made).1)
    | some move => exact (remaining_step (stands later) (steps_at made)).1
  obtain ⟨last, -, never⟩ := eventually_never (fun later => (run.state later).remaining)
    (fun later => ∃ move, run.made later = some move ∧ move.isTurn = true) falls
    (by
      rintro later after ⟨move, made, turn⟩
      exact (remaining_step (stands later) (steps_at made)).2 turn (ended_after ended after))
  obtain ⟨later, move, after, made, turn⟩ :=
    fair last fun later _ => goes_on (stands later) (somebody_at begins spawns) (unfinished later)
  exact never later after ⟨move, made, turn⟩

/-- The stages of a sweep are handed over without loss when it is dropped while it joins them. In
every execution of the loop, in whatever order the stages end, whichever of them crash, and wherever
the sweep is dropped:

* the handles that have given their results, and those on the list that have not, are all handles in
  the order of the stages, so each gives its result once, to the sweep or to the spawned task; its
  stage had ended then, and none was polled behind its result;
* the crashes of the stages whose handles have given their results were noted in this order, each by
  one line, except that the last one may still have to be noted;
* the release of the guard begins only when the list is empty, all handles have given their results
  and all crashes are noted;
* the execution is one of the sweep, which shows the same.

If the task that runs the loop gets its turns, the stages end and a task takes the list when the
sweep is dropped, all this comes about: from some moment on the guard is being released, all handles
have given their results and all crashes are noted.

And in every execution of a sweep the stages that its two tasks have waited for are the first ones,
in order, each once; those still waited for are the others; the crashes of the former, which have
ended, are noted each by one line in this order; and a deletion of the guard is issued only once all
stages were waited for. -/
theorem stages_joined_once (s : Settings) (flag : Bool) :
    (∀ moves j events, run? s (.opened flag) moves = some (j, events) →
      completed events ++ j.unspent = StageName.all ∧
      (∀ stage ∈ completed events, j.work.hasEnded stage = true) ∧
      (∀ caller stage, .misused caller stage ∉ events) ∧
      crashNotes (chronicle events) ++ j.unnoted = (completed events).flatMap (joinLines j.work) ∧
      (∀ move next shown caller, step? s j move = some (next, shown) → .released caller ∈ shown →
        j.handles = [] ∧ completed events = StageName.all ∧
          crashNotes (chronicle events) = StageName.all.flatMap (joinLines j.work)) ∧
      ∃ coarse, Sweep.run? s (.claimed flag) (acquisition ++ coarse) =
        some (j.toSweep, acquired s ++ chronicle events)) ∧
    (∀ run : Unending (step? s), run.state 0 = .opened flag → IsFair run →
      (∀ moment, run.made moment ≠ some (.drop false)) →
      (∃ moment, ∀ stage, (run.state moment).work.hasEnded stage = true) →
      ∃ last, ∀ later, last ≤ later → (run.state later).place = .releasing ∧
        completed (run.log later) = StageName.all ∧
        crashNotes (chronicle (run.log later)) =
          StageName.all.flatMap (joinLines (run.state later).work)) ∧
    ∀ moves sweep log, Sweep.run? s (.claimed flag) moves = some (sweep, log) →
      (∃ rest, Sweep.joins s flag moves ++ rest = StageName.all ∧
        ∀ others, sweep.awaited? = some others → others = rest) ∧
      (∀ stage ∈ Sweep.joins s flag moves, sweep.work.hasEnded stage = true) ∧
      crashNotes log = (Sweep.joins s flag moves).flatMap (joinLines sweep.work) ∧
      ∀ move progress, sweep.step? s move = some progress → move.issuesRelease = true →
        Sweep.joins s flag moves = StageName.all := by
  refine ⟨?_, ?_, ?_⟩
  · intro moves j events ran
    have account := account_along ran
    refine ⟨account.exact, account.ended, account.sound, account.notes, ?_, coarse_along ran⟩
    intro move next shown caller made shows
    exact account.released (steps_of_step? made) shows
  · rintro run begins fair spawns ⟨moment, ended⟩
    obtain ⟨last, releases⟩ := released_at_last begins fair spawns ended
    refine ⟨last, fun later after => ?_⟩
    have now := releasing_after releases after
    have account := account_along (begins ▸ run.reached later)
    have stands := account.stands
    rw [now] at stands
    exact ⟨now, account.complete stands.closed (by simp only [unnoted, now])⟩
  · intro moves sweep log ran
    have joined := Sweep.joined_along ran
    exact ⟨joined.split, joined.ended, joined.notes, fun move progress =>
      Sweep.joins_of_release ran⟩

/-- A sweep whose scanner crashes. It has joined the scanner and is suspended at the filter when it
is dropped, and the spawned task joins the filter and the deleter. -/
def handedOver : List Move :=
  [.stage (.scanned (.crashed "boom")), .poll false, .poll true, .remove, .note, .poll true,
    .drop true, .poll false,
    .stage .takeCandidate, .stage .takeMatch, .poll true, .remove, .note, .poll true, .remove,
    .note, .poll true,
    .proceed]

/-- The sweep gets the result of the scanner, and the spawned task gets those of the others and
releases the guard. The crash of the scanner is noted once. -/
theorem stages_joined_once_handed_over :
    ∃ run : Unending (step? (.ofPattern "a*" 10)), run.state 0 = .opened false ∧ IsFair run ∧
      (∀ moment, run.made moment ≠ some (.drop false)) ∧
      (∃ moment, ∀ stage, (run.state moment).work.hasEnded stage = true) ∧
      (∃ last, ∀ later, last ≤ later → completed (run.log later) = StageName.all) ∧
      ∃ j events, run? (.ofPattern "a*" 10) (.opened false) handedOver = some (j, events) ∧
        List.Sublist [.completed .run .scanner, .completed .spawned .filter,
          .completed .spawned .deleter, .released .spawned] events ∧
        crashNotes (chronicle events) = [Sweep.stageCrashLine .scanner "boom"] ∧
        ∃ coarse, Sweep.run? (.ofPattern "a*" 10) (.claimed false) (acquisition ++ coarse) =
            some (j.toSweep, acquired (.ofPattern "a*" 10) ++ chronicle events) ∧
          Sweep.joins (.ofPattern "a*" 10) false (acquisition ++ coarse) = StageName.all := by
  obtain ⟨j, events, ran, releasing, unspent, unnoted, awaited, quiet, crashes, shown⟩ : ∃ j events,
      run? (.ofPattern "a*" 10) (.opened false) handedOver = some (j, events) ∧
        j.place = .releasing ∧ j.unspent = [] ∧ j.unnoted = [] ∧ j.toSweep.awaited? = some [] ∧
        (∀ stage, j.work.hasEnded stage = true) ∧
        (∀ stage, j.work.crash? stage = if stage = .scanner then some "boom" else none) ∧
        List.Sublist [.completed .run .scanner, .completed .spawned .filter,
          .completed .spawned .deleter, .released .spawned] events := by
    refine ⟨_, _, rfl, rfl, rfl, rfl, rfl, ?_, ?_, ?_⟩
    · intro stage
      cases stage <;> rfl
    · intro stage
      cases stage <;> rfl
    · decide
  obtain ⟨safe, lives, sweeps⟩ := stages_joined_once (.ofPattern "a*" 10) false
  have fair : IsFair (Unending.ending ran) :=
    Unending.ending_isFair ran (not_canTurn_of_releasing releasing)
  have spawns (moment : Nat) : (Unending.ending ran).made moment ≠ some (.drop false) := by
    intro made
    exact absurd (List.mem_of_getElem? made) (by decide)
  have last : (Unending.ending ran).state handedOver.length = j :=
    Unending.ending_state ran (Nat.le_refl _)
  have ended : ∃ moment, ∀ stage, ((Unending.ending ran).state moment).work.hasEnded stage = true :=
    ⟨handedOver.length, by rw [last]; exact quiet⟩
  obtain ⟨moment, comes⟩ := lives (Unending.ending ran) rfl fair spawns ended
  obtain ⟨whole, -, -, notes, -, coarse, led⟩ := safe handedOver j events ran
  obtain ⟨⟨rest, split, same⟩, -⟩ := sweeps (acquisition ++ coarse) _ _ led
  rw [← same [] awaited, List.append_nil] at split
  refine ⟨Unending.ending ran, rfl, fair, spawns, ended,
    ⟨moment, fun later after => (comes later after).2.1⟩,
    j, events, ran, shown, ?_, coarse, led, split⟩
  rw [unspent, List.append_nil] at whole
  rw [unnoted, List.append_nil, whole] at notes
  simp [notes, StageName.all, Sweep.joinLines_eq, crashes]

end KeySweeper.Joining
