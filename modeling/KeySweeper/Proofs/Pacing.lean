import Mathlib.Data.List.Chain
import KeySweeper.Proofs.Outcome
import KeySweeper.Proofs.Shutdown

/-!
# The pace of a schedule

How a schedule goes on whatever becomes of its sweeps. It asks for its first sweep as soon as it may
move, and for the next one only after the one before has come out and given up its claim. However
late a tick is noticed, and however long a sweep took, the tick after it is planned for a full
period after that moment, or for a period after the planned one if that was missed by no more than
the tolerance; so two sweeps are asked for a period apart, less the tolerance. Sweeps that complete,
that find the sweeper or the guard busy or that fail leave the schedule waiting. It ends when its
flag is raised, or with a sweep of its own that crashes, and then no sweep of its own is under way
and the guard of each was released.

The runtime's ticker is given by its period, which is the interval asked for unless the timer of the
runtime does not wait that long. Its ticks are planned on the clock of the schedule, so that a start
is spaced from the next one only if a period later is still on the clock.
-/

namespace KeySweeper

namespace Schedule

/-- One moment is a period after another, less the tolerance, unless that is beyond the clock. -/
def Apart (period earlier later : Nat) : Prop :=
  earlier + period ≤ lastMoment → earlier + period ≤ later + tolerance

/-- The next tick is planned for a period after a moment, or a little earlier. -/
def PlannedAfter (s : Schedule) (moment : Nat) : Prop :=
  moment + s.period ≤ lastMoment →
    moment + s.period ≤ s.next + tolerance ∧ s.next ≤ moment + s.period

variable {s : Schedule} {now moment : Nat}

/-- The tick after one that is noticed now is planned for a period from now. -/
theorem plannedAfter_tick (positive : 0 < s.period) (due : s.isDue now = true) :
    (s.tick now).PlannedAfter now := by
  have come : min s.next lastMoment ≤ now := of_decide_eq_true due
  intro onClock
  have kept : (s.tick now).period = s.period := rfl
  rw [kept] at onClock ⊢
  have planned : (s.tick now).next = s.following now := rfl
  rw [planned, following]
  split <;> omega

/-- A tick that has come is noticed a period after the sweep before it was asked for. -/
theorem apart_of_due (planned : s.PlannedAfter moment) (due : s.isDue now = true) :
    Apart s.period moment now := by
  have come : min s.next lastMoment ≤ now := of_decide_eq_true due
  intro onClock
  have bounds := planned onClock
  omega

/-- A tick comes at the latest when its moment is there. -/
theorem isDue_of_dueMoment_le (there : s.dueMoment ≤ now) : s.isDue now = true :=
  decide_eq_true there

/-- If the timer of the runtime can wait for the interval, the ticks are the interval apart. -/
theorem periodOf_eq {interval : Nat}
    (short : Duration.ofSeconds (effectiveInterval interval) ≤ Duration.longestWait) :
    periodOf interval = 1000 * max 1 interval := by
  rw [periodOf, Duration.awaited_of_le short]
  simp only [Duration.millis, Duration.ofSeconds, Duration.perSecond, Duration.perMilli,
    effectiveInterval]
  omega

end Schedule

/-- Only being asked for and being started adds a sweep. -/
theorem Sweeper.length_of_steps {c next : Sweeper} {inner : Sweeper.Move} {shown : Sweeper.Log}
    (steps : Sweeper.Steps c inner next shown) :
    next.engagements.length = c.engagements.length ∨
      next.engagements.length = c.engagements.length + 1 ∧
        ((∃ caller, inner = .request caller) ∨ inner = .start) := by
  cases steps with
  | requested caller => exact Or.inr ⟨by simp, Or.inl ⟨caller, rfl⟩⟩
  | started slot free => exact Or.inr ⟨by simp, Or.inr rfl⟩
  | stopped =>
    refine Or.inl ?_
    simp only [stop]
    split
    · rfl
    · simp
  | flagged caller => exact Or.inl (by simp [cancelCaller])
  | _ => exact Or.inl (by simp [replace])

namespace Process

variable {p next : Process} {move : Move} {shown : Sweeper.Log} {index : Nat}
  {outcome : SweepOutcome}

/-- A sweep has come out in some way and has given up its claim. -/
def CameOut (p : Process) (index : Nat) (outcome : SweepOutcome) : Prop :=
  ∃ e, p.engagement? index = some e ∧ e.sweep.driver = .finished outcome ∧ e.claim = none

/-- A sweep was asked for by the schedule. -/
def Scheduled (p : Process) (index : Nat) : Prop :=
  index < p.workplace.sweeper.engagements.length ∧ index ∉ p.demanded

/-! ### What has come out, and who is waited for -/

/-- What has come out stays as it is. -/
theorem CameOut.step (cameOut : p.CameOut index outcome) (steps : Steps p move next shown) :
    next.CameOut index outcome := by
  obtain ⟨e, present, finished, free⟩ := cameOut
  rcases sweeper_of_steps steps with ⟨same, -⟩ | ⟨inner, made, -, -⟩
  · exact ⟨e, (congrArg (·.engagements[index]?) same).trans present, finished, free⟩
  · obtain ⟨after, there, fate⟩ := Sweeper.persists made present
    have halted : Sweeper.isOver e.sweep.driver = true := by rw [finished]; rfl
    refine ⟨after, there, ?_⟩
    generalize Sweeper.chronicle index shown = entries at fate
    cases fate with
    | spared => exact ⟨finished, free⟩
    | told => exact ⟨finished, free⟩
    | admitted flag e slot unclaimed => cases unclaimed.symm.trans finished
    | refused flag e unclaimed => cases unclaimed.symm.trans finished
    | moved own e progress moved =>
      exact ⟨(Sweep.driver_of_over (Sweep.steps_of_step? moved) halted).trans finished, free⟩
    | gaveUp => exact ⟨finished, rfl⟩

/-- A sweep more was either started on demand or is the one that the schedule waits for from now
on. -/
theorem length_of_steps (steps : Steps p move next shown) :
    next.workplace.sweeper.engagements.length = p.workplace.sweeper.engagements.length ∨
      next.workplace.sweeper.engagements.length = p.workplace.sweeper.engagements.length + 1 ∧
        (p.workplace.sweeper.engagements.length ∈ next.demanded ∨
          next.awaited = some p.workplace.sweeper.engagements.length) := by
  have still {inner : Sweeper.Move} {c : Sweeper} {entries : Sweeper.Log}
      (made : Sweeper.Steps p.workplace.sweeper inner c entries)
      (settled : inner ≠ .start ∧ ∀ caller, inner ≠ .request caller) :
      c.engagements.length = p.workplace.sweeper.engagements.length := by
    refine (Sweeper.length_of_steps made).resolve_right ?_
    rintro ⟨-, ⟨caller, same⟩ | same⟩
    · exact settled.2 caller same
    · exact settled.1 same
  cases steps with
  | turned turn task workplace shown taken =>
    cases Workplace.turns_of_step? taken with
    | own inner silent sweeper entries made =>
      refine Or.inl (still made ⟨?_, ?_⟩)
      · rintro rfl
        cases task
      · rintro caller rfl
        cases task
    | called other part mishap e call sweeper entries present pending made =>
      exact Or.inl (still made ⟨Sweeper.Move.noConfusion, fun _ => Sweeper.Move.noConfusion⟩)
    | others command => exact Or.inl rfl
  | claimed other workplace shown taken =>
    cases Workplace.turns_of_step? taken with
    | own inner silent sweeper entries made =>
      exact Or.inl (still made ⟨Sweeper.Move.noConfusion, fun _ => Sweeper.Move.noConfusion⟩)
  | ticked waiting workplace shown taken =>
    cases Workplace.turns_of_step? taken with
    | own inner silent sweeper entries made =>
      cases made
      exact Or.inr ⟨List.length_append .., Or.inr rfl⟩
  | signalled serving workplace shown taken =>
    cases Workplace.turns_of_step? taken with
    | own inner silent sweeper entries made =>
      exact Or.inl (still made ⟨Sweeper.Move.noConfusion, fun _ => Sweeper.Move.noConfusion⟩)
  | answered now request serving =>
    simp only [Process.answered]
    have ways := Admin.handled p.workplace.sweeper now request
    generalize Admin.handle p.workplace.sweeper now request = reply at ways
    cases ways with
    | aside response => exact Or.inl rfl
    | stopped response asked =>
      exact Or.inl (still .stopped ⟨Sweeper.Move.noConfusion, fun _ => Sweeper.Move.noConfusion⟩)
    | started response begun free =>
      have made : p.workplace.sweeper.recorded? .start = some (begun, []) := by
        simp only [Sweeper.recorded?, free, Option.map_some, Sweeper.Move.entries]
      cases Sweeper.steps_of_recorded? made with
      | started slot room => exact Or.inr ⟨List.length_append .., Or.inl (by simp)⟩
  | _ => exact Or.inl rfl

/-- A sweep that the schedule asked for is never taken for one on demand. -/
theorem Scheduled.step (scheduled : p.Scheduled index) (steps : Steps p move next shown) :
    next.Scheduled index := by
  obtain ⟨inside, undemanded⟩ := scheduled
  have longer := length_of_steps steps
  refine ⟨by omega, ?_⟩
  cases steps with
  | answered now request serving =>
    simp only [Process.answered]
    have ways := Admin.handled p.workplace.sweeper now request
    generalize Admin.handle p.workplace.sweeper now request = reply at ways
    cases ways with
    | started response begun free =>
      simp only [Option.toList_some, List.mem_append, List.mem_singleton]
      rintro (before | rfl)
      · exact undemanded before
      · exact Nat.lt_irrefl _ inside
    | _ => simpa using undemanded
  | _ => exact undemanded

/-- What a move is for the schedule. -/
inductive Pace (p next : Process) : Prop where
  /-- Nothing, except that time may pass. -/
  | steady (schedule : next.schedule = p.schedule) (awaited : next.awaited = p.awaited)
      (clock : p.clock ≤ next.clock)
  /-- Its tick has come, and it asks for a sweep. -/
  | started (waiting : p.schedule.state = .waiting) (due : p.schedule.isDue p.clock = true)
      (schedule : next.schedule = p.schedule.tick p.clock)
      (awaited : next.awaited = some p.workplace.sweeper.engagements.length)
      (added : next.Scheduled p.workplace.sweeper.engagements.length) (clock : next.clock = p.clock)
  /-- It learns how its sweep came out. -/
  | returned (index : Nat) (outcome : SweepOutcome) (awaits : p.awaited = some index)
      (cameOut : p.CameOut index outcome) (schedule : next.schedule = p.schedule.afterSweep outcome)
      (awaited : next.awaited = none) (clock : next.clock = p.clock)
  /-- It ends. -/
  | stopped (waiting : p.schedule.state = .waiting) (raised : p.raised = true)
      (schedule : next.schedule = { p.schedule with state := .over })
      (awaited : next.awaited = p.awaited) (clock : next.clock = p.clock)

/-- Every move is one of these for the schedule. -/
theorem pace_of_step? (order : Order p) (stepped : p.step? move = some (next, shown)) :
    Pace p next := by
  obtain ⟨going, steps⟩ := steps_of_step? stepped
  cases steps with
  | ticked waiting workplace shown taken =>
    have due : p.schedule.isDue p.clock = true := by
      simp only [step?, going, Bool.false_eq_true, if_false, advance?, tick?] at stepped
      split at stepped
      · next ready => exact ready.2
      · cases stepped
    refine .started waiting due rfl rfl ⟨?_, ?_⟩ rfl
    · cases Workplace.turns_of_step? taken with
      | own inner silent sweeper entries made =>
        cases made
        simp
    · intro demand
      exact Nat.lt_irrefl _ (order.known _ demand)
  | delivered index e outcome awaits present finished =>
    simp only [step?, going, Bool.false_eq_true, if_false, advance?] at stepped
    obtain ⟨found, known, -⟩ := Option.map_eq_some_iff.mp stepped
    obtain ⟨other, f, waits, there, came, free⟩ := outcome?_eq_some known
    obtain rfl := Option.some.inj (awaits.symm.trans waits)
    obtain rfl := Option.some.inj (present.symm.trans there)
    exact .returned index outcome awaits ⟨e, present, finished, free⟩ rfl rfl rfl
  | quitted waiting raised => exact .stopped waiting raised rfl rfl rfl
  | elapsed millis => exact .steady rfl rfl (Nat.le_add_right ..)
  | answered now request serving => exact .steady rfl rfl (Nat.le_refl _)
  | _ => exact .steady rfl rfl (Nat.le_refl _)

/-- A sweep of the schedule was one before, or it is the one that the schedule waits for from now
on. -/
theorem scheduled_before (steps : Steps p move next shown) (scheduled : next.Scheduled index) :
    p.Scheduled index ∨ next.awaited = some index := by
  obtain ⟨inside, undemanded⟩ := scheduled
  have kept := (kept_of_steps steps).2
  by_cases known : index < p.workplace.sweeper.engagements.length
  · exact Or.inl ⟨known, fun demand => undemanded (kept index demand)⟩
  · rcases length_of_steps steps with same | ⟨longer, added⟩
    · omega
    · obtain rfl : index = p.workplace.sweeper.engagements.length := by omega
      exact Or.inr (added.resolve_left undemanded)

/-! ### The pace along an execution -/

/-- The moments at which the schedule asked for a sweep. -/
def starts : Process → List Move → List Nat :=
  Execution.readings step? fun before after =>
    if before.schedule.state = .waiting ∧ after.schedule.state = .sweeping then
      [before.clock] else []

/-- How a schedule has gone on so far, with the moments at which it asked for sweeps. -/
structure Paced (period : Nat) (p : Process) (begun : List Nat) : Prop where
  /-- The period is the one it was opened with. -/
  kept : p.schedule.period = period
  /-- Sweeps were asked for a period apart. -/
  spaced : begun.IsChain (Schedule.Apart period)
  /-- The next tick is planned for a period after the last one. -/
  planned : ∀ moment ∈ begun.getLast?, p.schedule.PlannedAfter moment
  /-- The first tick needs no time to pass. -/
  fresh : begun = [] → p.schedule.next = 0 ∧ p.schedule.state ≠ .sweeping
  /-- While its sweep is under way, it waits for one that it asked for. -/
  asked : p.schedule.state = .sweeping → ∃ index, p.awaited = some index ∧ p.Scheduled index
  /-- All the others have come out. -/
  returned : ∀ index, p.Scheduled index → p.awaited = some index ∨
    ∃ outcome, p.CameOut index outcome
  /-- It ends with its flag or with a sweep that crashes. -/
  ended : p.schedule.state = .over → p.raised = true ∨
    ∃ index why, p.Scheduled index ∧ p.CameOut index (.crashed why)

variable {period : Nat} {begun : List Nat}

/-- A schedule that is opened has asked for nothing. -/
theorem Paced.opened (s : Settings) (store : Store) :
    Paced period (.openedEvery s store period) [] where
  kept := rfl
  spaced := .nil
  planned := by simp
  fresh _ := ⟨rfl, Schedule.State.noConfusion⟩
  asked := Schedule.State.noConfusion
  returned index scheduled := absurd scheduled.1 (Nat.not_lt_zero index)
  ended := Schedule.State.noConfusion

/-- What has come out, and the sweeps of the schedule, are kept by every move. -/
theorem Paced.returned_step (paced : Paced period p begun) (steps : Steps p move next shown)
    (scheduled : next.Scheduled index) (other : p.awaited ≠ some index) :
    next.awaited = some index ∨ ∃ outcome, next.CameOut index outcome := by
  rcases scheduled_before steps scheduled with before | now
  · obtain ⟨outcome, cameOut⟩ := (paced.returned index before).resolve_left other
    exact Or.inr ⟨outcome, cameOut.step steps⟩
  · exact Or.inl now

/-- A sweep of the schedule that has crashed stays one. -/
theorem crashed_step (steps : Steps p move next shown)
    (crashed : ∃ index why, p.Scheduled index ∧ p.CameOut index (.crashed why)) :
    ∃ index why, next.Scheduled index ∧ next.CameOut index (.crashed why) := by
  obtain ⟨index, why, scheduled, cameOut⟩ := crashed
  exact ⟨index, why, scheduled.step steps, cameOut.step steps⟩

/-- A move that is nothing for the schedule keeps its pace. -/
theorem Paced.steady_step (paced : Paced period p begun) (steps : Steps p move next shown)
    (schedule : next.schedule = p.schedule) (awaited : next.awaited = p.awaited) :
    Paced period next begun where
  kept := by
    rw [schedule]
    exact paced.kept
  spaced := paced.spaced
  planned := by
    rw [schedule]
    exact paced.planned
  fresh := by
    rw [schedule]
    exact paced.fresh
  asked := by
    rw [schedule, awaited]
    intro sweeping
    obtain ⟨index, awaits, scheduled⟩ := paced.asked sweeping
    exact ⟨index, awaits, scheduled.step steps⟩
  returned := by
    intro index scheduled
    by_cases awaits : p.awaited = some index
    · exact Or.inl (awaited.trans awaits)
    · exact paced.returned_step steps scheduled awaits
  ended := by
    rw [schedule]
    exact fun halted => (paced.ended halted).imp (kept_of_steps steps).1 (crashed_step steps)

/-- A tick that has come adds its moment, which is a period behind the last one by the plan that
this one left. -/
theorem Paced.started_step (paced : Paced period p begun) (order : Order p) (positive : 0 < period)
    (steps : Steps p move next shown) (waiting : p.schedule.state = .waiting)
    (due : p.schedule.isDue p.clock = true) (schedule : next.schedule = p.schedule.tick p.clock)
    (awaited : next.awaited = some p.workplace.sweeper.engagements.length)
    (added : next.Scheduled p.workplace.sweeper.engagements.length) :
    Paced period next (begun ++ [p.clock]) where
  kept := by
    rw [schedule]
    exact paced.kept
  spaced := by
    refine paced.spaced.append (List.isChain_singleton _) ?_
    intro earlier last later first
    obtain rfl : p.clock = later := by simpa using first
    exact paced.kept ▸ Schedule.apart_of_due (paced.planned earlier last) due
  planned := by
    intro moment last
    obtain rfl : p.clock = moment := by simpa using last
    rw [schedule]
    exact Schedule.plannedAfter_tick (by rw [paced.kept]; exact positive) due
  fresh := by
    intro none
    simp at none
  asked _ := ⟨_, awaited, added⟩
  returned := by
    have idle : p.awaited = none :=
      order.resting (by rw [waiting]; exact Schedule.State.noConfusion)
    intro index scheduled
    exact paced.returned_step steps scheduled (by rw [idle]; exact nofun)
  ended := by
    rw [schedule]
    exact Schedule.State.noConfusion

/-- A sweep that comes out leaves the plan as it is. -/
theorem Paced.delivered_step {outcome : SweepOutcome} (paced : Paced period p begun)
    (steps : Steps p move next shown) (sweeping : p.schedule.state = .sweeping)
    (awaits : p.awaited = some index) (cameOut : p.CameOut index outcome)
    (schedule : next.schedule = p.schedule.afterSweep outcome) : Paced period next begun := by
  have plan : next.schedule.period = p.schedule.period ∧ next.schedule.next = p.schedule.next ∧
      next.schedule.state ≠ .sweeping := by
    rw [schedule]
    cases outcome <;> exact ⟨rfl, rfl, Schedule.State.noConfusion⟩
  refine ⟨plan.1.trans paced.kept, paced.spaced, ?_, ?_, fun again => absurd again plan.2.2, ?_, ?_⟩
  · intro moment last
    simp only [Schedule.PlannedAfter, plan.1, plan.2.1]
    exact paced.planned moment last
  · intro none
    exact absurd sweeping (paced.fresh none).2
  · intro other scheduled
    by_cases same : p.awaited = some other
    · obtain rfl := Option.some.inj (awaits.symm.trans same)
      exact Or.inr ⟨outcome, cameOut.step steps⟩
    · exact paced.returned_step steps scheduled same
  · intro halted
    obtain ⟨other, waits, scheduled⟩ := paced.asked sweeping
    obtain rfl := Option.some.inj (awaits.symm.trans waits)
    cases outcome with
    | crashed why => exact Or.inr ⟨index, why, scheduled.step steps, cameOut.step steps⟩
    | _ =>
      rw [schedule] at halted
      cases halted

/-- A schedule that ends because of its flag leaves its plan as it is. -/
theorem Paced.stopped_step (paced : Paced period p begun) (order : Order p)
    (steps : Steps p move next shown) (waiting : p.schedule.state = .waiting)
    (raised : p.raised = true)
    (schedule : next.schedule = { p.schedule with state := .over }) : Paced period next begun where
  kept := by
    rw [schedule]
    exact paced.kept
  spaced := paced.spaced
  planned := by
    rw [schedule]
    exact paced.planned
  fresh := by
    intro none
    rw [schedule]
    exact ⟨(paced.fresh none).1, Schedule.State.noConfusion⟩
  asked := by
    rw [schedule]
    exact Schedule.State.noConfusion
  returned := by
    have idle : p.awaited = none :=
      order.resting (by rw [waiting]; exact Schedule.State.noConfusion)
    intro index scheduled
    exact paced.returned_step steps scheduled (by rw [idle]; exact nofun)
  ended _ := Or.inl ((kept_of_steps steps).1 raised)

/-- Every move keeps the pace. A move that asks for a sweep adds its moment to those before.

Proof: by what the move is for the schedule; only a tick that has come asks for a sweep. -/
theorem Paced.step (paced : Paced period p begun) (order : Order p) (positive : 0 < period)
    (stepped : p.step? move = some (next, shown)) :
    Paced period next (begun ++
      if p.schedule.state = .waiting ∧ next.schedule.state = .sweeping then [p.clock] else []) := by
  have steps := (steps_of_step? stepped).2
  cases pace_of_step? order stepped with
  | steady schedule awaited clock =>
    have quiet : ¬ (p.schedule.state = .waiting ∧ next.schedule.state = .sweeping) := by
      rw [schedule]
      rintro ⟨waiting, sweeping⟩
      cases waiting.symm.trans sweeping
    rw [if_neg quiet, List.append_nil]
    exact paced.steady_step steps schedule awaited
  | started waiting due schedule awaited added clock =>
    have sweeping : next.schedule.state = .sweeping := by rw [schedule]; rfl
    rw [if_pos ⟨waiting, sweeping⟩]
    exact paced.started_step order positive steps waiting due schedule awaited added
  | returned index outcome awaits cameOut schedule awaited clock =>
    have sweeping : p.schedule.state = .sweeping := by
      by_contra resting
      cases awaits.symm.trans (order.resting resting)
    have quiet : ¬ (p.schedule.state = .waiting ∧ next.schedule.state = .sweeping) := by
      rintro ⟨waiting, -⟩
      cases waiting.symm.trans sweeping
    rw [if_neg quiet, List.append_nil]
    exact paced.delivered_step steps sweeping awaits cameOut schedule
  | stopped waiting raised schedule awaited clock =>
    have quiet : ¬ (p.schedule.state = .waiting ∧ next.schedule.state = .sweeping) := by
      rw [schedule]
      rintro ⟨-, sweeping⟩
      cases sweeping
    rw [if_neg quiet, List.append_nil]
    exact paced.stopped_step order steps waiting raised schedule

/-- A schedule keeps its pace in all states of its process. -/
theorem paced_along {s : Settings} {store : Store} {moves : List Move} {log : Sweeper.Log}
    (positive : 0 < period) (ran : run? (openedEvery s store period) moves = some (p, log)) :
    Paced period p (starts (openedEvery s store period) moves) := by
  refine Execution.induction_along (motive := fun moves p _ =>
    Paced period p (starts (openedEvery s store period) moves)) (.opened s store) ?_ ran
  intro moves move mid before next shown reached inductionHypothesis stepped
  rw [starts, Execution.readings_concat reached stepped]
  exact inductionHypothesis.step (order_along reached) positive stepped

/-! ### What the schedule can do next -/

/-- A schedule that waits can ask for a sweep as soon as its tick has come. -/
theorem tick_possible (going : p.stage.isOver = false) (waiting : p.schedule.state = .waiting)
    (due : p.schedule.isDue p.clock = true) :
    ∃ q shown, p.step? .tick = some (q, shown) ∧ q.schedule.state = .sweeping := by
  let asked : Workplace := { p.workplace with
    sweeper := { p.workplace.sweeper with
      engagements := p.workplace.sweeper.engagements ++
        [⟨.requested, some p.schedule.caller, none⟩] } }
  have taken : p.workplace.step? (.own (.request (some p.schedule.caller))) = some (asked, []) :=
    rfl
  refine ⟨{ p with
    workplace := asked
    schedule := p.schedule.tick p.clock
    awaited := some p.workplace.sweeper.engagements.length }, [], ?_, rfl⟩
  simp only [step?, going, Bool.false_eq_true, if_false, advance?, tick?, waiting, due,
    and_self, if_true, take?, taken, Option.map_some]

/-- A schedule that waits asks for a sweep once it is time. -/
theorem tick_possible_in_time (going : p.stage.isOver = false)
    (waiting : p.schedule.state = .waiting) :
    ∃ q shown, run? p [.elapse (p.schedule.dueMoment - p.clock), .tick] = some (q, shown) ∧
      q.schedule.state = .sweeping := by
  let later : Process := { p with clock := p.clock + (p.schedule.dueMoment - p.clock) }
  have passed : p.step? (.elapse (p.schedule.dueMoment - p.clock)) = some (later, []) := by
    simp only [step?, going, Bool.false_eq_true, if_false, advance?, later]
  have due : later.schedule.isDue later.clock = true := by
    apply Schedule.isDue_of_dueMoment_le
    show p.schedule.dueMoment ≤ p.clock + (p.schedule.dueMoment - p.clock)
    omega
  obtain ⟨q, shown, ticked, sweeping⟩ := tick_possible (p := later) going waiting due
  exact ⟨q, shown, by simp [Execution.run?, passed, ticked], sweeping⟩

/-- The schedule can learn how its sweep came out, and unless that crashed it waits for its next
tick. -/
theorem deliver_possible (going : p.stage.isOver = false) (awaits : p.awaited = some index)
    (cameOut : p.CameOut index outcome) (regular : ∀ why, outcome ≠ .crashed why) :
    ∃ q, p.step? .deliver = some (q, []) ∧ q.schedule.state = .waiting := by
  obtain ⟨e, present, finished, free⟩ := cameOut
  have known : p.outcome? = some outcome := by
    simp only [outcome?, awaits, Option.bind_some, present, finished, free]
  have waits : (p.schedule.afterSweep outcome).state = .waiting := by
    cases outcome with
    | crashed why => exact absurd rfl (regular why)
    | _ => rfl
  refine ⟨{ p with schedule := p.schedule.afterSweep outcome, awaited := none }, ?_, waits⟩
  simp only [step?, going, Bool.false_eq_true, if_false, advance?, known, Option.map_some]

/-- Unless a sweep of the schedule is under way, all its sweeps have come out. -/
theorem Paced.alone (paced : Paced period p begun) (order : Order p)
    (resting : p.schedule.state ≠ .sweeping) (scheduled : p.Scheduled index) :
    ∃ outcome, p.CameOut index outcome := by
  refine (paced.returned index scheduled).resolve_left ?_
  rw [order.resting resting]
  exact nofun

/-- A sweep that acquired the guard and has come out has deleted it, whatever its calls for the
guard gave. -/
theorem released_of_cameOut {s : Settings} {store : Store} {moves : List Move} {log : Sweeper.Log}
    (ran : run? (openedEvery s store period) moves = some (p, log))
    (cameOut : p.CameOut index outcome)
    (acquired : Sweep.HasAcquired s (Sweeper.chronicle index log)) :
    ∃ answer, (index, .driver, .called (.deleted [s.guardKey] answer)) ∈ log := by
  obtain ⟨e, present, finished, -⟩ := cameOut
  obtain ⟨turns, led⟩ := workplace_along ran
  obtain ⟨rfl, origins⟩ := Workplace.origins_along led
  rcases origins.come index e present with ⟨never, -⟩ | ⟨flag, moves, driven⟩
  · exact absurd (Sweep.mem_trail.mp acquired.1) (never.silent _ _)
  · obtain ⟨answer, released⟩ := Sweep.guardDeleted_of_finished driven finished acquired
    exact ⟨answer, Sweeper.mem_chronicle.mp (Sweep.mem_trail.mp released)⟩

/-- The schedule survives every outcome and never bursts, for a ticker whose period is the interval
asked for, at least a second, in every execution of the process, however long its sweeps take and
whatever comes of them.

It ends only when its flag is raised or when a sweep of its own crashes. While it waits it asks for
a sweep once it is time, and if it has not asked for any yet, without waiting; while a sweep of its
own is under way it goes back to waiting once that has come out, unless by a crash. It asks for a
sweep only when all that it asked for before have come out, and two moments at which it asks are the
interval apart, less the tolerance, if the later one is on the clock at all. And when it has ended,
all its sweeps have come out, and those that acquired the guard, with a write that took effect or
one that failed, have deleted it. -/
theorem schedule_survives (s : Settings) (store : Store) (interval period : Nat) (moves : List Move)
    (p : Process) (log : Sweeper.Log) (documented : period = 1000 * max 1 interval)
    (ran : run? (openedEvery s store period) moves = some (p, log)) :
    (p.schedule.state = .over → p.raised = true ∨
      ∃ index why, p.Scheduled index ∧ p.CameOut index (.crashed why)) ∧
    (p.stage.isOver = false →
      (p.schedule.state = .waiting →
        (∃ q shown, run? p [.elapse (p.schedule.dueMoment - p.clock), .tick] = some (q, shown) ∧
          q.schedule.state = .sweeping) ∧
        (starts (openedEvery s store period) moves = [] →
          ∃ q shown, p.step? .tick = some (q, shown) ∧ q.schedule.state = .sweeping)) ∧
      (p.schedule.state = .sweeping → ∃ index, p.awaited = some index ∧ p.Scheduled index ∧
        ∀ outcome, p.CameOut index outcome → (∀ why, outcome ≠ .crashed why) →
          ∃ q, p.step? .deliver = some (q, []) ∧ q.schedule.state = .waiting)) ∧
    (∀ move next shown, p.step? move = some (next, shown) →
      p.schedule.state = .waiting → next.schedule.state = .sweeping →
        ∀ index, p.Scheduled index → ∃ outcome, p.CameOut index outcome) ∧
    (starts (openedEvery s store period) moves).IsChain (fun earlier later =>
      earlier + 1000 * max 1 interval ≤ Schedule.lastMoment →
        earlier + 1000 * max 1 interval ≤ later + 5) ∧
    (p.schedule.state = .over → ∀ index, p.Scheduled index →
      (∃ outcome, p.CameOut index outcome) ∧
        (Sweep.HasAcquired s (Sweeper.chronicle index log) →
          ∃ answer, (index, .driver, .called (.deleted [s.guardKey] answer)) ∈ log)) := by
  have positive : 0 < period := by omega
  have order := order_along ran
  have paced := paced_along positive ran
  subst documented
  refine ⟨paced.ended, fun going => ⟨fun waiting => ⟨tick_possible_in_time going waiting, ?_⟩, ?_⟩,
    ?_, paced.spaced, ?_⟩
  · intro none
    have first : p.schedule.dueMoment ≤ p.clock := by
      simp [Schedule.dueMoment, (paced.fresh none).1]
    exact tick_possible going waiting (Schedule.isDue_of_dueMoment_le first)
  · intro sweeping
    obtain ⟨index, awaits, scheduled⟩ := paced.asked sweeping
    exact ⟨index, awaits, scheduled, fun outcome cameOut => deliver_possible going awaits cameOut⟩
  · intro move next shown _ waiting _ index scheduled
    exact paced.alone order (by rw [waiting]; exact Schedule.State.noConfusion) scheduled
  · intro halted index scheduled
    obtain ⟨outcome, cameOut⟩ :=
      paced.alone order (by rw [halted]; exact Schedule.State.noConfusion) scheduled
    exact ⟨⟨outcome, cameOut⟩, released_of_cameOut ran cameOut⟩

open Workplace (smallSettings smallStore)

/-- The schedule's first sweep finds the guard held by somebody else. Its second one is asked for
three seconds too late, acquires the guard although its write fails, and is under way when the
signal arrives. -/
def skippedThenSignalled : List Move :=
  [.bound, .turn (.others (.set smallSettings.guardKey Guard.mark none)), .tick, .claim 0,
    .turn (.own (.sweep 0 .begin)), .turn (.call 0 .driver none),
    .turn (.own (.giveUp 0)), .deliver,
    .elapse 4000, .turn (.others (.delete [smallSettings.guardKey])), .tick, .claim 1,
    .turn (.own (.sweep 1 .begin)), .turn (.call 1 .driver none),
    .turn (.call 1 .driver (some (.fail (.unavailable "down")))), .signal,
    .turn (.call 1 .scanner none), .turn (.own (.sweep 1 (.stage .takeCandidate))),
    .turn (.own (.sweep 1 (.stage .takeMatch))), .turn (.own (.sweep 1 .join)),
    .turn (.own (.sweep 1 .join)), .turn (.own (.sweep 1 .join)), .turn (.own (.sweep 1 .proceed)),
    .turn (.call 1 .driver none), .turn (.own (.giveUp 1)), .deliver, .quit]

/-- With an interval of a second that schedule asks for two sweeps four seconds apart, and it ends
once the second one has deleted the guard. -/
theorem schedule_survives_skipped : ∃ p log,
    run? (opened smallSettings smallStore 1) skippedThenSignalled = some (p, log) ∧
      p.schedule.state = .over ∧
      starts (opened smallSettings smallStore 1) skippedThenSignalled = [0, 4000] ∧
      [0, 4000].IsChain (fun earlier later => earlier + 1000 * max 1 1 ≤ Schedule.lastMoment →
        earlier + 1000 * max 1 1 ≤ later + 5) ∧
      Sweep.HasAcquired smallSettings (Sweeper.chronicle 1 log) ∧
      ∃ answer, (1, .driver, .called (.deleted [smallSettings.guardKey] answer)) ∈ log := by
  have seen : ((run? (opened smallSettings smallStore 1) skippedThenSignalled).map fun reached =>
      (reached.1.schedule.state, reached.1.workplace.sweeper.engagements.length, reached.1.demanded,
        reached.2.contains (1, .driver, .called (.checked smallSettings.guardKey (.value false))),
        reached.2.contains (1, .driver,
          .called (.written smallSettings.guardKey Guard.mark (.failed (.unavailable "down")))))) =
      some (.over, 2, [], true, true) := by decide +kernel
  have begun : starts (opened smallSettings smallStore 1) skippedThenSignalled = [0, 4000] := by
    decide +kernel
  obtain ⟨⟨p, log⟩, ran, same⟩ := Option.map_eq_some_iff.mp seen
  simp only [Prod.mk.injEq] at same
  obtain ⟨halted, length, demanded, free, failed⟩ := same
  obtain ⟨-, -, -, spaced, ends⟩ :=
    schedule_survives smallSettings smallStore 1 (Schedule.periodOf 1)
    skippedThenSignalled p log (Schedule.periodOf_eq (by decide)) ran
  have shown {event : StoreEvent} (listed : log.contains (1, .driver, .called event) = true) :
      (.driver, event) ∈ Sweep.trail (Sweeper.chronicle 1 log) :=
    Sweep.mem_trail.mpr (Sweeper.mem_chronicle.mpr (List.contains_iff_mem.mp listed))
  have acquired : Sweep.HasAcquired smallSettings (Sweeper.chronicle 1 log) :=
    ⟨shown free, _, rfl, shown failed⟩
  have second : p.Scheduled 1 := ⟨by omega, by simp [demanded]⟩
  exact ⟨p, log, ran, halted, begun, begun ▸ spaced, acquired, (ends halted 1 second).2 acquired⟩

end Process

end KeySweeper
