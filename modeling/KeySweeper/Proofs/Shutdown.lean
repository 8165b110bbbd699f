import KeySweeper.Proofs.Forsaken
import KeySweeper.Proofs.Order

/-!
# The end of the service

What the shutdown of the service reaches. After the signal the sweeps of the schedule are told to
wind down, those that claim the sweeper later from their first step on, and the main task does not
end gracefully before they are over. A sweep that an operator started is not reached: its flag does
not hang below that of the schedule, and nobody waits for it, so that it may still hold the guard
when the main task ends. When the main task ends with an error it waits for nobody, and the sweep of
the schedule may hold the guard as well. These are the only ways in which the guard can be left
behind.
-/

namespace KeySweeper.Process

variable {p next : Process} {move : Move} {shown : Sweeper.Log}

/-- Whether a move answers a request to stop the current sweep. -/
def Move.AsksStop : Move → Prop
  | .answer _ request => request.AsksStop
  | _ => False

/-- Whether a move is made by a task of a sweep. -/
def Move.IsOf (index : Nat) : Move → Prop
  | .turn (.own (.sweep other _)) => other = index
  | .turn (.call other _ _) => other = index
  | _ => False

/-- The flag of a sweep is raised in a move of the sweeper only if the move tells it to wind down,
if it is a move of its own, or if the sweep claims the sweeper. -/
theorem flag_of_fate {c : Sweeper} {inner : Sweeper.Move} {index : Nat} {e after : Engagement}
    {entries : Sweep.Chronicle} (fate : Sweeper.Fate c index inner (some e) after entries)
    (calm : e.sweep.work.isCancelled = false) (told : after.sweep.work.isCancelled = true) :
    inner.Reaches e ∨ (∃ own, inner = .sweep index own) ∨ e.sweep.driver = .unclaimed := by
  cases fate with
  | spared => rw [calm] at told; cases told
  | told move e reaches => exact Or.inl reaches
  | admitted flag e slot unclaimed free => exact Or.inr (Or.inr unclaimed)
  | refused flag e unclaimed => exact Or.inr (Or.inr unclaimed)
  | moved own e progress made => exact Or.inr (Or.inl ⟨own, rfl⟩)
  | gaveUp e generation held halted =>
    have same : e.sweep.work.isCancelled = true := told
    rw [calm] at same
    cases same

/-- The flag of a sweep on demand is raised by nobody but a request to stop and the sweep's own
tasks. -/
theorem Order.flag_of_steps (order : Order p) (steps : Steps p move next shown) {index : Nat}
    {e after : Engagement} (demand : index ∈ p.demanded) (present : p.engagement? index = some e)
    (there : next.engagement? index = some after) (calm : e.sweep.work.isCancelled = false)
    (told : after.sweep.work.isCancelled = true) : move.AsksStop ∨ move.IsOf index := by
  have standing := order.standing index e present
  have moves {inner : Sweeper.Move} {c : Sweeper} {entries : Sweeper.Log}
      (made : Sweeper.Steps p.workplace.sweeper inner c entries)
      (found : c.engagements[index]? = some after) :
      inner.Reaches e ∨ ∃ own, inner = .sweep index own := by
    have fate := Sweeper.fate_of_steps made found
    rw [show p.workplace.sweeper.engagements[index]? = some e from present] at fate
    rcases flag_of_fate fate calm told with reaches | own | unclaimed
    · exact Or.inl reaches
    · exact Or.inr own
    · exact absurd unclaimed (standing.ready demand)
  have same (unchanged : next.engagement? index = p.engagement? index) :
      move.AsksStop ∨ move.IsOf index := by
    obtain rfl := Option.some.inj (there.symm.trans (unchanged.trans present))
    rw [calm] at told
    cases told
  cases steps with
  | turned turn task workplace shown taken =>
    cases Workplace.turns_of_step? taken with
    | own inner silent sweeper entries made =>
      rcases moves made there with reaches | ⟨own, rfl⟩
      · cases inner with
        | stop => cases task
        | cancelCaller caller => cases task
        | _ => exact reaches.elim
      · exact Or.inr rfl
    | called other part mishap f call sweeper entries before pending made =>
      rcases moves made there with reaches | ⟨own, mine⟩
      · exact reaches.elim
      · exact Or.inr (Sweeper.Move.sweep.inj mine).1
    | others command => exact same rfl
  | claimed other workplace shown taken =>
    cases Workplace.turns_of_step? taken with
    | own inner silent sweeper entries made =>
      rcases moves made there with reaches | ⟨own, impossible⟩
      · exact reaches.elim
      · cases impossible
  | ticked waiting workplace shown taken =>
    cases Workplace.turns_of_step? taken with
    | own inner silent sweeper entries made =>
      rcases moves made there with reaches | ⟨own, impossible⟩
      · exact reaches.elim
      · cases impossible
  | signalled serving workplace shown taken =>
    cases Workplace.turns_of_step? taken with
    | own inner silent sweeper entries made =>
      rcases moves made there with reaches | ⟨own, impossible⟩
      · have below : e.caller = some p.schedule.caller := reaches
        rcases standing.asker with ⟨-, nobody⟩ | ⟨scheduled, -⟩
        · rw [nobody] at below
          cases below
        · exact absurd demand scheduled
      · cases impossible
  | answered now request serving =>
    simp only [Process.answered, engagement?] at there same
    have ways := Admin.handled p.workplace.sweeper now request
    generalize Admin.handle p.workplace.sweeper now request = reply at ways there same
    cases ways with
    | aside response => exact same rfl
    | stopped response asked => exact Or.inl asked
    | started response begun free =>
      have made : p.workplace.sweeper.recorded? .start = some (begun, []) := by
        simp only [Sweeper.recorded?, free, Option.map_some, Sweeper.Move.entries]
      rcases moves (Sweeper.steps_of_recorded? made) there with reaches | ⟨own, impossible⟩
      · exact reaches.elim
      · cases impossible
  | _ => exact same rfl

/-- A sweep holds the guard: its write of the guard took effect, and it has not deleted the
guard. -/
def HoldsGuard (s : Settings) (log : Sweeper.Log) (index : Nat) : Prop :=
  (index, .driver, .called (.written s.guardKey Guard.mark (.value ()))) ∈ log ∧
    ∀ part answer, part.isStage = false →
      (index, part, .called (.deleted [s.guardKey] answer)) ∉ log

/-- Who holds the guard is at work, and was started on demand or is waited for by the schedule. -/
theorem holder_of_holdsGuard {s : Settings} {store : Store} {period : Nat} {moves : List Move}
    {log : Sweeper.Log} {index : Nat}
    (ran : run? (openedEvery s store period) moves = some (p, log))
    (holds : HoldsGuard s log index) :
    ∃ e, p.engagement? index = some e ∧ e.sweep.driver.isBound = true ∧
      (index ∈ p.demanded ∨ p.awaited = some index) := by
  obtain ⟨written, kept⟩ := holds
  obtain ⟨turns, led⟩ := workplace_along ran
  have inside := (Workplace.origins_along led).2.known _ written
  have present := List.getElem?_eq_getElem inside
  have standing := (order_along ran).standing index _ present
  have marked : .value () ∈ Sweep.marks s (Sweeper.chronicle index log) :=
    Sweep.mem_marks rfl (Sweeper.mem_chronicle.mpr written)
  have bound : p.workplace.sweeper.engagements[index].sweep.driver.isBound = true := by
    cases Workplace.custody_of_engagement led present with
    | outside driver work releaser unmarked => exact absurd marked unmarked
    | owed bound => exact bound
    | passed driver => exact absurd driver standing.driven
    | forsaken driver => exact absurd driver standing.driven
    | settled place work answer released =>
      have counted : answer ∈ Sweep.releases s (Sweeper.chronicle index log) := by
        rw [released]
        exact List.mem_singleton.mpr rfl
      obtain ⟨part, outside, listed⟩ := Sweep.mem_releases.mp counted
      exact absurd (Sweeper.mem_chronicle.mp listed) (kept part answer outside)
  refine ⟨_, present, bound, ?_⟩
  by_cases demand : index ∈ p.demanded
  · exact Or.inl demand
  · rcases standing.pursued demand with awaits | ⟨outcome, finished⟩
    · exact Or.inr awaits
    · rw [finished] at bound
      cases bound

/-- A sweep, if it is under way, is told to wind down. -/
def Told (p : Process) (index : Nat) : Prop :=
  ∀ e, p.engagement? index = some e → e.sweep.driver.isEngaged = true →
    e.sweep.work.isCancelled = true

/-- What the shutdown reaches, in every execution of the process. Once the flag of the schedule is
raised, all sweeps under way are told to wind down if and only if those on demand are; and the flag
of a sweep on demand is raised by nobody but a request to stop and the sweep's own tasks, so never
by the signal. When the main task has ended no sweep holds the guard if and only if no sweep on
demand does and, if it ended with an error, neither does the sweep that the schedule waited for. -/
theorem shutdown_reaches_schedule (s : Settings) (store : Store) (interval : Nat)
    (moves : List Move) (p : Process) (log : Sweeper.Log)
    (ran : run? (opened s store interval) moves = some (p, log)) :
    (p.raised = true → ((∀ index, p.Told index) ↔ ∀ index ∈ p.demanded, p.Told index)) ∧
    (∀ move next shown, p.step? move = some (next, shown) → ∀ index ∈ p.demanded, ∀ e after,
      p.engagement? index = some e → next.engagement? index = some after →
      e.sweep.work.isCancelled = false → after.sweep.work.isCancelled = true →
        move.AsksStop ∨ move.IsOf index) ∧
    (∀ graceful, p.stage = .ended graceful →
      ((∀ index, ¬ HoldsGuard s log index) ↔
        (∀ index ∈ p.demanded, ¬ HoldsGuard s log index) ∧
          (graceful = false → ∀ index, p.awaited = some index → ¬ HoldsGuard s log index))) := by
  have order := order_along ran
  refine ⟨?_, ?_, ?_⟩
  · intro raised
    constructor
    · exact fun all index _ => all index
    · intro demanded index e present engaged
      by_cases demand : index ∈ p.demanded
      · exact demanded index demand e present engaged
      · exact (order.standing index e present).told raised demand engaged
  · intro move next shown stepped index demand e after present there calm told
    exact order.flag_of_steps (steps_of_step? stepped).2 demand present there calm told
  · intro graceful ended
    constructor
    · exact fun nobody => ⟨fun index _ => nobody index, fun _ index _ => nobody index⟩
    · rintro ⟨demanded, failed⟩ index holds
      obtain ⟨e, -, -, demand | awaits⟩ := holder_of_holdsGuard ran holds
      · exact demanded index demand holds
      · cases graceful with
        | false => exact failed rfl index awaits holds
        | true =>
          rw [order.parted ended] at awaits
          cases awaits

open Workplace (smallSettings smallStore)

/-- The moves with which the first sweep of a process acquires the guard once it has claimed the
sweeper. -/
def acquisition : List Move :=
  [.turn (.own (.sweep 0 .begin)), .turn (.call 0 .driver none), .turn (.call 0 .driver none)]

/-- A process whose schedule sweeps when the signal arrives, and that ends in good order. -/
def signalledInSweep : List Move :=
  [.bound, .tick, .claim 0] ++ acquisition ++
    [.signal, .turn (.call 0 .scanner none), .turn (.own (.sweep 0 (.stage .takeCandidate))),
      .turn (.own (.sweep 0 (.stage .takeMatch))), .turn (.own (.sweep 0 .join)),
      .turn (.own (.sweep 0 .join)), .turn (.own (.sweep 0 .join)),
      .turn (.own (.sweep 0 .proceed)),
      .turn (.call 0 .driver none), .turn (.own (.giveUp 0)), .deliver, .quit, .drained, .joined]

/-- Nobody holds the guard when that process has ended, and nobody was spared. -/
theorem shutdown_reaches_schedule_sweeping : ∃ p log,
    run? (opened smallSettings smallStore 3600) signalledInSweep = some (p, log) ∧
      p.stage = .ended true ∧ (∀ index, p.Told index) ∧
      ∀ index, ¬ HoldsGuard smallSettings log index := by
  have seen : ((run? (opened smallSettings smallStore 3600) signalledInSweep).map fun reached =>
      (reached.1.stage, reached.1.raised, reached.1.demanded)) = some (.ended true, true, []) := by
        decide +kernel
  obtain ⟨⟨p, log⟩, ran, same⟩ := Option.map_eq_some_iff.mp seen
  simp only [Prod.mk.injEq] at same
  obtain ⟨ended, raised, demanded⟩ := same
  obtain ⟨told, -, guard⟩ :=
    shutdown_reaches_schedule smallSettings smallStore 3600 signalledInSweep p log ran
  refine ⟨p, log, ran, ended, (told raised).mpr ?_, (guard true ended).mpr ⟨?_, Bool.noConfusion⟩⟩
  · rw [demanded]
    exact List.forall_mem_nil _
  · rw [demanded]
    exact List.forall_mem_nil _

/-- A process whose operator starts a sweep before the signal arrives. -/
def signalledOnDemand : List Move :=
  [.bound, .answer .epoch ⟨"POST", "/cleaner/run"⟩] ++ acquisition ++
    [.signal, .quit, .drained, .joined]

/-- A process whose address cannot be bound while its schedule sweeps. -/
def failedBinding : List Move := [.tick, .claim 0] ++ acquisition ++ [.bindingFails]

/-- A process whose server fails while its schedule sweeps. -/
def failedServing : List Move := [.bound, .tick, .claim 0] ++ acquisition ++ [.servingFails]

/-- The log of a sweep that has acquired the guard and done nothing else. -/
def acquired : Sweeper.Log :=
  [(0, .driver, .called (.checked smallSettings.guardKey (.value false))),
    (0, .driver, .called (.written smallSettings.guardKey Guard.mark (.value ()))),
    (0, .driver, .logged (Sweep.startLine smallSettings))]

/-- A sweep with that log holds the guard. -/
theorem holdsGuard_acquired : HoldsGuard smallSettings acquired 0 := by
  refine ⟨by simp [acquired], ?_⟩
  intro part answer outside member
  simp [acquired] at member

/-- The shutdown does not reach all sweeps. A sweep on demand goes on after the signal as if nothing
had happened, and still holds the guard when the main task ends in good order. When the main task
ends because the address cannot be bound or because the server fails, the sweep of the schedule
still holds the guard. Each time the guard is in the store in the end. -/
theorem guard_left_at_end :
    (∃ p log, run? (opened smallSettings smallStore 3600) signalledOnDemand = some (p, log) ∧
      p.stage = .ended true ∧ p.raised = true ∧ ¬ p.Told 0 ∧ HoldsGuard smallSettings log 0 ∧
      p.workplace.store.contains smallSettings.guardKey = true) ∧
    (∀ moves ∈ [failedBinding, failedServing], ∃ p log,
      run? (opened smallSettings smallStore 3600) moves = some (p, log) ∧ p.stage = .ended false ∧
      HoldsGuard smallSettings log 0 ∧
      p.workplace.store.contains smallSettings.guardKey = true) := by
  refine ⟨?_, ?_⟩
  · have seen : ((run? (opened smallSettings smallStore 3600) signalledOnDemand).map fun reached =>
        ((reached.1.stage, reached.1.raised,
          reached.1.workplace.store.contains smallSettings.guardKey), reached.2)) =
        some ((.ended true, true, true), acquired) := by decide +kernel
    have way : ((run? (opened smallSettings smallStore 3600) signalledOnDemand).map fun reached =>
        (reached.1.engagement? 0).map fun e =>
          (e.sweep.driver.isEngaged, e.sweep.work.isCancelled)) =
        some (some (true, false)) := by decide +kernel
    obtain ⟨⟨p, log⟩, ran, same⟩ := Option.map_eq_some_iff.mp seen
    rw [ran, Option.map_some] at way
    simp only [Prod.mk.injEq] at same
    obtain ⟨⟨ended, raised, held⟩, rfl⟩ := same
    have under := Option.some.inj way
    obtain ⟨e, present, way⟩ := Option.map_eq_some_iff.mp under
    obtain ⟨engaged, calm⟩ := Prod.mk.inj way
    refine ⟨p, acquired, ran, ended, raised, ?_, holdsGuard_acquired, held⟩
    intro told
    rw [told e present engaged] at calm
    cases calm
  · have failed (moves : List Move)
        (seen : ((run? (opened smallSettings smallStore 3600) moves).map fun reached =>
          ((reached.1.stage, reached.1.workplace.store.contains smallSettings.guardKey),
            reached.2)) =
          some ((.ended false, true), acquired)) : ∃ p log,
        run? (opened smallSettings smallStore 3600) moves = some (p, log) ∧ p.stage = .ended false ∧
        HoldsGuard smallSettings log 0 ∧
          p.workplace.store.contains smallSettings.guardKey = true := by
      obtain ⟨⟨p, log⟩, ran, same⟩ := Option.map_eq_some_iff.mp seen
      simp only [Prod.mk.injEq] at same
      obtain ⟨⟨ended, held⟩, rfl⟩ := same
      exact ⟨p, acquired, ran, ended, holdsGuard_acquired, held⟩
    intro moves member
    simp only [List.mem_cons, List.not_mem_nil, or_false] at member
    rcases member with rfl | rfl
    · exact failed failedBinding (by decide +kernel)
    · exact failed failedServing (by decide +kernel)

end KeySweeper.Process
