import KeySweeper.Proofs.Failures
import KeySweeper.Proofs.Shutdown
import KeySweeper.Proofs.Signals

/-!
# Sweeps that are told to wind down before they start

A sweep can be told to wind down before its stages look at a key: it claims below a flag that is
raised already, or it is stopped, or its caller's flag is raised, while it asks for the guard,
writes it, or has just started its stages. The scanner asks for a key before it looks at its flag,
so such a sweep asks the scan once. What the scan answers goes nowhere: the other stages find their
queues empty and end, nothing is inspected or deleted, and the report counts nothing. The sweep
deletes its guard as any other.

The invariant says that no key has come through the stages. It is kept by every step of stages that
were told to wind down, and before the first answer of the scan it holds anyway, since until then no
stage has anything to do.
-/

namespace KeySweeper

open Ledger

/-- A scanner that was told to wind down is over once the scan has answered, whatever it
answered. -/
theorem Scanner.halted_afterAnswer (answer : Answer (Option String)) :
    (Scanner.afterAnswer true answer).isLive = false := by
  cases answer with
  | value result => cases result <;> rfl
  | failed cause => rfl
  | crashed text => rfl

namespace Pipeline

variable {s : Settings} {p next : Pipeline} {move : Move} {shown : List Effect}
  {h : List StoreEvent}

/-- Stages through which no key has come: the scan is asked for its first key or has answered once
and ended the scanner, and the other two stages have never had a key. -/
structure Barren (p : Pipeline) (h : List StoreEvent) : Prop where
  scanned : p.scanner = .asking ∧ scanAnswers h = [] ∨
    p.scanner.isLive = false ∧ (scanAnswers h).length = 1
  candidates : p.candidates.queue = []
  filter : p.filter = .waiting ∨ p.filter = .ended
  matched : p.matched.queue = []
  deleter : p.deleter = .collecting [] ∨ p.deleter = .ended
  uninspected : inspected h = []
  undeleted : batches h = []
  uncounted : p.control.deleted = 0

/-- No key has come through fresh stages. -/
theorem Barren.fresh (flag : Bool) : Barren (.fresh (.fresh flag)) [] where
  scanned := Or.inl ⟨rfl, rfl⟩
  candidates := rfl
  filter := Or.inl rfl
  matched := rfl
  deleter := Or.inl rfl
  uninspected := rfl
  undeleted := rfl
  uncounted := rfl

/-- No key comes through stages that were told to wind down. -/
theorem Barren.step (barren : Barren p h) (told : p.control.cancelled = true)
    (stepped : p.step? s move = some (next, shown)) : Barren next (h ++ calls shown) := by
  obtain ⟨scanned, candidates, filter, matched, deleter, uninspected, undeleted, uncounted⟩ :=
    barren
  cases steps_of_step? stepped with
  | scanned answer asking =>
    have first : scanAnswers h = [] := by
      rcases scanned with ⟨-, none⟩ | ⟨halted, -⟩
      · exact none
      · rw [asking] at halted
        cases halted
    refine ⟨Or.inr ⟨?_, ?_⟩, candidates, filter, matched, deleter, ?_, ?_, ?_⟩
    · rw [told]
      exact Scanner.halted_afterAnswer answer
    · simp [first, scanAnswer?]
    · simp [uninspected, inspectedKey?]
    · simp [undeleted, deletedBatch?]
    · cases answer <;> exact uncounted
  | candidateLost key offering => simp [offering, Scanner.isLive] at scanned
  | candidateSent key offering => simp [offering, Scanner.isLive] at scanned
  | candidateTaken key rest waiting queued => simp [queued] at candidates
  | candidatesEnded waiting queued halted =>
    rw [show calls [] = [] from rfl, List.append_nil]
    exact ⟨scanned, candidates, Or.inr rfl, matched, deleter, uninspected, undeleted, uncounted⟩
  | inspected answer key inspecting => simp [inspecting] at filter
  | matchLost key offering => simp [offering] at filter
  | matchSent key offering => simp [offering] at filter
  | matchTaken batch key rest collecting queued => simp [queued] at matched
  | matchesEnded batch collecting queued halted =>
    obtain rfl : batch = [] := by simpa [collecting] using deleter
    rw [show calls [] = [] from rfl, List.append_nil]
    exact ⟨scanned, candidates, filter, matched, Or.inr rfl, uninspected, undeleted, uncounted⟩
  | deleted answer batch waiting deleting => simp [deleting] at deleter
  | cancelled =>
    rw [show calls [] = [] from rfl, List.append_nil]
    exact ⟨scanned, candidates, filter, matched, deleter, uninspected, undeleted, uncounted⟩

/-- As long as the scan has not answered, the stages are as they were started, but for their
flag. -/
def Unfed (p : Pipeline) (h : List StoreEvent) : Prop :=
  scanAnswers h = [] → h = [] ∧ ∃ flag, p = .fresh (.fresh flag)

/-- Before the scan answers there is nothing to do for any stage. -/
theorem Unfed.step (unfed : Unfed p h) (stepped : p.step? s move = some (next, shown)) :
    Unfed next (h ++ calls shown) := by
  intro unanswered
  rw [scanAnswers_append, List.append_eq_nil_iff] at unanswered
  obtain ⟨rfl, flag, rfl⟩ := unfed unanswered.1
  cases steps_of_step? stepped with
  | scanned answer asking => simp [scanAnswer?] at unanswered
  | cancelled => exact ⟨rfl, true, rfl⟩
  | candidateLost key offering => cases offering
  | candidateSent key offering => cases offering
  | candidateTaken key rest waiting queued => cases queued
  | candidatesEnded waiting queued halted => cases halted
  | inspected answer key inspecting => cases inspecting
  | matchLost key offering => cases offering
  | matchSent key offering => cases offering
  | matchTaken batch key rest collecting queued => cases queued
  | matchesEnded batch collecting queued halted => cases halted
  | deleted answer batch waiting deleting => cases deleting

end Pipeline

namespace Sweep

variable {s : Settings} {sweep : Sweep} {move : Move} {progress : Progress} {flag : Bool}
variable {moves : List Move} {log : Chronicle} {outcome : SweepOutcome}

/-- A sweep was told to wind down after its claim and before the scan has answered it. -/
structure Forestalled (sweep : Sweep) (log : Chronicle) : Prop where
  claimed : sweep.driver ≠ .unclaimed
  told : sweep.work.isCancelled = true
  unanswered : scanAnswers (stageCalls log) = []

/-- A sweep that will touch no key: it never claimed its sweeper, or it was told to wind down and no
key has come through its stages. -/
inductive Harmless (sweep : Sweep) (log : Chronicle) : Prop where
  /-- It never claimed. -/
  | idle (never : Sweeper.NeverClaimed sweep log)
  /-- It was told to wind down. -/
  | told (claimed : sweep.driver ≠ .unclaimed) (opening : sweep.Opening)
      (told : sweep.work.isCancelled = true)
      (barren : HoldsOf Pipeline.Barren (stageCalls log) sweep.work)

/-- What a sweep that touches no key has asked the store about keys and waits for: at most one item
of the scan, no inspection and no deletion. -/
structure TouchesNothing (s : Settings) (sweep : Sweep) (log : Chronicle) : Prop where
  scanned : (scanAnswers (stageCalls log)).length + (sweep.pending? s .scanner).toList.length ≤ 1
  uninspected : inspected (stageCalls log) = [] ∧ sweep.pending? s .filter = none
  undeleted : batches (stageCalls log) = [] ∧ sweep.pending? s .deleter = none

/-- A sweep that was told to wind down in time is harmless. -/
theorem harmless_of_forestalled (forestalled : Forestalled sweep log)
    (ran : run? s (.claimed flag) moves = some (sweep, log)) : Harmless sweep log := by
  have fresh (flag : Bool) : Pipeline.Unfed (.fresh (.fresh flag)) [] := fun _ => ⟨rfl, _, rfl⟩
  obtain ⟨opening, holds⟩ :=
    holds_along fresh (fun _ _ _ _ _ unfed stepped => unfed.step stepped) ran
  refine .told forestalled.claimed opening forestalled.told ?_
  generalize sweep.work = work at holds
  cases work with
  | waiting flag => exact holds
  | running p =>
    obtain ⟨none, flag, rfl⟩ := holds forestalled.unanswered
    rw [none]
    exact .fresh flag

/-- A harmless sweep stays harmless. -/
theorem Harmless.step (harmless : Harmless sweep log) (steps : Steps s sweep move progress) :
    Harmless progress.sweep (log ++ entries move progress.effects) := by
  cases harmless with
  | idle never => exact .idle (never.step steps)
  | told claimed opening told barren =>
    refine .told (fun unclaimed => claimed (Sweeper.unclaimed_of_step steps unclaimed))
      (opening.step steps) (cancelled_step steps told) ?_
    rw [stageCalls_append]
    refine barren.step Pipeline.Barren.fresh
      (fun p stageMove after effects running barren stepped => ?_) opening steps
    exact barren.step (by rw [running] at told; exact told) stepped

/-- A harmless sweep touches no key. -/
theorem Harmless.touchesNothing (harmless : Harmless sweep log) : TouchesNothing s sweep log := by
  have waits (flag : Bool) (waiting : sweep.work = .waiting flag) (none : stageCalls log = []) :
      TouchesNothing s sweep log := by
    constructor <;> simp [none, scanAnswers, inspected, batches, pending?, scannerCall?,
      filterCall?, deleterCall?, waiting]
  cases harmless with
  | idle never =>
    obtain ⟨flag, waiting⟩ := never.work
    refine waits flag waiting (List.eq_nil_iff_forall_not_mem.mpr fun event member => ?_)
    obtain ⟨part, -, shown⟩ := mem_callsBy.mp member
    exact never.silent part event shown
  | told claimed opening told barren =>
    cases work : sweep.work with
    | waiting flag =>
      rw [work] at barren
      exact waits flag work barren
    | running p =>
      have barren := barren.of_running work
      constructor
      · rcases barren.scanned with ⟨asking, none⟩ | ⟨halted, once⟩
        · simp [pending?, scannerCall?, work, asking, none]
        · cases state : p.scanner <;> simp_all [pending?, scannerCall?, Scanner.isLive]
      · refine ⟨barren.uninspected, ?_⟩
        rcases barren.filter with now | now <;> simp [pending?, filterCall?, work, now]
      · refine ⟨barren.undeleted, ?_⟩
        rcases barren.deleter with now | now <;> simp [pending?, deleterCall?, work, now]

/-- How a sweep comes out that acquired the guard and touched no key: its deletion of the guard has
ended, and it reports that nothing was deleted, unless the code behind that deletion crashed. -/
inductive EndsEmpty (s : Settings) (log : Chronicle) : SweepOutcome → Prop where
  /-- It reports. -/
  | reported (report : SweepReport) (nothing : report.deleted = 0) (answer : Answer Nat)
      (back : returned answer = true)
      (released : (.driver, .deleted [s.guardKey] answer) ∈ trail log) :
      EndsEmpty s log (.completed report)
  /-- The deletion of the guard crashed. -/
  | crashed (text : String)
      (released : (.driver, .deleted [s.guardKey] (.crashed text)) ∈ trail log) :
      EndsEmpty s log (.crashed text)

/-- A harmless sweep that acquired the guard and came out has deleted the guard and reports
nothing. -/
theorem Harmless.endsEmpty (harmless : Harmless sweep log)
    (ran : run? s (.claimed flag) moves = some (sweep, log))
    (finished : sweep.driver = .finished outcome) (acquired : HasAcquired s log) :
    EndsEmpty s log outcome := by
  obtain ⟨checked, answer, back, marked⟩ := acquired
  cases verdict_along ran finished with
  | refused idle calls => simp [calls] at checked
  | unknown cause idle calls => simp [calls] at checked
  | checkCrashed text calls => simp [calls] at checked
  | markCrashed text calls =>
    obtain rfl : answer = .crashed text := by simpa [calls] using marked
    cases back
  | releaseCrashed text entered => exact .crashed text entered.release_mem
  | completed report p running quiet counted answer back entered =>
    have nothing : report.deleted = 0 := by
      cases harmless with
      | idle never => exact absurd (mem_trail.mp checked) (never.silent _ _)
      | told claimed opening told barren => rw [counted, (barren.of_running running).uncounted]
    exact .reported report nothing answer back entered.release_mem

end Sweep

namespace Sweeper

variable {s : Settings} {c next : Sweeper} {move : Move} {shown log : Log} {index : Nat}
  {e after : Engagement}

/-- What becomes of a harmless sweep is harmless, if it claims only below a raised flag. -/
theorem harmless_of_fate {past added : Sweep.Chronicle} (harmless : e.sweep.Harmless past)
    (fate : Fate c index move (some e) after added)
    (below : e.sweep.driver = .unclaimed → ∀ flag, move = .claim index flag → flag = true) :
    after.sweep.Harmless (past ++ added) := by
  have told (steps : Sweep.Steps c.settings e.sweep .cancel ⟨(cancelSweep e).sweep, [], none⟩) :
      (cancelSweep e).sweep.Harmless (past ++ []) := harmless.step steps
  cases fate with
  | spared => rwa [List.append_nil]
  | told move e reaches => exact told .cancelled
  | gaveUp e generation held halted => rwa [List.append_nil]
  | moved inner e progress made => exact harmless.step (Sweep.steps_of_step? made)
  | admitted flag e slot unclaimed free =>
    obtain rfl := below unclaimed flag rfl
    cases harmless with
    | idle never =>
      rw [never.blank unclaimed]
      exact .told Driver.noConfusion (fun _ => ⟨true, rfl⟩) rfl rfl
    | told claimed => exact absurd unclaimed claimed
  | refused flag e unclaimed =>
    cases harmless with
    | idle never =>
      refine .idle ⟨Or.inr (Or.inl rfl), never.work, never.releaser, ?_, Driver.noConfusion⟩
      intro part event member
      simp [never.blank unclaimed] at member
    | told claimed => exact absurd unclaimed claimed

/-- A sweep that has claimed and was told to wind down stays so. -/
theorem told_of_fate {added : Sweep.Chronicle} (claimed : e.sweep.driver ≠ .unclaimed)
    (told : e.sweep.work.isCancelled = true) (fate : Fate c index move (some e) after added) :
    after.sweep.driver ≠ .unclaimed ∧ after.sweep.work.isCancelled = true := by
  cases fate with
  | spared => exact ⟨claimed, told⟩
  | told move e reaches => exact ⟨claimed, Work.isCancelled_cancel _⟩
  | gaveUp e generation held halted => exact ⟨claimed, told⟩
  | moved inner e progress made =>
    have steps := Sweep.steps_of_step? made
    exact ⟨fun unclaimed => claimed (unclaimed_of_step steps unclaimed),
      Sweep.cancelled_step steps told⟩
  | admitted flag e slot unclaimed free => exact absurd unclaimed claimed
  | refused flag e unclaimed => exact absurd unclaimed claimed

/-- A sweep of a sweeper that was told to wind down in time is harmless. -/
theorem Origins.harmless (origins : Origins c log) (present : c.engagements[index]? = some e)
    (forestalled : e.sweep.Forestalled (chronicle index log)) :
    e.sweep.Harmless (chronicle index log) := by
  rcases origins.come index e present with ⟨never, -⟩ | ⟨flag, moves, ran⟩
  · exact .idle never
  · exact Sweep.harmless_of_forestalled forestalled ran

/-- A sweep that was told to wind down in time is harmless ever after. -/
theorem harmless_along {first rest : List Move} {mid : Sweeper} {early later : Log}
    (led : run? (.ofSettings s) first = some (mid, early))
    (continued : run? mid rest = some (c, later)) (present : mid.engagements[index]? = some e)
    (forestalled : e.sweep.Forestalled (chronicle index early)) :
    ∃ after, c.engagements[index]? = some after ∧ after.sweep.driver ≠ .unclaimed ∧
      after.sweep.work.isCancelled = true ∧
        after.sweep.Harmless (chronicle index (early ++ later)) := by
  refine Execution.induction_along (motive := fun _ c later =>
    ∃ after, c.engagements[index]? = some after ∧ after.sweep.driver ≠ .unclaimed ∧
      after.sweep.work.isCancelled = true ∧ after.sweep.Harmless (chronicle index (early ++ later)))
    ?_ ?_ continued
  · rw [List.append_nil]
    exact ⟨e, present, forestalled.claimed, forestalled.told,
      (origins_of_run led).2.harmless present forestalled⟩
  · rintro moves move before past after shown - ⟨f, there, claimed, told, harmless⟩ stepped
    obtain ⟨g, next, fate⟩ := persists (steps_of_recorded? stepped) there
    obtain ⟨still, raised⟩ := told_of_fate claimed told fate
    refine ⟨g, next, still, raised, ?_⟩
    rw [← List.append_assoc, chronicle_append]
    exact harmless_of_fate harmless fate fun unclaimed => absurd unclaimed claimed

/-- Without a claim the phase becomes running only when a sweep starts its stages while the flag
that a stop request raises is down, and the claim stays with its holder. -/
theorem running_of_step (steps : Steps c move next shown)
    (same : next.slot.generation = c.slot.generation) :
    next.slot.holder = c.slot.holder ∧
      (next.slot.phase = .running → c.slot.phase = .running ∨ c.holderCancelled = false) := by
  have claim {claimant : Nat} {slot : Slot} (free : c.slot.claim? claimant = some slot) :
      slot.generation ≠ c.slot.generation := by
    obtain ⟨-, -, counted, -⟩ := claim?_eq_some free
    omega
  cases steps with
  | started slot free => exact absurd same (claim free)
  | admitted index flag e slot present unclaimed free => exact absurd same (claim free)
  | moved index inner e progress present made =>
    refine ⟨(heard_claim c progress.slot).2, fun running => ?_⟩
    have running : (c.heard progress.slot).phase = .running := running
    cases announced : progress.slot with
    | none =>
      rw [announced] at running
      exact Or.inl running
    | some change =>
      rw [announced] at running
      cases change with
      | enter =>
        cases raised : c.holderCancelled with
        | false => exact Or.inr rfl
        | true => simp [heard, Slot.apply, raised] at running
      | drain => cases running
      | rest => cases running
      | complete report => cases running
  | gaveUp index e generation present held halted =>
    simp only [Slot.giveUp]
    split
    · exact ⟨rfl, fun running => by cases running⟩
    · exact ⟨rfl, Or.inl⟩
  | stopped =>
    simp only [stop, Slot.stop]
    split
    · exact ⟨rfl, fun running => by cases running⟩
    · exact ⟨rfl, Or.inl⟩
  | _ => exact ⟨rfl, Or.inl⟩

/-- No move takes a claim back. -/
theorem generation_step (steps : Steps c move next shown) :
    c.slot.generation ≤ next.slot.generation := by
  have claim {claimant : Nat} {slot : Slot} (free : c.slot.claim? claimant = some slot) :
      c.slot.generation ≤ slot.generation := by
    obtain ⟨-, -, counted, -⟩ := claim?_eq_some free
    omega
  cases steps with
  | started slot free => exact claim free
  | admitted index flag e slot present unclaimed free => exact claim free
  | moved index inner e progress present made =>
    exact Nat.le_of_eq (heard_claim c progress.slot).1.symm
  | gaveUp index e generation present held halted =>
    simp only [Slot.giveUp]
    split <;> exact Nat.le_refl _
  | stopped => exact Nat.le_of_eq (stop_slot c.slot).1.symm
  | _ => exact Nat.le_refl _

/-- A sweep under way holds the latest claim, and the phase is one that its driver allows. -/
theorem Occupancy.of_engaged (occupancy : Occupancy c) (present : c.engagements[index]? = some e)
    (engaged : e.sweep.driver.isEngaged = true) :
    c.slot.holder = some index ∧ e.sweep.driver.allows c.slot.phase = true := by
  obtain ⟨latest, -⟩ := occupancy.tenancy.current index e present engaged
  have unfinished : e.IsUnfinished := by
    refine ⟨by rw [latest]; exact Option.some_ne_none _, ?_⟩
    cases driver : e.sweep.driver <;> simp_all [Driver.isEngaged, Driver.hasReported]
  exact ((occupancy.fits index e present).unfinished unfinished).2.2

/-- A sweep that has claimed the sweeper and not acquired the guard is under way. -/
theorem engaged_of_opening {driver : Driver} (opening : driver.isOpening = true)
    (claimed : driver ≠ .unclaimed) :
    driver.isEngaged = true := by
  cases driver <;> simp_all [Driver.isOpening, Driver.isEngaged]

/-- A sweep that is told to wind down while it asks for the guard is not shown as running
afterwards, until another sweep claims the sweeper. -/
theorem not_running_along {first rest : List Move} {mid : Sweeper} {early later : Log}
    (led : run? (.ofSettings s) first = some (mid, early))
    (continued : run? mid rest = some (c, later)) (present : mid.engagements[index]? = some e)
    (claimed : e.sweep.driver ≠ .unclaimed) (told : e.sweep.work.isCancelled = true)
    (opening : e.sweep.driver.isOpening = true)
    (unclaimed : c.slot.generation = mid.slot.generation) : c.slot.phase ≠ .running := by
  obtain ⟨holder, allowed⟩ :=
    (occupancy_along led).of_engaged present (engaged_of_opening opening claimed)
  have quiet : mid.slot.phase ≠ .running := by
    intro running
    cases driver : e.sweep.driver <;> simp_all [Driver.isOpening, Driver.allows]
  refine (Execution.induction_along (motive := fun _ c _ =>
    (∃ e, c.engagements[index]? = some e ∧ e.sweep.driver ≠ .unclaimed ∧
      e.sweep.work.isCancelled = true) ∧ mid.slot.generation ≤ c.slot.generation ∧
      (c.slot.generation = mid.slot.generation → c.slot.holder = some index ∧
        c.slot.phase ≠ .running))
    ?_ ?_ continued).2.2 unclaimed |>.2
  · exact ⟨⟨e, present, claimed, told⟩, Nat.le_refl _, fun _ => ⟨holder, quiet⟩⟩
  · rintro moves move before past after shown - ⟨⟨f, there, claimed, told⟩, counted, hushed⟩ stepped
    have steps := steps_of_recorded? stepped
    have grown := generation_step steps
    obtain ⟨g, next, fate⟩ := persists steps there
    refine ⟨⟨g, next, told_of_fate claimed told fate⟩, Nat.le_trans counted grown, fun same => ?_⟩
    have still : before.slot.generation = mid.slot.generation := by omega
    obtain ⟨holder, quiet⟩ := hushed still
    obtain ⟨kept, entered⟩ := running_of_step steps (same.trans still.symm)
    refine ⟨kept.trans holder, fun running => ?_⟩
    rcases entered running with was | lowered
    · exact quiet was
    · simp [holderCancelled, holder, there, told] at lowered

/-- A stop request tells the sweep under way to wind down. -/
theorem forestalled_of_stop (occupancy : Occupancy c) (present : c.engagements[index]? = some e)
    (engaged : e.sweep.driver.isEngaged = true)
    (unanswered : scanAnswers (Sweep.stageCalls (chronicle index log)) = []) :
    ∃ after, c.stop.engagements[index]? = some after ∧
      after.sweep.Forestalled (chronicle index log) := by
  refine ⟨cancelSweep e, ?_, ?_, Work.isCancelled_cancel _, unanswered⟩
  · rw [stop_getElem?, present, (occupancy.of_engaged present engaged).1]
    simp [stopped]
  · intro unclaimed
    rw [show e.sweep.driver = .unclaimed from unclaimed] at engaged
    cases engaged

/-- Raising the flag of its caller tells a sweep to wind down. -/
theorem forestalled_of_signal {caller : Nat} (present : c.engagements[index]? = some e)
    (claimed : e.sweep.driver ≠ .unclaimed) (below : e.caller = some caller)
    (unanswered : scanAnswers (Sweep.stageCalls (chronicle index log)) = []) :
    ∃ after, (c.cancelCaller caller).engagements[index]? = some after ∧
      after.sweep.Forestalled (chronicle index log) := by
  refine ⟨cancelSweep e, ?_, claimed, Work.isCancelled_cancel _, unanswered⟩
  simp [cancelCaller, present, claimed, below]

/-- A sweep that claims below a raised flag is told to wind down, unless it is refused. -/
theorem forestalled_of_claim (origins : Origins c log)
    (claimed : c.recorded? (.claim index true) = some (next, shown)) :
    ∃ after, next.engagements[index]? = some after ∧
      (after.sweep.Forestalled (chronicle index (log ++ shown)) ∨
        after.sweep.driver = .finished .alreadyRunning) := by
  cases steps_of_recorded? claimed with
  | admitted index flag e slot present unclaimed free =>
    refine ⟨_, List.getElem?_set_self (List.getElem?_eq_some_iff.mp present).1, Or.inl ?_⟩
    obtain ⟨blank, -⟩ := (origins.come index e present).unclaimed unclaimed
    rw [List.append_nil, blank]
    exact ⟨Driver.noConfusion, rfl, rfl⟩
  | refused index flag e present unclaimed busy =>
    exact ⟨_, List.getElem?_set_self (List.getElem?_eq_some_iff.mp present).1, Or.inr rfl⟩

/-- A sweep that was told to wind down in time and acquired the guard comes out with nothing
deleted. -/
theorem Origins.endsEmpty {outcome : SweepOutcome} (origins : Origins c log)
    (present : c.engagements[index]? = some e) (harmless : e.sweep.Harmless (chronicle index log))
    (finished : e.sweep.driver = .finished outcome)
    (acquired : Sweep.HasAcquired c.settings (chronicle index log)) :
    Sweep.EndsEmpty c.settings (chronicle index log) outcome := by
  rcases origins.come index e present with ⟨never, -⟩ | ⟨flag, moves, ran⟩
  · exact absurd (Sweep.mem_trail.mp acquired.1) (never.silent _ _)
  · exact harmless.endsEmpty ran finished acquired

end Sweeper

namespace Sweep

variable {s : Settings} {run : Unending (recorded? s)} {flag : Bool} {moment : Nat}

/-- In a run that goes on for ever, a sweep that was told to wind down in time is harmless ever
after. -/
theorem harmless_later (begins : run.state 0 = .claimed flag)
    (forestalled : (run.state moment).Forestalled (run.log moment)) {later : Nat}
    (after : moment ≤ later) :
    (run.state later).Harmless (run.log later) := by
  induction after with
  | refl => exact harmless_of_forestalled forestalled (begins ▸ run.reached moment)
  | @step later _ inductionHypothesis =>
    rw [run.log_succ]
    cases made : run.made later with
    | none =>
      obtain ⟨same, nothing⟩ := run.still later made
      rw [same, nothing, List.append_nil]
      exact inductionHypothesis
    | some move =>
      obtain ⟨progress, stepped, state, shown⟩ := recorded?_eq_some (run.moved later move made)
      rw [state, shown]
      exact inductionHypothesis.step (steps_of_step? stepped)

/-- A sweep that is told to wind down in time and that nobody drops comes out, and if it acquired
the guard, then with nothing deleted. -/
theorem endsEmpty_at_last (begins : run.state 0 = .claimed flag) (fair : IsFair run)
    (kept : ∀ moment canSpawn, run.made moment ≠ some (.drop canSpawn))
    (forestalled : (run.state moment).Forestalled (run.log moment)) :
    ∃ outcome last, ∀ later, last ≤ later → (run.state later).driver = .finished outcome ∧
      (HasAcquired s (run.log later) → EndsEmpty s (run.log later) outcome) := by
  obtain ⟨outcome, last, finished⟩ :=
    outcome_at_last begins fair kept (Or.inr ⟨moment, forestalled.told⟩)
  refine ⟨outcome, max last moment, fun later beyond => ?_⟩
  have out := finished later (by omega)
  have harmless := harmless_later begins forestalled (show moment ≤ later by omega)
  exact ⟨out, harmless.endsEmpty (begins ▸ run.reached later) out⟩

end Sweep

namespace Process

variable {p next : Process} {move : Move} {shown : Sweeper.Log}

/-- A sweep of the schedule that has not claimed the sweeper when the flag of the schedule is
raised, or is not even asked for by then, is harmless. -/
theorem harmless_after_signal {s : Settings} {store : Store} {interval : Nat}
    {first rest : List Move} {mid : Process} {early later : Sweeper.Log} {index : Nat}
    {e : Engagement} (led : run? (opened s store interval) first = some (mid, early))
    (continued : run? mid rest = some (p, later)) (raised : mid.raised = true)
    (late : ∀ e, mid.engagement? index = some e → e.sweep.driver = .unclaimed)
    (scheduled : index ∉ p.demanded) (present : p.engagement? index = some e) :
    e.sweep.Harmless (Sweeper.chronicle index (early ++ later)) := by
  have idle {moves : List Move} {q : Process} {past : Sweeper.Log} {f : Engagement}
      (ran : run? mid moves = some (q, past)) (there : q.engagement? index = some f)
      (unclaimed : f.sweep.driver = .unclaimed) :
      f.sweep.Harmless (Sweeper.chronicle index (early ++ past)) := by
    obtain ⟨turns, whole⟩ :=
      workplace_along (Execution.run?_append_iff.mpr ⟨mid, early, past, led, ran, rfl⟩)
    exact .idle ((((Workplace.origins_along whole).2.come index f there).unclaimed unclaimed).2.1)
  refine (Execution.induction_along (motive := fun _ q past => q.raised = true ∧
    ∀ f, index ∉ q.demanded → q.engagement? index = some f →
      f.sweep.Harmless (Sweeper.chronicle index (early ++ past))) ?_ ?_ continued).2 e
        scheduled present
  · have still : run? mid [] = some (mid, []) := rfl
    exact ⟨raised, fun f _ there => idle still there (late f there)⟩
  · rintro moves move q past next shown reached ⟨raised, harmless⟩ stepped
    have steps := (steps_of_step? stepped).2
    obtain ⟨kept, demanded⟩ := kept_of_steps steps
    refine ⟨kept raised, fun f undemanded there => ?_⟩
    have before := fun g => harmless g fun member => undemanded (demanded index member)
    rw [← List.append_assoc, Sweeper.chronicle_append]
    rcases sweeper_of_steps steps with ⟨same, rfl⟩ | ⟨inner, made, flagged, started⟩
    · rw [show Sweeper.chronicle index [] = [] from rfl, List.append_nil]
      exact before f (by rw [engagement?, ← same]; exact there)
    · have fate := Sweeper.fate_of_steps made there
      generalize entries : Sweeper.chronicle index shown = added at fate
      cases was : q.workplace.sweeper.engagements[index]? with
      | some g =>
        rw [was] at fate
        exact Sweeper.harmless_of_fate (before g was) fate fun _ flag claims =>
          (flagged index flag claims).trans raised
      | none =>
        rw [was] at fate
        have now :=
          idle (Execution.run?_concat_iff.mpr ⟨q, past, shown, reached, stepped, rfl⟩) there
        rw [← List.append_assoc, Sweeper.chronicle_append, entries] at now
        cases fate with
        | requested caller => exact now rfl
        | started slot free =>
          have last : index = q.workplace.sweeper.engagements.length := by
            have there : next.workplace.sweeper.engagements[index]? = some _ := there
            generalize next.workplace.sweeper = after at made there
            cases made with
            | started slot free =>
              rcases Sweeper.append_cases there with ⟨last, -⟩ | before
              · exact last
              · rw [was] at before
                cases before
          exact absurd (last ▸ started rfl) undemanded

end Process

open Sweeper (chronicle)

/-- A sweep that is told to wind down before the scan has answered it touches no key, whatever the
store answers and however its parts interleave.

* There are three ways to be told: a stop request or the caller's flag at any time from the claim
  on, or a claim below a flag that is raised already.
* From then on, and in every state that follows, the sweep has asked the scan for one item at most,
  has inspected and deleted nothing, and waits for no such call. If it was told before it acquired
  the guard, the sweeper is not shown as running until another sweep claims it. If it acquired the
  guard and comes out, it has deleted its guard, and its report says that nothing was deleted,
  unless the code behind that deletion crashed.
* It does come out, if nobody drops it and no part of it is left waiting for ever.
* When the flag of the schedule is raised, the schedule may end or ask for another sweep if a tick
  is due. But a sweep of the schedule that claims the sweeper from then on touches no key. -/
theorem forestalled_touches_nothing (s : Settings) :
    (∀ moves c log index e, Sweeper.run? (.ofSettings s) moves = some (c, log) →
      c.engagements[index]? = some e → scanAnswers (Sweep.stageCalls (chronicle index log)) = [] →
      (e.sweep.driver.isEngaged = true →
        ∃ after, c.stop.engagements[index]? = some after ∧
          after.sweep.Forestalled (chronicle index log)) ∧
      (∀ caller, e.caller = some caller → e.sweep.driver ≠ .unclaimed →
        ∃ after, (c.cancelCaller caller).engagements[index]? = some after ∧
          after.sweep.Forestalled (chronicle index log)) ∧
      ∀ next shown, c.recorded? (.claim index true) = some (next, shown) →
        ∃ after, next.engagements[index]? = some after ∧
          (after.sweep.Forestalled (chronicle index (log ++ shown)) ∨
            after.sweep.driver = .finished .alreadyRunning)) ∧
    (∀ first mid early index e, Sweeper.run? (.ofSettings s) first = some (mid, early) →
      mid.engagements[index]? = some e → e.sweep.Forestalled (chronicle index early) →
      ∀ rest c later, Sweeper.run? mid rest = some (c, later) →
        ∃ after, c.engagements[index]? = some after ∧
          after.sweep.TouchesNothing s (chronicle index (early ++ later)) ∧
          (e.sweep.driver.isOpening = true → c.slot.generation = mid.slot.generation →
            c.slot.phase ≠ .running) ∧
          ∀ outcome, after.sweep.driver = .finished outcome →
            Sweep.HasAcquired s (chronicle index (early ++ later)) →
              Sweep.EndsEmpty s (chronicle index (early ++ later)) outcome) ∧
    (∀ (run : Unending (Sweep.recorded? s)) flag moment, run.state 0 = .claimed flag →
      Sweep.IsFair run → (∀ moment canSpawn, run.made moment ≠ some (.drop canSpawn)) →
      (run.state moment).Forestalled (run.log moment) →
      ∃ outcome last, ∀ later, last ≤ later → (run.state later).driver = .finished outcome ∧
        (Sweep.HasAcquired s (run.log later) → Sweep.EndsEmpty s (run.log later) outcome)) ∧
    ∀ store interval first mid early, Process.run? (.opened s store interval) first =
      some (mid, early) → mid.raised = true →
      (mid.stage.isOver = false → mid.schedule.state = .waiting →
        (mid.step? .quit).isSome = true ∧
          (mid.schedule.isDue mid.clock = true → (mid.step? .tick).isSome = true)) ∧
      ∀ rest p later index e, Process.run? mid rest = some (p, later) →
        (∀ before, mid.engagement? index = some before → before.sweep.driver = .unclaimed) →
        index ∉ p.demanded → p.engagement? index = some e →
          e.sweep.TouchesNothing s (chronicle index (early ++ later)) := by
  refine ⟨?_, ?_, fun run flag moment => Sweep.endsEmpty_at_last, ?_⟩
  · intro moves c log index e ran present unanswered
    refine ⟨fun engaged => Sweeper.forestalled_of_stop (Sweeper.occupancy_along ran) present
      engaged unanswered,
      fun caller below claimed => Sweeper.forestalled_of_signal present claimed below unanswered,
      fun next shown claimed => Sweeper.forestalled_of_claim (Sweeper.origins_of_run ran).2 claimed⟩
  · intro first mid early index e led present forestalled rest c later continued
    obtain ⟨after, there, -, -, harmless⟩ :=
      Sweeper.harmless_along led continued present forestalled
    have whole := Execution.run?_append_iff.mpr ⟨mid, early, later, led, continued, rfl⟩
    obtain ⟨rfl, origins⟩ := Sweeper.origins_of_run whole
    refine ⟨after, there, harmless.touchesNothing, fun opening unclaimed => ?_,
      fun outcome finished acquired => ?_⟩
    · exact Sweeper.not_running_along led continued present forestalled.claimed forestalled.told
        opening unclaimed
    · exact origins.endsEmpty there harmless finished acquired
  · intro store interval first mid early led raised
    refine ⟨fun going waiting => ⟨?_, fun due => ?_⟩,
      fun rest p later index e continued late scheduled present => ?_⟩
    · simp [Process.step?, going, Process.advance?, waiting, raised]
    · simp [Process.step?, going, Process.advance?, Process.tick?, waiting, due, Process.take?,
        Workplace.step?, Sweeper.Move.takesAnswer, Sweeper.recorded?, Sweeper.step?]
    · exact (Process.harmless_after_signal led continued raised late scheduled
        present).touchesNothing

/-- The moves of a sweep that is stopped while it asks for the guard. -/
def stoppedEarly : List Sweeper.Move := [.start, .sweep 0 .begin, .stop]

/-- The moves by which that sweep acquires the guard, gives up the one key that its scan yields, and
comes out. -/
def emptyRest : List Sweeper.Move :=
  [.sweep 0 (.guardChecked (.value false)), .sweep 0 (.guardMarked (.value ())),
    .sweep 0 (.stage (.scanned (.value (some "a")))), .sweep 0 (.stage .takeCandidate),
    .sweep 0 (.stage .takeMatch), .sweep 0 .join, .sweep 0 .join, .sweep 0 .join, .sweep 0 .proceed,
    .sweep 0 (.guardReleased (.value 1) .zero .epoch)]

/-- A sweep that is stopped while it asks for the guard reports that nothing was deleted, although
its scan yields a key; and the schedule of a process, whose signal comes between the request for a
sweep and its claim, has this sweep write the guard and touch no key of the store. -/
theorem forestalled_touches_nothing_stopped :
    (∃ mid early e c later after report, Sweeper.run? (.ofSettings (.ofPattern "a*" 10))
      stoppedEarly =
        some (mid, early) ∧ mid.engagements[0]? = some e ∧ e.sweep.Forestalled (chronicle 0 early) ∧
      Sweeper.run? mid emptyRest = some (c, later) ∧ c.engagements[0]? = some after ∧
      after.sweep.driver = .finished (.completed report) ∧
      after.sweep.TouchesNothing (.ofPattern "a*" 10) (chronicle 0 (early ++ later)) ∧
      c.slot.phase ≠ .running ∧
      Sweep.EndsEmpty (.ofPattern "a*" 10) (chronicle 0 (early ++ later)) (.completed report)) ∧
    ∃ mid early p later e, Process.run? (.opened Workplace.smallSettings Workplace.smallStore 3600)
        [.bound, .tick, .signal] = some (mid, early) ∧ mid.raised = true ∧
      Process.run? mid (.claim 0 :: Process.acquisition ++ [.turn (.call 0 .scanner none)]) =
        some (p, later) ∧
      p.engagement? 0 = some e ∧
      e.sweep.TouchesNothing Workplace.smallSettings (chronicle 0 (early ++ later)) := by
  refine ⟨?_, ?_⟩
  · have first : (Sweeper.run? (.ofSettings (.ofPattern "a*" 10)) stoppedEarly).map (fun reached =>
        (reached.1.slot.generation, reached.1.engagements, reached.2)) =
        some (1, [⟨⟨.checking, .waiting true, .absent⟩, none, some 1⟩], []) := by decide +kernel
    have second :
      ((Sweeper.run? (.ofSettings (.ofPattern "a*" 10)) stoppedEarly).bind fun reached =>
        (Sweeper.run? reached.1 emptyRest).map fun after =>
          (after.1.slot.generation, (after.1.engagements[0]?).map (·.sweep.driver),
            (Sweep.trail (chronicle 0 after.2)).take 2)) =
        some (1, some (.finished (.completed ⟨0, .zero, .epoch⟩)),
          [Sweep.checkCall (.ofPattern "a*" 10) (.value false),
            Sweep.markCall (.ofPattern "a*" 10) (.value ())]) := by
      decide +kernel
    obtain ⟨⟨mid, early⟩, led, same⟩ := Option.map_eq_some_iff.mp first
    simp only [Prod.mk.injEq] at same
    obtain ⟨before, engagements, rfl⟩ := same
    rw [led, Option.bind_some] at second
    obtain ⟨⟨c, later⟩, continued, same⟩ := Option.map_eq_some_iff.mp second
    simp only [Prod.mk.injEq] at same
    obtain ⟨now, out, past⟩ := same
    have present : mid.engagements[0]? = some ⟨⟨.checking, .waiting true, .absent⟩, none,
        some 1⟩ := by
      rw [engagements]
      rfl
    have forestalled : Sweep.Forestalled ⟨.checking, .waiting true, .absent⟩ (chronicle 0 []) :=
      ⟨Driver.noConfusion, rfl, rfl⟩
    obtain ⟨after, there, touches, hidden, comesOut⟩ :=
      (forestalled_touches_nothing (.ofPattern "a*" 10)).2.1
      stoppedEarly mid [] 0 _ led present forestalled emptyRest c later continued
    rw [there, Option.map_some] at out
    have finished := Option.some.inj out
    have acquired : Sweep.HasAcquired (.ofPattern "a*" 10) (chronicle 0 ([] ++ later)) :=
      ⟨List.mem_of_mem_take (i := 2) (by rw [List.nil_append, past]; simp), .value (), rfl,
        List.mem_of_mem_take (i := 2) (by rw [List.nil_append, past]; simp)⟩
    exact ⟨mid, [], _, c, later, after, _, led, present, forestalled, continued, there,
      finished, touches, hidden rfl (now.trans before.symm), comesOut _ finished acquired⟩
  · have seen : ((Process.run? (.opened Workplace.smallSettings Workplace.smallStore 3600)
        [.bound, .tick, .signal]).bind fun reached =>
        (Process.run? reached.1
            (.claim 0 :: Process.acquisition ++ [.turn (.call 0 .scanner none)])).map fun after =>
          (reached.1.raised, (reached.1.engagement? 0).map (·.sweep.driver), after.1.demanded,
            (after.1.engagement? 0).isSome)) =
        some (true, some .unclaimed, [], true) := by
      decide +kernel
    obtain ⟨⟨mid, early⟩, led, rest⟩ := Option.bind_eq_some_iff.mp seen
    obtain ⟨⟨p, later⟩, continued, same⟩ := Option.map_eq_some_iff.mp rest
    simp only [Prod.mk.injEq] at same
    obtain ⟨raised, before, demanded, there⟩ := same
    obtain ⟨e, present⟩ := Option.isSome_iff_exists.mp there
    have late : ∀ e, mid.engagement? 0 = some e → e.sweep.driver = .unclaimed := by
      intro e asked
      rw [asked, Option.map_some] at before
      exact Option.some.inj before
    exact ⟨mid, early, p, later, e, led, raised, continued, present,
      ((forestalled_touches_nothing Workplace.smallSettings).2.2.2 Workplace.smallStore 3600 _ mid
        early led raised).2
        _ p later 0 e continued late (by rw [demanded]; exact List.not_mem_nil) present⟩

end KeySweeper
