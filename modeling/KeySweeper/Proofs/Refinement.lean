import KeySweeper.Proofs.Chronicle
import KeySweeper.Proofs.Flow

/-!
# The stages carry out a list program

Without stages a sweep would be a short program over lists: inspect the keys that the scan yields,
one after the other, and delete those that outlive the threshold. The stages do the same. The keys
inspected are the first ones that the scan yielded, one inspection for each; the keys handed over
are those whose inspection lets them pass, in the same order; and nothing that the scan yielded is
left out unless the sweep was told to wind down before its scanner was done. Only a stage that
crashes is not covered: what it held is lost.
-/

namespace KeySweeper

open Ledger

namespace Pipeline

variable {s : Settings} {p next : Pipeline} {move : Move} {shown : List Effect}
variable {h : List StoreEvent} {lost : List String}

/-- No stage of the pipeline has crashed. -/
def IsSound (p : Pipeline) : Prop := ∀ stage, p.crash? stage = none

/-- A stage that has crashed stays so. -/
theorem sound_of_step (stepped : p.step? s move = some (next, shown)) (sound : next.IsSound) :
    p.IsSound := by
  intro stage
  have after := sound stage
  by_cases outside : move = .cancel
  · subst outside
    obtain ⟨rfl, -⟩ := step_cancel stepped
    exact after
  · obtain ⟨mover, moved⟩ := mover_of_step stepped outside
    by_cases same : stage = mover
    · subst same
      exact intact_of_live moved.live
    · rw [← (moved.others stage same).2]
      exact after

/-- A sound pipeline whose filter is over has ended its scanner first. -/
theorem Flow.scanner_over (flow : Flow s p h lost) (sound : p.IsSound)
    (halted : p.filter.isLive = false) : p.scanner.isLive = false ∧ p.candidates.queue = [] :=
  flow.filterDone (filter_ended halted (sound .filter)) (sound .deleter)

/-- A deleter that is over without a crash holds nothing and leaves nothing behind: its queue is
empty, and the filter is over. -/
theorem Flow.emptied (flow : Flow s p h lost) (sound : p.crash? .deleter = none)
    (halted : p.deleter.isLive = false) :
    p.deleter.held = [] ∧ p.matched.queue = [] ∧ p.filter.isLive = false := by
  have ended := deleter_ended halted sound
  obtain ⟨filterOver, empty⟩ := flow.deleterDone (by rw [ended]; rfl)
  exact ⟨by rw [ended]; rfl, empty, filterOver⟩

/-- Once a deleter is over without a crash, all that was cleared has been handed over. -/
theorem Flow.handed_over_of_deleter (flow : Flow s p h lost) (sound : p.crash? .deleter = none)
    (halted : p.deleter.isLive = false) : handedOver h = cleared s.minTtl h := by
  obtain ⟨held, empty, filterOver⟩ := flow.emptied sound halted
  have inHand : p.filter.toSend = [] := by
    cases state : p.filter with
    | offering key =>
      rw [state] at filterOver
      cases filterOver
    | _ => rfl
  have account := flow.downstream sound
  simp only [held, empty, inHand, List.append_nil] at account
  exact account.symm

/-- Once the deleter of a sound pipeline is over, all that was cleared has been handed over. -/
theorem Flow.handed_over (flow : Flow s p h lost) (sound : p.IsSound)
    (halted : p.deleter.isLive = false) : handedOver h = cleared s.minTtl h :=
  flow.handed_over_of_deleter (sound .deleter) halted

/-- Once the filter of a sound pipeline is over, all that was found and not lost has been
inspected. -/
theorem Flow.all_inspected (flow : Flow s p h lost) (sound : p.IsSound)
    (halted : p.filter.isLive = false) : found h = inspected h ++ lost := by
  obtain ⟨scannerOver, empty⟩ := flow.scanner_over sound halted
  have atFilter : p.filter.toInspect = [] := by
    cases state : p.filter with
    | inspecting key =>
      rw [state] at halted
      cases halted
    | _ => rfl
  have atScanner : p.scanner.inHand = [] := by
    cases state : p.scanner with
    | offering key =>
      rw [state] at scannerOver
      cases scannerOver
    | _ => rfl
  simpa only [atFilter, empty, atScanner, List.append_nil] using flow.upstream

/-- The answer of a scan after which nothing more is asked of it, a crash aside. -/
def EndsScan (answer : Answer (Option String)) : Prop :=
  answer = .value none ∨ ∃ cause, answer = .failed cause

/-- The scan was asked up to its end and no further: it first yielded all the keys found, and at
most one other answer ended it. -/
structure Course (p : Pipeline) (h : List StoreEvent) : Prop where
  order : scanAnswers h = (found h).map (fun key => .value (some key)) ++ scanEnds h
  unended : p.scanner.isLive = true → scanEnds h = []
  ended : p.scanner = .ended → ∃ last, scanEnds h = [last] ∧ EndsScan last

/-- Fresh stages have asked nothing. -/
theorem Course.fresh (control : Control) : Course (.fresh control) [] where
  order := rfl
  unended _ := rfl
  ended impossible := nomatch impossible

/-- As long as the sweep does not wind down and the filter is there, the scanner asks on until the
scan ends. -/
theorem Course.step (course : Course p h)
    (calm : p.scanner.isLive = true → p.control.cancelled = false ∧ p.filter.isLive = true)
    (stepped : p.step? s move = some (next, shown)) : Course next (h ++ calls shown) := by
  have same (shown' : calls shown = []) (scanner : next.scanner = p.scanner) :
      Course next (h ++ calls shown) := by
    rw [shown', List.append_nil]
    exact ⟨course.order, scanner ▸ course.unended, scanner ▸ course.ended⟩
  have elsewhere (event : StoreEvent) (shown' : calls shown = [event])
      (answer : scanAnswer? event = none) (found' : foundKey? event = none)
      (ending : scanEnd? event = none) (scanner : next.scanner = p.scanner) :
      Course next (h ++ calls shown) := by
    rw [shown']
    refine ⟨?_, ?_, ?_⟩
    · simpa [answer, found', ending] using course.order
    · simpa [ending, scanner] using course.unended
    · simpa [ending, scanner] using course.ended
  cases move with
  | scanned answer =>
    obtain ⟨asking, rfl, rfl⟩ := step_scanned stepped
    have live : p.scanner.isLive = true := by rw [asking]; rfl
    obtain ⟨uncancelled, -⟩ := calm live
    have order := course.order
    have open_ := course.unended live
    rw [open_, List.append_nil] at order
    rw [calls_effects]
    cases answer with
    | value result =>
      cases result with
      | none =>
        refine ⟨by simp [order, open_, scanAnswer?, foundKey?, scanEnd?], Bool.noConfusion,
          fun _ => ?_⟩
        exact ⟨.value none, by simp [open_, scanEnd?], Or.inl rfl⟩
      | some key =>
        refine ⟨by simp [order, open_, scanAnswer?, foundKey?, scanEnd?], ?_, ?_⟩
        · simp [open_, scanEnd?]
        · simp [uncancelled, Scanner.afterAnswer]
    | failed cause =>
      refine ⟨by simp [order, open_, scanAnswer?, foundKey?, scanEnd?], Bool.noConfusion,
        fun _ => ?_⟩
      exact ⟨.failed cause, by simp [open_, scanEnd?], Or.inr ⟨cause, rfl⟩⟩
    | crashed text =>
      exact ⟨by simp [order, open_, scanAnswer?, foundKey?, scanEnd?], Bool.noConfusion,
        Scanner.noConfusion⟩
  | offerCandidate =>
    obtain ⟨key, offering, rfl, given⟩ := step_offerCandidate stepped
    have live : p.scanner.isLive = true := by rw [offering]; rfl
    obtain ⟨uncancelled, filterLive⟩ := calm live
    rcases given with ⟨cancelled | gone, -⟩ | ⟨-, -, -, rfl⟩
    · rw [uncancelled] at cancelled
      cases cancelled
    · rw [filterLive] at gone
      cases gone
    · refine ⟨by simpa [calls] using course.order, ?_, Scanner.noConfusion⟩
      simpa [calls] using fun _ => course.unended live
  | takeCandidate =>
    obtain ⟨-, rfl, ⟨key, rest, -, rfl⟩ | ⟨-, -, rfl⟩⟩ := step_takeCandidate stepped
    · exact same rfl rfl
    · exact same rfl rfl
  | inspected answer =>
    obtain ⟨key, -, rfl, rfl⟩ := step_inspected stepped
    exact elsewhere _ (calls_effects ..) rfl rfl rfl rfl
  | offerMatch =>
    obtain ⟨key, -, rfl, ⟨-, rfl⟩ | ⟨-, -, rfl⟩⟩ := step_offerMatch stepped
    · exact same rfl rfl
    · exact same rfl rfl
  | takeMatch =>
    obtain ⟨batch, -, rfl, ⟨key, rest, -, rfl⟩ | ⟨-, -, rfl⟩⟩ := step_takeMatch stepped
    · exact same rfl rfl
    · exact same rfl rfl
  | deleted answer =>
    obtain ⟨batch, waiting, -, rfl, rfl⟩ := step_deleted stepped
    exact elsewhere _ (calls_effects ..) rfl rfl rfl rfl
  | cancel =>
    obtain ⟨rfl, rfl⟩ := step_cancel stepped
    exact same rfl rfl

end Pipeline

namespace Sweep

variable {s : Settings} {flag : Bool} {moves : List Move} {sweep : Sweep} {log : Chronicle}

/-- In no state of the execution was the sweep told to wind down while its scanner was at work. -/
def Undisturbed (s : Settings) (flag : Bool) (moves : List Move) : Prop :=
  ∀ first rest mid early p, moves = first ++ rest →
    run? s (.claimed flag) first = some (mid, early) → mid.work = .running p →
      p.scanner.isLive = true → p.control.cancelled = false

/-- In an undisturbed execution nothing is lost and the scan is asked up to its end. -/
theorem calm_along (undisturbed : Undisturbed s flag moves)
    (ran : run? s (.claimed flag) moves = some (sweep, log)) :
    HoldsOf (fun p h => p.IsSound → Pipeline.Flow s p h [] ∧ p.Course h) (stageCalls log)
      sweep.work := by
  refine (Execution.induction_along (motive := fun moves sweep log => Undisturbed s flag moves →
    sweep.Opening ∧ HoldsOf (fun p h => p.IsSound → Pipeline.Flow s p h [] ∧ p.Course h)
      (stageCalls log) sweep.work) ?_ ?_ ran undisturbed).2
  · exact fun _ => ⟨fun _ => ⟨flag, rfl⟩, rfl⟩
  · intro moves move mid before after shown reached inductionHypothesis stepped undisturbed
    have earlier : Undisturbed s flag moves := by
      intro first rest state early p split
      exact undisturbed first (rest ++ [move]) state early p (by rw [split, List.append_assoc])
    obtain ⟨opening, holds⟩ := inductionHypothesis earlier
    obtain ⟨progress, made, rfl, rfl⟩ := recorded?_eq_some stepped
    have steps := steps_of_step? made
    refine ⟨opening.step steps, ?_⟩
    rw [stageCalls_append]
    refine holds.step (fun _ _ => ⟨.fresh s _, .fresh _⟩) ?_ opening steps
    intro p stageMove next effects running known moved sound
    have soundBefore := Pipeline.sound_of_step moved sound
    obtain ⟨flow, course⟩ := known soundBefore
    have calm (live : p.scanner.isLive = true) :
        p.control.cancelled = false ∧ p.filter.isLive = true := by
      refine ⟨undisturbed moves [move] mid before p rfl reached running live, ?_⟩
      by_contra dead
      have halted := (flow.scanner_over soundBefore (by simpa using dead)).1
      rw [live] at halted
      cases halted
    refine ⟨?_, course.step calm moved⟩
    obtain ⟨lost, flow', rfl | ⟨live, cancelled | gone⟩⟩ := flow.step moved
    · exact flow'
    · rw [(calm live).1] at cancelled
      cases cancelled
    · rw [(calm live).2] at gone
      cases gone

/-- The stages of every sweep keep account of the keys. -/
theorem flow_along (ran : run? s (.claimed flag) moves = some (sweep, log)) :
    HoldsOf (fun p h => ∃ lost, Pipeline.Flow s p h lost) (stageCalls log) sweep.work := by
  refine (holds_along (fun _ => ⟨[], .fresh s _⟩) ?_ ran).2
  rintro p h stageMove after effects ⟨lost, flow⟩ stepped
  obtain ⟨lost', flow', -⟩ := flow.step stepped
  exact ⟨lost', flow'⟩

/-- The stages of a sweep that were started keep account of the keys. -/
theorem flow_of_running (ran : run? s (.claimed flag) moves = some (sweep, log)) {p : Pipeline}
    (running : sweep.work = .running p) : ∃ lost, Pipeline.Flow s p (stageCalls log) lost :=
  (flow_along ran).of_running running

/-- Once the stages of a sweep are over, and none has crashed, all keys that were cleared have been
handed over. -/
theorem handed_over_along (ran : run? s (.claimed flag) moves = some (sweep, log))
    (sound : ∀ stage, sweep.work.crash? stage = none) (quiet : sweep.IsQuiet) :
    handedOver (stageCalls log) = cleared s.minTtl (stageCalls log) := by
  have holds := flow_along ran
  cases work : sweep.work with
  | waiting raised =>
    rw [work] at holds
    have none : stageCalls log = [] := holds
    rw [none]
    rfl
  | running p =>
    obtain ⟨lost, flow⟩ := flow_of_running ran work
    rw [work] at sound
    have soundStages : p.IsSound := sound
    exact flow.handed_over soundStages (quiet p work .deleter)

/-- The stages refine the list program that inspects the keys of the scan in order and deletes those
whose answer lets them pass. In every execution in which no stage crashed, under all answers of the
store and however the stages interleave and the sweep is told to wind down, the keys inspected are
the first ones that the scan yielded, and the keys handed over are the first ones that passed. Once
the stages are over the keys handed over are all that passed. If the sweep was not told to wind down
before its scanner was done, then all keys that the scan yielded were inspected, and the scan was
asked up to its end or its first failure. -/
theorem stages_refine_list (s : Settings) (flag : Bool) (moves : List Move) (sweep : Sweep)
    (log : Chronicle) (ran : run? s (.claimed flag) moves = some (sweep, log))
    (sound : ∀ stage, sweep.work.crash? stage = none) :
    (inspections (stageCalls log)).map (·.1) <+: found (stageCalls log) ∧
    handedOver (stageCalls log) <+:
      ((inspections (stageCalls log)).filter fun item => passes s.minTtl item.2).map (·.1) ∧
    (sweep.IsQuiet →
      handedOver (stageCalls log) =
        ((inspections (stageCalls log)).filter fun item => passes s.minTtl item.2).map (·.1) ∧
      (Undisturbed s flag moves →
        (inspections (stageCalls log)).map (·.1) = found (stageCalls log) ∧
        ∀ p, sweep.work = .running p → ∃ last, Pipeline.EndsScan last ∧
          scanAnswers (stageCalls log) =
            (found (stageCalls log)).map (fun key => .value (some key)) ++ [last])) := by
  rw [← inspected_eq_map, ← cleared_eq_filter]
  have holds := flow_along ran
  cases work : sweep.work with
  | waiting raised =>
    rw [work] at holds
    have none : stageCalls log = [] := holds
    rw [none]
    exact ⟨List.nil_prefix, List.nil_prefix, fun _ =>
      ⟨rfl, fun _ => ⟨rfl, fun _ => Work.noConfusion⟩⟩⟩
  | running p =>
    rw [work] at holds sound
    obtain ⟨lost, flow⟩ : ∃ lost, Pipeline.Flow s p (stageCalls log) lost := holds
    have soundStages : p.IsSound := sound
    refine ⟨?_, flow.submitted, fun quiet => ?_⟩
    · rw [flow.upstream]
      simp only [List.append_assoc]
      exact List.prefix_append ..
    · have halted := quiet p work
      refine ⟨flow.handed_over soundStages (halted .deleter), fun undisturbed => ?_⟩
      have calm := calm_along undisturbed ran
      rw [work] at calm
      obtain ⟨flow, course⟩ := calm soundStages
      have all := flow.all_inspected soundStages (halted .filter)
      rw [List.append_nil] at all
      refine ⟨all.symm, ?_⟩
      intro q same
      have ended : p.scanner = .ended := by
        have intact := soundStages .scanner
        have idle := halted .scanner
        cases state : p.scanner with
        | ended => rfl
        | crashed text => simp [Pipeline.crash?, state] at intact
        | _ => simp [Pipeline.isLive, state, Scanner.isLive] at idle
      obtain ⟨last, single, ending⟩ := course.ended ended
      exact ⟨last, ending, by rw [course.order, single]⟩

/-- A sweep that finds one key, which lives for an hour, and deletes it. -/
def oneKey : List Move :=
  [.begin, .guardChecked (.value false), .guardMarked (.value ()),
    .stage (.scanned (.value (some "a"))), .stage .offerCandidate, .stage .takeCandidate,
    .stage (.inspected (.value (.expires (.ofSeconds 3600)))), .stage .offerMatch,
    .stage (.scanned (.value none)), .stage .takeCandidate, .stage .takeMatch, .stage .takeMatch,
    .stage (.deleted (.value 1))]

/-- The stages of that sweep come to their end, and the one key that passed was handed over. -/
theorem stages_refine_list_one :
    ∃ sweep log, run? (.ofPattern "a*" 10) (.claimed false) oneKey = some (sweep, log) ∧
      (∀ stage, sweep.work.crash? stage = none) ∧ sweep.IsQuiet ∧
      handedOver (stageCalls log) = ((inspections (stageCalls log)).filter fun item =>
        passes (Settings.minTtl (.ofPattern "a*" 10)) item.2).map (·.1) := by
  refine ⟨_, _, rfl, ?_, ?_, ?_⟩
  · intro stage
    cases stage <;> rfl
  · rintro p same stage
    obtain rfl := Work.running.inj same
    cases stage <;> rfl
  · refine ((stages_refine_list (.ofPattern "a*" 10) false oneKey _ _ rfl ?_).2.2 ?_).1
    · intro stage
      cases stage <;> rfl
    · rintro p same stage
      obtain rfl := Work.running.inj same
      cases stage <;> rfl

end Sweep

end KeySweeper
