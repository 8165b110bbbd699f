import KeySweeper.Proofs.Refinement

/-!
# What the stages have sent on

A key that a stage has sent waits in a queue until the next stage takes it. So the keys that a stage
has sent are told by its queue: each of them came into the queue in one of the steps of the
execution. They are the keys that the next stage has dealt with, then the one in its hands, then
those still queued. That account does not ask how the sender is doing. It holds on when the sender
crashes, and a receiver that comes to its end without a crash has then dealt with everything that
was sent to it.

What the sender still had in its own hands is not part of the account: a stage that crashes or stops
takes it along.
-/

namespace KeySweeper

open Ledger

/-- The keys on their way from the scanner to the filter. Before the stages start there are none. -/
def Work.candidates : Work → List String
  | .waiting _ => []
  | .running p => p.candidates.queue

/-- The keys on their way from the filter to the deleter. Before the stages start there are none. -/
def Work.matched : Work → List String
  | .waiting _ => []
  | .running p => p.matched.queue

namespace Pipeline

/-- The keys sent into the two queues are those that the stages behind them have dealt with, then
those in the hands of these stages, then those still queued. A deleter that crashes takes along what
it held. -/
structure Conveyed (p : Pipeline) (h : List StoreEvent)
    (delivered forwarded : List String) : Prop where
  toFilter : delivered = inspected h ++ p.filter.toInspect ++ p.candidates.queue
  toDeleter : p.crash? .deleter = none →
    forwarded = handedOver h ++ p.deleter.held ++ p.matched.queue

/-- Fresh stages have sent nothing. -/
theorem Conveyed.fresh (control : Control) : Conveyed (.fresh control) [] [] [] where
  toFilter := rfl
  toDeleter _ := rfl

variable {s : Settings} {p next : Pipeline} {move : Move} {shown : List Effect}
variable {h : List StoreEvent} {delivered forwarded : List String} {lost : List String}

/-- A step keeps the account of the filter: a key comes into it only by being queued for the
filter. -/
theorem Conveyed.toFilter_step (conveyed : Conveyed p h delivered forwarded)
    (stepped : p.step? s move = some (next, shown)) :
    delivered ++ next.candidates.queue.drop p.candidates.queue.length =
      inspected (h ++ calls shown) ++ next.filter.toInspect ++ next.candidates.queue := by
  have account := conveyed.toFilter
  cases steps_of_step? stepped with
  | scanned answer asking => simpa [inspectedKey?] using account
  | candidateLost key offering reason => simpa [calls] using account
  | candidateSent key offering uncancelled live room => simp [account, calls, Handoff.push]
  | candidateTaken key rest waiting queued =>
    rw [show p.filter.toInspect = [] by rw [waiting]; rfl] at account
    simp [account, queued, calls, Filter.toInspect]
  | candidatesEnded waiting queued halted =>
    rw [show p.filter.toInspect = [] by rw [waiting]; rfl] at account
    simp [account, calls, Filter.toInspect]
  | inspected answer key inspecting =>
    rw [show p.filter.toInspect = [key] by rw [inspecting]; rfl] at account
    simp [account, toInspect_afterAnswer, inspectedKey?]
  | matchLost key offering gone =>
    rw [show p.filter.toInspect = [] by rw [offering]; rfl] at account
    simp [account, calls, Filter.toInspect]
  | matchSent key offering live room =>
    rw [show p.filter.toInspect = [] by rw [offering]; rfl] at account
    simp [account, calls, Filter.toInspect]
  | matchTaken batch key rest collecting queued => simpa [calls] using account
  | matchesEnded batch collecting queued halted => simpa [calls] using account
  | deleted answer batch waiting deleting => simpa [inspectedKey?] using account
  | cancelled => simpa [calls] using account

/-- A step keeps the account of the deleter as long as the deleter does not crash in it. -/
theorem Conveyed.toDeleter_step (conveyed : Conveyed p h delivered forwarded)
    (stepped : p.step? s move = some (next, shown)) (sound : next.crash? .deleter = none) :
    forwarded ++ next.matched.queue.drop p.matched.queue.length =
      handedOver (h ++ calls shown) ++ next.deleter.held ++ next.matched.queue := by
  cases steps_of_step? stepped with
  | scanned answer asking => simpa [deletedBatch?] using conveyed.toDeleter sound
  | inspected answer key inspecting => simpa [deletedBatch?] using conveyed.toDeleter sound
  | matchSent key offering live room => simp [conveyed.toDeleter sound, calls, Handoff.push]
  | matchTaken batch key rest collecting queued =>
    have account := conveyed.toDeleter (by simp only [crash?, collecting])
    rw [show p.deleter.held = batch by rw [collecting]; rfl] at account
    simp [account, queued, held_accept, calls]
  | matchesEnded batch collecting queued halted =>
    have account := conveyed.toDeleter (by simp only [crash?, collecting])
    rw [show p.deleter.held = batch by rw [collecting]; rfl] at account
    simp [account, held_flush, calls]
  | deleted answer batch waiting deleting =>
    have account := conveyed.toDeleter (by simp only [crash?, deleting])
    rw [show p.deleter.held = batch ++ waiting.toList by rw [deleting]; rfl] at account
    have kept : (Deleter.afterAnswer waiting answer).held = waiting.toList :=
      held_afterAnswer rfl sound
    simp [account, kept, deletedBatch?]
  | _ => simpa [calls] using conveyed.toDeleter sound

/-- Every step of the stages keeps both accounts. -/
theorem Conveyed.step (conveyed : Conveyed p h delivered forwarded)
    (stepped : p.step? s move = some (next, shown)) :
    Conveyed next (h ++ calls shown)
      (delivered ++ next.candidates.queue.drop p.candidates.queue.length)
      (forwarded ++ next.matched.queue.drop p.matched.queue.length) where
  toFilter := conveyed.toFilter_step stepped
  toDeleter := conveyed.toDeleter_step stepped

/-- Once a deleter is over without a crash, all that the filter has forwarded has been handed
over. -/
theorem Conveyed.forwarded_handed_over (conveyed : Conveyed p h delivered forwarded)
    (flow : Flow s p h lost) (sound : p.crash? .deleter = none)
    (halted : p.deleter.isLive = false) :
    forwarded = handedOver h := by
  obtain ⟨held, empty, -⟩ := flow.emptied sound halted
  simpa only [held, empty, List.append_nil] using conveyed.toDeleter sound

/-- Once a filter is over without a crash of its own or of the deleter, all that the scanner has
delivered has been inspected. -/
theorem Conveyed.delivered_inspected (conveyed : Conveyed p h delivered forwarded)
    (flow : Flow s p h lost) (sound : p.crash? .filter = none) (behind : p.crash? .deleter = none)
    (halted : p.filter.isLive = false) :
    delivered = inspected h := by
  have ended := filter_ended halted sound
  have account := conveyed.toFilter
  rw [(flow.filterDone ended behind).2, ended] at account
  simpa only [Filter.toInspect, List.append_nil] using account

end Pipeline

namespace Sweep

/-- The keys that were sent into a queue in an execution, in order: in each step the keys at the end
of the queue that were not there before. -/
def sent (s : Settings) (queue : Work → List String) (flag : Bool)
    (moves : List Move) : List String :=
  Execution.readings (recorded? s) (fun before after =>
    (queue after.work).drop (queue before.work).length)
    (.claimed flag) moves

/-- The keys that the scanner has delivered to the filter. -/
abbrev delivered (s : Settings) : Bool → List Move → List String := sent s Work.candidates

/-- The keys that the filter has forwarded to the deleter. -/
abbrev forwarded (s : Settings) : Bool → List Move → List String := sent s Work.matched

variable {s : Settings} {flag : Bool} {moves : List Move} {move : Move} {sweep mid : Sweep}
  {log : Chronicle}

/-- One more step adds what comes into the queue in it. -/
theorem sent_concat {queue : Work → List String} {before shown : Chronicle}
    (reached : run? s (.claimed flag) moves = some (mid, before))
    (stepped : mid.recorded? s move = some (sweep, shown)) :
    sent s queue flag (moves ++ [move]) =
      sent s queue flag moves ++ (queue sweep.work).drop (queue mid.work).length :=
  Execution.readings_concat reached stepped

/-- The account of what was sent, for the work of a sweep: before its stages start nothing was. -/
def Conveyed (h : List StoreEvent) (delivered forwarded : List String) : Work → Prop
  | .waiting _ => h = [] ∧ delivered = [] ∧ forwarded = []
  | .running p => p.Conveyed h delivered forwarded

/-- Whatever a step of a sweep means for its stages, it keeps the account. -/
theorem Conveyed.step {h called : List StoreEvent} {delivered forwarded : List String}
    {before after : Work} (conveyed : Conveyed h delivered forwarded before)
    (onward : WorkStep s before after called) :
    Conveyed (h ++ called) (delivered ++ after.candidates.drop before.candidates.length)
      (forwarded ++ after.matched.drop before.matched.length) after := by
  cases onward with
  | still work => simpa only [List.drop_length, List.append_nil] using conveyed
  | told flag =>
    obtain ⟨rfl, rfl, rfl⟩ := conveyed
    exact ⟨rfl, rfl, rfl⟩
  | started flag raised =>
    obtain ⟨rfl, rfl, rfl⟩ := conveyed
    exact Pipeline.Conveyed.fresh (.fresh raised)
  | staged stageMove p next shown stepped => exact Pipeline.Conveyed.step conveyed stepped

/-- The stages of every sweep keep account of what they send. -/
theorem conveyed_along (ran : run? s (.claimed flag) moves = some (sweep, log)) :
    Conveyed (stageCalls log) (delivered s flag moves) (forwarded s flag moves) sweep.work := by
  refine Execution.induction_along (motive := fun moves sweep log =>
    Conveyed (stageCalls log) (delivered s flag moves) (forwarded s flag moves) sweep.work)
    ?_ ?_ ran
  · exact ⟨rfl, rfl, rfl⟩
  · intro moves move mid before next shown reached inductionHypothesis stepped
    rw [delivered, forwarded, sent_concat reached stepped, sent_concat reached stepped,
      stageCalls_append]
    obtain ⟨progress, made, rfl, rfl⟩ := recorded?_eq_some stepped
    exact inductionHypothesis.step (workStep_of_steps (opening_along reached) (steps_of_step? made))

/-- The stages of a sweep that were started keep account of what they send. -/
theorem conveyed_of_running (ran : run? s (.claimed flag) moves = some (sweep, log)) {p : Pipeline}
    (running : sweep.work = .running p) :
    p.Conveyed (stageCalls log) (delivered s flag moves) (forwarded s flag moves) := by
  have conveyed := conveyed_along ran
  rw [running] at conveyed
  exact conveyed

end Sweep

end KeySweeper
