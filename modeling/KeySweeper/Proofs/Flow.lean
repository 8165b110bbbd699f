import KeySweeper.Proofs.Ledger
import KeySweeper.Proofs.Stages

/-!
# Where the keys of a pipeline are

At every moment the ledger of a pipeline and the hands and queues of its stages account for each
other. Upstream, the keys that the scan yielded are those inspected, then the one that the filter
asks about, those queued, the one in the scanner's hand, and at the very end those that were lost
when the scanner stopped. Downstream, the keys cleared by the filter are those handed over for
deletion, then those that the deleter holds, those queued, and the one in the filter's hand. Both
are equations between lists, so no key is lost, doubled or overtaken on the way.

A crash of the deleter loses what is downstream of it; the equation then weakens to a prefix. The
account also says what the end of a stage means: a filter that has ended has emptied its queue after
the scanner, and a deleter that collects no more has emptied its own after the filter.
-/

namespace KeySweeper

open Ledger

/-- The key that a scanner has yet to send. -/
def Scanner.inHand : Scanner → List String
  | .offering key => [key]
  | _ => []

/-- The key that a filter asks about. -/
def Filter.toInspect : Filter → List String
  | .inspecting key => [key]
  | _ => []

/-- The key that a filter has yet to send. -/
def Filter.toSend : Filter → List String
  | .offering key => [key]
  | _ => []

/-- The keys that a deleter has taken and not yet deleted. -/
def Deleter.held : Deleter → List String
  | .collecting batch => batch
  | .deleting batch waiting => batch ++ waiting.toList
  | _ => []

/-- Whether a deleter has found that no more keys can come. -/
def Deleter.isClosing : Deleter → Bool
  | .deleting _ none => true
  | .ended => true
  | _ => false

namespace Pipeline

/-- The ledger `h` and the stages of the pipeline account for each other, with `lost` the keys that
the scanner took with it when it stopped. -/
structure Flow (s : Settings) (p : Pipeline) (h : List StoreEvent) (lost : List String) : Prop where
  upstream : found h =
    inspected h ++ p.filter.toInspect ++ p.candidates.queue ++ p.scanner.inHand ++ lost
  kept : p.scanner.isLive = true → lost = []
  downstream : p.crash? .deleter = none → cleared s.minTtl h =
    handedOver h ++ p.deleter.held ++ p.matched.queue ++ p.filter.toSend
  submitted : handedOver h <+: cleared s.minTtl h
  filterDone : p.filter = .ended → p.crash? .deleter = none →
    p.scanner.isLive = false ∧ p.candidates.queue = []
  deleterDone : p.deleter.isClosing = true → p.filter.isLive = false ∧ p.matched.queue = []

/-- Before its first step a pipeline has nothing to account for. -/
theorem Flow.fresh (s : Settings) (control : Control) : Flow s (.fresh control) [] [] where
  upstream := rfl
  kept _ := rfl
  downstream _ := rfl
  submitted := List.nil_prefix
  filterDone impossible := nomatch impossible
  deleterDone impossible := nomatch impossible

variable {s : Settings} {p next : Pipeline} {move : Move} {shown : List Effect}
variable {h : List StoreEvent} {lost : List String}

/-- A deleter that is over without a crash has ended. -/
theorem deleter_ended (halted : p.deleter.isLive = false) (sound : p.crash? .deleter = none) :
    p.deleter = .ended := by
  cases state : p.deleter with
  | collecting batch => simp [state, Deleter.isLive] at halted
  | deleting batch waiting => simp [state, Deleter.isLive] at halted
  | ended => rfl
  | crashed text => simp [crash?, state] at sound

/-- A scanner that is over without a crash has ended. -/
theorem scanner_ended (halted : p.scanner.isLive = false) (sound : p.crash? .scanner = none) :
    p.scanner = .ended := by
  cases state : p.scanner with
  | asking => simp [state, Scanner.isLive] at halted
  | offering key => simp [state, Scanner.isLive] at halted
  | ended => rfl
  | crashed text => simp [crash?, state] at sound

/-- A filter that is over without a crash has ended. -/
theorem filter_ended (halted : p.filter.isLive = false) (sound : p.crash? .filter = none) :
    p.filter = .ended := by
  cases state : p.filter with
  | waiting => simp [state, Filter.isLive] at halted
  | inspecting key => simp [state, Filter.isLive] at halted
  | offering key => simp [state, Filter.isLive] at halted
  | ended => rfl
  | crashed text => simp [crash?, state] at sound

/-- An answered inspection leaves the filter with nothing to ask about. -/
theorem toInspect_afterAnswer (threshold : Duration) (key : String) (answer : Answer Ttl) :
    (Filter.afterAnswer threshold key answer).toInspect = [] := by
  unfold Filter.afterAnswer
  split
  · split <;> rfl
  · rfl
  · rfl

/-- Upstream, a key leaves the account only when the scanner stops with a key in its hand. That
takes a sweep that winds down or a filter that is gone. -/
theorem Flow.upstream_step (flow : Flow s p h lost)
    (stepped : p.step? s move = some (next, shown)) :
    ∃ after, found (h ++ calls shown) = inspected (h ++ calls shown) ++ next.filter.toInspect ++
        next.candidates.queue ++ next.scanner.inHand ++ after ∧
      (next.scanner.isLive = true → after = []) ∧
      (after = lost ∨
        p.scanner.isLive = true ∧ (p.control.cancelled = true ∨ p.filter.isLive = false)) := by
  have account := flow.upstream
  cases move with
  | scanned answer =>
    obtain ⟨asking, rfl, rfl⟩ := step_scanned stepped
    have live : p.scanner.isLive = true := by rw [asking]; rfl
    obtain rfl : lost = [] := flow.kept live
    rw [show p.scanner.inHand = [] by rw [asking]; rfl] at account
    cases answer with
    | value result =>
      cases result with
      | none =>
        exact ⟨[], by simp [account, foundKey?, inspectedKey?, Scanner.inHand,
          Scanner.afterAnswer], fun _ => rfl, Or.inl rfl⟩
      | some key =>
        cases cancelled : p.control.cancelled with
        | true =>
          exact ⟨[key], by simp [account, foundKey?, inspectedKey?, Scanner.inHand,
            Scanner.afterAnswer], by simp [Scanner.afterAnswer, Scanner.isLive],
            Or.inr ⟨live, Or.inl rfl⟩⟩
        | false =>
          exact ⟨[], by simp [account, foundKey?, inspectedKey?, Scanner.inHand,
            Scanner.afterAnswer], fun _ => rfl, Or.inl rfl⟩
    | failed cause =>
      exact ⟨[], by simp [account, foundKey?, inspectedKey?, Scanner.inHand,
        Scanner.afterAnswer], fun _ => rfl, Or.inl rfl⟩
    | crashed text =>
      exact ⟨[], by simp [account, foundKey?, inspectedKey?, Scanner.inHand,
        Scanner.afterAnswer], fun _ => rfl, Or.inl rfl⟩
  | offerCandidate =>
    obtain ⟨key, offering, rfl, given⟩ := step_offerCandidate stepped
    have live : p.scanner.isLive = true := by rw [offering]; rfl
    obtain rfl : lost = [] := flow.kept live
    rw [show p.scanner.inHand = [key] by rw [offering]; rfl] at account
    rcases given with ⟨reason, rfl⟩ | ⟨_, _, _, rfl⟩
    · exact ⟨[key], by simp [account, calls, Scanner.inHand], by simp [Scanner.isLive],
        Or.inr ⟨live, reason⟩⟩
    · exact ⟨[], by simp [account, calls, Scanner.inHand, Handoff.push], fun _ => rfl,
        Or.inl rfl⟩
  | takeCandidate =>
    obtain ⟨waiting, rfl, taken⟩ := step_takeCandidate stepped
    rw [show p.filter.toInspect = [] by rw [waiting]; rfl] at account
    rcases taken with ⟨key, rest, queued, rfl⟩ | ⟨queued, _, rfl⟩
    · exact ⟨lost, by simp [account, queued, calls, Filter.toInspect], flow.kept, Or.inl rfl⟩
    · exact ⟨lost, by simp [account, queued, calls, Filter.toInspect], flow.kept, Or.inl rfl⟩
  | inspected answer =>
    obtain ⟨key, inspecting, rfl, rfl⟩ := step_inspected stepped
    rw [show p.filter.toInspect = [key] by rw [inspecting]; rfl] at account
    exact ⟨lost, by simp [account, toInspect_afterAnswer, foundKey?, inspectedKey?],
      flow.kept, Or.inl rfl⟩
  | offerMatch =>
    obtain ⟨key, offering, rfl, given⟩ := step_offerMatch stepped
    rw [show p.filter.toInspect = [] by rw [offering]; rfl] at account
    rcases given with ⟨_, rfl⟩ | ⟨_, _, rfl⟩
    · exact ⟨lost, by simp [account, calls, Filter.toInspect], flow.kept, Or.inl rfl⟩
    · exact ⟨lost, by simp [account, calls, Filter.toInspect], flow.kept, Or.inl rfl⟩
  | takeMatch =>
    obtain ⟨batch, _, rfl, ⟨key, rest, _, rfl⟩ | ⟨_, _, rfl⟩⟩ := step_takeMatch stepped
    · exact ⟨lost, by simp [account, calls], flow.kept, Or.inl rfl⟩
    · exact ⟨lost, by simp [account, calls], flow.kept, Or.inl rfl⟩
  | deleted answer =>
    obtain ⟨batch, waiting, _, rfl, rfl⟩ := step_deleted stepped
    exact ⟨lost, by simp [account, foundKey?, inspectedKey?], flow.kept, Or.inl rfl⟩
  | cancel =>
    obtain ⟨rfl, rfl⟩ := step_cancel stepped
    exact ⟨lost, by simp [account, calls], flow.kept, Or.inl rfl⟩

/-- A deleter that takes one more key holds it behind the others. -/
theorem held_accept (size : Nat) (batch : List String) (key : String) :
    (Deleter.accept size batch key).held = batch ++ [key] := by
  unfold Deleter.accept
  split <;> rfl

/-- A deleter that has found its inbox closed still holds its batch. -/
theorem held_flush (batch : List String) : (Deleter.flush batch).held = batch := by
  cases batch with
  | nil => rfl
  | cons key rest => simp [Deleter.flush, Deleter.held]

/-- A deleter whose call has come back holds only the key behind its batch. -/
theorem held_afterAnswer {waiting : Option String} {answer : Answer Nat}
    (state : p.deleter = Deleter.afterAnswer waiting answer) (sound : p.crash? .deleter = none) :
    p.deleter.held = waiting.toList := by
  simp only [crash?, state] at sound
  rw [state]
  cases answer with
  | crashed text => cases sound
  | value removed => cases waiting <;> rfl
  | failed cause => cases waiting <;> rfl

/-- Downstream, no key leaves the account as long as the deleter has not crashed. A filter gives up
a key only if the deleter is gone, and an ended deleter would have outlived the filter. -/
theorem Flow.downstream_step (flow : Flow s p h lost)
    (stepped : p.step? s move = some (next, shown)) (sound : next.crash? .deleter = none) :
    cleared s.minTtl (h ++ calls shown) = handedOver (h ++ calls shown) ++ next.deleter.held ++
      next.matched.queue ++ next.filter.toSend := by
  cases move with
  | scanned answer =>
    obtain ⟨_, rfl, rfl⟩ := step_scanned stepped
    simp [flow.downstream sound, clearedKey?, deletedBatch?]
  | offerCandidate =>
    obtain ⟨key, _, rfl, ⟨_, rfl⟩ | ⟨_, _, _, rfl⟩⟩ := step_offerCandidate stepped
    · simp [flow.downstream sound, calls]
    · simp [flow.downstream sound, calls]
  | takeCandidate =>
    obtain ⟨waiting, rfl, taken⟩ := step_takeCandidate stepped
    have empty : p.filter.toSend = [] := by rw [waiting]; rfl
    rcases taken with ⟨key, rest, _, rfl⟩ | ⟨_, _, rfl⟩
    all_goals
      have account := flow.downstream sound
      rw [empty] at account
      simp [account, calls, Filter.toSend]
  | inspected answer =>
    obtain ⟨key, inspecting, rfl, rfl⟩ := step_inspected stepped
    have account := flow.downstream sound
    rw [show p.filter.toSend = [] by rw [inspecting]; rfl] at account
    cases answer with
    | value ttl =>
      by_cases above : ttl.outlives s.minTtl = true
      · simp [account, clearedKey?_value, deletedBatch?, Filter.afterAnswer,
          above, Filter.toSend]
      · simp [account, clearedKey?_value, deletedBatch?, Filter.afterAnswer,
          above, Filter.toSend]
    | failed cause =>
      simp [account, clearedKey?, deletedBatch?, Filter.afterAnswer,
        Filter.toSend]
    | crashed text =>
      simp [account, clearedKey?, deletedBatch?, Filter.afterAnswer,
        Filter.toSend]
  | offerMatch =>
    obtain ⟨key, offering, rfl, given⟩ := step_offerMatch stepped
    have full : p.filter.toSend = [key] := by rw [offering]; rfl
    rcases given with ⟨gone, rfl⟩ | ⟨_, _, rfl⟩
    · have closing : p.deleter.isClosing = true := by rw [deleter_ended gone sound]; rfl
      have halted : p.filter.isLive = false := (flow.deleterDone closing).1
      rw [offering] at halted
      cases halted
    · have account := flow.downstream sound
      rw [full] at account
      simp [account, calls, Filter.toSend, Handoff.push]
  | takeMatch =>
    obtain ⟨batch, collecting, rfl, taken⟩ := step_takeMatch stepped
    have intact : p.crash? .deleter = none := by simp only [crash?, collecting]
    have holding : p.deleter.held = batch := by rw [collecting]; rfl
    rcases taken with ⟨key, rest, queued, rfl⟩ | ⟨queued, _, rfl⟩
    · simp [flow.downstream intact, holding, queued, held_accept, calls]
    · simp [flow.downstream intact, holding, queued, held_flush, calls]
  | deleted answer =>
    obtain ⟨batch, waiting, deleting, rfl, rfl⟩ := step_deleted stepped
    have intact : p.crash? .deleter = none := by simp only [crash?, deleting]
    have holding : p.deleter.held = batch ++ waiting.toList := by rw [deleting]; rfl
    have kept : (Deleter.afterAnswer waiting answer).held = waiting.toList :=
      held_afterAnswer rfl sound
    simp [flow.downstream intact, holding, kept, clearedKey?, deletedBatch?]
  | cancel =>
    obtain ⟨rfl, rfl⟩ := step_cancel stepped
    simp [flow.downstream sound, calls]

/-- Whatever happens, the keys handed over are the first ones cleared: only the end of a call that
deletes adds to them, and it adds the batch that the deleter held. -/
theorem Flow.submitted_step (flow : Flow s p h lost)
    (stepped : p.step? s move = some (next, shown)) :
    handedOver (h ++ calls shown) <+: cleared s.minTtl (h ++ calls shown) := by
  have earlier (event : StoreEvent) (silent : deletedBatch? event = none) :
      handedOver (h ++ [event]) <+: cleared s.minTtl (h ++ [event]) := by
    simpa [silent] using flow.submitted.trans (List.prefix_append ..)
  cases move with
  | scanned answer =>
    obtain ⟨_, rfl, rfl⟩ := step_scanned stepped
    simpa only [calls_effects] using earlier _ rfl
  | offerCandidate =>
    obtain ⟨_, _, rfl, _⟩ := step_offerCandidate stepped
    simpa [calls] using flow.submitted
  | takeCandidate =>
    obtain ⟨_, rfl, _⟩ := step_takeCandidate stepped
    simpa [calls] using flow.submitted
  | inspected answer =>
    obtain ⟨key, _, rfl, rfl⟩ := step_inspected stepped
    simpa only [calls_effects] using earlier _ rfl
  | offerMatch =>
    obtain ⟨_, _, rfl, _⟩ := step_offerMatch stepped
    simpa [calls] using flow.submitted
  | takeMatch =>
    obtain ⟨_, _, rfl, _⟩ := step_takeMatch stepped
    simpa [calls] using flow.submitted
  | deleted answer =>
    obtain ⟨batch, waiting, deleting, rfl, rfl⟩ := step_deleted stepped
    have account := flow.downstream (by simp only [crash?, deleting])
    rw [show p.deleter.held = batch ++ waiting.toList by rw [deleting]; rfl] at account
    simp [account, clearedKey?, deletedBatch?]
  | cancel =>
    obtain ⟨_, rfl⟩ := step_cancel stepped
    simpa [calls] using flow.submitted

/-- A filter ends after the scanner, with its queue empty, unless the deleter has crashed. -/
theorem Flow.filterDone_step (flow : Flow s p h lost)
    (stepped : p.step? s move = some (next, shown)) (ended : next.filter = .ended)
    (sound : next.crash? .deleter = none) :
    next.scanner.isLive = false ∧ next.candidates.queue = [] := by
  cases move with
  | scanned answer =>
    obtain ⟨asking, rfl, _⟩ := step_scanned stepped
    have halted := (flow.filterDone ended sound).1
    rw [asking] at halted
    cases halted
  | offerCandidate =>
    obtain ⟨key, _, _, ⟨_, rfl⟩ | ⟨_, filterLive, _, rfl⟩⟩ := step_offerCandidate stepped
    · exact ⟨rfl, (flow.filterDone ended sound).2⟩
    · rw [show p.filter = .ended from ended] at filterLive
      cases filterLive
  | takeCandidate =>
    obtain ⟨_, _, ⟨key, rest, _, rfl⟩ | ⟨queued, halted, rfl⟩⟩ := step_takeCandidate stepped
    · cases ended
    · exact ⟨halted, queued⟩
  | inspected answer =>
    obtain ⟨key, _, rfl, _⟩ := step_inspected stepped
    have never : Filter.afterAnswer s.minTtl key answer ≠ .ended := by
      unfold Filter.afterAnswer
      split
      · split <;> exact Filter.noConfusion
      · exact Filter.noConfusion
      · exact Filter.noConfusion
    exact absurd ended never
  | offerMatch =>
    obtain ⟨key, offering, _, ⟨gone, rfl⟩ | ⟨_, _, rfl⟩⟩ := step_offerMatch stepped
    · have closing : p.deleter.isClosing = true := by rw [deleter_ended gone sound]; rfl
      have halted : p.filter.isLive = false := (flow.deleterDone closing).1
      rw [offering] at halted
      cases halted
    · cases ended
  | takeMatch =>
    obtain ⟨batch, collecting, _, taken⟩ := step_takeMatch stepped
    have intact : p.crash? .deleter = none := by simp only [crash?, collecting]
    rcases taken with ⟨key, rest, _, rfl⟩ | ⟨_, _, rfl⟩
    · exact flow.filterDone ended intact
    · exact flow.filterDone ended intact
  | deleted answer =>
    obtain ⟨batch, waiting, deleting, rfl, _⟩ := step_deleted stepped
    exact flow.filterDone ended (by simp only [crash?, deleting])
  | cancel =>
    obtain ⟨rfl, _⟩ := step_cancel stepped
    exact flow.filterDone ended sound

/-- A deleter finds its inbox closed only after the filter is gone and the queue is empty, and both
stay so. -/
theorem Flow.deleterDone_step (flow : Flow s p h lost)
    (stepped : p.step? s move = some (next, shown)) (closing : next.deleter.isClosing = true) :
    next.filter.isLive = false ∧ next.matched.queue = [] := by
  have filterLive {state : Filter} (same : p.filter = state) (live : state.isLive = true)
      (already : p.deleter.isClosing = true) : False := by
    have halted := (flow.deleterDone already).1
    rw [same, live] at halted
    cases halted
  cases move with
  | scanned answer =>
    obtain ⟨_, rfl, _⟩ := step_scanned stepped
    exact flow.deleterDone closing
  | offerCandidate =>
    obtain ⟨_, _, _, ⟨_, rfl⟩ | ⟨_, _, _, rfl⟩⟩ := step_offerCandidate stepped
    · exact flow.deleterDone closing
    · exact flow.deleterDone closing
  | takeCandidate =>
    obtain ⟨waiting, _, ⟨_, _, _, rfl⟩ | ⟨_, _, rfl⟩⟩ := step_takeCandidate stepped
    · exact (filterLive waiting rfl closing).elim
    · exact (filterLive waiting rfl closing).elim
  | inspected answer =>
    obtain ⟨key, inspecting, rfl, _⟩ := step_inspected stepped
    exact (filterLive inspecting rfl closing).elim
  | offerMatch =>
    obtain ⟨key, offering, _, ⟨_, rfl⟩ | ⟨_, _, rfl⟩⟩ := step_offerMatch stepped
    · exact (filterLive offering rfl closing).elim
    · exact (filterLive offering rfl closing).elim
  | takeMatch =>
    obtain ⟨batch, _, _, ⟨key, rest, _, rfl⟩ | ⟨queued, halted, rfl⟩⟩ := step_takeMatch stepped
    · have open_ :
          (Deleter.accept (Deleter.effectiveSize s.batchSize) batch key).isClosing = false := by
        unfold Deleter.accept
        split <;> rfl
      simp only [open_] at closing
      cases closing
    · exact ⟨halted, queued⟩
  | deleted answer =>
    obtain ⟨batch, waiting, deleting, rfl, _⟩ := step_deleted stepped
    have already : p.deleter.isClosing = true := by
      cases waiting with
      | none => rw [deleting]; rfl
      | some key => cases answer <;> cases closing
    exact flow.deleterDone already
  | cancel =>
    obtain ⟨rfl, _⟩ := step_cancel stepped
    exact flow.deleterDone closing

/-- Every step keeps the account. It adds to the lost keys only when the scanner is at work, and
then only in a sweep that winds down or whose filter is gone. -/
theorem Flow.step (flow : Flow s p h lost) (stepped : p.step? s move = some (next, shown)) :
    ∃ after, Flow s next (h ++ calls shown) after ∧
      (after = lost ∨
        p.scanner.isLive = true ∧ (p.control.cancelled = true ∨ p.filter.isLive = false)) := by
  obtain ⟨after, upstream, kept, change⟩ := flow.upstream_step stepped
  exact ⟨after, {
    upstream := upstream
    kept := kept
    downstream := flow.downstream_step stepped
    submitted := flow.submitted_step stepped
    filterDone := flow.filterDone_step stepped
    deleterDone := flow.deleterDone_step stepped }, change⟩

end Pipeline

end KeySweeper
