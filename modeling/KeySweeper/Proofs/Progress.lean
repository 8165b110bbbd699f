import KeySweeper.Proofs.Refinement

/-!
# The stages get on

Every step of a stage costs effort, and only the answer of a scan with a new key brings effort back,
so that a finite scan keeps the stages busy for a bounded number of steps. As long as a stage is at
work the stages can also go on: one of them can move or waits for the store. The three of them
cannot block each other, because a full queue has a key for its receiver and a queue whose other end
is gone is noticed at that end.

Nothing is assumed here about what the store answers, or about stages that ended early or crashed.
-/

namespace KeySweeper

open Ledger

/-- The steps that a scanner has before it with the key at hand, those of the other stages for that
key included. -/
def Scanner.effort : Scanner → Nat
  | .asking => 1
  | .offering _ => 7
  | _ => 0

/-- The steps that a filter has before it with the key at hand, those of the deleter for that key
included. -/
def Filter.effort : Filter → Nat
  | .waiting => 1
  | .inspecting _ => 5
  | .offering _ => 4
  | _ => 0

/-- The steps that a deleter has before it with the keys at hand. -/
def Deleter.effort : Deleter → Nat
  | .collecting _ => 2
  | .deleting _ (some _) => 3
  | .deleting _ none => 1
  | _ => 0

/-- An inspected key costs less than one to inspect. -/
theorem Filter.effort_afterAnswer (threshold : Duration) (key : String) (answer : Answer Ttl) :
    (Filter.afterAnswer threshold key answer).effort < 5 := by
  unfold Filter.afterAnswer
  split
  · split
    · exact Nat.lt_succ_self 4
    · exact Nat.one_lt_succ_succ 3
  · exact Nat.one_lt_succ_succ 3
  · exact Nat.zero_lt_succ 4

/-- A deleter that accepts a key has at most one more step before it. -/
theorem Deleter.effort_accept (size : Nat) (batch : List String) (key : String) :
    (Deleter.accept size batch key).effort ≤ 3 := by
  unfold Deleter.accept
  split
  · exact Nat.le_refl 3
  · exact Nat.le_succ 2

/-- A deleter that accepts no more keys has at most the deletion of its batch before it. -/
theorem Deleter.effort_flush (batch : List String) : (Deleter.flush batch).effort ≤ 1 := by
  unfold Deleter.flush
  split
  · exact Nat.zero_le 1
  · exact Nat.le_refl 1

/-- A deletion that is over was a step. -/
theorem Deleter.effort_afterAnswer (batch : List String) (waiting : Option String)
    (answer : Answer Nat) :
    (Deleter.afterAnswer waiting answer).effort < (Deleter.deleting batch waiting).effort := by
  cases waiting with
  | none => cases answer <;> exact Nat.zero_lt_one
  | some key =>
    cases answer with
    | crashed text => exact Nat.zero_lt_succ 2
    | value removed => exact Nat.lt_succ_self 2
    | failed cause => exact Nat.lt_succ_self 2

namespace Pipeline

variable {s : Settings} {p next : Pipeline} {move : Move} {shown : List Effect}

/-- A bound on the steps that the stages can make without another key of the scan. -/
def effort (p : Pipeline) : Nat :=
  p.scanner.effort + 5 * p.candidates.queue.length + p.filter.effort + 2 * p.matched.queue.length +
    p.deleter.effort

/-- The effort with which stages start: each of them looks out for its first key. -/
theorem effort_fresh (control : Control) : (fresh control).effort = 4 := rfl

/-- A scan that is asked for a key yields at most one, and only that brings effort. -/
theorem effort_scanned {answer : Answer (Option String)}
    (stepped : p.step? s (.scanned answer) = some (next, shown)) :
    next.effort < p.effort + 7 * (found (calls shown)).length := by
  obtain ⟨asking, rfl, rfl⟩ := step_scanned stepped
  have before : p.scanner.effort = 1 := by rw [asking]; rfl
  simp only [effort, before, calls_effects, found_singleton]
  cases answer with
  | value result =>
    cases result with
    | none =>
      simp only [Scanner.afterAnswer, Scanner.effort]
      omega
    | some key =>
      have after : (Scanner.afterAnswer p.control.cancelled (.value (some key))).effort ≤ 7 := by
        simp only [Scanner.afterAnswer]
        split
        · exact Nat.zero_le 7
        · exact Nat.le_refl 7
      simp only [foundKey?, Option.toList_some, List.length_singleton]
      omega
  | failed cause =>
    simp only [Scanner.afterAnswer, Scanner.effort]
    omega
  | crashed text =>
    simp only [Scanner.afterAnswer, Scanner.effort]
    omega

/-- Every step of a stage costs effort, whatever the store answers. Only a key that the scan yields
brings some back. -/
theorem effort_step (stepped : p.step? s move = some (next, shown)) (inside : move ≠ .cancel) :
    next.effort < p.effort + 7 * (found (calls shown)).length := by
  cases steps_of_step? stepped with
  | scanned answer asking => exact effort_scanned stepped
  | candidateLost key offering reason =>
    simp only [effort, offering, Scanner.effort]
    omega
  | candidateSent key offering uncancelled live room =>
    simp only [effort, offering, Scanner.effort, Handoff.push, List.length_append,
      List.length_singleton]
    omega
  | candidateTaken key rest waiting queued =>
    simp only [effort, waiting, queued, Filter.effort, List.length_cons]
    omega
  | candidatesEnded waiting queued halted =>
    simp only [effort, waiting, Filter.effort]
    omega
  | inspected answer key inspecting =>
    have before : p.filter.effort = 5 := by rw [inspecting]; rfl
    have after := Filter.effort_afterAnswer s.minTtl key answer
    simp only [effort, before]
    omega
  | matchLost key offering gone =>
    simp only [effort, offering, Filter.effort]
    omega
  | matchSent key offering live room =>
    simp only [effort, offering, Filter.effort, Handoff.push, List.length_append,
      List.length_singleton]
    omega
  | matchTaken batch key rest collecting queued =>
    have before : p.deleter.effort = 2 := by rw [collecting]; rfl
    have after := Deleter.effort_accept (Deleter.effectiveSize s.batchSize) batch key
    simp only [effort, before, queued, List.length_cons]
    omega
  | matchesEnded batch collecting queued halted =>
    have before : p.deleter.effort = 2 := by rw [collecting]; rfl
    have after := Deleter.effort_flush batch
    simp only [effort, before]
    omega
  | deleted answer batch waiting deleting =>
    have after := Deleter.effort_afterAnswer batch waiting answer
    rw [← deleting] at after
    simp only [effort]
    omega
  | cancelled => exact absurd rfl inside

/-- Whether a move is one that a stage makes without the store. -/
def Move.isInternal : Move → Bool
  | .offerCandidate => true
  | .takeCandidate => true
  | .offerMatch => true
  | .takeMatch => true
  | _ => false

/-- A stage can go on: one of them can move without the store, or waits for the store. -/
inductive CanGoOn (s : Settings) (p : Pipeline) : Prop where
  /-- A stage can move. -/
  | move (move : Move) (inside : move.isInternal = true) (possible : (p.step? s move).isSome = true)
  /-- The scanner waits for the next key of the scan. -/
  | scan (asking : p.scanner = .asking)
  /-- The filter waits for the lifetime of a key. -/
  | inspect (key : String) (inspecting : p.filter = .inspecting key)
  /-- The deleter waits for the deletion of a batch. -/
  | delete (batch : List String) (waiting : Option String)
      (deleting : p.deleter = .deleting batch waiting)

/-- A queue into which no more fits has an oldest key. -/
theorem oldest_of_full {queue : Handoff} (room : 0 < queue.capacity)
    (full : queue.hasRoom = false) :
    ∃ key rest, queue.queue = key :: rest := by
  cases waiting : queue.queue with
  | cons key rest => exact ⟨key, rest, rfl⟩
  | nil =>
    simp only [Handoff.hasRoom, waiting, List.length_nil, decide_eq_false_iff_not] at full
    exact absurd room full

/-- A scanner can send its key on where there is room, and can give it up where that is called
for. -/
theorem offerCandidate_possible {key : String} (offering : p.scanner = .offering key)
    (open_ : p.control.cancelled = true ∨ p.filter.isLive = false ∨ p.candidates.hasRoom = true) :
    (p.step? s .offerCandidate).isSome = true := by
  simp only [step?, offering, Option.isSome_map, Scanner.offer?]
  split
  · rfl
  · next uncancelled =>
    split
    · rfl
    · next present =>
      rcases open_ with cancelled | gone | room
      · exact absurd cancelled uncancelled
      · simp [gone] at present
      · rw [if_pos room]
        rfl

/-- A waiting filter can take a key that is there, and can end where none can come. -/
theorem takeCandidate_possible (waiting : p.filter = .waiting)
    (open_ : p.scanner.isLive = false ∨ ∃ key rest, p.candidates.queue = key :: rest) :
    (p.step? s .takeCandidate).isSome = true := by
  simp only [step?, waiting, Option.isSome_map, Filter.take?, Handoff.pop?]
  cases queued : p.candidates.queue with
  | cons key rest => rfl
  | nil =>
    rcases open_ with gone | ⟨key, rest, present⟩
    · simp only [gone]
      rfl
    · rw [queued] at present
      cases present

/-- A filter can send its key on where there is room, and can give it up where the deleter is
gone. -/
theorem offerMatch_possible {key : String} (offering : p.filter = .offering key)
    (open_ : p.deleter.isLive = false ∨ p.matched.hasRoom = true) :
    (p.step? s .offerMatch).isSome = true := by
  simp only [step?, offering, Option.isSome_map, Filter.offer?]
  split
  · rfl
  · next present =>
    rcases open_ with gone | room
    · simp [gone] at present
    · rw [if_pos room]
      rfl

/-- A collecting deleter can take a key that is there, and can go on without one where none can
come. -/
theorem takeMatch_possible {batch : List String} (collecting : p.deleter = .collecting batch)
    (open_ : p.filter.isLive = false ∨ ∃ key rest, p.matched.queue = key :: rest) :
    (p.step? s .takeMatch).isSome = true := by
  simp only [step?, collecting, Option.isSome_map, Deleter.take?, Handoff.pop?]
  cases queued : p.matched.queue with
  | cons key rest => rfl
  | nil =>
    rcases open_ with gone | ⟨key, rest, present⟩
    · simp only [gone]
      rfl
    · rw [queued] at present
      cases present

/-- The queues between the stages have room for a key. -/
def HasQueues (p : Pipeline) : Prop := 0 < p.candidates.capacity ∧ 0 < p.matched.capacity

/-- Fresh stages are joined by queues. -/
theorem HasQueues.fresh (control : Control) : (fresh control).HasQueues :=
  ⟨Nat.zero_lt_one, Nat.zero_lt_one⟩

/-- No step changes what fits between the stages. -/
theorem HasQueues.step (queues : p.HasQueues) (stepped : p.step? s move = some (next, shown)) :
    next.HasQueues := by
  cases steps_of_step? stepped <;> exact queues

/-- A filter with a key to send does not block the stages: where there is no room the deleter can
take a key or deletes a batch. -/
theorem filter_goes_on (queues : p.HasQueues) {key : String} (offering : p.filter = .offering key) :
    CanGoOn s p := by
  cases room : p.matched.hasRoom with
  | true => exact .move .offerMatch rfl (offerMatch_possible offering (Or.inr room))
  | false =>
    cases state : p.deleter with
    | collecting batch =>
      have oldest := oldest_of_full queues.2 room
      exact .move .takeMatch rfl (takeMatch_possible state (Or.inr oldest))
    | deleting batch waiting => exact .delete batch waiting state
    | ended =>
      exact .move .offerMatch rfl (offerMatch_possible offering (Or.inl (by rw [state]; rfl)))
    | crashed text =>
      exact .move .offerMatch rfl (offerMatch_possible offering (Or.inl (by rw [state]; rfl)))

/-- A scanner with a key to send does not block the stages: where there is no room the filter can go
on. -/
theorem scanner_goes_on (queues : p.HasQueues) {key : String}
    (offering : p.scanner = .offering key) :
    CanGoOn s p := by
  cases room : p.candidates.hasRoom with
  | true =>
    exact .move .offerCandidate rfl (offerCandidate_possible offering (Or.inr (Or.inr room)))
  | false =>
    have gone (halted : p.filter.isLive = false) : CanGoOn s p :=
      .move .offerCandidate rfl (offerCandidate_possible offering (Or.inr (Or.inl halted)))
    cases state : p.filter with
    | waiting =>
      have oldest := oldest_of_full queues.1 room
      exact .move .takeCandidate rfl (takeCandidate_possible state (Or.inr oldest))
    | inspecting other => exact .inspect other state
    | offering other => exact filter_goes_on queues state
    | ended => exact gone (by rw [state]; rfl)
    | crashed text => exact gone (by rw [state]; rfl)

/-- A filter that waits for a key does not block the stages: it can end unless the scanner is there
to send one. -/
theorem waiting_goes_on (queues : p.HasQueues) (waiting : p.filter = .waiting) : CanGoOn s p := by
  have gone (halted : p.scanner.isLive = false) : CanGoOn s p :=
    .move .takeCandidate rfl (takeCandidate_possible waiting (Or.inl halted))
  cases state : p.scanner with
  | asking => exact .scan state
  | offering key => exact scanner_goes_on queues state
  | ended => exact gone (by rw [state]; rfl)
  | crashed text => exact gone (by rw [state]; rfl)

/-- A deleter that waits for a key does not block the stages: it can go on unless the filter is
there to send one. -/
theorem collecting_goes_on (queues : p.HasQueues) {batch : List String}
    (collecting : p.deleter = .collecting batch) : CanGoOn s p := by
  have gone (halted : p.filter.isLive = false) : CanGoOn s p :=
    .move .takeMatch rfl (takeMatch_possible collecting (Or.inl halted))
  cases state : p.filter with
  | waiting => exact waiting_goes_on queues state
  | inspecting key => exact .inspect key state
  | offering key => exact filter_goes_on queues state
  | ended => exact gone (by rw [state]; rfl)
  | crashed text => exact gone (by rw [state]; rfl)

/-- The stages do not block each other. As long as one of them is at work, one of them can go on. -/
theorem goes_on (queues : p.HasQueues) {stage : StageName} (live : p.isLive stage = true) :
    CanGoOn s p := by
  cases stage with
  | scanner =>
    cases state : p.scanner with
    | asking => exact .scan state
    | offering key => exact scanner_goes_on queues state
    | _ => simp only [isLive, state, Scanner.isLive, Bool.false_eq_true] at live
  | filter =>
    cases state : p.filter with
    | waiting => exact waiting_goes_on queues state
    | inspecting key => exact .inspect key state
    | offering key => exact filter_goes_on queues state
    | _ => simp only [isLive, state, Filter.isLive, Bool.false_eq_true] at live
  | deleter =>
    cases state : p.deleter with
    | collecting batch => exact collecting_goes_on queues state
    | deleting batch waiting => exact .delete batch waiting state
    | _ => simp only [isLive, state, Deleter.isLive, Bool.false_eq_true] at live

end Pipeline

end KeySweeper
