import KeySweeper.Pipeline

/-!
# What a step of the pipeline can do

One lemma for each kind of move says everything about it: in which state the move can be made, what
it changes, and what it shows. Every argument about the stages starts from these lemmas and does not
open the step function again. An argument that goes through all moves starts from the relation at
the end, which has one constructor for each way in which a move can come about.
-/

namespace KeySweeper.Pipeline

variable {s : Settings} {p next : Pipeline} {shown : List Effect}

/-- The scan answers a scanner that asked. The answer is shown, and a failure also winds the sweep
down. -/
theorem step_scanned {answer : Answer (Option String)}
    (stepped : p.step? s (.scanned answer) = some (next, shown)) :
    p.scanner = .asking ∧
      next = { p with
        scanner := Scanner.afterAnswer p.control.cancelled answer
        control := cancelIfFailed p.control answer } ∧
      shown = effects (.scanned s.pattern answer) (Scanner.failureLine s.pattern) answer := by
  simp only [step?] at stepped
  split at stepped
  · next asking =>
    obtain ⟨rfl, rfl⟩ := Prod.mk.inj (Option.some.inj stepped)
    exact ⟨asking, rfl, rfl⟩
  · cases stepped

/-- A scanner with a key in its hand gives up or sends the key. It gives up when the sweep winds
down or the filter is gone, and sends only if neither is the case and there is room. -/
theorem step_offerCandidate (stepped : p.step? s .offerCandidate = some (next, shown)) :
    ∃ key, p.scanner = .offering key ∧ shown = [] ∧
      ((p.control.cancelled = true ∨ p.filter.isLive = false) ∧
        next = { p with scanner := .ended } ∨
        p.control.cancelled = false ∧ p.filter.isLive = true ∧ p.candidates.hasRoom = true ∧
          next = { p with scanner := .asking, candidates := p.candidates.push key }) := by
  simp only [step?] at stepped
  split at stepped
  · next key offering =>
    obtain ⟨⟨scanner, candidates⟩, offered, result⟩ := Option.map_eq_some_iff.mp stepped
    obtain ⟨rfl, rfl⟩ := Prod.mk.inj result
    refine ⟨key, offering, rfl, ?_⟩
    simp only [Scanner.offer?] at offered
    split at offered
    · next cancelled =>
      obtain ⟨rfl, rfl⟩ := Prod.mk.inj (Option.some.inj offered)
      exact Or.inl ⟨Or.inl cancelled, rfl⟩
    · next uncancelled =>
      split at offered
      · next gone =>
        obtain ⟨rfl, rfl⟩ := Prod.mk.inj (Option.some.inj offered)
        exact Or.inl ⟨Or.inr (by simpa using gone), rfl⟩
      · next present =>
        split at offered
        · next room =>
          obtain ⟨rfl, rfl⟩ := Prod.mk.inj (Option.some.inj offered)
          exact Or.inr ⟨by simpa using uncancelled, by simpa using present, room, rfl⟩
        · cases offered
  · cases stepped

/-- A waiting filter takes the oldest candidate, or ends because there is none and the scanner is
gone. -/
theorem step_takeCandidate (stepped : p.step? s .takeCandidate = some (next, shown)) :
    p.filter = .waiting ∧ shown = [] ∧
      ((∃ key rest, p.candidates.queue = key :: rest ∧
          next = { p with
            filter := .inspecting key, candidates := { p.candidates with queue := rest } }) ∨
        p.candidates.queue = [] ∧ p.scanner.isLive = false ∧
        next = { p with filter := .ended }) := by
  simp only [step?] at stepped
  split at stepped
  · next waiting =>
    obtain ⟨⟨filter, candidates⟩, taken, result⟩ := Option.map_eq_some_iff.mp stepped
    obtain ⟨rfl, rfl⟩ := Prod.mk.inj result
    refine ⟨waiting, rfl, ?_⟩
    simp only [Filter.take?, Handoff.pop?] at taken
    cases queued : p.candidates.queue with
    | nil =>
      simp only [queued] at taken
      split at taken
      · cases taken
      · next gone =>
        obtain ⟨rfl, rfl⟩ := Prod.mk.inj (Option.some.inj taken)
        exact Or.inr ⟨rfl, by simpa using gone, rfl⟩
    | cons key rest =>
      simp only [queued] at taken
      obtain ⟨rfl, rfl⟩ := Prod.mk.inj (Option.some.inj taken)
      exact Or.inl ⟨key, rest, rfl, rfl⟩
  · cases stepped

/-- The store answers a filter that asked for the lifetime left to a key. The answer is shown, and a
failure also winds the sweep down. -/
theorem step_inspected {answer : Answer Ttl}
    (stepped : p.step? s (.inspected answer) = some (next, shown)) :
    ∃ key, p.filter = .inspecting key ∧
      next = { p with
        filter := Filter.afterAnswer s.minTtl key answer
        control := cancelIfFailed p.control answer } ∧
      shown = effects (.inspected key answer) (Filter.failureLine key) answer := by
  simp only [step?] at stepped
  split at stepped
  · next key inspecting =>
    obtain ⟨rfl, rfl⟩ := Prod.mk.inj (Option.some.inj stepped)
    exact ⟨key, inspecting, rfl, rfl⟩
  · cases stepped

/-- A filter with a key in its hand ends because the deleter is gone, or sends the key if there is
room. -/
theorem step_offerMatch (stepped : p.step? s .offerMatch = some (next, shown)) :
    ∃ key, p.filter = .offering key ∧ shown = [] ∧
      (p.deleter.isLive = false ∧ next = { p with filter := .ended } ∨
        p.deleter.isLive = true ∧ p.matched.hasRoom = true ∧
          next = { p with filter := .waiting, matched := p.matched.push key }) := by
  simp only [step?] at stepped
  split at stepped
  · next key offering =>
    obtain ⟨⟨filter, matched⟩, offered, result⟩ := Option.map_eq_some_iff.mp stepped
    obtain ⟨rfl, rfl⟩ := Prod.mk.inj result
    refine ⟨key, offering, rfl, ?_⟩
    simp only [Filter.offer?] at offered
    split at offered
    · next gone =>
      obtain ⟨rfl, rfl⟩ := Prod.mk.inj (Option.some.inj offered)
      exact Or.inl ⟨by simpa using gone, rfl⟩
    · next present =>
      split at offered
      · next room =>
        obtain ⟨rfl, rfl⟩ := Prod.mk.inj (Option.some.inj offered)
        exact Or.inr ⟨by simpa using present, room, rfl⟩
      · cases offered
  · cases stepped

/-- A collecting deleter takes the oldest matched key, or finds that none can come any more and
deletes what it has collected. -/
theorem step_takeMatch (stepped : p.step? s .takeMatch = some (next, shown)) :
    ∃ batch, p.deleter = .collecting batch ∧ shown = [] ∧
      ((∃ key rest, p.matched.queue = key :: rest ∧
          next = { p with
            deleter := Deleter.accept (Deleter.effectiveSize s.batchSize) batch key
            matched := { p.matched with queue := rest } }) ∨
        p.matched.queue = [] ∧ p.filter.isLive = false ∧
          next = { p with deleter := Deleter.flush batch }) := by
  simp only [step?] at stepped
  split at stepped
  · next batch collecting =>
    obtain ⟨⟨deleter, matched⟩, taken, result⟩ := Option.map_eq_some_iff.mp stepped
    obtain ⟨rfl, rfl⟩ := Prod.mk.inj result
    refine ⟨batch, collecting, rfl, ?_⟩
    simp only [Deleter.take?, Handoff.pop?] at taken
    cases queued : p.matched.queue with
    | nil =>
      simp only [queued] at taken
      split at taken
      · cases taken
      · next gone =>
        obtain ⟨rfl, rfl⟩ := Prod.mk.inj (Option.some.inj taken)
        exact Or.inr ⟨rfl, by simpa using gone, rfl⟩
    | cons key rest =>
      simp only [queued] at taken
      obtain ⟨rfl, rfl⟩ := Prod.mk.inj (Option.some.inj taken)
      exact Or.inl ⟨key, rest, rfl, rfl⟩
  · cases stepped

/-- The store answers a deleter that deletes a batch. The answer is shown, the batch counts unless
the call crashed, and a failure also winds the sweep down. -/
theorem step_deleted {answer : Answer Nat}
    (stepped : p.step? s (.deleted answer) = some (next, shown)) :
    ∃ batch waiting, p.deleter = .deleting batch waiting ∧
      next = { p with
        deleter := Deleter.afterAnswer waiting answer
        control := recordUnlessCrashed (cancelIfFailed p.control answer) batch answer } ∧
      shown = effects (.deleted batch answer) (Deleter.failureLine batch) answer := by
  simp only [step?] at stepped
  split at stepped
  · next batch waiting deleting =>
    obtain ⟨rfl, rfl⟩ := Prod.mk.inj (Option.some.inj stepped)
    exact ⟨batch, waiting, deleting, rfl, rfl⟩
  · cases stepped

/-- Telling the sweep to wind down only raises its flag. -/
theorem step_cancel (stepped : p.step? s .cancel = some (next, shown)) :
    next = { p with control := p.control.cancel } ∧ shown = [] := by
  obtain ⟨rfl, rfl⟩ := Prod.mk.inj (Option.some.inj stepped)
  exact ⟨rfl, rfl⟩

/-- The ways in which a move of the pipeline can come about. -/
inductive Steps (s : Settings) (p : Pipeline) : Move → Pipeline → List Effect → Prop where
  /-- The scan answers. -/
  | scanned (answer : Answer (Option String)) (asking : p.scanner = .asking) :
      Steps s p (.scanned answer)
        { p with
          scanner := Scanner.afterAnswer p.control.cancelled answer
          control := cancelIfFailed p.control answer }
        (effects (.scanned s.pattern answer) (Scanner.failureLine s.pattern) answer)
  /-- The scanner gives up the key in its hand and ends. -/
  | candidateLost (key : String) (offering : p.scanner = .offering key)
      (reason : p.control.cancelled = true ∨ p.filter.isLive = false) :
      Steps s p .offerCandidate { p with scanner := .ended } []
  /-- The scanner sends the key in its hand. -/
  | candidateSent (key : String) (offering : p.scanner = .offering key)
      (uncancelled : p.control.cancelled = false) (live : p.filter.isLive = true)
      (room : p.candidates.hasRoom = true) :
      Steps s p .offerCandidate { p with scanner := .asking, candidates := p.candidates.push key }
        []
  /-- The filter takes the oldest candidate. -/
  | candidateTaken (key : String) (rest : List String) (waiting : p.filter = .waiting)
      (queued : p.candidates.queue = key :: rest) :
      Steps s p .takeCandidate
        { p with filter := .inspecting key, candidates := { p.candidates with queue := rest } } []
  /-- The filter finds that no candidate can come any more, and ends. -/
  | candidatesEnded (waiting : p.filter = .waiting) (queued : p.candidates.queue = [])
      (halted : p.scanner.isLive = false) :
      Steps s p .takeCandidate { p with filter := .ended } []
  /-- An inspection is answered. -/
  | inspected (answer : Answer Ttl) (key : String) (inspecting : p.filter = .inspecting key) :
      Steps s p (.inspected answer)
        { p with
          filter := Filter.afterAnswer s.minTtl key answer
          control := cancelIfFailed p.control answer }
        (effects (.inspected key answer) (Filter.failureLine key) answer)
  /-- The filter gives up the key in its hand and ends. -/
  | matchLost (key : String) (offering : p.filter = .offering key)
      (gone : p.deleter.isLive = false) :
      Steps s p .offerMatch { p with filter := .ended } []
  /-- The filter sends the key in its hand. -/
  | matchSent (key : String) (offering : p.filter = .offering key) (live : p.deleter.isLive = true)
      (room : p.matched.hasRoom = true) :
      Steps s p .offerMatch { p with filter := .waiting, matched := p.matched.push key } []
  /-- The deleter takes the oldest matched key. -/
  | matchTaken (batch : List String) (key : String) (rest : List String)
      (collecting : p.deleter = .collecting batch) (queued : p.matched.queue = key :: rest) :
      Steps s p .takeMatch
        { p with
          deleter := Deleter.accept (Deleter.effectiveSize s.batchSize) batch key
          matched := { p.matched with queue := rest } } []
  /-- The deleter finds that no key can come any more, and goes on to its last batch. -/
  | matchesEnded (batch : List String) (collecting : p.deleter = .collecting batch)
      (queued : p.matched.queue = []) (halted : p.filter.isLive = false) :
      Steps s p .takeMatch { p with deleter := Deleter.flush batch } []
  /-- A deletion is answered. -/
  | deleted (answer : Answer Nat) (batch : List String) (waiting : Option String)
      (deleting : p.deleter = .deleting batch waiting) :
      Steps s p (.deleted answer)
        { p with
          deleter := Deleter.afterAnswer waiting answer
          control := recordUnlessCrashed (cancelIfFailed p.control answer) batch answer }
        (effects (.deleted batch answer) (Deleter.failureLine batch) answer)
  /-- The sweep is told to wind down. -/
  | cancelled : Steps s p .cancel { p with control := p.control.cancel } []

/-- Every step of the pipeline comes about in one of these ways. -/
theorem steps_of_step? {move : Move} (stepped : p.step? s move = some (next, shown)) :
    Steps s p move next shown := by
  cases move with
  | scanned answer =>
    obtain ⟨asking, rfl, rfl⟩ := step_scanned stepped
    exact .scanned answer asking
  | offerCandidate =>
    obtain ⟨key, offering, rfl, ⟨reason, rfl⟩ | ⟨uncancelled, live, room, rfl⟩⟩ :=
      step_offerCandidate stepped
    · exact .candidateLost key offering reason
    · exact .candidateSent key offering uncancelled live room
  | takeCandidate =>
    obtain ⟨waiting, rfl, ⟨key, rest, queued, rfl⟩ | ⟨queued, halted, rfl⟩⟩ :=
      step_takeCandidate stepped
    · exact .candidateTaken key rest waiting queued
    · exact .candidatesEnded waiting queued halted
  | inspected answer =>
    obtain ⟨key, inspecting, rfl, rfl⟩ := step_inspected stepped
    exact .inspected answer key inspecting
  | offerMatch =>
    obtain ⟨key, offering, rfl, ⟨gone, rfl⟩ | ⟨live, room, rfl⟩⟩ := step_offerMatch stepped
    · exact .matchLost key offering gone
    · exact .matchSent key offering live room
  | takeMatch =>
    obtain ⟨batch, collecting, rfl, ⟨key, rest, queued, rfl⟩ | ⟨queued, halted, rfl⟩⟩ :=
      step_takeMatch stepped
    · exact .matchTaken batch key rest collecting queued
    · exact .matchesEnded batch collecting queued halted
  | deleted answer =>
    obtain ⟨batch, waiting, deleting, rfl, rfl⟩ := step_deleted stepped
    exact .deleted answer batch waiting deleting
  | cancel =>
    obtain ⟨rfl, rfl⟩ := step_cancel stepped
    exact .cancelled

/-- A stage that was at work has moved, and the others are as they were. -/
structure MovedBy (mover : StageName) (p next : Pipeline) : Prop where
  live : p.isLive mover = true
  others : ∀ stage, stage ≠ mover → next.isLive stage = p.isLive stage ∧
    next.crash? stage = p.crash? stage

/-- The scanner has moved if the filter and the deleter have not. -/
theorem movedBy_scanner (live : p.scanner.isLive = true) (filter : next.filter = p.filter)
    (deleter : next.deleter = p.deleter) : MovedBy .scanner p next := by
  refine ⟨live, fun stage other => ?_⟩
  cases stage with
  | scanner => exact absurd rfl other
  | filter => simp only [isLive, crash?, filter, and_self]
  | deleter => simp only [isLive, crash?, deleter, and_self]

/-- The filter has moved if the scanner and the deleter have not. -/
theorem movedBy_filter (live : p.filter.isLive = true) (scanner : next.scanner = p.scanner)
    (deleter : next.deleter = p.deleter) : MovedBy .filter p next := by
  refine ⟨live, fun stage other => ?_⟩
  cases stage with
  | scanner => simp only [isLive, crash?, scanner, and_self]
  | filter => exact absurd rfl other
  | deleter => simp only [isLive, crash?, deleter, and_self]

/-- The deleter has moved if the scanner and the filter have not. -/
theorem movedBy_deleter (live : p.deleter.isLive = true) (scanner : next.scanner = p.scanner)
    (filter : next.filter = p.filter) : MovedBy .deleter p next := by
  refine ⟨live, fun stage other => ?_⟩
  cases stage with
  | scanner => simp only [isLive, crash?, scanner, and_self]
  | filter => simp only [isLive, crash?, filter, and_self]
  | deleter => exact absurd rfl other

/-- A step is made by a stage at work and leaves the others as they are, unless the sweep is told to
wind down. -/
theorem mover_of_step {move : Move} (stepped : p.step? s move = some (next, shown))
    (inside : move ≠ .cancel) :
    ∃ mover, MovedBy mover p next := by
  cases steps_of_step? stepped with
  | scanned answer asking => exact ⟨_, movedBy_scanner (by rw [asking]; rfl) rfl rfl⟩
  | candidateLost key offering => exact ⟨_, movedBy_scanner (by rw [offering]; rfl) rfl rfl⟩
  | candidateSent key offering => exact ⟨_, movedBy_scanner (by rw [offering]; rfl) rfl rfl⟩
  | candidateTaken key rest waiting => exact ⟨_, movedBy_filter (by rw [waiting]; rfl) rfl rfl⟩
  | candidatesEnded waiting => exact ⟨_, movedBy_filter (by rw [waiting]; rfl) rfl rfl⟩
  | inspected answer key inspecting => exact ⟨_, movedBy_filter (by rw [inspecting]; rfl) rfl rfl⟩
  | matchLost key offering => exact ⟨_, movedBy_filter (by rw [offering]; rfl) rfl rfl⟩
  | matchSent key offering => exact ⟨_, movedBy_filter (by rw [offering]; rfl) rfl rfl⟩
  | matchTaken batch key rest collecting =>
    exact ⟨_, movedBy_deleter (by rw [collecting]; rfl) rfl rfl⟩
  | matchesEnded batch collecting => exact ⟨_, movedBy_deleter (by rw [collecting]; rfl) rfl rfl⟩
  | deleted answer batch waiting deleting =>
    exact ⟨_, movedBy_deleter (by rw [deleting]; rfl) rfl rfl⟩
  | cancelled => exact absurd rfl inside

/-- A stage at work has not crashed. -/
theorem intact_of_live {stage : StageName} (live : p.isLive stage = true) :
    p.crash? stage = none := by
  cases stage with
  | scanner => cases state : p.scanner <;> simp [isLive, crash?, state, Scanner.isLive] at live ⊢
  | filter => cases state : p.filter <;> simp [isLive, crash?, state, Filter.isLive] at live ⊢
  | deleter => cases state : p.deleter <;> simp [isLive, crash?, state, Deleter.isLive] at live ⊢

end KeySweeper.Pipeline
