import Mathlib.Data.List.Induction

/-!
# Executions

Pipelines, sweeps, sweepers and everything around them are transition systems: a step function
answers nothing for a move that cannot be made now, and otherwise the next state together with what
the move shows. An execution is a finite sequence of moves that can be made one after the other.
Every interleaving, every order of answers and every point at which an execution is looked at is
such a sequence, so a statement about all executions covers all of them.

The main statement is the induction along an execution. Its induction step is told by which moves
the state was reached, so that it can speak of the states passed on the way.
-/

namespace KeySweeper.Execution

variable {State Move Shown : Type}

/-- The state after a sequence of moves and all that the moves show, in order. There is none if a
move cannot be made when its turn comes. -/
def run? (step? : State → Move → Option (State × List Shown)) :
    State → List Move → Option (State × List Shown)
  | state, [] => some (state, [])
  | state, move :: rest =>
    match step? state move with
    | none => none
    | some (next, shown) =>
      match run? step? next rest with
      | none => none
      | some (last, later) => some (last, shown ++ later)

variable {step? : State → Move → Option (State × List Shown)}

/-- An execution of two sequences of moves passes the state between them. -/
theorem run?_append_iff {start last : State} {first second : List Move} {log : List Shown} :
    run? step? start (first ++ second) = some (last, log) ↔
      ∃ mid before later, run? step? start first = some (mid, before) ∧
        run? step? mid second = some (last, later) ∧ log = before ++ later := by
  induction first generalizing start log with
  | nil =>
    constructor
    · intro ran
      exact ⟨start, [], log, rfl, ran, rfl⟩
    · rintro ⟨mid, before, later, first, second, rfl⟩
      obtain ⟨rfl, rfl⟩ : start = mid ∧ [] = before := by
        simpa only [run?, Option.some.injEq, Prod.mk.injEq] using first
      exact second
  | cons move rest inductionHypothesis =>
    simp only [List.cons_append, run?]
    cases stepped : step? start move with
    | none => simp
    | some result =>
      obtain ⟨next, shown⟩ := result
      simp only
      constructor
      · intro ran
        cases continued : run? step? next (rest ++ second) with
        | none => simp [continued] at ran
        | some outcome =>
          obtain ⟨final, later⟩ := outcome
          obtain ⟨rfl, rfl⟩ : final = last ∧ shown ++ later = log := by
            simpa only [continued, Option.some.injEq, Prod.mk.injEq] using ran
          obtain ⟨mid, before, after, reached, finished, rfl⟩ :=
            inductionHypothesis.mp continued
          exact ⟨mid, shown ++ before, after, by simp only [reached], finished,
            (List.append_assoc ..).symm⟩
      · rintro ⟨mid, before, later, reached, finished, rfl⟩
        cases continued : run? step? next rest with
        | none => simp [continued] at reached
        | some outcome =>
          obtain ⟨final, early⟩ := outcome
          obtain ⟨rfl, rfl⟩ : final = mid ∧ shown ++ early = before := by
            simpa only [continued, Option.some.injEq, Prod.mk.injEq] using reached
          have whole := inductionHypothesis.mpr ⟨final, early, later, continued, finished, rfl⟩
          simp only [whole, List.append_assoc]

/-- A single move is an execution exactly when it can be made. -/
theorem run?_singleton {start : State} {move : Move} :
    run? step? start [move] = step? start move := by
  simp only [run?]
  cases step? start move with
  | none => rfl
  | some result => simp only [List.append_nil]

/-- The last move of an execution is made in the state that the moves before it lead to. -/
theorem run?_concat_iff {start last : State} {moves : List Move} {move : Move} {log : List Shown} :
    run? step? start (moves ++ [move]) = some (last, log) ↔
      ∃ mid before shown, run? step? start moves = some (mid, before) ∧
        step? mid move = some (last, shown) ∧ log = before ++ shown := by
  simp only [run?_append_iff, run?_singleton]

/-- Induction along an execution: what holds at its start and is passed on by every move holds at
its end. The step may use that its state was reached by the moves before it.

Proof: induction on the moves from the last one backwards, so that each step extends an
execution. -/
theorem induction_along {start : State} {motive : List Move → State → List Shown → Prop}
    (atStart : motive [] start [])
    (passedOn : ∀ moves move mid before next shown,
      run? step? start moves = some (mid, before) → motive moves mid before →
      step? mid move = some (next, shown) → motive (moves ++ [move]) next (before ++ shown))
    {moves : List Move} {last : State} {log : List Shown}
    (ran : run? step? start moves = some (last, log)) : motive moves last log := by
  induction moves using List.reverseRecOn generalizing last log with
  | nil =>
    obtain ⟨rfl, rfl⟩ : start = last ∧ [] = log := by
      simpa only [run?, Option.some.injEq, Prod.mk.injEq] using ran
    exact atStart
  | append_singleton moves move inductionHypothesis =>
    obtain ⟨mid, before, shown, reached, stepped, rfl⟩ := run?_concat_iff.mp ran
    exact passedOn moves move mid before last shown reached (inductionHypothesis reached) stepped

/-- Whatever an execution shows is shown by one of its moves, made in a state that the moves before
it lead to. -/
theorem shown_by_move {start last : State} {moves : List Move} {log : List Shown}
    (ran : run? step? start moves = some (last, log)) {item : Shown} (member : item ∈ log) :
    ∃ first move rest mid before next shown, moves = first ++ move :: rest ∧
      run? step? start first = some (mid, before) ∧ step? mid move = some (next, shown) ∧
        item ∈ shown := by
  refine induction_along (motive := fun moves _ log => item ∈ log →
    ∃ first move rest mid before next shown, moves = first ++ move :: rest ∧
      run? step? start first = some (mid, before) ∧ step? mid move = some (next, shown) ∧
        item ∈ shown) ?_ ?_ ran member
  · intro impossible
    exact absurd impossible List.not_mem_nil
  · intro moves move mid before next shown reached inductionHypothesis stepped member
    rcases List.mem_append.mp member with earlier | now
    · obtain ⟨first, early, rest, state, past, after, seen, split, led, made, among⟩ :=
        inductionHypothesis earlier
      exact ⟨first, early, rest ++ [move], state, past, after, seen, by
        simp only [split, List.append_assoc, List.cons_append], led, made, among⟩
    · exact ⟨moves, move, [], mid, before, next, shown, rfl, reached, stepped, now⟩

/-- What is observed of the steps of an execution, in order: of each step from the state before it,
what it shows and the state after it. -/
def observed {α : Type} (step? : State → Move → Option (State × List Shown))
    (observe : State → List Shown → State → List α) : State → List Move → List α
  | _, [] => []
  | state, move :: rest =>
    match step? state move with
    | none => []
    | some (next, shown) => observe state shown next ++ observed step? observe next rest

/-- One more step adds what is observed of it. -/
theorem observed_concat {α : Type} {observe : State → List Shown → State → List α}
    {start mid next : State} {moves : List Move} {move : Move} {before shown : List Shown}
    (reached : run? step? start moves = some (mid, before))
    (stepped : step? mid move = some (next, shown)) :
    observed step? observe start (moves ++ [move]) =
      observed step? observe start moves ++ observe mid shown next := by
  induction moves generalizing start before with
  | nil =>
    obtain ⟨rfl, -⟩ := Prod.mk.inj (Option.some.inj reached)
    simp only [List.nil_append, observed, stepped, List.append_nil]
  | cons first rest inductionHypothesis =>
    simp only [run?] at reached
    cases made : step? start first with
    | none => simp [made] at reached
    | some result =>
      obtain ⟨second, seen⟩ := result
      cases continued : run? step? second rest with
      | none => simp [made, continued] at reached
      | some outcome =>
        obtain ⟨last, later⟩ := outcome
        obtain ⟨rfl, -⟩ : last = mid ∧ seen ++ later = before := by
          simpa only [made, continued, Option.some.injEq, Prod.mk.injEq] using reached
        simp only [List.cons_append, observed, made, inductionHypothesis continued,
          List.append_assoc]

/-- What is read off the steps of an execution, in order: a reading of each step from the state
before it and the state after it. -/
def readings {α : Type} (step? : State → Move → Option (State × List Shown))
    (read : State → State → List α) :
    State → List Move → List α
  | _, [] => []
  | state, move :: rest =>
    match step? state move with
    | none => []
    | some (next, _) => read state next ++ readings step? read next rest

/-- A reading is an observation that does not ask what a step shows. -/
theorem readings_eq_observed {α : Type} (read : State → State → List α) (start : State)
    (moves : List Move) :
    readings step? read start moves =
      observed step? (fun before _ after => read before after) start moves := by
  induction moves generalizing start with
  | nil => rfl
  | cons move rest inductionHypothesis =>
    simp only [readings, observed]
    split
    · rfl
    · rw [inductionHypothesis]

/-- One more step adds its reading. -/
theorem readings_concat {α : Type} {read : State → State → List α} {start mid next : State}
    {moves : List Move} {move : Move} {before shown : List Shown}
    (reached : run? step? start moves = some (mid, before))
    (stepped : step? mid move = some (next, shown)) :
    readings step? read start (moves ++ [move]) = readings step? read start moves ++
      read mid next := by
  simp only [readings_eq_observed]
  exact observed_concat reached stepped

/-- Two states that every move takes to related states and from which it shows the same are not told
apart by any sequence of moves.

Proof: induction on the moves, with both states general. -/
theorem run?_keeps_step (Related : State → State → Prop)
    (together : ∀ first second move, Related first second →
      Option.Rel (fun a b => Related a.1 b.1 ∧ a.2 = b.2) (step? first move) (step? second move))
    {first second : State} (related : Related first second) (moves : List Move) :
    Option.Rel (fun a b => Related a.1 b.1 ∧ a.2 = b.2)
      (run? step? first moves) (run? step? second moves) := by
  induction moves generalizing first second with
  | nil => exact .some ⟨related, rfl⟩
  | cons move rest inductionHypothesis =>
    have made := together first second move related
    simp only [run?]
    generalize step? first move = one at made ⊢
    generalize step? second move = other at made ⊢
    cases made with
    | none => exact .none
    | @some one other same =>
      obtain ⟨near, shown⟩ := one
      obtain ⟨far, seen⟩ := other
      obtain ⟨still, rfl⟩ : Related near far ∧ shown = seen := same
      have later := inductionHypothesis still
      dsimp only
      generalize run? step? near rest = one at later ⊢
      generalize run? step? far rest = other at later ⊢
      cases later with
      | none => exact .none
      | @some one other same =>
        exact .some ⟨same.1, congrArg (shown ++ ·) same.2⟩

end KeySweeper.Execution
