import KeySweeper.Proofs.Execution
import Mathlib.Data.Nat.Init
import Mathlib.Tactic.Push

/-!
# Unending executions

A finite execution says what can have happened so far. Whether a system ever comes to rest is a
question about all that will happen, so it is asked of unending executions: at each moment a move is
made or nothing happens. An execution that came to its end goes on with moments at which nothing
happens.

Two facts carry every argument that something happens at last. A quantity that does not grow, and
falls with each move of a certain kind, leaves a last moment for moves of that kind; and a fair
execution does not put off for ever what can be done all the time. What comes to rest is then unable
to do anything.
-/

namespace KeySweeper

variable {State Move Shown : Type}

/-- An unending execution. -/
structure Unending (step? : State → Move → Option (State × List Shown)) where
  /-- The state at each moment. -/
  state : Nat → State
  /-- The move made at each moment, if there is one. -/
  made : Nat → Option Move
  /-- What is shown at each moment. -/
  shown : Nat → List Shown
  /-- Without a move nothing changes, and nothing is shown. -/
  still : ∀ moment, made moment = none → state (moment + 1) = state moment ∧ shown moment = []
  /-- A move leads to the next state. -/
  moved : ∀ moment move, made moment = some move →
    step? (state moment) move = some (state (moment + 1), shown moment)

namespace Unending

variable {step? : State → Move → Option (State × List Shown)}

/-- The moves made before a moment, in order. -/
def moves (run : Unending step?) (moment : Nat) : List Move :=
  (List.range moment).filterMap run.made

/-- All that is shown before a moment, in order. -/
def log (run : Unending step?) (moment : Nat) : List Shown := (List.range moment).flatMap run.shown

/-- Whenever something can be done from some moment on all the time, it is done at such a moment or
later. -/
def IsFair (run : Unending step?) (able : State → Prop) (does : Move → Prop) : Prop :=
  ∀ moment, (∀ later, moment ≤ later → able (run.state later)) →
    ∃ later move, moment ≤ later ∧ run.made later = some move ∧ does move

variable (run : Unending step?)

@[simp] theorem log_succ (moment : Nat) :
    run.log (moment + 1) = run.log moment ++ run.shown moment := by
  simp only [log, List.range_succ, List.flatMap_append, List.flatMap_singleton]

@[simp] theorem moves_succ (moment : Nat) :
    run.moves (moment + 1) = run.moves moment ++ (run.made moment).toList := by
  simp only [moves, List.range_succ, List.filterMap_append]
  cases made : run.made moment <;> simp [made]

/-- What is passed on by the moves made from a moment on is passed on from that moment on. -/
theorem lasting (holds : State → Prop) {moment : Nat}
    (passedOn : ∀ later move, moment ≤ later → run.made later = some move →
      holds (run.state later) → holds (run.state (later + 1)))
    (now : holds (run.state moment)) {later : Nat} (after : moment ≤ later) :
    holds (run.state later) := by
  induction later, after using Nat.le_induction with
  | base => exact now
  | succ later after inductionHypothesis =>
    cases made : run.made later with
    | none =>
      rw [(run.still later made).1]
      exact inductionHypothesis
    | some move => exact passedOn later move after made inductionHypothesis

/-- Every moment of an unending execution is the end of a finite one. -/
theorem reached (moment : Nat) :
    Execution.run? step? (run.state 0) (run.moves moment) = some (run.state moment,
      run.log moment) := by
  induction moment with
  | zero => rfl
  | succ moment inductionHypothesis =>
    rw [moves_succ, log_succ]
    cases made : run.made moment with
    | none =>
      obtain ⟨same, silent⟩ := run.still moment made
      simpa only [same, silent, Option.toList_none, List.append_nil] using inductionHypothesis
    | some move =>
      exact Execution.run?_concat_iff.mpr
        ⟨_, _, _, inductionHypothesis, run.moved moment move made, rfl⟩

/-- The moves of a finite execution, up to any of them, are a finite execution. -/
theorem reached_take {start last : State} {moves : List Move} {log : List Shown}
    (ran : Execution.run? step? start moves = some (last, log)) (moment : Nat) :
    ∃ mid early, Execution.run? step? start (moves.take moment) = some (mid, early) := by
  rw [← List.take_append_drop moment moves] at ran
  obtain ⟨mid, early, later, led, -, -⟩ := Execution.run?_append_iff.mp ran
  exact ⟨mid, early, led⟩

/-- The state after the first moves of a list, as long as they can be made. -/
def stateAfter (step? : State → Move → Option (State × List Shown)) (start : State)
    (moves : List Move) (moment : Nat) : State :=
  match Execution.run? step? start (moves.take moment) with
  | some (state, _) => state
  | none => start

/-- A finite execution after whose last move nothing happens any more. -/
def ending {start last : State} {moves : List Move} {log : List Shown}
    (ran : Execution.run? step? start moves = some (last, log)) : Unending step? where
  state := stateAfter step? start moves
  made moment := moves[moment]?
  shown moment :=
    match moves[moment]? with
    | none => []
    | some move =>
      match step? (stateAfter step? start moves moment) move with
      | some (_, shown) => shown
      | none => []
  still moment none := by
    have beyond := List.getElem?_eq_none_iff.mp none
    simp only [none, stateAfter, List.take_of_length_le beyond,
      List.take_of_length_le (Nat.le_succ_of_le beyond), and_self]
  moved moment move made := by
    obtain ⟨mid, early, led⟩ := reached_take ran moment
    obtain ⟨next, whole, now⟩ := reached_take ran (moment + 1)
    rw [List.take_add_one, made, Option.toList_some] at now
    obtain ⟨state, past, shown, before, stepped, rfl⟩ := Execution.run?_concat_iff.mp now
    obtain ⟨rfl, rfl⟩ := Prod.mk.inj (Option.some.inj (led.symm.trans before))
    simp only [stateAfter, led, List.take_add_one, made, Option.toList_some, now, stepped]

/-- After its last move such an execution stays where it has come to. -/
theorem ending_state {start last : State} {moves : List Move} {log : List Shown}
    (ran : Execution.run? step? start moves = some (last, log)) {moment : Nat}
    (beyond : moves.length ≤ moment) : (ending ran).state moment = last := by
  simp only [ending, stateAfter, List.take_of_length_le beyond, ran]

/-- Up to each moment the first moves have been made. -/
theorem ending_moves {start last : State} {moves : List Move} {log : List Shown}
    (ran : Execution.run? step? start moves = some (last, log)) (moment : Nat) :
    (ending ran).moves moment = moves.take moment := by
  induction moment with
  | zero => simp only [Unending.moves, List.range_zero, List.filterMap_nil, List.take_zero]
  | succ moment inductionHypothesis => rw [moves_succ, inductionHypothesis, List.take_add_one]; rfl

/-- Up to each moment nothing is shown that the finite execution does not show in the same place. -/
theorem ending_log {start last : State} {moves : List Move} {log : List Shown}
    (ran : Execution.run? step? start moves = some (last, log)) (moment : Nat) :
    (ending ran).log moment <+: log := by
  have reached := (ending ran).reached moment
  rw [ending_moves,
    show (ending ran).state 0 = start by simp [ending, stateAfter, Execution.run?]] at reached
  have whole := ran
  rw [← List.take_append_drop moment moves] at whole
  obtain ⟨mid, early, later, led, -, shown⟩ := Execution.run?_append_iff.mp whole
  obtain ⟨-, same⟩ := Prod.mk.inj (Option.some.inj (led.symm.trans reached))
  rw [← same, shown]
  exact List.prefix_append ..

/-- What cannot be done where a finite execution ends is not put off by it. -/
theorem ending_isFair {start last : State} {moves : List Move} {log : List Shown}
    (ran : Execution.run? step? start moves = some (last, log)) {able : State → Prop}
    {does : Move → Prop} (unable : ¬ able last) : (ending ran).IsFair able does := by
  intro moment always
  have now := always (max moment moves.length) (Nat.le_max_left ..)
  rw [ending_state ran (Nat.le_max_right ..)] at now
  exact absurd now unable

end Unending

/-- A quantity that does not grow from some moment on and falls at certain moments falls at only
finitely many of them.

Proof: induction on the quantity. If there is no such moment nothing has to be shown, and behind the
first one the quantity is smaller. -/
theorem eventually_never (measure : Nat → Nat) (counts : Nat → Prop) {moment : Nat}
    (falls : ∀ later, moment ≤ later → measure (later + 1) ≤ measure later)
    (counted : ∀ later, moment ≤ later → counts later → measure (later + 1) < measure later) :
    ∃ last, moment ≤ last ∧ ∀ later, last ≤ later → ¬ counts later := by
  generalize now : measure moment = amount
  induction amount using Nat.strongRecOn generalizing moment with
  | ind amount inductionHypothesis =>
    by_cases none : ∀ later, moment ≤ later → ¬ counts later
    · exact ⟨moment, Nat.le_refl moment, none⟩
    · push Not at none
      obtain ⟨first, after, counting⟩ := none
      have lower : measure first ≤ measure moment :=
        Nat.le_induction (P := fun later _ => measure later ≤ measure moment) (Nat.le_refl _)
          (fun later still below => Nat.le_trans (falls later still) below) first after
      have smaller : measure (first + 1) < amount := by
        have fallen := counted first after counting
        omega
      have beyond {later : Nat} (still : first + 1 ≤ later) : moment ≤ later := by omega
      obtain ⟨last, still, never⟩ := inductionHypothesis _ smaller
        (fun later still => falls later (beyond still)) (fun later still =>
          counted later (beyond still)) rfl
      exact ⟨last, beyond still, never⟩

end KeySweeper
