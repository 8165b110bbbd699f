import KeySweeper.Proofs.Counting
import KeySweeper.Proofs.Delivery

/-!
# How many keys a sweep holds

A sweep over a store of any size holds few keys at a time. A key that the scan has yielded leaves
the sweep in one of three ways: the scanner gives it up when it stops, its inspection comes back and
does not let it pass, or the call that deletes it comes back. Every key that has not left is in one
of six places: in the hand of the scanner, queued behind it, in the hand of the filter, queued
behind that, in the hand of the deleter, or in its batch. Each place has room for one key, and the
batch for as many as the settings say.

The invariant counts the keys by their places. A stage that crashes or that finds no receiver takes
the keys in its hands along, and then its place stays taken: a key is never counted as gone because
nobody knows what became of it.
-/

namespace KeySweeper

namespace Ledger

/-- The key whose inspection came back and did not let it pass. -/
def dismissedKey? (threshold : Duration) : StoreEvent → Option String
  | .inspected key (.value ttl) => if ttl.outlives threshold then none else some key
  | .inspected key (.failed _) => some key
  | _ => none

/-- The keys whose inspections came back and did not let them pass, in order. -/
def dismissed (threshold : Duration) (h : List StoreEvent) : List String :=
  h.filterMap (dismissedKey? threshold)

@[simp] theorem dismissed_append (threshold : Duration) (h later : List StoreEvent) :
    dismissed threshold (h ++ later) = dismissed threshold h ++ dismissed threshold later :=
  List.filterMap_append

@[simp] theorem dismissed_singleton (threshold : Duration) (event : StoreEvent) :
    dismissed threshold [event] = (dismissedKey? threshold event).toList := by
  cases read : dismissedKey? threshold event <;> simp [dismissed, read]

end Ledger

open Ledger

/-- How many keys a filter may have in its hand, those that it took along when it came to its end
included. -/
def Filter.load : Filter → Nat
  | .waiting => 0
  | _ => 1

/-- How many keys a deleter may have in its batch and its hand, those that it took along when it
came to its end included, if a batch has this size. -/
def Deleter.load (size : Nat) : Deleter → Nat
  | .collecting batch => batch.length
  | .deleting batch waiting => batch.length + waiting.toList.length
  | _ => size + 1

/-- A key that the scan yields is in the hand of the scanner, unless the scanner comes to its
end. -/
theorem Scanner.inHand_afterAnswer (cancelled : Bool) (pattern : String)
    (answer : Answer (Option String)) :
    (found [.scanned pattern answer]).length =
      (Scanner.afterAnswer cancelled answer).inHand.length +
      if (Scanner.afterAnswer cancelled answer).isLive then 0 else
        (found [.scanned pattern answer]).length := by
  cases answer with
  | value result =>
    cases result with
    | none => rfl
    | some key => cases cancelled <;> rfl
  | failed cause => rfl
  | crashed text => rfl

/-- A key whose inspection is answered is dismissed, or it stays in the hand of the filter. -/
theorem Filter.load_afterAnswer (threshold : Duration) (key : String) (answer : Answer Ttl) :
    (Filter.afterAnswer threshold key answer).load +
      (dismissed threshold [.inspected key answer]).length = 1 := by
  cases answer with
  | value ttl =>
    cases passes : ttl.outlives threshold <;> simp [Filter.afterAnswer, Filter.load,
      dismissedKey?, passes]
  | failed cause => rfl
  | crashed text => rfl

/-- A deleter that takes a key has one more. -/
theorem Deleter.load_accept (size : Nat) (batch : List String) (key : String) :
    (Deleter.accept size batch key).load size = batch.length + 1 := by
  simp only [Deleter.accept]
  split
  · rfl
  · exact List.length_append

/-- A deleter whose inbox is closed keeps its batch. -/
theorem Deleter.load_flush (size : Nat) (batch : List String) :
    batch.length ≤ (Deleter.flush batch).load size := by
  cases batch with
  | nil => exact Nat.zero_le _
  | cons key rest => exact Nat.le_refl _

/-- A batch leaves when its call comes back. A call that crashes leaves the places of the deleter
full. -/
theorem Deleter.load_afterAnswer {size : Nat} {batch : List String} (fits : batch.length ≤ size)
    (waiting : Option String) (answer : Answer Nat) :
    batch.length + waiting.toList.length ≤
      (counted [.deleted batch answer]).length +
        (Deleter.afterAnswer waiting answer).load size := by
  rw [counted_singleton]
  cases answer with
  | value removed =>
    cases waiting with
    | none => exact Nat.le_add_right ..
    | some key => exact Nat.le_refl _
  | failed cause =>
    cases waiting with
    | none => exact Nat.le_add_right ..
    | some key => exact Nat.le_refl _
  | crashed text =>
    have one : waiting.toList.length ≤ 1 := by cases waiting <;> simp
    simp only [Deleter.afterAnswer, Deleter.load, countedKeys, List.length_nil]
    omega

namespace Pipeline

/-- How many keys the stages and the queues between them may have, if a batch has this size. -/
def load (size : Nat) (p : Pipeline) : Nat :=
  p.scanner.inHand.length + p.candidates.queue.length + p.filter.load + p.matched.queue.length +
    p.deleter.load size

/-- The keys that the scanner gives up in a step: if it has come to its end, those in its hand and
those that the scan has just yielded. -/
def givenUp (p : Pipeline) (called : List StoreEvent) (next : Pipeline) : List String :=
  if next.scanner.isLive then [] else p.scanner.inHand ++ found called

/-- No batch is larger than the settings say. -/
def BatchFits (s : Settings) (p : Pipeline) : Prop :=
  ∀ batch, (p.deleter = .collecting batch ∨ ∃ waiting, p.deleter = .deleting batch waiting) →
    batch.length ≤ Deleter.effectiveSize s.batchSize

variable {s : Settings} {p next : Pipeline} {move : Move} {shown : List Effect}
variable {h : List StoreEvent} {discarded : List String}

/-- What a step takes in is still there after it or has left. -/
theorem load_step (fits : p.BatchFits s) (stepped : p.step? s move = some (next, shown)) :
    (found (calls shown)).length + p.load (Deleter.effectiveSize s.batchSize) ≤
      (p.givenUp (calls shown) next).length + (dismissed s.minTtl (calls shown)).length +
        (counted (calls shown)).length + next.load (Deleter.effectiveSize s.batchSize) := by
  generalize effective : Deleter.effectiveSize s.batchSize = size
  have silent : (found (calls [])).length = 0 := rfl
  cases steps_of_step? stepped with
  | scanned answer asking =>
    rw [calls_effects]
    have taken := Scanner.inHand_afterAnswer p.control.cancelled s.pattern answer
    have given : (p.givenUp [.scanned s.pattern answer]
        { p with
          scanner := Scanner.afterAnswer p.control.cancelled answer
          control := cancelIfFailed p.control answer }).length =
        if (Scanner.afterAnswer p.control.cancelled answer).isLive then 0
        else (found [.scanned s.pattern answer]).length := by
      simp only [givenUp, asking, Scanner.inHand, List.nil_append]
      split <;> rfl
    simp only [load, asking, given, show Scanner.asking.inHand.length = 0 from rfl]
    omega
  | candidateLost key offering reason =>
    have given : (p.givenUp (calls []) { p with scanner := .ended }).length = 1 := by
      rw [givenUp, offering]
      rfl
    simp only [load, offering, given, silent,
      show (Scanner.offering key).inHand.length = 1 from rfl]
    omega
  | candidateSent key offering uncancelled live room =>
    simp only [load, offering, silent, Handoff.push, List.length_append, List.length_singleton,
      show (Scanner.offering key).inHand.length = 1 from rfl]
    omega
  | candidateTaken key rest waiting queued =>
    simp only [load, waiting, queued, silent, Filter.load, List.length_cons]
    omega
  | candidatesEnded waiting queued halted =>
    simp only [load, waiting, silent, Filter.load]
    omega
  | inspected answer key inspecting =>
    rw [calls_effects]
    have left := Filter.load_afterAnswer s.minTtl key answer
    simp only [load, inspecting, show (Filter.inspecting key).load = 1 from rfl,
      show (found [.inspected key answer]).length = 0 from rfl]
    omega
  | matchLost key offering gone =>
    simp only [load, offering, silent, Filter.load]
    omega
  | matchSent key offering live room =>
    simp only [load, offering, silent, Filter.load, Handoff.push, List.length_append,
      List.length_singleton]
    omega
  | matchTaken batch key rest collecting queued =>
    have more := Deleter.load_accept size batch key
    simp only [load, collecting, queued, silent, effective, List.length_cons,
      show (Deleter.collecting batch).load size = batch.length from rfl]
    omega
  | matchesEnded batch collecting queued halted =>
    have kept := Deleter.load_flush size batch
    simp only [load, collecting, silent,
      show (Deleter.collecting batch).load size = batch.length from rfl]
    omega
  | deleted answer batch waiting deleting =>
    rw [calls_effects]
    have left :=
      Deleter.load_afterAnswer (effective ▸ fits batch (Or.inr ⟨waiting, deleting⟩)) waiting answer
    simp only [load, deleting, show (found [.deleted batch answer]).length = 0 from rfl,
      show (Deleter.deleting batch waiting).load size =
        batch.length + waiting.toList.length from rfl]
    omega
  | cancelled =>
    simp only [load, silent]
    omega

/-- Every step keeps the batch within its size. -/
theorem BatchFits.step (fits : p.BatchFits s) (stepped : p.step? s move = some (next, shown)) :
    next.BatchFits s := by
  cases steps_of_step? stepped with
  | matchTaken batch key rest collecting queued =>
    have most := fits batch (Or.inl collecting)
    intro keys state
    simp only [Deleter.accept] at state
    split at state
    · rcases state with impossible | ⟨waiting, same⟩
      · cases impossible
      · obtain ⟨rfl, -⟩ := Deleter.deleting.inj same
        exact most
    · next room =>
      rcases state with same | ⟨waiting, impossible⟩
      · obtain rfl := Deleter.collecting.inj same
        rw [List.length_append, List.length_singleton]
        omega
      · cases impossible
  | matchesEnded batch collecting queued halted =>
    have most := fits batch (Or.inl collecting)
    intro keys state
    simp only [Deleter.flush] at state
    split at state
    · rcases state with impossible | ⟨waiting, impossible⟩ <;> cases impossible
    · rcases state with impossible | ⟨waiting, same⟩
      · cases impossible
      · obtain ⟨rfl, -⟩ := Deleter.deleting.inj same
        exact most
  | deleted answer batch waiting deleting =>
    intro keys state
    have small : keys.length ≤ 1 := by
      cases answer <;> cases waiting <;> rcases state with same | ⟨next, same⟩ <;> cases same <;>
        exact Nat.le_refl 1
    exact Nat.le_trans small (Nat.le_max_left ..)
  | _ => exact fits

/-- No queue has more keys than fit, and what fits does not change. -/
structure QueuesFit (p : Pipeline) : Prop where
  candidates : p.candidates.queue.length ≤ p.candidates.capacity
  matched : p.matched.queue.length ≤ p.matched.capacity
  capacities : p.candidates.capacity = Handoff.defaultCapacity ∧
    p.matched.capacity = Handoff.defaultCapacity

/-- A key that is sent finds room, and a key that is taken makes room. -/
theorem QueuesFit.step (queues : p.QueuesFit) (stepped : p.step? s move = some (next, shown)) :
    next.QueuesFit := by
  obtain ⟨candidates, matched, capacities⟩ := queues
  cases steps_of_step? stepped with
  | candidateSent key offering uncancelled live room =>
    refine ⟨?_, matched, capacities⟩
    simp only [Handoff.push, List.length_append, List.length_singleton]
    exact Nat.succ_le_of_lt (of_decide_eq_true room)
  | candidateTaken key rest waiting queued =>
    rw [queued] at candidates
    exact ⟨Nat.le_of_succ_le candidates, matched, capacities⟩
  | matchSent key offering live room =>
    refine ⟨candidates, ?_, capacities⟩
    simp only [Handoff.push, List.length_append, List.length_singleton]
    exact Nat.succ_le_of_lt (of_decide_eq_true room)
  | matchTaken batch key rest collecting queued =>
    rw [queued] at matched
    exact ⟨candidates, Nat.le_of_succ_le matched, capacities⟩
  | _ => exact ⟨candidates, matched, capacities⟩

/-- No queue has more keys than fit in a handoff. -/
theorem QueuesFit.bounded (queues : p.QueuesFit) :
    p.candidates.queue.length ≤ Handoff.defaultCapacity ∧
    p.matched.queue.length ≤ Handoff.defaultCapacity := by
  obtain ⟨candidates, matched, first, second⟩ := queues
  rw [first] at candidates
  rw [second] at matched
  exact ⟨candidates, matched⟩

/-- Every key that the scan has yielded has left in one of the three ways or is in one of the
places, no place has more keys than fit, and the scanner gives up one key at most. -/
structure Stowed (s : Settings) (p : Pipeline) (h : List StoreEvent)
    (discarded : List String) : Prop where
  account : (found h).length ≤ discarded.length + (dismissed s.minTtl h).length +
    (counted h).length + p.load (Deleter.effectiveSize s.batchSize)
  batch : p.BatchFits s
  queues : p.QueuesFit
  kept : p.scanner.isLive = true → discarded = []
  few : discarded.length ≤ 1

/-- Fresh stages have no key. -/
theorem Stowed.fresh (s : Settings) (control : Control) : Stowed s (.fresh control) [] [] where
  account := Nat.zero_le _
  batch batch state := by
    rcases state with collecting | ⟨waiting, deleting⟩
    · obtain rfl := Deleter.collecting.inj collecting
      exact Nat.zero_le _
    · cases deleting
  queues := ⟨Nat.zero_le _, Nat.zero_le _, rfl, rfl⟩
  kept _ := rfl
  few := Nat.zero_le _

/-- A scanner has one key in its hand at most, and none once it is over. -/
theorem length_inHand (p : Pipeline) :
    p.scanner.inHand.length ≤ if p.scanner.isLive then 1 else 0 := by
  cases p.scanner with
  | asking => exact Nat.zero_le _
  | offering key => exact Nat.le_refl 1
  | ended => exact Nat.le_refl 0
  | crashed text => exact Nat.le_refl 0

/-- In no step a scanner gives up more than one key, and once it is over it gives up none. -/
theorem length_givenUp (stepped : p.step? s move = some (next, shown)) :
    (p.givenUp (calls shown) next).length ≤ if p.scanner.isLive then 1 else 0 := by
  have most : (p.scanner.inHand ++ found (calls shown)).length ≤ if p.scanner.isLive then
      1 else 0 := by
    have hand := p.length_inHand
    cases steps_of_step? stepped with
    | scanned answer asking =>
      rw [calls_effects, found_singleton, asking]
      cases foundKey? (.scanned s.pattern answer) with
      | none => exact Nat.zero_le 1
      | some key => exact Nat.le_refl 1
    | inspected answer key inspecting =>
      rwa [calls_effects, show found [.inspected key answer] = [] from rfl, List.append_nil]
    | deleted answer batch waiting deleting =>
      rwa [calls_effects, show found [.deleted batch answer] = [] from rfl, List.append_nil]
    | _ => rwa [show found (calls []) = [] from rfl, List.append_nil]
  simp only [givenUp]
  split
  · exact Nat.zero_le _
  · exact most

/-- Every step of the stages keeps account of the keys. -/
theorem Stowed.step (stowed : Stowed s p h discarded)
    (stepped : p.step? s move = some (next, shown)) :
    Stowed s next (h ++ calls shown) (discarded ++ p.givenUp (calls shown) next) where
  account := by
    have before := stowed.account
    have now := load_step stowed.batch stepped
    simp only [found_append, dismissed_append, counted_append, List.length_append]
    omega
  batch := stowed.batch.step stepped
  queues := stowed.queues.step stepped
  kept live := by
    have was : p.scanner.isLive = true := by
      by_contra halted
      have ended : next.isLive .scanner = false :=
        over_of_step stepped (by simpa [isLive] using halted)
      exact absurd (live.symm.trans ended) Bool.noConfusion
    rw [stowed.kept was, givenUp, if_pos live]
    rfl
  few := by
    have now := length_givenUp stepped
    rw [List.length_append]
    cases live : p.scanner.isLive with
    | true =>
      rw [live, if_pos rfl] at now
      rw [stowed.kept live]
      rwa [List.length_nil, Nat.zero_add]
    | false =>
      rw [live, if_neg Bool.false_ne_true] at now
      exact Nat.add_le_add stowed.few now

/-- A pipeline whose keys are all stowed holds few of them. -/
theorem Stowed.bounded (stowed : Stowed s p h discarded) :
    (found h).length ≤ discarded.length + (dismissed s.minTtl h).length + (counted h).length +
      (Deleter.effectiveSize s.batchSize + 5) := by
  have account := stowed.account
  have hand : p.scanner.inHand.length ≤ 1 := Nat.le_trans p.length_inHand (by split <;> decide)
  obtain ⟨candidates, matched⟩ := stowed.queues.bounded
  have filter : p.filter.load ≤ 1 := by cases p.filter <;> simp [Filter.load]
  have deleter : p.deleter.load (Deleter.effectiveSize s.batchSize) ≤ Deleter.effectiveSize
      s.batchSize + 1 := by
    cases state : p.deleter with
    | collecting batch =>
      have most := stowed.batch batch (Or.inl state)
      exact Nat.le_succ_of_le most
    | deleting batch waiting =>
      have most := stowed.batch batch (Or.inr ⟨waiting, state⟩)
      have one : waiting.toList.length ≤ 1 := by cases waiting <;> simp
      exact Nat.add_le_add most one
    | ended => exact Nat.le_refl _
    | crashed text => exact Nat.le_refl _
  simp only [load] at account
  simp only [Handoff.defaultCapacity] at candidates matched
  omega

end Pipeline

/-- The key in the hand of the scanner. Before the stages start there is none. -/
def Work.inHand : Work → List String
  | .waiting _ => []
  | .running p => p.scanner.inHand

/-- The keys that the scanner gives up in a step of the sweep with these calls of its stages: if it
has come to its end, those in its hand and those that the scan has just yielded. -/
def Work.givenUp (before : Work) (called : List StoreEvent) : Work → List String
  | .waiting _ => []
  | .running p => if p.scanner.isLive then [] else before.inHand ++ found called

namespace Sweep

/-- The keys that the scanner gave up in an execution, in order. -/
def discarded (s : Settings) (flag : Bool) (moves : List Move) : List String :=
  Execution.observed (recorded? s) (fun before shown after =>
    before.work.givenUp (stageCalls shown) after.work)
    (.claimed flag) moves

variable {s : Settings} {flag : Bool} {moves : List Move} {sweep : Sweep} {log : Chronicle}

/-- The account of the keys, for the work of a sweep: before its stages start there are none. -/
def Stowed (s : Settings) (h : List StoreEvent) (discarded : List String) : Work → Prop
  | .waiting _ => h = [] ∧ discarded = []
  | .running p => p.Stowed s h discarded

/-- Whatever a step of a sweep means for its stages, it keeps the account. -/
theorem Stowed.step {h called : List StoreEvent} {discarded : List String} {before after : Work}
    (stowed : Stowed s h discarded before) (onward : WorkStep s before after called) :
    Stowed s (h ++ called) (discarded ++ before.givenUp called after) after := by
  cases onward with
  | still =>
    have none : before.givenUp [] before = [] := by
      cases before with
      | waiting flag => rfl
      | running p =>
        simp only [Work.givenUp, Work.inHand, show found [] = [] from rfl, List.append_nil]
        split
        · rfl
        · next halted =>
            exact List.length_eq_zero_iff.mp
              (Nat.le_zero.mp (by simpa [halted] using p.length_inHand))
    rwa [none, List.append_nil, List.append_nil]
  | told flag =>
    obtain ⟨rfl, rfl⟩ := stowed
    exact ⟨rfl, rfl⟩
  | started flag raised =>
    obtain ⟨rfl, rfl⟩ := stowed
    exact Pipeline.Stowed.fresh s (.fresh raised)
  | staged stageMove p next shown stepped => exact Pipeline.Stowed.step stowed stepped

/-- The stages of every sweep keep account of their keys. -/
theorem stowed_along (ran : run? s (.claimed flag) moves = some (sweep, log)) :
    Stowed s (stageCalls log) (discarded s flag moves) sweep.work := by
  refine Execution.induction_along (motive := fun moves sweep log =>
    Stowed s (stageCalls log) (discarded s flag moves) sweep.work) ?_ ?_ ran
  · exact ⟨rfl, rfl⟩
  intro moves move mid before next shown reached inductionHypothesis stepped
  rw [discarded, Execution.observed_concat reached stepped, stageCalls_append]
  obtain ⟨progress, made, rfl, rfl⟩ := recorded?_eq_some stepped
  exact inductionHypothesis.step (workStep_of_steps (opening_along reached) (steps_of_step? made))

/-- A sweep holds few keys at a time. In every state of every execution, however many keys there
are, whatever the store answers and however the stages interleave, neither of the two queues has
more keys than fit in a handoff; and of the keys that the scan has yielded all but as many as a
batch may have and five more were given up by the scanner, were dismissed by an inspection that came
back, or were in a call to delete them that came back. The scanner gives up one key at most, so this
is no way around the bound. -/
theorem buffering_bounded (ran : run? s (.claimed flag) moves = some (sweep, log)) :
    (sweep.work.candidates.length ≤ Handoff.defaultCapacity ∧
        sweep.work.matched.length ≤ Handoff.defaultCapacity) ∧
      (found (stageCalls log)).length ≤ (discarded s flag moves).length +
        (dismissed s.minTtl (stageCalls log)).length + (counted (stageCalls log)).length +
          (Deleter.effectiveSize s.batchSize + 5) ∧
      (discarded s flag moves).length ≤ 1 := by
  have stowed := stowed_along ran
  cases work : sweep.work with
  | waiting told =>
    rw [work] at stowed
    obtain ⟨nothing, none⟩ := stowed
    rw [nothing, none]
    exact ⟨⟨Nat.zero_le _, Nat.zero_le _⟩, Nat.zero_le _, Nat.zero_le _⟩
  | running p =>
    rw [work] at stowed
    have stowed : p.Stowed s (stageCalls log) (discarded s flag moves) := stowed
    exact ⟨stowed.queues.bounded, stowed.bounded, stowed.few⟩

/-- Batches of one key. -/
def oneByOne : Settings := (Settings.ofPattern "k*" 10).batching 1

/-- The moves of a sweep that lets six keys in and never gets an answer to its first deletion. -/
def sixKeysIn : List Move :=
  let yielded (key : String) : List Move := [.stage (.scanned (.value (some key)))]
  let queued (key : String) : List Move := yielded key ++ [.stage .offerCandidate]
  let inspected (key : String) : List Move :=
    queued key ++ [.stage .takeCandidate, .stage (.inspected (.value (.expires (.ofSeconds 3600))))]
  let matched (key : String) : List Move := inspected key ++ [.stage .offerMatch]
  let taken (key : String) : List Move := matched key ++ [.stage .takeMatch]
  [.begin, .guardChecked (.value false), .guardMarked (.value ())] ++ taken "k0" ++ taken "k1" ++
    matched "k2" ++ inspected "k3" ++ queued "k4" ++ yielded "k5"

/-- With batches of one key a sweep can come to hold six keys, one in each place, and no more. -/
theorem buffering_bounded_full :
    ∃ sweep log, run? oneByOne (.claimed false) sixKeysIn = some (sweep, log) ∧
    found (stageCalls log) = ["k0", "k1", "k2", "k3", "k4", "k5"] ∧
    discarded oneByOne false sixKeysIn = [] ∧
      dismissed oneByOne.minTtl (stageCalls log) = [] ∧ counted (stageCalls log) = [] ∧
        (found (stageCalls log)).length ≤ Deleter.effectiveSize oneByOne.batchSize + 5 := by
  have seen : (run? oneByOne (.claimed false) sixKeysIn).map (fun reached =>
      (found (stageCalls reached.2), dismissed oneByOne.minTtl (stageCalls reached.2),
        counted (stageCalls reached.2))) =
      some (["k0", "k1", "k2", "k3", "k4", "k5"], [], []) := by decide +kernel
  have given : discarded oneByOne false sixKeysIn = [] := by decide +kernel
  obtain ⟨⟨sweep, log⟩, ran, same⟩ := Option.map_eq_some_iff.mp seen
  simp only [Prod.mk.injEq] at same
  obtain ⟨yielded, rejected, returned⟩ := same
  refine ⟨sweep, log, ran, yielded, given, rejected, returned, ?_⟩
  have bound := (buffering_bounded ran).2.1
  rwa [given, rejected, returned, List.length_nil, Nat.zero_add] at bound

end Sweep

end KeySweeper
