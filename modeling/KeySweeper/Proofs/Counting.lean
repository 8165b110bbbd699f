import KeySweeper.Proofs.Crashes
import KeySweeper.Proofs.Outcome
import Mathlib.Algebra.Group.Nat.Defs
import Mathlib.Data.List.Perm.Subperm

/-!
# What the report counts

The report of a sweep gives the number of keys that were handed over for deletion. A batch is
counted when its call has come back, with a value or a failure, so the number is that of the keys in
all calls that came back. A call that crashes takes the deleter with it before the batch is counted.
The number therefore covers all keys handed over exactly if no call that deletes has crashed, and
then no store can have removed more keys than reported, whatever its calls did before they failed.
-/

namespace KeySweeper

namespace Ledger

/-- The keys of a call that deletes, if the call came back. -/
def countedKeys : StoreEvent → List String
  | .deleted _ (.crashed _) => []
  | .deleted keys _ => keys
  | _ => []

/-- The keys of all calls that delete and came back, in order. -/
def counted (h : List StoreEvent) : List String := h.flatMap countedKeys

@[simp] theorem counted_append (h later : List StoreEvent) :
    counted (h ++ later) = counted h ++ counted later := List.flatMap_append

@[simp] theorem counted_singleton (event : StoreEvent) : counted [event] = countedKeys event :=
  List.flatMap_singleton ..

/-- Keys that are counted were handed over. -/
theorem length_counted_le (h : List StoreEvent) : (counted h).length ≤ (handedOver h).length := by
  induction h with
  | nil => exact Nat.le_refl 0
  | cons event rest inductionHypothesis =>
    rw [← List.singleton_append, counted_append, handedOver_append, List.length_append,
      List.length_append, counted_singleton, handedOver_singleton]
    refine Nat.add_le_add ?_ inductionHypothesis
    cases event with
    | deleted keys answer =>
      cases answer with
      | crashed text => exact Nat.zero_le _
      | value removed => exact Nat.le_refl _
      | failed cause => exact Nat.le_refl _
    | _ => exact Nat.le_refl 0

/-- All keys handed over are counted exactly if no call that deletes has crashed, as long as no call
was made for nothing.

Proof: induction on the ledger. A call that came back adds the same keys on both sides, and one that
crashed adds at least one key to those handed over alone. -/
theorem length_counted_eq_iff {h : List StoreEvent} (filled : ∀ batch ∈ batches h, batch ≠ []) :
    (counted h).length = (handedOver h).length ↔
      ∀ keys text, .deleted keys (.crashed text) ∉ h := by
  induction h with
  | nil => exact ⟨fun _ _ _ => List.not_mem_nil, fun _ => rfl⟩
  | cons event rest inductionHypothesis =>
    rw [← List.singleton_append, batches_append] at filled
    have known := inductionHypothesis fun batch member =>
      filled batch (List.mem_append_right _ member)
    have below := length_counted_le rest
    rw [← List.singleton_append, counted_append, handedOver_append, List.length_append,
      List.length_append, counted_singleton, handedOver_singleton]
    have same (equal : countedKeys event = (deletedBatch? event).getD [])
        (intact : ∀ keys text, event ≠ .deleted keys (.crashed text)) :
        (countedKeys event).length + (counted rest).length =
            ((deletedBatch? event).getD []).length + (handedOver rest).length ↔
          ∀ keys text, .deleted keys (.crashed text) ∉ [event] ++ rest := by
      rw [equal, Nat.add_left_cancel_iff, known]
      simp only [List.singleton_append, List.mem_cons, not_or]
      exact ⟨fun never keys text => ⟨(intact keys text).symm, never keys text⟩,
        fun never keys text => (never keys text).2⟩
    cases event with
    | deleted keys answer =>
      cases answer with
      | value removed => exact same rfl (fun _ _ => nofun)
      | failed cause => exact same rfl (fun _ _ => nofun)
      | crashed text =>
        have some : 0 < keys.length :=
          List.length_pos_iff.mpr (filled keys (by simp [deletedBatch?]))
        refine ⟨fun equal => ?_, fun never => absurd List.mem_cons_self (never keys text)⟩
        simp only [countedKeys, deletedBatch?, Option.getD_some, List.length_nil] at equal
        omega
    | _ => exact same rfl (fun _ _ => nofun)

/-- What the calls that delete may have removed from the store: from each batch some of its keys,
each of them once, whatever the answer. -/
def Removes (removals batches : List (List String)) : Prop :=
  List.Forall₂ (fun removed batch => removed.Nodup ∧ removed ⊆ batch) removals batches

/-- No more keys are removed than were handed over. -/
theorem Removes.length_le {removals batches : List (List String)}
    (removes : Removes removals batches) :
    removals.flatten.length ≤ batches.flatten.length := by
  induction removes with
  | nil => exact Nat.le_refl 0
  | cons removed rest inductionHypothesis =>
    rw [List.flatten_cons, List.flatten_cons, List.length_append, List.length_append]
    exact Nat.add_le_add (List.subperm_of_subset removed.1 removed.2).length_le inductionHypothesis

end Ledger

open Ledger

namespace Pipeline

variable {s : Settings} {p next : Pipeline} {move : Move} {shown : List Effect}
  {h : List StoreEvent}

/-- The counter holds the number of keys in the calls that came back, and no call deletes
nothing. -/
structure Counts (p : Pipeline) (h : List StoreEvent) : Prop where
  total : p.control.deleted = UInt64.ofNat (counted h).length
  filled : ∀ batch ∈ batches h, batch ≠ []
  held : ∀ batch waiting, p.deleter = .deleting batch waiting → batch ≠ []

/-- Fresh stages have counted nothing. -/
theorem Counts.fresh (cancelled : Bool) : Counts (.fresh (.fresh cancelled)) [] where
  total := rfl
  filled := List.forall_mem_nil _
  held _ _ := Deleter.noConfusion

/-- A step that neither completes a deletion nor moves the deleter keeps the count. -/
theorem Counts.elsewhere (counts : Counts p h) (control : next.control.deleted = p.control.deleted)
    (deleter : next.deleter = p.deleter) (uncounted : counted (calls shown) = [])
    (silent : batches (calls shown) = []) : Counts next (h ++ calls shown) where
  total := by rw [control, counts.total, counted_append, uncounted, List.append_nil]
  filled := by
    rw [batches_append, silent, List.append_nil]
    exact counts.filled
  held := by
    rw [deleter]
    exact counts.held

/-- A deleter starts to delete a batch only once it has collected a key. -/
theorem filled_of_accept {requested : Nat} {batch full : List String} {key : String}
    {waiting : Option String}
    (accepts : Deleter.accept (Deleter.effectiveSize requested) batch key =
      .deleting full waiting) :
    full ≠ [] := by
  unfold Deleter.accept at accepts
  split at accepts
  · next enough =>
    obtain ⟨rfl, -⟩ := Deleter.deleting.inj accepts
    rintro rfl
    simp only [Deleter.effectiveSize, List.length_nil] at enough
    omega
  · cases accepts

/-- A deleter whose inbox is closed deletes its last batch only if there is a key in it. -/
theorem filled_of_flush {batch full : List String} {waiting : Option String}
    (flushes : Deleter.flush batch = .deleting full waiting) : full ≠ [] := by
  cases batch with
  | nil => cases flushes
  | cons key rest =>
    obtain ⟨rfl, -⟩ := Deleter.deleting.inj flushes
    exact List.cons_ne_nil key rest

/-- A failed call does not touch the counter. -/
theorem deleted_cancelIfFailed {α : Type} (control : Control) (answer : Answer α) :
    (cancelIfFailed control answer).deleted = control.deleted := by
  cases answer <;> rfl

/-- A batch counts when its call comes back, and every step keeps the count. -/
theorem Counts.step (counts : Counts p h) (stepped : p.step? s move = some (next, shown)) :
    Counts next (h ++ calls shown) := by
  cases steps_of_step? stepped with
  | scanned answer asking =>
    exact counts.elsewhere (deleted_cancelIfFailed ..) rfl (by simp [countedKeys])
      (by simp [deletedBatch?])
  | inspected answer key inspecting =>
    exact counts.elsewhere (deleted_cancelIfFailed ..) rfl (by simp [countedKeys])
      (by simp [deletedBatch?])
  | matchTaken batch key rest collecting queued =>
    refine ⟨?_, ?_, fun full waiting => filled_of_accept⟩
    · simpa [calls] using counts.total
    · simpa [calls] using counts.filled
  | matchesEnded batch collecting queued halted =>
    refine ⟨?_, ?_, fun full waiting => filled_of_flush⟩
    · simpa [calls] using counts.total
    · simpa [calls] using counts.filled
  | deleted answer batch waiting deleting =>
    have some := counts.held batch waiting deleting
    rw [calls_effects]
    refine ⟨?_, ?_, ?_⟩
    · rw [counted_append, counted_singleton, List.length_append, UInt64.ofNat_add, ← counts.total]
      cases answer with
      | crashed text => exact (UInt64.add_zero _).symm
      | value removed => rfl
      | failed cause => rfl
    · intro keys member
      rw [batches_append, batches_singleton] at member
      rcases List.mem_append.mp member with earlier | now
      · exact counts.filled keys earlier
      · obtain rfl := List.mem_singleton.mp now
        exact some
    · intro keys next started
      cases answer <;> cases waiting <;> cases started
  | _ => exact counts.elsewhere rfl rfl rfl rfl

end Pipeline

namespace Sweep

variable {s : Settings} {flag : Bool} {moves : List Move} {sweep : Sweep} {log : Chronicle}

/-- The stages of every sweep keep count. -/
theorem counts_along (ran : run? s (.claimed flag) moves = some (sweep, log)) {p : Pipeline}
    (running : sweep.work = .running p) : p.Counts (stageCalls log) :=
  (holds_along Pipeline.Counts.fresh
    (fun _ _ _ _ _ counts stepped => counts.step stepped) ran).2.of_running running

/-- The report of a sweep counts the keys of the calls that came back. In every execution after
which a sweep has completed, under all answers of the store and however its stages interleaved, no
stage waits for a call any more, and the reported number is that of the keys in all calls that
delete batches and came back, with a value or a failure. Below the size of a machine word it is the
number of all keys handed over exactly if no such call has crashed; and then no more keys can have
been removed than reported, whatever part of its batch each call removed, failed calls included. -/
theorem report_counts_returned (ran : run? s (.claimed flag) moves = some (sweep, log))
    {report : SweepReport} (completed : sweep.driver = .finished (.completed report)) :
    (∀ part, part.isStage = true → sweep.pending? s part = none) ∧
    report.deleted = UInt64.ofNat (counted (stageCalls log)).length ∧
    ((handedOver (stageCalls log)).length < 2 ^ 64 →
      (report.deleted.toNat = (handedOver (stageCalls log)).length ↔
        ∀ keys text, .deleted keys (.crashed text) ∉ stageCalls log) ∧
      ((∀ keys text, .deleted keys (.crashed text) ∉ stageCalls log) →
        ∀ removals, Removes removals (batches (stageCalls log)) →
          removals.flatten.length ≤ report.deleted.toNat)) := by
  have verdict := verdict_along ran completed
  generalize trail log = past at verdict
  cases verdict with
  | completed report p running quiet reported answer back entered =>
    have counts := counts_along ran running
    have total : report.deleted = UInt64.ofNat (counted (stageCalls log)).length :=
      reported.trans counts.total
    refine ⟨fun part stage => idle_of_over running quiet stage, total, fun few => ?_⟩
    have fits : (counted (stageCalls log)).length < 2 ^ 64 :=
      Nat.lt_of_le_of_lt (length_counted_le _) few
    have number : report.deleted.toNat = (counted (stageCalls log)).length := by
      rw [total, UInt64.toNat_ofNat_of_lt' fits]
    have all := length_counted_eq_iff counts.filled
    refine ⟨by rw [number, all], fun intact removals removes => ?_⟩
    rw [number, all.mpr intact]
    exact removes.length_le

/-- A sweep that finds one key, which lives for an hour, and gets this answer to its deletion. -/
def oneKeyDeleted (answer : Answer Nat) : List Move :=
  [.begin, .guardChecked (.value false), .guardMarked (.value ()),
    .stage (.scanned (.value (some "a"))), .stage .offerCandidate, .stage .takeCandidate,
    .stage (.inspected (.value (.expires (.ofSeconds 3600)))), .stage .offerMatch,
    .stage (.scanned (.value none)), .stage .takeCandidate, .stage .takeMatch, .stage .takeMatch,
    .stage (.deleted answer), .join, .join, .join, .proceed, .guardReleased (.value 1) .zero .epoch]

/-- The calls of the stages of that sweep. -/
def oneKeyCalls (answer : Answer Nat) : List StoreEvent :=
  [.scanned "a*" (.value (some "a")), .inspected "a" (.value (.expires (.ofSeconds 3600))),
    .scanned "a*" (.value none), .deleted ["a"] answer]

/-- A key whose deletion failed is counted. -/
theorem report_counts_returned_failed :
    ∃ sweep log report, run? (.ofPattern "a*" 10) (.claimed false)
        (oneKeyDeleted (.failed (.unavailable "down"))) = some (sweep, log) ∧
      sweep.driver = .finished (.completed report) ∧ (handedOver (stageCalls log)).length < 2 ^ 64 ∧
      (∀ keys text, .deleted keys (.crashed text) ∉ stageCalls log) ∧
      Removes [["a"]] (batches (stageCalls log)) ∧
      report.deleted.toNat = (handedOver (stageCalls log)).length ∧
      [["a"]].flatten.length ≤ report.deleted.toNat := by
  obtain ⟨sweep, log, report, ran, completed, listed⟩ : ∃ sweep log report,
      run? (.ofPattern "a*" 10) (.claimed false) (oneKeyDeleted (.failed (.unavailable "down"))) =
        some (sweep, log) ∧ sweep.driver = .finished (.completed report) ∧
      stageCalls log = oneKeyCalls (.failed (.unavailable "down")) := ⟨_, _, _, rfl, rfl, rfl⟩
  have few : (handedOver (stageCalls log)).length < 2 ^ 64 := by rw [listed]; decide
  have intact : ∀ keys text, .deleted keys (.crashed text) ∉ stageCalls log := by
    intro keys text
    rw [listed]
    simp [oneKeyCalls]
  have removes : Removes [["a"]] (batches (stageCalls log)) := by
    rw [listed]
    exact .cons ⟨by decide, fun _ member => member⟩ .nil
  have counts := (report_counts_returned ran completed).2.2 few
  exact ⟨sweep, log, report, ran, completed, few, intact, removes, counts.1.mpr intact,
    counts.2 intact _ removes⟩

/-- A batch whose deletion crashed is not counted, and the call may have removed more keys than
reported. -/
theorem uncounted_by_crash :
    ∃ sweep log report, run? (.ofPattern "a*" 10) (.claimed false)
        (oneKeyDeleted (.crashed "boom")) = some (sweep, log) ∧
      sweep.driver = .finished (.completed report) ∧ (handedOver (stageCalls log)).length < 2 ^ 64 ∧
      report.deleted.toNat ≠ (handedOver (stageCalls log)).length ∧
      ∃ removals, Removes removals (batches (stageCalls log)) ∧
        report.deleted.toNat < removals.flatten.length := by
  obtain ⟨sweep, log, report, ran, completed, unreported, listed⟩ : ∃ sweep log report,
      run? (.ofPattern "a*" 10) (.claimed false) (oneKeyDeleted (.crashed "boom")) =
        some (sweep, log) ∧
      sweep.driver = .finished (.completed report) ∧ report.deleted = 0 ∧
      stageCalls log = oneKeyCalls (.crashed "boom") := ⟨_, _, _, rfl, rfl, rfl, rfl⟩
  refine ⟨sweep, log, report, ran, completed, ?_⟩
  rw [unreported, listed]
  refine ⟨by decide, by decide, [["a"]], ?_, by decide⟩
  exact .cons ⟨by decide, fun _ member => member⟩ .nil

end Sweep

end KeySweeper
