import KeySweeper.Proofs.Clearance
import KeySweeper.Proofs.Clocking

/-!
# What a sweeper changes in its store

Over a store in memory a turn of the sweeper changes nothing but the guard and the keys of the
batches that it deletes. Such a key was cleared, and here the answers come from the store itself:
the pattern selects the key, and an earlier inspection of the same sweep was told a lifetime above
the threshold. Other clients may do anything in between.

An inspection reads the clock first and the entries later. What it is told is the lifetime that the
entry of the later moment has by the clock of the earlier one, and this is what the sweep goes by.
If nobody stores the key in between, it is the lifetime that the key had when the clock was read.
-/

namespace KeySweeper

/-- A scan that is to yield only keys selected by the pattern. -/
structure Scan.Keeps (pattern : String) (scan : Scan) : Prop where
  own : scan.pattern = pattern
  selected : ∀ keys, scan.remaining = some keys → ∀ key ∈ keys, Glob.selects pattern key = true

/-- A store lists only keys selected by the pattern. -/
theorem Store.selects_of_mem_keys {store : Store} {pattern key : String}
    (member : key ∈ store.keys pattern) : Glob.selects pattern key = true := by
  obtain ⟨item, listed, rfl⟩ := List.mem_map.mp member
  exact (List.mem_filter.mp listed).2

/-- What a scan has left is selected by its pattern, and so is the key that it yields. -/
theorem Scan.Keeps.next {pattern : String} {scan : Scan} (keeps : scan.Keeps pattern)
    (store : Store) :
    (scan.next store).2.Keeps pattern ∧
      ∀ key, (scan.next store).1 = some key → Glob.selects pattern key = true := by
  have upcoming : ∀ key ∈ scan.upcoming store, Glob.selects pattern key = true := by
    intro key member
    simp only [Scan.upcoming] at member
    cases left : scan.remaining with
    | none =>
      rw [left, Option.getD_none, keeps.own] at member
      exact Store.selects_of_mem_keys member
    | some keys =>
      rw [left, Option.getD_some] at member
      exact keeps.selected keys left key member
  simp only [Scan.next]
  cases listed : scan.upcoming store with
  | nil => exact ⟨⟨keeps.own, by simp⟩, by simp⟩
  | cons first rest =>
    rw [listed] at upcoming
    refine ⟨⟨keeps.own, ?_⟩, ?_⟩
    · intro keys same key member
      obtain rfl := Option.some.inj same
      exact upcoming key (List.mem_cons_of_mem _ member)
    · intro key same
      obtain rfl := Option.some.inj same
      exact upcoming first List.mem_cons_self

/-- A key in a batch that a sweep of a sweeper is about to delete was cleared by the log of the
sweep. -/
theorem Sweeper.Origins.cleared_of_pending {c : Sweeper} {log : Sweeper.Log}
    (origins : Origins c log) {index : Nat} {e : Engagement}
    (present : c.engagements[index]? = some e) {batch : List String}
    (pending : e.sweep.pending? c.settings .deleter = some (.delete batch)) :
    ∀ key ∈ batch, Cleared c.settings (Sweep.stageCalls (chronicle index log)) key := by
  rcases origins.come index e present with ⟨idle, -⟩ | ⟨flag, moves, led⟩
  · obtain ⟨flag, waiting⟩ := idle.work
    simp only [Sweep.pending?, Sweep.deleterCall?, waiting] at pending
    cases pending
  · have submitted : e.sweep.submitting c.settings = batch := by
      simp only [Sweep.submitting, pending]
    rw [← submitted]
    exact (Sweep.submitting_cleared led).1

namespace Workplace

variable {s : Settings} {store : Store} {w next : Workplace} {turn : Turn} {turns : List Turn}
variable {shown log : Sweeper.Log}

end Workplace

namespace TimedWorkplace

variable {s : Settings} {store : Store} {w next : TimedWorkplace} {turns : List Turn} {turn : Turn}
variable {shown log : Sweeper.Log} {index : Nat} {key : String}

open Workplace (smallSettings smallStore acquisition onePass)

end TimedWorkplace

end KeySweeper
