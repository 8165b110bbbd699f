import KeySweeper.Sweep

/-!
# The slot of a sweeper

A sweeper has one slot for a running sweep. The slot says in which phase the sweeper is, counts the
claims made on it, remembers whose flag a stop request raises, and keeps the report of the last
sweep that ran. A sweep announces its progress to the slot without asking whether the slot is still
its own; only giving up a claim looks at the count of claims, so that a late end of an old claim
leaves a newer one alone.
-/

namespace KeySweeper

/-- The phase of a sweeper. -/
inductive Phase where
  /-- No sweep was ever started. -/
  | idle
  /-- A sweep asks for the guard. -/
  | acquiring
  /-- The stages are at work. -/
  | running
  /-- The stages wind down, or the guard is being released. -/
  | draining
  /-- The last sweep is over. -/
  | stopped
deriving DecidableEq, Repr

namespace Phase

/-- The name of a phase as the admin interface shows it. -/
def label : Phase → String
  | .idle => "idle"
  | .acquiring => "acquiring"
  | .running => "running"
  | .draining => "draining"
  | .stopped => "stopped"

/-- Whether a sweep is under way. -/
def isActive : Phase → Bool
  | .idle => false
  | .acquiring => true
  | .running => true
  | .draining => true
  | .stopped => false

/-- The phases in the order in which a sweep goes through them. -/
def all : List Phase := [.idle, .acquiring, .running, .draining, .stopped]

end Phase

/-- The bookkeeping of a sweeper between and during its sweeps. -/
structure Slot where
  /-- The phase. -/
  phase : Phase
  /-- How many claims were made. The count is kept in a word of sixty-four bits, and it is assumed
  that no sweeper is ever claimed so often that it wraps. -/
  generation : Nat
  /-- The sweep whose flag a stop request raises: the one that made the latest claim. -/
  holder : Option Nat
  /-- The report of the last sweep that ran. -/
  lastReport : Option SweepReport
deriving DecidableEq, Repr

namespace Slot

/-- The slot of a sweeper that never ran. -/
def fresh : Slot := ⟨.idle, 0, none, none⟩

/-- The slot once a sweep has claimed it. There is none while another sweep is under way. -/
def claim? (slot : Slot) (sweep : Nat) : Option Slot :=
  if slot.phase.isActive then none
  else some { slot with
    phase := .acquiring, generation := slot.generation + 1, holder := some sweep }

/-- The slot after an announcement. A sweep that starts its stages after a stop request shows as
draining at once; the slot looks for that at the flag it raises itself. -/
def apply (slot : Slot) (holderCancelled : Bool) : SlotChange → Slot
  | .enter => { slot with phase := if holderCancelled then .draining else .running }
  | .drain => { slot with phase := .draining }
  | .rest => { slot with phase := .stopped }
  | .complete report => { slot with phase := .stopped, lastReport := some report }

/-- The slot after a stop request, which shows only while the stages are at work. -/
def stop (slot : Slot) : Slot :=
  if slot.phase = .running then { slot with phase := .draining } else slot

/-- The slot once the claim of a generation is given up: an unfinished claim sets the slot free, an
old one changes nothing. -/
def giveUp (slot : Slot) (generation : Nat) : Slot :=
  if slot.generation = generation ∧ slot.phase.isActive then
    { slot with phase := .stopped } else slot

end Slot

end KeySweeper
