/-!
# Handoffs

Neighbouring stages of a sweep are joined by a handoff: keys queue up in it in the order in which
they were sent, and only so many fit. A sender that finds no room waits with its key in hand, so a
key that waits is not in the queue. Whether the two ends are still there is known to the stages and
not to the queue.
-/

namespace KeySweeper

/-- A bounded queue of keys between two stages. -/
structure Handoff where
  /-- The keys sent and not yet received, oldest first. -/
  queue : List String
  /-- How many keys fit. -/
  capacity : Nat
deriving DecidableEq, Repr

namespace Handoff

/-- The number of keys that fit between two stages of a sweep. -/
def defaultCapacity : Nat := 1

/-- A handoff with nothing in it. -/
def empty (capacity : Nat) : Handoff := ⟨[], capacity⟩

/-- Whether one more key fits. -/
def hasRoom (h : Handoff) : Bool := decide (h.queue.length < h.capacity)

/-- Queues a key behind the others. -/
def push (h : Handoff) (key : String) : Handoff := { h with queue := h.queue ++ [key] }

/-- Takes the oldest key. -/
def pop? (h : Handoff) : Option (String × Handoff) :=
  match h.queue with
  | [] => none
  | key :: rest => some (key, { h with queue := rest })

end Handoff

end KeySweeper
