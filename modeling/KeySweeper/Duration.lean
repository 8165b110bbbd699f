/-!
# Durations

A length of time is a whole number of nanoseconds. Seconds and milliseconds are views of that
number, so comparing two lengths is comparing two natural numbers and no carry between units can go
wrong. Nothing here reads a clock. Waiting for a length of time takes that time, up to a bound that
the timer of the runtime sets and that nobody who waits asks for.
-/

namespace KeySweeper

/-- A length of time, counted in nanoseconds. -/
structure Duration where
  /-- The whole length in nanoseconds. -/
  nanos : Nat
deriving DecidableEq, Repr

namespace Duration

/-- Nanoseconds in one second. -/
def perSecond : Nat := 1000000000

/-- Nanoseconds in one millisecond. -/
def perMilli : Nat := 1000000

/-- The length of no time at all. -/
def zero : Duration := ⟨0⟩

/-- Whole seconds and the nanoseconds beyond them. -/
def ofParts (seconds nanos : Nat) : Duration := ⟨seconds * perSecond + nanos⟩

/-- A whole number of seconds. -/
def ofSeconds (seconds : Nat) : Duration := ⟨seconds * perSecond⟩

/-- A whole number of milliseconds. -/
def ofMillis (millis : Nat) : Duration := ⟨millis * perMilli⟩

/-- The seconds that fit into the length. -/
def seconds (d : Duration) : Nat := d.nanos / perSecond

/-- What is left of the length after its whole seconds, in nanoseconds. -/
def subsecond (d : Duration) : Nat := d.nanos % perSecond

/-- The milliseconds that fit into the length. -/
def millis (d : Duration) : Nat := d.nanos / perMilli

/-- The longest time that the timer of the runtime waits: thirty years of 365 days. -/
def longestWait : Duration := ofSeconds (30 * 365 * 24 * 60 * 60)

/-- How long the timer of the runtime takes for a length of time: that length, but never more than
its longest wait. -/
def awaited (d : Duration) : Duration := ⟨min d.nanos longestWait.nanos⟩

/-- One length is shorter than another when it has fewer nanoseconds. -/
instance : LT Duration where
  lt a b := a.nanos < b.nanos

/-- One length is at most another when it has no more nanoseconds. -/
instance : LE Duration where
  le a b := a.nanos ≤ b.nanos

instance (a b : Duration) : Decidable (a < b) :=
  inferInstanceAs (Decidable (a.nanos < b.nanos))

instance (a b : Duration) : Decidable (a ≤ b) :=
  inferInstanceAs (Decidable (a.nanos ≤ b.nanos))

/-- Splitting a length into seconds and a rest loses nothing. -/
theorem ofParts_seconds_subsecond (d : Duration) : ofParts d.seconds d.subsecond = d := by
  simp only [ofParts, seconds, subsecond, Nat.div_add_mod']

/-- The timer takes no longer than its longest wait. -/
theorem awaited_le (d : Duration) : d.awaited ≤ longestWait := Nat.min_le_right ..

/-- A wait that is not too long takes as long as it was asked to. -/
theorem awaited_of_le {d : Duration} (h : d ≤ longestWait) : d.awaited = d := by
  cases d
  exact congrArg mk (Nat.min_eq_left h)

end Duration

end KeySweeper
