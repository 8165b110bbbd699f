import KeySweeper.Duration

/-!
# Settings of a sweep

What one sweeper is told: which keys to look at, how much lifetime is too much, how many keys to
delete at once, whether to log a report, and under which key the fleet marks a running sweep. The
batch size is at least one in every value that the functions of this module build.
-/

namespace KeySweeper

/-- The settings of a sweeper. -/
structure Settings where
  /-- The pattern that selects the keys to inspect. -/
  pattern : String
  /-- Keys that live longer than this many seconds are deleted. -/
  minTtlSeconds : Nat
  /-- How many keys are deleted by one call. Sizes are taken to be words of sixty-four bits, into
  which every positive number that can be asked for fits. -/
  batchSize : Nat
  /-- Whether a finished sweep logs how much it deleted. -/
  report : Bool
  /-- The key that marks a running sweep for the whole fleet. -/
  guardKey : String
deriving DecidableEq, Repr

namespace Settings

/-- The batch size used unless a positive one is asked for. -/
def defaultBatchSize : Nat := 50

/-- The key that marks a running sweep unless another one is asked for. -/
def defaultGuardKey : String := "redis-cleaner:is-running"

/-- Settings for a pattern and a threshold, with the defaults for everything else. -/
def ofPattern (pattern : String) (minTtlSeconds : Nat) : Settings where
  pattern := pattern
  minTtlSeconds := minTtlSeconds
  batchSize := defaultBatchSize
  report := false
  guardKey := defaultGuardKey

/-- The threshold as a length of time. -/
def minTtl (s : Settings) : Duration := .ofSeconds s.minTtlSeconds

/-- A requested batch size counts only if it is positive; otherwise the default one is used. -/
def effectiveBatchSize (requested : Int) : Nat :=
  if requested < 1 then defaultBatchSize else requested.toNat

/-- The settings with a batch size that was asked for. -/
def batching (s : Settings) (requested : Int) : Settings :=
  { s with batchSize := effectiveBatchSize requested }

/-- A batch is never empty. -/
theorem effectiveBatchSize_pos (requested : Int) : 0 < effectiveBatchSize requested := by
  unfold effectiveBatchSize defaultBatchSize
  split <;> omega

end Settings

end KeySweeper
