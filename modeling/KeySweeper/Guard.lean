import KeySweeper.Log
import KeySweeper.Store.Call

/-!
# The guard of a fleet

Sweepers that share a store keep out of each other's way by a key that stands for a running sweep.
To acquire the guard a sweep asks whether the key exists and writes it if it does not; the two calls
are separate, so two sweeps that ask at the same time may both go on. A write that fails does not
stop the sweep. To release the guard the key is deleted, whoever wrote it.
-/

namespace KeySweeper.Guard

/-- What is written under the guard key. -/
def mark : String := "1"

/-- Where the answer to the existence check leads. -/
inductive Check where
  /-- Somebody holds the guard. -/
  | held
  /-- The guard is free and may be written. -/
  | free
  /-- It could not be found out. -/
  | failed (cause : StoreError)
  /-- The code behind the check crashed. -/
  | crashed (text : String)
deriving DecidableEq, Repr

/-- Reads the answer to the existence check. -/
def check : Answer Bool → Check
  | .value true => .held
  | .value false => .free
  | .failed cause => .failed cause
  | .crashed text => .crashed text

/-- What is logged when the guard key cannot be written. -/
def writeFailureLine (key : String) (cause : StoreError) : LogLine where
  level := .error
  message := "error setting redis-cleaner running status"
  fields := [⟨"guard_key", key⟩, ⟨"error", cause.message⟩]

end KeySweeper.Guard
