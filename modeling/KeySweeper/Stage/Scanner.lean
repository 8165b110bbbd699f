import KeySweeper.Handoff
import KeySweeper.Log
import KeySweeper.Store.Call

/-!
# The scanner

The first stage of a sweep asks the store for the keys that match the pattern, one at a time, and
sends each of them on. It stops when the scan ends or fails, when nobody receives its keys any more,
and as soon as it notices that the sweep was told to wind down. It looks for that twice per key:
when the key arrives, and while it waits for room to send it. A key that is in its hand when it
stops is lost to the sweep.
-/

namespace KeySweeper

/-- What the scanner is doing. -/
inductive Scanner where
  /-- It waits for the next key of the scan. -/
  | asking
  /-- It has a key to send on. -/
  | offering (key : String)
  /-- It is done. -/
  | ended
  /-- The code behind one of its store calls crashed. -/
  | crashed (text : String)
deriving DecidableEq, Repr

namespace Scanner

/-- Whether the scanner is still at work; while it is, more keys may come. -/
def isLive : Scanner → Bool
  | .asking => true
  | .offering _ => true
  | .ended => false
  | .crashed _ => false

/-- What is logged when the scan fails. -/
def failureLine (pattern : String) (cause : StoreError) : LogLine where
  level := .error
  message := "redis-cleaner error iterating over keys"
  fields := [⟨"pattern", pattern⟩, ⟨"error", (SweepError.scan cause).message⟩]

/-- What the scanner does once the scan has answered. -/
def afterAnswer (cancelled : Bool) : Answer (Option String) → Scanner
  | .value none => .ended
  | .value (some key) => if cancelled then .ended else .offering key
  | .failed _ => .ended
  | .crashed text => .crashed text

/-- Tries to send the key in hand on. It gives up first of all if the sweep was told to wind down,
then if there is no receiver; without room there is nothing it can do. -/
def offer? (key : String) (cancelled receiverLive : Bool) (out : Handoff) :
    Option (Scanner × Handoff) :=
  if cancelled then some (.ended, out)
  else if !receiverLive then some (.ended, out)
  else if out.hasRoom then some (.asking, out.push key)
  else none

end Scanner

end KeySweeper
