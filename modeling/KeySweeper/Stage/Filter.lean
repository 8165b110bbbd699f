import KeySweeper.Handoff
import KeySweeper.Log
import KeySweeper.Store.Call

/-!
# The filter

The second stage of a sweep asks for the lifetime left to each key it receives and sends on the keys
that live longer than the threshold. It goes on until no more keys can come: being told to wind down
does not stop it, and neither does a failed look-up, which only leaves out the key concerned.
-/

namespace KeySweeper

/-- What the filter is doing. -/
inductive Filter where
  /-- It waits for a key. -/
  | waiting
  /-- It asks for the lifetime left to a key. -/
  | inspecting (key : String)
  /-- It has a key to send on. -/
  | offering (key : String)
  /-- It is done. -/
  | ended
  /-- The code behind one of its store calls crashed. -/
  | crashed (text : String)
deriving DecidableEq, Repr

namespace Filter

/-- Whether the filter is still at work; while it is, it may receive and send keys. -/
def isLive : Filter → Bool
  | .waiting => true
  | .inspecting _ => true
  | .offering _ => true
  | .ended => false
  | .crashed _ => false

/-- What is logged when the lifetime left to a key cannot be read. -/
def failureLine (key : String) (cause : StoreError) : LogLine where
  level := .error
  message := "error while redis-cleaner getting TTL"
  fields := [⟨"error", (SweepError.inspect key cause).message⟩]

/-- Tries to receive a key. Without one the filter is done if none can come any more. -/
def take? (senderLive : Bool) (inbox : Handoff) : Option (Filter × Handoff) :=
  match inbox.pop? with
  | some (key, inbox) => some (.inspecting key, inbox)
  | none => if senderLive then none else some (.ended, inbox)

/-- What the filter does once it knows the lifetime left to the key. -/
def afterAnswer (threshold : Duration) (key : String) : Answer Ttl → Filter
  | .value ttl => if ttl.outlives threshold then .offering key else .waiting
  | .failed _ => .waiting
  | .crashed text => .crashed text

/-- Tries to send the key in hand on. Without a receiver the filter is done; without room there is
nothing it can do. -/
def offer? (key : String) (receiverLive : Bool) (out : Handoff) : Option (Filter × Handoff) :=
  if !receiverLive then some (.ended, out)
  else if out.hasRoom then some (.waiting, out.push key)
  else none

end Filter

end KeySweeper
