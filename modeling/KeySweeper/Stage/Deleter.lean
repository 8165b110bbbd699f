import KeySweeper.Handoff
import KeySweeper.Log
import KeySweeper.Store.Call

/-!
# The deleter

The last stage of a sweep collects the keys it receives and deletes them in batches. A full batch is
deleted when one more key has arrived, and whatever is left is deleted once no more keys can come.
Every batch counts as handed over when its call has returned, whether or not the call succeeded, and
no batch is tried again.
-/

namespace KeySweeper

/-- What the deleter is doing. -/
inductive Deleter where
  /-- It waits for a key, with a batch collected so far. -/
  | collecting (batch : List String)
  /-- It deletes a batch; the key that came after the batch, if one did, starts the next batch. -/
  | deleting (batch : List String) (next : Option String)
  /-- It is done. -/
  | ended
  /-- The code behind one of its store calls crashed. -/
  | crashed (text : String)
deriving DecidableEq, Repr

namespace Deleter

/-- Whether the deleter is still at work; while it is, it may receive keys. -/
def isLive : Deleter → Bool
  | .collecting _ => true
  | .deleting _ _ => true
  | .ended => false
  | .crashed _ => false

/-- A batch holds at least one key, whatever size was asked for. -/
def effectiveSize (requested : Nat) : Nat := max 1 requested

/-- What is logged when a batch cannot be deleted. -/
def failureLine (batch : List String) (cause : StoreError) : LogLine where
  level := .error
  message := "error while redis-cleaner deleting keys"
  fields := [⟨"error", (SweepError.delete batch.length cause).message⟩]

/-- What the deleter does with one more key: it starts to delete a full batch, or adds the key to a
batch that is not full. -/
def accept (size : Nat) (batch : List String) (key : String) : Deleter :=
  if size ≤ batch.length then .deleting batch (some key) else .collecting (batch ++ [key])

/-- What the deleter does when no more keys can come. -/
def flush (batch : List String) : Deleter :=
  if batch.isEmpty then .ended else .deleting batch none

/-- Tries to receive a key. -/
def take? (size : Nat) (batch : List String) (senderLive : Bool) (inbox : Handoff) :
    Option (Deleter × Handoff) :=
  match inbox.pop? with
  | some (key, inbox) => some (accept size batch key, inbox)
  | none => if senderLive then none else some (flush batch, inbox)

/-- What the deleter does once the call for a batch has returned. -/
def afterAnswer (next : Option String) : Answer Nat → Deleter
  | .crashed text => .crashed text
  | _ =>
    match next with
    | some key => .collecting [key]
    | none => .ended

end Deleter

end KeySweeper
