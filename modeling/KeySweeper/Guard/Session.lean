import KeySweeper.Guard
import KeySweeper.Pipeline
import KeySweeper.Store.Fault

/-!
# Sessions with guards

Several guards on one store, acquired and released one call after the other. An acquisition makes
the existence check and, if nobody holds the guard, the write; both go through the layer of planned
faults. A crash of the code behind a store call ends the whole session, and only the text of the
crash is left.
-/

namespace KeySweeper

/-- Guards on a store behind a layer of planned faults. -/
structure GuardSession where
  /-- The store. -/
  store : Store
  /-- The layer in front of the store. -/
  plan : FaultPlan
  /-- The keys of the guards. -/
  guards : List String
deriving Repr

/-- What is asked of a guard. -/
inductive GuardCommand where
  /-- Acquire the guard. -/
  | acquire
  /-- Release the guard. -/
  | release
  /-- Show the key of the guard. -/
  | key
deriving DecidableEq, Repr

/-- What a guard answers. -/
inductive GuardAnswer where
  /-- Whether the guard was acquired. -/
  | acquired (success : Bool)
  /-- The guard was released. -/
  | released
  /-- The key of the guard. -/
  | key (key : String)
  /-- A store call failed. -/
  | failed (cause : StoreError)
deriving DecidableEq, Repr

namespace GuardSession

/-- What a command leaves behind: its answer, what happened on the way and the session after it, or
the text of the crash that ended the session. -/
abbrev Outcome := Except String (GuardAnswer × List Effect × GuardSession)

/-- The key of a guard. -/
def keyOf (s : GuardSession) (index : Nat) : String := (s.guards[index]?).getD ""

/-- Writes the mark of a free guard. A failed write is logged, and the guard counts as acquired. -/
def write (s : GuardSession) (key : String) : Outcome :=
  let (answer, store, plan) := s.plan.writeKey s.store key Guard.mark
  let event := Effect.called (.written key Guard.mark answer)
  let next := { s with store, plan }
  match answer with
  | .value _ => .ok (.acquired true, [event], next)
  | .failed cause => .ok (.acquired true, [event, .logged (Guard.writeFailureLine key cause)], next)
  | .crashed text => .error text

/-- Acquires the guard of a key. -/
def acquire (s : GuardSession) (key : String) : Outcome :=
  let (answer, plan) := s.plan.checkKey s.store key
  let event := Effect.called (.checked key answer)
  let next := { s with plan }
  match Guard.check answer with
  | .held => .ok (.acquired false, [event], next)
  | .failed cause => .ok (.failed cause, [event], next)
  | .crashed text => .error text
  | .free => (next.write key).map fun (result, effects, last) => (result, event :: effects, last)

/-- Releases the guard of a key, whoever holds it. -/
def release (s : GuardSession) (key : String) : Outcome :=
  let (answer, store, plan) := s.plan.deleteKeys s.store [key]
  let event := Effect.called (.deleted [key] answer)
  let next := { s with store, plan }
  match answer with
  | .value _ => .ok (.released, [event], next)
  | .failed cause => .ok (.failed cause, [event], next)
  | .crashed text => .error text

/-- Carries out one command for the guard at an index. -/
def run (s : GuardSession) (index : Nat) : GuardCommand → Outcome
  | .acquire => s.acquire (s.keyOf index)
  | .release => s.release (s.keyOf index)
  | .key => .ok (.key (s.keyOf index), [], s)

end GuardSession

end KeySweeper
