import KeySweeper.Failure
import KeySweeper.Ttl

/-!
# Store calls

The five calls that a sweep makes to its store, and what can come back: a value, a failure, or a
crash of the code behind the call, which ends the task that made it. A completed call is recorded
with its answer, so that the history of a sweep can be read off without its states.
-/

namespace KeySweeper

/-- The kinds of store call. -/
inductive CallKind where
  /-- Asks whether a key exists. -/
  | check
  /-- Stores a value. -/
  | write
  /-- Asks a scan for its next key. -/
  | scan
  /-- Asks for the lifetime left to a key. -/
  | inspect
  /-- Deletes keys. -/
  | delete
deriving DecidableEq, Repr

/-- The word for a kind of call. -/
def CallKind.label : CallKind → String
  | .check => "exists"
  | .write => "set"
  | .scan => "scan"
  | .inspect => "ttl"
  | .delete => "delete"

/-- A store call with its argument. -/
inductive StoreCall where
  /-- Asks whether the key exists. -/
  | check (key : String)
  /-- Stores a value that never expires. -/
  | write (key value : String)
  /-- Asks the scan of the pattern for its next key. -/
  | scan (pattern : String)
  /-- Asks for the lifetime left to the key. -/
  | inspect (key : String)
  /-- Deletes the keys. -/
  | delete (keys : List String)
deriving DecidableEq, Repr

/-- The kind of a call. -/
def StoreCall.kind : StoreCall → CallKind
  | .check _ => .check
  | .write _ _ => .write
  | .scan _ => .scan
  | .inspect _ => .inspect
  | .delete _ => .delete

/-- What comes back from a store call. -/
inductive Answer (α : Type) where
  /-- The call succeeded. -/
  | value (result : α)
  /-- The call failed. -/
  | failed (cause : StoreError)
  /-- The code behind the call crashed with this text. -/
  | crashed (text : String)
deriving DecidableEq, Repr

/-- A completed store call. -/
inductive StoreEvent where
  /-- It was asked whether the key exists. -/
  | checked (key : String) (answer : Answer Bool)
  /-- A value that never expires was stored. -/
  | written (key value : String) (answer : Answer Unit)
  /-- The scan of the pattern was asked for its next key. -/
  | scanned (pattern : String) (answer : Answer (Option String))
  /-- It was asked for the lifetime left to the key. -/
  | inspected (key : String) (answer : Answer Ttl)
  /-- The keys were deleted. -/
  | deleted (keys : List String) (answer : Answer Nat)
deriving DecidableEq, Repr

/-- The call that an event completes. -/
def StoreEvent.call : StoreEvent → StoreCall
  | .checked key _ => .check key
  | .written key value _ => .write key value
  | .scanned pattern _ => .scan pattern
  | .inspected key _ => .inspect key
  | .deleted keys _ => .delete keys

end KeySweeper
