import KeySweeper.Store.Call
import KeySweeper.Store.Memory

/-!
# Faults on the way to a store

A store may be reached through a layer in which calls go wrong as planned: they fail, they crash, or
they come back with another answer than the store would give. A fault says which kind of call it
hits and may say the number of the call among those of its kind and the key that has to be involved.
The first fault that fits decides; a call that no fault fits reaches the store, and so does a call
whose fault has nothing to say about calls of its kind. A call that a fault answers does not touch
the store.
-/

namespace KeySweeper

/-- What a fault does to a call. -/
inductive FaultAction where
  /-- The call fails. -/
  | fail (cause : StoreError)
  /-- The call crashes. -/
  | crash (text : String)
  /-- The call is told this lifetime. -/
  | tell (ttl : Ttl)
  /-- The scan yields this key. -/
  | yield (key : String)
  /-- The call reaches the store, whatever faults come behind. -/
  | pass
deriving DecidableEq, Repr

/-- A planned fault. -/
structure Fault where
  /-- The kind of call that is hit. -/
  kind : CallKind
  /-- The number of the call among those of its kind, counted from one; any number if absent. -/
  nth : Option Nat
  /-- The key that the call has to involve; any if absent. -/
  key : Option String
  /-- What happens to the call. -/
  action : FaultAction
deriving DecidableEq, Repr

/-- How often each kind of call was made. -/
structure CallCounts where
  /-- Checks whether a key exists. -/
  checks : Nat
  /-- Stored values. -/
  writes : Nat
  /-- Items asked of scans. -/
  scans : Nat
  /-- Lifetimes asked for. -/
  inspections : Nat
  /-- Deletions. -/
  deletions : Nat
deriving DecidableEq, Repr

namespace CallCounts

/-- No call was made. -/
def zero : CallCounts := ⟨0, 0, 0, 0, 0⟩

/-- How often calls of a kind were made. -/
def get (c : CallCounts) : CallKind → Nat
  | .check => c.checks
  | .write => c.writes
  | .scan => c.scans
  | .inspect => c.inspections
  | .delete => c.deletions

/-- Counts one more call of a kind. -/
def bump (c : CallCounts) : CallKind → CallCounts
  | .check => { c with checks := c.checks + 1 }
  | .write => { c with writes := c.writes + 1 }
  | .scan => { c with scans := c.scans + 1 }
  | .inspect => { c with inspections := c.inspections + 1 }
  | .delete => { c with deletions := c.deletions + 1 }

end CallCounts

/-- The layer in front of a store: the planned faults and the calls made so far. -/
structure FaultPlan where
  /-- The faults, in order of precedence. -/
  faults : List Fault
  /-- The calls made so far. -/
  counts : CallCounts
deriving Repr

namespace FaultPlan

/-- A plan before the first call. -/
def ofFaults (faults : List Fault) : FaultPlan := ⟨faults, .zero⟩

/-- The keys that a call involves. -/
def involved : StoreCall → List String
  | .check key => [key]
  | .write key _ => [key]
  | .scan pattern => [pattern]
  | .inspect key => [key]
  | .delete keys => keys

/-- Whether a fault fits the call that is the given one of its kind. -/
def fits (call : StoreCall) (number : Nat) (fault : Fault) : Bool :=
  fault.kind == call.kind
    && (fault.nth.all (· == number))
    && (fault.key.all (involved call).contains)

/-- Counts a call and finds what is planned for it. -/
def register (plan : FaultPlan) (call : StoreCall) : Option FaultAction × FaultPlan :=
  let counts := plan.counts.bump call.kind
  ((plan.faults.find? (fits call (counts.get call.kind))).map (·.action), { plan with counts })

/-- Asks whether a key exists. -/
def checkKey (plan : FaultPlan) (store : Store) (key : String) :
    Answer Bool × FaultPlan :=
  let (action, plan) := plan.register (.check key)
  match action with
  | some (.fail cause) => (.failed cause, plan)
  | some (.crash text) => (.crashed text, plan)
  | _ => (.value (store.contains key), plan)

/-- Stores a value that never expires. -/
def writeKey (plan : FaultPlan) (store : Store) (key value : String) :
    Answer Unit × Store × FaultPlan :=
  let (action, plan) := plan.register (.write key value)
  match action with
  | some (.fail cause) => (.failed cause, store, plan)
  | some (.crash text) => (.crashed text, store, plan)
  | _ => (.value (), (store.set? key value none).getD store, plan)

/-- Asks a scan for its next key. A scan that a fault answers does not move. -/
def nextKey (plan : FaultPlan) (store : Store) (scan : Scan) :
    Answer (Option String) × Scan × FaultPlan :=
  let (action, plan) := plan.register (.scan scan.pattern)
  match action with
  | some (.fail cause) => (.failed cause, scan, plan)
  | some (.crash text) => (.crashed text, scan, plan)
  | some (.yield key) => (.value (some key), scan, plan)
  | _ =>
    let (key, scan) := scan.next store
    (.value key, scan, plan)

/-- Asks for the lifetime left to a key. -/
def inspectKey (plan : FaultPlan) (store : Store) (key : String) : Answer Ttl × FaultPlan :=
  let (action, plan) := plan.register (.inspect key)
  match action with
  | some (.fail cause) => (.failed cause, plan)
  | some (.crash text) => (.crashed text, plan)
  | some (.tell ttl) => (.value ttl, plan)
  | _ => (.value (store.ttl key), plan)

/-- Deletes keys. -/
def deleteKeys (plan : FaultPlan) (store : Store) (keys : List String) :
    Answer Nat × Store × FaultPlan :=
  let (action, plan) := plan.register (.delete keys)
  match action with
  | some (.fail cause) => (.failed cause, store, plan)
  | some (.crash text) => (.crashed text, store, plan)
  | _ =>
    let (removed, store) := store.delete keys
    (.value removed, store, plan)

end FaultPlan

end KeySweeper
