import KeySweeper.Store.Memory

/-!
# Sessions with a store

A client works with a store through a handle that may be slow: every call that reaches the store
takes the handle's latency, which is charged to the session and not to the store's clock. Listing
and counting keys go past the handle and cost nothing. A scan keeps the latency of the handle
through which it was opened and pays it once, when its first item is asked for. No handle keeps a
call waiting for longer than the longest wait of the runtime's timer.
-/

namespace KeySweeper

/-- What a client asks of a session. -/
inductive SessionCommand where
  /-- Store a value, with an optional lifetime. -/
  | set (key value : String) (ttl : Option Duration)
  /-- Read a value. -/
  | get (key : String)
  /-- Ask whether a key exists. -/
  | contains (key : String)
  /-- Ask for the lifetime left to a key. -/
  | ttl (key : String)
  /-- Delete keys. -/
  | delete (keys : List String)
  /-- List the keys selected by a pattern. -/
  | keys (pattern : String)
  /-- Scan all keys selected by a pattern at once. -/
  | scan (pattern : String)
  /-- Open a scan for later. -/
  | openScan (pattern : String)
  /-- Take the next key of an open scan. -/
  | nextKey (scan : Nat)
  /-- Count the live keys. -/
  | size
  /-- Ask whether there is no live key. -/
  | isEmpty
  /-- Let time pass. -/
  | sleep (length : Duration)
  /-- Go on with a handle of another latency. -/
  | useLatency (latency : Duration)
deriving Repr

/-- What a session answers. -/
inductive SessionAnswer where
  /-- The command was carried out. -/
  | done
  /-- A truth value. -/
  | truth (value : Bool)
  /-- A number. -/
  | count (value : Nat)
  /-- A text, if there is one. -/
  | text (value : Option String)
  /-- Texts in order. -/
  | texts (values : List String)
  /-- The lifetime left to a key. -/
  | lifetime (ttl : Ttl)
  /-- The deadline of an entry lies beyond what the clock can represent. -/
  | deadlineOverflow
deriving Repr

/-- The text of the failure to represent a deadline. -/
def deadlineOverflowText : String := "overflow when adding duration to instant"

/-- A scan together with what its first item costs. -/
structure SlowScan where
  /-- The scan. -/
  scan : Scan
  /-- The latency of the handle through which it was opened. -/
  latency : Duration
deriving Repr

namespace SlowScan

/-- What asking for the next item costs: the latency, until the keys have been fixed. -/
def cost (s : SlowScan) : Duration :=
  if s.scan.remaining.isNone then s.latency else .zero

end SlowScan

/-- A store, the handle in use and the scans that were opened. -/
structure Session where
  /-- The store. -/
  store : Store
  /-- The latency of the handle in use. -/
  latency : Duration
  /-- The open scans, in the order of opening. -/
  scans : List SlowScan
deriving Repr

namespace Session

/-- A session with a fast handle and no open scans. -/
def ofStore (store : Store) : Session := ⟨store, .zero, []⟩

/-- Carries out one command. Answers the result, the time charged for it and the session after
it. -/
def run (s : Session) : SessionCommand → SessionAnswer × Duration × Session
  | .set key value ttl =>
    match s.store.set? key value ttl with
    | some store => (.done, s.latency, { s with store })
    | none => (.deadlineOverflow, s.latency, s)
  | .get key => (.text (s.store.get? key), s.latency, s)
  | .contains key => (.truth (s.store.contains key), s.latency, s)
  | .ttl key => (.lifetime (s.store.ttl key), s.latency, s)
  | .delete keys =>
    let (removed, store) := s.store.delete keys
    (.count removed, s.latency, { s with store })
  | .keys pattern => (.texts (s.store.keys pattern), .zero, s)
  | .scan pattern => (.texts (s.store.keys pattern), s.latency, s)
  | .openScan pattern =>
    (.count s.scans.length, .zero,
      { s with scans := s.scans ++ [⟨.fresh pattern, s.latency⟩] })
  | .nextKey index =>
    match s.scans[index]? with
    | none => (.text none, .zero, s)
    | some slow =>
      let (key, scan) := slow.scan.next s.store
      (.text key, slow.cost, { s with scans := s.scans.set index { slow with scan } })
  | .size => (.count s.store.size, .zero, s)
  | .isEmpty => (.truth s.store.isEmpty, .zero, s)
  | .sleep length => (.done, .zero, { s with store := s.store.elapse length })
  | .useLatency latency => (.done, .zero, { s with latency := latency.awaited })

end Session

end KeySweeper
