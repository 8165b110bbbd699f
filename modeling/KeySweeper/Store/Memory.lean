import KeySweeper.Glob
import KeySweeper.Store.Keyspace

/-!
# The in-memory store

A keyspace together with the time on the store's clock. A deadline that has come hides its entry
from every query at once; the entry itself stays in place until it is deleted or overwritten. Time
is counted in nanoseconds and moves only when it is told to.

A scan of the store is opened without reading anything; its first item fixes what it will yield.
-/

namespace KeySweeper

/-- A store in memory. -/
structure Store where
  /-- What is stored, expired entries included. -/
  entries : Keyspace
  /-- The time on the store's clock, in nanoseconds. -/
  now : Nat
deriving Repr

namespace Store

/-- A store that holds nothing. -/
def empty : Store := ⟨.empty, 0⟩

/-- The first moment that is refused as a deadline. The machine's clock represents fewer than 2^63
seconds. It counts them from a moment of its own, at which the store's clock has not begun, and that
moment is taken here to lie one second before the store's beginning. -/
def clockLimit : Nat := 9223372036854775807 * Duration.perSecond

/-- The entry under a key, unless it has expired. -/
def live? (s : Store) (key : String) : Option StoreEntry :=
  (s.entries.find? key).filter (·.isLive s.now)

/-- Stores a value under a key, in place of the old value and deadline. There is no answer if the
deadline is one that the clock cannot represent. -/
def set? (s : Store) (key value : String) (ttl : Option Duration) : Option Store :=
  match ttl with
  | none => some { s with entries := s.entries.insert key ⟨value, none⟩ }
  | some length =>
    if s.now + length.nanos < clockLimit then
      some { s with entries := s.entries.insert key ⟨value, some (s.now + length.nanos)⟩ }
    else none

/-- The value under a key. -/
def get? (s : Store) (key : String) : Option String :=
  (s.live? key).map (·.value)

/-- Whether there is a value under a key. -/
def contains (s : Store) (key : String) : Bool := (s.live? key).isSome

/-- The lifetime left to a key. -/
def ttl (s : Store) (key : String) : Ttl :=
  match s.entries.find? key with
  | none => .missing
  | some entry => entry.ttl s.now

/-- The live entries in the order of their keys. -/
def liveEntries (s : Store) : List (String × StoreEntry) :=
  s.entries.toList.filter fun (_, e) => e.isLive s.now

/-- Drops the given keys and counts those that were live; a key given twice counts once. -/
def delete (s : Store) (keys : List String) : Nat × Store :=
  ((s.liveEntries.filter fun (k, _) => keys.contains k).length,
    { s with entries := s.entries.eraseAll keys })

/-- The live keys selected by a pattern, in increasing order. -/
def keys (s : Store) (pattern : String) : List String :=
  (s.liveEntries.filter fun (k, _) => Glob.selects pattern k).map (·.1)

/-- The number of live keys. -/
def size (s : Store) : Nat := s.liveEntries.length

/-- Whether there is no live key. -/
def isEmpty (s : Store) : Bool := s.liveEntries.isEmpty

/-- Lets time pass. -/
def elapse (s : Store) (length : Duration) : Store :=
  { s with now := s.now + length.nanos }

/-- Stores initial values; one whose deadline cannot be represented is left out. -/
def seed (values : List (String × String × Option Duration)) : Store :=
  values.foldl (fun s (key, value, ttl) => (s.set? key value ttl).getD s) empty

end Store

/-- A scan of the keys selected by a pattern. Opening it reads nothing; the first item asked of it
fixes what it will yield. -/
structure Scan where
  /-- The pattern that selects the keys. -/
  pattern : String
  /-- The keys still to be yielded, once they have been fixed. -/
  remaining : Option (List String)
deriving DecidableEq, Repr

namespace Scan

/-- A scan that has read nothing yet. -/
def fresh (pattern : String) : Scan := ⟨pattern, none⟩

/-- The keys that the scan will yield if it is asked now. -/
def upcoming (scan : Scan) (s : Store) : List String :=
  scan.remaining.getD (s.keys scan.pattern)

/-- The next key, or none at the end and ever after. -/
def next (scan : Scan) (s : Store) : Option String × Scan :=
  match scan.upcoming s with
  | [] => (none, { scan with remaining := some [] })
  | key :: rest => (some key, { scan with remaining := some rest })

end Scan

end KeySweeper
