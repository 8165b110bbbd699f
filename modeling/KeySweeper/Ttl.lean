import KeySweeper.Duration

/-!
# Remaining lifetimes

What a store says about how long a key will live: it may not exist, it may live for ever, or it may
have a remaining length. Also the test that decides which keys a sweep may delete. The signed
millisecond form in which a server reports a lifetime is read here too.
-/

namespace KeySweeper

/-- How much longer a key will live. -/
inductive Ttl where
  /-- There is no such key. -/
  | missing
  /-- The key has no deadline. -/
  | persistent
  /-- The key expires once this much time has passed. -/
  | expires (left : Duration)
deriving DecidableEq, Repr

namespace Ttl

/-- A key outlasts a threshold only if it has a deadline, and that deadline is further away than the
threshold. A missing key and a persistent one never do. -/
def outlives (ttl : Ttl) (threshold : Duration) : Bool :=
  match ttl with
  | .missing => false
  | .persistent => false
  | .expires left => decide (threshold < left)

/-- Reads a lifetime reported in milliseconds: minus two says that the key is missing, any other
negative number that it is persistent. -/
def ofMillis (reported : Int) : Ttl :=
  if reported = -2 then .missing
  else if reported < 0 then .persistent
  else .expires (.ofMillis reported.toNat)

end Ttl

end KeySweeper
