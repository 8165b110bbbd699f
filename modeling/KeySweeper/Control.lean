/-!
# Control of a running sweep

The stages of a sweep share a flag that tells them to wind down and a counter of the keys handed
over for deletion. The flag is never taken back. The counter is a machine word and wraps round. A
sweep's flag may hang below the flag of its caller: raising the caller's flag raises it too, and
nothing that happens to the sweep's flag reaches the caller's.
-/

namespace KeySweeper

/-- What the stages of one sweep share. -/
structure Control where
  /-- Whether the sweep was told to wind down. -/
  cancelled : Bool
  /-- How many keys were handed over for deletion. -/
  deleted : UInt64
deriving DecidableEq, Repr

namespace Control

/-- The control of a sweep that has done nothing yet. -/
def fresh (cancelled : Bool) : Control := ⟨cancelled, 0⟩

/-- Tells the sweep to wind down. -/
def cancel (c : Control) : Control := { c with cancelled := true }

/-- Counts keys handed over for deletion. -/
def record (c : Control) (keys : UInt64) : Control := { c with deleted := c.deleted + keys }

end Control

/-- A caller's flag together with the control of a sweep that may hang below it. -/
structure SupervisedControl where
  /-- Whether the caller's flag is raised. -/
  callerCancelled : Bool
  /-- Whether the sweep hangs below the caller's flag. -/
  linked : Bool
  /-- The control of the sweep. -/
  control : Control
deriving DecidableEq, Repr

namespace SupervisedControl

/-- Nothing is raised and nothing counted. -/
def fresh (linked : Bool) : SupervisedControl := ⟨false, linked, .fresh false⟩

/-- Raises the caller's flag, and the sweep's with it if it hangs below. -/
def cancelCaller (s : SupervisedControl) : SupervisedControl :=
  { s with
    callerCancelled := true
    control := if s.linked then s.control.cancel else s.control }

/-- Raises the sweep's own flag. -/
def cancel (s : SupervisedControl) : SupervisedControl := { s with control := s.control.cancel }

/-- Counts keys handed over for deletion. -/
def record (s : SupervisedControl) (keys : UInt64) : SupervisedControl :=
  { s with control := s.control.record keys }

end SupervisedControl

end KeySweeper
