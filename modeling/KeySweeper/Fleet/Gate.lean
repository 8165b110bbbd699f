import KeySweeper.Fleet.Settle
import KeySweeper.Text.JsonString

/-!
# The gate in front of the store

Every store call of a fleet waits at a gate, and the gate lets one call through at a time: it is
carried out, its answer sets the sweep going, and the fleet settles before the next call. Which of
the waiting calls goes first is decided by their kinds, then by their sweepers, then by their
arguments as text, and last by how long they have waited.
-/

namespace KeySweeper.Fleet

/-- A call that waits at the gate. -/
structure WaitingCall where
  /-- The part of a sweep that waits. -/
  site : Site
  /-- The call. -/
  call : StoreCall
deriving DecidableEq, Repr

namespace WaitingCall

/-- The argument of a call as text. -/
def argumentText : StoreCall → String
  | .check key => Text.JsonString.quote key
  | .write key _ => Text.JsonString.quote key
  | .scan pattern => Text.JsonString.quote pattern
  | .inspect key => Text.JsonString.quote key
  | .delete keys => "[" ++ ",".intercalate (keys.map Text.JsonString.quote) ++ "]"

/-- The place of a kind of call in the order of kinds; kinds that are not listed come last. -/
def rank (priority : List CallKind) (kind : CallKind) : Nat := priority.idxOf kind

/-- Whether one waiting call goes strictly before another one that has waited longer. -/
def before (priority : List CallKind) (a b : WaitingCall) : Bool :=
  let rankA := rank priority a.call.kind
  let rankB := rank priority b.call.kind
  decide (rankA < rankB)
    || (rankA == rankB
      && (decide (a.site.member < b.site.member)
        || (a.site.member == b.site.member
          && decide (argumentText a.call < argumentText b.call))))

/-- A waiting call as one line of a listing: its sweeper, the word for its kind and its argument. -/
def line (w : WaitingCall) : String :=
  "[" ++ toString w.site.member ++ "," ++ Text.JsonString.quote w.call.kind.label ++ ","
    ++ argumentText w.call ++ "]"

end WaitingCall

/-- The calls that wait, longest first. -/
def waiting (f : Fleet) : List WaitingCall :=
  f.arrivals.filterMap fun site =>
    match f.members[site.member]?, f.engagement? site.member site.sweep with
    | some m, some g =>
      (g.sweep.pending? m.sweeper.settings site.part).map fun call => ⟨site, call⟩
    | _, _ => none

/-- The calls that wait, in the alphabetical order of their lines. -/
def listed (f : Fleet) : List WaitingCall :=
  f.waiting.mergeSort fun a b => decide (a.line ≤ b.line)

/-- Which waiting calls may be let through. -/
structure Selection where
  /-- Only calls of these kinds; any kind if absent. -/
  kinds : Option (List CallKind)
  /-- Only calls of this sweeper; any sweeper if absent. -/
  member : Option Nat
deriving DecidableEq, Repr

namespace Selection

/-- No restriction. -/
def any : Selection := ⟨none, none⟩

/-- Whether a waiting call may be let through. -/
def allows (s : Selection) (w : WaitingCall) : Bool :=
  s.kinds.all (·.contains w.call.kind) && s.member.all (· == w.site.member)

end Selection

/-- The call that is let through next. -/
def choose? (f : Fleet) (selection : Selection) : Option WaitingCall :=
  (f.waiting.filter selection.allows).foldl
    (fun best w =>
      match best with
      | none => some w
      | some b => if WaitingCall.before f.priority w b then some w else some b)
    none

/-- What carrying out a call leaves behind: the move that its answer makes, the store, the layer in
front of it and the scan of the sweep. -/
structure Carried where
  /-- The move of the sweep. -/
  move : Sweep.Move
  /-- The store after the call. -/
  store : Store
  /-- The layer in front of the store after the call. -/
  plan : FaultPlan
  /-- The scan of the sweep after the call. -/
  scan : Scan
deriving Repr

/-- The move that the answer to a deletion makes. Sweeps have no clock here: they take no time and
end at the start of the calendar. -/
def deletionMove (part : Sweep.Part) (answer : Answer Nat) : Sweep.Move :=
  match part with
  | .deleter => .stage (.deleted answer)
  | .releaser => .releaserReleased answer
  | _ => .guardReleased answer .zero .epoch

/-- Carries out a call for a part of a sweep. -/
def carry (plan : FaultPlan) (store : Store) (scan : Scan) (part : Sweep.Part) :
    StoreCall → Carried
  | .check key =>
    let (answer, plan) := plan.checkKey store key
    ⟨.guardChecked answer, store, plan, scan⟩
  | .write key value =>
    let (answer, store, plan) := plan.writeKey store key value
    ⟨.guardMarked answer, store, plan, scan⟩
  | .scan _ =>
    let (answer, scan, plan) := plan.nextKey store scan
    ⟨.stage (.scanned answer), store, plan, scan⟩
  | .inspect key =>
    let (answer, plan) := plan.inspectKey store key
    ⟨.stage (.inspected answer), store, plan, scan⟩
  | .delete keys =>
    let (answer, store, plan) := plan.deleteKeys store keys
    ⟨deletionMove part answer, store, plan, scan⟩

/-- Lets a waiting call through and has the sweep go on with its answer. -/
def letThrough (f : Fleet) (w : WaitingCall) : Fleet :=
  match f.members[w.site.member]? with
  | none => f
  | some m =>
    let carried := carry m.plan f.store (m.scan w.site.sweep) w.site.part w.call
    let member := { m with plan := carried.plan }.withScan w.site.sweep carried.scan
    let reached := { f with
      store := carried.store
      members := f.members.set w.site.member member
      arrivals := f.arrivals.filter fun site => site != w.site }
    (reached.move? w.site.member (.sweep w.site.sweep carried.move)).getD reached

/-- Lets at most so many calls through, one after the other, and counts them. -/
def release (selection : Selection) : Nat → Fleet → Nat × Fleet
  | 0, f => (0, f)
  | bound + 1, f =>
    match f.choose? selection with
    | none => (0, f)
    | some w =>
      let (count, f) := release selection bound (f.letThrough w).settle
      (count + 1, f)

/-- A bound on the number of calls that can be let through without anybody outside: a few for each
sweep that was asked for or is due, and three for each key that its scan can still yield. -/
def workload (f : Fleet) : Nat :=
  let sweeps := f.errands.length + f.schedules.length + 1
  let yieldable := f.members.foldr (fun m total => m.patience + m.yieldable + total) 0
  sweeps * (16 + 3 * (f.store.entries.toList.length + yieldable + sweeps))

end KeySweeper.Fleet
