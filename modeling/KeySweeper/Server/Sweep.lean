import KeySweeper.Sweeper
import KeySweeper.Server.Store

/-!
# A sweep over a server

A sweeper that nobody disturbs runs one sweep over a store on a server. The parts of the sweep share
one connection and take turns: a part that comes to be able to go on joins the end of the line, and
the part at the head of the line goes on until it has to wait for another part or for a reply. The
requests made meanwhile are under way together. Once nobody is left in the line the server replies
to all of them in the order in which they were made, and the parts stand in line for their replies
in that order.

So a part that fails stops the others only from its turn on: what stood before it in the line has
been done, and a page that was asked for before is still read.
-/

namespace KeySweeper

/-- A sweep at work over a server. -/
structure ServerSweep where
  /-- What the sweeper was told. -/
  settings : Settings
  /-- The sweep. -/
  sweep : Sweep
  /-- The connection to the server. -/
  connection : Connection
  /-- The scan of the sweep. -/
  scan : PageScan
  /-- The parts whose turn will come, in the order in which it will. -/
  line : List Sweep.Part
  /-- The parts that have asked the server, in the order in which they did. -/
  asked : List Sweep.Part
  /-- The parts to which the server has replied and which have not taken the reply yet. -/
  replied : List Sweep.Part
  /-- What the sweep has shown so far. -/
  effects : List Effect
deriving Repr

namespace ServerSweep

/-- A sweep that is about to ask for the guard. -/
def start (settings : Settings) (connection : Connection) (scanCount : Nat) : ServerSweep where
  settings := settings
  sweep := .claimed false
  connection := connection
  scan := .fresh settings.pattern scanCount
  line := [.driver]
  asked := []
  replied := []
  effects := []

/-- The answer of a store call over the server. -/
def answerOf {α : Type} : Except ServerError α → Answer α
  | .ok value => .value value
  | .error e => .failed (.server e)

/-- The sweep makes a move. -/
def move (s : ServerSweep) (m : Sweep.Move) : ServerSweep :=
  match s.sweep.step? s.settings m with
  | none => s
  | some progress =>
    { s with sweep := progress.sweep, effects := s.effects ++ progress.effects }

/-- The move that follows the deletion of keys for a part of the sweep. -/
def deletionMove (part : Sweep.Part) (answer : Answer Nat) : Sweep.Move :=
  match part with
  | .deleter => .stage (.deleted answer)
  | .releaser => .releaserReleased answer
  | _ => .guardReleased answer .zero .epoch

/-- A part of the sweep takes the reply to its request. A page that has come only makes its keys
known to the scanner. -/
def takeReply (s : ServerSweep) (part : Sweep.Part) : StoreCall → ServerSweep
  | .check key =>
    let (answer, connection) := s.connection.contains key
    { s with connection }.move (.guardChecked (answerOf answer))
  | .write key value =>
    let (answer, connection) := s.connection.set key value none
    { s with connection }.move (.guardMarked (answerOf answer))
  | .scan _ =>
    match s.scan.request s.connection with
    | (.ok scan, connection) => { s with scan, connection }
    | (.error e, connection) =>
      { s with scan := s.scan.failed, connection }.move (.stage (.scanned (.failed (.server e))))
  | .inspect key =>
    let (answer, connection) := s.connection.ttl key
    { s with connection }.move (.stage (.inspected (answerOf answer)))
  | .delete keys =>
    let (answer, connection) := s.connection.delete keys
    { s with connection }.move (deletionMove part (answerOf answer))

/-- The scanner goes on with what is known of the scan, if it waits for the scan and anything is. -/
def scanLocally? (s : ServerSweep) : Option ServerSweep :=
  if (s.sweep.pending? s.settings .scanner).isSome then
    s.scan.local?.map fun (item, scan) => { s with scan }.move (.stage (.scanned (.value item)))
  else none

/-- A part goes on by one move that needs no reply, if there is one. -/
def advance? (s : ServerSweep) (part : Sweep.Part) : Option ServerSweep :=
  match part.internalStep? s.settings s.sweep with
  | some m => some (s.move m)
  | none => if part = .scanner then s.scanLocally? else none

/-- Whether a part has a request to make that it has not made yet. -/
def hasRequest (s : ServerSweep) (part : Sweep.Part) : Bool :=
  (s.sweep.pending? s.settings part).isSome && !s.asked.contains part

/-- The parts that can go on without a reply join the end of the line, unless they stand in it
already. -/
def lineUp (s : ServerSweep) : ServerSweep :=
  let ready := Sweep.Part.all.filter fun part => (s.advance? part).isSome || s.hasRequest part
  { s with line := s.line ++ ready.filter fun part => !s.line.contains part }

/-- The turn of a part ends; if it needs a reply it asks the server. -/
def endTurn (s : ServerSweep) (part : Sweep.Part) (rest : List Sweep.Part) : ServerSweep :=
  { s with line := rest, asked := if s.hasRequest part then s.asked ++ [part] else s.asked }

/-- One step in the turn of the part at the head of the line: it takes the reply that it stood in
line for, goes on by itself, or ends its turn. -/
def turnStep (s : ServerSweep) (part : Sweep.Part) (rest : List Sweep.Part) : ServerSweep :=
  if s.replied.contains part then
    let taken := { s with replied := s.replied.erase part }
    match s.sweep.pending? s.settings part with
    | some call => (taken.takeReply part call).lineUp
    | none => taken
  else
    match s.advance? part with
    | some next => next.lineUp
    | none => s.endTurn part rest

/-- One step: somebody's turn goes on, or the server replies to all who have asked. Nothing is left
to do once nobody stands in line and nobody has asked. -/
def step? (s : ServerSweep) : Option ServerSweep :=
  match s.line with
  | part :: rest => some (s.turnStep part rest)
  | [] =>
    if s.asked.isEmpty then none
    else some { s with line := s.asked, replied := s.asked, asked := [] }

/-- Makes at most so many steps. -/
def runWithin : Nat → ServerSweep → ServerSweep
  | 0, s => s
  | bound + 1, s =>
    match s.step? with
    | some next => runWithin bound next
    | none => s

/-- A bound on the number of steps. Each part of the replies laid down is a page or a key: a page is
asked for, replied to and taken, and a key passes through the three stages, each of which takes it,
hands it on and ends its turn, with a request and a reply at the last two. The requests that every
sweep makes come on top. -/
def workload (s : ServerSweep) : Nat := 64 + 32 * s.connection.plan.weight

/-- Runs the sweep to its end. -/
def run (s : ServerSweep) : ServerSweep := runWithin s.workload s

/-- How the sweep came out. -/
def outcome? (s : ServerSweep) : Option SweepOutcome :=
  match s.sweep.driver with
  | .finished outcome => some outcome
  | _ => none

/-- The lines that the sweep logged. -/
def lines (s : ServerSweep) : List LogLine :=
  s.effects.filterMap fun
    | .logged line => some line
    | .called _ => none

end ServerSweep

end KeySweeper
