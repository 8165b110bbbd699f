import KeySweeper.Server.Sweep

/-!
# Sessions with a server

A client uses a store on a server command by command, or has a sweeper sweep it once. For every
command the answer is observed together with what was sent to the server for it.
-/

namespace KeySweeper

/-- What a client asks of a store on a server. -/
inductive ServerCommand where
  /-- Store a value, with an optional lifetime. -/
  | set (key value : String) (ttl : Option Duration)
  /-- Read a value. -/
  | get (key : String)
  /-- Ask whether a key exists. -/
  | contains (key : String)
  /-- Ask for the lifetime left to a key. -/
  | ttl (key : String)
  /-- Delete keys. -/
  | delete (keys : List String)
  /-- Scan the keys selected by a pattern, at most so many items if a limit is given. -/
  | scan (pattern : String) (limit : Option Nat)
  /-- Sweep once. -/
  | sweep (settings : Settings)
deriving Repr

/-- What a store on a server answers. -/
inductive ServerAnswer where
  /-- The command was carried out. -/
  | done
  /-- A truth value. -/
  | truth (value : Bool)
  /-- A number. -/
  | count (value : Nat)
  /-- A text, if there is one. -/
  | text (value : Option String)
  /-- The lifetime left to a key. -/
  | lifetime (ttl : Ttl)
  /-- The items of a scan. -/
  | items (values : List PageScan.Item)
  /-- How a sweep came out, and what it logged. -/
  | swept (outcome : Option SweepOutcome) (lines : List LogLine)
  /-- The server or the connection failed. -/
  | failed (cause : ServerError)
deriving Repr

/-- A session with a store on a server. -/
structure ServerSession where
  /-- The connection to the server. -/
  connection : Connection
  /-- How many keys a page of a scan is asked to hold. -/
  scanCount : Nat
deriving Repr

namespace ServerSession

/-- An answer of the server as an answer of the session. -/
def answer {α : Type} (present : α → ServerAnswer) : Except ServerError α → ServerAnswer
  | .ok value => present value
  | .error e => .failed e

/-- What a connection answers to one command, and the connection after it. -/
def respond (c : Connection) (scanCount : Nat) : ServerCommand → ServerAnswer × Connection
  | .set key value ttl =>
    let (result, c) := c.set key value ttl
    (answer (fun _ => .done) result, c)
  | .get key =>
    let (result, c) := c.get key
    (answer .text result, c)
  | .contains key =>
    let (result, c) := c.contains key
    (answer .truth result, c)
  | .ttl key =>
    let (result, c) := c.ttl key
    (answer .lifetime result, c)
  | .delete keys =>
    let (result, c) := c.delete keys
    (answer .count result, c)
  | .scan pattern limit =>
    let (items, c) := PageScan.collect (limit.getD (c.plan.weight + 1)) (.fresh pattern scanCount) c
    (.items items, c)
  | .sweep settings =>
    let last := (ServerSweep.start settings c scanCount).run
    (.swept last.outcome? last.lines, last.connection)

/-- Carries out one command. Answers the result, the commands sent for it and the session after
it. -/
def run (s : ServerSession) (command : ServerCommand) :
    ServerAnswer × List SentCommand × ServerSession :=
  let (result, c) := respond { s.connection with sent := [] } s.scanCount command
  (result, c.sent, { s with connection := c })

end ServerSession

end KeySweeper
