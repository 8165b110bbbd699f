import KeySweeper.Server.Paging
import KeySweeper.Ttl

/-!
# A store on a server

The calls of a store as commands of a server. A lifetime is sent in whole milliseconds, at least
one, as a machine word. Deleting no keys sends nothing.
-/

namespace KeySweeper.Connection

/-- A lifetime as it is sent: whole milliseconds as a machine word, but never none. -/
def sentMillis (ttl : Duration) : Nat := max 1 (ttl.millis % Text.Numeral.limit64)

/-- The arguments that store a value. -/
def setArguments (key value : String) : Option Duration → List String
  | none => [key, value]
  | some ttl => [key, value, "PX", toString (sentMillis ttl)]

/-- Stores a value. -/
def set (c : Connection) (key value : String) (ttl : Option Duration) :
    Except ServerError Unit × Connection :=
  c.askFor (fun _ => .ok ()) "SET" (setArguments key value ttl)

/-- Reads a value. -/
def get (c : Connection) (key : String) : Except ServerError (Option String) × Connection :=
  c.askFor ServerReply.string? "GET" [key]

/-- Asks whether a key exists. -/
def contains (c : Connection) (key : String) : Except ServerError Bool × Connection :=
  c.askFor (fun reply => reply.unsigned.map fun found => decide (0 < found)) "EXISTS" [key]

/-- Asks for the lifetime left to a key. -/
def ttl (c : Connection) (key : String) : Except ServerError Ttl × Connection :=
  c.askFor (fun reply => reply.signed.map Ttl.ofMillis) "PTTL" [key]

/-- Deletes keys. -/
def delete (c : Connection) (keys : List String) : Except ServerError Nat × Connection :=
  if keys.isEmpty then (.ok 0, c) else c.askFor ServerReply.unsigned "DEL" keys

end KeySweeper.Connection
