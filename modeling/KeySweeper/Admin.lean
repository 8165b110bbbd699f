import KeySweeper.Sweeper
import KeySweeper.Document

/-!
# The admin interface

Operators look at a sweeper and steer it over HTTP: they read its health, its state and its last
report, start a sweep on demand, and ask the current sweep to stop. A path has to match a route
letter by letter; a scheme and an authority before it and what follows a question mark or a number
sign are ignored. Any web page may use the interface, which every answer says in its headers, and a
preflight request is answered for every path without doing anything.
-/

namespace KeySweeper.Admin

/-- A request. Its headers and its body make no difference. -/
structure Request where
  /-- The method, whose letter case counts. -/
  method : String
  /-- The path with an optional query and fragment, possibly behind a scheme and an authority. -/
  target : String
deriving DecidableEq, Repr

/-- An answer. -/
structure Response where
  /-- The status code. -/
  status : Nat
  /-- The headers. -/
  headers : List (String × String)
  /-- The body, empty if there is none. -/
  body : String
deriving DecidableEq, Repr

/-- The things that the interface offers. -/
inductive Route where
  /-- Whether the service is up. -/
  | health
  /-- The state and the settings of the sweeper. -/
  | status
  /-- Start of a sweep on demand. -/
  | run
  /-- Stop of the current sweep. -/
  | stop
  /-- The report of the last sweep that ran. -/
  | report
deriving DecidableEq, Repr

/-- Whether a character may occur in a scheme. -/
def isSchemeChar (c : Char) : Bool := c.isAlphanum || c == '+' || c == '-' || c == '.' || c == '~'

/-- Whether a path ends before a character. -/
def endsPath (c : Char) : Bool := c == '?' || c == '#'

/-- The part of a request target behind its scheme and its authority, if it starts with them. The
authority goes up to where a path, a query or a fragment begins. -/
def dropAuthority (target : List Char) : List Char :=
  match target.dropWhile isSchemeChar with
  | ':' :: '/' :: '/' :: rest => rest.dropWhile fun c => c != '/' && !endsPath c
  | _ => target

/-- The part of a request target that selects the route. -/
def pathOf (target : String) : String :=
  String.ofList ((dropAuthority target.toList).takeWhile fun c => !endsPath c)

/-- The route at a path. -/
def Route.ofPath? (path : String) : Option Route :=
  if path = "/health" then some .health
  else if path = "/cleaner" then some .status
  else if path = "/cleaner/run" then some .run
  else if path = "/cleaner/stop" then some .stop
  else if path = "/cleaner/report" then some .report
  else none

/-- Whether a route is for reading; the others are for acting. -/
def Route.isReading : Route → Bool
  | .health => true
  | .status => true
  | .report => true
  | .run => false
  | .stop => false

/-- The methods that a route allows. -/
def Route.allow (route : Route) : String := if route.isReading then "GET,HEAD" else "POST"

/-- The report of a sweep as a document. The length is cut to a machine word. -/
def reportDocument (r : SweepReport) : Document :=
  .object
    [("deleted_count", .number r.deleted.toNat),
      ("duration_ms", .number (r.elapsed.millis % 18446744073709551616)),
      ("finished_at", .text r.finishedAt.render)]

/-- The state and the settings of a sweeper as a document. -/
def statusDocument (c : Sweeper) : Document :=
  .object
    [("phase", .text c.slot.phase.label),
      ("key_pattern", .text c.settings.pattern),
      ("min_ttl_secs", .number c.settings.minTtlSeconds),
      ("batch_size", .number c.settings.batchSize),
      ("last_report", .ofOption reportDocument c.slot.lastReport)]

/-- The acknowledgement of an action as a document. -/
def actionDocument (message : String) : Document := .object [("message", .text message)]

/-- What the service says about itself while it is up. -/
def healthy : String := "healthy"

/-- The health of the service as a document. -/
def healthDocument (now : Timestamp) : Document :=
  .object [("status", .text healthy), ("timestamp", .text now.render)]

/-- A refusal as a document. -/
def errorDocument (error : RequestError) : Document :=
  .object [("error", .text error.explanation)]

/-- The media type of documents. -/
def mediaType : String := "application/json"

/-- The headers of every answer. -/
def sharedHeaders : List (String × String) :=
  [("access-control-allow-origin", "*"),
    ("vary", "origin, access-control-request-method, access-control-request-headers")]

/-- The headers that answer a preflight request. -/
def preflightHeaders : List (String × String) :=
  [("access-control-allow-methods", "*"), ("access-control-allow-headers", "*")]

/-- An answer with a document. -/
def respond (status : Nat) (document : Document) : Response :=
  ⟨status, sharedHeaders ++ [("content-type", mediaType)], document.render⟩

/-- A refusal. -/
def refuse (error : RequestError) : Response := respond error.status (errorDocument error)

/-- An answer without a body. -/
def bare (status : Nat) (headers : List (String × String)) : Response :=
  ⟨status, sharedHeaders ++ headers, ""⟩

/-- The same answer without its body. -/
def withoutBody (r : Response) : Response := { r with body := "" }

/-- An answer together with the sweeper after the request and the sweep that the request started. -/
structure Reply where
  /-- The answer. -/
  response : Response
  /-- The sweeper after the request. -/
  sweeper : Sweeper
  /-- The sweep that was started and has to be driven. -/
  started : Option Nat
deriving DecidableEq, Repr

/-- What a reading route shows. -/
def readRoute (c : Sweeper) (now : Timestamp) : Route → Response
  | .health => respond 200 (healthDocument now)
  | .report =>
    match c.slot.lastReport with
    | some r => respond 200 (reportDocument r)
    | none => refuse (.notFound "no redis-cleaner run has completed yet")
  | _ => respond 200 (statusDocument c)

/-- What an acting route does. -/
def actRoute (c : Sweeper) : Route → Reply
  | .run =>
    match c.step? .start with
    | some (next, _) =>
      ⟨respond 202 (actionDocument "redis-cleaner run started"), next, some c.engagements.length⟩
    | none => ⟨refuse (.conflict "redis-cleaner is already running"), c, none⟩
  | _ => ⟨respond 202 (actionDocument "redis-cleaner stop requested"), c.stop, none⟩

/-- Answers a request to an existing route. -/
def serve (c : Sweeper) (now : Timestamp) (method : String) (route : Route) : Reply :=
  if route.isReading then
    if method = "GET" then ⟨readRoute c now route, c, none⟩
    else if method = "HEAD" then ⟨withoutBody (readRoute c now route), c, none⟩
    else ⟨bare 405 [("allow", route.allow)], c, none⟩
  else
    if method = "POST" then actRoute c route
    else ⟨bare 405 [("allow", route.allow)], c, none⟩

/-- Answers a request. -/
def handle (c : Sweeper) (now : Timestamp) (request : Request) : Reply :=
  let route := Route.ofPath? (pathOf request.target)
  if request.method = "OPTIONS" then
    ⟨bare 200 (preflightHeaders ++ (route.map fun r => [("allow", r.allow)]).getD []), c, none⟩
  else
    match route with
    | some route => serve c now request.method route
    | none => ⟨bare 404 [], c, none⟩

end KeySweeper.Admin
