import KeySweeper.Server.Connection

/-!
# Scans in pages

A server yields the keys that match a pattern page by page: each page names the cursor of the next
one, and the cursor zero ends the scan. A page is asked for only when all keys of the pages before
it have been yielded; pages may be empty, and keys may come again on a later page. A failed request
ends the scan after its error.
-/

namespace KeySweeper

/-- A scan in progress. -/
structure PageScan where
  /-- The pattern that selects the keys. -/
  pattern : String
  /-- How many keys a page is asked to hold. -/
  count : Nat
  /-- The cursor of the next page. -/
  cursor : Nat
  /-- The keys of the last page that were not yielded yet. -/
  pending : List String
  /-- Whether there is no further page. -/
  finished : Bool
deriving DecidableEq, Repr

namespace PageScan

/-- A scan before its first page, with at least one key a page. -/
def fresh (pattern : String) (count : Nat) : PageScan := ⟨pattern, max 1 count, 0, [], false⟩

/-- The next item and the scan after it, if no page has to be asked for: a key of the last page, or
the end of the scan. -/
def local? (s : PageScan) : Option (Option String × PageScan) :=
  match s.pending with
  | key :: rest => some (some key, { s with pending := rest })
  | [] => if s.finished then some (none, s) else none

/-- The arguments of the request for the next page. -/
def requestArguments (s : PageScan) : List String :=
  [toString s.cursor, "MATCH", s.pattern, "COUNT", toString s.count]

/-- The scan once a page has come. -/
def withPage (s : PageScan) (cursor : Nat) (keys : List String) : PageScan :=
  { s with cursor, pending := keys, finished := cursor == 0 }

/-- The scan once it has failed. -/
def failed (s : PageScan) : PageScan := { s with pending := [], finished := true }

/-- Asks for the next page. -/
def request (s : PageScan) (c : Connection) : Except ServerError PageScan × Connection :=
  let (answer, later) := c.askFor ServerReply.page "SCAN" s.requestArguments
  (answer.map fun (cursor, keys) => s.withPage cursor keys, later)

/-- A page that has come has used up a reply. -/
theorem remaining_request {s page : PageScan} {c later : Connection}
    (answered : s.request c = (.ok page, later)) : later.plan.remaining < c.plan.remaining := by
  simp only [request, Connection.askFor, Prod.mk.injEq] at answered
  obtain ⟨read, rfl⟩ := answered
  cases asked : (c.ask "SCAN" s.requestArguments).1 with
  | error e => simp [asked, Except.map, Except.bind] at read
  | ok reply => exact Connection.remaining_ask asked

/-- The next key, or none at the end. -/
def next (s : PageScan) (c : Connection) :
    Except ServerError (Option String) × PageScan × Connection :=
  match s.local? with
  | some (item, s) => (.ok item, s, c)
  | none =>
    match _answered : s.request c with
    | (.error e, later) => (.error e, s.failed, later)
    | (.ok page, later) => next page later
termination_by c.plan.remaining
decreasing_by exact remaining_request _answered

/-- An item that a scan yields: a key, or the error that ends it. -/
abbrev Item := Except ServerError String

/-- Takes at most so many items from a scan. -/
def collect : Nat → PageScan → Connection → List Item × Connection
  | 0, _, c => ([], c)
  | limit + 1, s, c =>
    let (answer, s, c) := s.next c
    match answer with
    | .error e => ([.error e], c)
    | .ok none => ([], c)
    | .ok (some key) =>
      let (items, c) := collect limit s c
      (.ok key :: items, c)

end PageScan

end KeySweeper
