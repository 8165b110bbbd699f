import KeySweeper.Control
import KeySweeper.Settings
import KeySweeper.Stage.Deleter
import KeySweeper.Stage.Filter
import KeySweeper.Stage.Scanner

/-!
# The pipeline of a sweep

The three stages at work together: the scanner hands candidates to the filter, the filter hands
matched keys to the deleter. The stages run side by side, so the pipeline is a transition system: a
move is one stage going on from one point at which it waits to the next, or somebody telling the
sweep to wind down. What a store call answers is part of the move, so the moves cover every store,
whatever it answers and whenever. Every interleaving of the stages is a sequence of moves.
-/

namespace KeySweeper

/-- What a step of a sweep shows to the outside. -/
inductive Effect where
  /-- A store call was completed. -/
  | called (event : StoreEvent)
  /-- A line was logged. -/
  | logged (line : LogLine)
deriving DecidableEq, Repr

/-- The stages of a sweep. -/
inductive StageName where
  /-- The stage that finds candidates. -/
  | scanner
  /-- The stage that picks the keys that live too long. -/
  | filter
  /-- The stage that deletes them. -/
  | deleter
deriving DecidableEq, Repr

namespace StageName

/-- The name of a stage as it is logged. -/
def label : StageName → String
  | .scanner => "scanner"
  | .filter => "filter"
  | .deleter => "deleter"

/-- The stages in the order in which they are waited for. -/
def all : List StageName := [.scanner, .filter, .deleter]

end StageName

/-- The three stages, the handoffs between them and what they share. -/
structure Pipeline where
  /-- The flag and the counter of the sweep. -/
  control : Control
  /-- What the scanner is doing. -/
  scanner : Scanner
  /-- The keys on their way from the scanner to the filter. -/
  candidates : Handoff
  /-- What the filter is doing. -/
  filter : Filter
  /-- The keys on their way from the filter to the deleter. -/
  matched : Handoff
  /-- What the deleter is doing. -/
  deleter : Deleter
deriving DecidableEq, Repr

namespace Pipeline

/-- The stages before their first step. -/
def fresh (control : Control) : Pipeline where
  control := control
  scanner := .asking
  candidates := .empty Handoff.defaultCapacity
  filter := .waiting
  matched := .empty Handoff.defaultCapacity
  deleter := .collecting []

/-- One step of one stage, or of somebody else. -/
inductive Move where
  /-- The scan answers the scanner. -/
  | scanned (answer : Answer (Option String))
  /-- The scanner sends the key in its hand on, or gives up. -/
  | offerCandidate
  /-- The filter receives a candidate, or finds that none can come any more. -/
  | takeCandidate
  /-- The store tells the filter the lifetime left to its key. -/
  | inspected (answer : Answer Ttl)
  /-- The filter sends the key in its hand on, or gives up. -/
  | offerMatch
  /-- The deleter receives a key, or finds that none can come any more. -/
  | takeMatch
  /-- The call that deletes a batch returns. -/
  | deleted (answer : Answer Nat)
  /-- The sweep is told to wind down. -/
  | cancel
deriving DecidableEq, Repr

/-- A failed call tells the whole sweep to wind down. -/
def cancelIfFailed {α : Type} (control : Control) : Answer α → Control
  | .failed _ => control.cancel
  | _ => control

/-- A completed call, followed by the line that is logged if it failed. -/
def effects {α : Type} (event : StoreEvent) (line : StoreError → LogLine) : Answer α → List Effect
  | .failed cause => [.called event, .logged (line cause)]
  | _ => [.called event]

/-- A batch counts as handed over once its call has returned. -/
def recordUnlessCrashed (control : Control) (batch : List String) : Answer Nat → Control
  | .crashed _ => control
  | _ => control.record (UInt64.ofNat batch.length)

/-- The pipeline after a move, and what the move shows. There is none if the move cannot be made
now. -/
def step? (settings : Settings) (p : Pipeline) : Move → Option (Pipeline × List Effect)
  | .scanned answer =>
    match p.scanner with
    | .asking =>
      some ({ p with
          scanner := Scanner.afterAnswer p.control.cancelled answer
          control := cancelIfFailed p.control answer },
        effects (.scanned settings.pattern answer) (Scanner.failureLine settings.pattern) answer)
    | _ => none
  | .offerCandidate =>
    match p.scanner with
    | .offering key =>
      (Scanner.offer? key p.control.cancelled p.filter.isLive p.candidates).map
        fun (scanner, candidates) => ({ p with scanner, candidates }, [])
    | _ => none
  | .takeCandidate =>
    match p.filter with
    | .waiting =>
      (Filter.take? p.scanner.isLive p.candidates).map
        fun (filter, candidates) => ({ p with filter, candidates }, [])
    | _ => none
  | .inspected answer =>
    match p.filter with
    | .inspecting key =>
      some ({ p with
          filter := Filter.afterAnswer settings.minTtl key answer
          control := cancelIfFailed p.control answer },
        effects (.inspected key answer) (Filter.failureLine key) answer)
    | _ => none
  | .offerMatch =>
    match p.filter with
    | .offering key =>
      (Filter.offer? key p.deleter.isLive p.matched).map
        fun (filter, matched) => ({ p with filter, matched }, [])
    | _ => none
  | .takeMatch =>
    match p.deleter with
    | .collecting batch =>
      (Deleter.take? (Deleter.effectiveSize settings.batchSize) batch p.filter.isLive p.matched).map
        fun (deleter, matched) => ({ p with deleter, matched }, [])
    | _ => none
  | .deleted answer =>
    match p.deleter with
    | .deleting batch next =>
      some ({ p with
          deleter := Deleter.afterAnswer next answer
          control := recordUnlessCrashed (cancelIfFailed p.control answer) batch answer },
        effects (.deleted batch answer) (Deleter.failureLine batch) answer)
    | _ => none
  | .cancel => some ({ p with control := p.control.cancel }, [])

/-- Whether a stage is still at work. -/
def isLive (p : Pipeline) : StageName → Bool
  | .scanner => p.scanner.isLive
  | .filter => p.filter.isLive
  | .deleter => p.deleter.isLive

/-- The text with which a stage crashed, if it did. -/
def crash? (p : Pipeline) : StageName → Option String
  | .scanner => match p.scanner with | .crashed text => some text | _ => none
  | .filter => match p.filter with | .crashed text => some text | _ => none
  | .deleter => match p.deleter with | .crashed text => some text | _ => none

/-- A bound on the number of moves that can follow each other without an answer from the store:
every such move brings a key closer to the next store call or ends a stage. -/
def pressure (p : Pipeline) : Nat :=
  (match p.scanner with | .offering _ => 7 | _ => 0)
    + 4 * p.candidates.queue.length
    + (match p.filter with | .waiting => 1 | .offering _ => 5 | _ => 0)
    + 2 * p.matched.queue.length
    + (match p.deleter with | .collecting _ => 1 | _ => 0)

end Pipeline

end KeySweeper
