import KeySweeper.Proofs.Chronicle

/-!
# What crashes leave behind

A stage crashes in one way only: the code behind one of its store calls crashes, and the stage ends
with the text of that crash. A crashed stage makes no further call. So the calls that were completed
tell which stages have crashed and with which texts, and each crashed stage shows in exactly one of
its calls.
-/

namespace KeySweeper

namespace Ledger

/-- The text with which a call of a stage crashed, if it is a call of that stage and did. -/
def crashText? : StageName → StoreEvent → Option String
  | .scanner, .scanned _ (.crashed text) => some text
  | .filter, .inspected _ (.crashed text) => some text
  | .deleter, .deleted _ (.crashed text) => some text
  | _, _ => none

/-- The texts with which calls of a stage crashed, in order. -/
def crashes (stage : StageName) (h : List StoreEvent) : List String :=
  h.filterMap (crashText? stage)

@[simp] theorem crashes_append (stage : StageName) (h later : List StoreEvent) :
    crashes stage (h ++ later) = crashes stage h ++ crashes stage later := List.filterMap_append

@[simp] theorem crashes_singleton (stage : StageName) (event : StoreEvent) :
    crashes stage [event] = (crashText? stage event).toList := by
  cases read : crashText? stage event <;> simp [crashes, read]

end Ledger

open Ledger

namespace Pipeline

variable {s : Settings} {p next : Pipeline} {move : Move} {shown : List Effect}

/-- A scanner crashes with an answer of the scan that is a crash, and with no other. -/
theorem crash_of_scanned {cancelled : Bool} {answer : Answer (Option String)} (pattern : String)
    (state : p.scanner = Scanner.afterAnswer cancelled answer) :
    p.crash? .scanner = crashText? .scanner (.scanned pattern answer) := by
  simp only [crash?, state]
  cases answer with
  | value result =>
    cases result with
    | none => rfl
    | some key => cases cancelled <;> rfl
  | failed cause => rfl
  | crashed text => rfl

/-- A filter crashes with an inspection that crashes, and with no other. -/
theorem crash_of_inspected {threshold : Duration} {key : String} {answer : Answer Ttl}
    (state : p.filter = Filter.afterAnswer threshold key answer) :
    p.crash? .filter = crashText? .filter (.inspected key answer) := by
  simp only [crash?, state]
  cases answer with
  | value ttl => simp only [Filter.afterAnswer]; cases ttl.outlives threshold <;> rfl
  | failed cause => rfl
  | crashed text => rfl

/-- A deleter crashes with a deletion that crashes, and with no other. -/
theorem crash_of_deleted {waiting : Option String} {answer : Answer Nat} (batch : List String)
    (state : p.deleter = Deleter.afterAnswer waiting answer) :
    p.crash? .deleter = crashText? .deleter (.deleted batch answer) := by
  simp only [crash?, state]
  cases answer with
  | value removed => cases waiting <;> rfl
  | failed cause => cases waiting <;> rfl
  | crashed text => rfl

/-- A deleter that takes a key goes on without a crash. -/
theorem sound_of_accept {size : Nat} {batch : List String} {key : String}
    (state : p.deleter = Deleter.accept size batch key) : p.crash? .deleter = none := by
  simp only [crash?, state]
  by_cases full : size ≤ batch.length
  · simp only [Deleter.accept, full, if_true]
  · simp only [Deleter.accept, full, if_false]

/-- A deleter that finds its inbox closed goes on without a crash. -/
theorem sound_of_flush {batch : List String} (state : p.deleter = Deleter.flush batch) :
    p.crash? .deleter = none := by
  simp only [crash?, state]
  cases batch <;> rfl

/-- A step crashes a stage exactly if it shows that a call of the stage crashed. -/
theorem crash_step (stepped : p.step? s move = some (next, shown)) (stage : StageName) :
    (next.crash? stage).toList = (p.crash? stage).toList ++ crashes stage (calls shown) := by
  cases steps_of_step? stepped with
  | scanned answer asking =>
    rw [calls_effects, crashes_singleton]
    cases stage with
    | scanner =>
      rw [crash_of_scanned s.pattern rfl, intact_of_live (p := p)
        (by simp only [isLive, asking]; rfl)]
      rfl
    | _ => exact (List.append_nil _).symm
  | inspected answer key inspecting =>
    rw [calls_effects, crashes_singleton]
    cases stage with
    | filter =>
      rw [crash_of_inspected rfl, intact_of_live (p := p) (by simp only [isLive, inspecting]; rfl)]
      rfl
    | _ => exact (List.append_nil _).symm
  | deleted answer batch waiting deleting =>
    rw [calls_effects, crashes_singleton]
    cases stage with
    | deleter =>
      rw [crash_of_deleted batch rfl, intact_of_live (p := p)
        (by simp only [isLive, deleting]; rfl)]
      rfl
    | _ => exact (List.append_nil _).symm
  | matchTaken batch key rest collecting queued =>
    cases stage with
    | deleter =>
      rw [sound_of_accept rfl, intact_of_live (p := p) (by simp only [isLive, collecting]; rfl)]
      rfl
    | _ => exact (List.append_nil _).symm
  | matchesEnded batch collecting queued halted =>
    cases stage with
    | deleter =>
      rw [sound_of_flush rfl, intact_of_live (p := p) (by simp only [isLive, collecting]; rfl)]
      rfl
    | _ => exact (List.append_nil _).symm
  | cancelled => cases stage <;> exact (List.append_nil _).symm
  | _ =>
    cases stage <;> simp_all [crash?, calls, crashes]

end Pipeline

namespace Sweep

/-- The crashed calls of a stage are the crash of the stage, if it crashed. -/
theorem crashes_along {s : Settings} {flag : Bool} {moves : List Move} {sweep : Sweep}
    {log : Chronicle} (ran : run? s (.claimed flag) moves = some (sweep, log)) (stage : StageName) :
    crashes stage (stageCalls log) = (sweep.work.crash? stage).toList := by
  have holds : HoldsOf (fun p h => crashes stage h = (p.crash? stage).toList)
      (stageCalls log) sweep.work := by
    refine (holds_along (fun _ => ?_) ?_ ran).2
    · cases stage <;> rfl
    · intro p h stageMove after effects known stepped
      rw [crashes_append, known, Pipeline.crash_step stepped stage]
  cases work : sweep.work with
  | waiting raised =>
    rw [work] at holds
    have none : stageCalls log = [] := holds
    rw [none]
    rfl
  | running p =>
    rw [work] at holds
    exact holds

end Sweep

end KeySweeper
