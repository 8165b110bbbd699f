import KeySweeper.Proofs.Coordination
import KeySweeper.Proofs.Execution
import KeySweeper.Proofs.Ledger
import KeySweeper.Proofs.Stages

/-!
# The chronicle of a sweep

An execution of a sweep leaves a chronicle: everything that its moves show, in order, each with the
part of the sweep that made the move. The part matters because a deletion of the guard and a
deletion of a batch are the same kind of store call. The stage calls of a chronicle are the ledger
of its pipeline.

The main statement lifts a property of pipelines to sweeps: what holds of fresh stages and is passed
on by every step of a stage holds of the stages of every sweep, whatever its driver and its releaser
do.
-/

namespace KeySweeper

/-- The part of a sweep that makes a move of the pipeline. Being told to wind down comes from
outside and counts as a move of the driver. -/
def Pipeline.Move.part : Pipeline.Move → Sweep.Part
  | .scanned _ => .scanner
  | .offerCandidate => .scanner
  | .takeCandidate => .filter
  | .inspected _ => .filter
  | .offerMatch => .filter
  | .takeMatch => .deleter
  | .deleted _ => .deleter
  | .cancel => .driver

namespace Sweep

/-- Whether a part of a sweep is one of its stages. -/
def Part.isStage : Part → Bool
  | .scanner => true
  | .filter => true
  | .deleter => true
  | .driver => false
  | .releaser => false

/-- The part of a sweep that makes a move. What comes from outside counts as a move of the
driver. -/
def Move.part : Move → Part
  | .stage move => move.part
  | .releaserJoin => .releaser
  | .releaserProceed => .releaser
  | .releaserReleased _ => .releaser
  | _ => .driver

/-- What the moves of a sweep show, each with the part that made the move. -/
abbrev Chronicle := List (Part × Effect)

/-- The entries of a chronicle for what one move shows. -/
def entries (move : Move) (shown : List Effect) : Chronicle :=
  shown.map fun effect => (move.part, effect)

/-- The sweep after a move and the entries of its chronicle for the move. -/
def recorded? (s : Settings) (sweep : Sweep) (move : Move) : Option (Sweep × Chronicle) :=
  (sweep.step? s move).map fun progress => (progress.sweep, entries move progress.effects)

/-- The sweep after a sequence of moves, and its chronicle. -/
abbrev run? (s : Settings) : Sweep → List Move → Option (Sweep × Chronicle) :=
  Execution.run? (recorded? s)

/-- The calls in a chronicle that were made by some of the parts. -/
def callsBy (who : Part → Bool) (log : Chronicle) : List StoreEvent :=
  calls ((log.filter fun entry => who entry.1).map (·.2))

/-- The calls in a chronicle that were made by the stages. -/
def stageCalls (log : Chronicle) : List StoreEvent := callsBy Part.isStage log

@[simp] theorem callsBy_append (who : Part → Bool) (log later : Chronicle) :
    callsBy who (log ++ later) = callsBy who log ++ callsBy who later := by
  simp only [callsBy, List.filter_append, List.map_append, calls_append]

@[simp] theorem stageCalls_append (log later : Chronicle) :
    stageCalls (log ++ later) = stageCalls log ++ stageCalls later := callsBy_append ..

/-- The entries of one move belong to the part that made it. -/
theorem callsBy_entries (who : Part → Bool) (move : Move) (shown : List Effect) :
    callsBy who (entries move shown) = if who move.part then calls shown else [] := by
  simp only [callsBy, entries, List.filter_map, List.map_map, Function.comp_def, List.map_id']
  cases who move.part with
  | true => rw [List.filter_eq_self.mpr fun _ _ => rfl, if_pos rfl]
  | false =>
    rw [List.filter_eq_nil_iff.mpr fun _ _ => Bool.false_ne_true, if_neg Bool.false_ne_true]; rfl

/-- An entry of a chronicle stands for one of the calls of its part. -/
theorem mem_callsBy {who : Part → Bool} {log : Chronicle} {event : StoreEvent} :
    event ∈ callsBy who log ↔ ∃ part, who part = true ∧ (part, .called event) ∈ log := by
  simp only [callsBy, calls, List.mem_filterMap, List.mem_map, List.mem_filter]
  constructor
  · rintro ⟨effect, ⟨⟨part, shown⟩, ⟨member, counted⟩, rfl⟩, read⟩
    cases shown with
    | called other =>
      obtain rfl := Option.some.inj read
      exact ⟨part, counted, member⟩
    | logged line => cases read
  · rintro ⟨part, counted, member⟩
    exact ⟨.called event, ⟨(part, .called event), ⟨member, counted⟩, rfl⟩, rfl⟩

variable {s : Settings} {sweep next : Sweep} {move : Move} {shown : Chronicle}

/-- A recorded step is a step of the sweep. -/
theorem recorded?_eq_some (stepped : sweep.recorded? s move = some (next, shown)) :
    ∃ progress, sweep.step? s move = some progress ∧ next = progress.sweep ∧
      shown = entries move progress.effects := by
  obtain ⟨progress, made, result⟩ := Option.map_eq_some_iff.mp stepped
  obtain ⟨rfl, rfl⟩ := Prod.mk.inj result
  exact ⟨progress, made, rfl, rfl⟩

/-- What is made by no stage adds nothing to the ledger. -/
theorem stageCalls_entries (outside : move.part.isStage = false) (effects : List Effect) :
    stageCalls (entries move effects) = [] := by
  rw [stageCalls, callsBy_entries, outside, if_neg Bool.false_ne_true]

/-- Of the moves of a pipeline only being told to wind down is made by no stage, and it shows
nothing. -/
theorem stageCalls_staged {p after : Pipeline} {stageMove : Pipeline.Move} {effects : List Effect}
    (stepped : p.step? s stageMove = some (after, effects)) :
    stageCalls (entries (.stage stageMove) effects) = calls effects := by
  simp only [stageCalls, callsBy_entries, Move.part]
  cases stageMove with
  | cancel =>
    obtain ⟨_, rfl⟩ := Pipeline.step_cancel stepped
    rfl
  | _ => rfl

/-- A part of a sweep waits for a store call. -/
inductive Waits (s : Settings) (sweep : Sweep) : Part → StoreCall → Prop where
  /-- The driver checks the guard. -/
  | checking (now : sweep.driver = .checking) : Waits s sweep .driver (.check s.guardKey)
  /-- The driver writes the guard. -/
  | marking (now : sweep.driver = .marking) : Waits s sweep .driver (.write s.guardKey Guard.mark)
  /-- The driver deletes the guard. -/
  | releasing (now : sweep.driver = .releasing) : Waits s sweep .driver (.delete [s.guardKey])
  /-- The releaser deletes the guard. -/
  | passed (now : sweep.releaser = .releasing) : Waits s sweep .releaser (.delete [s.guardKey])
  /-- The scanner asks for the next key. -/
  | asking (p : Pipeline) (running : sweep.work = .running p) (now : p.scanner = .asking) :
      Waits s sweep .scanner (.scan s.pattern)
  /-- The filter asks about a key. -/
  | inspecting (p : Pipeline) (key : String) (running : sweep.work = .running p)
      (now : p.filter = .inspecting key) : Waits s sweep .filter (.inspect key)
  /-- The deleter deletes a batch. -/
  | deleting (p : Pipeline) (batch : List String) (waiting : Option String)
      (running : sweep.work = .running p) (now : p.deleter = .deleting batch waiting) :
      Waits s sweep .deleter (.delete batch)

/-- A part waits for a store call in one of these ways. -/
theorem waits_of_pending? {part : Part} {call : StoreCall}
    (pending : sweep.pending? s part = some call) : Waits s sweep part call := by
  cases part with
  | driver =>
    simp only [pending?, driverCall?] at pending
    split at pending
    · next now => cases pending; exact .checking now
    · next now => cases pending; exact .marking now
    · next now => cases pending; exact .releasing now
    · cases pending
  | releaser =>
    simp only [pending?, releaserCall?] at pending
    split at pending
    · next now => cases pending; exact .passed now
    · cases pending
  | scanner =>
    simp only [pending?, scannerCall?] at pending
    split at pending
    · cases pending
    · next p running =>
      split at pending
      · next now => cases pending; exact .asking p running now
      · cases pending
  | filter =>
    simp only [pending?, filterCall?] at pending
    split at pending
    · cases pending
    · next p running =>
      split at pending
      · next key now => cases pending; exact .inspecting p key running now
      · cases pending
  | deleter =>
    simp only [pending?, deleterCall?] at pending
    split at pending
    · cases pending
    · next p running =>
      split at pending
      · next batch waiting now => cases pending; exact .deleting p batch waiting running now
      · cases pending

/-- A move completes a store call: the call of the part that makes the move, which waited for it. -/
inductive Answers (s : Settings) (sweep : Sweep) : Move → Part → StoreEvent → Prop where
  /-- The guard was checked. -/
  | checked (answer : Answer Bool) (checking : sweep.driver = .checking) :
      Answers s sweep (.guardChecked answer) .driver (.checked s.guardKey answer)
  /-- The guard was written. -/
  | written (answer : Answer Unit) (marking : sweep.driver = .marking) :
      Answers s sweep (.guardMarked answer) .driver (.written s.guardKey Guard.mark answer)
  /-- The guard was deleted. -/
  | released (answer : Answer Nat) (elapsed : Duration) (finishedAt : Timestamp)
      (releasing : sweep.driver = .releasing) :
      Answers s sweep (.guardReleased answer elapsed finishedAt) .driver
        (.deleted [s.guardKey] answer)
  /-- The guard was deleted in the place of the sweep. -/
  | passed (answer : Answer Nat) (releasing : sweep.releaser = .releasing) :
      Answers s sweep (.releaserReleased answer) .releaser (.deleted [s.guardKey] answer)
  /-- The scan was asked for its next key. -/
  | scanned (answer : Answer (Option String)) (p : Pipeline) (running : sweep.work = .running p)
      (asking : p.scanner = .asking) :
      Answers s sweep (.stage (.scanned answer)) .scanner (.scanned s.pattern answer)
  /-- A key was inspected. -/
  | inspected (answer : Answer Ttl) (p : Pipeline) (key : String)
      (running : sweep.work = .running p) (inspecting : p.filter = .inspecting key) :
      Answers s sweep (.stage (.inspected answer)) .filter (.inspected key answer)
  /-- A batch was deleted. -/
  | deleted (answer : Answer Nat) (p : Pipeline) (batch : List String) (waiting : Option String)
      (running : sweep.work = .running p) (deleting : p.deleter = .deleting batch waiting) :
      Answers s sweep (.stage (.deleted answer)) .deleter (.deleted batch answer)

/-- What a step of a stage shows as called is the call that the stage waited for. -/
theorem answers_of_staged {p after : Pipeline} {stageMove : Pipeline.Move} {effects : List Effect}
    (running : sweep.work = .running p) (stepped : p.step? s stageMove = some (after, effects))
    {event : StoreEvent} (call : event ∈ calls effects) :
    Answers s sweep (.stage stageMove) stageMove.part event := by
  cases stageMove with
  | scanned answer =>
    obtain ⟨asking, _, rfl⟩ := Pipeline.step_scanned stepped
    rw [calls_effects] at call
    cases List.mem_singleton.mp call
    exact .scanned answer p running asking
  | offerCandidate =>
    obtain ⟨_, _, rfl, _⟩ := Pipeline.step_offerCandidate stepped
    cases call
  | takeCandidate =>
    obtain ⟨_, rfl, _⟩ := Pipeline.step_takeCandidate stepped
    cases call
  | inspected answer =>
    obtain ⟨key, inspecting, _, rfl⟩ := Pipeline.step_inspected stepped
    rw [calls_effects] at call
    cases List.mem_singleton.mp call
    exact .inspected answer p key running inspecting
  | offerMatch =>
    obtain ⟨_, _, rfl, _⟩ := Pipeline.step_offerMatch stepped
    cases call
  | takeMatch =>
    obtain ⟨_, _, rfl, _⟩ := Pipeline.step_takeMatch stepped
    cases call
  | deleted answer =>
    obtain ⟨batch, waiting, deleting, _, rfl⟩ := Pipeline.step_deleted stepped
    rw [calls_effects] at call
    cases List.mem_singleton.mp call
    exact .deleted answer p batch waiting running deleting
  | cancel =>
    obtain ⟨_, rfl⟩ := Pipeline.step_cancel stepped
    cases call

/-- What a step shows as called is the call that the step completes. -/
theorem answers_of_entry {progress : Progress} (steps : Steps s sweep move progress) {part : Part}
    {event : StoreEvent} (member : (part, .called event) ∈ entries move progress.effects) :
    Answers s sweep move part event := by
  obtain ⟨effect, shown, same⟩ := List.mem_map.mp member
  obtain ⟨rfl, rfl⟩ := Prod.mk.inj same
  have call : event ∈ calls progress.effects := List.mem_filterMap.mpr ⟨_, shown, rfl⟩
  clear shown member
  cases steps with
  | held checking => cases List.mem_singleton.mp call; exact .checked _ checking
  | free checking => cases List.mem_singleton.mp call; exact .checked _ checking
  | unknown checking cause => cases List.mem_singleton.mp call; exact .checked _ checking
  | checkCrashed checking text => cases List.mem_singleton.mp call; exact .checked _ checking
  | acquired marking answer back =>
    rw [calls_called_logged] at call
    cases List.mem_singleton.mp call
    exact .written _ marking
  | markCrashed marking text => cases List.mem_singleton.mp call; exact .written _ marking
  | staged stageMove p after effects running stepped => exact answers_of_staged running stepped call
  | completed releasing answer back elapsed finishedAt =>
    rw [calls_called_logged] at call
    cases List.mem_singleton.mp call
    exact .released _ _ _ releasing
  | releaseCrashed releasing text elapsed finishedAt =>
    cases List.mem_singleton.mp call
    exact .released _ _ _ releasing
  | releaserEnded releasing answer =>
    rw [calls_called_logged] at call
    cases List.mem_singleton.mp call
    exact .passed _ releasing
  | joined stage rest joining ended => rw [calls_logged] at call; cases call
  | releaserJoined stage rest joining ended => rw [calls_logged] at call; cases call
  | _ => cases call

/-- A property of a pipeline and its ledger holds of the work of a sweep: of the stages once they
were started, and before that nothing was called. -/
def HoldsOf (Holds : Pipeline → List StoreEvent → Prop) (h : List StoreEvent) : Work → Prop
  | .waiting _ => h = []
  | .running p => Holds p h

/-- What holds of the work of a sweep holds of its stages, once they were started. -/
theorem HoldsOf.of_running {Holds : Pipeline → List StoreEvent → Prop} {h : List StoreEvent}
    {work : Work} (holds : HoldsOf Holds h work) {p : Pipeline}
    (running : work = .running p) : Holds p h := by
  rw [running] at holds
  exact holds

/-- The stages of a sweep were started only once its driver has left the opening. -/
def Opening (sweep : Sweep) : Prop :=
  sweep.driver.isOpening = true → ∃ flag, sweep.work = .waiting flag

/-- No step leads back into the opening, and only the acquisition starts the stages. -/
theorem Opening.step {progress : Progress} (opening : sweep.Opening)
    (steps : Steps s sweep move progress) : progress.sweep.Opening := by
  cases steps with
  | begun claimed => exact fun _ => opening (by rw [claimed]; rfl)
  | free checking => exact fun _ => opening (by rw [checking]; rfl)
  | staged stageMove p after shown running stepped =>
    intro early
    obtain ⟨flag, waiting⟩ := opening early
    rw [running] at waiting
    cases waiting
  | cancelled =>
    intro early
    obtain ⟨flag, waiting⟩ := opening early
    exact ⟨true, by simp only [waiting, Work.cancel]⟩
  | releaserJoined stage rest joining ended => exact opening
  | releaserProceeded joining => exact opening
  | releaserEnded releasing answer => exact opening
  | _ => exact Bool.noConfusion

/-- In no execution are the stages of a sweep started before its driver has left the opening. -/
theorem opening_along {flag : Bool} {moves : List Move} {log : Chronicle}
    (ran : run? s (.claimed flag) moves = some (sweep, log)) : sweep.Opening := by
  refine Execution.induction_along
    (motive := fun _ sweep _ => sweep.Opening) (fun _ => ⟨flag, rfl⟩) ?_ ran
  intro moves move mid before next shown _ inductionHypothesis stepped
  obtain ⟨progress, made, rfl, -⟩ := recorded?_eq_some stepped
  exact inductionHypothesis.step (steps_of_step? made)

/-- What a step of a sweep means for its stages, with the calls that they make in it. -/
inductive WorkStep (s : Settings) : Work → Work → List StoreEvent → Prop where
  /-- Nothing. -/
  | still (work : Work) : WorkStep s work work []
  /-- Before its stages start the sweep is told to wind down. -/
  | told (flag : Bool) : WorkStep s (.waiting flag) (.waiting true) []
  /-- The stages start. -/
  | started (flag raised : Bool) : WorkStep s (.waiting flag) (.running (.fresh (.fresh raised))) []
  /-- A stage moves, or the stages are told to wind down. -/
  | staged (move : Pipeline.Move) (p next : Pipeline) (shown : List Effect)
      (stepped : p.step? s move = some (next, shown)) :
      WorkStep s (.running p) (.running next) (calls shown)

/-- Telling work to wind down is a step of its stages, if they were started. -/
theorem WorkStep.cancel (work : Work) : WorkStep s work work.cancel [] := by
  cases work with
  | waiting flag => exact .told flag
  | running p => exact .staged .cancel p _ [] rfl

/-- Every step of a sweep means one of these things for its stages. -/
theorem workStep_of_steps {progress : Progress} (opening : sweep.Opening)
    (steps : Steps s sweep move progress) :
    WorkStep s sweep.work progress.sweep.work (stageCalls (entries move progress.effects)) := by
  have told := WorkStep.cancel (s := s) sweep.work
  cases steps with
  | staged stageMove p after effects running stepped =>
    rw [running, stageCalls_staged stepped]
    exact .staged stageMove p after effects stepped
  | acquired marking answer back =>
    obtain ⟨flag, waiting⟩ := opening (by rw [marking]; rfl)
    rw [waiting, stageCalls_entries rfl]
    exact .started flag _
  | proceeded joining => rwa [stageCalls_entries rfl]
  | cancelled => rwa [stageCalls_entries rfl]
  | passedOn rest joining => rwa [stageCalls_entries rfl]
  | left rest joining => rwa [stageCalls_entries rfl]
  | abandoned releasing canSpawn => rwa [stageCalls_entries rfl]
  | _ =>
    rw [stageCalls_entries rfl]
    exact .still sweep.work

/-- What holds of fresh stages and is passed on by every step of the pipeline is passed on by every
step of a sweep. -/
theorem HoldsOf.step {Holds : Pipeline → List StoreEvent → Prop} {h : List StoreEvent}
    {progress : Progress} (fresh : ∀ raised, Holds (.fresh (.fresh raised)) [])
    (passedOn : ∀ p stageMove after effects, sweep.work = .running p → Holds p h →
      p.step? s stageMove = some (after, effects) → Holds after (h ++ calls effects))
    (opening : sweep.Opening) (holds : HoldsOf Holds h sweep.work)
    (steps : Steps s sweep move progress) :
    HoldsOf Holds (h ++ stageCalls (entries move progress.effects)) progress.sweep.work := by
  have onward := workStep_of_steps opening steps
  generalize stageCalls (entries move progress.effects) = called at onward
  generalize progress.sweep.work = after at onward
  generalize sweep.work = before at onward passedOn holds
  cases onward with
  | still work => rwa [List.append_nil]
  | told flag => rwa [List.append_nil]
  | started flag raised =>
    obtain rfl : h = [] := holds
    exact fresh raised
  | staged stageMove p next shown stepped => exact passedOn p stageMove next shown rfl holds stepped

/-- What holds of fresh stages and is passed on by every step of the pipeline holds of the stages of
every sweep: in every state that an execution from the claim on can reach, under any answers of the
store and with any interference from outside. -/
theorem holds_along {Holds : Pipeline → List StoreEvent → Prop}
    (fresh : ∀ raised, Holds (.fresh (.fresh raised)) [])
    (passedOn : ∀ p h stageMove after effects, Holds p h →
      p.step? s stageMove = some (after, effects) → Holds after (h ++ calls effects))
    {flag : Bool} {moves : List Move} {log : Chronicle}
    (ran : run? s (.claimed flag) moves = some (sweep, log)) :
    sweep.Opening ∧ HoldsOf Holds (stageCalls log) sweep.work := by
  refine ⟨opening_along ran, ?_⟩
  refine Execution.induction_along (motive := fun _ sweep log =>
    HoldsOf Holds (stageCalls log) sweep.work) ?_ ?_ ran
  · exact rfl
  · intro moves move mid before after shown reached inductionHypothesis stepped
    obtain ⟨progress, made, rfl, rfl⟩ := recorded?_eq_some stepped
    rw [stageCalls_append]
    exact inductionHypothesis.step fresh (fun p stageMove after effects _ =>
      passedOn p _ stageMove after effects) (opening_along reached) (steps_of_step? made)

end Sweep

end KeySweeper
