import KeySweeper.Fleet.Gate
import KeySweeper.Proofs.Engagements
import KeySweeper.Store.Session
import Mathlib.Logic.Function.Basic

/-!
# Workplaces

A sweeper at work on a store in memory that other clients use as well. In one turn the sweeper makes
a move that needs no answer, or one of its waiting calls reaches the store and is answered there and
then, or another client does something. A call waits for as long as it likes, and a call whose part
has ended in the meantime is never carried out. Calls may also go wrong on their way, and then they
do not touch the store.

Every order of turns is allowed. The statements here say what a turn does to the store, and that the
log of a workplace is the log of its sweeper, so that what is known of all executions of a sweep can
be used.
-/

namespace KeySweeper

/-- How a call can go wrong on its way to the store. -/
inductive Mishap where
  /-- The call fails. -/
  | fail (cause : StoreError)
  /-- The code behind the call crashes. -/
  | crash (text : String)
deriving DecidableEq, Repr

namespace Mishap

/-- What the layer in front of the store does in a mishap. -/
def action : Mishap → FaultAction
  | .fail cause => .fail cause
  | .crash text => .crash text

/-- The layer in front of the store under which a call of a kind goes wrong in this way, or not at
all. -/
def plan (mishap : Option Mishap) (kind : CallKind) : FaultPlan :=
  .ofFaults (mishap.toList.map fun m => ⟨kind, none, none, m.action⟩)

/-- The answer to a call that has this result unless it goes wrong. -/
def answer {α : Type} (mishap : Option Mishap) (result : α) : Answer α :=
  match mishap with
  | none => .value result
  | some (.fail cause) => .failed cause
  | some (.crash text) => .crashed text

/-- Only a call that did not go wrong is answered with a value. -/
theorem of_answer_value {α : Type} {mishap : Option Mishap} {result value : α}
    (same : answer mishap result = .value value) : mishap = none ∧ result = value := by
  match mishap with
  | none => exact ⟨rfl, Answer.value.inj same⟩
  | some (.fail cause) => cases same
  | some (.crash text) => cases same

end Mishap

open Mishap (plan answer)

/-- Whether a move takes up an answer of the store. -/
def Sweep.Move.takesAnswer : Sweep.Move → Bool
  | .guardChecked _ => true
  | .guardMarked _ => true
  | .guardReleased _ _ _ => true
  | .releaserReleased _ => true
  | .stage (.scanned _) => true
  | .stage (.inspected _) => true
  | .stage (.deleted _) => true
  | _ => false

/-- Whether a move of a sweeper takes up an answer of the store. -/
def Sweeper.Move.takesAnswer : Sweeper.Move → Bool
  | .sweep _ move => move.takesAnswer
  | _ => false

/-- A move that takes up no answer shows no call. -/
theorem Sweep.calls_of_silent {s : Settings} {sweep : Sweep} {move : Sweep.Move}
    {progress : Sweep.Progress} (steps : Sweep.Steps s sweep move progress)
    (silent : move.takesAnswer = false) : calls progress.effects = [] := by
  rw [List.eq_nil_iff_forall_not_mem]
  intro event member
  obtain ⟨effect, shown, read⟩ := List.mem_filterMap.mp member
  cases effect with
  | called same => cases Sweep.answers_of_entry steps (List.mem_map_of_mem shown) <;> cases silent
  | logged line => cases read

/-- A move that takes up an answer shows one call, the one that waited for the answer. -/
theorem Sweep.call_of_answer {s : Settings} {sweep : Sweep} {move : Sweep.Move}
    {progress : Sweep.Progress} (steps : Sweep.Steps s sweep move progress)
    (takes : move.takesAnswer = true) :
    ∃ event, calls progress.effects = [event] ∧ Sweep.Answers s sweep move move.part event := by
  have one : ∃ event, calls progress.effects = [event] := by
    cases steps with
    | acquired => exact ⟨_, calls_called_logged ..⟩
    | completed => exact ⟨_, calls_called_logged ..⟩
    | releaserEnded => exact ⟨_, calls_called_logged ..⟩
    | staged stageMove p after effects running stepped =>
      cases stageMove with
      | scanned answer =>
        obtain ⟨-, -, rfl⟩ := Pipeline.step_scanned stepped
        exact ⟨_, calls_effects ..⟩
      | inspected answer =>
        obtain ⟨key, -, -, rfl⟩ := Pipeline.step_inspected stepped
        exact ⟨_, calls_effects ..⟩
      | deleted answer =>
        obtain ⟨batch, waiting, -, -, rfl⟩ := Pipeline.step_deleted stepped
        exact ⟨_, calls_effects ..⟩
      | _ => cases takes
    | _ => first | exact ⟨_, rfl⟩ | cases takes
  obtain ⟨event, shows⟩ := one
  obtain ⟨effect, shown, read⟩ := List.mem_filterMap.mp (shows ▸ List.mem_singleton_self event)
  cases effect with
  | called same =>
    cases read
    exact ⟨_, shows, Sweep.answers_of_entry steps (List.mem_map_of_mem shown)⟩
  | logged line => cases read

/-- A sweeper, the store that it sweeps, and the scans of its sweeps. -/
structure Workplace where
  /-- The sweeper. -/
  sweeper : Sweeper
  /-- The store. -/
  store : Store
  /-- The scan of each sweep. -/
  scans : Nat → Scan

namespace Workplace

/-- A sweeper that never ran, with a store. -/
def opened (s : Settings) (store : Store) : Workplace :=
  ⟨.ofSettings s, store, fun _ => .fresh s.pattern⟩

/-- What happens next. -/
inductive Turn where
  /-- The sweeper makes a move without the store. -/
  | own (move : Sweeper.Move)
  /-- The call that a part of a sweep waits for is carried out, or goes wrong. -/
  | call (index : Nat) (part : Sweep.Part) (mishap : Option Mishap)
  /-- Another client does something. -/
  | others (command : SessionCommand)

/-- The call that a part of a sweep waits for. -/
def waiting? (w : Workplace) (index : Nat) (part : Sweep.Part) : Option StoreCall :=
  (w.sweeper.engagements[index]?).bind fun e => e.sweep.pending? w.sweeper.settings part

/-- What carrying out a call of a part of a sweep leaves behind. -/
def carried (w : Workplace) (index : Nat) (part : Sweep.Part) (mishap : Option Mishap)
    (call : StoreCall) : Fleet.Carried :=
  Fleet.carry (plan mishap call.kind) w.store (w.scans index) part call

section Carried

variable (w : Workplace) (index : Nat) (part : Sweep.Part) (mishap : Option Mishap)

/-- A check of a key changes nothing. -/
theorem carried_check (key : String) :
    (w.carried index part mishap (.check key)).move =
        .guardChecked (answer mishap (w.store.contains key)) ∧
      (w.carried index part mishap (.check key)).store = w.store ∧
      (w.carried index part mishap (.check key)).scan = w.scans index := by
  match mishap with
  | none => exact ⟨rfl, rfl, rfl⟩
  | some (.fail cause) => exact ⟨rfl, rfl, rfl⟩
  | some (.crash text) => exact ⟨rfl, rfl, rfl⟩

/-- A write that does not go wrong stores its value without a deadline. -/
theorem carried_write (key value : String) :
    (w.carried index part mishap (.write key value)).move = .guardMarked (answer mishap ()) ∧
      (w.carried index part mishap (.write key value)).store = (if mishap = none then
        { w.store with entries := w.store.entries.insert key ⟨value, none⟩ } else w.store) ∧
      (w.carried index part mishap (.write key value)).scan = w.scans index := by
  match mishap with
  | none => exact ⟨rfl, rfl, rfl⟩
  | some (.fail cause) => exact ⟨rfl, rfl, rfl⟩
  | some (.crash text) => exact ⟨rfl, rfl, rfl⟩

/-- A scan that is asked for its next key moves on unless the call goes wrong. -/
theorem carried_scan (pattern : String) :
    (w.carried index part mishap (.scan pattern)).move =
        .stage (.scanned (answer mishap ((w.scans index).next w.store).1)) ∧
      (w.carried index part mishap (.scan pattern)).store = w.store ∧
      (w.carried index part mishap (.scan pattern)).scan =
        (if mishap = none then ((w.scans index).next w.store).2 else w.scans index) := by
  match mishap with
  | none => exact ⟨rfl, rfl, rfl⟩
  | some (.fail cause) => exact ⟨rfl, rfl, rfl⟩
  | some (.crash text) => exact ⟨rfl, rfl, rfl⟩

/-- An inspection changes nothing, and a key is found with the lifetime that it has. -/
theorem carried_inspect (key : String) :
    (w.carried index part mishap (.inspect key)).move =
        .stage (.inspected (answer mishap (w.store.ttl key))) ∧
      (w.carried index part mishap (.inspect key)).store = w.store ∧
      (w.carried index part mishap (.inspect key)).scan = w.scans index := by
  match mishap with
  | none => exact ⟨rfl, rfl, rfl⟩
  | some (.fail cause) => exact ⟨rfl, rfl, rfl⟩
  | some (.crash text) => exact ⟨rfl, rfl, rfl⟩

/-- A deletion that does not go wrong drops its keys and nothing else. -/
theorem carried_delete (keys : List String) :
    (w.carried index part mishap (.delete keys)).move =
        Fleet.deletionMove part (answer mishap (w.store.delete keys).1) ∧
      (w.carried index part mishap (.delete keys)).store = (if mishap = none then
        { w.store with entries := w.store.entries.eraseAll keys } else w.store) ∧
      (w.carried index part mishap (.delete keys)).scan = w.scans index := by
  match mishap with
  | none => exact ⟨rfl, rfl, rfl⟩
  | some (.fail cause) => exact ⟨rfl, rfl, rfl⟩
  | some (.crash text) => exact ⟨rfl, rfl, rfl⟩

/-- No call moves the clock of the store. -/
theorem now_carried (call : StoreCall) :
    (w.carried index part mishap call).store.now = w.store.now := by
  cases call with
  | check key => rw [(carried_check ..).2.1]
  | write key value => rw [(carried_write ..).2.1]; split <;> rfl
  | scan pattern => rw [(carried_scan ..).2.1]
  | inspect key => rw [(carried_inspect ..).2.1]
  | delete keys => rw [(carried_delete ..).2.1]; split <;> rfl

end Carried

/-- How carrying out a call of a sweep, or its going wrong, shows in the log. -/
def event (w : Workplace) (index : Nat) (mishap : Option Mishap) : StoreCall → StoreEvent
  | .check key => .checked key (answer mishap (w.store.contains key))
  | .write key value => .written key value (answer mishap ())
  | .scan pattern => .scanned pattern (answer mishap ((w.scans index).next w.store).1)
  | .inspect key => .inspected key (answer mishap (w.store.ttl key))
  | .delete keys => .deleted keys (answer mishap (w.store.delete keys).1)

/-- The workplace after a turn and the entries of the sweeper's log for it. There is none if it
cannot be the turn of that move or call. -/
def step? (w : Workplace) : Turn → Option (Workplace × Sweeper.Log)
  | .own move =>
    if move.takesAnswer then none
    else (w.sweeper.recorded? move).map fun (sweeper, shown) => ({ w with sweeper }, shown)
  | .call index part mishap =>
    (w.waiting? index part).bind fun call =>
      let carried := w.carried index part mishap call
      (w.sweeper.recorded? (.sweep index carried.move)).map fun (sweeper, shown) =>
        (⟨sweeper, carried.store, Function.update w.scans index carried.scan⟩, shown)
  | .others command =>
    some ({ w with store := ((Session.ofStore w.store).run command).2.2.store }, [])

/-- The workplace after a sequence of turns, and the log of its sweeper. -/
abbrev run? : Workplace → List Turn → Option (Workplace × Sweeper.Log) := Execution.run? step?

/-- Settings for small cases: keys that start with an a and live longer than ten seconds are
deleted. -/
def smallSettings : Settings := .ofPattern "a*" 10

/-- A store for small cases: one key that lives for an hour. -/
def smallStore : Store := .seed [("a", "value", some (.ofSeconds 3600))]

/-- The turns of a sweep from its start to the moment at which its stages start. -/
def acquisition (index : Nat) : List Turn :=
  [.own .start, .own (.sweep index .begin), .call index .driver none, .call index .driver none]

/-- The turns of the stages of a sweep that find one key, until they wait for its deletion. -/
def onePass (index : Nat) : List Turn :=
  [.call index .scanner none, .own (.sweep index (.stage .offerCandidate)),
    .own (.sweep index (.stage .takeCandidate)), .call index .filter none,
    .own (.sweep index (.stage .offerMatch)), .own (.sweep index (.stage .takeMatch)),
    .call index .scanner none, .own (.sweep index (.stage .takeCandidate)),
    .own (.sweep index (.stage .takeMatch))]

/-- The ways in which a turn can come about. -/
inductive Turns (w : Workplace) : Turn → Workplace → Sweeper.Log → Prop where
  /-- The sweeper makes a move that needs no answer. -/
  | own (move : Sweeper.Move) (silent : move.takesAnswer = false) (sweeper : Sweeper)
      (shown : Sweeper.Log) (steps : Sweeper.Steps w.sweeper move sweeper shown) :
      Turns w (.own move) { w with sweeper } shown
  /-- A call is carried out, and the sweep goes on with the answer. -/
  | called (index : Nat) (part : Sweep.Part) (mishap : Option Mishap) (e : Engagement)
      (call : StoreCall) (sweeper : Sweeper) (shown : Sweeper.Log)
      (present : w.sweeper.engagements[index]? = some e)
      (pending : e.sweep.pending? w.sweeper.settings part = some call)
      (steps : Sweeper.Steps w.sweeper (.sweep index (w.carried index part mishap call).move)
        sweeper shown) :
      Turns w (.call index part mishap)
        ⟨sweeper, (w.carried index part mishap call).store,
          Function.update w.scans index (w.carried index part mishap call).scan⟩ shown
  /-- Another client does something. -/
  | others (command : SessionCommand) :
      Turns w (.others command)
        { w with store := ((Session.ofStore w.store).run command).2.2.store } []

variable {s : Settings} {w next : Workplace} {turn : Turn} {turns : List Turn}
variable {shown log : Sweeper.Log}

/-- Every turn comes about in one of these ways. -/
theorem turns_of_step? (stepped : w.step? turn = some (next, shown)) : Turns w turn next shown := by
  cases turn with
  | own move =>
    simp only [step?] at stepped
    split at stepped
    · cases stepped
    · next silent =>
      obtain ⟨⟨sweeper, entries⟩, made, result⟩ := Option.map_eq_some_iff.mp stepped
      obtain ⟨rfl, rfl⟩ := Prod.mk.inj result
      exact .own move (by simpa using silent) sweeper entries (Sweeper.steps_of_recorded? made)
  | call index part mishap =>
    obtain ⟨call, waits, went⟩ := Option.bind_eq_some_iff.mp stepped
    obtain ⟨e, present, pending⟩ := Option.bind_eq_some_iff.mp waits
    obtain ⟨⟨sweeper, entries⟩, made, result⟩ := Option.map_eq_some_iff.mp went
    obtain ⟨rfl, rfl⟩ := Prod.mk.inj result
    exact .called index part mishap e call sweeper entries present pending
      (Sweeper.steps_of_recorded? made)
  | others command =>
    obtain ⟨rfl, rfl⟩ := Prod.mk.inj (Option.some.inj stepped)
    exact .others command

/-- A call that is carried out has the sweep take up an answer. -/
theorem carried_takesAnswer {index : Nat} {part : Sweep.Part} {mishap : Option Mishap}
    {call : StoreCall} {sweep : Sweep} (waits : Sweep.Waits s sweep part call) :
    (w.carried index part mishap call).move.takesAnswer = true := by
  cases waits with
  | checking now => rw [(carried_check ..).1]; rfl
  | marking now => rw [(carried_write ..).1]; rfl
  | releasing now => rw [(carried_delete ..).1]; rfl
  | passed now => rw [(carried_delete ..).1]; rfl
  | asking p running now => rw [(carried_scan ..).1]; rfl
  | inspecting p key running now => rw [(carried_inspect ..).1]; rfl
  | deleting p batch waiting running now => rw [(carried_delete ..).1]; rfl

/-- A turn is no move of the sweeper, or it is one. -/
theorem recorded_of_turn (stepped : w.step? turn = some (next, shown)) :
    (next.sweeper = w.sweeper ∧ shown = []) ∨
      ∃ move, w.sweeper.recorded? move = some (next.sweeper, shown) := by
  cases turn with
  | own move =>
    simp only [step?] at stepped
    split at stepped
    · cases stepped
    · obtain ⟨⟨sweeper, entries⟩, made, result⟩ := Option.map_eq_some_iff.mp stepped
      obtain ⟨rfl, rfl⟩ := Prod.mk.inj result
      exact Or.inr ⟨move, made⟩
  | call index part mishap =>
    obtain ⟨call, -, went⟩ := Option.bind_eq_some_iff.mp stepped
    obtain ⟨⟨sweeper, entries⟩, made, result⟩ := Option.map_eq_some_iff.mp went
    obtain ⟨rfl, rfl⟩ := Prod.mk.inj result
    exact Or.inr ⟨_, made⟩
  | others command =>
    obtain ⟨rfl, rfl⟩ := Prod.mk.inj (Option.some.inj stepped)
    exact Or.inl ⟨rfl, rfl⟩

/-- What becomes of a sweep in a turn: nothing, or the fate that a move of its sweeper has for it. A
move of the sweep itself is either the one that was made without the store or takes up an answer. -/
theorem fate_of_turn (stepped : w.step? turn = some (next, shown)) :
    (next.sweeper = w.sweeper ∧ shown = [] ∧ ∃ command, turn = .others command) ∨
      ∃ move, Sweeper.Steps w.sweeper move next.sweeper shown ∧
        (turn = .own move ∨ (∀ move, turn ≠ .own move) ∧ move.takesAnswer = true) := by
  cases turns_of_step? stepped with
  | own move silent sweeper entries steps => exact Or.inr ⟨move, steps, Or.inl rfl⟩
  | called index part mishap e call sweeper entries present pending steps =>
    refine Or.inr ⟨_, steps, Or.inr ⟨fun _ => Turn.noConfusion, ?_⟩⟩
    exact carried_takesAnswer (Sweep.waits_of_pending? pending)
  | others command => exact Or.inl ⟨rfl, rfl, command, rfl⟩

/-- A sweep that takes up the answer of the workplace to a call of a part shows the call as that
part's, with that answer. -/
theorem event_of_answers {index : Nat} {site part : Sweep.Part} {mishap : Option Mishap}
    {call : StoreCall} {sweep : Sweep} {event : StoreEvent} (waits : Sweep.Waits s sweep site call)
    (answers : Sweep.Answers s sweep (w.carried index site mishap call).move part event) :
    part = site ∧ event = w.event index mishap call := by
  cases waits with
  | checking now =>
    rw [(carried_check ..).1] at answers
    cases answers
    exact ⟨rfl, rfl⟩
  | marking now =>
    rw [(carried_write ..).1] at answers
    cases answers
    exact ⟨rfl, rfl⟩
  | releasing now =>
    rw [(carried_delete ..).1] at answers
    cases answers
    exact ⟨rfl, rfl⟩
  | passed now =>
    rw [(carried_delete ..).1] at answers
    cases answers
    exact ⟨rfl, rfl⟩
  | asking p running now =>
    rw [(carried_scan ..).1] at answers
    cases answers
    exact ⟨rfl, rfl⟩
  | inspecting p key running now =>
    rw [(carried_inspect ..).1] at answers
    cases answers with
    | inspected answer q other running' inspecting =>
      obtain rfl := Work.running.inj (running.symm.trans running')
      obtain rfl := Filter.inspecting.inj (now.symm.trans inspecting)
      exact ⟨rfl, rfl⟩
  | deleting p batch waiting running now =>
    rw [(carried_delete ..).1] at answers
    cases answers with
    | deleted answer q other held running' deleting =>
      obtain rfl := Work.running.inj (running.symm.trans running')
      obtain ⟨rfl, -⟩ := Deleter.deleting.inj (now.symm.trans deleting)
      exact ⟨rfl, rfl⟩

/-- What a turn shows as called is the call of a part that waited for it, and it is answered as the
workplace answers. -/
theorem answers_of_turn (stepped : w.step? turn = some (next, shown)) {index : Nat}
    {part : Sweep.Part} {event : StoreEvent} (member : (index, part, .called event) ∈ shown) :
    ∃ mishap e call, turn = .call index part mishap ∧
      next.store = (w.carried index part mishap call).store ∧
      w.sweeper.engagements[index]? = some e ∧ Sweep.Waits w.sweeper.settings e.sweep part call ∧
      event = w.event index mishap call := by
  cases turns_of_step? stepped with
  | own move silent sweeper entries steps =>
    obtain ⟨inner, e, progress, rfl, present, made, among⟩ := Sweeper.moved_of_call steps member
    cases Sweep.answers_of_entry (Sweep.steps_of_step? made) among <;> cases silent
  | called other site mishap e call sweeper entries present pending steps =>
    obtain ⟨inner, found, progress, same, there, made, among⟩ := Sweeper.moved_of_call steps member
    obtain ⟨rfl, rfl⟩ := Sweeper.Move.sweep.inj same
    obtain rfl : e = found := Option.some.inj (present.symm.trans there)
    have waits := Sweep.waits_of_pending? pending
    have answers := Sweep.answers_of_entry (Sweep.steps_of_step? made) among
    obtain ⟨rfl, rfl⟩ := event_of_answers waits answers
    exact ⟨mishap, e, call, rfl, rfl, present, waits, rfl⟩
  | others command => cases member

/-- What holds of a new sweeper, and what every move of a sweeper keeps, holds of the sweeper of a
workplace. -/
theorem sweeper_along {holds : Sweeper → Prop} {store : Store} (begins : holds (.ofSettings s))
    (kept : ∀ c move next shown, holds c → Sweeper.Steps c move next shown → holds next)
    (ran : run? (opened s store) turns = some (w, log)) : holds w.sweeper := by
  refine Execution.induction_along (motive := fun _ w _ => holds w.sweeper) begins ?_ ran
  intro turns turn mid before next shown _ inductionHypothesis stepped
  rcases fate_of_turn stepped with ⟨same, -⟩ | ⟨move, steps, -⟩
  · rwa [same]
  · exact kept _ _ _ _ inductionHypothesis steps

/-- Whatever happens at a workplace, every sweep has come to its state in its own way. -/
theorem origins_along {store : Store} (ran : run? (opened s store) turns = some (w, log)) :
    w.sweeper.settings = s ∧ Sweeper.Origins w.sweeper log := by
  refine Execution.induction_along (motive := fun _ w log =>
    w.sweeper.settings = s ∧ Sweeper.Origins w.sweeper log) ⟨rfl, .fresh s⟩ ?_ ran
  rintro moves turn mid before after shown - ⟨same, origins⟩ stepped
  cases turns_of_step? stepped with
  | own move silent sweeper entries steps =>
    exact ⟨(Sweeper.settings_step steps).trans same, origins.step steps⟩
  | called index part mishap e call sweeper entries present pending steps =>
    exact ⟨(Sweeper.settings_step steps).trans same, origins.step steps⟩
  | others command => exact ⟨same, by rwa [List.append_nil]⟩

/-- What the sweeper can do without the store it can do in its turn, which leaves the store as it
is. -/
theorem step?_own {move : Sweeper.Move} {sweeper : Sweeper} (silent : move.takesAnswer = false)
    (made : w.sweeper.recorded? move = some (sweeper, shown)) :
    w.step? (.own move) = some ({ w with sweeper }, shown) := by
  simp only [step?, silent, Bool.false_eq_true, if_false, made, Option.map_some]

/-- A sweep that can make a move without the store has its turn, which leaves the store as it is. -/
theorem own_step {index : Nat} {e : Engagement} {move : Sweep.Move} {progress : Sweep.Progress}
    (present : w.sweeper.engagements[index]? = some e) (silent : move.takesAnswer = false)
    (made : e.sweep.step? w.sweeper.settings move = some progress) :
    ∃ next shown, w.step? (.own (.sweep index move)) = some (next, shown) ∧
      next.store = w.store ∧ next.sweeper.settings = w.sweeper.settings ∧
      next.sweeper.engagements[index]? = some { e with sweep := progress.sweep } := by
  refine ⟨{ w with sweeper := { w.sweeper.replace index { e with sweep := progress.sweep } with
    slot := w.sweeper.heard progress.slot } },
    (Sweep.entries move progress.effects).map fun entry => (index, entry), ?_, rfl, rfl,
    List.getElem?_set_self (List.getElem?_eq_some_iff.mp present).1⟩
  exact step?_own silent (Sweeper.recorded?_moved present made)

/-- Whatever comes back from a call, the sweep that waits for it can go on with it. -/
theorem call_possible (w : Workplace) (index : Nat) (mishap : Option Mishap) {part : Sweep.Part}
    {call : StoreCall} {sweep : Sweep} (waits : Sweep.Waits s sweep part call) :
    ∃ progress, sweep.step? s (w.carried index part mishap call).move = some progress := by
  cases waits with
  | checking now =>
    rw [(carried_check ..).1]
    exact ⟨_, by simp only [Sweep.step?, now]; rfl⟩
  | marking now =>
    rw [(carried_write ..).1]
    exact ⟨_, by simp only [Sweep.step?, now]; rfl⟩
  | releasing now =>
    rw [(carried_delete ..).1]
    exact ⟨_, by simp only [Fleet.deletionMove, Sweep.step?, now]; rfl⟩
  | passed now =>
    rw [(carried_delete ..).1]
    exact ⟨_, by simp only [Fleet.deletionMove, Sweep.step?, now]; rfl⟩
  | asking p running now =>
    rw [(carried_scan ..).1]
    exact ⟨_, by simp only [Sweep.step?, running, Pipeline.step?, now, Option.map_some]; rfl⟩
  | inspecting p key running now =>
    rw [(carried_inspect ..).1]
    exact ⟨_, by simp only [Sweep.step?, running, Pipeline.step?, now, Option.map_some]; rfl⟩
  | deleting p batch waiting running now =>
    rw [(carried_delete ..).1]
    exact ⟨_, by
      simp only [Fleet.deletionMove, Sweep.step?, running, Pipeline.step?, now,
        Option.map_some]; rfl⟩

/-- A call that a part waits for can be carried out at any time. -/
theorem call_step {index : Nat} {part : Sweep.Part} {mishap : Option Mishap} {e : Engagement}
    {call : StoreCall} {progress : Sweep.Progress}
    (present : w.sweeper.engagements[index]? = some e)
    (pending : e.sweep.pending? w.sweeper.settings part = some call)
    (made : e.sweep.step? w.sweeper.settings (w.carried index part mishap call).move =
      some progress) :
    ∃ next shown, w.step? (.call index part mishap) = some (next, shown) ∧
      next.store = (w.carried index part mishap call).store ∧
      next.sweeper.settings = w.sweeper.settings ∧
      next.sweeper.engagements[index]? = some { e with sweep := progress.sweep } := by
  refine ⟨⟨{ w.sweeper.replace index { e with sweep := progress.sweep } with
    slot := w.sweeper.heard progress.slot }, (w.carried index part mishap call).store,
    Function.update w.scans index (w.carried index part mishap call).scan⟩,
    (Sweep.entries (w.carried index part mishap call).move progress.effects).map
      fun entry => (index, entry), ?_, rfl, rfl,
        List.getElem?_set_self (List.getElem?_eq_some_iff.mp present).1⟩
  simp only [step?, waiting?, present, Option.bind_some, pending,
    Sweeper.recorded?_moved present made, Option.map_some]

end Workplace

end KeySweeper
