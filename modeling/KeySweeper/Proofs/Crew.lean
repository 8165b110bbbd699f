import KeySweeper.Proofs.Deletion
import KeySweeper.Proofs.LastCall
import KeySweeper.Proofs.Occupancy
import KeySweeper.Proofs.Presence

/-!
# Crews

Any number of sweepers at work on one store, each as at a workplace of its own. In one turn one
member of the crew has a turn at its workplace, and all others see what it did to the store. The
turns of the members come in any order, and so do those of the sweeps of each member.

The calls of a crew are the completed store calls of all sweeps in one sequence. What is known of
all executions of a sweeper is known of every member, because its share of what happens is an
execution of its own.
-/

namespace KeySweeper

/-- Sweepers that share a store, with the scans of their sweeps. -/
structure Crew where
  /-- The sweepers. -/
  sweepers : Nat → Sweeper
  /-- The store that they share. -/
  store : Store
  /-- The scan of each sweep of each sweeper. -/
  scans : Nat → Nat → Scan

namespace Crew

/-- Sweepers that never ran, with a store. -/
def opened (settings : Nat → Settings) (store : Store) : Crew :=
  ⟨fun member => .ofSettings (settings member), store, fun member _ =>
    .fresh (settings member).pattern⟩

/-- The workplace of one member. -/
def view (crew : Crew) (member : Nat) : Workplace :=
  ⟨crew.sweepers member, crew.store, crew.scans member⟩

/-- The crew once one member has left its workplace like this. -/
def withView (crew : Crew) (member : Nat) (w : Workplace) : Crew :=
  ⟨Function.update crew.sweepers member w.sweeper, w.store,
    Function.update crew.scans member w.scans⟩

/-- A turn of one of the members. -/
abbrev Turn := Nat × Workplace.Turn

/-- What happens in a crew: the entries of the logs of its sweepers, each with its member. -/
abbrev Log := List (Nat × Nat × Sweep.Part × Effect)

/-- The crew after a turn and the entries of its log for it. -/
def step? (crew : Crew) (turn : Turn) : Option (Crew × Log) :=
  ((crew.view turn.1).step? turn.2).map fun (w, shown) =>
    (crew.withView turn.1 w, shown.map fun entry => (turn.1, entry))

/-- The crew after a sequence of turns, and its log. -/
abbrev run? : Crew → List Turn → Option (Crew × Log) := Execution.run? step?

/-- A completed store call of a sweep, which is known by its member and its index there. -/
structure Call where
  /-- The sweep that made the call. -/
  who : Nat × Nat
  /-- The part of the sweep that made it. -/
  part : Sweep.Part
  /-- The call with its answer. -/
  event : StoreEvent
deriving DecidableEq, Repr

/-- The completed store calls in a log, in order. -/
def calls (log : Log) : List Call :=
  log.filterMap fun entry => entry.2.2.2.call?.map fun event =>
    ⟨(entry.1, entry.2.1), entry.2.2.1, event⟩

@[simp] theorem calls_append (log later : Log) : calls (log ++ later) = calls log ++ calls later :=
  List.filterMap_append

/-- The share of one member in a log. -/
def share (member : Nat) (log : Log) : Sweeper.Log :=
  (log.filter fun entry => entry.1 == member).map (·.2)

@[simp] theorem share_append (member : Nat) (log later : Log) :
    share member (log ++ later) = share member log ++ share member later := by
  simp only [share, List.filter_append, List.map_append]

/-- What a member shows belongs to its share and to no other. -/
theorem share_tagged (member other : Nat) (shown : Sweeper.Log) :
    share member (shown.map fun entry => (other, entry)) = if other = member then
      shown else [] := by
  simp only [share, List.filter_map, List.map_map, Function.comp_def, List.map_id']
  by_cases same : other = member
  · rw [if_pos same, List.filter_eq_self.mpr fun _ _ => beq_iff_eq.mpr same]
  · rw [if_neg same, List.filter_eq_nil_iff.mpr fun _ _ equal => same (beq_iff_eq.mp equal)]

/-- A call of a sweep stands in the trail of the sweep in the share of its member. -/
theorem mem_trail_share {member index : Nat} {log : Log} {part : Sweep.Part} {event : StoreEvent} :
    (part, event) ∈ Sweeper.trail index (share member log) ↔
      (⟨(member, index), part, event⟩ : Call) ∈ calls log := by
  rw [Sweeper.trail, Sweep.mem_trail, Sweeper.mem_chronicle]
  simp only [share, calls, List.mem_map, List.mem_filter, beq_iff_eq, List.mem_filterMap,
    Option.map_eq_some_iff, Call.mk.injEq, Prod.mk.injEq]
  constructor
  · rintro ⟨⟨other, entry⟩, ⟨present, rfl⟩, rfl⟩
    exact ⟨_, present, event, rfl, ⟨rfl, rfl⟩, rfl, rfl⟩
  · rintro ⟨⟨other, place, site, effect⟩, present, shown, read, ⟨rfl, rfl⟩, rfl, rfl⟩
    cases effect with
    | called same => cases read; exact ⟨_, ⟨present, rfl⟩, rfl⟩
    | logged line => cases read

/-- The entries of one move of a sweep show the calls of the move. -/
theorem calls_moved (member index : Nat) (move : Sweep.Move) (shown : List Effect) :
    calls (((Sweep.entries move shown).map fun entry => (index, entry)).map fun entry =>
      (member, entry)) =
      (KeySweeper.calls shown).map fun event => ⟨(member, index), move.part, event⟩ := by
  simp only [calls, Sweep.entries, KeySweeper.calls, List.filterMap_map, List.map_filterMap,
    Function.comp_def]

/-- The ways in which a turn can come about, with the calls that it completes. -/
inductive Turns (crew : Crew) : Turn → Crew → List Call → Prop where
  /-- A sweeper makes a move that needs no answer. -/
  | own (member : Nat) (move : Sweeper.Move) (silent : move.takesAnswer = false) (sweeper : Sweeper)
      (shown : Sweeper.Log) (steps : Sweeper.Steps (crew.sweepers member) move sweeper shown) :
      Turns crew (member, .own move) (crew.withView member { crew.view member with sweeper }) []
  /-- A call is carried out, and the sweep goes on with the answer. -/
  | called (member index : Nat) (part : Sweep.Part) (mishap : Option Mishap) (e : Engagement)
      (call : StoreCall) (sweeper : Sweeper) (shown : Sweeper.Log)
      (present : (crew.sweepers member).engagements[index]? = some e)
      (pending : e.sweep.pending? (crew.sweepers member).settings part = some call)
      (steps : Sweeper.Steps (crew.sweepers member)
        (.sweep index ((crew.view member).carried index part mishap call).move) sweeper shown) :
      Turns crew (member, .call index part mishap)
        (crew.withView member ⟨sweeper, ((crew.view member).carried index part mishap call).store,
          Function.update (crew.scans member) index
            ((crew.view member).carried index part mishap call).scan⟩)
        [⟨(member, index), part, (crew.view member).event index mishap call⟩]
  /-- Another client does something. -/
  | others (member : Nat) (command : SessionCommand) :
      Turns crew (member, .others command)
        (crew.withView member { crew.view member with
          store := ((Session.ofStore crew.store).run command).2.2.store }) []

variable {settings : Nat → Settings} {store : Store} {crew next : Crew} {turn : Turn}
variable {turns : List Turn} {shown log : Log}

/-- A turn of a crew is a turn of one member at its workplace. -/
theorem step?_eq_some {member : Nat} {own : Workplace.Turn}
    (stepped : crew.step? (member, own) = some (next, shown)) :
    ∃ w entries, (crew.view member).step? own = some (w, entries) ∧ next = crew.withView member w ∧
      shown = entries.map fun entry => (member, entry) := by
  obtain ⟨⟨w, entries⟩, made, result⟩ := Option.map_eq_some_iff.mp stepped
  obtain ⟨rfl, rfl⟩ := Prod.mk.inj result
  exact ⟨w, entries, made, rfl, rfl⟩

/-- A move of a sweeper that needs no answer completes no call. -/
theorem calls_of_silent {c after : Sweeper} {move : Sweeper.Move} {entries : Sweeper.Log}
    (member : Nat) (steps : Sweeper.Steps c move after entries)
    (silent : move.takesAnswer = false) :
    calls (entries.map fun entry => (member, entry)) = [] := by
  cases steps with
  | moved index inner e progress present made =>
    rw [calls_moved, Sweep.calls_of_silent (Sweep.steps_of_step? made) silent, List.map_nil]
  | _ => rfl

/-- Every turn comes about in one of these ways. -/
theorem turns_of_step? (stepped : crew.step? turn = some (next, shown)) :
    Turns crew turn next (calls shown) := by
  obtain ⟨member, own⟩ := turn
  obtain ⟨w, entries, made, rfl, rfl⟩ := step?_eq_some stepped
  cases Workplace.turns_of_step? made with
  | own move silent sweeper _ steps =>
    rw [calls_of_silent member steps silent]
    exact .own member move silent sweeper entries steps
  | called index part mishap e call sweeper _ present pending steps =>
    have waits := Sweep.waits_of_pending? pending
    have takes : ((crew.view member).carried index part mishap call).move.takesAnswer = true :=
      Workplace.carried_takesAnswer waits
    have shows : calls (entries.map fun entry => (member, entry)) =
        [⟨(member, index), part, (crew.view member).event index mishap call⟩] := by
      cases steps with
      | moved _ inner f progress there went =>
        obtain ⟨event, one, answers⟩ := Sweep.call_of_answer (Sweep.steps_of_step? went) takes
        obtain rfl : e = f := Option.some.inj (present.symm.trans there)
        obtain ⟨site, same⟩ := Workplace.event_of_answers waits answers
        rw [calls_moved, one, List.map_singleton, site, same]
    rw [shows]
    exact .called member index part mishap e call sweeper entries present pending steps
  | others command => exact .others member command

@[simp] theorem withView_self (crew : Crew) (member : Nat) (w : Workplace) :
    (crew.withView member w).sweepers member = w.sweeper := Function.update_self ..

/-- A turn of one member leaves the others alone. -/
theorem withView_other (crew : Crew) {member other : Nat} (w : Workplace)
    (different : other ≠ member) :
    (crew.withView member w).sweepers other = crew.sweepers other :=
  Function.update_of_ne different ..

/-- What happens to one member in a turn of the crew: nothing, or a move of its own. -/
theorem recorded_of_step (stepped : crew.step? turn = some (next, shown)) (member : Nat) :
    (next.sweepers member = crew.sweepers member ∧ share member shown = []) ∨
      ∃ move, (crew.sweepers member).recorded? move =
        some (next.sweepers member, share member shown) := by
  obtain ⟨mover, own⟩ := turn
  obtain ⟨w, entries, made, rfl, rfl⟩ := step?_eq_some stepped
  rw [share_tagged]
  by_cases same : mover = member
  · subst same
    rw [if_pos rfl, withView_self]
    exact Workplace.recorded_of_turn made
  · rw [if_neg same, withView_other crew w (Ne.symm same)]
    exact Or.inl ⟨rfl, rfl⟩

/-- The share of a member is the log of an execution of its own. -/
theorem member_along (ran : run? (opened settings store) turns = some (crew, log)) (member : Nat) :
    ∃ moves, Sweeper.run? (.ofSettings (settings member)) moves =
      some (crew.sweepers member, share member log) := by
  refine Execution.induction_along (motive := fun _ crew log => ∃ moves,
    Sweeper.run? (.ofSettings (settings member)) moves =
      some (crew.sweepers member, share member log)) ⟨[], rfl⟩ ?_ ran
  rintro turns turn mid before next shown - ⟨moves, led⟩ stepped
  rcases recorded_of_step stepped member with ⟨same, silent⟩ | ⟨move, made⟩
  · exact ⟨moves, by rw [share_append, silent, List.append_nil, same, led]⟩
  · refine ⟨moves ++ [move], Execution.run?_concat_iff.mpr ⟨_, _, _, led, made, ?_⟩⟩
    rw [share_append]

/-- Every member was told what it was told at the start. -/
theorem settings_along (ran : run? (opened settings store) turns = some (crew, log))
    (member : Nat) :
    (crew.sweepers member).settings = settings member := by
  obtain ⟨moves, led⟩ := member_along ran member
  exact (Sweeper.passages_along led).1

/-- Every sweep of a crew is somewhere on its passage. -/
theorem passage_along (ran : run? (opened settings store) turns = some (crew, log))
    {member index : Nat} {e : Engagement}
    (present : (crew.sweepers member).engagements[index]? = some e) :
    ∃ issued, Sweep.Passage (settings member) e.sweep (Sweeper.trail index (share member log))
      issued := by
  obtain ⟨moves, led⟩ := member_along ran member
  obtain ⟨same, passages⟩ := Sweeper.passages_along led
  exact ⟨_, same ▸ passages.asked index e present⟩

/-- At most one sweep of each member is engaged. -/
theorem alone_along (ran : run? (opened settings store) turns = some (crew, log)) {member i j : Nat}
    {e f : Engagement} (present : (crew.sweepers member).engagements[i]? = some e)
    (other : (crew.sweepers member).engagements[j]? = some f)
    (engaged : e.sweep.driver.isEngaged = true) (too : f.sweep.driver.isEngaged = true) :
    i = j := by
  obtain ⟨moves, led⟩ := member_along ran member
  exact (Sweeper.occupancy_along led).tenancy.alone present other engaged too

/-- A sweep that shows a call was asked for. -/
theorem engagement_of_call (ran : run? (opened settings store) turns = some (crew, log))
    {call : Call} (member : call ∈ calls log) :
    ∃ e, (crew.sweepers call.who.1).engagements[call.who.2]? = some e := by
  obtain ⟨moves, led⟩ := member_along ran call.who.1
  obtain ⟨-, origins⟩ := Sweeper.origins_of_run led
  have shown := Sweeper.mem_chronicle.mp (Sweep.mem_trail.mp (mem_trail_share.mpr member))
  exact ⟨_, List.getElem?_eq_getElem (origins.known _ shown)⟩

/-- A key in a batch that a sweep is about to delete was found to expire. -/
theorem inspected_of_pending (ran : run? (opened settings store) turns = some (crew, log))
    {member index : Nat} {e : Engagement}
    (present : (crew.sweepers member).engagements[index]? = some e) {batch : List String}
    (pending : e.sweep.pending? (crew.sweepers member).settings .deleter = some (.delete batch))
    {key : String} (among : key ∈ batch) :
    ∃ call ∈ calls log, ∃ left, call.event = .inspected key (.value (.expires left)) := by
  obtain ⟨moves, led⟩ := member_along ran member
  obtain ⟨same, origins⟩ := Sweeper.origins_of_run led
  obtain ⟨before, between, after, left, -, split⟩ :=
    origins.cleared_of_pending present pending key among
  have shown : .inspected key (.value (.expires left)) ∈
      Sweep.stageCalls (Sweeper.chronicle index (share member log)) := by
    rw [split]
    simp
  obtain ⟨part, -, listed⟩ := Sweep.mem_callsBy.mp shown
  exact ⟨_, mem_trail_share.mp (Sweep.mem_trail.mpr listed), left, rfl⟩

end Crew

end KeySweeper
