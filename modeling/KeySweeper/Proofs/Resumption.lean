import KeySweeper.Proofs.Occupancy
import KeySweeper.Proofs.Undisturbed
import Mathlib.Data.List.Basic

/-!
# What a stopped sweep leaves to the next one

A sweep that is told to wind down, by a stop request or through its caller's flag, at any moment and
however often. It still ends after a bounded number of turns, and it does nothing by halves: each
key that it was to delete is either deleted and counted, or stands in the store as before. A later
sweep with the same settings, of the same sweeper or of another one, finds what is left and deletes
it. Both together delete and count what one sweep would have that was not told to wind down.

The store is described by its live entries. The keys that the first sweep took out are named in a
list, and the rest is a calculation with that list.
-/

namespace KeySweeper

namespace Store

variable {s : Settings} {before after : Store} {gone : List String}

/-- The store `after` is what a sweep has left of the store `before` when it took out the keys
`gone`: each of them once, each one that it was to delete, and nothing else. -/
structure Thinned (s : Settings) (before : Store) (gone : List String) (after : Store) : Prop where
  once : gone.Nodup
  doomed : ∀ key ∈ gone, before.contains key = true ∧ s.dooms before key = true
  live : after.liveEntries = before.liveEntries.filter fun item => !gone.contains item.1
  free : after.contains s.guardKey = false
  now : after.now = before.now

/-- The lifetime of a live entry is told by the entry and the time. -/
theorem ttl_of_live {item : String × StoreEntry} (live : item ∈ before.liveEntries) :
    before.ttl item.1 = item.2.ttl before.now := by
  have present := mem_liveEntries.mp live
  simp only [live?, Option.filter_eq_some_iff] at present
  simp only [ttl, present.1]

/-- A key that is left is to be deleted if it was to be deleted before. -/
theorem Thinned.dooms_left (thinned : Thinned s before gone after) {item : String × StoreEntry}
    (live : item ∈ after.liveEntries) : s.dooms after item.1 = s.dooms before item.1 := by
  have earlier := live
  rw [thinned.live] at earlier
  simp only [Settings.dooms, ttl_of_live live, ttl_of_live (List.mem_filter.mp earlier).1,
    thinned.now]

/-- The keys that are left to delete and those that were taken out are those that were to be
deleted. -/
theorem Thinned.length_left (thinned : Thinned s before gone after) :
    gone.length + (after.liveEntries.filter fun item => s.dooms after item.1).length =
      (before.liveEntries.filter fun item => s.dooms before item.1).length := by
  have left : (after.liveEntries.filter fun item => s.dooms after item.1) =
      (before.liveEntries.filter fun item => s.dooms before item.1).filter fun item =>
        !gone.contains item.1 := by
    rw [List.filter_congr fun item live => thinned.dooms_left live, thinned.live,
      List.filter_filter, List.filter_filter]
    exact List.filter_congr fun item _ => Bool.and_comm ..
  have taken : ((before.liveEntries.filter fun item => s.dooms before item.1).filter fun item =>
      gone.contains item.1).length = gone.length := by
    -- Neither list has a key twice, so it is enough that they have the same keys.
    rw [← List.length_map (·.1)]
    refine List.Perm.length_eq ((List.perm_ext_iff_of_nodup ?_ thinned.once).mpr fun key => ?_)
    · exact before.nodup_liveEntries.sublist ((List.filter_sublist.trans List.filter_sublist).map _)
    · simp only [List.mem_map, List.mem_filter, List.contains_iff_mem]
      constructor
      · rintro ⟨item, ⟨-, among⟩, rfl⟩
        exact among
      · intro among
        obtain ⟨found, doomed⟩ := thinned.doomed key among
        obtain ⟨entry, live⟩ := Option.isSome_iff_exists.mp found
        exact ⟨(key, entry), ⟨⟨mem_liveEntries.mpr live, doomed⟩, among⟩, rfl⟩
  rw [left, ← taken, ← List.length_eq_length_filter_add]

/-- The entries that are left, less those that are to be deleted, are the entries from before less
those that were to be deleted. -/
theorem Thinned.spared (thinned : Thinned s before gone after) :
    (after.liveEntries.filter fun item => !s.dooms after item.1) =
      before.liveEntries.filter fun item => !s.dooms before item.1 := by
  rw [List.filter_congr fun item live => congrArg (!·) (thinned.dooms_left live), thinned.live,
    List.filter_filter]
  refine List.filter_congr fun item live => ?_
  cases doomed : s.dooms before item.1 with
  | true => rfl
  | false =>
    have kept : item.1 ∉ gone := fun taken => by
      rw [(thinned.doomed item.1 taken).2] at doomed
      cases doomed
    simp [kept]

/-- If every key that was to be deleted was taken out, as many were, and nothing that is left is to
be deleted. -/
theorem Thinned.complete (thinned : Thinned s before gone after)
    (all : ∀ key, before.contains key = true → s.dooms before key = true → key ∈ gone) :
    gone.length = (before.liveEntries.filter fun item => s.dooms before item.1).length ∧
      after.liveEntries = before.liveEntries.filter fun item => !s.dooms before item.1 := by
  have spared (item : String × StoreEntry) (live : item ∈ after.liveEntries) :
      s.dooms after item.1 = false := by
    by_contra doomed
    have earlier := live
    rw [thinned.live, List.mem_filter] at earlier
    have found : before.contains item.1 = true := by
      simp only [contains, mem_liveEntries.mp earlier.1, Option.isSome_some]
    have taken := all item.1 found (by rw [← thinned.dooms_left live]; simpa using doomed)
    simp [taken] at earlier
  constructor
  · have count := thinned.length_left
    rwa [List.filter_eq_nil_iff.mpr fun item live =>
      by simp [spared item live], List.length_nil, Nat.add_zero] at count
  · rw [← thinned.spared, List.filter_eq_self.mpr fun item live => by simp [spared item live]]

end Store

namespace Sweeper

variable {c next : Sweeper} {move : Move} {shown : Log} {index : Nat}

/-- No sweep but the one at this index holds an unfinished claim. -/
def IsAlone (c : Sweeper) (index : Nat) : Prop :=
  ∀ (i : Nat) (e : Engagement), c.engagements[i]? = some e → e.IsUnfinished → i = index

/-- The moves of the sweep at an index, and those that tell sweeps to wind down. -/
inductive Move.IsLocal (index : Nat) : Move → Prop where
  /-- The sweep moves. -/
  | sweep (inner : Sweep.Move) : IsLocal index (.sweep index inner)
  /-- The sweep gives up its claim. -/
  | giveUp : IsLocal index (.giveUp index)
  /-- The current sweep is told to wind down. -/
  | stop : IsLocal index .stop
  /-- A caller's flag is raised. -/
  | cancelCaller (caller : Nat) : IsLocal index (.cancelCaller caller)

/-- A sweep that is engaged is alone. -/
theorem Occupancy.alone (occupancy : Occupancy c) {e : Engagement}
    (present : c.engagements[index]? = some e)
    (engaged : e.sweep.driver.isEngaged = true) : IsAlone c index := by
  intro i other there unfinished
  have held := (occupancy.tenancy.current index e present engaged).1
  exact occupancy.tenancy.unique i index other e _ there present
    ((occupancy.fits i other there).unfinished unfinished).1 held

/-- A sweep that is alone stays alone as long as nobody else makes a claim. -/
theorem IsAlone.step (alone : IsAlone c index) (steps : Steps c move next shown)
    (own : move.IsLocal index) :
    IsAlone next index := by
  intro i after there unfinished
  have fate := fate_of_steps steps there
  generalize chronicle i shown = added at fate
  generalize before : c.engagements[i]? = old at fate
  -- Being told to wind down leaves the claim and the driver as they are; all else happens to the
  -- sweep at the index.
  cases fate with
  | spared => exact alone i after before unfinished
  | told _ e => exact alone i e before unfinished
  | requested => cases own
  | started => cases own
  | admitted => cases own
  | refused => cases own
  | moved => cases own; rfl
  | gaveUp => cases own; rfl

/-- Once a sweep that was alone has reported, its sweeper is free. -/
theorem Occupancy.idle_of_alone (occupancy : Occupancy c) (alone : IsAlone c index) {e : Engagement}
    (present : c.engagements[index]? = some e) (reported : e.sweep.driver.hasReported = true) :
    c.slot.phase.isActive = false := by
  by_contra active
  obtain ⟨i, ⟨other, there, unfinished⟩, -⟩ := occupancy.active_iff.mp (by simpa using active)
  obtain rfl := alone i other there unfinished
  obtain rfl := Option.some.inj (present.symm.trans there)
  rw [unfinished.2] at reported
  cases reported

end Sweeper

namespace Workplace

/-- The turns in which a sweep is told to wind down: a stop request, or a caller's flag is
raised. -/
inductive Signal : Turn → Prop where
  /-- The current sweep is told to wind down. -/
  | stop : Signal (.own .stop)
  /-- A caller's flag is raised. -/
  | cancelCaller (caller : Nat) : Signal (.own (.cancelCaller caller))

/-- Whether a sweep is told to wind down in a turn. -/
def Turn.isSignal : Turn → Bool
  | .own .stop => true
  | .own (.cancelCaller _) => true
  | _ => false

variable {s : Settings} {w next : Workplace} {turn : Turn} {turns : List Turn}
  {shown log : Sweeper.Log}
variable {index : Nat} {e : Engagement} {base : Store} {told : Bool}

/-- It can be read off a turn whether a sweep is told to wind down in it. -/
theorem signal_iff : Signal turn ↔ turn.isSignal = true := by
  constructor
  · intro signal
    cases signal with
    | stop => rfl
    | cancelCaller caller => rfl
  · intro told
    unfold Turn.isSignal at told
    split at told
    · exact .stop
    · exact .cancelCaller _
    · cases told

instance (turn : Turn) : Decidable (Signal turn) := decidable_of_iff _ signal_iff.symm

/-- A turn of a sweep, or one in which it is told to wind down, is a local move of its sweeper. -/
theorem local_of_turn (turned : Undisturbed index turn ∨ Signal turn)
    (stepped : w.step? turn = some (next, shown)) :
    ∃ move, Sweeper.Steps w.sweeper move next.sweeper shown ∧ move.IsLocal index := by
  cases turns_of_step? stepped with
  | own move silent sweeper shown steps =>
    refine ⟨move, steps, ?_⟩
    rcases turned with undisturbed | signal
    · cases undisturbed with
      | moves part inner inside => exact .sweep inner
      | givesUp => exact .giveUp
    · cases signal with
      | stop => exact .stop
      | cancelCaller caller => exact .cancelCaller caller
  | called other part mishap f call sweeper shown there pending steps =>
    refine ⟨_, steps, ?_⟩
    rcases turned with undisturbed | signal
    · cases undisturbed
      exact .sweep _
    · cases signal
  | others command =>
    rcases turned with undisturbed | signal
    · cases undisturbed
    · cases signal

/-- A sweep that may have been told to wind down in a turn is where it was, and has as many turns
left. -/
theorem Attended.signalled (attended : Attended s base told w index e) (signal : Signal turn)
    (stepped : w.step? turn = some (next, shown)) :
    ∃ later after, Attended s base later next index after ∧
      next.ahead s base index after = w.ahead s base index e := by
  obtain ⟨settings, present, absent, calm⟩ := attended
  cases turns_of_step? stepped with
  | own move silent sweeper shown steps =>
    obtain ⟨after, there, fate⟩ := Sweeper.persists steps present
    generalize Sweeper.chronicle index shown = added at fate
    have same : sweeper.settings = s := (Sweeper.settings_step steps).trans settings
    cases fate with
    | spared => exact ⟨told, e, ⟨same, there, absent, calm⟩, rfl⟩
    | told =>
      refine ⟨true, Sweeper.cancelSweep e, ⟨same, there, absent, calm.cancelled⟩, ?_⟩
      simp only [ahead, Sweep.Scene.ahead, scene, Sweeper.cancelSweep, Work.ahead_cancel]
    | _ => cases signal
  | called => cases signal
  | others => cases signal

/-- Whenever a sweep is told to wind down, every other turn uses up one of the turns that it had
before it. -/
theorem signalled_along (attended : Attended s base told w index e)
    (free : base.contains s.guardKey = false)
    (turned : ∀ turn ∈ turns, Undisturbed index turn ∨ Signal turn)
    (ran : run? w turns = some (next, log)) :
    ∃ later after, Attended s base later next index after ∧
      turns.countP (·.isUndisturbed index) + next.ahead s base index after ≤
        w.ahead s base index e := by
  refine Execution.induction_along (motive := fun turns next _ =>
    (∀ turn ∈ turns, Undisturbed index turn ∨ Signal turn) →
    ∃ later after, Attended s base later next index after ∧
      turns.countP (·.isUndisturbed index) + next.ahead s base index after ≤ w.ahead s base index e)
    ?_ ?_ ran turned
  · exact fun _ => ⟨told, e, attended, Nat.le_of_eq (Nat.zero_add _)⟩
  · intro turns turn mid before next shown _ inductionHypothesis stepped turned
    obtain ⟨between, old, there, spent⟩ :=
      inductionHypothesis fun turn member => turned turn (List.mem_append_left _ member)
    rw [List.countP_append, List.countP_singleton]
    rcases turned turn (List.mem_append_right _ (List.mem_singleton_self turn)) with
      undisturbed | signal
    · obtain ⟨after, then_, fewer⟩ := there.step free undisturbed stepped
      refine ⟨between, after, then_, ?_⟩
      rw [if_pos (undisturbed_iff.mp undisturbed)]
      omega
    · obtain ⟨later, after, then_, same⟩ := there.signalled signal stepped
      refine ⟨later, after, then_, ?_⟩
      have own : turn.isUndisturbed index = false := by cases signal <;> rfl
      rw [own, same]
      simpa using spent

/-- A sweep that is alone stays alone whatever it does and whenever it is told to wind down. -/
theorem alone_along (alone : w.sweeper.IsAlone index)
    (turned : ∀ turn ∈ turns, Undisturbed index turn ∨ Signal turn)
    (ran : run? w turns = some (next, log)) : next.sweeper.IsAlone index := by
  refine Execution.induction_along (motive := fun turns next _ =>
    (∀ turn ∈ turns, Undisturbed index turn ∨ Signal turn) → next.sweeper.IsAlone index)
    (fun _ => alone) ?_ ran turned
  intro turns turn mid before next shown _ inductionHypothesis stepped turned
  have turn_turned := turned turn (List.mem_append_right _ (List.mem_singleton_self turn))
  obtain ⟨move, steps, own⟩ := local_of_turn turn_turned stepped
  exact (inductionHypothesis fun turn member =>
    turned turn (List.mem_append_left _ member)).step steps own

/-- Whatever happens at a workplace, the slot and the sweeps of its sweeper belong together. -/
theorem occupancy_along {store : Store} (ran : run? (opened s store) turns = some (w, log)) :
    Sweeper.Occupancy w.sweeper :=
  sweeper_along (.fresh s) (fun _ _ _ _ occupancy steps => occupancy.step steps) ran

/-- How far a sweep can have come that was asked for at a workplace and claimed its sweeper: it took
these turns, and nobody else did anything, except that a sweep which may be stopped was told to wind
down in between. -/
structure Course (stoppable : Bool) (w : Workplace) (turns : List Turn)
    (next : Workplace) : Prop where
  went : ∃ entrance log, Entrance w.sweeper.engagements.length entrance ∧
    run? w (entrance ++ turns) = some (next, log)
  turned : ∀ turn ∈ turns,
    Undisturbed w.sweeper.engagements.length turn ∨ stoppable = true ∧ Signal turn

/-- What a sweep achieves that is asked for at a workplace: it can claim the sweeper in each of the
ways in which it can be asked for, it takes no more turns than a fixed number for each live key, it
has a turn that it can take as long as it is not over, and then it has completed with this
result. -/
structure Achieves (stoppable : Bool) (w : Workplace)
    (result : Workplace → SweepReport → Prop) : Prop where
  enters : ∀ entrance, Entrance w.sweeper.engagements.length entrance →
    ∃ started log, run? w entrance = some (started, log)
  bounded : ∀ turns next, Course stoppable w turns next →
    turns.countP (·.isUndisturbed w.sweeper.engagements.length) ≤ 7 * w.store.size + 20
  onward : ∀ turns next, Course stoppable w turns next →
    next.sweeper.outcome? w.sweeper.engagements.length = none →
      ∃ turn, Undisturbed w.sweeper.engagements.length turn ∧ (next.step? turn).isSome = true
  completes : ∀ turns next outcome, Course stoppable w turns next →
    next.sweeper.outcome? w.sweeper.engagements.length = some outcome →
      ∃ report, outcome = .completed report ∧ result next report

/-- A sweep achieves whatever follows from what it achieves. -/
theorem Achieves.imp {stoppable : Bool} {result weaker : Workplace → SweepReport → Prop}
    (achieves : Achieves stoppable w result) (follows : ∀ next report, result next report →
      weaker next report) :
    Achieves stoppable w weaker where
  enters := achieves.enters
  bounded := achieves.bounded
  onward := achieves.onward
  completes turns next outcome course reached := by
    obtain ⟨report, completed, holds⟩ := achieves.completes turns next outcome course reached
    exact ⟨report, completed, follows next report holds⟩

section Reached

variable {initial : Store} {history : List Turn} {past : Sweeper.Log} {stoppable : Bool}

/-- On its course a sweep is attended and alone at its sweeper, and it was told to wind down only if
it may be stopped. -/
theorem Course.attended (course : Course stoppable w turns next)
    (ran : run? (opened s initial) history = some (w, past))
    (idle : w.sweeper.slot.phase.isActive = false) (free : w.store.contains s.guardKey = false) :
    ∃ told after, Attended s w.store told next w.sweeper.engagements.length after ∧
      turns.countP (·.isUndisturbed w.sweeper.engagements.length) ≤ 7 * w.store.size + 20 ∧
      (stoppable = false → told = false) ∧ next.sweeper.IsAlone w.sweeper.engagements.length := by
  obtain ⟨entrance, log, enters, went⟩ := course.went
  have unread := scan_of_unasked ran (Nat.le_refl _)
  obtain ⟨started, e, begun, same, present, sweep, store, scans⟩ := entered idle enters
  obtain ⟨mid, before, later, first, rest, -⟩ := Execution.run?_append_iff.mp went
  obtain ⟨rfl, rfl⟩ := Prod.mk.inj (Option.some.inj (begun.symm.trans first))
  obtain ⟨attended, bound⟩ :=
    attended_of_entered (same.trans (origins_along ran).1) present sweep (by rw [scans, unread])
  rw [store] at attended bound
  have turned (turn : Turn) (member : turn ∈ turns) :
      Undisturbed w.sweeper.engagements.length turn ∨ Signal turn :=
        (course.turned turn member).imp_right And.right
  have alone : started.sweeper.IsAlone w.sweeper.engagements.length :=
    (occupancy_along (Execution.run?_append_iff.mpr ⟨_, _, _, ran, begun, rfl⟩)).alone present
      (by rw [sweep]; rfl)
  have still := alone_along alone turned rest
  -- A sweep that may not be stopped has had no turns but its own, so its flag was never raised.
  cases stoppable with
  | true =>
    obtain ⟨told, after, there, spent⟩ := signalled_along attended free turned rest
    exact ⟨told, after, there, by omega, Bool.noConfusion, still⟩
  | false =>
    have undisturbed (turn : Turn) (member : turn ∈ turns) :
        Undisturbed w.sweeper.engagements.length turn :=
      (course.turned turn member).resolve_right fun signal => Bool.noConfusion signal.1
    obtain ⟨after, there, spent⟩ := attended_along attended free undisturbed rest
    have own :=
      List.countP_le_length (p := (·.isUndisturbed w.sweeper.engagements.length)) (l := turns)
    exact ⟨false, after, there, by omega, fun _ => rfl, still⟩

/-- A sweep takes out keys that it was to delete, reports how many, and leaves its sweeper free. If
nobody tells it to wind down it takes out all of them. -/
theorem achieves (stoppable : Bool) (ran : run? (opened s initial) history = some (w, past))
    (idle : w.sweeper.slot.phase.isActive = false) (free : w.store.contains s.guardKey = false)
    (small : w.store.size < 2 ^ 64) : Achieves stoppable w fun next report =>
      next.sweeper.slot.phase.isActive = false ∧ ∃ gone, Store.Thinned s w.store gone next.store ∧
        report.deleted.toNat = gone.length ∧ (stoppable = false →
          ∀ key, w.store.contains key = true → s.dooms w.store key = true → key ∈ gone) where
  enters entrance enters := by
    obtain ⟨started, e, begun, -⟩ := entered idle enters
    exact ⟨started, [], begun⟩
  bounded turns next course := by
    obtain ⟨told, after, there, bound, -⟩ := course.attended ran idle free
    exact bound
  onward turns next course unfinished := by
    obtain ⟨told, after, there, -⟩ := course.attended ran idle free
    refine there.goes_on.resolve_right ?_
    rintro ⟨report, ended⟩
    rw [Sweeper.outcome?_eq_some.mpr ⟨after, there.present, ended⟩] at unfinished
    cases unfinished
  completes turns next outcome course reached := by
    obtain ⟨told, after, there, -, untold, alone⟩ := course.attended ran idle free
    obtain ⟨found, present, ended⟩ := Sweeper.outcome?_eq_some.mp reached
    obtain rfl := Option.some.inj (there.present.symm.trans present)
    obtain ⟨report, gone, rfl, taken, counted, live, absent, still⟩ := there.left free small ended
    obtain ⟨entrance, log, -, went⟩ := course.went
    have occupancy := occupancy_along (Execution.run?_append_iff.mpr ⟨_, _, _, ran, went, rfl⟩)
    refine ⟨report, rfl, occupancy.idle_of_alone alone present (by rw [ended]; rfl), gone, ?_,
      counted, ?_⟩
    · have once :=
        (Store.nodup_keys (w.store.holding s.guardKey Guard.mark) s.pattern).filter fun key =>
        ((w.store.holding s.guardKey Guard.mark).ttl key).outlives s.minTtl
      exact ⟨once.sublist taken.first.sublist,
        fun key among => (Store.mem_doomed_holding_iff free).mp (taken.first.subset among), live,
          absent, still⟩
    · intro steady key found doomed
      rw [taken.all (untold steady)]
      exact (Store.mem_doomed_holding_iff free).mpr ⟨found, doomed⟩

/-- A stopped sweep and a later one do together what one sweep would have done. Take any workplace
in any state in which its sweeper is free and the guard key is not found in the store. A sweep that
is asked for there and told to wind down at any moments completes, and leaves the sweeper free. It
has taken out some of the keys that it was to delete, has reported how many, and has left everything
else that was live, with its value and its deadline. Then take any free workplace with the same
settings, the same one or another, that finds the store so. A sweep that is asked for there and not
told to wind down completes too. It reports as many keys as the first one left of those that were to
be deleted, and it leaves the live entries that a single sweep of the first workplace would have
left, had nobody told it to wind down. -/
theorem resumed_effect (s : Settings) (initial : Store) (history : List Turn) (w : Workplace)
    (past : Sweeper.Log) (ran : run? (opened s initial) history = some (w, past))
    (idle : w.sweeper.slot.phase.isActive = false) (free : w.store.contains s.guardKey = false)
    (small : w.store.size < 2 ^ 64) :
    Achieves true w fun next first =>
      next.sweeper.slot.phase.isActive = false ∧ ∃ gone, Store.Thinned s w.store gone next.store ∧
        first.deleted.toNat = gone.length ∧
        ∀ initial' history' other past', run? (opened s initial') history' = some (other, past') →
          other.sweeper.slot.phase.isActive = false → other.store = next.store →
          Achieves false other fun last second =>
            gone.length + second.deleted.toNat =
                (w.store.liveEntries.filter fun item => s.dooms w.store item.1).length ∧
              last.store.liveEntries = (w.store.liveEntries.filter fun item =>
                !s.dooms w.store item.1) ∧
              ∀ turns full outcome, Course false w turns full →
                full.sweeper.outcome? w.sweeper.engagements.length = some outcome →
                  ∃ whole, outcome = .completed whole ∧
                    whole.deleted.toNat = gone.length + second.deleted.toNat ∧
                    last.store.liveEntries = full.store.liveEntries := by
  refine (achieves true ran idle free small).imp ?_
  rintro next first ⟨rests, gone, thinned, counted, -⟩
  refine ⟨rests, gone, thinned, counted, ?_⟩
  intro initial' history' other past' ranToo idleToo same
  have fewer : other.store.size < 2 ^ 64 := by
    refine Nat.lt_of_le_of_lt ?_ small
    rw [same, Store.size, thinned.live]
    exact List.length_filter_le ..
  -- The second sweep starts over what the first one left, and takes out all that is to be deleted
  -- there.
  refine (achieves false ranToo idleToo (same ▸ thinned.free) fewer).imp ?_
  rintro last second ⟨-, rest, thinnedToo, countedToo, all⟩
  obtain ⟨many, left⟩ := thinnedToo.complete (all rfl)
  rw [same] at many left
  have together : gone.length + second.deleted.toNat =
      (w.store.liveEntries.filter fun item => s.dooms w.store item.1).length := by
    rw [countedToo, many, thinned.length_left]
  have spared := left.trans thinned.spared
  refine ⟨together, spared, ?_⟩
  intro turns full outcome course reached
  obtain ⟨whole, completed, -, gone', once, counted', allOnce⟩ :=
    (achieves false ran idle free small).completes turns full outcome course reached
  obtain ⟨count, live⟩ := once.complete (allOnce rfl)
  exact ⟨whole, completed, (counted'.trans count).trans together.symm, spared.trans live.symm⟩

end Reached

/-- Two keys that live for an hour. -/
def twoKeys : Store :=
  .seed [("a0", "x", some (.ofSeconds 3600)), ("a1", "y", some (.ofSeconds 3600))]

/-- The turns of a sweep from the deletion of its last batch to its report. -/
def closing (index : Nat) : List Turn :=
  [.call index .deleter none, .own (.sweep index .join), .own (.sweep index .join),
    .own (.sweep index .join), .own (.sweep index .proceed), .call index .driver none]

/-- The turns of a sweep that claims its sweeper when it is asked for, finds one key, and is left
alone. -/
def oneKeySwept (index : Nat) : List Turn :=
  (acquisition index).tail ++ onePass index ++ closing index

/-- The turns of a sweep that finds two keys. -/
def twoKeysSwept : List Turn := (acquisition 0).tail ++ (onePass 0).take 6 ++ onePass 0 ++ closing 0

/-- The turns of a sweep that is stopped when it has sent its first key on. -/
def oneOfTwoSwept : List Turn :=
  (acquisition 0).tail ++ (onePass 0).take 2 ++ [.own .stop] ++ (onePass 0).drop 2 ++ closing 0

/-- Of two keys a stopped sweep deletes one, and the next sweep of the same sweeper the other. -/
theorem resumed_effect_two : ∃ next past last log full whole,
    run? (opened smallSettings twoKeys) ([.own .start] ++ oneOfTwoSwept) = some (next, past) ∧
      next.sweeper.outcome? 0 = some (.completed ⟨1, .zero, .epoch⟩) ∧
      run? next ([.own .start] ++ oneKeySwept 1) = some (last, log) ∧
      last.sweeper.outcome? 1 = some (.completed ⟨1, .zero, .epoch⟩) ∧
      run? (opened smallSettings twoKeys) ([.own .start] ++ twoKeysSwept) = some (full, whole) ∧
      full.sweeper.outcome? 0 = some (.completed ⟨2, .zero, .epoch⟩) ∧
      last.store.liveEntries = full.store.liveEntries := by
  have seen :
      ((run? (opened smallSettings twoKeys) ([.own .start] ++ oneOfTwoSwept)).bind fun stopped =>
        (run? stopped.1 ([.own .start] ++ oneKeySwept 1)).map fun resumed =>
          (stopped.1.sweeper.outcome? 0, stopped.1.sweeper.engagements.length,
            resumed.1.sweeper.outcome? 1)) =
      some (some (.completed ⟨1, .zero, .epoch⟩), 1, some (.completed ⟨1, .zero, .epoch⟩)) := by
    decide +kernel
  have once :
      ((run? (opened smallSettings twoKeys) ([.own .start] ++ twoKeysSwept)).map fun reached =>
        reached.1.sweeper.outcome? 0) = some (some (.completed ⟨2, .zero, .epoch⟩)) := by
    decide +kernel
  obtain ⟨⟨next, past⟩, ran, rest⟩ := Option.bind_eq_some_iff.mp seen
  obtain ⟨⟨last, log⟩, ranOn, same⟩ := Option.map_eq_some_iff.mp rest
  obtain ⟨⟨full, whole⟩, ranOnce, ended⟩ := Option.map_eq_some_iff.mp once
  simp only [Prod.mk.injEq] at same
  obtain ⟨first, asked, second⟩ := same
  have stopped : Course true (opened smallSettings twoKeys) oneOfTwoSwept next :=
    ⟨⟨_, past, .started, ran⟩,
      show ∀ turn ∈ oneOfTwoSwept, Undisturbed 0 turn ∨ true = true ∧ Signal turn by decide⟩
  have resumed : Course false next (oneKeySwept 1) last := by
    refine ⟨⟨_, log, .started, ranOn⟩, ?_⟩
    rw [asked]
    decide
  have single : Course false (opened smallSettings twoKeys) twoKeysSwept full :=
    ⟨⟨_, whole, .started, ranOnce⟩,
      show ∀ turn ∈ twoKeysSwept, Undisturbed 0 turn ∨ false = true ∧ Signal turn by decide⟩
  obtain ⟨_, -, rests, _, -, -, later⟩ := (resumed_effect smallSettings twoKeys []
    (opened smallSettings twoKeys) [] rfl rfl (by decide +kernel) (by decide +kernel)).completes
      _ next _ stopped first
  obtain ⟨_, -, -, -, alike⟩ :=
    (later twoKeys _ next past ran rests rfl).completes _ last _ resumed
      (by rw [asked]; exact second)
  obtain ⟨_, -, -, live⟩ := alike _ full _ single ended
  exact ⟨next, past, last, log, full, whole, ran, first, ranOn, second, ranOnce, ended, live⟩

end Workplace

end KeySweeper
