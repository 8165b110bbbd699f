import KeySweeper.Proofs.Calm
import Mathlib.Algebra.Group.Nat.Defs

/-!
# What an undisturbed sweep does

The exact effect of a sweep that nobody disturbs: no call goes wrong, nobody tells it to wind down,
no other client touches the store, and the clock stands still. Whatever order its parts take turns
in, the sweep ends after a bounded number of turns, is never stuck before, reports how many live
keys it had to delete, and leaves the store without those keys and without its mark, with everything
else that was live as it was. A pattern may select the mark as well: the mark never expires, so the
sweep does not delete it before its time.

The sweep may be the first of its sweeper or come after any others, as long as the sweeper is free.
-/

namespace KeySweeper.Workplace

/-- The turns that leave the sweep at an index undisturbed: its own, without mishaps. -/
inductive Undisturbed (index : Nat) : Turn → Prop where
  /-- A part of the sweep moves without the store. -/
  | moves (part : Sweep.Part) (move : Sweep.Move) (inside : move ∈ part.internalMoves) :
      Undisturbed index (.own (.sweep index move))
  /-- The call of a part of the sweep is carried out. -/
  | calls (part : Sweep.Part) : Undisturbed index (.call index part none)
  /-- The sweep gives up its claim. -/
  | givesUp : Undisturbed index (.own (.giveUp index))

/-- Whether a turn leaves the sweep at an index undisturbed. -/
def Turn.isUndisturbed (index : Nat) : Turn → Bool
  | .own (.sweep other move) =>
    other == index && Sweep.Part.all.any fun part => part.internalMoves.contains move
  | .own (.giveUp other) => other == index
  | .call other _ mishap => other == index && mishap.isNone
  | _ => false

/-- It can be read off a turn whether it leaves a sweep undisturbed. -/
theorem undisturbed_iff {index : Nat} {turn : Turn} :
    Undisturbed index turn ↔ turn.isUndisturbed index = true := by
  constructor
  · intro undisturbed
    cases undisturbed with
    | moves part move inside =>
      have among : part ∈ Sweep.Part.all := by cases part <;> decide
      simp only [Turn.isUndisturbed, beq_self_eq_true, Bool.true_and, List.any_eq_true,
        List.contains_iff_mem]
      exact ⟨part, among, inside⟩
    | calls part =>
      simp only [Turn.isUndisturbed, beq_self_eq_true, Option.isNone_none, Bool.and_self]
    | givesUp => simp only [Turn.isUndisturbed, beq_self_eq_true]
  · intro own
    unfold Turn.isUndisturbed at own
    split at own
    · simp only [Bool.and_eq_true, beq_iff_eq, List.any_eq_true, List.contains_iff_mem] at own
      obtain ⟨rfl, part, -, inside⟩ := own
      exact .moves part _ inside
    · obtain rfl := beq_iff_eq.mp own
      exact .givesUp
    · simp only [Bool.and_eq_true, beq_iff_eq, Option.isNone_iff_eq_none] at own
      obtain ⟨rfl, rfl⟩ := own
      exact .calls _
    · cases own

instance (index : Nat) (turn : Turn) : Decidable (Undisturbed index turn) :=
  decidable_of_iff _ undisturbed_iff.symm

/-- The turns by which a sweep is asked for and claims a free sweeper. -/
inductive Entrance (index : Nat) : List Turn → Prop where
  /-- It is asked for, on its own or below the flag of a caller, and claims the sweeper when it is
  first driven. -/
  | driven (caller : Option Nat) :
      Entrance index [.own (.request caller), .own (.claim index false)]
  /-- It claims the sweeper when it is asked for. -/
  | started : Entrance index [.own .start]

/-- A sweep of a workplace with the store and its scan. -/
def scene (w : Workplace) (index : Nat) (e : Engagement) : Sweep.Scene :=
  ⟨e.sweep, w.store, w.scans index⟩

variable {s : Settings} {w next : Workplace} {turn : Turn} {shown log : Sweeper.Log} {index : Nat}
variable {e : Engagement} {base : Store} {told : Bool}

/-- A move that a part makes on its own takes up no answer. -/
theorem silent_of_internal {part : Sweep.Part} {move : Sweep.Move}
    (inside : move ∈ part.internalMoves) :
    move.takesAnswer = false := by
  revert move
  cases part <;> decide

/-- A move that a part of a sweep without a releaser makes on its own is one of an undisturbed
sweep. -/
theorem next_of_move {x : Sweep.Scene} {part : Sweep.Part} {move : Sweep.Move}
    {progress : Sweep.Progress} (absent : x.sweep.releaser = .absent)
    (inside : move ∈ part.internalMoves) (steps : Sweep.Steps s x.sweep move progress) :
    Sweep.Scene.Next s x { x with sweep := progress.sweep } := by
  cases steps with
  | begun claimed => exact .begun claimed
  | joined stage rest joining ended => exact .joined stage rest joining ended
  | proceeded joining => exact .proceeded joining
  | staged stageMove p next shown running stepped =>
    have internal := (Sweep.stage_mem_internalMoves.mp inside).1
    exact .staged p next x.store x.scan _ running (.internal stageMove next shown internal stepped)
  | releaserJoined stage rest joining ended => rw [absent] at joining; cases joining
  | releaserProceeded joining => rw [absent] at joining; cases joining
  | _ => cases part <;> simp [Sweep.Part.internalMoves] at inside

/-- A call of a sweep without a releaser that does not go wrong is one of an undisturbed sweep. -/
theorem next_of_call {part : Sweep.Part} {call : StoreCall} {progress : Sweep.Progress}
    (absent : e.sweep.releaser = .absent) (waits : Sweep.Waits s e.sweep part call)
    (made : e.sweep.step? s (w.carried index part none call).move = some progress) :
    Sweep.Scene.Next s (w.scene index e)
      ⟨progress.sweep, (w.carried index part none call).store,
        (w.carried index part none call).scan⟩ := by
  cases waits with
  | checking now =>
    obtain ⟨answered, store, scan⟩ := carried_check w index .driver none s.guardKey
    rw [answered] at made
    simp only [Sweep.step?, now] at made
    obtain rfl := Option.some.inj made
    rw [store, scan]
    exact .checked now
  | marking now =>
    obtain ⟨answered, store, scan⟩ := carried_write w index .driver none s.guardKey Guard.mark
    rw [answered] at made
    simp only [Sweep.step?, now] at made
    obtain rfl := Option.some.inj made
    rw [store, scan, if_pos rfl]
    exact .marked now
  | releasing now =>
    obtain ⟨answered, store, scan⟩ := carried_delete w index .driver none [s.guardKey]
    rw [answered] at made
    simp only [Fleet.deletionMove, Sweep.step?, now] at made
    obtain rfl := Option.some.inj made
    rw [store, scan, if_pos rfl]
    exact .released _ now
  | passed now => rw [absent] at now; cases now
  | asking p running now =>
    obtain ⟨answered, store, scan⟩ := carried_scan w index .scanner none s.pattern
    rw [answered] at made
    simp only [Sweep.step?, running] at made
    obtain ⟨⟨next, shown⟩, stepped, rfl⟩ := Option.map_eq_some_iff.mp made
    rw [store, scan, if_pos rfl]
    exact .staged p next _ _ _ running (.scanned next shown stepped)
  | inspecting p key running now =>
    obtain ⟨answered, store, scan⟩ := carried_inspect w index .filter none key
    rw [answered] at made
    simp only [Sweep.step?, running] at made
    obtain ⟨⟨next, shown⟩, stepped, rfl⟩ := Option.map_eq_some_iff.mp made
    rw [store, scan]
    exact .staged p next _ _ _ running (.inspected key next shown now stepped)
  | deleting p batch waiting running now =>
    obtain ⟨answered, store, scan⟩ := carried_delete w index .deleter none batch
    rw [answered] at made
    simp only [Fleet.deletionMove, Sweep.step?, running] at made
    obtain ⟨⟨next, shown⟩, stepped, rfl⟩ := Option.map_eq_some_iff.mp made
    rw [store, scan, if_pos rfl]
    exact .staged p next _ _ _ running (.deleted batch waiting next shown now stepped)

/-- A sweep without a releaser gets none while it is undisturbed. -/
theorem releaser_of_next {x y : Sweep.Scene} (next : Sweep.Scene.Next s x y) :
    y.sweep.releaser = x.sweep.releaser := by
  cases next with
  | checked checking =>
    simp only [Sweep.afterCheck]
    cases x.store.contains s.guardKey <;> rfl
  | _ => rfl

/-- The sweep at an index is undisturbed so far, or told to wind down, without a releaser, and
started over the store `base`. -/
structure Attended (s : Settings) (base : Store) (told : Bool) (w : Workplace) (index : Nat)
    (e : Engagement) :
    Prop where
  settings : w.sweeper.settings = s
  present : w.sweeper.engagements[index]? = some e
  absent : e.sweep.releaser = .absent
  calm : Sweep.Calm s base told (w.scene index e)

/-- A bound on the turns that an undisturbed sweep has before it, giving up its claim included. -/
def ahead (s : Settings) (base : Store) (w : Workplace) (index : Nat) (e : Engagement) : Nat :=
  (w.scene index e).ahead (base.holding s.guardKey Guard.mark) + e.claim.toList.length

/-- What the sweep does in its turn brings it on. -/
theorem Attended.onward (attended : Attended s base told w index e)
    (free : base.contains s.guardKey = false) {sweep : Sweep}
    (settings : next.sweeper.settings = w.sweeper.settings)
    (there : next.sweeper.engagements[index]? = some { e with sweep })
    (took : Sweep.Scene.Next s (w.scene index e) (next.scene index { e with sweep })) :
    Attended s base told next index { e with sweep } ∧
      next.ahead s base index { e with sweep } < w.ahead s base index e := by
  obtain ⟨calm, fewer⟩ := attended.calm.step free took
  refine ⟨⟨settings.trans attended.settings, there, ?_, calm⟩, Nat.add_lt_add_right fewer _⟩
  exact (releaser_of_next took).trans attended.absent

/-- Every turn of an undisturbed sweep brings it on, and there are fewer turns left. -/
theorem Attended.step (attended : Attended s base told w index e)
    (free : base.contains s.guardKey = false) (undisturbed : Undisturbed index turn)
    (stepped : w.step? turn = some (next, shown)) :
    ∃ after, Attended s base told next index after ∧ next.ahead s base index after <
      w.ahead s base index e := by
  obtain ⟨settings, present, absent, calm⟩ := attended
  have attended : Attended s base told w index e := ⟨settings, present, absent, calm⟩
  have inside := (List.getElem?_eq_some_iff.mp present).1
  cases undisturbed with
  | moves part move internal =>
    cases turns_of_step? stepped with
    | own move silent sweeper shown steps =>
      cases steps with
      | moved index move f progress there made =>
        obtain rfl := Option.some.inj (present.symm.trans there)
        rw [settings] at made
        refine ⟨_, attended.onward free rfl (List.getElem?_set_self inside) ?_⟩
        exact next_of_move absent internal (Sweep.steps_of_step? made)
  | calls part =>
    cases turns_of_step? stepped with
    | called index part mishap f call sweeper shown there pending steps =>
      obtain rfl := Option.some.inj (present.symm.trans there)
      cases steps with
      | moved _ _ f progress there made =>
        obtain rfl := Option.some.inj (present.symm.trans there)
        rw [settings] at made pending
        refine ⟨_, attended.onward free rfl (List.getElem?_set_self inside) ?_⟩
        simp only [scene, Function.update_self]
        exact next_of_call absent (Sweep.waits_of_pending? pending) made
  | givesUp =>
    cases turns_of_step? stepped with
    | own move silent sweeper shown steps =>
      cases steps with
      | gaveUp index f generation there held halted =>
        obtain rfl := Option.some.inj (present.symm.trans there)
        refine
          ⟨{ e with claim := none }, ⟨settings, List.getElem?_set_self inside, absent, calm⟩, ?_⟩
        simp only [ahead, held, Option.toList_some, List.length_singleton]
        exact Nat.lt_succ_self _

/-- An undisturbed sweep that has not reported has a turn that it can take. -/
theorem Attended.goes_on (attended : Attended s base told w index e) :
    (∃ turn, Undisturbed index turn ∧ (w.step? turn).isSome = true) ∨
      ∃ report, e.sweep.driver = .finished (.completed report) := by
  obtain ⟨settings, present, absent, calm⟩ := attended
  rcases calm.goes_on with able | reported
  · left
    cases able with
    | move part move inside possible =>
      obtain ⟨progress, made⟩ := Option.isSome_iff_exists.mp possible
      rw [← settings] at made
      obtain ⟨next, shown, stepped, -⟩ := own_step present (silent_of_internal inside) made
      exact ⟨_, .moves part move inside, Option.isSome_of_eq_some stepped⟩
    | call part waits =>
      obtain ⟨call, pending⟩ := Option.isSome_iff_exists.mp waits
      rw [← settings] at pending
      obtain ⟨progress, made⟩ := call_possible w index none (Sweep.waits_of_pending? pending)
      obtain ⟨next, shown, stepped, -⟩ := call_step present pending made
      exact ⟨_, .calls part, Option.isSome_of_eq_some stepped⟩
  · exact Or.inr reported

/-- A sweep that is over, undisturbed but for requests to wind down, has taken out some of the keys
that it was to delete, has reported as many, and has left everything else that was live. -/
theorem Attended.left (attended : Attended s base told w index e)
    (free : base.contains s.guardKey = false) (small : base.size < 2 ^ 64) {outcome : SweepOutcome}
    (ended : e.sweep.driver = .finished outcome) :
    ∃ report gone, outcome = .completed report ∧ Sweep.Taken s base told gone ∧
      report.deleted.toNat = gone.length ∧
      w.store.liveEntries = (base.liveEntries.filter fun item => !gone.contains item.1) ∧
      w.store.contains s.guardKey = false ∧ w.store.now = base.now := by
  cases attended.calm with
  | opening driver work store scan =>
    simp [scene, ended] at driver
  | working rest p h lost driver work halted flag tally => cases driver.symm.trans ended
  | releasing p gone driver work halted taken counted store => cases driver.symm.trans ended
  | reported p report gone driver work halted taken counted store =>
    obtain rfl := Driver.finished.inj (driver.symm.trans ended)
    have left : w.store =
        ((base.holding s.guardKey Guard.mark).without gone).without [s.guardKey] := store
    refine ⟨report, gone, rfl, taken, ?_, ?_, ?_, ?_⟩
    · have few : gone.length < 2 ^ 64 := by
        refine Nat.lt_of_le_of_lt taken.first.length_le (Nat.lt_of_le_of_lt ?_ small)
        rw [Store.length_doomed_holding free]
        exact List.length_filter_le ..
      rw [counted, UInt64.toNat_ofNat_of_lt' few]
    · rw [left]
      exact Store.liveEntries_without_holding free Guard.mark gone
    · rw [left]
      exact Store.absent_without (List.mem_singleton_self _)
    · rw [left]
      rfl

/-- An undisturbed sweep that is over has done what it had to do. -/
theorem Attended.outcome (attended : Attended s base false w index e)
    (free : base.contains s.guardKey = false) (small : base.size < 2 ^ 64) {outcome : SweepOutcome}
    (ended : e.sweep.driver = .finished outcome) :
    ∃ report, outcome = .completed report ∧
      report.deleted.toNat = (base.liveEntries.filter fun item => s.dooms base item.1).length ∧
      w.store.liveEntries = (base.liveEntries.filter fun item => !s.dooms base item.1) ∧
      w.store.contains s.guardKey = false ∧ w.store.now = base.now := by
  obtain ⟨report, gone, completed, taken, counted, left, absent, still⟩ :=
    attended.left free small ended
  obtain rfl := taken.all rfl
  rw [Store.length_doomed_holding free] at counted
  rw [← Store.liveEntries_without_holding free Guard.mark, Store.liveEntries_left free] at left
  exact ⟨report, completed, counted, left, absent, still⟩

/-- The scan of a sweep that nobody has asked for yet has read nothing. -/
theorem scan_of_unasked {store : Store} {turns : List Turn}
    (ran : run? (opened s store) turns = some (w, log)) {index : Nat}
    (beyond : w.sweeper.engagements.length ≤ index) : w.scans index = .fresh s.pattern := by
  refine Execution.induction_along (motive := fun _ w _ =>
    w.sweeper.engagements.length ≤ index → w.scans index = .fresh s.pattern)
    (fun _ => rfl) ?_ ran beyond
  intro turns turn mid before next shown _ inductionHypothesis stepped beyond
  cases turns_of_step? stepped with
  | own move silent sweeper shown steps =>
    exact inductionHypothesis (Nat.le_trans (Sweeper.known_step steps).1 beyond)
  | called other part mishap e call sweeper shown present pending steps =>
    have earlier := Nat.le_trans (Sweeper.known_step steps).1 beyond
    have different : index ≠ other := by
      have inside := (List.getElem?_eq_some_iff.mp present).1
      omega
    exact (Function.update_of_ne different ..).trans (inductionHypothesis earlier)
  | others command => exact inductionHypothesis beyond

/-- A sweep can claim a free sweeper in each of the ways in which it can be asked for, and has then
not done anything yet. -/
theorem entered (idle : w.sweeper.slot.phase.isActive = false) {entrance : List Turn}
    (enters : Entrance w.sweeper.engagements.length entrance) :
    ∃ started e, run? w entrance = some (started, []) ∧
      started.sweeper.settings = w.sweeper.settings ∧
      started.sweeper.engagements[w.sweeper.engagements.length]? = some e ∧
      e.sweep = .claimed false ∧
      started.store = w.store ∧ started.scans = w.scans := by
  obtain ⟨slot, free⟩ := Sweeper.claim?_of_idle idle w.sweeper.engagements.length
  cases enters with
  | driven caller =>
    let asked : Sweeper :=
      { w.sweeper with engagements := w.sweeper.engagements ++ [⟨.requested, caller, none⟩] }
    let claimed : Engagement := ⟨.claimed false, caller, some slot.generation⟩
    have present : asked.engagements[w.sweeper.engagements.length]? =
        some ⟨.requested, caller, none⟩ :=
      List.getElem?_concat_length ..
    have first : w.step? (.own (.request caller)) = some ({ w with sweeper := asked }, []) := rfl
    have second : Workplace.step? { w with sweeper := asked }
        (.own (.claim w.sweeper.engagements.length false)) = some ({ w with
          sweeper := { asked.replace w.sweeper.engagements.length claimed with slot } }, []) :=
      step?_own rfl (Sweeper.recorded?_admitted present rfl free)
    refine ⟨{ w with sweeper := { asked.replace w.sweeper.engagements.length claimed with slot } },
      claimed, ?_, rfl, List.getElem?_set_self (List.getElem?_eq_some_iff.mp present).1,
      rfl, rfl, rfl⟩
    simp only [run?, Execution.run?, first, second, List.append_nil]
  | started =>
    let claimed : Engagement := ⟨.claimed false, none, some slot.generation⟩
    have first : w.step? (.own .start) = some ({ w with
        sweeper := { w.sweeper with slot, engagements := w.sweeper.engagements ++ [claimed] } },
        []) :=
      step?_own rfl (Sweeper.recorded?_started free)
    refine ⟨{ w with
      sweeper := { w.sweeper with slot, engagements := w.sweeper.engagements ++ [claimed] } },
      claimed, ?_, rfl, List.getElem?_concat_length .., rfl, rfl, rfl⟩
    simp only [run?, Execution.run?, first, List.append_nil]

/-- A sweep that has just claimed its sweeper is undisturbed so far. -/
theorem attended_of_entered {started : Workplace} (settings : started.sweeper.settings = s)
    (present : started.sweeper.engagements[index]? = some e) (sweep : e.sweep = .claimed false)
    (unread : started.scans index = .fresh s.pattern) :
    Attended s started.store false started index e ∧
      started.ahead s started.store index e ≤ 7 * started.store.size + 20 := by
  have bound := Store.length_keys_holding started.store s.guardKey Guard.mark s.pattern
  refine ⟨⟨settings, present, by rw [sweep]; rfl, .opening (Or.inl ?_) ?_ rfl unread⟩, ?_⟩
  · rw [scene, sweep]
    rfl
  · rw [scene, sweep]
    rfl
  · have claim : e.claim.toList.length ≤ 1 := by cases e.claim <;> simp
    simp only [ahead, Sweep.Scene.ahead, scene, sweep, Sweep.claimed, Driver.ahead,
      Work.ahead, unread, Scan.upcoming, Scan.fresh, Option.getD_none]
    omega

/-- In an undisturbed run every turn uses up one of the turns that the sweep had before it. -/
theorem attended_along {turns : List Turn} (attended : Attended s base told w index e)
    (free : base.contains s.guardKey = false) (undisturbed : ∀ turn ∈ turns, Undisturbed index turn)
    (ran : run? w turns = some (next, log)) :
    ∃ after, Attended s base told next index after ∧
      turns.length + next.ahead s base index after ≤ w.ahead s base index e := by
  refine Execution.induction_along (motive := fun turns next _ =>
    (∀ turn ∈ turns, Undisturbed index turn) → ∃ after, Attended s base told next index after ∧
      turns.length + next.ahead s base index after ≤ w.ahead s base index e) ?_ ?_ ran undisturbed
  · exact fun _ => ⟨e, attended, Nat.le_of_eq (Nat.zero_add _)⟩
  · intro turns turn mid before next shown _ inductionHypothesis stepped undisturbed
    obtain ⟨between, there, spent⟩ :=
      inductionHypothesis fun turn member => undisturbed turn (List.mem_append_left _ member)
    obtain ⟨after, then_, fewer⟩ :=
      there.step free (undisturbed turn (List.mem_append_right _ (List.mem_singleton_self turn)))
        stepped
    refine ⟨after, then_, ?_⟩
    rw [List.length_append, List.length_singleton]
    omega

/-- The exact effect of an undisturbed sweep. Take any workplace in any state in which its sweeper
is free and the guard key is not found in the store, and let a sweep be asked for and claim the
sweeper. Then whatever order the parts of the sweep take turns in, as long as nothing else happens:
there are no more turns than a fixed number for each live key; as long as the sweep is not over it
has a turn that it can take; and once it is over it has reported as many keys as there were live
entries that it had to delete, the live entries of the store are those from before without these,
with their values and their deadlines, the guard key is not found, and no time has passed. -/
theorem undisturbed_effect (s : Settings) (initial : Store) (history : List Turn) (w : Workplace)
    (past : Sweeper.Log) (ran : run? (opened s initial) history = some (w, past))
    (idle : w.sweeper.slot.phase.isActive = false) (free : w.store.contains s.guardKey = false)
    (small : w.store.size < 2 ^ 64) (entrance : List Turn)
    (enters : Entrance w.sweeper.engagements.length entrance) :
    (∃ started log, run? w entrance = some (started, log)) ∧
    ∀ turns next log, (∀ turn ∈ turns, Undisturbed w.sweeper.engagements.length turn) →
      run? w (entrance ++ turns) = some (next, log) →
        turns.length ≤ 7 * w.store.size + 20 ∧
        (next.sweeper.outcome? w.sweeper.engagements.length = none →
          ∃ turn, Undisturbed w.sweeper.engagements.length turn ∧ (next.step? turn).isSome = true) ∧
        ∀ outcome, next.sweeper.outcome? w.sweeper.engagements.length = some outcome →
          ∃ report, outcome = .completed report ∧
            report.deleted.toNat = (w.store.liveEntries.filter fun item =>
              s.dooms w.store item.1).length ∧
            next.store.liveEntries = (w.store.liveEntries.filter fun item =>
              !s.dooms w.store item.1) ∧
            next.store.contains s.guardKey = false ∧ next.store.now = w.store.now := by
  obtain ⟨settings, -⟩ := origins_along ran
  have unread := scan_of_unasked ran (Nat.le_refl _)
  obtain ⟨started, e, begun, same, present, sweep, store, scans⟩ := entered idle enters
  refine ⟨⟨started, [], begun⟩, ?_⟩
  intro turns next log undisturbed ranOn
  obtain ⟨mid, before, later, first, rest, -⟩ := Execution.run?_append_iff.mp ranOn
  obtain ⟨rfl, rfl⟩ := Prod.mk.inj (Option.some.inj (begun.symm.trans first))
  obtain ⟨attended, bound⟩ :=
    attended_of_entered (same.trans settings) present sweep (by rw [scans, unread])
  rw [store] at attended bound
  obtain ⟨after, there, spent⟩ := attended_along attended free undisturbed rest
  refine ⟨by omega, ?_, ?_⟩
  · intro unfinished
    rcases there.goes_on with able | ⟨report, ended⟩
    · exact able
    · simp only [Sweeper.outcome?, there.present, ended] at unfinished
      cases unfinished
  · intro outcome reached
    refine there.outcome free small ?_
    simp only [Sweeper.outcome?, there.present] at reached
    split at reached
    · next ended =>
      obtain rfl := Option.some.inj reached
      exact ended
    · cases reached

/-- Settings that select every key, the guard key among them, and delete one key at a time. -/
def starSettings : Settings := { Settings.ofPattern "*" 10 with batchSize := 1 }

/-- A store with a key that lives for an hour, one that lives for five seconds, and one that never
expires. -/
def mixedStore : Store :=
  .seed [("a", "x", some (.ofSeconds 3600)), ("b", "y", some (.ofSeconds 5)), ("c", "z", none)]

/-- The turns in which a key of the scan gets to the filter and is inspected. -/
def oneInspection : List Turn :=
  [.call 0 .scanner none, .own (.sweep 0 (.stage .offerCandidate)),
    .own (.sweep 0 (.stage .takeCandidate)), .call 0 .filter none]

/-- The turns of a sweep of the mixed store from its claim to its report. It inspects its own mark
as the last of four keys. -/
def starPass : List Turn :=
  [.own (.sweep 0 .begin), .call 0 .driver none, .call 0 .driver none] ++ oneInspection ++
    [.own (.sweep 0 (.stage .offerMatch)), .own (.sweep 0 (.stage .takeMatch))] ++ oneInspection ++
    oneInspection ++ oneInspection ++ [.call 0 .scanner none,
      .own (.sweep 0 (.stage .takeCandidate)),
    .own (.sweep 0 (.stage .takeMatch)), .call 0 .deleter none, .own (.sweep 0 .join),
    .own (.sweep 0 .join),
    .own (.sweep 0 .join), .own (.sweep 0 .proceed), .call 0 .driver none]

/-- A sweep that selects every key deletes the one that lives too long and leaves the others,
whatever their values and deadlines. -/
theorem undisturbed_effect_star : ∃ next log report,
    run? (opened starSettings mixedStore)
        ([.own (.request none), .own (.claim 0 false)] ++ starPass) = some (next, log) ∧
      next.sweeper.outcome? 0 = some (.completed report) ∧ report.deleted.toNat = 1 ∧
      next.store.liveEntries = [("b", ⟨"y", some 5000000000⟩), ("c", ⟨"z", none⟩)] ∧
      next.store.contains starSettings.guardKey = false := by
  have seen : ((run? (opened starSettings mixedStore)
      ([.own (.request none), .own (.claim 0 false)] ++ starPass)).map fun reached =>
        reached.1.sweeper.outcome? 0) = some (some (.completed ⟨1, .zero, .epoch⟩)) := by
          decide +kernel
  obtain ⟨⟨next, log⟩, ran, ended⟩ := Option.map_eq_some_iff.mp seen
  obtain ⟨-, effect⟩ :=
    undisturbed_effect starSettings mixedStore [] (opened starSettings mixedStore) []
    rfl rfl (by decide +kernel) (by decide +kernel) _ (.driven none)
  obtain ⟨report, completed, counted, left, free, -⟩ :=
    (effect starPass next log (by decide) ran).2.2 _ ended
  refine ⟨next, log, report, ran, ended.trans (congrArg some completed), ?_, ?_, free⟩
  · rw [counted]
    decide +kernel
  · rw [left]
    decide +kernel

end KeySweeper.Workplace
