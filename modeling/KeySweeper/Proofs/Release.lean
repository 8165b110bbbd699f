import KeySweeper.Proofs.Forsaken
import KeySweeper.Proofs.Presence
import KeySweeper.Proofs.Tenancy

/-!
# The release of the guard

A sweep whose write of the guard took effect has deleted the guard again once it and all its tasks
are over, however it ended, with one exception: a sweep that is dropped while its own deletion of
the guard waits for the store takes the duty with it, and nobody deletes the guard. This is the
exact condition. Where no sweep was dropped like that, where no deletion goes wrong and nobody else
writes the guard, the guard is gone in the end and the next sweep can acquire it.
-/

namespace KeySweeper.Workplace

variable {s : Settings} {store : Store} {w next : Workplace} {turn : Turn} {turns : List Turn}
variable {shown log : Sweeper.Log} {index : Nat} {e : Engagement}

/-- A check of the guard is answered by the store, and changes nothing. -/
theorem checked_of_turn (stepped : w.step? turn = some (next, shown)) {part : Sweep.Part}
    {key : String} {found : Bool}
    (member : (index, part, .called (.checked key (.value found))) ∈ shown) :
    next.store = w.store ∧ w.store.contains w.sweeper.settings.guardKey = found := by
  obtain ⟨mishap, e, call, rfl, stored, present, waits, same⟩ := answers_of_turn stepped member
  cases waits with
  | checking now =>
    exact ⟨stored.trans (carried_check ..).2.1,
      (Mishap.of_answer_value (StoreEvent.checked.inj same).2.symm).2⟩
  | _ => cases same

/-- Some sweep has started its stages and has not deleted the guard yet. -/
def Outstanding (s : Settings) (w : Workplace) (log : Sweeper.Log) : Prop :=
  ∃ (index : Nat) (e : Engagement), w.sweeper.engagements[index]? = some e ∧
    (∃ p, e.sweep.work = .running p) ∧ Sweep.releases s (Sweeper.chronicle index log) = []

/-- Some sweep has found the guard free. -/
def FoundFree (s : Settings) (log : Sweeper.Log) : Prop :=
  ∃ index part, (index, part, .called (.checked s.guardKey (.value false))) ∈ log

/-- Every deletion in the log was carried out. -/
def DeletionsWork (log : Sweeper.Log) : Prop :=
  ∀ index part keys answer, (index, part, .called (.deleted keys answer)) ∈ log →
    ∃ removed, answer = .value removed

/-- No other client writes the guard. -/
def GuardIsOwn (s : Settings) (turns : List Turn) : Prop :=
  ∀ key value ttl, .others (.set key value ttl) ∈ turns → key ≠ s.guardKey

/-- A sweep that goes on with the deletion of the guard shows the answer. -/
theorem release_shown {c after : Sweeper} {inner : Sweep.Move} {answer : Answer Nat}
    (steps : Sweeper.Steps c (.sweep index inner) after shown)
    (release : inner.release? = some answer) :
    ∃ part, (index, part, .called (.deleted [c.settings.guardKey] answer)) ∈ shown := by
  cases steps with
  | moved index inner e progress present made =>
    have counted := Sweep.releases_step [] (Sweep.steps_of_step? made)
    rw [release, List.nil_append] at counted
    have member : answer ∈ Sweep.releases c.settings (Sweep.entries inner progress.effects) := by
      rw [counted]
      exact List.mem_append_right _ List.mem_cons_self
    obtain ⟨part, -, listed⟩ := Sweep.mem_releases.mp member
    exact ⟨part, List.mem_map.mpr ⟨_, listed, rfl⟩⟩

/-- An effective write of the guard leaves a sweep that owes its release. -/
theorem outstanding_of_mark (ran : run? (opened s store) turns = some (w, log)) {c : Sweeper}
    (steps : Sweeper.Steps c (.sweep index (.guardMarked (.value ()))) w.sweeper shown) :
    Outstanding s w log := by
  obtain ⟨e, there, bound⟩ : ∃ e, w.sweeper.engagements[index]? = some e ∧
      e.sweep.driver.isBound = true := by
    generalize same : w.sweeper = after at steps
    cases steps with
    | moved index inner e progress present made =>
      refine ⟨_, List.getElem?_set_self (List.getElem?_eq_some_iff.mp present).1, ?_⟩
      cases Sweep.steps_of_step? made with
      | acquired marking answer back => rfl
  cases custody_of_engagement ran there with
  | owed driver work releaser unreleased free => exact ⟨index, e, there, work, unreleased⟩
  | outside driver => rw [Sweep.unbound_of driver] at bound; cases bound
  | passed driver => rw [driver] at bound; cases bound
  | settled place =>
    rcases place with ⟨⟨outcome, driver⟩, -⟩ | ⟨driver, -⟩ <;> rw [driver] at bound <;> cases bound
  | forsaken driver => rw [driver] at bound; cases bound

/-- Where nobody else writes the guard and all deletions work, a guard that is in the store after
some sweep has found it free is owed by a sweep.

Proof: by induction along the execution. A turn puts the guard into the store only by an effective
write, and a sweep stops owing it only by a deletion, which takes it out of the store. -/
theorem guard_explained (works : DeletionsWork log) (own : GuardIsOwn s turns)
    (free : FoundFree s log) (held : w.store.contains s.guardKey = true)
    (ran : run? (opened s store) turns = some (w, log)) : Outstanding s w log := by
  refine Execution.induction_along (motive := fun turns w log => DeletionsWork log →
    GuardIsOwn s turns → FoundFree s log → w.store.contains s.guardKey = true →
      Outstanding s w log) ?_ ?_ ran works own free held
  · rintro - - ⟨index, part, impossible⟩
    cases impossible
  intro turns turn mid before next shown reached inductionHypothesis stepped works own free held
  have whole : run? (opened s store) (turns ++ [turn]) = some (next, before ++ shown) :=
    Execution.run?_concat_iff.mpr ⟨mid, before, shown, reached, stepped, rfl⟩
  obtain ⟨settings, origins⟩ := origins_along reached
  have worksBefore : DeletionsWork before := fun index part keys answer member =>
    works index part keys answer (List.mem_append_left _ member)
  have ownBefore : GuardIsOwn s turns := fun key value ttl member =>
    own key value ttl (List.mem_append_left _ member)
  have freeBefore : FoundFree s before := by
    obtain ⟨index, part, member⟩ := free
    rcases List.mem_append.mp member with earlier | now
    · exact ⟨index, part, earlier⟩
    · obtain ⟨same, absent⟩ := checked_of_turn stepped now
      rw [same, ← settings, absent] at held
      cases held
  have carryOn {move : Sweeper.Move} {after : Sweeper}
    (steps : Sweeper.Steps mid.sweeper move after shown)
      (heldBefore : mid.store.contains s.guardKey = true)
      (other : ∀ index inner, move = .sweep index inner → inner.release? = none)
      (same : next.sweeper = after) : Outstanding s next (before ++ shown) := by
    obtain ⟨index, e, present, working, unreleased⟩ :=
      inductionHypothesis worksBefore ownBefore freeBefore heldBefore
    rw [← settings] at unreleased
    obtain ⟨kept, there, still, none⟩ :=
      Sweeper.unreleased_step origins steps present working unreleased (other index)
    exact ⟨index, kept, same ▸ there, still, settings ▸ none⟩
  cases turns_of_step? stepped with
  | others command =>
    have heldBefore : mid.store.contains s.guardKey = true := Store.contains_of_run held
      fun written value ttl same => own written value ttl
        (List.mem_append_right _ (List.mem_singleton.mpr (same ▸ rfl)))
    obtain ⟨index, e, present, working, unreleased⟩ :=
      inductionHypothesis worksBefore ownBefore freeBefore heldBefore
    exact ⟨index, e, present, working, by rwa [List.append_nil]⟩
  | own move silent sweeper entries steps =>
    refine carryOn steps held ?_ rfl
    rintro index inner rfl
    cases inner <;> first | rfl | cases silent
  | called index part mishap e call sweeper entries present pending steps =>
    have others {inner : Sweep.Move} (moved : (mid.carried index part mishap call).move = inner)
        (silent : inner.release? = none) : ∀ other move,
          Sweeper.Move.sweep index (mid.carried index part mishap call).move = .sweep other move →
            move.release? = none := by
      rintro other move same
      obtain ⟨-, rfl⟩ := Sweeper.Move.sweep.inj same
      rwa [moved]
    have deletes (guard : call = .delete [mid.sweeper.settings.guardKey])
        (releases : ∃ answer, (mid.carried index part mishap call).move.release? =
          some (Mishap.answer mishap answer)) : False := by
      subst guard
      cases mishap with
      | none =>
        simp only [carried_delete, if_true] at held
        exact (Store.contains_of_eraseAll held).1 (settings ▸ List.mem_cons_self)
      | some m =>
        obtain ⟨answer, release⟩ := releases
        obtain ⟨part, listed⟩ := release_shown steps release
        obtain ⟨removed, same⟩ := works _ _ _ _ (List.mem_append_right _ listed)
        cases (Mishap.of_answer_value same).1
    cases Sweep.waits_of_pending? pending with
    | checking now =>
      rw [(carried_check ..).2.1] at held
      exact carryOn steps held (others (carried_check ..).1 rfl) rfl
    | asking p running now =>
      rw [(carried_scan ..).2.1] at held
      exact carryOn steps held (others (carried_scan ..).1 rfl) rfl
    | inspecting p key running now =>
      rw [(carried_inspect ..).2.1] at held
      exact carryOn steps held (others (carried_inspect ..).1 rfl) rfl
    | deleting p batch waiting running now =>
      refine carryOn steps ?_ (others (carried_delete ..).1 rfl) rfl
      rw [(carried_delete ..).2.1] at held
      split at held
      · exact (Store.contains_of_eraseAll held).2
      · exact held
    | marking now =>
      cases mishap with
      | none => exact outstanding_of_mark whole steps
      | some m =>
        rw [(carried_write ..).2.1, if_neg (Option.some_ne_none m)] at held
        exact carryOn steps held (others (carried_write ..).1 rfl) rfl
    | releasing now => exact (deletes rfl ⟨_, by rw [(carried_delete ..).1]; rfl⟩).elim
    | passed now => exact (deletes rfl ⟨_, by rw [(carried_delete ..).1]; rfl⟩).elim

/-- Whatever happens at a workplace, its slot is that of the engaged sweep. -/
theorem tenancy_along (ran : run? (opened s store) turns = some (w, log)) :
    Sweeper.Tenancy w.sweeper :=
  sweeper_along (.fresh s) (fun _ _ _ _ tenancy steps => tenancy.step steps) ran

/-- Where all claims were given up and the guard is not in the store, the next sweep acquires the
guard. -/
theorem acquires (tenancy : Sweeper.Tenancy w.sweeper)
    (unclaimed : ∀ (i : Nat) (e : Engagement), w.sweeper.engagements[i]? = some e → e.claim = none)
    (absent : w.store.contains w.sweeper.settings.guardKey = false) :
    ∃ next later e, run? w (acquisition w.sweeper.engagements.length) = some (next, later) ∧
      next.sweeper.engagements[w.sweeper.engagements.length]? = some e ∧
      e.sweep.driver = .joining StageName.all ∧
      next.store.contains w.sweeper.settings.guardKey = true := by
  have idle : w.sweeper.slot.phase.isActive = false := by
    by_contra busy
    obtain ⟨i, e, present, held⟩ := tenancy.occupied (by simpa using busy)
    rw [unclaimed i e present] at held
    cases held
  obtain ⟨slot, free⟩ := Sweeper.claim?_of_idle idle w.sweeper.engagements.length
  -- The sweep claims the sweeper and begins.
  let claimed : Workplace := { w with sweeper := { w.sweeper with
    slot, engagements := w.sweeper.engagements ++ [⟨.claimed false, none, some slot.generation⟩] } }
  have started : w.step? (.own .start) = some (claimed, []) :=
    step?_own rfl (Sweeper.recorded?_started free)
  have first : claimed.sweeper.engagements[w.sweeper.engagements.length]? =
      some ⟨.claimed false, none, some slot.generation⟩ := List.getElem?_concat_length ..
  obtain ⟨second, shownSecond, began, storeSecond, settingsSecond, presentSecond⟩ :=
    own_step first (show Sweep.Move.takesAnswer .begin = false from rfl) rfl
  -- The guard is free, so that the sweep goes on to write it.
  have freeThen : (second.carried w.sweeper.engagements.length .driver none
      (.check second.sweeper.settings.guardKey)).move = .guardChecked (.value false) := by
    rw [(carried_check ..).1, settingsSecond, storeSecond]
    exact congrArg (fun found => Sweep.Move.guardChecked (.value found)) absent
  obtain ⟨third, shownThird, checked, storeThird, settingsThird, presentThird⟩ :=
    call_step presentSecond rfl (by rw [freeThen]; rfl)
  have marksThen : (third.carried w.sweeper.engagements.length .driver none
      (.write third.sweeper.settings.guardKey Guard.mark)).move = .guardMarked (.value ()) :=
    (carried_write ..).1
  obtain ⟨fourth, shownFourth, marked, storeFourth, settingsFourth, presentFourth⟩ :=
    call_step presentThird rfl (by rw [marksThen]; rfl)
  refine ⟨fourth, shownSecond ++ (shownThird ++ shownFourth), _, ?_, presentFourth, rfl, ?_⟩
  · simp only [acquisition, Execution.run?, started, began, checked, marked, List.append_nil,
      List.nil_append]
  · rw [storeFourth, (carried_write ..).2.1, if_pos rfl, Store.contains_insert,
      settingsThird, settingsSecond]
    exact if_pos rfl

/-- A finished sweep neither works for the guard nor has forsaken it only if it has deleted the
guard. -/
theorem not_outstanding (ran : run? (opened s store) turns = some (w, log))
    (finished : ∀ (i : Nat) (e : Engagement), w.sweeper.engagements[i]? = some e →
      e.sweep.IsFinished ∧ ¬ e.sweep.IsForsaken) : ¬ Outstanding s w log := by
  rintro ⟨index, e, present, ⟨p, running⟩, unreleased⟩
  obtain ⟨halted, kept⟩ := finished index e present
  cases custody_of_engagement ran present with
  | outside driver work => obtain ⟨flag, waiting⟩ := work; cases waiting.symm.trans running
  | owed bound => rw [Sweep.unbound_of (Or.inr halted.driver)] at bound; cases bound
  | passed driver work bound => rw [halted.releaser] at bound; cases bound
  | settled place work answer released => rw [unreleased] at released; cases released
  | forsaken driver work releaser => exact kept ⟨driver, releaser, work⟩

/-- The release of the guard, and its exact condition. Take any execution of a workplace in which
every sweep that is dropped is dropped inside a runtime. A sweep whose write of the guard took
effect and that is finished with all its tasks has deleted the guard if and only if it was not
dropped while its own deletion of the guard waited for the store. If all sweeps are finished, none
was dropped like that, every deletion worked and nobody else writes the guard, then the guard is
gone and the next sweep acquires it. -/
theorem guard_released_iff (s : Settings) (store : Store) (turns : List Turn) (w : Workplace)
    (log : Sweeper.Log) (ran : run? (opened s store) turns = some (w, log))
    (inRuntime : StaysInRuntime turns) :
    (∀ (index : Nat) (e : Engagement), w.sweeper.engagements[index]? = some e →
      e.sweep.IsFinished →
      (index, .driver, .called (.written s.guardKey Guard.mark (.value ()))) ∈ log →
        ((∃ part answer, part.isStage = false ∧
          (index, part, .called (.deleted [s.guardKey] answer)) ∈ log) ↔
            ¬ DroppedReleasing s store turns index)) ∧
    ((∃ index, (index, .driver, .called (.written s.guardKey Guard.mark (.value ()))) ∈ log) →
      (∀ (index : Nat) (e : Engagement), w.sweeper.engagements[index]? = some e →
        e.sweep.IsFinished ∧ e.claim = none ∧ ¬ DroppedReleasing s store turns index) →
      DeletionsWork log → GuardIsOwn s turns →
        w.store.contains s.guardKey = false ∧
        ∃ next later e, run? w (acquisition w.sweeper.engagements.length) = some (next, later) ∧
          next.sweeper.engagements[w.sweeper.engagements.length]? = some e ∧
          e.sweep.driver = .joining StageName.all ∧ next.store.contains s.guardKey = true) := by
  obtain ⟨settings, origins⟩ := origins_along ran
  have marked (index : Nat)
      (shown : (index, .driver, .called (.written s.guardKey Guard.mark (.value ()))) ∈ log) :
      .value () ∈ Sweep.marks s (Sweeper.chronicle index log) :=
    Sweep.mem_marks rfl (Sweeper.mem_chronicle.mpr shown)
  refine ⟨?_, ?_⟩
  · intro index e present finished shown
    have custody := custody_of_engagement ran present
    have released : Sweep.releases s (Sweeper.chronicle index log) ≠ [] ↔
        ∃ part answer, part.isStage = false ∧
          (index, part, .called (.deleted [s.guardKey] answer)) ∈ log := by
      constructor
      · intro some
        obtain ⟨answer, member⟩ := List.exists_mem_of_ne_nil _ some
        obtain ⟨part, outside, listed⟩ := Sweep.mem_releases.mp member
        exact ⟨part, answer, outside, Sweeper.mem_chronicle.mp listed⟩
      · rintro ⟨part, answer, outside, listed⟩
        exact List.ne_nil_of_mem
          (Sweep.mem_releases.mpr ⟨part, outside, Sweeper.mem_chronicle.mpr listed⟩)
    rw [← released, Sweep.released_or_forsaken custody finished (marked index shown),
      ← forsaken_iff_dropped inRuntime ran index]
    constructor
    · rintro kept ⟨f, there, forsaken⟩
      obtain rfl := Option.some.inj (present.symm.trans there)
      exact kept forsaken
    · exact fun none forsaken => none ⟨e, present, forsaken⟩
  · rintro ⟨index, shown⟩ finished works own
    have absent : w.store.contains s.guardKey = false := by
      by_contra held
      refine not_outstanding ran ?_ (guard_explained works own ?_ (by simpa using held) ran)
      · intro i e present
        obtain ⟨halted, -, kept⟩ := finished i e present
        exact ⟨halted, fun forsaken =>
          kept ((forsaken_iff_dropped inRuntime ran i).mp ⟨e, present, forsaken⟩)⟩
      · have known := origins.known _ shown
        have custody := custody_of_engagement ran (List.getElem?_eq_getElem known)
        obtain ⟨part, -, checked⟩ := Sweep.mem_checks.mp (custody.free_of_mark (marked index shown))
        exact ⟨index, part, Sweeper.mem_chronicle.mp checked⟩
    refine ⟨absent, ?_⟩
    subst settings
    exact acquires (tenancy_along ran) (fun i e present => (finished i e present).2.1) absent

/-- The turns of a sweep that finds no key, from its acquisition to the moment at which its deletion
of the guard waits for the store. -/
def emptyPass : List Turn :=
  acquisition 0 ++ [.call 0 .scanner none, .own (.sweep 0 (.stage .takeCandidate)),
    .own (.sweep 0 (.stage .takeMatch)), .own (.sweep 0 .join), .own (.sweep 0 .join),
    .own (.sweep 0 .join), .own (.sweep 0 .proceed)]

/-- A sweep that is driven to its end. -/
def drivenToEnd : List Turn := emptyPass ++ [.call 0 .driver none, .own (.giveUp 0)]

/-- A sweep that is dropped while its deletion of the guard waits for the store. -/
def droppedLate : List Turn := emptyPass ++ [.own (.sweep 0 (.drop true)), .own (.giveUp 0)]

/-- The stages of a sweep that found no key, once they have ended. -/
def spent : Pipeline :=
  { Pipeline.fresh ⟨true, 0⟩ with scanner := .ended, filter := .ended, deleter := .ended }

/-- What is logged until that sweep deletes the guard. -/
def emptyLog : Sweeper.Log :=
  [(0, .driver, .called (.checked smallSettings.guardKey (.value false))),
    (0, .driver, .called (.written smallSettings.guardKey Guard.mark (.value ()))),
    (0, .driver, .logged (Sweep.startLine smallSettings)),
    (0, .scanner, .called (.scanned "a*" (.value none)))]

/-- A sweep with spent stages and a driver that is over is finished, if it has no releaser. -/
theorem finished_of_spent {driver : Driver} (halted : Sweeper.isOver driver = true) :
    Sweep.IsFinished ⟨driver, .running spent, .absent⟩ := by
  refine ⟨halted, rfl, ?_⟩
  rintro p same stage
  obtain rfl := Work.running.inj same
  cases stage <;> rfl

/-- The sweep that is driven to its end has deleted the guard, and the next one can acquire it. -/
theorem guard_released_iff_driven : ∃ w log,
    run? (opened smallSettings .empty) drivenToEnd = some (w, log) ∧
      w.store.contains smallSettings.guardKey = false ∧
      ∃ next later, run? w (acquisition w.sweeper.engagements.length) = some (next, later) := by
  have seen : ((run? (opened smallSettings .empty) drivenToEnd).map fun reached =>
      (reached.1.sweeper.engagements, reached.2)) =
      some ([⟨⟨.finished (.completed ⟨0, .zero, .epoch⟩), .running spent, .absent⟩, none, none⟩],
        emptyLog ++ [(0, .driver, .called (.deleted [smallSettings.guardKey] (.value 1))),
          (0, .driver, .logged Sweep.stoppedLine)]) := by decide +kernel
  obtain ⟨⟨w, log⟩, ran, same⟩ := Option.map_eq_some_iff.mp seen
  simp only [Prod.mk.injEq] at same
  obtain ⟨engagements, shown⟩ := same
  have inRuntime : StaysInRuntime drivenToEnd := by
    intro index member
    simp [drivenToEnd, emptyPass, acquisition] at member
  have finished (index : Nat) (e : Engagement) (present : w.sweeper.engagements[index]? = some e) :
      e.sweep.IsFinished ∧ e.claim = none ∧ ¬ e.sweep.IsForsaken := by
    rw [engagements] at present
    obtain rfl := List.mem_singleton.mp (List.mem_of_getElem? present)
    exact ⟨finished_of_spent rfl, rfl, fun forsaken => Driver.noConfusion forsaken.driver⟩
  have kept (index : Nat) (e : Engagement) (present : w.sweeper.engagements[index]? = some e) :
      ¬ DroppedReleasing smallSettings .empty drivenToEnd index := by
    intro dropped
    obtain ⟨f, there, forsaken⟩ := (forsaken_iff_dropped inRuntime ran index).mpr dropped
    exact (finished index f there).2.2 forsaken
  have works : DeletionsWork log := by
    intro index part keys answer member
    rw [shown] at member
    simp [emptyLog] at member
    exact ⟨1, member.2.2.2⟩
  obtain ⟨absent, next, later, -, again, -⟩ :=
    (guard_released_iff smallSettings .empty drivenToEnd w log ran inRuntime).2
      ⟨0, by rw [shown]; simp [emptyLog]⟩
      (fun index e present => ⟨(finished index e present).1, (finished index e present).2.1,
        kept index e present⟩) works
      (by intro key value ttl member; simp [drivenToEnd, emptyPass, acquisition] at member)
  exact ⟨w, log, ran, absent, next, later, again⟩

/-- A sweep that is dropped while its deletion of the guard waits for the store leaves the guard
behind. Its write took effect, it was dropped inside a runtime, it is finished with all its tasks
and has given up its claim, no deletion went wrong, and nobody else touched the store; yet the guard
was not deleted, and the next sweep finds it held. -/
theorem guard_left_by_late_drop : ∃ w log,
    run? (opened smallSettings .empty) droppedLate = some (w, log) ∧ StaysInRuntime droppedLate ∧
      (∀ e ∈ w.sweeper.engagements, e.sweep.IsFinished ∧ e.claim = none) ∧
      (0, .driver, .called (.written smallSettings.guardKey Guard.mark (.value ()))) ∈ log ∧
      (∀ index part keys answer, (index, part, .called (.deleted keys answer)) ∉ log) ∧
      w.store.contains smallSettings.guardKey = true ∧
      ∃ next later, run? w [.own .start, .own (.sweep 1 .begin), .call 1 .driver none] =
        some (next, later) ∧ next.sweeper.outcome? 1 = some .alreadyRunning := by
  have retried : ((run? (opened smallSettings .empty) (droppedLate ++
      [.own .start, .own (.sweep 1 .begin), .call 1 .driver none])).map fun reached =>
        reached.1.sweeper.outcome? 1) = some (some .alreadyRunning) := by decide +kernel
  have seen : ((run? (opened smallSettings .empty) droppedLate).map fun reached =>
      (reached.1.sweeper.engagements, reached.2)) =
      some ([⟨⟨.dropped, .running spent, .absent⟩, none, none⟩], emptyLog) := by decide +kernel
  have kept : ((run? (opened smallSettings .empty) droppedLate).map fun reached =>
      reached.1.store.contains smallSettings.guardKey) = some true := by decide +kernel
  obtain ⟨⟨next, whole⟩, ranOn, refused⟩ := Option.map_eq_some_iff.mp retried
  obtain ⟨w, log, later, first, again, -⟩ := Execution.run?_append_iff.mp ranOn
  have ran : run? (opened smallSettings .empty) droppedLate = some (w, log) := first
  simp only [ran, Option.map_some, Option.some.injEq, Prod.mk.injEq] at seen kept
  obtain ⟨engagements, shown⟩ := seen
  refine ⟨w, log, ran, ?_, ?_, ?_, ?_, kept, next, later, again, refused⟩
  · intro index member
    simp [droppedLate, emptyPass, acquisition] at member
  · rw [engagements]
    intro e member
    obtain rfl := List.mem_singleton.mp member
    exact ⟨finished_of_spent rfl, rfl⟩
  · rw [shown]
    simp [emptyLog]
  · intro index part keys answer member
    rw [shown] at member
    simp [emptyLog] at member

end KeySweeper.Workplace
