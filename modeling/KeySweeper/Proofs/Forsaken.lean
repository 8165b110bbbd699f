import KeySweeper.Proofs.Custody
import KeySweeper.Proofs.Workplace

/-!
# Who leaves the guard behind

A sweep that is finished with all its tasks has deleted the guard or has forsaken it. Inside a
runtime there is only one way to forsake the guard: the sweep is dropped while its own deletion of
the guard waits for the store. Both are shown for the steps of one sweep first, then for what a move
of a sweeper does to each of its sweeps, and then along all executions of a workplace.
-/

namespace KeySweeper

namespace Sweep

/-- The sweep and all tasks that it started are over. -/
structure IsFinished (sweep : Sweep) : Prop where
  driver : Sweeper.isOver sweep.driver = true
  releaser : sweep.releaser.isBound = false
  stages : sweep.IsQuiet

/-- The sweep had acquired the guard and was dropped, and nobody releases the guard in its place. -/
structure IsForsaken (sweep : Sweep) : Prop where
  driver : sweep.driver = .dropped
  releaser : sweep.releaser = .absent
  work : ∃ p, sweep.work = .running p

variable {s : Settings} {sweep : Sweep} {move : Move} {progress : Progress} {log : Chronicle}

/-- A sweep without calls is outside the guard. -/
theorem custody_of_never (never : Sweeper.NeverClaimed sweep log) : Custody s sweep log := by
  have none : guardCalls log = [] := by
    refine List.eq_nil_iff_forall_not_mem.mpr fun event member => ?_
    obtain ⟨part, -, listed⟩ := mem_callsBy.mp member
    exact never.silent part event listed
  have outside : sweep.driver.isOpening = true ∨ Sweeper.isOver sweep.driver = true := by
    rcases never.driver with driver | driver | driver <;> rw [driver]
    · exact Or.inl rfl
    · exact Or.inr rfl
    · exact Or.inr rfl
  refine .outside outside never.work never.releaser ?_ ?_ ?_
  · rw [marks, none]
    exact List.not_mem_nil
  · rw [releases, none]
    rfl
  · intro marking
    rw [marking] at outside
    rcases never.driver with driver | driver | driver <;> rw [marking] at driver <;> cases driver

/-- Stages that were started stay started. -/
theorem running_step (steps : Steps s sweep move progress)
    (working : ∃ p, sweep.work = .running p) :
    ∃ p, progress.sweep.work = .running p := by
  obtain ⟨p, running⟩ := working
  have told : ∃ p, sweep.work.cancel = .running p := ⟨_, by rw [running]; rfl⟩
  cases steps with
  | acquired marking answer back => exact ⟨_, rfl⟩
  | staged stageMove q after effects now stepped => exact ⟨_, rfl⟩
  | proceeded joining => exact told
  | cancelled => exact told
  | passedOn rest joining => exact told
  | left rest joining => exact told
  | abandoned releasing canSpawn => exact told
  | _ => exact ⟨p, running⟩

/-- Inside a runtime a step forsakes the guard only if it drops a sweep that is releasing it, and
what is forsaken stays so. -/
theorem forsaken_step (custody : Custody s sweep log) (steps : Steps s sweep move progress)
    (inRuntime : move ≠ .drop false) : progress.sweep.IsForsaken ↔
      sweep.IsForsaken ∨ (∃ canSpawn, move = .drop canSpawn) ∧ sweep.driver = .releasing := by
  constructor
  · intro after
    cases steps with
    | staged stageMove p next effects running stepped =>
      exact Or.inl ⟨after.driver, after.releaser, p, running⟩
    | cancelled =>
      obtain ⟨q, now⟩ := after.work
      refine Or.inl ⟨after.driver, after.releaser, ?_⟩
      cases work : sweep.work with
      | waiting flag => simp [work, Work.cancel] at now
      | running p => exact ⟨p, rfl⟩
    | abandoned releasing canSpawn => exact Or.inr ⟨⟨canSpawn, rfl⟩, releasing⟩
    | passedOn rest joining => cases after.releaser
    | left rest joining => exact absurd rfl inRuntime
    | withdrawn early canSpawn =>
      obtain ⟨p, running⟩ := after.work
      cases custody with
      | outside driver work releaser unmarked unreleased free =>
        obtain ⟨flag, waiting⟩ := work
        cases waiting.symm.trans running
      | owed driver => rw [unbound_of (Or.inl early)] at driver; cases driver
      | passed driver => rw [driver] at early; cases early
      | settled place =>
        rcases place with ⟨⟨outcome, driver⟩, -⟩ | ⟨driver, -⟩ <;> rw [driver] at early
          <;> cases early
      | forsaken driver => rw [driver] at early; cases early
    | releaserEnded releasing answer => cases after.releaser
    | releaserJoined stage rest joining ended => cases after.releaser
    | releaserProceeded joining => cases after.releaser
    | _ => cases after.driver
  · rintro (before | ⟨⟨canSpawn, rfl⟩, releasing⟩)
    · have halted : Sweeper.isOver sweep.driver = true := by rw [before.driver]; rfl
      obtain ⟨same, running, ⟨-, kept | ⟨bound, -⟩⟩ | ⟨busy, -⟩⟩ :=
        step_of_over halted before.work steps
      · exact ⟨same.trans before.driver, kept.trans before.releaser, running⟩
      · rw [before.releaser] at bound
        cases bound
      · rw [before.releaser] at busy
        cases busy
    · have bound : sweep.driver.isBound = true := by rw [releasing]; rfl
      have owed : (∃ p, sweep.work = .running p) ∧ sweep.releaser = .absent := by
        cases custody with
        | outside driver => rw [unbound_of driver] at bound; cases bound
        | owed driver work releaser unreleased free => exact ⟨work, releaser⟩
        | passed driver => rw [driver] at bound; cases bound
        | settled place =>
          rcases place with ⟨⟨outcome, driver⟩, -⟩ | ⟨driver, -⟩ <;> rw [driver] at bound <;>
            cases bound
        | forsaken driver => rw [driver] at bound; cases bound
      have running := running_step steps owed.1
      cases steps with
      | passedOn rest joining => rw [releasing] at joining; cases joining
      | left rest joining => rw [releasing] at joining; cases joining
      | abandoned now canSpawn => exact ⟨rfl, owed.2, running⟩
      | withdrawn early canSpawn => rw [releasing] at early; cases early

/-- A sweep whose write of the guard took effect had found the guard free. -/
theorem Custody.free_of_mark (custody : Custody s sweep log) (marked : .value () ∈ marks s log) :
    .value false ∈ checks s log := by
  cases custody with
  | outside driver work releaser unmarked => exact absurd marked unmarked
  | owed driver work releaser unreleased free => exact free
  | passed driver work releaser unreleased free => exact free
  | settled place work answer released free => exact free
  | forsaken driver work releaser unreleased free => exact free

/-- A finished sweep whose write of the guard took effect has deleted the guard or has forsaken
it. -/
theorem released_or_forsaken (custody : Custody s sweep log) (finished : sweep.IsFinished)
    (marked : .value () ∈ marks s log) : releases s log ≠ [] ↔ ¬ sweep.IsForsaken := by
  cases custody with
  | outside driver work releaser unmarked => exact absurd marked unmarked
  | owed bound => rw [unbound_of (Or.inr finished.driver)] at bound; cases bound
  | passed driver work bound => rw [finished.releaser] at bound; cases bound
  | settled place work answer released free =>
    rw [released]
    refine ⟨fun _ forsaken => ?_, fun _ => List.cons_ne_nil _ _⟩
    rcases place with ⟨⟨outcome, driver⟩, -⟩ | ⟨-, releaser⟩
    · cases driver.symm.trans forsaken.driver
    · cases releaser.symm.trans forsaken.releaser
  | forsaken driver work releaser unreleased free =>
    rw [unreleased]
    exact ⟨fun impossible => absurd rfl impossible, fun kept =>
      absurd ⟨driver, releaser, work⟩ kept⟩

end Sweep

/-- Inside a runtime the only fate in which a sweep forsakes the guard is being dropped while it is
releasing it. -/
theorem Sweeper.Fate.forsaken_iff {c : Sweeper} {index : Nat} {move : Sweeper.Move}
    {e after : Engagement} {entries log : Sweep.Chronicle}
    (fate : Sweeper.Fate c index move (some e) after entries)
    (custody : Sweep.Custody c.settings e.sweep log)
    (inRuntime : move ≠ .sweep index (.drop false)) :
    after.sweep.IsForsaken ↔ e.sweep.IsForsaken ∨
      (∃ canSpawn, move = .sweep index (.drop canSpawn)) ∧ e.sweep.driver = .releasing := by
  have aside {other : Sweeper.Move} (elsewhere : ∀ inner, other ≠ .sweep index inner) :
      ¬ ((∃ canSpawn, other = .sweep index (.drop canSpawn)) ∧ e.sweep.driver = .releasing) := by
    rintro ⟨⟨canSpawn, same⟩, -⟩
    exact elsewhere _ same
  cases fate with
  | spared other e elsewhere => exact ⟨Or.inl, fun given => given.resolve_right (aside elsewhere)⟩
  | told other e reaches =>
    have elsewhere (inner : Sweep.Move) (same : move = .sweep index inner) : False := by
      rw [same] at reaches
      exact reaches
    have told := Sweep.forsaken_step custody (.cancelled) Sweep.Move.noConfusion
    refine ⟨fun now => (told.mp now).imp_right ?_, fun given => ?_⟩
    · rintro ⟨⟨canSpawn, impossible⟩, -⟩
      cases impossible
    · exact told.mpr (Or.inl (given.resolve_right (aside elsewhere)))
  | admitted flag e slot unclaimed free =>
    refine ⟨fun now => Driver.noConfusion now.driver, fun given => ?_⟩
    have before := given.resolve_right (aside fun _ => Sweeper.Move.noConfusion)
    cases unclaimed.symm.trans before.driver
  | refused flag e unclaimed =>
    refine ⟨fun now => Driver.noConfusion now.driver, fun given => ?_⟩
    have before := given.resolve_right (aside fun _ => Sweeper.Move.noConfusion)
    cases unclaimed.symm.trans before.driver
  | gaveUp e generation held halted =>
    exact ⟨fun now => Or.inl now,
      fun given => given.resolve_right (aside fun _ => Sweeper.Move.noConfusion)⟩
  | moved inner e progress made =>
    have stays : inner ≠ .drop false := fun same => inRuntime (congrArg _ same)
    rw [Sweep.forsaken_step custody (Sweep.steps_of_step? made) stays]
    simp only [Sweeper.Move.sweep.injEq, true_and]

/-- A sweep that has started its stages and not deleted the guard yet stays so unless it deletes the
guard. -/
theorem Sweeper.unreleased_step {c next : Sweeper} {move : Sweeper.Move} {log shown : Sweeper.Log}
    {index : Nat} {e : Engagement} (origins : Sweeper.Origins c log)
    (steps : Sweeper.Steps c move next shown) (present : c.engagements[index]? = some e)
    (working : ∃ p, e.sweep.work = .running p)
    (unreleased : Sweep.releases c.settings (Sweeper.chronicle index log) = [])
    (other : ∀ inner, move = .sweep index inner → inner.release? = none) :
    ∃ after, next.engagements[index]? = some after ∧ (∃ p, after.sweep.work = .running p) ∧
      Sweep.releases c.settings (Sweeper.chronicle index (log ++ shown)) = [] := by
  obtain ⟨after, there, fate⟩ := persists steps present
  refine ⟨after, there, ?_⟩
  have started (unclaimed : e.sweep.driver = .unclaimed) : False := by
    obtain ⟨-, never, -⟩ := (origins.come index e present).unclaimed unclaimed
    obtain ⟨flag, waiting⟩ := never.work
    obtain ⟨p, running⟩ := working
    cases waiting.symm.trans running
  rw [chronicle_append]
  generalize chronicle index shown = entries at fate
  cases fate with
  | spared => exact ⟨working, by rwa [List.append_nil]⟩
  | told =>
    exact ⟨Sweep.running_step (s := c.settings) .cancelled working, by rwa [List.append_nil]⟩
  | admitted flag e slot unclaimed free => exact (started unclaimed).elim
  | refused flag e unclaimed => exact (started unclaimed).elim
  | gaveUp => exact ⟨working, by rwa [List.append_nil]⟩
  | moved inner e progress made =>
    have stepsThere := Sweep.steps_of_step? made
    exact ⟨Sweep.running_step stepsThere working,
      Sweep.unreleased_step unreleased stepsThere (other inner rfl)⟩

namespace Workplace

variable {s : Settings} {store : Store} {w next : Workplace} {turn : Turn} {turns : List Turn}
variable {shown log : Sweeper.Log} {index : Nat} {e : Engagement}

/-- Every sweep is dropped where a task can still be started, if it is dropped at all. -/
def StaysInRuntime (turns : List Turn) : Prop := ∀ index, .own (.sweep index (.drop false)) ∉ turns

/-- At one of the turns the sweep was dropped while its own deletion of the guard waited for the
store. -/
def DroppedReleasing (s : Settings) (store : Store) (turns : List Turn) (index : Nat) : Prop :=
  ∃ first canSpawn rest mid early e, turns = first ++ .own (.sweep index (.drop canSpawn)) :: rest ∧
    run? (opened s store) first = some (mid, early) ∧
    mid.sweeper.engagements[index]? = some e ∧ e.sweep.driver = .releasing

/-- One more turn drops a sweep in this way if it is the drop of a sweep that is releasing the
guard. -/
theorem droppedReleasing_concat (reached : run? (opened s store) turns = some (w, log)) :
    DroppedReleasing s store (turns ++ [turn]) index ↔ DroppedReleasing s store turns index ∨
      (∃ canSpawn, turn = .own (.sweep index (.drop canSpawn))) ∧
        ∃ e, w.sweeper.engagements[index]? = some e ∧ e.sweep.driver = .releasing := by
  constructor
  · rintro ⟨first, canSpawn, rest, mid, early, e, split, led, present, releasing⟩
    rcases List.eq_nil_or_concat rest with rfl | ⟨init, last, rfl⟩
    · obtain ⟨rfl, same⟩ := List.append_inj' split rfl
      obtain rfl := List.singleton_inj.mp same
      obtain ⟨rfl, -⟩ := Prod.mk.inj (Option.some.inj (led.symm.trans reached))
      exact Or.inr ⟨⟨canSpawn, rfl⟩, e, present, releasing⟩
    · rw [List.concat_eq_append, ← List.cons_append, ← List.append_assoc] at split
      obtain ⟨rfl, -⟩ := List.append_inj' split rfl
      exact Or.inl ⟨first, canSpawn, init, mid, early, e, rfl, led, present, releasing⟩
  · rintro (⟨first, canSpawn, rest, mid, early, e, rfl, led, present, releasing⟩ |
      ⟨⟨canSpawn, rfl⟩, e, present, releasing⟩)
    · exact ⟨first, canSpawn, rest ++ [turn], mid, early, e, by simp, led, present, releasing⟩
    · exact ⟨turns, canSpawn, [], w, log, e, rfl, reached, present, releasing⟩

/-- In every state of a workplace the duty to release the guard lies in one of its places, for every
sweep. -/
theorem custody_of_engagement (ran : run? (opened s store) turns = some (w, log))
    (present : w.sweeper.engagements[index]? = some e) :
    Sweep.Custody s e.sweep (Sweeper.chronicle index log) := by
  obtain ⟨rfl, origins⟩ := origins_along ran
  rcases origins.come index e present with ⟨never, -⟩ | ⟨flag, moves, led⟩
  · exact Sweep.custody_of_never never
  · exact Sweep.custody_along led

/-- Inside a runtime the sweeps that have forsaken the guard are those that were dropped while they
were releasing it. -/
theorem forsaken_iff_dropped (inRuntime : StaysInRuntime turns)
    (ran : run? (opened s store) turns = some (w, log)) (index : Nat) :
    (∃ e, w.sweeper.engagements[index]? = some e ∧ e.sweep.IsForsaken) ↔
      DroppedReleasing s store turns index := by
  refine Execution.induction_along (motive := fun turns w _ => StaysInRuntime turns →
    ((∃ e, w.sweeper.engagements[index]? = some e ∧ e.sweep.IsForsaken) ↔
      DroppedReleasing s store turns index)) ?_ ?_ ran inRuntime
  · intro _
    constructor
    · rintro ⟨e, present, -⟩
      simp [opened, Sweeper.ofSettings] at present
    · rintro ⟨first, canSpawn, rest, mid, early, e, split, -⟩
      simp at split
  · intro turns turn mid before next shown reached inductionHypothesis stepped inRuntime
    have known := inductionHypothesis fun other member =>
      inRuntime other (List.mem_append_left _ member)
    rw [droppedReleasing_concat reached, ← known]
    have settings := (origins_along reached).1
    rcases fate_of_turn stepped with ⟨same, -, command, rfl⟩ | ⟨move, steps, whose⟩
    · rw [same]
      refine ⟨Or.inl, fun given => given.resolve_right ?_⟩
      rintro ⟨⟨canSpawn, impossible⟩, -⟩
      cases impossible
    · have own (canSpawn : Bool) : turn = .own (.sweep index (.drop canSpawn)) ↔
          move = .sweep index (.drop canSpawn) := by
        rcases whose with rfl | ⟨none, takes⟩
        · simp only [Turn.own.injEq]
        · refine ⟨fun same => absurd same (none _), fun same => ?_⟩
          rw [same] at takes
          cases takes
      have stays : move ≠ .sweep index (.drop false) := fun same =>
        inRuntime index
          (List.mem_append_right _ (List.mem_singleton.mpr ((own false).mpr same).symm))
      simp only [own]
      constructor
      · rintro ⟨after, there, forsaken⟩
        have fate := Sweeper.fate_of_steps steps there
        generalize Sweeper.chronicle index shown = entries at fate
        cases present : mid.sweeper.engagements[index]? with
        | none =>
          rw [present] at fate
          cases fate <;> cases forsaken.driver
        | some e =>
          rw [present] at fate
          have custody := settings ▸ custody_of_engagement reached present
          rcases (fate.forsaken_iff custody stays).mp forsaken with was | ⟨dropped, releasing⟩
          · exact Or.inl ⟨e, rfl, was⟩
          · exact Or.inr ⟨dropped, e, rfl, releasing⟩
      · intro given
        obtain ⟨e, present, was⟩ : ∃ e, mid.sweeper.engagements[index]? = some e ∧
            (e.sweep.IsForsaken ∨ (∃ canSpawn, move = .sweep index (.drop canSpawn)) ∧
              e.sweep.driver = .releasing) := by
          rcases given with ⟨e, present, forsaken⟩ | ⟨dropped, e, present, releasing⟩
          · exact ⟨e, present, Or.inl forsaken⟩
          · exact ⟨e, present, Or.inr ⟨dropped, releasing⟩⟩
        obtain ⟨after, there, fate⟩ := Sweeper.persists steps present
        have custody := settings ▸ custody_of_engagement reached present
        exact ⟨after, there, (fate.forsaken_iff custody stays).mpr was⟩

end Workplace

end KeySweeper
