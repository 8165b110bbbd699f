import KeySweeper.Proofs.Tenancy

/-!
# The slot as a state machine

The slot is written by whoever holds the latest claim, without a check, and by anybody who gives up
a claim, with a check of the generation. The invariant ties the two together. A claim is unfinished
until its sweep has announced its end or the claim is given up; a sweep that was dropped or that
crashed announces nothing, so its claim stays unfinished until then. The slot shows a sweep under
way exactly while a claim is unfinished, there is one such claim at most, and the slot counts it as
the latest and raises its flag on a stop request.

What the flag does to the sweep is not part of this module, and neither is the store.
-/

namespace KeySweeper

/-- Whether a driving task has come to an end of its own, without a crash, and has announced it. -/
def Driver.hasReported : Driver → Bool
  | .finished (.crashed _) => false
  | .finished _ => true
  | _ => false

/-- Whether the claim is held by a sweep that has not announced its end. -/
def Engagement.IsUnfinished (e : Engagement) : Prop :=
  e.claim ≠ none ∧ e.sweep.driver.hasReported = false

/-- The phases that a slot can show while the sweep of the latest claim does this. A sweep that was
dropped or that crashed leaves the phase as it was. -/
def Driver.allows : Driver → Phase → Bool
  | .claimed, phase => phase = .acquiring
  | .checking, phase => phase = .acquiring
  | .marking, phase => phase = .acquiring
  | .joining _, phase => phase = .running || phase = .draining
  | .releasing, phase => phase = .draining
  | _, phase => phase.isActive

/-- The changes of phase. None of them leads back to the idle phase. -/
inductive Phase.MayBecome : Phase → Phase → Prop where
  /-- The first claim. -/
  | claimed : MayBecome .idle .acquiring
  /-- A later claim. -/
  | reclaimed : MayBecome .stopped .acquiring
  /-- The guard is acquired. -/
  | entered : MayBecome .acquiring .running
  /-- The guard is acquired after a stop request. -/
  | enteredLate : MayBecome .acquiring .draining
  /-- The sweep ends, or is given up, without having acquired the guard. -/
  | refused : MayBecome .acquiring .stopped
  /-- The stages are over, or told to wind down. -/
  | drained : MayBecome .running .draining
  /-- The claim is given up while the stages are at work. -/
  | forsaken : MayBecome .running .stopped
  /-- The sweep ends, or is given up. -/
  | finished : MayBecome .draining .stopped

namespace Phase

variable {phase next : Phase}

/-- No change of phase leads to the idle phase. -/
theorem MayBecome.not_idle (becomes : MayBecome phase next) : next ≠ .idle := by
  cases becomes <;> exact nofun

/-- A claim is a change of phase. -/
theorem mayBecome_acquiring (idle : phase.isActive = false) : MayBecome phase .acquiring := by
  cases phase with
  | idle => exact .claimed
  | stopped => exact .reclaimed
  | _ => cases idle

/-- A sweep under way may stop in every phase. -/
theorem mayBecome_stopped (active : phase.isActive = true) : MayBecome phase .stopped := by
  cases phase with
  | acquiring => exact .refused
  | running => exact .forsaken
  | draining => exact .finished
  | _ => cases active

end Phase

namespace Slot

/-- An announcement is not a claim. -/
theorem apply_claim (slot : Slot) (flag : Bool) (change : SlotChange) :
    (slot.apply flag change).generation = slot.generation ∧
      (slot.apply flag change).holder = slot.holder := by
  cases change <;> exact ⟨rfl, rfl⟩

end Slot

namespace Sweeper

/-- What the slot has to do with one engagement. -/
structure Fits (slot : Slot) (index : Nat) (e : Engagement) : Prop where
  unclaimed : e.sweep.driver = .unclaimed → e.claim = none
  unfinished : e.IsUnfinished → e.claim = some slot.generation ∧ slot.phase.isActive = true ∧
    slot.holder = some index ∧ e.sweep.driver.allows slot.phase = true
  reported : e.sweep.driver.hasReported = true → e.claim = some slot.generation →
    slot.phase.isActive = false

variable {slot later : Slot} {index : Nat} {e : Engagement}

/-- The slot has nothing to do with an engagement whose claim is neither unfinished nor the
latest. -/
theorem Fits.unrelated (unclaimed : e.sweep.driver = .unclaimed → e.claim = none)
    (finished : ¬ e.IsUnfinished) (older : e.claim ≠ some slot.generation) : Fits slot index e where
  unclaimed := unclaimed
  unfinished := fun unfinished => absurd unfinished finished
  reported := fun _ latest => absurd latest older

/-- What is written to the slot does not concern an engagement without the latest claim. -/
theorem Fits.elsewhere (fits : Fits slot index e) (older : e.claim ≠ some slot.generation)
    (generation : later.generation = slot.generation) : Fits later index e := by
  apply Fits.unrelated fits.unclaimed
  · intro unfinished
    exact older (fits.unfinished unfinished).1
  · rwa [generation]

/-- Telling a sweep to wind down does not change what the slot has to do with it. -/
theorem Fits.told (fits : Fits slot index e) : Fits slot index (cancelSweep e) :=
  ⟨fits.unclaimed, fits.unfinished, fits.reported⟩

/-- A stop request shows only while the stages are at work, and the latest sweep allows it. -/
theorem Fits.stopped (fits : Fits slot index e) : Fits slot.stop index e := by
  by_cases running : slot.phase = .running
  · have drained : slot.stop = { slot with phase := .draining } := by
      simp only [Slot.stop, running, if_true]
    rw [drained]
    refine ⟨fits.unclaimed, ?_, ?_⟩
    · intro unfinished
      obtain ⟨latest, -, holder, allowed⟩ := fits.unfinished unfinished
      refine ⟨latest, rfl, holder, ?_⟩
      rw [running] at allowed
      cases driver : e.sweep.driver <;> simp_all [Driver.allows, Phase.isActive]
    · intro reported latest
      have idle := fits.reported reported latest
      rw [running] at idle
      cases idle
  · rwa [show slot.stop = slot by simp only [Slot.stop, running, if_false]]

end Sweeper

namespace Sweep

variable {s : Settings} {sweep : Sweep} {move : Move} {progress : Progress}

/-- The slot once a sweep with the latest claim has made a move. It shows the end of the sweep if
the sweep announces it, and otherwise a phase that the sweep allows. -/
theorem allowed_step (steps : Steps s sweep move progress) (slot : Slot) (flag : Bool)
    (unreported : sweep.driver.hasReported = false)
    (active : slot.phase.isActive = true) (allowed : sweep.driver.allows slot.phase = true) :
    let later := (progress.slot.map (slot.apply flag)).getD slot
    (later.phase = slot.phase ∨ slot.phase.MayBecome later.phase) ∧
      (progress.sweep.driver.hasReported = true ∧ later.phase.isActive = false ∨
        progress.sweep.driver.hasReported = false ∧ later.phase.isActive = true ∧
          progress.sweep.driver.allows later.phase = true) := by
  cases steps with
  | begun now =>
    rw [now] at allowed
    exact ⟨Or.inl rfl, Or.inr ⟨rfl, active, allowed⟩⟩
  | held now => exact ⟨Or.inr (Phase.mayBecome_stopped active), Or.inl ⟨rfl, rfl⟩⟩
  | free now =>
    rw [now] at allowed
    exact ⟨Or.inl rfl, Or.inr ⟨rfl, active, allowed⟩⟩
  | unknown now cause => exact ⟨Or.inr (Phase.mayBecome_stopped active), Or.inl ⟨rfl, rfl⟩⟩
  | checkCrashed now text => exact ⟨Or.inl rfl, Or.inr ⟨rfl, active, active⟩⟩
  | acquired now answer back =>
    rw [now] at allowed
    have acquiring : slot.phase = .acquiring := by simpa [Driver.allows] using allowed
    rw [acquiring]
    cases flag with
    | true => exact ⟨Or.inr .enteredLate, Or.inr ⟨rfl, rfl, rfl⟩⟩
    | false => exact ⟨Or.inr .entered, Or.inr ⟨rfl, rfl, rfl⟩⟩
  | markCrashed now text => exact ⟨Or.inl rfl, Or.inr ⟨rfl, active, active⟩⟩
  | staged stageMove p after effects running stepped =>
    exact ⟨Or.inl rfl, Or.inr ⟨unreported, active, allowed⟩⟩
  | joined stage rest now ended =>
    rw [now] at allowed
    exact ⟨Or.inl rfl, Or.inr ⟨rfl, active, allowed⟩⟩
  | proceeded now =>
    rw [now] at allowed
    have working : slot.phase = .running ∨ slot.phase = .draining := by
      simpa [Driver.allows] using allowed
    refine ⟨?_, Or.inr ⟨rfl, rfl, rfl⟩⟩
    rcases working with running | draining
    · rw [running]
      exact Or.inr .drained
    · exact Or.inl draining.symm
  | completed now answer back elapsed finishedAt =>
    exact ⟨Or.inr (Phase.mayBecome_stopped active), Or.inl ⟨rfl, rfl⟩⟩
  | releaseCrashed now text elapsed finishedAt => exact ⟨Or.inl rfl, Or.inr ⟨rfl, active, active⟩⟩
  | cancelled => exact ⟨Or.inl rfl, Or.inr ⟨unreported, active, allowed⟩⟩
  | passedOn rest now => exact ⟨Or.inl rfl, Or.inr ⟨rfl, active, active⟩⟩
  | left rest now => exact ⟨Or.inl rfl, Or.inr ⟨rfl, active, active⟩⟩
  | abandoned now canSpawn => exact ⟨Or.inl rfl, Or.inr ⟨rfl, active, active⟩⟩
  | withdrawn opening canSpawn => exact ⟨Or.inl rfl, Or.inr ⟨rfl, active, active⟩⟩
  | releaserJoined stage rest now ended => exact ⟨Or.inl rfl, Or.inr ⟨unreported, active, allowed⟩⟩
  | releaserProceeded now => exact ⟨Or.inl rfl, Or.inr ⟨unreported, active, allowed⟩⟩
  | releaserEnded now answer => exact ⟨Or.inl rfl, Or.inr ⟨unreported, active, allowed⟩⟩

/-- A sweep that has come to an end of its own stays there. -/
theorem reported_step (steps : Steps s sweep move progress)
    (reported : sweep.driver.hasReported = true) : progress.sweep.driver.hasReported = true := by
  cases steps with
  | staged => exact reported
  | cancelled => exact reported
  | releaserJoined => exact reported
  | releaserProceeded => exact reported
  | releaserEnded => exact reported
  | held => rfl
  | unknown => rfl
  | completed => rfl
  | withdrawn opening canSpawn =>
    cases driver : sweep.driver <;> simp [driver, Driver.isOpening,
      Driver.hasReported] at opening reported
  | _ =>
    exfalso
    simp_all [Driver.hasReported]

end Sweep

namespace Sweeper

variable {c next : Sweeper} {move : Move} {shown log : Log} {index : Nat} {e : Engagement}

/-- What a sweep announces is applied to the slot, and silence leaves it alone. -/
theorem heard_eq (c : Sweeper) (announced : Option SlotChange) :
    c.heard announced = (announced.map (c.slot.apply c.holderCancelled)).getD c.slot := by
  cases announced <;> rfl

/-- No announcement is a claim. -/
theorem heard_claim (c : Sweeper) (announced : Option SlotChange) :
    (c.heard announced).generation = c.slot.generation ∧
      (c.heard announced).holder = c.slot.holder := by
  cases announced with
  | none => exact ⟨rfl, rfl⟩
  | some change => exact c.slot.apply_claim c.holderCancelled change

/-- The slot and all engagements of a sweeper belong together. -/
structure Occupancy (c : Sweeper) : Prop where
  tenancy : Tenancy c
  fits : ∀ (i : Nat) (e : Engagement), c.engagements[i]? = some e → Fits c.slot i e

/-- A move of a sweep that is under way moves the slot on with it; a sweep that is not under way
leaves the slot alone. -/
theorem Fits.moved {inner : Sweep.Move} {progress : Sweep.Progress} (fits : Fits c.slot index e)
    (current : e.sweep.driver.isEngaged = true → e.claim ≠ none)
    (made : e.sweep.step? c.settings inner = some progress) :
    Fits (c.heard progress.slot) index { e with sweep := progress.sweep } ∧
      ((c.heard progress.slot).phase = c.slot.phase ∨
        c.slot.phase.MayBecome (c.heard progress.slot).phase) := by
  have steps := Sweep.steps_of_step? made
  obtain ⟨generation, holder⟩ := heard_claim c progress.slot
  have unclaimed (early : progress.sweep.driver = .unclaimed) : e.claim = none :=
    fits.unclaimed (unclaimed_of_step steps early)
  by_cases unfinished : e.IsUnfinished
  · obtain ⟨latest, active, held, allowed⟩ := fits.unfinished unfinished
    obtain ⟨becomes, ended⟩ :=
      Sweep.allowed_step steps c.slot c.holderCancelled unfinished.2 active allowed
    rw [← heard_eq] at becomes ended
    refine ⟨⟨unclaimed, ?_, ?_⟩, becomes⟩
    · intro still
      rcases ended with ⟨reported, -⟩ | ⟨-, under, suits⟩
      · exact absurd (reported.symm.trans still.2) nofun
      · exact ⟨latest.trans (by rw [generation]), under, holder.trans held, suits⟩
    · intro reported _
      rcases ended with ⟨-, idle⟩ | ⟨unreported, -⟩
      · exact idle
      · exact absurd (reported.symm.trans unreported) nofun
  · have silent : progress.slot = none := by
      by_contra announces
      obtain ⟨change, announced⟩ := Option.ne_none_iff_exists'.mp announces
      obtain ⟨engaged, -⟩ := Sweep.announced_of_step steps announced
      refine unfinished ⟨current engaged, ?_⟩
      cases driver : e.sweep.driver <;> simp [driver, Driver.isEngaged,
        Driver.hasReported] at engaged ⊢
    rw [silent]
    refine ⟨⟨unclaimed, ?_, ?_⟩, Or.inl rfl⟩
    · rintro ⟨held, unreported⟩
      refine absurd ⟨held, ?_⟩ unfinished
      by_contra reported
      have ended := Sweep.reported_step steps (by simpa using reported)
      exact absurd (ended.symm.trans unreported) nofun
    · intro reported latest
      apply fits.reported ?_ latest
      by_contra unreported
      exact unfinished
        ⟨by rw [show e.claim = some _ from latest]; exact nofun, by simpa using unreported⟩

/-- Nobody has claimed a new sweeper. -/
theorem Occupancy.fresh (s : Settings) : Occupancy (.ofSettings s) where
  tenancy := .fresh s
  fits i e impossible := by simp [ofSettings] at impossible

/-- After a claim the slot belongs to the engagement that made it. -/
theorem Fits.claimant {slot later : Slot} (free : slot.claim? index = some later) (flag : Bool)
    (caller : Option Nat) : Fits later index ⟨.claimed flag, caller, some later.generation⟩ := by
  obtain ⟨-, phase, -, holder⟩ := claim?_eq_some free
  refine ⟨nofun, ?_, nofun⟩
  intro _
  exact ⟨rfl, by rw [phase]; rfl, holder, by simp [Sweep.claimed, Driver.allows, phase]⟩

/-- Claims that were made before are not the latest any more, and none of them was unfinished. -/
theorem Fits.outdated {slot later : Slot} {claimant : Nat} (fits : Fits slot index e)
    (free : slot.claim? claimant = some later)
    (counted : ∀ generation, e.claim = some generation → generation ≤ slot.generation) :
    Fits later index e := by
  obtain ⟨idle, -, generation, -⟩ := claim?_eq_some free
  apply Fits.unrelated fits.unclaimed
  · intro unfinished
    obtain ⟨-, active, -⟩ := fits.unfinished unfinished
    rw [idle] at active
    cases active
  · intro latest
    have bound := counted later.generation latest
    omega

/-- A move of one sweep keeps the slot and all engagements together. -/
theorem Occupancy.moved (occupancy : Occupancy c) {inner : Sweep.Move} {progress : Sweep.Progress}
    (present : c.engagements[index]? = some e)
    (made : e.sweep.step? c.settings inner = some progress) {i : Nat} {after : Engagement}
    (there : (c.engagements.set index { e with sweep := progress.sweep })[i]? = some after) :
    Fits (c.heard progress.slot) i after := by
  have current (engaged : e.sweep.driver.isEngaged = true) : e.claim = some c.slot.generation :=
    (occupancy.tenancy.current index e present engaged).1
  rcases replace_cases present there with ⟨rfl, rfl⟩ | ⟨different, before⟩
  · refine (Fits.moved (occupancy.fits i e present) ?_ made).1
    intro engaged
    rw [current engaged]
    exact nofun
  · have fits := occupancy.fits i after before
    cases announced : progress.slot with
    | none => exact fits
    | some change =>
      obtain ⟨engaged, -⟩ := Sweep.announced_of_step (Sweep.steps_of_step? made) announced
      apply fits.elsewhere ?_ (heard_claim c (some change)).1
      intro latest
      exact different (occupancy.tenancy.unique i index after e _ before present latest
        (current engaged))

/-- A claim that is given up frees the slot only if it is the latest. -/
theorem Occupancy.gaveUp (occupancy : Occupancy c) {generation : Nat}
    (present : c.engagements[index]? = some e) (held : e.claim = some generation) {i : Nat}
    {after : Engagement}
    (there : (c.engagements.set index { e with claim := none })[i]? = some after) :
    Fits (c.slot.giveUp generation) i after := by
  have counts : (c.slot.giveUp generation).generation = c.slot.generation := by
    simp only [Slot.giveUp]
    split <;> rfl
  rcases replace_cases present there with ⟨rfl, rfl⟩ | ⟨different, before⟩
  · exact .unrelated (fun _ => rfl) (fun unfinished => unfinished.1 rfl)
      (Option.some_ne_none _).symm
  · have fits := occupancy.fits i after before
    by_cases latest : after.claim = some c.slot.generation
    · have older : c.slot.generation ≠ generation := by
        rintro rfl
        exact different (occupancy.tenancy.unique i index after e _ before present latest held)
      simpa only [Slot.giveUp, older, false_and, if_false] using fits
    · exact fits.elsewhere latest counts

/-- A move that leaves the slot alone and neither claims nor drives a sweep keeps slot and
engagements together. -/
theorem Occupancy.aside (occupancy : Occupancy c) {slot : Slot}
    (keeps : ∀ i e, Fits c.slot i e → Fits slot i e) {i : Nat} {after : Engagement}
    {added : Sweep.Chronicle} (reaches : move = .stop ∨ ∃ caller, move = .cancelCaller caller)
    (fate : Fate c i move c.engagements[i]? after added) : Fits slot i after := by
  cases before : c.engagements[i]? with
  | none =>
    rw [before] at fate
    rcases reaches with rfl | ⟨caller, rfl⟩ <;> cases fate
  | some e =>
    have fits := occupancy.fits i e before
    rw [before] at fate
    rcases reaches with rfl | ⟨caller, rfl⟩
    all_goals
      cases fate with
      | spared => exact keeps i _ fits
      | told => exact (keeps i _ fits).told

/-- Every move keeps the slot and the engagements together. -/
theorem Occupancy.step (occupancy : Occupancy c) (steps : Steps c move next shown) :
    Occupancy next := by
  refine ⟨occupancy.tenancy.step steps, ?_⟩
  intro i after there
  cases steps with
  | requested caller =>
    rcases append_cases there with ⟨-, -, rfl⟩ | before
    · exact .unrelated (fun _ => rfl) (fun unfinished => unfinished.1 rfl) nofun
    · exact occupancy.fits i after before
  | started slot free =>
    rcases append_cases there with ⟨rfl, -, rfl⟩ | before
    · exact .claimant free false none
    · exact (occupancy.fits i after before).outdated free fun g =>
        occupancy.tenancy.counted i after g before
  | admitted index flag e slot present unclaimed free =>
    rcases replace_cases present there with ⟨rfl, rfl⟩ | ⟨-, before⟩
    · exact .claimant free flag e.caller
    · exact (occupancy.fits i after before).outdated free fun g =>
        occupancy.tenancy.counted i after g before
  | refused index flag e present unclaimed busy =>
    rcases replace_cases present there with ⟨rfl, rfl⟩ | ⟨-, before⟩
    · have none := (occupancy.fits i e present).unclaimed unclaimed
      refine .unrelated (fun _ => none) (fun unfinished => unfinished.1 none) ?_
      rw [none]
      exact nofun
    · exact occupancy.fits i after before
  | moved index inner e progress present made => exact occupancy.moved present made there
  | gaveUp index e generation present held halted => exact occupancy.gaveUp present held there
  | stopped =>
    exact occupancy.aside (fun _ _ fits => fits.stopped) (Or.inl rfl) (fate_of_steps .stopped there)
  | flagged caller =>
    exact occupancy.aside (fun _ _ fits => fits) (Or.inr ⟨caller, rfl⟩)
      (fate_of_steps (.flagged caller) there)

/-- A move leaves the phase as it is or changes it in one of the ways described. -/
theorem Occupancy.phase_step (occupancy : Occupancy c) (steps : Steps c move next shown) :
    next.slot.phase = c.slot.phase ∨ c.slot.phase.MayBecome next.slot.phase := by
  cases steps with
  | started slot free =>
    obtain ⟨idle, phase, -⟩ := claim?_eq_some free
    rw [show slot.phase = .acquiring from phase]
    exact Or.inr (Phase.mayBecome_acquiring idle)
  | admitted index flag e slot present unclaimed free =>
    obtain ⟨idle, phase, -⟩ := claim?_eq_some free
    rw [show slot.phase = .acquiring from phase]
    exact Or.inr (Phase.mayBecome_acquiring idle)
  | moved index inner e progress present made =>
    refine (Fits.moved (occupancy.fits index e present) ?_ made).2
    intro engaged
    rw [(occupancy.tenancy.current index e present engaged).1]
    exact nofun
  | gaveUp index e generation present held halted =>
    simp only [Slot.giveUp]
    split
    · next latest => exact Or.inr (Phase.mayBecome_stopped latest.2)
    · exact Or.inl rfl
  | stopped =>
    simp only [stop, Slot.stop]
    split
    · next running =>
      rw [running]
      exact Or.inr .drained
    · exact Or.inl rfl
  | _ => exact Or.inl rfl

/-- In every state of a sweeper the slot and the engagements belong together. -/
theorem occupancy_along {s : Settings} {moves : List Move}
    (ran : run? (.ofSettings s) moves = some (c, log)) : Occupancy c := by
  refine Execution.induction_along (motive := fun _ c _ => Occupancy c) (.fresh s) ?_ ran
  intro moves move mid before after shown _ inductionHypothesis stepped
  exact inductionHypothesis.step (steps_of_recorded? stepped)

/-- A sweeper that is not idle never becomes idle again. -/
theorem Occupancy.never_idle (occupancy : Occupancy c) {rest : List Move} {last : Sweeper}
    {later : Log} (ran : run? c rest = some (last, later)) (begun : c.slot.phase ≠ .idle) :
    last.slot.phase ≠ .idle := by
  refine (Execution.induction_along
    (motive := fun _ c _ => Occupancy c ∧ c.slot.phase ≠ .idle) ⟨occupancy, begun⟩ ?_ ran).2
  rintro moves move mid before after shown - ⟨occupied, started⟩ stepped
  have steps := steps_of_recorded? stepped
  refine ⟨occupied.step steps, ?_⟩
  rcases occupied.phase_step steps with same | becomes
  · rwa [same]
  · exact becomes.not_idle

/-- A slot that shows a sweep under way belongs to exactly one unfinished claim. -/
theorem Occupancy.active_iff (occupancy : Occupancy c) : c.slot.phase.isActive = true ↔
    ∃! i : Nat, ∃ e, c.engagements[i]? = some e ∧ e.IsUnfinished := by
  constructor
  · intro active
    obtain ⟨i, e, present, latest⟩ := occupancy.tenancy.occupied active
    have unreported : e.sweep.driver.hasReported = false := by
      by_contra reported
      have idle := (occupancy.fits i e present).reported (by simpa using reported) latest
      rw [active] at idle
      cases idle
    refine ⟨i, ⟨e, present, by rw [latest]; exact nofun, unreported⟩, ?_⟩
    rintro j ⟨f, there, unfinished⟩
    exact occupancy.tenancy.unique j i f e _ there present
      ((occupancy.fits j f there).unfinished unfinished).1 latest
  · rintro ⟨i, ⟨e, present, unfinished⟩, -⟩
    exact ((occupancy.fits i e present).unfinished unfinished).2.1

/-- Giving up a claim that is finished, or not the latest, does not change the slot. -/
theorem Occupancy.giveUp_harmless (occupancy : Occupancy c)
    (present : c.engagements[index]? = some e)
    (harmless : e.sweep.driver.hasReported = true ∨ e.claim ≠ some c.slot.generation)
    (gave : c.recorded? (.giveUp index) = some (next, shown)) : next.slot = c.slot := by
  cases steps_of_recorded? gave with
  | gaveUp _ f generation there held halted =>
    obtain rfl : e = f := Option.some.inj (present.symm.trans there)
    simp only [Slot.giveUp]
    rw [if_neg]
    rintro ⟨rfl, active⟩
    rcases harmless with reported | older
    · have idle := (occupancy.fits index e present).reported reported held
      rw [active] at idle
      cases idle
    · exact older held

/-- A sweeper that is busy refuses every claim, and a refused claim touches only the sweep that made
it. -/
theorem refused_of_active (active : c.slot.phase.isActive = true) :
    c.recorded? .start = none ∧
      ∀ (i : Nat) (flag : Bool) (next : Sweeper) (shown : Log),
        c.recorded? (.claim i flag) = some (next, shown) →
          next.slot = c.slot ∧ next.outcome? i = some .alreadyRunning ∧
            shown = [(i, .driver, .logged busyLine)] ∧
              ∀ j, j ≠ i → next.engagements[j]? = c.engagements[j]? := by
  have busy (i : Nat) : c.slot.claim? i = none := by simp only [Slot.claim?, active, if_true]
  refine ⟨by simp only [recorded?, step?, busy, Option.map_none], ?_⟩
  intro i flag next shown claimed
  cases steps_of_recorded? claimed with
  | admitted _ _ e slot present unclaimed free =>
    rw [busy] at free
    cases free
  | refused _ _ e present unclaimed =>
    refine ⟨rfl, ?_, rfl, ?_⟩
    · simp only [outcome?, replace,
        List.getElem?_set_self (List.getElem?_eq_some_iff.mp present).1]
    · intro j different
      exact List.getElem?_set_ne (Ne.symm different)

/-- The slot of a sweeper follows its claims. In every execution of a sweeper, with claims of every
kind, drops and crashes anywhere and claims that are given up late:

* the phase is active if and only if exactly one claim is unfinished, and then the slot counts that
  claim as the latest and raises the flag of that sweep on a stop request;
* the phase changes only along the listed changes, and never back to idle;
* giving up a finished or an older claim does not change the slot;
* a refused claim changes neither the slot nor another sweep, and calls nothing. -/
theorem slot_follows_claims {s : Settings} {moves : List Move}
    (ran : run? (.ofSettings s) moves = some (c, log)) :
    (c.slot.phase.isActive = true ↔ ∃! i : Nat, ∃ e, c.engagements[i]? = some e ∧ e.IsUnfinished) ∧
      (∀ (i : Nat) (e : Engagement), c.engagements[i]? = some e → e.IsUnfinished →
        e.claim = some c.slot.generation ∧ c.slot.holder = some i) ∧
      (∀ (move : Move) (next : Sweeper) (shown : Log), c.recorded? move = some (next, shown) →
        next.slot.phase = c.slot.phase ∨ c.slot.phase.MayBecome next.slot.phase) ∧
      (∀ (rest : List Move) (last : Sweeper) (later : Log), run? c rest = some (last, later) →
        c.slot.phase ≠ .idle → last.slot.phase ≠ .idle) ∧
      (∀ (i : Nat) (e : Engagement) (next : Sweeper) (shown : Log), c.engagements[i]? = some e →
        e.sweep.driver.hasReported = true ∨ e.claim ≠ some c.slot.generation →
          c.recorded? (.giveUp i) = some (next, shown) → next.slot = c.slot) ∧
      (c.slot.phase.isActive = true → c.recorded? .start = none ∧
        ∀ (i : Nat) (flag : Bool) (next : Sweeper) (shown : Log),
          c.recorded? (.claim i flag) = some (next, shown) →
            next.slot = c.slot ∧ next.outcome? i = some .alreadyRunning ∧
              shown = [(i, .driver, .logged busyLine)] ∧
                ∀ j, j ≠ i → next.engagements[j]? = c.engagements[j]?) := by
  have occupancy := occupancy_along ran
  refine ⟨occupancy.active_iff, ?_, ?_, ?_, ?_, refused_of_active⟩
  · intro i e present unfinished
    obtain ⟨latest, -, holder, -⟩ := (occupancy.fits i e present).unfinished unfinished
    exact ⟨latest, holder⟩
  · intro move next shown stepped
    exact occupancy.phase_step (steps_of_recorded? stepped)
  · intro rest last later continued begun
    exact occupancy.never_idle continued begun
  · intro i e next shown present harmless gave
    exact occupancy.giveUp_harmless present harmless gave

/-- The moves of a sweep that finds the guard held, and of a second one that claims the sweeper
before the first gives up its claim. -/
def lateEnd : List Move :=
  [.start, .sweep 0 .begin, .sweep 0 (.guardChecked (.value true)), .start]

/-- The claim that is given up late leaves the slot to the second sweep. -/
theorem slot_follows_claims_lateEnd : ∃ c log next shown,
    run? (.ofSettings (.ofPattern "a*" 10)) lateEnd = some (c, log) ∧
      c.recorded? (.giveUp 0) = some (next, shown) ∧ c.slot.phase = .acquiring ∧
      c.slot.holder = some 1 ∧ next.slot = c.slot ∧
      ∃! i : Nat, ∃ e, c.engagements[i]? = some e ∧ e.IsUnfinished := by
  have seen : ((run? (.ofSettings (.ofPattern "a*" 10)) lateEnd).bind fun reached =>
      (reached.1.recorded? (.giveUp 0)).map fun _ => (reached.1.slot, reached.1.engagements[0]?)) =
      some (⟨.acquiring, 2, some 1, none⟩,
        some ⟨⟨.finished .alreadyRunning, .waiting false, .absent⟩, none, some 1⟩) := by
          decide +kernel
  obtain ⟨⟨c, log⟩, ran, rest⟩ := Option.bind_eq_some_iff.mp seen
  obtain ⟨⟨next, shown⟩, gave, same⟩ := Option.map_eq_some_iff.mp rest
  simp only [Prod.mk.injEq] at same
  obtain ⟨slot, present⟩ := same
  obtain ⟨active, -, -, -, harmless, -⟩ := slot_follows_claims ran
  refine ⟨c, log, next, shown, ran, gave, by rw [slot], by rw [slot], ?_, ?_⟩
  · exact harmless 0 _ next shown present (Or.inl rfl) gave
  · exact active.mp (by rw [slot]; rfl)

end Sweeper

end KeySweeper
