import KeySweeper.Proofs.Occupancy
import KeySweeper.Proofs.Order

/-!
# A stop request and a caller's flag

A sweep can be told to wind down in two ways. A stop request raises the flag of the latest claim and
shows in the slot; a caller's flag reaches every sweep that claimed below it and shows nowhere. Here
the two are compared: the same sweeper goes on by the same moves, once after the one and once after
the other.

All that is done, logged and reported is the same. What can differ is the phase: a sweep whose
stages were at work shows as draining after a stop request, and after its caller's flag it goes on
to show as running until its stages have been waited for. The proof is a simulation. The two
sweepers agree but for that phase, and but for flags of sweeps that are over and never started a
stage, which nobody looks at any more.

A later claim brings along what it finds of its caller's flag, as any move brings its answers along;
so a schedule in which the raised flag is seen by a later claim is the same schedule for both.
-/

namespace KeySweeper

/-- Telling the stages to wind down makes no difference any more: none was started, or they were
told. -/
def Work.IsSettled (work : Work) : Prop := (∃ flag, work = .waiting flag) ∨ work.isCancelled = true

/-- Telling work to wind down that was told leaves it as it is. -/
theorem Work.cancel_of_isCancelled {work : Work} (told : work.isCancelled = true) :
    work.cancel = work := by
  cases work with
  | waiting flag =>
    obtain rfl : flag = true := told
    rfl
  | running p =>
    obtain ⟨⟨cancelled, deleted⟩, scanner, candidates, filter, matched, deleter⟩ := p
    obtain rfl : cancelled = true := told
    rfl

namespace Sweep

variable {s : Settings} {sweep : Sweep} {move : Move} {progress : Progress}

/-- Whether a sweep has left its stages behind: it releases the guard or is over. -/
def HasLeft (sweep : Sweep) : Prop :=
  sweep.driver = .releasing ∨ Sweeper.isOver sweep.driver = true

/-- A sweep that has left its stages behind has told them to wind down, or never started them. -/
theorem settled_step (opening : sweep.Opening) (settled : sweep.HasLeft → sweep.work.IsSettled)
    (steps : Steps s sweep move progress) :
    progress.sweep.HasLeft → progress.sweep.work.IsSettled := by
  have idle (early : sweep.driver.isOpening = true) : sweep.work.IsSettled := Or.inl (opening early)
  have told : sweep.work.cancel.IsSettled := Or.inr sweep.work.isCancelled_cancel
  cases steps with
  | held checking => exact fun _ => idle (by rw [checking]; rfl)
  | unknown checking cause => exact fun _ => idle (by rw [checking]; rfl)
  | checkCrashed checking text => exact fun _ => idle (by rw [checking]; rfl)
  | markCrashed marking text => exact fun _ => idle (by rw [marking]; rfl)
  | withdrawn early canSpawn => exact fun _ => idle early
  | proceeded joining => exact fun _ => told
  | cancelled => exact fun _ => told
  | passedOn rest joining => exact fun _ => told
  | left rest joining => exact fun _ => told
  | abandoned releasing canSpawn => exact fun _ => told
  | completed releasing answer back elapsed finishedAt => exact fun _ => settled (Or.inl releasing)
  | releaseCrashed releasing text elapsed finishedAt => exact fun _ => settled (Or.inl releasing)
  | releaserJoined stage rest joining ended => exact settled
  | releaserProceeded joining => exact settled
  | releaserEnded releasing answer => exact settled
  | staged stageMove p next shown running stepped =>
    intro left
    rcases settled left with ⟨flag, waiting⟩ | cancelled
    · rw [running] at waiting
      cases waiting
    · rw [running] at cancelled
      exact Or.inr (Pipeline.cancelled_step stepped cancelled)
  | begun claimed => rintro (now | halted) <;> simp_all [Sweeper.isOver]
  | free checking => rintro (now | halted) <;> simp_all [Sweeper.isOver]
  | acquired marking answer back => rintro (now | halted) <;> simp_all [Sweeper.isOver]
  | joined stage rest joining ended => rintro (now | halted) <;> simp_all [Sweeper.isOver]

/-- In every execution a sweep that has left its stages behind has told them to wind down, or never
started them. -/
theorem settled_along {flag : Bool} {moves : List Move} {log : Chronicle}
    (ran : run? s (.claimed flag) moves = some (sweep, log)) :
    sweep.HasLeft → sweep.work.IsSettled := by
  refine Execution.induction_along (motive := fun _ sweep _ => sweep.HasLeft → sweep.work.IsSettled)
    (fun _ => Or.inl ⟨flag, rfl⟩) ?_ ran
  intro moves move mid before next shown reached inductionHypothesis stepped
  obtain ⟨progress, made, rfl, -⟩ := recorded?_eq_some stepped
  exact settled_step (opening_along reached) inductionHypothesis (steps_of_step? made)

/-- Two sweeps that are over and started no stage move alike, whatever their flags say. -/
theorem step_of_over_waiting {driver : Driver} (halted : Sweeper.isOver driver = true)
    (releaser : Releaser) (first second : Bool) (move : Move) :
    Option.Rel
      (fun a b : Progress => b.effects = a.effects ∧ a.slot = none ∧ b.slot = none ∧
        ∃ one other left, a.sweep = ⟨driver, .waiting one, left⟩ ∧
          b.sweep = ⟨driver, .waiting other, left⟩)
      ((⟨driver, .waiting first, releaser⟩ : Sweep).step? s move)
      ((⟨driver, .waiting second, releaser⟩ : Sweep).step? s move) := by
  have ended : (∃ outcome, driver = .finished outcome) ∨ driver = .dropped := by
    cases driver with
    | finished outcome => exact Or.inl ⟨outcome, rfl⟩
    | dropped => exact Or.inr rfl
    | _ => cases halted
  cases move with
  | cancel => exact .some ⟨rfl, rfl, rfl, true, true, releaser, rfl, rfl⟩
  | stage move => exact .none
  | releaserJoin =>
    cases releaser with
    | joining rest =>
      cases rest with
      | nil => exact .none
      | cons stage rest => exact .none
    | _ => exact .none
  | releaserProceed =>
    cases releaser with
    | joining rest =>
      cases rest with
      | nil => exact .some ⟨rfl, rfl, rfl, first, second, .releasing, rfl, rfl⟩
      | cons stage rest => exact .none
    | _ => exact .none
  | releaserReleased answer =>
    cases releaser with
    | releasing => exact .some ⟨rfl, rfl, rfl, first, second, .ended, rfl, rfl⟩
    | _ => exact .none
  | _ =>
    rcases ended with ⟨outcome, rfl⟩ | rfl
    · exact .none
    · exact .none

end Sweep

/-- Two engagements that nobody can tell apart: they are the same, or their sweeps are over, started
no stage, and differ in their flags. -/
inductive Engagement.Alike : Engagement → Engagement → Prop where
  /-- They are the same. -/
  | same (e : Engagement) : Alike e e
  /-- Their flags are looked at by nobody. -/
  | ended (driver : Driver) (releaser : Releaser) (first second : Bool) (caller claim : Option Nat)
      (halted : Sweeper.isOver driver = true) :
      Alike ⟨⟨driver, .waiting first, releaser⟩, caller, claim⟩
        ⟨⟨driver, .waiting second, releaser⟩, caller, claim⟩

namespace Engagement

variable {e f : Engagement}

/-- Engagements that cannot be told apart are at the same point of their way. -/
theorem Alike.agree (alike : Alike e f) : f.sweep.driver = e.sweep.driver ∧
    f.sweep.releaser = e.sweep.releaser ∧ f.caller = e.caller ∧ f.claim = e.claim := by
  cases alike <;> exact ⟨rfl, rfl, rfl, rfl⟩

/-- Only engagements that are over can differ. -/
theorem Alike.eq (alike : Alike e f) (going : Sweeper.isOver e.sweep.driver = false) : f = e := by
  cases alike with
  | same => rfl
  | ended driver releaser first second caller claim halted =>
    exact absurd (halted.symm.trans going) nofun

/-- Both wait for the same calls. -/
theorem Alike.pending (alike : Alike e f) (s : Settings) (part : Sweep.Part) :
    f.sweep.pending? s part = e.sweep.pending? s part := by
  cases alike with
  | same => rfl
  | ended => cases part <;> rfl

/-- Telling both to wind down keeps them alike. -/
theorem Alike.told (alike : Alike e f) : Alike (Sweeper.cancelSweep e) (Sweeper.cancelSweep f) := by
  cases alike with
  | same => exact .same _
  | ended driver releaser first second caller claim halted => exact .same _

/-- Both give up their claim. -/
theorem Alike.unclaim (alike : Alike e f) :
    Alike { e with claim := none } { f with claim := none } := by
  cases alike with
  | same => exact .same _
  | ended driver releaser first second caller claim halted =>
    exact .ended driver releaser first second caller none halted

/-- Telling a sweep that is over to wind down changes nothing that anybody looks at, if its stages
were told or never started. -/
theorem alike_told (halted : Sweeper.isOver e.sweep.driver = true)
    (settled : e.sweep.work.IsSettled) :
    Alike (Sweeper.cancelSweep e) e := by
  obtain ⟨⟨driver, work, releaser⟩, caller, claim⟩ := e
  rcases settled with ⟨flag, rfl⟩ | cancelled
  · exact .ended driver releaser true flag caller claim halted
  · simp only [Sweeper.cancelSweep, Work.cancel_of_isCancelled cancelled]
    exact .same _

/-- Engagements that cannot be told apart move alike. What they announce comes from the same
sweep. -/
theorem Alike.step (alike : Alike e f) (s : Settings) (move : Sweep.Move) :
    Option.Rel
      (fun a b : Sweep.Progress => b.effects = a.effects ∧
        (f = e ∧ b = a ∨ a.slot = none ∧ b.slot = none) ∧
        Alike { e with sweep := a.sweep } { f with sweep := b.sweep })
      (e.sweep.step? s move) (f.sweep.step? s move) := by
  cases alike with
  | same =>
    cases e.sweep.step? s move with
    | none => exact .none
    | some progress => exact .some ⟨rfl, Or.inl ⟨rfl, rfl⟩, .same _⟩
  | ended driver releaser first second caller claim halted =>
    have pair := Sweep.step_of_over_waiting (s := s) halted releaser first second move
    dsimp only
    generalize Sweep.step? s ⟨driver, .waiting first, releaser⟩ move = one at pair ⊢
    generalize Sweep.step? s ⟨driver, .waiting second, releaser⟩ move = other at pair ⊢
    cases pair with
    | none => exact .none
    | some both =>
      obtain ⟨shown, quiet, silent, flag, sign, left, near, far⟩ := both
      refine .some ⟨shown, Or.inr ⟨quiet, silent⟩, ?_⟩
      rw [near, far]
      exact .ended driver left flag sign caller claim halted

end Engagement

namespace Sweeper

/-- What a caller's flag does to an engagement. -/
def flagged (caller : Nat) (e : Engagement) : Engagement :=
  if e.caller = some caller ∧ e.sweep.driver ≠ .unclaimed then cancelSweep e else e

/-- A stop request reaches both of two engagements or neither. -/
theorem Alike.stopped {e f : Engagement} (alike : e.Alike f) (holder : Option Nat) (i : Nat) :
    (stopped holder i e).Alike (stopped holder i f) := by
  simp only [Sweeper.stopped]
  split
  · exact alike.told
  · exact alike

/-- A caller's flag reaches both of two engagements or neither. -/
theorem Alike.flagged {e f : Engagement} (alike : e.Alike f) (caller : Nat) :
    (flagged caller e).Alike (flagged caller f) := by
  obtain ⟨driver, -, below, -⟩ := alike.agree
  simp only [Sweeper.flagged, driver, below]
  split
  · exact alike.told
  · exact alike

/-- The engagements of two sweepers, one by one alike. -/
structure AllAlike (first second : List Engagement) : Prop where
  length : second.length = first.length
  each : ∀ i : Nat, Option.Rel Engagement.Alike first[i]? second[i]?

section AllAlike

variable {first second : List Engagement} {e f : Engagement}

/-- An engagement of the first has its like in the second. -/
theorem AllAlike.like (all : AllAlike first second) {i : Nat} (present : first[i]? = some e) :
    ∃ f, second[i]? = some f ∧ e.Alike f := by
  have pair := all.each i
  rw [present] at pair
  generalize second[i]? = there at pair
  cases pair with
  | some alike => exact ⟨_, rfl, alike⟩

/-- Where the first has no engagement, neither has the second. -/
theorem AllAlike.missing (all : AllAlike first second) {i : Nat} (absent : first[i]? = none) :
    second[i]? = none := by
  have pair := all.each i
  rw [absent] at pair
  generalize second[i]? = there at pair
  cases pair with
  | none => rfl

/-- A new engagement comes to both. -/
theorem AllAlike.append (all : AllAlike first second) (e : Engagement) :
    AllAlike (first ++ [e]) (second ++ [e]) := by
  refine ⟨by simp only [List.length_append, all.length], fun i => ?_⟩
  simp only [List.getElem?_append, all.length]
  split
  · exact all.each i
  · cases [e][i - first.length]? with
    | none => exact .none
    | some f => exact .some (.same f)

/-- An engagement is replaced in both. -/
theorem AllAlike.set (all : AllAlike first second) (alike : e.Alike f) (i : Nat) :
    AllAlike (first.set i e) (second.set i f) := by
  refine ⟨by simp only [List.length_set, all.length], fun j => ?_⟩
  simp only [List.getElem?_set, all.length]
  split
  · split
    · exact .some alike
    · exact .none
  · exact all.each j

/-- Both are changed everywhere in one way that keeps engagements alike. -/
theorem AllAlike.changed (all : AllAlike first second) {left right : List Engagement}
    (change : Nat → Engagement → Engagement)
    (near : ∀ i : Nat, left[i]? = first[i]?.map (change i))
    (far : ∀ i : Nat, right[i]? = second[i]?.map (change i))
    (lefts : left.length = first.length) (rights : right.length = second.length)
    (keeps : ∀ i e f, Engagement.Alike e f → Engagement.Alike (change i e) (change i f)) :
    AllAlike left right := by
  refine ⟨by rw [lefts, rights, all.length], fun i => ?_⟩
  rw [near, far]
  have pair := all.each i
  generalize first[i]? = one at pair
  generalize second[i]? = other at pair
  cases pair with
  | none => exact .none
  | some alike => exact .some (keeps i _ _ alike)

end AllAlike

/-- Two sweepers that differ at most in the flags of sweeps that are over and in the phase. The
phase of the first may lag behind: during one claim it may show as running what the second shows as
draining. -/
structure Twins (lag : Option Nat) (first second : Sweeper) : Prop where
  occupancy : Occupancy first
  settings : second.settings = first.settings
  engagements : AllAlike first.engagements second.engagements
  slot : second.slot = if lag = some first.slot.generation then first.slot.stop else first.slot
  entered : lag = some first.slot.generation → first.slot.phase ≠ .acquiring
  counted : ∀ generation, lag = some generation → generation ≤ first.slot.generation

section Twins

variable {lag : Option Nat} {first second : Sweeper}

/-- Both slots count the same claims, keep the same report and are busy at the same time. -/
theorem Twins.slots (twins : Twins lag first second) :
    second.slot.generation = first.slot.generation ∧ second.slot.holder = first.slot.holder ∧
      second.slot.phase.isActive = first.slot.phase.isActive := by
  obtain ⟨generation, active⟩ := stop_slot first.slot
  rw [twins.slot]
  split
  · refine ⟨generation, ?_, active⟩
    simp only [Slot.stop]
    split <;> rfl
  · exact ⟨rfl, rfl, rfl⟩

/-- A claim that one of them admits is admitted by the other, and after it their slots are the
same. -/
theorem Twins.claim (twins : Twins lag first second) (index : Nat) :
    second.slot.claim? index = first.slot.claim? index := by
  obtain ⟨-, -, busy⟩ := twins.slots
  simp only [Slot.claim?, busy]
  split
  · rfl
  · next idle =>
    have same : second.slot = first.slot := by
      rw [twins.slot]
      split
      · rw [Slot.stop, if_neg]
        intro running
        rw [running] at idle
        exact idle rfl
      · rfl
    rw [same]

/-- After a claim nothing lags behind any more. -/
theorem Twins.claimed (twins : Twins lag first second) {index : Nat} {slot : Slot}
    (free : first.slot.claim? index = some slot) {near far : List Engagement}
    (occupancy : Occupancy { first with slot, engagements := near })
    (engagements : AllAlike near far) :
    Twins lag { first with slot, engagements := near }
    { second with slot, engagements := far } := by
  obtain ⟨-, -, generation, -⟩ := claim?_eq_some free
  have fresh : lag ≠ some slot.generation := by
    intro same
    have bound := twins.counted slot.generation same
    omega
  refine ⟨occupancy, twins.settings, engagements, ?_, fun same => absurd same fresh, ?_⟩
  · exact (if_neg fresh).symm
  · intro older lagging
    have bound := twins.counted older lagging
    show older ≤ slot.generation
    omega

/-- What is written to both slots keeps them together, if it makes no claim and it does not matter
whether a stop request comes before it or after it. -/
theorem Twins.written (twins : Twins lag first second) (write : Slot → Slot)
    {near far : List Engagement}
    (generation : (write first.slot).generation = first.slot.generation)
    (commutes : write first.slot.stop = (write first.slot).stop)
    (onward : first.slot.phase ≠ .acquiring → (write first.slot).phase ≠ .acquiring)
    (occupancy : Occupancy { first with slot := write first.slot, engagements := near })
    (engagements : AllAlike near far) :
    Twins lag { first with slot := write first.slot, engagements := near }
      { second with slot := write second.slot, engagements := far } := by
  refine ⟨occupancy, twins.settings, engagements, ?_, ?_, ?_⟩
  · show write second.slot = if lag = some (write first.slot).generation then _ else _
    rw [twins.slot, generation]
    split
    · exact commutes
    · rfl
  · intro lagging
    exact onward (twins.entered (lagging.trans (congrArg some generation)))
  · intro older lagging
    exact Nat.le_trans (twins.counted older lagging) (Nat.le_of_eq generation.symm)

/-- A claim is given up in the same way before and after a stop request. -/
theorem giveUp_stop (slot : Slot) (generation : Nat) :
    slot.stop.giveUp generation = (slot.giveUp generation).stop := by
  obtain ⟨phase, counted, holder, report⟩ := slot
  by_cases latest : counted = generation
  · cases phase <;> simp [Slot.giveUp, Slot.stop, Phase.isActive, latest]
  · cases phase <;> simp [Slot.giveUp, Slot.stop, latest]

/-- A stage that starts is started by the sweep that the slot speaks of, while the slot shows that
the guard is asked for. -/
theorem Occupancy.acquiring_of_enter {c : Sweeper} (occupancy : Occupancy c) {index : Nat}
    {e : Engagement} {inner : Sweep.Move} {progress : Sweep.Progress}
    (present : c.engagements[index]? = some e)
    (made : e.sweep.step? c.settings inner = some progress)
    (announced : progress.slot = some .enter) :
    c.slot.phase = .acquiring ∧ c.slot.holder = some index := by
  have marking : e.sweep.driver = .marking := by
    cases Sweep.steps_of_step? made with
    | acquired marking => exact marking
    | _ => cases announced
  obtain ⟨latest, -⟩ := occupancy.tenancy.current index e present (by rw [marking]; rfl)
  obtain ⟨-, -, holder, allowed⟩ := (occupancy.fits index e present).unfinished
    ⟨by rw [latest]; exact Option.some_ne_none _, by rw [marking]; rfl⟩
  rw [marking] at allowed
  exact ⟨by simpa [Driver.allows] using allowed, holder⟩

/-- What a sweep of the first announces, its like in the second announces, and the slots stay
together. -/
theorem Twins.heard (twins : Twins lag first second) {index : Nat} {e : Engagement}
    {inner : Sweep.Move} {progress : Sweep.Progress} (present : first.engagements[index]? = some e)
    (beside : second.engagements[index]? = some e)
    (made : e.sweep.step? first.settings inner = some progress) {near far : List Engagement}
    (occupancy : Occupancy { first with slot := first.heard progress.slot, engagements := near })
    (engagements : AllAlike near far) :
    Twins lag { first with slot := first.heard progress.slot, engagements := near }
      { second with slot := second.heard progress.slot, engagements := far } := by
  cases announced : progress.slot with
  | none =>
    rw [announced] at occupancy
    exact twins.written id rfl rfl id occupancy engagements
  | some change =>
    rw [announced] at occupancy
    cases change with
    | enter =>
      obtain ⟨acquiring, holder⟩ := twins.occupancy.acquiring_of_enter present made announced
      have current : lag ≠ some first.slot.generation :=
        fun lagging => twins.entered lagging acquiring
      have same : second.slot = first.slot := by rw [twins.slot, if_neg current]
      have flag : second.holderCancelled = first.holderCancelled := by
        simp only [holderCancelled, same, holder, Option.bind_some, present, beside]
      refine ⟨occupancy, twins.settings, engagements, ?_, fun lagging => absurd lagging current,
        twins.counted⟩
      show second.slot.apply second.holderCancelled .enter = if lag = some first.slot.generation
        then _ else _
      rw [same, flag, if_neg current]
      rfl
    | drain =>
      exact twins.written (fun slot => { slot with phase := .draining }) rfl
        (by simp only [Slot.stop]; split <;> rfl) (fun _ => Phase.noConfusion) occupancy engagements
    | rest =>
      exact twins.written (fun slot => { slot with phase := .stopped }) rfl
        (by simp only [Slot.stop]; split <;> rfl) (fun _ => Phase.noConfusion) occupancy engagements
    | complete report =>
      exact twins.written
        (fun slot => { slot with phase := .stopped, lastReport := some report }) rfl
        (by simp only [Slot.stop]; split <;> rfl) (fun _ => Phase.noConfusion) occupancy engagements

/-- A sweep that has claimed does not claim again. -/
theorem recorded?_claim_of_claimed {c : Sweeper} {index : Nat} {e : Engagement} {flag : Bool}
    (present : c.engagements[index]? = some e) (claimed : e.sweep.driver ≠ .unclaimed) :
    c.recorded? (.claim index flag) = none := by
  simp only [recorded?, step?, claim?, present, Option.map_none]

/-- What one of them does by a move, the other does, and it shows the same. -/
theorem Twins.step (twins : Twins lag first second) (move : Move) :
    Option.Rel (fun a b => Twins lag a.1 b.1 ∧ a.2 = b.2)
      (first.recorded? move) (second.recorded? move) := by
  have on {after : Sweeper} {shown : Log} (steps : Steps first move after shown) :
      Occupancy after :=
    twins.occupancy.step steps
  cases move with
  | request caller =>
    exact .some
      ⟨twins.written id rfl rfl id (on (.requested caller)) (twins.engagements.append _), rfl⟩
  | start =>
    cases free : first.slot.claim? first.engagements.length with
    | none =>
      have busy := (twins.claim first.engagements.length).trans free
      simp only [recorded?, step?, twins.engagements.length, free, busy, Option.map_none]
      exact .none
    | some slot =>
      have admitted := (twins.claim first.engagements.length).trans free
      rw [recorded?_started free, recorded?_started (twins.engagements.length.symm ▸ admitted)]
      exact .some ⟨twins.claimed free (on (.started slot free)) (twins.engagements.append _), rfl⟩
  | claim index flag =>
    cases present : first.engagements[index]? with
    | none =>
      have absent := twins.engagements.missing present
      simp only [recorded?, step?, claim?, present, absent, Option.map_none]
      exact .none
    | some e =>
      obtain ⟨f, beside, alike⟩ := twins.engagements.like present
      by_cases unclaimed : e.sweep.driver = .unclaimed
      · obtain rfl := alike.eq (by rw [unclaimed]; rfl)
        cases free : first.slot.claim? index with
        | none =>
          have busy := (twins.claim index).trans free
          simp only [recorded?, step?, claim?, present, beside, unclaimed, free, busy,
            Option.map_some]
          exact .some
            ⟨twins.written id rfl rfl id (on (.refused index flag f present unclaimed free))
              (twins.engagements.set (.same _) index), rfl⟩
        | some slot =>
          have admitted := (twins.claim index).trans free
          rw [recorded?_admitted present unclaimed free,
            recorded?_admitted beside unclaimed admitted]
          exact .some ⟨twins.claimed free (on (.admitted index flag f slot present unclaimed free))
            (twins.engagements.set (.same _) index), rfl⟩
      · have also : f.sweep.driver ≠ .unclaimed := by rwa [alike.agree.1]
        rw [recorded?_claim_of_claimed present unclaimed, recorded?_claim_of_claimed beside also]
        exact .none
  | sweep index inner =>
    cases present : first.engagements[index]? with
    | none =>
      have absent := twins.engagements.missing present
      simp only [recorded?, step?, sweepStep?, present, absent, Option.map_none]
      exact .none
    | some e =>
      obtain ⟨f, beside, alike⟩ := twins.engagements.like present
      have pair := alike.step first.settings inner
      cases made : e.sweep.step? first.settings inner with
      | none =>
        rw [made] at pair
        have stuck : f.sweep.step? second.settings inner = none := by
          rw [twins.settings]
          generalize f.sweep.step? first.settings inner = other at pair
          cases pair
          rfl
        simp only [recorded?, step?, sweepStep?, present, beside, made, stuck, Option.map_none]
        exact .none
      | some progress =>
        rw [made] at pair
        obtain ⟨advance, also, shown, source, still⟩ : ∃ advance,
            f.sweep.step? second.settings inner = some advance ∧
            advance.effects = progress.effects ∧
              (f = e ∧ advance = progress ∨ progress.slot = none ∧ advance.slot = none) ∧
                Engagement.Alike { e with sweep := progress.sweep } { f with
                  sweep := advance.sweep } := by
          rw [twins.settings]
          generalize f.sweep.step? first.settings inner = other at pair
          cases pair with
          | some both => exact ⟨_, rfl, both⟩
        have occupancy := on (.moved index inner e progress present made)
        have all := twins.engagements.set still index
        rw [recorded?_moved present made, recorded?_moved beside also, shown]
        refine .some ⟨?_, rfl⟩
        rcases source with ⟨rfl, rfl⟩ | ⟨silent, quiet⟩
        · exact twins.heard present beside made occupancy all
        · rw [silent] at occupancy ⊢
          rw [quiet]
          exact twins.written id rfl rfl id occupancy all
  | giveUp index =>
    cases present : first.engagements[index]? with
    | none =>
      have absent := twins.engagements.missing present
      simp only [recorded?, step?, giveUp?, present, absent, Option.map_none]
      exact .none
    | some e =>
      obtain ⟨f, beside, alike⟩ := twins.engagements.like present
      obtain ⟨driver, -, -, claim⟩ := alike.agree
      cases held : e.claim with
      | none =>
        simp only [recorded?, step?, giveUp?, present, beside, claim, held, Option.map_none]
        exact .none
      | some generation =>
        by_cases halted : isOver e.sweep.driver = true
        · simp only [recorded?, step?, giveUp?, present, beside, claim, held, driver,
            halted, if_true, Option.map_some]
          refine .some ⟨twins.written (·.giveUp generation) ?_ (giveUp_stop _ _) ?_
            (on (.gaveUp index e generation present held halted))
            (twins.engagements.set alike.unclaim index), rfl⟩
          · simp only [Slot.giveUp]
            split <;> rfl
          · intro other
            simp only [Slot.giveUp]
            split
            · exact Phase.noConfusion
            · exact other
        · simp only [recorded?, step?, giveUp?, present, beside, claim, held, driver, halted]
          exact .none
  | stop =>
    refine .some ⟨twins.written Slot.stop (stop_slot first.slot).1 rfl ?_ (on .stopped) ?_, rfl⟩
    · intro other
      simp only [Slot.stop]
      split
      · exact Phase.noConfusion
      · exact other
    · exact twins.engagements.changed (stopped first.slot.holder) (stop_getElem? first)
        (twins.slots.2.1 ▸ stop_getElem? second) (length_stop first) (length_stop second)
        (fun i _ _ alike => Alike.stopped alike first.slot.holder i)
  | cancelCaller caller =>
    exact .some ⟨twins.written id rfl rfl id (on (.flagged caller))
      (twins.engagements.changed (fun _ => flagged caller) (fun _ => List.getElem?_map)
        (fun _ => List.getElem?_map) (List.length_map _) (List.length_map _)
        (fun _ _ _ alike => Alike.flagged alike caller)), rfl⟩

end Twins

variable {s : Settings} {moves : List Move} {c : Sweeper} {log : Log}

/-- In every state the sweeps that have left their stages behind have told them to wind down, or
never started them. -/
theorem settled_of_run (ran : run? (.ofSettings s) moves = some (c, log)) {j : Nat} {e : Engagement}
    (present : c.engagements[j]? = some e) (left : e.sweep.HasLeft) : e.sweep.work.IsSettled := by
  rcases (origins_of_run ran).2.come j e present with ⟨idle, -⟩ | ⟨flag, inner, came⟩
  · exact Or.inl idle.work
  · exact Sweep.settled_along came left

/-- The generation during which the phase lags behind after a signal. -/
def lagOf (slot : Slot) : Option Nat := if slot.phase = .running then some slot.generation else none

/-- A signal to the sweep of the latest claim and a stop request lead to sweepers that differ in
nothing but the phase and flags that nobody looks at. -/
theorem twins_of_signal (ran : run? (.ofSettings s) moves = some (c, log)) {i caller : Nat}
    {e : Engagement} (present : c.engagements[i]? = some e) (claimed : e.sweep.driver ≠ .unclaimed)
    (below : e.caller = some caller) (holder : c.slot.holder = some i) :
    Twins (lagOf c.slot) (c.cancelCaller caller) c.stop := by
  have occupancy := occupancy_along ran
  have near (j : Nat) : (c.cancelCaller caller).engagements[j]? =
      c.engagements[j]?.map (flagged caller) :=
    List.getElem?_map
  refine ⟨occupancy.step (.flagged caller), rfl, ⟨?_, ?_⟩, ?_, ?_, ?_⟩
  · rw [length_stop]
    exact (List.length_map _).symm
  · intro j
    rw [near, stop_getElem?, holder]
    cases there : c.engagements[j]? with
    | none => exact .none
    | some f =>
      refine .some ?_
      by_cases same : i = j
      · subst same
        obtain rfl : e = f := Option.some.inj (present.symm.trans there)
        simp only [flagged, stopped, below, claimed, ne_eq, not_false_eq_true, and_self, if_true]
        exact .same _
      · have spared : stopped (some i) j f = f := if_neg fun equal => same (Option.some.inj equal)
        rw [spared]
        simp only [flagged]
        split
        · next reached =>
          -- Only the latest claim can be held by a sweep under way, so this sweep is over.
          have halted : isOver f.sweep.driver = true := by
            by_contra going
            have engaged : f.sweep.driver.isEngaged = true := by
              have other := reached.2
              cases driver : f.sweep.driver <;> simp_all [isOver, Driver.isEngaged]
            obtain ⟨latest, -⟩ := occupancy.tenancy.current j f there engaged
            obtain ⟨-, -, held, -⟩ := (occupancy.fits j f there).unfinished
              ⟨by rw [latest]; exact Option.some_ne_none _, by
                cases driver : f.sweep.driver <;> simp_all [Driver.isEngaged, Driver.hasReported]⟩
            exact same (Option.some.inj (holder.symm.trans held))
          exact Engagement.alike_told halted (settled_of_run ran there (Or.inr halted))
        · exact .same f
  · show c.slot.stop = if lagOf c.slot = some c.slot.generation then c.slot.stop else c.slot
    by_cases running : c.slot.phase = .running
    · simp only [lagOf, running, if_true]
    · simp only [lagOf, Slot.stop, running, if_false]
      rw [if_neg (Option.some_ne_none _).symm]
  · intro lagging acquiring
    have acquiring : c.slot.phase = .acquiring := acquiring
    have lagging : lagOf c.slot = some c.slot.generation := lagging
    rw [lagOf, acquiring, if_neg Phase.noConfusion] at lagging
    cases lagging
  · intro generation lagging
    simp only [lagOf] at lagging
    split at lagging
    · exact Nat.le_of_eq (Option.some.inj lagging).symm
    · cases lagging

/-- What the same moves lead to after a signal to a sweep and after a stop request: the same calls,
lines, outcomes and open calls, and slots that differ at most in the phase, while the sweep that was
signalled with its stages at work has not left them behind. -/
structure Concur (c : Sweeper) (signalled told : Sweeper × Log) : Prop where
  shown : told.2 = signalled.2
  outcomes : ∀ j, told.1.outcome? j = signalled.1.outcome? j
  waiting : ∀ (j : Nat) (part : Sweep.Part), told.1.engagements[j]?.bind
    (·.sweep.pending? c.settings part) =
    signalled.1.engagements[j]?.bind (·.sweep.pending? c.settings part)
  slot : told.1.slot = if c.slot.phase = .running ∧ signalled.1.slot.generation = c.slot.generation
    then signalled.1.slot.stop else signalled.1.slot

/-- Sweepers that are not told apart concur. -/
theorem Twins.concur {first second : Sweeper} {added : Log}
    (twins : Twins (lagOf c.slot) first second) :
    Concur c (first, added) (second, added) := by
  refine ⟨rfl, fun j => ?_, fun j part => ?_, ?_⟩
  · have pair := twins.engagements.each j
    simp only [outcome?]
    generalize first.engagements[j]? = one at pair ⊢
    generalize second.engagements[j]? = other at pair ⊢
    cases pair with
    | none => rfl
    | some alike => simp only [alike.agree.1]
  · have pair := twins.engagements.each j
    generalize first.engagements[j]? = one at pair ⊢
    generalize second.engagements[j]? = other at pair ⊢
    cases pair with
    | none => rfl
    | some alike => exact alike.pending c.settings part
  · show second.slot = if _ then first.slot.stop else first.slot
    rw [twins.slot]
    by_cases running : c.slot.phase = .running
    · simp only [lagOf, running, if_true, Option.some.injEq, true_and, eq_comm]
    · simp only [lagOf, running, if_false, false_and]
      rw [if_neg (Option.some_ne_none _).symm]

/-- Raising the flag of a sweep's caller does what a stop request does, but for the phase. Let a
sweep that claimed below a caller's flag hold the latest claim, at any point of any execution: while
it asks for the guard, while its stages are at work, while it releases the guard, or when it was
dropped and its claim is not given up yet. Then the same moves are possible after the one and after
the other, and they show the same calls and the same lines, lead to the same outcomes and leave the
same calls open. The slots agree in the count of claims, the holder and the last report, and in the
phase unless the stages were at work at that point: then, until the next claim, the slot after the
stop request is the other one as a stop request would leave it, so it shows as draining what the
other one goes on to show as running. -/
theorem signal_like_stop (ran : run? (.ofSettings s) moves = some (c, log)) {i caller : Nat}
    {e : Engagement} (present : c.engagements[i]? = some e) (claimed : e.sweep.driver ≠ .unclaimed)
    (below : e.caller = some caller) (holder : c.slot.holder = some i) (rest : List Move) :
    Option.Rel (Concur c) (run? c (.cancelCaller caller :: rest)) (run? c (.stop :: rest)) := by
  have first : c.recorded? (.cancelCaller caller) = some (c.cancelCaller caller, []) := rfl
  have other : c.recorded? .stop = some (c.stop, []) := rfl
  have pair :=
    Execution.run?_keeps_step (Twins (lagOf c.slot)) (fun _ _ move twins => twins.step move)
      (twins_of_signal ran present claimed below holder) rest
  simp only [run?, Execution.run?, first, other]
  generalize Execution.run? recorded? (c.cancelCaller caller) rest = one at pair ⊢
  generalize Execution.run? recorded? c.stop rest = another at pair ⊢
  cases pair with
  | none => exact .none
  | @some one another same =>
    obtain ⟨signalled, shown⟩ := one
    obtain ⟨told, seen⟩ := another
    obtain ⟨twins, rfl⟩ : Twins (lagOf c.slot) signalled told ∧ shown = seen := same
    exact .some twins.concur

/-- The moves of a sweep below a caller's flag until its stages are at work. -/
def underWay : List Move :=
  [.request (some 0), .claim 0 false, .sweep 0 .begin, .sweep 0 (.guardChecked (.value false)),
    .sweep 0 (.guardMarked (.value ()))]

/-- The moves by which the sweep winds down and goes on to release the guard: the scanner gives up
the key that it was waiting for. -/
def windDown : List Move :=
  [.sweep 0 (.stage (.scanned (.value (some "k0")))), .sweep 0 (.stage .takeCandidate),
    .sweep 0 (.stage .takeMatch), .sweep 0 .join, .sweep 0 .join, .sweep 0 .join, .sweep 0 .proceed]

/-- A sweep with its stages at work winds down by the same moves after either of the two, and the
scanner sends no more keys. -/
theorem signal_like_stop_running : ∃ c log e signalled told,
    run? (.ofSettings (.ofPattern "k*" 100)) underWay = some (c, log) ∧ c.slot.phase = .running ∧
      c.engagements[0]? = some e ∧ e.sweep.driver ≠ .unclaimed ∧ e.caller = some 0 ∧
      c.slot.holder = some 0 ∧
        run? c (.cancelCaller 0 :: windDown) = some signalled ∧
          run? c (.stop :: windDown) = some told ∧ Concur c signalled told := by
  have seen : ((run? (.ofSettings (.ofPattern "k*" 100)) underWay).bind fun reached =>
      (run? reached.1 (.cancelCaller 0 :: windDown)).map fun _ =>
        (reached.1.slot, reached.1.engagements)) =
      some (⟨.running, 1, some 0, none⟩,
        [⟨⟨.joining StageName.all, .running (.fresh (.fresh false)), .absent⟩, some 0,
          some 1⟩]) := by
    decide +kernel
  obtain ⟨⟨c, log⟩, ran, rest⟩ := Option.bind_eq_some_iff.mp seen
  obtain ⟨signalled, went, same⟩ := Option.map_eq_some_iff.mp rest
  obtain ⟨slot, engagements⟩ := Prod.mk.inj same
  have present : c.engagements[0]? =
      some ⟨⟨.joining StageName.all, .running (.fresh (.fresh false)), .absent⟩, some 0,
        some 1⟩ := by
    rw [engagements]
    rfl
  have holder : c.slot.holder = some 0 := by rw [slot]
  have pair := signal_like_stop ran present Driver.noConfusion rfl holder windDown
  rw [went] at pair
  generalize stoppedRun : run? c (.stop :: windDown) = other at pair
  cases pair with
  | some concur =>
    exact ⟨c, log, _, signalled, _, ran, by
      rw [slot], present, Driver.noConfusion, rfl, holder, went, stoppedRun,
      concur⟩

/-- The phase tells the two apart: the sweep whose caller's flag is raised while its stages are at
work goes on to show as running, and after a stop request it shows as draining. -/
theorem signal_unlike_stop : ∃ c log signalled told,
    run? (.ofSettings (.ofPattern "k*" 100)) underWay = some (c, log) ∧ c.slot.holder = some 0 ∧
      c.engagements[0]?.bind (·.caller) = some 0 ∧
        run? c [.cancelCaller 0] = some (signalled, []) ∧ run? c [.stop] = some (told, []) ∧
          signalled.slot.phase = .running ∧ told.slot.phase = .draining := by
  have seen : (run? (.ofSettings (.ofPattern "k*" 100)) underWay).map (fun reached =>
      (reached.1.slot, reached.1.engagements[0]?.bind (·.caller),
        (reached.1.cancelCaller 0).slot.phase, reached.1.stop.slot.phase)) =
      some (⟨.running, 1, some 0, none⟩, some 0, .running, .draining) := by decide +kernel
  obtain ⟨⟨c, log⟩, ran, same⟩ := Option.map_eq_some_iff.mp seen
  simp only [Prod.mk.injEq] at same
  obtain ⟨slot, caller, running, draining⟩ := same
  exact ⟨c, log, c.cancelCaller 0, c.stop, ran, by rw [slot], caller, rfl, rfl, running, draining⟩

end Sweeper

end KeySweeper
