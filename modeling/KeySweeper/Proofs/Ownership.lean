import KeySweeper.Proofs.Signals
import KeySweeper.Proofs.Wiring

/-!
# Who holds which flag

Each sweep that has claimed its sweeper holds a flag of its own, which no other sweep holds. The
slot holds the flag of the latest claim, for stop requests. Above a flag there are flags from
outside only: those of its caller. And the flag of a sweep is raised exactly when the sweeper has
told the sweep to wind down.

This is the invariant of a sweeper that is wired up. A move that makes no flag for a sweep keeps who
holds what; it has to raise flags together with what the sweeper keeps of them, and this is shown
once for each way of raising one. A claim makes a new flag for one sweep and for the slot, and all
others hold what they held.
-/

namespace KeySweeper

namespace Pipeline

variable {s : Settings} {p next : Pipeline} {move : Move} {shown : List Effect}

/-- A stage learns of a failed call exactly by the moves that show one. -/
theorem fails_iff (steps : Steps s p move next shown) :
    move.fails = true ↔ ∃ event ∈ calls shown, event.failure? ≠ none := by
  cases steps with
  | scanned answer asking => simp [Move.fails, StoreEvent.failure?, Option.isSome_iff_ne_none]
  | inspected answer key inspecting =>
    simp [Move.fails, StoreEvent.failure?, Option.isSome_iff_ne_none]
  | deleted answer batch waiting deleting =>
    simp [Move.fails, StoreEvent.failure?, Option.isSome_iff_ne_none]
  | _ => simp [Move.fails, calls]

/-- A failed call of a stage raises the flag, and nothing else that a stage does. -/
theorem raised_of_step (stepped : p.step? s move = some (next, shown)) (own : move ≠ .cancel) :
    next.control.cancelled = (p.control.cancelled || move.fails) := by
  rw [Bool.eq_iff_iff, flag_step stepped, Bool.or_eq_true, fails_iff (steps_of_step? stepped)]
  simp only [own, false_or]

end Pipeline

namespace Sweep

variable {s : Settings} {sweep : Sweep} {move : Move} {progress : Progress}

/-- Whether the stages of a sweep were started and are over. -/
def StagesOver (sweep : Sweep) : Prop :=
  ∃ p, sweep.work = .running p ∧ ∀ stage, p.isLive stage = false

/-- The order in which a sweep goes through its work: it starts its stages after its opening, waits
until they are over, and has told them to wind down by the time at which it releases the guard. -/
structure Orderly (sweep : Sweep) : Prop where
  opening : sweep.Opening
  joined : sweep.driver = .joining [] → sweep.StagesOver
  released : sweep.driver = .releasing → sweep.work.isCancelled = true

/-- Every sweep is orderly. -/
theorem orderly_along {flag : Bool} {moves : List Move} {log : Chronicle}
    (ran : run? s (.claimed flag) moves = some (sweep, log)) : sweep.Orderly where
  opening := opening_along ran
  joined := (passage_along ran).of_joined
  released releasing := by
    obtain ⟨-, p, running, -⟩ := (passage_along ran).of_releasing releasing
    rcases settled_along ran (Or.inl releasing) with ⟨flag, waiting⟩ | told
    · rw [waiting] at running
      cases running
    · exact told

/-- A sweep raises its flag by its moves exactly as it says. -/
theorem raised_of_steps (orderly : sweep.Orderly) (steps : Steps s sweep move progress)
    (untold : move.isTold = false) :
    progress.sweep.work.isCancelled = (sweep.work.isCancelled || sweep.raises move) := by
  have told : sweep.work.cancel.isCancelled = (sweep.work.isCancelled || true) := by simp
  have still : sweep.work.isCancelled = (sweep.work.isCancelled || false) := (Bool.or_false _).symm
  cases steps with
  | staged stageMove p next shown running stepped =>
    rw [running]
    refine Pipeline.raised_of_step stepped ?_
    rintro rfl
    cases untold
  | acquired marking answer back => exact still
  | proceeded joining => exact told
  | completed releasing answer back elapsed finishedAt =>
    rw [orderly.released releasing, Bool.true_or]
  | releaseCrashed releasing text elapsed finishedAt =>
    rw [orderly.released releasing, Bool.true_or]
  | cancelled => cases untold
  | passedOn rest joining => simp only [raises, joining, Driver.isBound, told]
  | left rest joining => simp only [raises, joining, Driver.isBound, told]
  | abandoned releasing canSpawn => simp only [raises, releasing, Driver.isBound, told]
  | withdrawn opening canSpawn =>
    simp only [raises, unbound_of (Or.inl opening), Bool.or_false]
  | _ => exact still

/-- A sweep that never claimed its sweeper, whatever was logged of it. -/
def IsUnclaimed (sweep : Sweep) : Prop := ∃ log, Sweeper.NeverClaimed sweep log

/-- A sweep that never claimed does not claim by a move of its own. -/
theorem IsUnclaimed.step (unclaimed : sweep.IsUnclaimed) (steps : Steps s sweep move progress) :
    progress.sweep.IsUnclaimed := by
  obtain ⟨log, never⟩ := unclaimed
  exact ⟨_, never.step steps⟩

/-- A sweep that was only asked for has not claimed. -/
theorem IsUnclaimed.requested : requested.IsUnclaimed :=
  ⟨[], Or.inl rfl, ⟨false, rfl⟩, rfl, fun _ _ => List.not_mem_nil, fun _ => rfl⟩

/-- A sweep that found its sweeper busy has not claimed. -/
theorem IsUnclaimed.refused (unclaimed : sweep.IsUnclaimed) :
    ({ sweep with driver := .finished .alreadyRunning } : Sweep).IsUnclaimed := by
  obtain ⟨log, never⟩ := unclaimed
  exact ⟨log, Or.inr (Or.inl rfl), never.work, never.releaser, never.silent, Driver.noConfusion⟩

/-- A sweep that never claimed is not under way and has no stages. -/
theorem IsUnclaimed.idle (unclaimed : sweep.IsUnclaimed) :
    sweep.driver.isEngaged = false ∧ ∀ p, sweep.work ≠ .running p := by
  obtain ⟨log, never⟩ := unclaimed
  constructor
  · rcases never.driver with now | now | now <;> rw [now] <;> rfl
  · intro p running
    obtain ⟨flag, waiting⟩ := never.work
    rw [waiting] at running
    cases running

end Sweep

namespace Sweeper

variable {s : Settings} {c : Sweeper} {moves : List Move} {log : Log} {index : Nat} {e : Engagement}

/-- Every sweep of a sweeper is orderly. -/
theorem orderly_of_run (ran : run? (.ofSettings s) moves = some (c, log))
    (present : c.engagements[index]? = some e) :
    e.sweep.Orderly := by
  rcases (origins_of_run ran).2.come index e present with ⟨never, -⟩ | ⟨flag, moves, ran⟩
  · refine ⟨fun _ => never.work, fun joining => ?_, fun releasing => ?_⟩
    · have driver := never.driver
      simp [joining] at driver
    · have driver := never.driver
      simp [releasing] at driver
  · exact Sweep.orderly_along ran

/-- Telling a sweep to wind down twice is telling it once. -/
theorem cancelSweep_cancelSweep (e : Engagement) : cancelSweep (cancelSweep e) = cancelSweep e := by
  simp only [cancelSweep, Work.cancel_of_isCancelled (Work.isCancelled_cancel _)]

/-- Raising the flags of some callers tells the sweeps below any of them to wind down. -/
theorem foldl_flagged (callers : List Nat) (e : Engagement) :
    callers.foldl (fun e caller => flagged caller e) e =
      if (∃ caller ∈ callers, e.caller = some caller) ∧ e.sweep.driver ≠ .unclaimed then
        cancelSweep e else e := by
  induction callers generalizing e with
  | nil => simp
  | cons caller rest inductionHypothesis =>
    rw [List.foldl_cons]
    by_cases first : e.caller = some caller ∧ e.sweep.driver ≠ .unclaimed
    · rw [show flagged caller e = cancelSweep e from if_pos first, inductionHypothesis,
        cancelSweep_cancelSweep, ite_self, if_pos ⟨⟨caller, List.mem_cons_self, first.1⟩, first.2⟩]
    · rw [show flagged caller e = e from if_neg first, inductionHypothesis]
      refine if_congr ?_ rfl rfl
      simp only [List.mem_cons, exists_eq_or_imp]
      exact ⟨fun told => ⟨Or.inr told.1, told.2⟩, fun told =>
        ⟨told.1.resolve_left fun below => first ⟨below, told.2⟩, told.2⟩⟩

/-- Raising the flags of some callers touches each engagement by itself, and leaves the slot
alone. -/
theorem foldl_cancelCaller (callers : List Nat) (c : Sweeper) :
    (callers.foldl cancelCaller c).slot = c.slot ∧
      (callers.foldl cancelCaller c).engagements =
        c.engagements.map fun e => callers.foldl (fun e caller => flagged caller e) e := by
  induction callers generalizing c with
  | nil => exact ⟨rfl, (List.map_id' _).symm⟩
  | cons caller rest inductionHypothesis =>
    obtain ⟨slot, engagements⟩ := inductionHypothesis (c.cancelCaller caller)
    refine ⟨slot, engagements.trans ?_⟩
    simp only [cancelCaller, List.map_map]
    rfl

end Sweeper

namespace Wiring

variable {w next : Wiring} {move : Move} {shown log : Sweeper.Log} {index flag : Nat}
  {e : Engagement} {f : Flag}

/-- A sweep holds a flag: the sweeper made it for the sweep, directly below the flag of its caller,
and it is raised exactly when the sweep is told to wind down. -/
structure Holding (w : Wiring) (index flag : Nat) (e : Engagement) (f : Flag) : Prop where
  holds : w.flagOf? index = some flag
  present : w.sweeper.engagements[index]? = some e
  there : w.flags[flag]? = some f
  claimed : e.sweep.driver ≠ .unclaimed
  own : f.own = true
  line : f.line = flag :: Flag.lineOf w.flags e.caller
  agrees : f.raised = e.sweep.work.isCancelled

/-- Who holds which flag: the sweeps that have claimed hold one each, and the slot holds that of the
latest claim. -/
structure Ownership (w : Wiring) : Prop where
  ordered : Flag.Ordered w.flags
  callers : ∀ (i : Nat) (e : Engagement), w.sweeper.engagements[i]? = some e →
    w.isOutside e.caller = true
  length : w.held.length = w.sweeper.engagements.length
  held : ∀ i k, w.flagOf? i = some k → ∃ e f, Holding w i k e f
  apart : ∀ i j k, w.flagOf? i = some k → w.flagOf? j = some k → i = j
  latest : ∀ i, w.flagOf? i = some w.latest ↔ w.sweeper.slot.holder = some i
  spare : ∃ f, w.flags[w.latest]? = some f ∧ f.own = true
  unclaimed : ∀ (i : Nat) (e : Engagement), w.sweeper.engagements[i]? = some e →
    w.flagOf? i = none → e.sweep.IsUnclaimed

/-- Nobody holds the flag of a new sweeper. -/
theorem Ownership.opened (s : Settings) : Ownership (.opened s) where
  ordered := by
    intro k f there
    obtain ⟨rfl, rfl⟩ : k = 0 ∧ f = ⟨[0], false, true⟩ := by
      cases k with
      | zero => exact ⟨rfl, (Option.some.inj there).symm⟩
      | succ k => cases there
    simp
  callers i e present := by cases present
  length := rfl
  held i k holds := by cases holds
  apart i j k holds := by cases holds
  latest i := by constructor <;> intro impossible <;> cases impossible
  spare := ⟨_, rfl, rfl⟩
  unclaimed i e present := by cases present

/-- A flag that the sweeper made is not from outside. -/
theorem own_ne_foreign {k : Nat} (there : w.flags[flag]? = some f) (own : f.own = true)
    (foreign : Flag.isForeign w.flags k = true) : k ≠ flag := by
  rintro rfl
  obtain ⟨g, here, outside⟩ := Flag.isForeign_iff.mp foreign
  obtain rfl := Option.some.inj (there.symm.trans here)
  rw [own] at outside
  cases outside

/-- Of the flags that the sweeper made only the one that a sweep holds raises it. -/
theorem Holding.mem_line_own (holding : Holding w index flag e f) (ownership : Ownership w)
    {k : Nat} {g : Flag} (there : w.flags[k]? = some g)
    (own : g.own = true) : k ∈ f.line ↔ k = flag := by
  obtain ⟨itself, others⟩ := ownership.ordered flag f holding.there
  constructor
  · intro member
    by_contra different
    exact own_ne_foreign there own (others k member different) rfl
  · rintro rfl
    exact itself

/-- A flag from outside raises the flag of a sweep exactly if it is in the line of the caller's
flag. -/
theorem Holding.mem_line_foreign (holding : Holding w index flag e f) {k : Nat}
    (foreign : Flag.isForeign w.flags k = true) :
    k ∈ f.line ↔ k ∈ Flag.lineOf w.flags e.caller := by
  rw [holding.line, List.mem_cons]
  exact or_iff_right (own_ne_foreign holding.there holding.own foreign)

/-- What becomes of a sweep by a move that makes no flag for it. -/
structure Follows (w next : Wiring) (index : Nat) (e after : Engagement) : Prop where
  caller : after.caller = e.caller
  claimed : e.sweep.driver ≠ .unclaimed → after.sweep.driver ≠ .unclaimed
  unclaimed : e.sweep.IsUnclaimed → after.sweep.IsUnclaimed
  agrees : ∀ flag f, Holding w index flag e f →
    Flag.isRaised next.flags (some flag) = after.sweep.work.isCancelled

/-- A move that makes no flag for a sweep keeps who holds what. -/
theorem Ownership.kept (ownership : Ownership w) (grown : Flag.Grown w.flags next.flags)
    (ordered : Flag.Ordered next.flags) (held : next.held = w.held)
    (latest : next.latest = w.latest) (holder : next.sweeper.slot.holder = w.sweeper.slot.holder)
    (length : next.sweeper.engagements.length = w.sweeper.engagements.length)
    (back : ∀ (i : Nat) (after : Engagement), next.sweeper.engagements[i]? = some after →
      ∃ e, w.sweeper.engagements[i]? = some e ∧ Follows w next i e after) : Ownership next := by
  have same (i : Nat) : next.flagOf? i = w.flagOf? i := by rw [flagOf?, held, flagOf?]
  refine ⟨ordered, ?_, ?_, ?_, ?_, ?_, ?_, ?_⟩
  · intro i after there
    obtain ⟨e, present, follows⟩ := back i after there
    rw [follows.caller]
    exact grown.outside (ownership.callers i e present)
  · rw [held, length, ownership.length]
  · intro i k holds
    obtain ⟨e, f, holding⟩ := ownership.held i k (same i ▸ holds)
    obtain ⟨inside, -⟩ := List.getElem?_eq_some_iff.mp holding.present
    obtain ⟨after, there⟩ : ∃ after, next.sweeper.engagements[i]? = some after :=
      ⟨_, List.getElem?_eq_getElem (length ▸ inside)⟩
    obtain ⟨before, present, follows⟩ := back i after there
    obtain rfl := Option.some.inj (holding.present.symm.trans present)
    obtain ⟨g, here, line, own, -⟩ := grown k f holding.there
    refine ⟨after, g, holds, there, here, follows.claimed holding.claimed,
      own.trans holding.own, ?_, ?_⟩
    · rw [line, holding.line, follows.caller, grown.lineOf (ownership.callers i e holding.present)]
    · rw [← Flag.isRaised_some here, follows.agrees k f holding]
  · intro i j k one other
    exact ownership.apart i j k (same i ▸ one) (same j ▸ other)
  · intro i
    rw [same, latest, holder]
    exact ownership.latest i
  · obtain ⟨f, there, own⟩ := ownership.spare
    obtain ⟨g, here, -, alike, -⟩ := grown w.latest f there
    exact ⟨g, latest ▸ here, alike.trans own⟩
  · intro i after there nothing
    obtain ⟨e, present, follows⟩ := back i after there
    exact follows.unclaimed (ownership.unclaimed i e present (same i ▸ nothing))

/-- A sweep that a move leaves alone goes on as it is, if its flag is left alone too. -/
theorem Follows.still (same : ∀ flag f, Holding w index flag e f →
      Flag.isRaised next.flags (some flag) = f.raised) :
    Follows w next index e e :=
  ⟨rfl, id, id, fun flag f holding => (same flag f holding).trans holding.agrees⟩

/-- A sweep whose flag is raised goes on told to wind down. -/
theorem Follows.told (raised : ∀ flag f, Holding w index flag e f →
      Flag.isRaised next.flags (some flag) = true) :
    Follows w next index e (Sweeper.cancelSweep e) where
  caller := rfl
  claimed := id
  unclaimed unclaimed := unclaimed.step (Sweep.Steps.cancelled (s := w.sweeper.settings))
  agrees flag f holding := (raised flag f holding).trans (Work.isCancelled_cancel _).symm

/-- What a move does to the flags: nothing, a new one below one from outside or below none, or one
is raised, by somebody outside if it is from outside and by the sweeper if the sweeper made it. -/
inductive FlagStep (w : Wiring) (move : Move) : List Flag → Prop where
  /-- They stay as they are. -/
  | still (quiet : ∀ k, move ≠ .raise k) : FlagStep w move w.flags
  /-- There is a new one. -/
  | new (quiet : ∀ k, move ≠ .raise k) (above : Option Nat) (own : Bool)
      (outside : w.isOutside above = true) :
      FlagStep w move (w.flags ++ [.below w.flags above own])
  /-- Somebody outside raises one from outside. -/
  | signalled (k : Nat) (same : move = .raise k) (foreign : Flag.isForeign w.flags k = true) :
      FlagStep w move (Flag.raise w.flags k)
  /-- The sweeper raises one that it made. -/
  | told (quiet : ∀ k, move ≠ .raise k) (k : Nat) (f : Flag) (there : w.flags[k]? = some f)
      (own : f.own = true) :
      FlagStep w move (Flag.raise w.flags k)

/-- The flag that a sweep raises is one that the sweeper made. -/
theorem Ownership.raisedBy (ownership : Ownership w) (quiet : ∀ k, move ≠ .raise k) (index : Nat) :
    FlagStep w move (w.raisedBy index) := by
  unfold Wiring.raisedBy
  cases holds : w.flagOf? index with
  | none => exact .still quiet
  | some k =>
    obtain ⟨e, f, holding⟩ := ownership.held index k holds
    exact .told quiet k f holding.there holding.own

/-- Every move does one of these things to the flags. -/
theorem Ownership.flagStep (ownership : Ownership w) (steps : Steps w move next) :
    FlagStep w move next.flags := by
  cases steps with
  | made above outside => exact .new (fun _ => Move.noConfusion) above false outside
  | raised k foreign => exact .signalled k rfl foreign
  | requested caller outside => exact .still fun _ => Move.noConfusion
  | started slot free => exact .new (fun _ => Move.noConfusion) none true rfl
  | admitted index e slot present unclaimed free =>
    exact .new (fun _ => Move.noConfusion) e.caller true (ownership.callers index e present)
  | refused index e present unclaimed => exact .still fun _ => Move.noConfusion
  | moved index inner e progress present untold made =>
    dsimp only
    split
    · exact ownership.raisedBy (fun _ => Move.noConfusion) index
    · exact .still fun _ => Move.noConfusion
  | gaveUp index e generation present => exact .still fun _ => Move.noConfusion
  | stopped =>
    obtain ⟨f, there, own⟩ := ownership.spare
    exact .told (fun _ => Move.noConfusion) w.latest f there own

/-- No move takes a flag away, changes its line or lowers it. -/
theorem FlagStep.grown {flags : List Flag} (step : FlagStep w move flags) :
    Flag.Grown w.flags flags := by
  cases step with
  | still quiet => exact fun _ f there => ⟨f, there, rfl, rfl, id⟩
  | new quiet above own outside => exact Flag.grown_concat _ _
  | signalled k same foreign => exact Flag.grown_raise _ _
  | told quiet k f there own => exact Flag.grown_raise _ _

/-- Every move keeps the order of the flags. -/
theorem FlagStep.ordered {flags : List Flag} (step : FlagStep w move flags)
    (ordered : Flag.Ordered w.flags) :
    Flag.Ordered flags := by
  cases step with
  | still quiet => exact ordered
  | new quiet above own outside => exact ordered.concat outside own
  | signalled k same foreign => exact ordered.raise k
  | told quiet k f there own => exact ordered.raise k

/-- A flag that the sweeper raises reaches the sweep that holds it and no other. -/
theorem Holding.isRaised_own (holding : Holding w index flag e f) (ownership : Ownership w)
    {k : Nat} {g : Flag} (there : w.flags[k]? = some g) (own : g.own = true) :
    Flag.isRaised (Flag.raise w.flags k) (some flag) = (f.raised || decide (k = flag)) := by
  rw [Flag.isRaised_raise holding.there]
  simp only [holding.mem_line_own ownership there own]

/-- What a sweep raises reaches itself and no other. -/
theorem Holding.isRaised_raisedBy (holding : Holding w index flag e f) (ownership : Ownership w)
    (mover : Nat) :
    Flag.isRaised (w.raisedBy mover) (some flag) = (f.raised || decide (mover = index)) := by
  unfold Wiring.raisedBy
  cases holds : w.flagOf? mover with
  | none =>
    have different : mover ≠ index := by
      rintro rfl
      rw [holding.holds] at holds
      cases holds
    simp only [Flag.isRaised_some holding.there, different, decide_false, Bool.or_false]
  | some k =>
    obtain ⟨e, g, other⟩ := ownership.held mover k holds
    dsimp only
    rw [holding.isRaised_own ownership other.there other.own]
    congr 1
    refine decide_eq_decide.mpr ⟨?_, ?_⟩
    · rintro rfl
      exact ownership.apart _ _ _ holds holding.holds
    · rintro rfl
      exact Option.some.inj (holds.symm.trans holding.holds)

/-- A move of a sweep raises the flag of this sweep, if the move raises one, and no other. -/
theorem Holding.isRaised_moved (holding : Holding w index flag e f) (ownership : Ownership w)
    (raises : Bool)
    (mover : Nat) : Flag.isRaised (if raises then w.raisedBy mover else w.flags) (some flag) =
      (f.raised || (raises && decide (mover = index))) := by
  cases raises with
  | true => exact holding.isRaised_raisedBy ownership mover
  | false => exact (Flag.isRaised_some holding.there).trans (Bool.or_false _).symm

/-- A stop request raises the flag of the sweep that has the latest claim, and no other. -/
theorem Holding.isRaised_stopped (holding : Holding w index flag e f) (ownership : Ownership w) :
    Flag.isRaised (Flag.raise w.flags w.latest) (some flag) =
      (f.raised || decide (w.sweeper.slot.holder = some index)) := by
  obtain ⟨spare, there, own⟩ := ownership.spare
  rw [holding.isRaised_own ownership there own]
  congr 1
  refine decide_eq_decide.mpr ⟨?_, fun holder => ?_⟩
  · rintro rfl
    exact (ownership.latest index).mp holding.holds
  · exact Option.some.inj (((ownership.latest index).mpr holder).symm.trans holding.holds)

/-- Asking for a sweep gives nobody a flag. -/
theorem flagOf?_asked (w : Wiring) (caller : Option Nat) (i : Nat) :
    (w.asked caller).flagOf? i = w.flagOf? i := by
  simp only [flagOf?, Wiring.asked]
  by_cases old : i < w.held.length
  · rw [List.getElem?_append_left old]
  · rw [List.getElem?_append_right (Nat.le_of_not_lt old),
      List.getElem?_eq_none (Nat.le_of_not_lt old), List.getElem?_singleton]
    split <;> rfl

/-- A claim gives the claimant the new flag. -/
theorem flagOf?_handed_self (caller : Option Nat) (inside : index < w.held.length) :
    (w.handed index caller).flagOf? index = some w.flags.length := by
  simp only [flagOf?, Wiring.handed, List.getElem?_set_self inside, Option.join_some]

/-- A claim leaves the others the flags that they hold. -/
theorem flagOf?_handed_of_ne (caller : Option Nat) {i : Nat} (different : i ≠ index) :
    (w.handed index caller).flagOf? i = w.flagOf? i := by
  simp only [flagOf?, Wiring.handed, List.getElem?_set_ne (Ne.symm different)]

/-- After a claim it is the claimant who holds the new flag, and an earlier flag was held before. -/
theorem flagOf?_handed (caller : Option Nat) {i : Nat}
    (holds : (w.handed index caller).flagOf? i = some flag) :
    i = index ∧ flag = w.flags.length ∨ i ≠ index ∧ w.flagOf? i = some flag := by
  by_cases same : i = index
  · subst same
    by_cases inside : i < w.held.length
    · rw [flagOf?_handed_self caller inside] at holds
      exact Or.inl ⟨rfl, (Option.some.inj holds).symm⟩
    · rw [flagOf?, Wiring.handed, List.getElem?_eq_none (by simpa using inside)] at holds
      cases holds
  · exact Or.inr ⟨same, (flagOf?_handed_of_ne caller same).symm.trans holds⟩

/-- Every flag that is held is there. -/
theorem Ownership.lt_length (ownership : Ownership w) (holds : w.flagOf? index = some flag) :
    flag < w.flags.length := by
  obtain ⟨e, f, holding⟩ := ownership.held index flag holds
  exact (List.getElem?_eq_some_iff.mp holding.there).1

/-- A new sweep that has not claimed holds no flag. -/
theorem Ownership.asked (ownership : Ownership w) {caller : Option Nat}
    (outside : w.isOutside caller = true) :
    Ownership (w.asked caller) := by
  have same := flagOf?_asked w caller
  refine ⟨ownership.ordered, ?_, ?_, ?_, ?_, ?_, ownership.spare, ?_⟩
  · intro i e there
    rcases Sweeper.append_cases there with ⟨-, -, rfl⟩ | before
    · exact outside
    · exact ownership.callers i e before
  · simp only [Wiring.asked, List.length_append, ownership.length, List.length_singleton]
  · intro i k holds
    obtain ⟨e, f, holding⟩ := ownership.held i k (same i ▸ holds)
    have kept : (w.asked caller).sweeper.engagements[i]? = some e :=
      (List.getElem?_append_left (List.getElem?_eq_some_iff.mp holding.present).1).trans
        holding.present
    exact ⟨e, f, holds, kept, holding.there, holding.claimed, holding.own, holding.line,
      holding.agrees⟩
  · intro i j k one other
    exact ownership.apart i j k (same i ▸ one) (same j ▸ other)
  · intro i
    rw [same]
    exact ownership.latest i
  · intro i e there nothing
    rcases Sweeper.append_cases there with ⟨-, -, rfl⟩ | before
    · exact .requested
    · exact ownership.unclaimed i e before (same i ▸ nothing)

/-- A sweep that claims holds the new flag, and so does the slot. -/
theorem Ownership.admitted (ownership : Ownership w) {slot : Slot}
    (present : w.sweeper.engagements[index]? = some e)
    (free : w.sweeper.slot.claim? index = some slot) :
    Ownership (({ w with
      sweeper := { w.sweeper.replace index
        { e with
          sweep := .claimed (Flag.isRaised w.flags e.caller)
          claim := some slot.generation } with slot } } : Wiring).handed index e.caller) := by
  obtain ⟨-, -, -, holder⟩ := Sweeper.claim?_eq_some free
  have outside := ownership.callers index e present
  have grown := Flag.grown_concat w.flags (.below w.flags e.caller true)
  have inside : index < w.held.length := by
    rw [ownership.length]
    exact (List.getElem?_eq_some_iff.mp present).1
  have new : (w.flags ++ [Flag.below w.flags e.caller true])[w.flags.length]? =
      some (.below w.flags e.caller true) :=
    List.getElem?_concat_length
  -- the claimant holds the new flag, the others hold what they held
  generalize made : Wiring.handed _ index e.caller = next
  have flags : next.flags = w.flags ++ [.below w.flags e.caller true] := by rw [← made]; rfl
  have latest : next.latest = w.flags.length := by rw [← made]; rfl
  have engagements : next.sweeper.engagements = w.sweeper.engagements.set index
      { e with
        sweep := .claimed (Flag.isRaised w.flags e.caller)
        claim := some slot.generation } := by
    rw [← made]; rfl
  have claimant : next.sweeper.engagements[index]? = some
      { e with
        sweep := .claimed (Flag.isRaised w.flags e.caller)
        claim := some slot.generation } := by
    rw [engagements, List.getElem?_set_self (List.getElem?_eq_some_iff.mp present).1]
  have own : next.flagOf? index = some w.flags.length := by
    rw [← made]
    exact flagOf?_handed_self e.caller inside
  have others (i : Nat) (different : i ≠ index) : next.flagOf? i = w.flagOf? i := by
    rw [← made]
    exact flagOf?_handed_of_ne e.caller different
  have holders (i k : Nat) (holds : next.flagOf? i = some k) :
      i = index ∧ k = w.flags.length ∨ i ≠ index ∧ w.flagOf? i = some k := by
    rw [← made] at holds
    exact flagOf?_handed e.caller holds
  refine ⟨flags ▸ ownership.ordered.concat outside true, ?_, ?_, ?_, ?_, ?_, ?_, ?_⟩
  · intro i after there
    rw [engagements] at there
    rw [isOutside, flags]
    rcases Sweeper.replace_cases present there with ⟨-, rfl⟩ | ⟨-, before⟩
    · exact grown.outside outside
    · exact grown.outside (ownership.callers i after before)
  · rw [engagements, List.length_set, ← made]
    simp only [Wiring.handed, List.length_set, ownership.length]
  · intro i k holds
    rcases holders i k holds with ⟨rfl, rfl⟩ | ⟨different, before⟩
    · refine ⟨_, _, own, claimant, flags ▸ new, Driver.noConfusion, rfl, ?_, rfl⟩
      rw [flags]
      exact congrArg (w.flags.length :: ·) (grown.lineOf outside).symm
    · obtain ⟨g, f, holding⟩ := ownership.held i k before
      refine ⟨g, f, holds, ?_, flags ▸ Flag.getElem?_concat holding.there _, holding.claimed,
        holding.own, ?_, holding.agrees⟩
      · rw [engagements, List.getElem?_set_ne (Ne.symm different), holding.present]
      · rw [holding.line, flags, grown.lineOf (ownership.callers i g holding.present)]
  · intro i j k one other
    rcases holders i k one with ⟨rfl, rfl⟩ | ⟨-, before⟩
    · rcases holders j _ other with ⟨rfl, -⟩ | ⟨-, beside⟩
      · rfl
      · exact absurd (ownership.lt_length beside) (Nat.lt_irrefl _)
    · rcases holders j k other with ⟨rfl, rfl⟩ | ⟨-, beside⟩
      · exact absurd (ownership.lt_length before) (Nat.lt_irrefl _)
      · exact ownership.apart i j k before beside
  · intro i
    have claims : next.sweeper.slot.holder = some index := by rw [← made]; exact holder
    rw [latest, claims]
    constructor
    · intro holds
      rcases holders i _ holds with ⟨rfl, -⟩ | ⟨-, before⟩
      · rfl
      · exact absurd (ownership.lt_length before) (Nat.lt_irrefl _)
    · intro same
      obtain rfl := Option.some.inj same
      exact own
  · exact ⟨_, by rw [latest, flags]; exact new, rfl⟩
  · intro i after there nothing
    rw [engagements] at there
    rcases Sweeper.replace_cases present there with ⟨rfl, -⟩ | ⟨different, before⟩
    · rw [own] at nothing
      cases nothing
    · exact ownership.unclaimed i after before (others i different ▸ nothing)

/-- A sweep that moves, or is dropped, raises its flag exactly if it is told to wind down by
that. -/
theorem Ownership.moved (ownership : Ownership w) (orderly : e.sweep.Orderly) {inner : Sweep.Move}
    {progress : Sweep.Progress} (present : w.sweeper.engagements[index]? = some e)
    (untold : inner.isTold = false)
    (made : e.sweep.step? w.sweeper.settings inner = some progress) :
    Ownership { w with
      sweeper := { w.sweeper.replace index { e with sweep := progress.sweep } with
        slot := w.sweeper.heard progress.slot }
      flags := if e.sweep.raises inner then w.raisedBy index else w.flags } := by
  have steps := Sweep.steps_of_step? made
  have flags : FlagStep w (.sweep index inner)
      (if e.sweep.raises inner then w.raisedBy index else w.flags) :=
    ownership.flagStep (.moved index inner e progress present untold made)
  refine ownership.kept flags.grown (flags.ordered ownership.ordered) rfl rfl
    (Sweeper.heard_claim w.sweeper progress.slot).2 (List.length_set ..) fun i after there => ?_
  rcases Sweeper.replace_cases present there with ⟨rfl, rfl⟩ | ⟨different, before⟩
  · refine ⟨e, present, rfl, fun claimed unclaimed =>
      claimed (Sweeper.unclaimed_of_step steps unclaimed),
      fun unclaimed => unclaimed.step steps, fun k f holding => ?_⟩
    rw [holding.isRaised_moved ownership, decide_eq_true rfl, Bool.and_true, holding.agrees]
    exact (Sweep.raised_of_steps orderly steps untold).symm
  · refine ⟨after, before, .still fun k f holding => ?_⟩
    rw [holding.isRaised_moved ownership, decide_eq_false (Ne.symm different), Bool.and_false,
      Bool.or_false]

/-- A stop request raises the flag of the latest claim and tells its sweep to wind down. -/
theorem Ownership.stopped (ownership : Ownership w) :
    Ownership { w with sweeper := w.sweeper.stop, flags := Flag.raise w.flags w.latest } := by
  refine ownership.kept (Flag.grown_raise _ _) (ownership.ordered.raise _) rfl rfl ?_
    (Sweeper.length_stop w.sweeper) fun i after reached => ?_
  · simp only [Sweeper.stop, Slot.stop]
    split <;> rfl
  · rw [Sweeper.stop_getElem?] at reached
    obtain ⟨e, present, rfl⟩ := Option.map_eq_some_iff.mp reached
    refine ⟨e, present, ?_⟩
    unfold Sweeper.stopped
    by_cases holder : w.sweeper.slot.holder = some i
    · rw [if_pos holder]
      refine .told fun k f holding => ?_
      rw [holding.isRaised_stopped ownership, decide_eq_true holder, Bool.or_true]
    · rw [if_neg holder]
      refine .still fun k f holding => ?_
      rw [holding.isRaised_stopped ownership, decide_eq_false holder, Bool.or_false]

/-- Raising a flag from outside raises the flags of the sweeps that claimed below it, and tells
these to wind down. -/
theorem Ownership.signalled (ownership : Ownership w)
    (foreign : Flag.isForeign w.flags flag = true) :
    Ownership (w.signalled flag) := by
  obtain ⟨slot, engagements⟩ := Sweeper.foldl_cancelCaller (Flag.reached w.flags flag) w.sweeper
  refine ownership.kept (Flag.grown_raise _ _) (ownership.ordered.raise _) rfl rfl
    (congrArg Slot.holder slot) ?_ fun i after reached => ?_
  · rw [Wiring.signalled, engagements, List.length_map]
  · rw [Wiring.signalled, engagements, List.getElem?_map] at reached
    obtain ⟨e, present, rfl⟩ := Option.map_eq_some_iff.mp reached
    rw [Sweeper.foldl_flagged]
    have below (k : Nat) (f : Flag) (holding : Holding w i k e f) :
        flag ∈ f.line ↔ ∃ caller ∈ Flag.reached w.flags flag, e.caller = some caller := by
      rw [holding.mem_line_foreign foreign]
      cases e.caller with
      | none => simp [Flag.lineOf]
      | some caller => simp [Flag.mem_reached]
    refine ⟨e, present, ?_⟩
    split
    · next told =>
      refine .told fun k f holding => ?_
      rw [Wiring.signalled, Flag.isRaised_raise holding.there,
        decide_eq_true ((below k f holding).mpr told.1),
        Bool.or_true]
    · next spared =>
      refine .still fun k f holding => ?_
      have outside : flag ∉ f.line := fun member =>
        spared ⟨(below k f holding).mp member, holding.claimed⟩
      rw [Wiring.signalled, Flag.isRaised_raise holding.there, decide_eq_false outside,
        Bool.or_false]

/-- Every move keeps who holds what, and makes a new flag for each claim. -/
theorem Ownership.step (ownership : Ownership w)
    (orderly : ∀ (i : Nat) (e : Engagement), w.sweeper.engagements[i]? = some e → e.sweep.Orderly)
    (steps : Steps w move next) : Ownership next := by
  have flags := ownership.flagStep steps
  cases steps with
  | made above outside =>
    exact ownership.kept flags.grown (flags.ordered ownership.ordered) rfl rfl rfl rfl
      fun i after there => ⟨after, there, .still fun k f holding =>
        Flag.isRaised_some (Flag.getElem?_concat holding.there _)⟩
  | raised k foreign => exact ownership.signalled foreign
  | requested caller outside => exact ownership.asked outside
  | started slot free =>
    -- it is asked for, and then it claims
    have asked : Ownership (w.asked none) := ownership.asked rfl
    have last : (w.asked none).sweeper.engagements[w.held.length]? =
        some ⟨.requested, none, none⟩ := by
      rw [ownership.length]
      exact List.getElem?_concat_length
    have claims : (w.asked none).sweeper.slot.claim? w.held.length = some slot := by
      rw [ownership.length]
      exact free
    have admitted := asked.admitted last claims
    simpa [Wiring.asked, Sweeper.replace, ownership.length, Flag.isRaised] using admitted
  | admitted index e slot present unclaimed free => exact ownership.admitted present free
  | refused index e present unclaimed =>
    refine ownership.kept flags.grown ownership.ordered rfl rfl rfl (List.length_set ..)
      fun i after there => ?_
    rcases Sweeper.replace_cases present there with ⟨rfl, rfl⟩ | ⟨-, before⟩
    · exact ⟨e, present, rfl, fun claimed => absurd unclaimed claimed, fun never => never.refused,
        fun k f holding => absurd unclaimed holding.claimed⟩
    · exact ⟨after, before, .still fun k f holding => Flag.isRaised_some holding.there⟩
  | moved index inner e progress present untold made =>
    exact ownership.moved (orderly index e present) present untold made
  | gaveUp index e generation present =>
    refine ownership.kept flags.grown ownership.ordered rfl rfl ?_ (List.length_set ..)
      fun i after there => ?_
    · simp only [Slot.giveUp]
      split <;> rfl
    · rcases Sweeper.replace_cases present there with ⟨rfl, rfl⟩ | ⟨-, before⟩
      · exact ⟨e, present, rfl, id, id, fun k f holding =>
          (Flag.isRaised_some holding.there).trans holding.agrees⟩
      · exact ⟨after, before, .still fun k f holding => Flag.isRaised_some holding.there⟩
  | stopped => exact ownership.stopped

/-- In every state it is known who holds which flag. -/
theorem ownership_along {s : Settings} {moves : List Move}
    (ran : run? (opened s) moves = some (w, log)) :
    Ownership w := by
  refine Execution.induction_along (motive := fun _ w _ => Ownership w) (.opened s) ?_ ran
  intro moves move mid before next shown reached ownership stepped
  obtain ⟨inner, alone⟩ := sweeper_along reached
  exact ownership.step (fun i e => Sweeper.orderly_of_run alone) (steps_of_step? stepped).1

end Wiring

end KeySweeper
