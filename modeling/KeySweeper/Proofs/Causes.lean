import KeySweeper.Proofs.Ownership

/-!
# Why a flag is raised

Cancellation never leaks out of its sweep. A flag from outside is raised by somebody outside or not
at all. The flag of a sweep goes up before its stages are over only by a stop request while the
sweep has the latest claim, by a failed call of one of its stages, by its being dropped, or with a
flag above it that somebody outside raises. What earlier sweeps do, or what is done to them, is none
of these.

Each step that raises a flag is traced to its cause, with the invariant about who holds which flag.
Along an execution a raised flag is then traced back to the step that raised it, at which the sweep
held the flag already, or to its claim, which found the flag of its caller raised.
-/

namespace KeySweeper

namespace Sweep

variable {s : Settings} {sweep : Sweep} {move : Move} {progress : Progress}

/-- Stages that are over stay so. -/
theorem StagesOver.step (ended : sweep.StagesOver) (orderly : sweep.Orderly)
    (steps : Steps s sweep move progress) :
    progress.sweep.StagesOver := by
  obtain ⟨p, running, quiet⟩ := ended
  have onward := workStep_of_steps orderly.opening steps
  rw [running] at onward
  unfold StagesOver
  generalize progress.sweep.work = work at onward
  generalize stageCalls _ = called at onward
  cases onward with
  | still => exact ⟨p, rfl, quiet⟩
  | staged inner p after shown stepped =>
    exact ⟨after, rfl, fun stage => Pipeline.over_of_step stepped (quiet stage)⟩

end Sweep

namespace Sweeper

variable {s : Settings} {c : Sweeper} {log : Log} {index : Nat} {e : Engagement}

/-- A sweep stays below its caller, and its stages stay over once they are. -/
theorem over_along {first rest : List Move} {mid : Sweeper} {early later : Log}
    (led : run? (.ofSettings s) first = some (mid, early))
    (continued : run? mid rest = some (c, later))
    (present : mid.engagements[index]? = some e) : ∃ after, c.engagements[index]? = some after ∧
      after.caller = e.caller ∧ (e.sweep.StagesOver → after.sweep.StagesOver) := by
  refine Execution.induction_along
    (motive := fun _ c _ => ∃ after, c.engagements[index]? = some after ∧
      after.caller = e.caller ∧ (e.sweep.StagesOver → after.sweep.StagesOver))
    ⟨e, present, rfl, id⟩ ?_ continued
  rintro moves move before past next shown reached ⟨f, there, caller, ended⟩ stepped
  have ran := Execution.run?_append_iff.mpr ⟨mid, early, past, led, reached, rfl⟩
  have orderly := orderly_of_run ran there
  obtain ⟨after, here, fate⟩ := persists (steps_of_recorded? stepped) there
  refine ⟨after, here, ?_⟩
  generalize chronicle index shown = added at fate
  cases fate with
  | spared => exact ⟨caller, ended⟩
  | told move f reaches =>
    exact ⟨caller, fun was => (ended was).step orderly (Sweep.Steps.cancelled (s := s))⟩
  | admitted flag f slot unclaimed free =>
    refine ⟨caller, fun was => ?_⟩
    obtain ⟨p, running, -⟩ := ended was
    obtain ⟨flag, waiting⟩ := orderly.opening (by rw [unclaimed]; rfl)
    rw [waiting] at running
    cases running
  | refused flag f unclaimed => exact ⟨caller, ended⟩
  | moved inner f progress made =>
    exact ⟨caller, fun was => (ended was).step orderly (Sweep.steps_of_step? made)⟩
  | gaveUp f generation held halted => exact ⟨caller, ended⟩

end Sweeper

namespace Wiring

variable {w next : Wiring} {move : Move} {shown log : Sweeper.Log} {index flag : Nat}
  {e : Engagement} {f : Flag}

/-- Why the sweeper raises the flag of a sweep before the stages of the sweep are over: it is asked
to stop while the sweep has the latest claim, a call of one of the stages of the sweep fails, or the
sweep is dropped with the guard acquired. -/
inductive Cause (w : Wiring) (index : Nat) : Move → Prop where
  /-- A stop request. -/
  | stopped (latest : w.sweeper.slot.holder = some index) : Cause w index .stop
  /-- A failed call. -/
  | failed (inner : Pipeline.Move) (fails : inner.fails = true) :
      Cause w index (.sweep index (.stage inner))
  /-- Its being dropped. -/
  | dropped (canSpawn : Bool) (e : Engagement) (present : w.sweeper.engagements[index]? = some e)
      (bound : e.sweep.driver.isBound = true) : Cause w index (.sweep index (.drop canSpawn))

/-- The flag of a sweep goes up by one of these causes, when its stages have been waited for, or
when a flag above that of its caller is raised from outside. -/
theorem Holding.cause (holding : Holding w index flag e f) (ownership : Ownership w)
    (orderly : e.sweep.Orderly) (steps : Steps w move next) (calm : f.raised = false)
    (raised : Flag.isRaised next.flags (some flag) = true) :
    Cause w index move ∨ (move = .sweep index .proceed ∧ e.sweep.StagesOver) ∨
      ∃ k ∈ Flag.lineOf w.flags e.caller, move = .raise k := by
  have unraised {flags : List Flag} (same : flags[flag]? = some f) :
      Flag.isRaised flags (some flag) ≠ true := by
    rw [Flag.isRaised_some same, calm]
    exact Bool.false_ne_true
  cases steps with
  | made above outside => exact absurd raised (unraised (Flag.getElem?_concat holding.there _))
  | raised k foreign =>
    rw [Wiring.signalled, Flag.isRaised_raise holding.there, calm, Bool.false_or,
      decide_eq_true_eq] at raised
    exact Or.inr (Or.inr ⟨k, (holding.mem_line_foreign foreign).mp raised, rfl⟩)
  | requested caller outside => exact absurd raised (unraised holding.there)
  | started slot free => exact absurd raised (unraised (Flag.getElem?_concat holding.there _))
  | admitted claimant g slot present unclaimed free =>
    exact absurd raised (unraised (Flag.getElem?_concat holding.there _))
  | refused claimant g present unclaimed => exact absurd raised (unraised holding.there)
  | gaveUp claimant g generation present => exact absurd raised (unraised holding.there)
  | stopped =>
    rw [holding.isRaised_stopped ownership, calm, Bool.false_or, decide_eq_true_eq] at raised
    exact Or.inl (.stopped raised)
  | moved mover inner g progress present untold made =>
    rw [holding.isRaised_moved ownership, calm, Bool.false_or, Bool.and_eq_true,
      decide_eq_true_eq] at raised
    obtain ⟨raises, rfl⟩ := raised
    obtain rfl := Option.some.inj (present.symm.trans holding.present)
    cases inner with
    | stage stageMove => exact Or.inl (.failed stageMove raises)
    | drop canSpawn => exact Or.inl (.dropped canSpawn g present raises)
    | proceed =>
      cases Sweep.steps_of_step? made with
      | proceeded joining => exact Or.inr (Or.inl ⟨rfl, orderly.joined joining⟩)
    | guardReleased answer elapsed finishedAt =>
      -- the flag has been up since the stages were waited for
      have told : f.raised = true := by
        rw [holding.agrees]
        cases Sweep.steps_of_step? made with
        | completed releasing => exact orderly.released releasing
        | releaseCrashed releasing => exact orderly.released releasing
      rw [calm] at told
      cases told
    | _ => cases raises

/-- A sweep that holds a flag after a move held it before, or has just claimed and holds a new
one. -/
theorem Ownership.held_before (ownership : Ownership w) (steps : Steps w move next)
    (holds : next.flagOf? index = some flag) : w.flagOf? index = some flag ∨
      ∃ e, next.sweeper.engagements[index]? = some e ∧
        next.flags[flag]? = some (.below w.flags e.caller true) := by
  cases steps with
  | started slot free =>
    rcases flagOf?_handed none holds with ⟨rfl, rfl⟩ | ⟨-, before⟩
    · refine Or.inr ⟨⟨.claimed false, none, some slot.generation⟩, ?_, List.getElem?_concat_length⟩
      rw [ownership.length]
      exact List.getElem?_concat_length
    · exact Or.inl ((flagOf?_asked w none index).symm.trans before)
  | admitted claimant e slot present unclaimed free =>
    rcases flagOf?_handed e.caller holds with ⟨rfl, rfl⟩ | ⟨-, before⟩
    · exact Or.inr ⟨_, List.getElem?_set_self (List.getElem?_eq_some_iff.mp present).1,
        List.getElem?_concat_length⟩
    · exact Or.inl before
  | requested caller outside => exact Or.inl ((flagOf?_asked w caller index).symm.trans holds)
  | _ => exact Or.inl holds

variable {s : Settings} {moves : List Move}

/-- If the flag of a sweep is up and its stages are not over, then the flag of its caller is up, or
the sweep held its flag already when the sweeper raised it for one of its causes. -/
theorem cause_along (ran : run? (opened s) moves = some (w, log))
    (holding : Holding w index flag e f) (raised : f.raised = true) (going : ¬ e.sweep.StagesOver) :
    Flag.isRaised w.flags e.caller = true ∨
      ∃ first move rest mid early, moves = first ++ move :: rest ∧
        run? (opened s) first = some (mid, early) ∧
        (∃ before g, Holding mid index flag before g ∧ g.raised = false) ∧
        Cause mid index move := by
  refine Execution.induction_along
    (motive := fun moves w _ => ∀ e f, Holding w index flag e f → f.raised = true →
    ¬ e.sweep.StagesOver → Flag.isRaised w.flags e.caller = true ∨
      ∃ first move rest mid early, moves = first ++ move :: rest ∧
        run? (opened s) first = some (mid, early) ∧
        (∃ before g, Holding mid index flag before g ∧ g.raised = false) ∧ Cause mid index move)
    ?_ ?_ ran e f holding raised going
  · intro e f holding
    cases holding.holds
  · intro moves move mid early next shown reached inductionHypothesis stepped after g holding
      raised going
    have ownership := ownership_along reached
    obtain ⟨steps, inner, moved⟩ := steps_of_step? stepped
    obtain ⟨firstInner, alone⟩ := sweeper_along reached
    have grown := (ownership.flagStep steps).grown
    rcases ownership.held_before steps holding.holds with holds | ⟨e, present, new⟩
    · obtain ⟨e, f, before⟩ := ownership.held index flag holds
      obtain ⟨same, present, caller, ended⟩ := Sweeper.over_along alone moved before.present
      obtain rfl := Option.some.inj (holding.present.symm.trans present)
      have ongoing : ¬ e.sweep.StagesOver := fun was => going (ended was)
      rw [caller]
      cases calm : f.raised with
      | true =>
        rcases inductionHypothesis e f before calm ongoing with
          above | ⟨first, earlier, rest, state, log, split, past⟩
        · exact Or.inl (grown.isRaised above)
        · have longer : moves ++ [move] = first ++ earlier :: (rest ++ [move]) := by
            rw [split, List.append_assoc, List.cons_append]
          exact Or.inr ⟨first, earlier, rest ++ [move], state, log, longer, past⟩
      | false =>
        have up : Flag.isRaised next.flags (some flag) = true :=
          (Flag.isRaised_some holding.there).trans raised
        rcases before.cause ownership (Sweeper.orderly_of_run alone before.present) steps
          calm up with cause | ⟨-, ended⟩ | ⟨k, above, rfl⟩
        · exact Or.inr ⟨moves, move, [], mid, early, rfl, reached, ⟨e, f, before, calm⟩, cause⟩
        · exact absurd ended ongoing
        · cases steps with
          | raised k foreign => exact Or.inl (Flag.isRaised_of_mem_lineOf above)
    · obtain rfl := Option.some.inj (holding.present.symm.trans present)
      obtain rfl := Option.some.inj (holding.there.symm.trans new)
      exact Or.inl (grown.isRaised raised)

/-- The flags from outside that are raised are explained by the moves so far: a flag is raised
exactly if somebody outside has raised it or one above it. Moves raise only flags that were
there. -/
structure Explained (flags : List Flag) (moves : List Move) : Prop where
  known : ∀ j, Move.raise j ∈ moves → j < flags.length
  iff : ∀ (k : Nat) (f : Flag), flags[k]? = some f → f.own = false →
    (f.raised = true ↔ ∃ j ∈ f.line, Move.raise j ∈ moves)

section

variable {flags : List Flag} {above : Option Nat}

/-- The first flag of a sweeper is not from outside. -/
theorem Explained.opened (s : Settings) : Explained (Wiring.opened s).flags [] where
  known j impossible := absurd impossible List.not_mem_nil
  iff k f there foreign := by
    cases k with
    | zero =>
      obtain rfl := Option.some.inj there
      cases foreign
    | succ k => cases there

/-- The flag of a caller, if there is one, is explained. -/
theorem Explained.isRaised_iff (explained : Explained flags moves)
    (outside : above.all (Flag.isForeign flags) = true) :
    Flag.isRaised flags above = true ↔ ∃ j ∈ Flag.lineOf flags above, Move.raise j ∈ moves := by
  cases above with
  | none => simp [Flag.isRaised, Flag.lineOf]
  | some k =>
    obtain ⟨f, there, foreign⟩ := Flag.isForeign_iff.mp outside
    rw [Flag.isRaised_some there, Flag.lineOf_some there]
    exact explained.iff k f there foreign

/-- Other moves explain nothing more. -/
theorem Explained.quiet (explained : Explained flags moves) (quiet : ∀ k, move ≠ .raise k) :
    Explained flags (moves ++ [move]) := by
  have same (j : Nat) : Move.raise j ∈ moves ++ [move] ↔ Move.raise j ∈ moves := by
    simp [Ne.symm (quiet j)]
  refine ⟨?_, ?_⟩ <;> simp only [same]
  · exact explained.known
  · exact explained.iff

/-- A new flag is raised for the reason for which the one above it is. -/
theorem Explained.concat (explained : Explained flags moves)
    (outside : above.all (Flag.isForeign flags) = true)
    (own : Bool) : Explained (flags ++ [Flag.below flags above own]) moves where
  known j was := by
    rw [List.length_append]
    exact Nat.lt_add_right _ (explained.known j was)
  iff k f there foreign := by
    by_cases old : k < flags.length
    · rw [List.getElem?_append_left old] at there
      exact explained.iff k f there foreign
    · rw [List.getElem?_append_right (Nat.le_of_not_lt old), List.getElem?_singleton] at there
      split at there
      · obtain rfl := Option.some.inj there
        have fresh : Move.raise flags.length ∉ moves :=
          fun was => Nat.lt_irrefl _ (explained.known _ was)
        simp only [Flag.below, List.mem_cons, exists_eq_or_imp, fresh, false_or]
        exact explained.isRaised_iff outside
      · cases there

/-- Raising a flag from outside is the reason for which those below it are raised. -/
theorem Explained.signalled (explained : Explained flags moves)
    (foreign : Flag.isForeign flags flag = true) :
    Explained (Flag.raise flags flag) (moves ++ [.raise flag]) where
  known j was := by
    rw [Flag.raise, List.length_map]
    rcases List.mem_append.mp was with earlier | now
    · exact explained.known j earlier
    · obtain rfl := Move.raise.inj (List.mem_singleton.mp now)
      obtain ⟨g, here, -⟩ := Flag.isForeign_iff.mp foreign
      exact (List.getElem?_eq_some_iff.mp here).1
  iff k f there foreign := by
    rw [Flag.raise, List.getElem?_map] at there
    obtain ⟨g, before, rfl⟩ := Option.map_eq_some_iff.mp there
    simp only [Flag.touched, Bool.or_eq_true, decide_eq_true_eq, explained.iff k g before foreign,
      List.mem_append, List.mem_singleton, Move.raise.injEq]
    constructor
    · rintro (⟨j, member, earlier⟩ | member)
      · exact ⟨j, member, Or.inl earlier⟩
      · exact ⟨flag, member, Or.inr rfl⟩
    · rintro ⟨j, member, earlier | rfl⟩
      · exact Or.inl ⟨j, member, earlier⟩
      · exact Or.inr member

/-- Raising a flag that the sweeper made raises none from outside. -/
theorem Explained.told (explained : Explained flags moves) (ordered : Flag.Ordered flags)
    (own : Flag.isForeign flags flag = false) : Explained (Flag.raise flags flag) moves where
  known j was := by
    rw [Flag.raise, List.length_map]
    exact explained.known j was
  iff k f there foreign := by
    rw [Flag.raise, List.getElem?_map] at there
    obtain ⟨g, before, rfl⟩ := Option.map_eq_some_iff.mp there
    have outside : (some k).all (Flag.isForeign flags) = true :=
      Flag.isForeign_iff.mpr ⟨g, before, foreign⟩
    have apart : flag ∉ g.line := fun member => by
      rw [← Flag.lineOf_some before] at member
      rw [ordered.lineOf outside flag member] at own
      cases own
    simp only [Flag.touched, decide_eq_false apart, Bool.or_false]
    exact explained.iff k g before foreign

/-- Every move explains the flags from outside that it raises. -/
theorem Explained.step (explained : Explained w.flags moves) (ordered : Flag.Ordered w.flags)
    (step : FlagStep w move flags) : Explained flags (moves ++ [move]) := by
  cases step with
  | still quiet => exact explained.quiet quiet
  | new quiet above own outside => exact (explained.concat outside own).quiet quiet
  | signalled k same foreign =>
    subst same
    exact explained.signalled foreign
  | told quiet k f there own =>
    have inside : Flag.isForeign w.flags k = false := by
      simp [Flag.isForeign, there, own]
    exact (explained.told ordered inside).quiet quiet

end

/-- Along every execution the flags from outside are explained. -/
theorem explained_along (ran : run? (opened s) moves = some (w, log)) :
    Explained w.flags moves := by
  refine Execution.induction_along
    (motive := fun moves w _ => Explained w.flags moves) (.opened s) ?_ ran
  intro moves move mid early next shown reached explained stepped
  have ownership := ownership_along reached
  exact explained.step ownership.ordered (ownership.flagStep (steps_of_step? stepped).1)

/-- What belongs to a sweep: its attempt to claim, its own moves with the failures of its stages,
its end and its being dropped, the end of its claim, and the stop requests while it has the latest
claim. -/
inductive BelongsTo (w : Wiring) (index : Nat) : Move → Prop where
  /-- Its attempt to claim. -/
  | claim : BelongsTo w index (.claim index)
  /-- Its own moves. -/
  | sweep (inner : Sweep.Move) : BelongsTo w index (.sweep index inner)
  /-- The end of its claim. -/
  | giveUp : BelongsTo w index (.giveUp index)
  /-- A stop request. -/
  | stop (latest : w.sweeper.slot.holder = some index) : BelongsTo w index .stop

/-- What belongs to one sweep leaves the flags of the others alone. -/
theorem Holding.spared (holding : Holding w index flag e f) (ownership : Ownership w)
    (orderly : e.sweep.Orderly) (steps : Steps w move next) {other : Nat}
    (belongs : BelongsTo w other move) (different : other ≠ index) :
    Flag.isRaised next.flags (some flag) = f.raised := by
  cases was : f.raised with
  | true =>
    exact (ownership.flagStep steps).grown.isRaised ((Flag.isRaised_some holding.there).trans was)
  | false =>
    by_contra raised
    rcases holding.cause ownership orderly steps was (by simpa using raised) with
      cause | ⟨rfl, -⟩ | ⟨k, -, rfl⟩
    · cases cause with
      | stopped latest =>
        cases belongs with
        | stop holder => exact different (Option.some.inj (holder.symm.trans latest))
      | failed inner fails =>
        cases belongs with
        | sweep inner => exact different rfl
      | dropped canSpawn e present bound =>
        cases belongs with
        | sweep inner => exact different rfl
    · cases belongs with
      | sweep inner => exact different rfl
    · cases belongs

/-- Cancellation does not leak out of a sweep, however callers make, pass and raise their flags, and
in whatever order sweeps are asked for, claim, go on, fail, end and are dropped, and stop requests
come.

* Every sweep that is under way, or whose stages were started, holds a flag of its own. It hangs
  below the flag of the caller and no other sweep holds it. It is raised exactly when the sweep is
  told to wind down.
* The flag of a caller is raised only by somebody outside who raises it or one above it. The sweeper
  never does.
* The flag of a sweep that is down goes up by a stop request while the sweep has the latest claim,
  by a failed call of one of its stages, by its being dropped, by its end when all its stages are
  over, or because somebody outside raises a flag above it. What belongs to another sweep leaves it
  as it is.
* So if it is up before all stages are over, then somebody outside has raised a flag above it, or
  the sweep had claimed already, and held this flag, when one of the first three things happened to
  it. -/
theorem cancellation_stays_within (s : Settings) (moves : List Move) (w : Wiring)
    (log : Sweeper.Log) (ran : run? (opened s) moves = some (w, log)) :
    (∀ index e, w.sweeper.engagements[index]? = some e →
      (e.sweep.driver.isEngaged = true ∨ ∃ p, e.sweep.work = .running p) →
      ∃ flag f, Holding w index flag e f ∧ ∀ other, w.flagOf? other = some flag → other = index) ∧
    (∀ (k : Nat) (f : Flag), w.flags[k]? = some f → f.own = false →
      (f.raised = true ↔ ∃ j ∈ f.line, Move.raise j ∈ moves)) ∧
    (∀ index flag e f move next shown, Holding w index flag e f →
      w.step? move = some (next, shown) →
      (f.raised = false → Flag.isRaised next.flags (some flag) = true →
        Cause w index move ∨ (move = .sweep index .proceed ∧ e.sweep.StagesOver) ∨
          ∃ k ∈ Flag.lineOf w.flags e.caller, move = .raise k) ∧
      ∀ other, other ≠ index → BelongsTo w other move →
        Flag.isRaised next.flags (some flag) = f.raised) ∧
    ∀ index flag e f, Holding w index flag e f → f.raised = true → ¬ e.sweep.StagesOver →
      (∃ k ∈ Flag.lineOf w.flags e.caller, Move.raise k ∈ moves) ∨
        ∃ first move rest mid early, moves = first ++ move :: rest ∧
          run? (opened s) first = some (mid, early) ∧
          (∃ before g, Holding mid index flag before g ∧ g.raised = false) ∧
          Cause mid index move := by
  have ownership := ownership_along ran
  obtain ⟨inner, alone⟩ := sweeper_along ran
  refine ⟨?_, (explained_along ran).iff, ?_, ?_⟩
  · intro index e present going
    cases holds : w.flagOf? index with
    | none =>
      obtain ⟨idle, bare⟩ := (ownership.unclaimed index e present holds).idle
      rcases going with engaged | ⟨p, running⟩
      · rw [idle] at engaged
        cases engaged
      · exact absurd running (bare p)
    | some flag =>
      obtain ⟨f, g, holding⟩ := ownership.held index flag holds
      obtain rfl := Option.some.inj (holding.present.symm.trans present)
      exact ⟨flag, g, holding, fun other too => ownership.apart other index flag too holds⟩
  · intro index flag e f move next shown holding stepped
    have orderly := Sweeper.orderly_of_run alone holding.present
    have steps := (steps_of_step? stepped).1
    exact ⟨holding.cause ownership orderly steps,
      fun other different belongs => holding.spared ownership orderly steps belongs different⟩
  · intro index flag e f holding raised going
    exact (cause_along ran holding raised going).imp_left
      ((explained_along ran).isRaised_iff (ownership.callers index e holding.present)).mp

/-- Below the second of two flags from outside a sweep claims, acquires the guard and is dropped.
While its stages drain, another sweep claims on its own, and then the scan of the first one
fails. -/
def overlapping : List Move :=
  [.make none, .make (some 1), .request (some 2), .claim 0, .sweep 0 .begin,
    .sweep 0 (.guardChecked (.value false)),
    .sweep 0 (.guardMarked (.value ())), .sweep 0 (.drop true), .giveUp 0, .start,
    .sweep 0 (.stage (.scanned (.failed (.unavailable "down"))))]

/-- The drop of the first sweep and the failure of its stage reach neither the flags of the caller
nor the flag of the second sweep. -/
theorem cancellation_stays_within_overlapping :
    ∃ w log e f g h, run? (opened (.ofPattern "a*" 10)) overlapping = some (w, log) ∧
      Holding w 0 3 e f ∧ f.raised = true ∧ ¬ e.sweep.StagesOver ∧
      (∃ first move rest mid early, overlapping = first ++ move :: rest ∧
        run? (opened (.ofPattern "a*" 10)) first = some (mid, early) ∧ Cause mid 0 move) ∧
      Holding w 1 4 g h ∧ h.raised = false ∧
      ∀ (k : Nat) (c : Flag), w.flags[k]? = some c → c.own = false → c.raised = false := by
  have reached : (run? (opened (.ofPattern "a*" 10)) overlapping).map (fun last =>
      (last.1.flagOf? 0, last.1.flagOf? 1, last.1.flags.map (·.raised))) =
      some (some 3, some 4, [false, false, false, true, false]) := by decide +kernel
  have going : (run? (opened (.ofPattern "a*" 10)) overlapping).map (fun last =>
      last.1.sweeper.engagements.map fun e =>
        (e.sweep.driver.isEngaged, e.sweep.work.hasEnded .scanner, e.sweep.work.hasEnded .filter)) =
      some [(false, true, false), (true, false, false)] := by decide +kernel
  obtain ⟨⟨w, log⟩, ran, same⟩ := Option.map_eq_some_iff.mp reached
  rw [ran, Option.map_some, Option.some.injEq] at going
  simp only [Prod.mk.injEq] at same
  obtain ⟨zero, one, raised⟩ := same
  obtain ⟨holders, outside, -, caused⟩ :=
    cancellation_stays_within (.ofPattern "a*" 10) overlapping w log ran
  obtain ⟨e, first, dropped⟩ := Option.map_eq_some_iff.mp
    ((List.getElem?_map (i := 0)).symm.trans (congrArg (·[0]?) going))
  obtain ⟨g, second, claimed⟩ := Option.map_eq_some_iff.mp
    ((List.getElem?_map (i := 1)).symm.trans (congrArg (·[1]?) going))
  simp only [Prod.mk.injEq] at dropped claimed
  have started : ∃ p, e.sweep.work = .running p := by
    cases work : e.sweep.work with
    | waiting flag => simp [work, Work.hasEnded] at dropped
    | running p => exact ⟨p, rfl⟩
  have ongoing : ¬ e.sweep.StagesOver := by
    rintro ⟨p, running, quiet⟩
    simp [running, Work.hasEnded, quiet] at dropped
  obtain ⟨three, f, holding, -⟩ := holders 0 e first (Or.inr started)
  obtain rfl := Option.some.inj (zero.symm.trans holding.holds)
  obtain ⟨four, h, other, -⟩ := holders 1 g second (Or.inl claimed.1)
  obtain rfl := Option.some.inj (one.symm.trans other.holds)
  have up : f.raised = true := by
    have third : (w.flags.map (·.raised))[3]? = some true := by rw [raised]; rfl
    rw [List.getElem?_map, holding.there] at third
    exact Option.some.inj third
  have down : h.raised = false := by
    have fourth : (w.flags.map (·.raised))[4]? = some false := by rw [raised]; rfl
    rw [List.getElem?_map, other.there] at fourth
    exact Option.some.inj fourth
  refine ⟨w, log, e, f, g, h, ran, holding, up, ongoing, ?_, other, down,
    fun k c there foreign => ?_⟩
  · rcases caused 0 3 e f holding up ongoing with
      ⟨k, -, member⟩ | ⟨past, move, rest, mid, early, split, led, -, cause⟩
    · simp [overlapping] at member
    · exact ⟨past, move, rest, mid, early, split, led, cause⟩
  · refine Bool.eq_false_iff.mpr fun was => ?_
    obtain ⟨j, -, member⟩ := (outside k c there foreign).mp was
    simp [overlapping] at member

end Wiring

end KeySweeper
