import KeySweeper.Proofs.Failures
import KeySweeper.Proofs.Termination

/-!
# Flags

A sweep is told to wind down through a flag. A flag may hang below another one: who raises the upper
one raises the lower one with it, and never the other way round. Callers have flags of their own
below which they ask for sweeps. Each claim of the sweeper makes a new flag, below the caller's or
below none. The sweep and its stages hold this flag from then on, whatever happens to the sweep, and
the slot holds the flag of the latest claim for stop requests. So flags of older claims stay in use
while newer ones are made: by stages that drain, and by sweeps that are dropped.

The sweeper itself keeps of all this only whether each of its sweeps was told. Here it is wired up:
beside the sweeper there are all flags that were ever made and a record of who holds which. The
sweeper moves as it does alone, and each move raises the flags that the code behind it holds.
-/

namespace KeySweeper

/-- A flag. -/
structure Flag where
  /-- The flag itself and all flags above it, from the lowest to the highest. -/
  line : List Nat
  /-- Whether it is raised. -/
  raised : Bool
  /-- Whether the sweeper made it, and not somebody outside. -/
  own : Bool
deriving DecidableEq, Repr

namespace Flag

/-- A flag and all flags above it; nothing, if there is no such flag. -/
def lineOf (flags : List Flag) (flag : Option Nat) : List Nat :=
  ((flag.bind fun k => flags[k]?).map (·.line)).getD []

/-- Whether a flag is raised; it is not, if there is no such flag. -/
def isRaised (flags : List Flag) (flag : Option Nat) : Bool :=
  ((flag.bind fun k => flags[k]?).map (·.raised)).getD false

/-- Whether a flag was made by somebody outside. -/
def isForeign (flags : List Flag) (flag : Nat) : Bool := (flags[flag]?).any fun f => !f.own

/-- A new flag below another one, or below none. It is raised if that one is. -/
def below (flags : List Flag) (above : Option Nat) (own : Bool) : Flag :=
  ⟨flags.length :: lineOf flags above, isRaised flags above, own⟩

/-- A flag once another one was raised. -/
def touched (flag : Nat) (f : Flag) : Flag :=
  { f with raised := f.raised || decide (flag ∈ f.line) }

/-- The flags once one of them was raised. -/
def raise (flags : List Flag) (flag : Nat) : List Flag := flags.map (touched flag)

/-- The flags that are raised with a flag. -/
def reached (flags : List Flag) (flag : Nat) : List Nat :=
  (List.range flags.length).filter fun k => decide (flag ∈ lineOf flags (some k))

section

variable {flags next : List Flag} {flag : Nat} {f : Flag}

/-- A flag from outside is a flag. -/
theorem isForeign_iff : isForeign flags flag = true ↔ ∃ f, flags[flag]? = some f ∧
    f.own = false := by
  simp [isForeign, Option.any_eq_true]

/-- The flags above a flag that there is. -/
theorem lineOf_some (there : flags[flag]? = some f) : lineOf flags (some flag) = f.line := by
  simp [lineOf, there]

/-- Whether a flag that there is is raised. -/
theorem isRaised_some (there : flags[flag]? = some f) : isRaised flags (some flag) = f.raised := by
  simp [isRaised, there]

/-- Every flag hangs below itself, and otherwise below flags from outside only. -/
def Ordered (flags : List Flag) : Prop :=
  ∀ (k : Nat) (f : Flag), flags[k]? = some f → k ∈ f.line ∧ ∀ j ∈ f.line, j ≠ k →
    isForeign flags j = true

/-- The flags that there were keep their places and their lines, and none is lowered. -/
def Grown (flags next : List Flag) : Prop :=
  ∀ (k : Nat) (f : Flag), flags[k]? = some f →
    ∃ g : Flag, next[k]? = some g ∧ g.line = f.line ∧ g.own = f.own ∧
      (f.raised = true → g.raised = true)

/-- A flag from outside stays one. -/
theorem Grown.foreign (grown : Grown flags next) (foreign : isForeign flags flag = true) :
    isForeign next flag = true := by
  obtain ⟨f, there, outside⟩ := isForeign_iff.mp foreign
  obtain ⟨g, here, -, same, -⟩ := grown flag f there
  exact isForeign_iff.mpr ⟨g, here, same.trans outside⟩

/-- A flag from outside, or none, stays so. -/
theorem Grown.outside (grown : Grown flags next) {above : Option Nat}
    (outside : above.all (isForeign flags) = true) : above.all (isForeign next) = true := by
  cases above with
  | none => rfl
  | some k => exact grown.foreign outside

/-- A flag from outside, or none, keeps its line. -/
theorem Grown.lineOf (grown : Grown flags next) {above : Option Nat}
    (outside : above.all (isForeign flags) = true) :
    lineOf next above = Flag.lineOf flags above := by
  cases above with
  | none => rfl
  | some k =>
    obtain ⟨f, there, -⟩ := isForeign_iff.mp outside
    obtain ⟨g, here, same, -⟩ := grown k f there
    rw [lineOf_some here, lineOf_some there, same]

/-- No flag is lowered. -/
theorem Grown.isRaised (grown : Grown flags next) {above : Option Nat}
    (raised : isRaised flags above = true) :
    isRaised next above = true := by
  cases above with
  | none => cases raised
  | some k =>
    cases there : flags[k]? with
    | none => simp [Flag.isRaised, there] at raised
    | some f =>
      obtain ⟨g, here, -, -, still⟩ := grown k f there
      rw [isRaised_some here]
      exact still (isRaised_some there ▸ raised)

/-- A new flag leaves the others as they are. -/
theorem getElem?_concat (there : flags[flag]? = some f) (new : Flag) :
    (flags ++ [new])[flag]? = some f :=
  (List.getElem?_append_left (List.getElem?_eq_some_iff.mp there).1).trans there

/-- Flags grow by a new one. -/
theorem grown_concat (flags : List Flag) (new : Flag) : Grown flags (flags ++ [new]) :=
  fun _ f there => ⟨f, getElem?_concat there new, rfl, rfl, id⟩

/-- Raising a flag touches each flag by itself. -/
theorem getElem?_raise (there : flags[flag]? = some f) (raised : Nat) :
    (raise flags raised)[flag]? = some (touched raised f) := by
  rw [raise, List.getElem?_map, there, Option.map_some]

/-- Flags grow by raising one of them. -/
theorem grown_raise (flags : List Flag) (raised : Nat) : Grown flags (raise flags raised) :=
  fun _ f there => ⟨touched raised f, getElem?_raise there raised, rfl, rfl, fun was =>
    by simp [touched, was]⟩

/-- Raising a flag raises exactly the flags in whose line it is. -/
theorem isRaised_raise (there : flags[flag]? = some f) (raised : Nat) :
    isRaised (raise flags raised) (some flag) = (f.raised || decide (raised ∈ f.line)) :=
  isRaised_some (getElem?_raise there raised)

/-- Raising a flag raises those below it. -/
theorem isRaised_of_mem_lineOf {above : Option Nat} (member : flag ∈ lineOf flags above) :
    isRaised (raise flags flag) above = true := by
  cases above with
  | none => exact absurd member List.not_mem_nil
  | some k =>
    cases there : flags[k]? with
    | none => simp [lineOf, there] at member
    | some f =>
      rw [lineOf_some there] at member
      rw [isRaised_raise there, decide_eq_true member, Bool.or_true]

/-- The flags that are raised with a flag are those below it. -/
theorem mem_reached {k : Nat} : k ∈ reached flags flag ↔ flag ∈ lineOf flags (some k) := by
  simp only [reached, List.mem_filter, List.mem_range, decide_eq_true_eq, and_iff_right_iff_imp]
  intro member
  by_contra beyond
  simp [lineOf, List.getElem?_eq_none (Nat.le_of_not_lt beyond)] at member

/-- The line of a flag from outside, or of none, consists of flags from outside. -/
theorem Ordered.lineOf (ordered : Ordered flags) {above : Option Nat}
    (outside : above.all (isForeign flags) = true) :
    ∀ k ∈ lineOf flags above, isForeign flags k = true := by
  cases above with
  | none => exact fun k member => absurd member List.not_mem_nil
  | some a =>
    obtain ⟨f, there, -⟩ := isForeign_iff.mp outside
    rw [lineOf_some there]
    intro k member
    by_cases same : k = a
    · rw [same]
      exact outside
    · exact (ordered a f there).2 k member same

/-- A new flag below one from outside keeps the order. -/
theorem Ordered.concat (ordered : Ordered flags) {above : Option Nat}
    (outside : above.all (isForeign flags) = true)
    (own : Bool) : Ordered (flags ++ [below flags above own]) := by
  have grown := grown_concat flags (below flags above own)
  intro k f there
  by_cases old : k < flags.length
  · rw [List.getElem?_append_left old] at there
    exact ⟨(ordered k f there).1, fun j member different =>
      grown.foreign ((ordered k f there).2 j member different)⟩
  · obtain ⟨rfl, rfl⟩ : k = flags.length ∧ below flags above own = f := by
      rw [List.getElem?_append_right (Nat.le_of_not_lt old), List.getElem?_singleton] at there
      split at there
      · exact ⟨by omega, Option.some.inj there⟩
      · cases there
    refine ⟨List.mem_cons_self, fun j member different => grown.foreign ?_⟩
    rcases List.mem_cons.mp member with itself | member
    · exact absurd itself different
    · exact ordered.lineOf outside j member

/-- Raising a flag keeps the order. -/
theorem Ordered.raise (ordered : Ordered flags) (raised : Nat) : Ordered (raise flags raised) := by
  have grown := grown_raise flags raised
  intro k f there
  rw [Flag.raise, List.getElem?_map] at there
  obtain ⟨g, before, rfl⟩ := Option.map_eq_some_iff.mp there
  exact ⟨(ordered k g before).1, fun j member different =>
    grown.foreign ((ordered k g before).2 j member different)⟩

end

end Flag

/-- Whether a stage learns by a move that its call has failed. -/
def Pipeline.Move.fails : Pipeline.Move → Bool
  | .scanned answer => answer.failure?.isSome
  | .inspected answer => answer.failure?.isSome
  | .deleted answer => answer.failure?.isSome
  | _ => false

/-- Whether a sweep raises its flag by a move: when a call of a stage fails, when its stages have
been waited for, and when its driver comes to its end or is dropped with the guard acquired. -/
def Sweep.raises (sweep : Sweep) : Sweep.Move → Bool
  | .stage move => move.fails
  | .proceed => true
  | .guardReleased _ _ _ => true
  | .drop _ => sweep.driver.isBound
  | _ => false

/-- A sweeper with all flags laid open. -/
structure Wiring where
  /-- The sweeper. -/
  sweeper : Sweeper
  /-- All flags that were ever made, in order. -/
  flags : List Flag
  /-- The flag that a stop request raises. -/
  latest : Nat
  /-- The flag that each sweep got with its claim, in the order of the sweeps. -/
  held : List (Option Nat)

namespace Wiring

/-- A new sweeper. The first flag is one that no sweep holds, for stop requests before the first
claim. -/
def opened (s : Settings) : Wiring := ⟨.ofSettings s, [⟨[0], false, true⟩], 0, []⟩

/-- One step of a sweeper that is wired up, or of somebody outside. -/
inductive Move where
  /-- Somebody outside makes a flag, on its own or below another one from outside. -/
  | make (above : Option Nat)
  /-- Somebody outside raises a flag from outside. -/
  | raise (flag : Nat)
  /-- A sweep is asked for, on its own or below a flag from outside. -/
  | request (caller : Option Nat)
  /-- A sweep is asked for and claims the sweeper at once. -/
  | start
  /-- A sweep that was asked for tries to claim the sweeper. -/
  | claim (index : Nat)
  /-- A sweep makes a move, or is dropped. -/
  | sweep (index : Nat) (move : Sweep.Move)
  /-- A sweep that is over gives up its claim. -/
  | giveUp (index : Nat)
  /-- The current sweep is told to wind down. -/
  | stop
deriving DecidableEq, Repr

/-- The flag that a sweep holds, once it has claimed the sweeper. -/
def flagOf? (w : Wiring) (index : Nat) : Option Nat := (w.held[index]?).join

/-- Whether a sweep can be asked for, or a flag made, below a flag. -/
def isOutside (w : Wiring) (flag : Option Nat) : Bool := flag.all (Flag.isForeign w.flags)

/-- The wiring once a sweep was asked for that holds no flag yet. -/
def asked (w : Wiring) (caller : Option Nat) : Wiring :=
  { w with
    sweeper :=
      { w.sweeper with engagements := w.sweeper.engagements ++ [⟨.requested, caller, none⟩] }
    held := w.held ++ [none] }

/-- The wiring once a claim has made a new flag below that of the caller, for the sweep and for the
slot. -/
def handed (w : Wiring) (index : Nat) (caller : Option Nat) : Wiring :=
  { w with
    flags := w.flags ++ [.below w.flags caller true]
    latest := w.flags.length
    held := w.held.set index (some w.flags.length) }

/-- The wiring once somebody outside has raised a flag. All sweeps that claimed below a flag that is
raised with it are told to wind down. -/
def signalled (w : Wiring) (flag : Nat) : Wiring :=
  { w with
    sweeper := (Flag.reached w.flags flag).foldl Sweeper.cancelCaller w.sweeper
    flags := Flag.raise w.flags flag }

/-- The flags once a sweep has raised the one that it holds, if it holds one. -/
def raisedBy (w : Wiring) (index : Nat) : List Flag :=
  match w.flagOf? index with
  | none => w.flags
  | some flag => Flag.raise w.flags flag

/-- The wiring after a move. There is none if the move cannot be made now. Being told to wind down
is not a move of a sweep here: it comes about through the flags. -/
def step? (w : Wiring) : Move → Option (Wiring × Sweeper.Log)
  | .make above =>
    if w.isOutside above then some ({ w with flags := w.flags ++ [.below w.flags above false] },
      []) else none
  | .raise flag => if Flag.isForeign w.flags flag then some (w.signalled flag, []) else none
  | .request caller =>
    if w.isOutside caller then
      (w.sweeper.recorded? (.request caller)).map fun (sweeper, shown) =>
        ({ w with sweeper, held := w.held ++ [none] }, shown)
    else none
  | .start =>
    (w.sweeper.recorded? .start).map fun (sweeper, shown) =>
      (({ w with sweeper, held := w.held ++ [none] } : Wiring).handed w.held.length none, shown)
  | .claim index =>
    match w.sweeper.engagements[index]? with
    | none => none
    | some e =>
      (w.sweeper.recorded? (.claim index (Flag.isRaised w.flags e.caller))).map
        fun (sweeper, shown) =>
        (if w.sweeper.slot.phase.isActive then { w with sweeper }
          else ({ w with sweeper } : Wiring).handed index e.caller, shown)
  | .sweep index move =>
    match w.sweeper.engagements[index]? with
    | none => none
    | some e =>
      if move.isTold then none
      else
        (w.sweeper.recorded? (.sweep index move)).map fun (sweeper, shown) =>
          ({ w with sweeper, flags := if e.sweep.raises move then w.raisedBy index else w.flags },
            shown)
  | .giveUp index =>
    (w.sweeper.recorded? (.giveUp index)).map fun (sweeper, shown) => ({ w with sweeper }, shown)
  | .stop => some ({ w with sweeper := w.sweeper.stop, flags := Flag.raise w.flags w.latest }, [])

/-- The wiring after a sequence of moves, and the log of its sweeper. -/
abbrev run? : Wiring → List Move → Option (Wiring × Sweeper.Log) := Execution.run? step?

/-- The ways in which a move can come about. -/
inductive Steps (w : Wiring) : Move → Wiring → Prop where
  /-- Somebody outside makes a flag. -/
  | made (above : Option Nat) (outside : w.isOutside above = true) :
      Steps w (.make above) { w with flags := w.flags ++ [.below w.flags above false] }
  /-- Somebody outside raises a flag. -/
  | raised (flag : Nat) (foreign : Flag.isForeign w.flags flag = true) :
      Steps w (.raise flag) (w.signalled flag)
  /-- A sweep is asked for. -/
  | requested (caller : Option Nat) (outside : w.isOutside caller = true) :
      Steps w (.request caller) (w.asked caller)
  /-- A sweep is asked for and claims the sweeper. -/
  | started (slot : Slot) (free : w.sweeper.slot.claim? w.sweeper.engagements.length = some slot) :
      Steps w .start
        (({ w with
            sweeper := { w.sweeper with
              slot
              engagements :=
                w.sweeper.engagements ++ [⟨.claimed false, none, some slot.generation⟩] }
            held := w.held ++ [none] } : Wiring).handed w.held.length none)
  /-- A sweep claims the sweeper. -/
  | admitted (index : Nat) (e : Engagement) (slot : Slot)
      (present : w.sweeper.engagements[index]? = some e)
      (unclaimed : e.sweep.driver = .unclaimed) (free : w.sweeper.slot.claim? index = some slot) :
      Steps w (.claim index)
        (({ w with
            sweeper := { w.sweeper.replace index
              { e with
                sweep := .claimed (Flag.isRaised w.flags e.caller)
                claim := some slot.generation } with slot } } : Wiring).handed index e.caller)
  /-- A sweep finds the sweeper busy. -/
  | refused (index : Nat) (e : Engagement) (present : w.sweeper.engagements[index]? = some e)
      (unclaimed : e.sweep.driver = .unclaimed) :
      Steps w (.claim index)
        { w with
          sweeper := w.sweeper.replace index
            { e with sweep := { e.sweep with driver := .finished .alreadyRunning } } }
  /-- A sweep moves, or is dropped. -/
  | moved (index : Nat) (move : Sweep.Move) (e : Engagement) (progress : Sweep.Progress)
      (present : w.sweeper.engagements[index]? = some e) (untold : move.isTold = false)
      (made : e.sweep.step? w.sweeper.settings move = some progress) :
      Steps w (.sweep index move)
        { w with
          sweeper := { w.sweeper.replace index { e with sweep := progress.sweep } with
            slot := w.sweeper.heard progress.slot }
          flags := if e.sweep.raises move then w.raisedBy index else w.flags }
  /-- A sweep that is over gives up its claim. -/
  | gaveUp (index : Nat) (e : Engagement) (generation : Nat)
      (present : w.sweeper.engagements[index]? = some e) :
      Steps w (.giveUp index)
        { w with
          sweeper := { w.sweeper.replace index { e with claim := none } with
            slot := w.sweeper.slot.giveUp generation } }
  /-- The current sweep is told to wind down. -/
  | stopped :
      Steps w .stop { w with sweeper := w.sweeper.stop, flags := Flag.raise w.flags w.latest }

variable {w next : Wiring} {move : Move} {shown log : Sweeper.Log}

/-- Raising some flags of callers, one after the other, is a sequence of moves of the sweeper. -/
theorem run?_cancelCallers (c : Sweeper) (callers : List Nat) :
    Sweeper.run? c (callers.map .cancelCaller) =
      some (callers.foldl Sweeper.cancelCaller c, []) := by
  induction callers generalizing c with
  | nil => rfl
  | cons caller rest inductionHypothesis =>
    have first : c.recorded? (.cancelCaller caller) = some (c.cancelCaller caller, []) := rfl
    have later : Execution.run? Sweeper.recorded? (c.cancelCaller caller)
        (rest.map .cancelCaller) = _ :=
      inductionHypothesis (c.cancelCaller caller)
    simp only [List.map_cons, Execution.run?, first, later, List.foldl_cons, List.nil_append]

/-- Every move comes about in one of these ways, and whatever the flags, the sweeper moves as it
does alone. -/
theorem steps_of_step? (stepped : w.step? move = some (next, shown)) :
    Steps w move next ∧ ∃ inner, Sweeper.run? w.sweeper inner = some (next.sweeper, shown) := by
  have alone {own : Sweeper.Move} {sweeper : Sweeper} {entries : Sweeper.Log}
      (made : w.sweeper.recorded? own = some (sweeper, entries)) :
      ∃ inner, Sweeper.run? w.sweeper inner = some (sweeper, entries) :=
    ⟨[own], Execution.run?_singleton.trans made⟩
  cases move with
  | make above =>
    simp only [step?] at stepped
    split at stepped
    · next outside =>
      obtain ⟨rfl, rfl⟩ := Prod.mk.inj (Option.some.inj stepped)
      exact ⟨.made above outside, [], rfl⟩
    · cases stepped
  | raise flag =>
    simp only [step?] at stepped
    split at stepped
    · next foreign =>
      obtain ⟨rfl, rfl⟩ := Prod.mk.inj (Option.some.inj stepped)
      exact ⟨.raised flag foreign, _, run?_cancelCallers w.sweeper (Flag.reached w.flags flag)⟩
    · cases stepped
  | request caller =>
    simp only [step?] at stepped
    split at stepped
    · next outside =>
      obtain ⟨⟨sweeper, entries⟩, made, result⟩ := Option.map_eq_some_iff.mp stepped
      obtain ⟨rfl, rfl⟩ := Prod.mk.inj result
      refine ⟨?_, alone made⟩
      cases Sweeper.steps_of_recorded? made with
      | requested => exact .requested caller outside
    · cases stepped
  | start =>
    obtain ⟨⟨sweeper, entries⟩, made, result⟩ := Option.map_eq_some_iff.mp stepped
    obtain ⟨rfl, rfl⟩ := Prod.mk.inj result
    refine ⟨?_, alone made⟩
    cases Sweeper.steps_of_recorded? made with
    | started slot free => exact .started slot free
  | claim index =>
    simp only [step?] at stepped
    split at stepped
    · cases stepped
    · next e present =>
      obtain ⟨⟨sweeper, entries⟩, made, result⟩ := Option.map_eq_some_iff.mp stepped
      obtain ⟨rfl, rfl⟩ := Prod.mk.inj result
      cases Sweeper.steps_of_recorded? made with
      | admitted index flag f slot there unclaimed free =>
        obtain rfl := Option.some.inj (present.symm.trans there)
        rw [(Sweeper.claim?_eq_some free).1, if_neg Bool.false_ne_true]
        exact ⟨.admitted index e slot present unclaimed free, alone made⟩
      | refused index flag f there unclaimed busy =>
        obtain rfl := Option.some.inj (present.symm.trans there)
        have active : w.sweeper.slot.phase.isActive = true := by
          by_contra idle
          obtain ⟨claimed, free⟩ := Sweeper.claim?_of_idle (Bool.eq_false_iff.mpr idle) index
          rw [busy] at free
          cases free
        rw [if_pos active]
        exact ⟨.refused index e present unclaimed, alone made⟩
  | sweep index inner =>
    simp only [step?] at stepped
    split at stepped
    · cases stepped
    · next e present =>
      split at stepped
      · cases stepped
      · next untold =>
        obtain ⟨⟨sweeper, entries⟩, made, result⟩ := Option.map_eq_some_iff.mp stepped
        obtain ⟨rfl, rfl⟩ := Prod.mk.inj result
        refine ⟨?_, alone made⟩
        cases Sweeper.steps_of_recorded? made with
        | moved index inner f progress there allowed =>
          obtain rfl := Option.some.inj (present.symm.trans there)
          exact .moved index inner e progress present (Bool.eq_false_iff.mpr untold) allowed
  | giveUp index =>
    obtain ⟨⟨sweeper, entries⟩, made, result⟩ := Option.map_eq_some_iff.mp stepped
    obtain ⟨rfl, rfl⟩ := Prod.mk.inj result
    refine ⟨?_, alone made⟩
    cases Sweeper.steps_of_recorded? made with
    | gaveUp index e generation present held halted => exact .gaveUp index e generation present
  | stop =>
    obtain ⟨rfl, rfl⟩ := Prod.mk.inj (Option.some.inj stepped)
    exact ⟨.stopped, [.stop], rfl⟩

/-- The states of the sweeper are states that it reaches alone, with the same log. -/
theorem sweeper_along {s : Settings} {moves : List Move}
    (ran : run? (opened s) moves = some (w, log)) :
    ∃ inner, Sweeper.run? (.ofSettings s) inner = some (w.sweeper, log) := by
  refine Execution.induction_along (motive := fun _ w log =>
    ∃ inner, Sweeper.run? (.ofSettings s) inner = some (w.sweeper, log)) ⟨[], rfl⟩ ?_ ran
  rintro moves move mid before next shown - ⟨first, led⟩ stepped
  obtain ⟨-, rest, continued⟩ := steps_of_step? stepped
  exact ⟨first ++ rest, Execution.run?_append_iff.mpr ⟨_, before, shown, led, continued, rfl⟩⟩

end Wiring

end KeySweeper
