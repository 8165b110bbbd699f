import KeySweeper.Proofs.Chronicle
import KeySweeper.Sweeper

/-!
# The sweeps of a sweeper

A move of a sweeper, turned round: what it does to the slot and what becomes of each of the sweeps
that were asked for. Most sweeps are spared by a move. One of them may claim, be refused, move or
give up its claim, and some may be told to wind down.

The main statement ties the two levels together. In every state of a sweeper each of its sweeps
either never claimed, and then it called nothing, or it has come by an execution of its own from its
claim, and the log of the sweeper, read at the index of the sweep, is the chronicle of that
execution. So whatever holds of all executions of a sweep holds of every sweep of a sweeper.
-/

namespace KeySweeper.Sweeper

/-- What happens at a sweeper: the entries of the chronicles of its sweeps, each with the index of
its sweep. -/
abbrev Log := List (Nat × Sweep.Part × Effect)

/-- The entries for what one move shows. A sweep that is refused is the only one that shows anything
without a move of its own. -/
def Move.entries : Move → List Effect → Log
  | .claim index _, shown => shown.map fun effect => (index, .driver, effect)
  | .sweep index move, shown => (Sweep.entries move shown).map fun entry => (index, entry)
  | _, _ => []

/-- The sweeper after a move and the entries of its log for the move. -/
def recorded? (c : Sweeper) (move : Move) : Option (Sweeper × Log) :=
  (c.step? move).map fun (next, shown) => (next, move.entries shown)

/-- The sweeper after a sequence of moves, and its log. -/
abbrev run? : Sweeper → List Move → Option (Sweeper × Log) := Execution.run? recorded?

/-- The chronicle of one sweep in the log of its sweeper. -/
def chronicle (index : Nat) (log : Log) : Sweep.Chronicle :=
  (log.filter fun entry => entry.1 == index).map (·.2)

@[simp] theorem chronicle_append (index : Nat) (log later : Log) :
    chronicle index (log ++ later) = chronicle index log ++ chronicle index later := by
  simp only [chronicle, List.filter_append, List.map_append]

/-- Entries under an index belong to the chronicle of that index and to no other. -/
theorem chronicle_tagged (index other : Nat) (entries : Sweep.Chronicle) :
    chronicle index (entries.map fun entry => (other, entry)) =
      if other = index then entries else [] := by
  simp only [chronicle, List.filter_map, List.map_map, Function.comp_def, List.map_id']
  by_cases same : other = index
  · rw [if_pos same, List.filter_eq_self.mpr fun _ _ => beq_iff_eq.mpr same]
  · rw [if_neg same, List.filter_eq_nil_iff.mpr fun _ _ equal => same (beq_iff_eq.mp equal)]

/-- An entry of a chronicle is an entry of the log under its index. -/
theorem mem_chronicle {index : Nat} {log : Log} {entry : Sweep.Part × Effect} :
    entry ∈ chronicle index log ↔ (index, entry) ∈ log := by
  simp only [chronicle, List.mem_map, List.mem_filter, beq_iff_eq]
  constructor
  · rintro ⟨⟨other, found⟩, ⟨member, rfl⟩, rfl⟩
    exact member
  · intro member
    exact ⟨(index, entry), ⟨member, rfl⟩, rfl⟩

/-- The slot once a sweep has announced something, or nothing. -/
def heard (c : Sweeper) : Option SlotChange → Slot
  | none => c.slot
  | some change => c.slot.apply c.holderCancelled change

/-- The ways in which a move of a sweeper can come about. -/
inductive Steps (c : Sweeper) : Move → Sweeper → Log → Prop where
  /-- A sweep is asked for. -/
  | requested (caller : Option Nat) :
      Steps c (.request caller)
        { c with engagements := c.engagements ++ [⟨.requested, caller, none⟩] } []
  /-- A sweep is asked for and claims the sweeper. -/
  | started (slot : Slot) (free : c.slot.claim? c.engagements.length = some slot) :
      Steps c .start
        { c with
          slot
          engagements := c.engagements ++ [⟨.claimed false, none, some slot.generation⟩] } []
  /-- A sweep claims the sweeper. -/
  | admitted (index : Nat) (flag : Bool) (e : Engagement) (slot : Slot)
      (present : c.engagements[index]? = some e) (unclaimed : e.sweep.driver = .unclaimed)
      (free : c.slot.claim? index = some slot) :
      Steps c (.claim index flag)
        { c.replace index { e with sweep := .claimed flag, claim := some slot.generation } with
          slot } []
  /-- A sweep finds the sweeper busy. -/
  | refused (index : Nat) (flag : Bool) (e : Engagement) (present : c.engagements[index]? = some e)
      (unclaimed : e.sweep.driver = .unclaimed) (busy : c.slot.claim? index = none) :
      Steps c (.claim index flag)
        (c.replace index { e with sweep := { e.sweep with driver := .finished .alreadyRunning } })
        [(index, .driver, .logged busyLine)]
  /-- A sweep moves. -/
  | moved (index : Nat) (move : Sweep.Move) (e : Engagement) (progress : Sweep.Progress)
      (present : c.engagements[index]? = some e)
      (made : e.sweep.step? c.settings move = some progress) :
      Steps c (.sweep index move)
        { c.replace index { e with sweep := progress.sweep } with slot := c.heard progress.slot }
        ((Sweep.entries move progress.effects).map fun entry => (index, entry))
  /-- A sweep that is over gives up its claim. -/
  | gaveUp (index : Nat) (e : Engagement) (generation : Nat)
      (present : c.engagements[index]? = some e) (held : e.claim = some generation)
      (halted : isOver e.sweep.driver = true) :
      Steps c (.giveUp index)
        { c.replace index { e with claim := none } with slot := c.slot.giveUp generation } []
  /-- The current sweep is told to wind down. -/
  | stopped : Steps c .stop c.stop []
  /-- The sweeps below a caller's flag are told to wind down. -/
  | flagged (caller : Nat) : Steps c (.cancelCaller caller) (c.cancelCaller caller) []

variable {c next : Sweeper} {move : Move} {shown log : Log}

/-- Every move of a sweeper comes about in one of these ways. -/
theorem steps_of_recorded? (stepped : c.recorded? move = some (next, shown)) :
    Steps c move next shown := by
  obtain ⟨⟨after, effects⟩, made, result⟩ := Option.map_eq_some_iff.mp stepped
  obtain ⟨rfl, rfl⟩ := Prod.mk.inj result
  cases move with
  | request caller =>
    obtain ⟨rfl, rfl⟩ := Prod.mk.inj (Option.some.inj made)
    exact .requested caller
  | start =>
    simp only [step?] at made
    split at made
    · cases made
    · next slot free =>
      obtain ⟨rfl, rfl⟩ := Prod.mk.inj (Option.some.inj made)
      exact .started slot free
  | claim index flag =>
    simp only [step?, claim?] at made
    split at made
    · cases made
    · next e present =>
      split at made
      · next unclaimed =>
        split at made
        · next slot free =>
          obtain ⟨rfl, rfl⟩ := Prod.mk.inj (Option.some.inj made)
          exact .admitted index flag e slot present unclaimed free
        · next busy =>
          obtain ⟨rfl, rfl⟩ := Prod.mk.inj (Option.some.inj made)
          exact .refused index flag e present unclaimed busy
      · cases made
  | sweep index move =>
    simp only [step?, sweepStep?] at made
    split at made
    · cases made
    · next e present =>
      split at made
      · cases made
      · next progress allowed =>
        obtain ⟨rfl, rfl⟩ := Prod.mk.inj (Option.some.inj made)
        exact .moved index move e progress present allowed
  | giveUp index =>
    simp only [step?, giveUp?] at made
    split at made
    · cases made
    · next e present =>
      split at made
      · cases made
      · next generation held =>
        split at made
        · next halted =>
          obtain ⟨rfl, rfl⟩ := Prod.mk.inj (Option.some.inj made)
          exact .gaveUp index e generation present held halted
        · cases made
  | stop =>
    obtain ⟨rfl, rfl⟩ := Prod.mk.inj (Option.some.inj made)
    exact .stopped
  | cancelCaller caller =>
    obtain ⟨rfl, rfl⟩ := Prod.mk.inj (Option.some.inj made)
    exact .flagged caller

/-- A move that a sweep can make is a move that its sweeper can make. -/
theorem recorded?_moved {index : Nat} {e : Engagement} {inner : Sweep.Move}
    {progress : Sweep.Progress} (present : c.engagements[index]? = some e)
    (made : e.sweep.step? c.settings inner = some progress) :
    c.recorded? (.sweep index inner) =
      some ({ c.replace index { e with sweep := progress.sweep } with
        slot := c.heard progress.slot },
        (Sweep.entries inner progress.effects).map fun entry => (index, entry)) := by
  simp only [recorded?, step?, sweepStep?, present, made, Option.map_some, Move.entries]
  rfl

/-- A slot under which no sweep is under way can be claimed. -/
theorem claim?_of_idle {slot : Slot} (idle : slot.phase.isActive = false) (index : Nat) :
    ∃ claimed, slot.claim? index = some claimed := by
  simp only [Slot.claim?, idle, Bool.false_eq_true, if_false]
  exact ⟨_, rfl⟩

/-- A sweep that was asked for can claim a free sweeper. -/
theorem recorded?_admitted {index : Nat} {flag : Bool} {e : Engagement} {slot : Slot}
    (present : c.engagements[index]? = some e) (unclaimed : e.sweep.driver = .unclaimed)
    (free : c.slot.claim? index = some slot) :
    c.recorded? (.claim index flag) =
      some ({ c.replace index { e with sweep := .claimed flag, claim := some slot.generation } with
        slot }, []) := by
  simp only [recorded?, step?, claim?, present, unclaimed, free, Option.map_some]
  rfl

/-- A sweep can be asked for and claim a free sweeper at once. -/
theorem recorded?_started {slot : Slot} (free : c.slot.claim? c.engagements.length = some slot) :
    c.recorded? .start =
      some ({ c with
        slot
        engagements := c.engagements ++ [⟨.claimed false, none, some slot.generation⟩] }, []) := by
  simp only [recorded?, step?, free, Option.map_some]
  rfl

/-- A call is shown only by a move of the sweep that made it. -/
theorem moved_of_call (steps : Steps c move next shown) {index : Nat} {part : Sweep.Part}
    {event : StoreEvent} (member : (index, part, .called event) ∈ shown) :
    ∃ inner e progress, move = .sweep index inner ∧ c.engagements[index]? = some e ∧
      e.sweep.step? c.settings inner = some progress ∧
        (part, .called event) ∈ Sweep.entries inner progress.effects := by
  cases steps with
  | moved other inner e progress present made =>
    obtain ⟨entry, among, same⟩ := List.mem_map.mp member
    obtain ⟨rfl, rfl⟩ := Prod.mk.inj same
    exact ⟨inner, e, progress, rfl, present, made, among⟩
  | refused other flag e present unclaimed busy => simp at member
  | _ => cases member

/-- No move touches what the sweeper was told. -/
theorem settings_step (steps : Steps c move next shown) : next.settings = c.settings := by
  cases steps <;> rfl

/-- Whether a move tells a sweep with this engagement to wind down, if it reaches it. -/
def Move.Reaches : Move → Engagement → Prop
  | .stop, _ => True
  | .cancelCaller caller, e => e.caller = some caller
  | _, _ => False

/-- What becomes of the sweep at an index in one move: the engagement before, if the sweep was asked
for by then, the engagement after, and what the move adds to the sweep's chronicle. -/
inductive Fate (c : Sweeper) (index : Nat) :
    Move → Option Engagement → Engagement → Sweep.Chronicle → Prop where
  /-- The move is not its own and does nothing to it. -/
  | spared (move : Move) (e : Engagement) (elsewhere : ∀ inner, move ≠ .sweep index inner) :
      Fate c index move (some e) e []
  /-- The move is not its own and tells it to wind down. -/
  | told (move : Move) (e : Engagement) (reaches : move.Reaches e) :
      Fate c index move (some e) (cancelSweep e) []
  /-- It is asked for. -/
  | requested (caller : Option Nat) :
      Fate c index (.request caller) none ⟨.requested, caller, none⟩ []
  /-- It is asked for and claims the sweeper. -/
  | started (slot : Slot) (free : c.slot.claim? index = some slot) :
      Fate c index .start none ⟨.claimed false, none, some slot.generation⟩ []
  /-- It claims the sweeper. -/
  | admitted (flag : Bool) (e : Engagement) (slot : Slot) (unclaimed : e.sweep.driver = .unclaimed)
      (free : c.slot.claim? index = some slot) :
      Fate c index (.claim index flag) (some e)
        { e with sweep := .claimed flag, claim := some slot.generation } []
  /-- It finds the sweeper busy. -/
  | refused (flag : Bool) (e : Engagement) (unclaimed : e.sweep.driver = .unclaimed) :
      Fate c index (.claim index flag) (some e)
        { e with sweep := { e.sweep with driver := .finished .alreadyRunning } }
        [(.driver, .logged busyLine)]
  /-- It moves. -/
  | moved (move : Sweep.Move) (e : Engagement) (progress : Sweep.Progress)
      (made : e.sweep.step? c.settings move = some progress) :
      Fate c index (.sweep index move) (some e) { e with sweep := progress.sweep }
        (Sweep.entries move progress.effects)
  /-- It gives up its claim. -/
  | gaveUp (e : Engagement) (generation : Nat) (held : e.claim = some generation)
      (halted : isOver e.sweep.driver = true) :
      Fate c index (.giveUp index) (some e) { e with claim := none } []

/-- The outcome of a sweep is what its driver has come to. -/
theorem outcome?_eq_some {index : Nat} {outcome : SweepOutcome} : c.outcome? index = some outcome ↔
    ∃ e, c.engagements[index]? = some e ∧ e.sweep.driver = .finished outcome := by
  simp only [outcome?]
  cases c.engagements[index]? with
  | none => simp
  | some e => cases driver : e.sweep.driver <;> simp [driver]

/-- Replacing one engagement leaves the others as they are. -/
theorem replace_cases {index other : Nat} {e old after : Engagement}
    (present : c.engagements[index]? = some old)
    (there : (c.engagements.set index e)[other]? = some after) :
    other = index ∧ after = e ∨ other ≠ index ∧ c.engagements[other]? = some after := by
  by_cases same : index = other
  · subst same
    rw [List.getElem?_set_self (List.getElem?_eq_some_iff.mp present).1] at there
    exact Or.inl ⟨rfl, (Option.some.inj there).symm⟩
  · rw [List.getElem?_set_ne same] at there
    exact Or.inr ⟨fun equal => same equal.symm, there⟩

/-- A new engagement comes behind the others. -/
theorem append_cases {other : Nat} {e after : Engagement}
    (there : (c.engagements ++ [e])[other]? = some after) :
    other = c.engagements.length ∧ c.engagements[other]? = none ∧ after = e ∨
      c.engagements[other]? = some after := by
  rcases Nat.lt_or_ge other c.engagements.length with inside | beyond
  · rw [List.getElem?_append_left inside] at there
    exact Or.inr there
  · rw [List.getElem?_append_right beyond, List.getElem?_singleton] at there
    split at there
    · next first =>
      have last : other = c.engagements.length := by omega
      exact Or.inl ⟨last, List.getElem?_eq_none beyond, (Option.some.inj there).symm⟩
    · cases there

/-- Every engagement after a move has come about in one of these ways. -/
theorem fate_of_steps (steps : Steps c move next shown) {index : Nat} {after : Engagement}
    (there : next.engagements[index]? = some after) :
    Fate c index move c.engagements[index]? after (chronicle index shown) := by
  cases steps with
  | requested caller =>
    rcases append_cases there with ⟨-, absent, rfl⟩ | before
    · rw [absent]
      exact .requested caller
    · rw [before]
      exact .spared _ after fun _ => Move.noConfusion
  | started slot free =>
    rcases append_cases there with ⟨rfl, absent, rfl⟩ | before
    · rw [absent]
      exact .started slot free
    · rw [before]
      exact .spared _ after fun _ => Move.noConfusion
  | admitted other flag e slot present unclaimed free =>
    rcases replace_cases present there with ⟨rfl, rfl⟩ | ⟨-, before⟩
    · rw [present]
      exact .admitted flag e slot unclaimed free
    · rw [before]
      exact .spared _ after fun _ => Move.noConfusion
  | refused other flag e present unclaimed busy =>
    rcases replace_cases present there with ⟨rfl, rfl⟩ | ⟨different, before⟩
    · rw [present, show ([(index, .driver, .logged busyLine)] : Log)
          = [(.driver, .logged busyLine)].map fun entry => (index, entry) from rfl,
        chronicle_tagged, if_pos rfl]
      exact .refused flag e unclaimed
    · rw [before, show ([(other, .driver, .logged busyLine)] : Log)
          = [(.driver, .logged busyLine)].map fun entry => (other, entry) from rfl,
        chronicle_tagged, if_neg fun equal => different equal.symm]
      exact .spared _ after fun _ => Move.noConfusion
  | moved other move e progress present made =>
    rcases replace_cases present there with ⟨rfl, rfl⟩ | ⟨different, before⟩
    · rw [present, chronicle_tagged, if_pos rfl]
      exact .moved move e progress made
    · rw [before, chronicle_tagged, if_neg fun equal => different equal.symm]
      exact .spared _ after fun inner same => different (Move.sweep.inj same).1.symm
  | gaveUp other e generation present held halted =>
    rcases replace_cases present there with ⟨rfl, rfl⟩ | ⟨-, before⟩
    · rw [present]
      exact .gaveUp e generation held halted
    · rw [before]
      exact .spared _ after fun _ => Move.noConfusion
  | stopped =>
    simp only [stop] at there
    cases holder : c.slot.holder with
    | none =>
      simp only [holder] at there
      rw [there]
      exact .spared _ after fun _ => Move.noConfusion
    | some current =>
      simp only [holder, List.getElem?_modify] at there
      obtain ⟨e, before, rfl⟩ := Option.map_eq_some_iff.mp there
      rw [before]
      split
      · exact .told _ e trivial
      · exact .spared _ e fun _ => Move.noConfusion
  | flagged caller =>
    simp only [cancelCaller, List.getElem?_map] at there
    obtain ⟨e, before, rfl⟩ := Option.map_eq_some_iff.mp there
    rw [before]
    split
    · next below => exact .told _ e below.1
    · exact .spared _ e fun _ => Move.noConfusion

/-- A sweep that never claimed: its stages were not started, nobody releases a guard in its place,
and it called nothing. -/
structure NeverClaimed (sweep : Sweep) (log : Sweep.Chronicle) : Prop where
  driver : sweep.driver = .unclaimed ∨ sweep.driver = .finished .alreadyRunning ∨
    sweep.driver = .dropped
  work : ∃ flag, sweep.work = .waiting flag
  releaser : sweep.releaser = .absent
  silent : ∀ part event, (part, .called event) ∉ log
  blank : sweep.driver = .unclaimed → log = []

/-- A sweep that never claimed can only be told to wind down or be dropped, and shows nothing. -/
theorem NeverClaimed.step {s : Settings} {sweep : Sweep} {move : Sweep.Move} {log : Sweep.Chronicle}
    {progress : Sweep.Progress} (idle : NeverClaimed sweep log)
    (steps : Sweep.Steps s sweep move progress) :
    NeverClaimed progress.sweep (log ++ Sweep.entries move progress.effects) := by
  obtain ⟨driver, ⟨flag, waiting⟩, absent, silent, blank⟩ := idle
  cases steps with
  | cancelled =>
    rw [show Sweep.entries .cancel [] = [] from rfl, List.append_nil]
    exact ⟨driver, ⟨true, by rw [waiting]; rfl⟩, absent, silent, blank⟩
  | withdrawn opening canSpawn =>
    rw [show Sweep.entries (.drop canSpawn) [] = [] from rfl, List.append_nil]
    exact ⟨Or.inr (Or.inr rfl), ⟨flag, waiting⟩, absent, silent, Driver.noConfusion⟩
  | staged move p after effects running made =>
    rw [waiting] at running
    cases running
  | releaserJoined stage rest now ended => rw [now] at absent; cases absent
  | releaserProceeded now => rw [now] at absent; cases absent
  | releaserEnded now answer => rw [now] at absent; cases absent
  | _ => simp_all

/-- No sweep goes back to before its claim. -/
theorem unclaimed_of_step {s : Settings} {sweep : Sweep} {move : Sweep.Move}
    {progress : Sweep.Progress} (steps : Sweep.Steps s sweep move progress)
    (unclaimed : progress.sweep.driver = .unclaimed) : sweep.driver = .unclaimed := by
  cases steps with
  | staged => exact unclaimed
  | cancelled => exact unclaimed
  | releaserJoined => exact unclaimed
  | releaserProceeded => exact unclaimed
  | releaserEnded => exact unclaimed
  | _ => cases unclaimed

/-- A sweep that has claimed stays claimed. -/
theorem claimed_along {s : Settings} {flag : Bool} {moves : List Sweep.Move} {sweep : Sweep}
    {log : Sweep.Chronicle} (ran : Sweep.run? s (.claimed flag) moves = some (sweep, log)) :
    sweep.driver ≠ .unclaimed := by
  refine Execution.induction_along (motive := fun _ sweep _ => sweep.driver ≠ .unclaimed)
    Driver.noConfusion ?_ ran
  intro moves move mid before next shown _ inductionHypothesis stepped unclaimed
  obtain ⟨progress, made, rfl, -⟩ := Sweep.recorded?_eq_some stepped
  exact inductionHypothesis (unclaimed_of_step (Sweep.steps_of_step? made) unclaimed)

/-- How an engagement with this chronicle has come to its state: its sweep never claimed, or it has
come by an execution from its claim. -/
def HasCome (s : Settings) (e : Engagement) (log : Sweep.Chronicle) : Prop :=
  (NeverClaimed e.sweep log ∧ e.claim = none) ∨
    ∃ flag moves, Sweep.run? s (.claimed flag) moves = some (e.sweep, log)

/-- A move of the sweep carries its execution on. -/
theorem HasCome.moved {s : Settings} {e : Engagement} {log : Sweep.Chronicle} {move : Sweep.Move}
    {progress : Sweep.Progress} (come : HasCome s e log)
    (made : e.sweep.step? s move = some progress) :
    HasCome s { e with sweep := progress.sweep } (log ++ Sweep.entries move progress.effects) := by
  rcases come with ⟨idle, unclaimed⟩ | ⟨flag, moves, ran⟩
  · exact Or.inl ⟨idle.step (Sweep.steps_of_step? made), unclaimed⟩
  · refine Or.inr ⟨flag, moves ++ [move], Execution.run?_concat_iff.mpr ⟨_, _, _, ran, ?_, rfl⟩⟩
    simp only [Sweep.recorded?, made, Option.map_some]

/-- Telling a sweep to wind down is a move of the sweep that shows nothing. -/
theorem HasCome.told {s : Settings} {e : Engagement} {log : Sweep.Chronicle}
    (come : HasCome s e log) : HasCome s (cancelSweep e) log := by
  have made : e.sweep.step? s .cancel = some ⟨(cancelSweep e).sweep, [], none⟩ := rfl
  have on := come.moved made
  rwa [show Sweep.entries .cancel [] = [] from rfl, List.append_nil] at on

/-- A sweep that was asked for and has not claimed yet has an empty chronicle. -/
theorem HasCome.unclaimed {s : Settings} {e : Engagement} {log : Sweep.Chronicle}
    (come : HasCome s e log) (unclaimed : e.sweep.driver = .unclaimed) :
    log = [] ∧ NeverClaimed e.sweep log ∧ e.claim = none := by
  rcases come with ⟨idle, none⟩ | ⟨flag, moves, ran⟩
  · exact ⟨idle.blank unclaimed, idle, none⟩
  · exact absurd unclaimed (claimed_along ran)

/-- In a state with this log every engagement has come to its state in its own way. -/
structure Origins (c : Sweeper) (log : Log) : Prop where
  known : ∀ entry ∈ log, entry.1 < c.engagements.length
  come : ∀ (index : Nat) (e : Engagement), c.engagements[index]? = some e →
    HasCome c.settings e (chronicle index log)

/-- Nobody asked a new sweeper for anything. -/
theorem Origins.fresh (s : Settings) : Origins (.ofSettings s) [] where
  known := List.forall_mem_nil _
  come index e impossible := by simp [ofSettings] at impossible

/-- The sweeps that a move concerns were asked for, and no move takes an engagement back. -/
theorem known_step (steps : Steps c move next shown) :
    c.engagements.length ≤ next.engagements.length ∧
      ∀ entry ∈ shown, entry.1 < next.engagements.length := by
  cases steps with
  | requested caller => exact ⟨by simp, List.forall_mem_nil _⟩
  | started slot free => exact ⟨by simp, List.forall_mem_nil _⟩
  | admitted index flag e slot present unclaimed free =>
    exact ⟨by simp [replace], List.forall_mem_nil _⟩
  | refused index flag e present unclaimed busy =>
    refine ⟨by simp [replace], ?_⟩
    intro entry member
    obtain rfl := List.mem_singleton.mp member
    simpa [replace] using (List.getElem?_eq_some_iff.mp present).1
  | moved index move e progress present made =>
    refine ⟨by simp [replace], ?_⟩
    intro entry member
    obtain ⟨inner, -, rfl⟩ := List.mem_map.mp member
    simpa [replace] using (List.getElem?_eq_some_iff.mp present).1
  | gaveUp index e generation present held halted =>
    exact ⟨by simp [replace], List.forall_mem_nil _⟩
  | stopped =>
    refine ⟨?_, List.forall_mem_nil _⟩
    simp only [stop]
    split
    · exact Nat.le_refl _
    · exact Nat.le_of_eq (List.length_modify ..).symm
  | flagged caller => exact ⟨by simp [cancelCaller], List.forall_mem_nil _⟩

/-- An engagement stays in its place, and what becomes of it is its fate. -/
theorem persists (steps : Steps c move next shown) {index : Nat} {e : Engagement}
    (present : c.engagements[index]? = some e) :
    ∃ after, next.engagements[index]? = some after ∧
      Fate c index move (some e) after (chronicle index shown) := by
  have inside := Nat.lt_of_lt_of_le (List.getElem?_eq_some_iff.mp present).1 (known_step steps).1
  refine ⟨_, List.getElem?_eq_getElem inside, ?_⟩
  rw [← present]
  exact fate_of_steps steps (List.getElem?_eq_getElem inside)

/-- Every move of a sweeper carries on the executions of its sweeps. -/
theorem Origins.step (origins : Origins c log) (steps : Steps c move next shown) :
    Origins next (log ++ shown) := by
  obtain ⟨grown, added⟩ := known_step steps
  refine ⟨?_, ?_⟩
  · intro entry member
    rcases List.mem_append.mp member with earlier | now
    · exact Nat.lt_of_lt_of_le (origins.known entry earlier) grown
    · exact added entry now
  · intro index after there
    rw [chronicle_append, settings_step steps]
    have silent (absent : c.engagements[index]? = none) : chronicle index log = [] := by
      simp only [chronicle, List.map_eq_nil_iff, List.filter_eq_nil_iff, beq_iff_eq]
      intro entry member same
      have inside := origins.known entry member
      rw [same] at inside
      exact Nat.not_lt.mpr (List.getElem?_eq_none_iff.mp absent) inside
    have fate := fate_of_steps steps there
    generalize chronicle index shown = new at fate
    cases before : c.engagements[index]? with
    | none =>
      rw [before] at fate
      rw [silent before]
      cases fate with
      | requested caller =>
        exact Or.inl
          ⟨⟨Or.inl rfl, ⟨false, rfl⟩, rfl, fun _ _ => List.not_mem_nil, fun _ => rfl⟩, rfl⟩
      | started slot free => exact Or.inr ⟨false, [], rfl⟩
    | some e =>
      have come := origins.come index e before
      rw [before] at fate
      cases fate with
      | spared => rwa [List.append_nil]
      | told => simpa only [List.append_nil] using come.told
      | admitted flag old slot unclaimed free =>
        obtain ⟨blank, -, -⟩ := come.unclaimed unclaimed
        rw [blank]
        exact Or.inr ⟨flag, [], rfl⟩
      | refused flag old unclaimed =>
        obtain ⟨blank, idle, none⟩ := come.unclaimed unclaimed
        rw [blank]
        exact Or.inl
          ⟨⟨Or.inr (Or.inl rfl), idle.work, idle.releaser, by simp, Driver.noConfusion⟩, none⟩
      | moved move old progress made => exact come.moved made
      | gaveUp old generation held halted =>
        rw [List.append_nil]
        rcases come with ⟨idle, -⟩ | ran
        · exact Or.inl ⟨idle, rfl⟩
        · exact Or.inr ran

/-- Whatever happens at a sweeper, every sweep has come to its state in its own way. -/
theorem origins_of_run {s : Settings} {moves : List Move}
    (ran : run? (.ofSettings s) moves = some (c, log)) :
    c.settings = s ∧ Origins c log := by
  refine Execution.induction_along (motive := fun _ c log => c.settings = s ∧ Origins c log)
    ⟨rfl, .fresh s⟩ ?_ ran
  rintro moves move mid before after shown - ⟨same, origins⟩ stepped
  have steps := steps_of_recorded? stepped
  exact ⟨(settings_step steps).trans same, origins.step steps⟩

end KeySweeper.Sweeper
