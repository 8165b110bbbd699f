import KeySweeper.Proofs.Passage
import KeySweeper.Proofs.Tally
import KeySweeper.Proofs.Workplace

/-!
# Undisturbed sweeps

A sweep that has claimed its sweeper and is left alone with a store that answers every call. It goes
through its opening, works, releases the guard and reports, in this order and whatever order its
stages and its driver take turns in. The invariant names the place of the sweep on this way, with
the store that belongs to it; while the stages work that is their tally. Every turn brings the sweep
closer to its report, and as long as it has not reported there is a turn that it can take.

The sweep may be told to wind down, at any moment. That takes it off its way nowhere; it only leaves
keys behind. The invariant remembers whether it was told.
-/

namespace KeySweeper

/-- The turns that a driver has before it, those of its stages aside. -/
def Driver.ahead : Driver → Nat
  | .claimed => 12
  | .checking => 11
  | .marking => 10
  | .joining rest => rest.length + 2
  | .releasing => 1
  | _ => 0

/-- The steps that the stages of a sweep have before them with the keys at hand. -/
def Work.ahead : Work → Nat
  | .waiting _ => 0
  | .running p => p.effort

/-- Being told to wind down takes no steps away. -/
theorem Work.ahead_cancel (work : Work) : work.cancel.ahead = work.ahead := by
  cases work with
  | waiting flag => rfl
  | running p => rfl

namespace Sweep

/-- A sweep, the store that it sweeps, and its scan. -/
structure Scene where
  /-- The sweep. -/
  sweep : Sweep
  /-- The store. -/
  store : Store
  /-- The scan. -/
  scan : Scan

/-- What an undisturbed sweep does next. -/
inductive Scene.Next (s : Settings) (x : Scene) : Scene → Prop where
  /-- The sweep asks for the guard. -/
  | begun (claimed : x.sweep.driver = .claimed) :
      Next s x { x with sweep := { x.sweep with driver := .checking } }
  /-- The guard is checked. -/
  | checked (checking : x.sweep.driver = .checking) :
      Next s x
        { x with sweep := (afterCheck s x.sweep (.value (x.store.contains s.guardKey))).sweep }
  /-- The guard is written, and the stages start. -/
  | marked (marking : x.sweep.driver = .marking) :
      Next s x { x with
        sweep := (afterMark s x.sweep (.value ())).sweep
        store := x.store.holding s.guardKey Guard.mark }
  /-- The stages do something. -/
  | staged (p next : Pipeline) (store : Store) (scan : Scan) (called : List StoreEvent)
      (running : x.sweep.work = .running p)
      (served : p.Served s x.store x.scan next store scan called) :
      Next s x ⟨{ x.sweep with work := .running next }, store, scan⟩
  /-- The driver has waited for a stage. -/
  | joined (stage : StageName) (rest : List StageName)
      (joining : x.sweep.driver = .joining (stage :: rest))
      (ended : x.sweep.work.hasEnded stage = true) :
      Next s x { x with sweep := { x.sweep with driver := .joining rest } }
  /-- The driver has waited for every stage and goes on to release the guard. -/
  | proceeded (joining : x.sweep.driver = .joining []) :
      Next s x
        { x with sweep := { x.sweep with driver := .releasing, work := x.sweep.work.cancel } }
  /-- The guard is deleted, and the sweep reports. -/
  | released (removed : Nat) (releasing : x.sweep.driver = .releasing) :
      Next s x { x with
        sweep := (afterRelease s x.sweep (.value removed) .zero .epoch).sweep
        store := x.store.without [s.guardKey] }

/-- The keys that a sweep over the store `base` has taken out: the first of those that it was to
delete, and all of them if it was not told to wind down. -/
structure Taken (s : Settings) (base : Store) (told : Bool) (gone : List String) : Prop where
  first : gone <+: (base.holding s.guardKey Guard.mark).doomed s
  all : told = false → gone = (base.holding s.guardKey Guard.mark).doomed s

/-- The place of an undisturbed sweep that started over the store `base`, and that was told to wind
down or not. -/
inductive Calm (s : Settings) (base : Store) (told : Bool) (x : Scene) : Prop where
  /-- The stages have not started. -/
  | opening
      (driver : x.sweep.driver = .claimed ∨ x.sweep.driver = .checking ∨ x.sweep.driver = .marking)
      (work : x.sweep.work = .waiting told) (store : x.store = base)
      (scan : x.scan = .fresh s.pattern)
  /-- The driver waits for stages. Those that it does not wait for any more are over. -/
  | working (rest : List StageName) (p : Pipeline) (h : List StoreEvent) (lost : List String)
      (driver : x.sweep.driver = .joining rest) (work : x.sweep.work = .running p)
      (halted : ∀ stage, stage ∉ rest → p.isLive stage = false) (flag : p.control.cancelled = told)
      (tally : p.Tally s (base.holding s.guardKey Guard.mark) x.store x.scan h lost)
  /-- The stages are over, and the guard is being released. -/
  | releasing (p : Pipeline) (gone : List String) (driver : x.sweep.driver = .releasing)
      (work : x.sweep.work = .running p) (halted : ∀ stage, p.isLive stage = false)
      (taken : Taken s base told gone) (counted : p.control.deleted = UInt64.ofNat gone.length)
      (store : x.store = (base.holding s.guardKey Guard.mark).without gone)
  /-- The sweep has reported. -/
  | reported (p : Pipeline) (report : SweepReport) (gone : List String)
      (driver : x.sweep.driver = .finished (.completed report))
      (work : x.sweep.work = .running p) (halted : ∀ stage, p.isLive stage = false)
      (taken : Taken s base told gone) (counted : report.deleted = UInt64.ofNat gone.length)
      (store : x.store = ((base.holding s.guardKey Guard.mark).without gone).without [s.guardKey])

/-- A bound on the turns that a sweep has before it, if its scan yields what `marked` lists. -/
def Scene.ahead (marked : Store) (x : Scene) : Nat :=
  x.sweep.driver.ahead + x.sweep.work.ahead + 7 * (x.scan.upcoming marked).length

variable {s : Settings} {base : Store} {told : Bool} {x y : Scene}

/-- A sweep whose stages are over has only its driver to go on. -/
theorem not_served {p q next : Pipeline} {store : Store} {scan : Scan} {called : List StoreEvent}
    (work : x.sweep.work = .running p) (halted : ∀ stage, p.isLive stage = false)
    (running : x.sweep.work = .running q)
    (served : q.Served s x.store x.scan next store scan called) :
    False := by
  obtain rfl := Work.running.inj (work.symm.trans running)
  obtain ⟨stage, live⟩ := served.live
  rw [halted stage] at live
  cases live

/-- The opening leads to the start of the stages. -/
theorem Calm.opening_step
    (driver : x.sweep.driver = .claimed ∨ x.sweep.driver = .checking ∨ x.sweep.driver = .marking)
    (work : x.sweep.work = .waiting told) (store : x.store = base)
    (scan : x.scan = .fresh s.pattern) (absent : base.contains s.guardKey = false)
    (next : Scene.Next s x y) :
    Calm s base told y ∧ y.ahead (base.holding s.guardKey Guard.mark) <
      x.ahead (base.holding s.guardKey Guard.mark) := by
  cases next with
  | begun claimed =>
    refine ⟨.opening (Or.inr (Or.inl rfl)) work store scan, ?_⟩
    simp only [Scene.ahead, claimed, Driver.ahead]
    omega
  | checked checking =>
    have free : x.store.contains s.guardKey = false := by rw [store]; exact absent
    rw [free]
    refine ⟨.opening (Or.inr (Or.inr rfl)) work store scan, ?_⟩
    simp only [Scene.ahead, checking, Driver.ahead, afterCheck, Guard.check]
    omega
  | marked marking =>
    refine ⟨.working StageName.all (.fresh (.fresh told)) [] [] rfl ?_ ?_ rfl ?_, ?_⟩
    · simp only [afterMark, work, Work.isCancelled]
    · intro stage missing
      cases stage <;> simp [StageName.all] at missing
    · rw [scan, store]
      exact .fresh s _ told
    · simp only [Scene.ahead, marking, work, Driver.ahead, Work.ahead, afterMark,
        Pipeline.effort_fresh, StageName.all, List.length_cons, List.length_nil]
      omega
  | staged p next store scan called running served => rw [work] at running; cases running
  | joined stage rest joining ended => simp [joining] at driver
  | proceeded joining => simp [joining] at driver
  | released removed releasing => simp [releasing] at driver

/-- The stages work until they are over, and the driver waits for one after the other. -/
theorem Calm.working_step {rest : List StageName} {p : Pipeline} {h : List StoreEvent}
    {lost : List String} (driver : x.sweep.driver = .joining rest)
    (work : x.sweep.work = .running p) (halted : ∀ stage, stage ∉ rest → p.isLive stage = false)
    (flag : p.control.cancelled = told)
    (tally : p.Tally s (base.holding s.guardKey Guard.mark) x.store x.scan h lost)
    (next : Scene.Next s x y) :
    Calm s base told y ∧ y.ahead (base.holding s.guardKey Guard.mark) <
      x.ahead (base.holding s.guardKey Guard.mark) := by
  cases next with
  | staged q next store scan called running served =>
    obtain rfl := Work.running.inj (work.symm.trans running)
    obtain ⟨move, shown, -, -, stepped⟩ := served.steps
    obtain ⟨after, later⟩ := tally.step served
    refine ⟨.working rest next (h ++ called) after driver rfl ?_ (served.flag.trans flag) later, ?_⟩
    · exact fun stage missing => Pipeline.over_of_step stepped (halted stage missing)
    · have spent := tally.effort_step served
      simp only [Scene.ahead, work, Work.ahead]
      omega
  | joined stage others joining ended =>
    obtain rfl := Driver.joining.inj (driver.symm.trans joining)
    have gone : p.isLive stage = false := by simpa [work, Work.hasEnded] using ended
    refine ⟨.working others p h lost rfl work ?_ flag tally, ?_⟩
    · intro other missing
      by_cases same : other = stage
      · rw [same]
        exact gone
      · exact halted other fun member => (List.mem_cons.mp member).elim same missing
    · simp only [Scene.ahead, joining, Driver.ahead, List.length_cons]
      omega
  | proceeded joining =>
    obtain rfl := Driver.joining.inj (driver.symm.trans joining)
    have quiet (stage : StageName) : p.isLive stage = false := halted stage List.not_mem_nil
    -- The driver raises the flag itself now. Until here it tells whether anybody else did.
    obtain ⟨first, all⟩ := tally.handed_over quiet
    have taken : Taken s base told (Ledger.handedOver h) :=
      ⟨first, fun untold => all (flag.trans untold)⟩
    refine ⟨.releasing { p with control := p.control.cancel } (Ledger.handedOver h) rfl
      (told_of_running work) ?_ taken tally.counted tally.stored, ?_⟩
    · intro stage
      have before := quiet stage
      cases stage <;> exact before
    · simp only [Scene.ahead, joining, Driver.ahead, Work.ahead_cancel, List.length_nil]
      omega
  | begun claimed => rw [driver] at claimed; cases claimed
  | checked checking => rw [driver] at checking; cases checking
  | marked marking => rw [driver] at marking; cases marking
  | released removed releasing => rw [driver] at releasing; cases releasing

/-- Every turn takes an undisturbed sweep to its next place, and there are fewer turns left. -/
theorem Calm.step (calm : Calm s base told x) (absent : base.contains s.guardKey = false)
    (next : Scene.Next s x y) :
    Calm s base told y ∧ y.ahead (base.holding s.guardKey Guard.mark) <
      x.ahead (base.holding s.guardKey Guard.mark) := by
  cases calm with
  | opening driver work store scan => exact Calm.opening_step driver work store scan absent next
  | working rest p h lost driver work halted flag tally =>
    exact Calm.working_step driver work halted flag tally next
  | releasing p gone driver work halted taken counted store =>
    cases next with
    | released removed releasing =>
      refine
        ⟨.reported p ⟨x.sweep.work.deleted, .zero, .epoch⟩ gone rfl work halted taken ?_ ?_, ?_⟩
      · rw [work]
        exact counted
      · rw [store]
      · simp only [Scene.ahead, releasing, Driver.ahead, afterRelease]
        omega
    | staged q next store scan called running served =>
      exact (not_served work halted running served).elim
    | begun claimed => rw [driver] at claimed; cases claimed
    | checked checking => rw [driver] at checking; cases checking
    | marked marking => rw [driver] at marking; cases marking
    | joined stage rest joining ended => rw [driver] at joining; cases joining
    | proceeded joining => rw [driver] at joining; cases joining
  | reported p report gone driver work halted taken counted store =>
    cases next with
    | staged q next store scan called running served =>
      exact (not_served work halted running served).elim
    | begun claimed => rw [driver] at claimed; cases claimed
    | checked checking => rw [driver] at checking; cases checking
    | marked marking => rw [driver] at marking; cases marking
    | joined stage rest joining ended => rw [driver] at joining; cases joining
    | proceeded joining => rw [driver] at joining; cases joining
    | released removed releasing => rw [driver] at releasing; cases releasing

/-- A sweep that is told to wind down is where it was, and has as many turns left. -/
theorem Calm.cancelled (calm : Calm s base told x) :
    Calm s base true { x with sweep := { x.sweep with work := x.sweep.work.cancel } } := by
  have quiet {p : Pipeline} {stage : StageName} (halted : p.isLive stage = false) :
      ({ p with control := p.control.cancel } : Pipeline).isLive stage = false := by
    cases stage <;> exact halted
  cases calm with
  | opening driver work store scan => exact .opening driver (by rw [work]; rfl) store scan
  | working rest p h lost driver work halted flag tally =>
    obtain ⟨after, later⟩ := tally.cancelled
    exact .working rest _ h after driver (told_of_running work) (fun stage missing =>
      quiet (halted stage missing))
      rfl later
  | releasing p gone driver work halted taken counted store =>
    exact .releasing _ gone driver (told_of_running work) (fun stage => quiet (halted stage))
      ⟨taken.first, Bool.noConfusion⟩ counted store
  | reported p report gone driver work halted taken counted store =>
    exact .reported _ report gone driver (told_of_running work) (fun stage => quiet (halted stage))
      ⟨taken.first, Bool.noConfusion⟩ counted store

/-- A sweep can go on: a part of it can move without the store, or waits for a call. -/
inductive CanGoOn (s : Settings) (sweep : Sweep) : Prop where
  /-- A part can move. -/
  | move (part : Part) (move : Move) (inside : move ∈ part.internalMoves)
      (possible : (sweep.step? s move).isSome = true)
  /-- A part waits for a call. -/
  | call (part : Part) (pending : (sweep.pending? s part).isSome = true)

/-- Of the moves of the stages, a part makes on its own those of its stage that need no store. -/
theorem stage_mem_internalMoves {part : Part} {move : Pipeline.Move} :
    (.stage move) ∈ part.internalMoves ↔ move.isInternal = true ∧ part = move.part := by
  cases move <;> cases part <;> simp [Part.internalMoves, Pipeline.Move.isInternal,
    Pipeline.Move.part]

/-- Where the stages can go on, their sweep can. -/
theorem CanGoOn.staged {sweep : Sweep} {p : Pipeline} (work : sweep.work = .running p)
    (able : p.CanGoOn s) : sweep.CanGoOn s := by
  cases able with
  | move move inside possible =>
    refine .move move.part (.stage move) (stage_mem_internalMoves.mpr ⟨inside, rfl⟩) ?_
    simpa only [step?, work, Option.isSome_map] using possible
  | scan asking =>
    refine .call .scanner ?_
    simp only [pending?, scannerCall?, work, asking, Option.isSome_some]
  | inspect key inspecting =>
    refine .call .filter ?_
    simp only [pending?, filterCall?, work, inspecting, Option.isSome_some]
  | delete batch waiting deleting =>
    refine .call .deleter ?_
    simp only [pending?, deleterCall?, work, deleting, Option.isSome_some]

/-- A driver that waits for a call can go on. -/
theorem CanGoOn.driver {sweep : Sweep} {call : StoreCall}
    (pending : driverCall? s sweep.driver = some call) :
    sweep.CanGoOn s := .call .driver (Option.isSome_of_eq_some pending)

/-- An undisturbed sweep can go on until it has reported. -/
theorem Calm.goes_on (calm : Calm s base told x) :
    x.sweep.CanGoOn s ∨ ∃ report, x.sweep.driver = .finished (.completed report) := by
  cases calm with
  | opening driver work store scan =>
    left
    rcases driver with claimed | checking | marking
    · refine .move .driver .begin List.mem_cons_self ?_
      simp only [step?, claimed, Option.isSome_some]
    · exact .driver (by rw [checking]; rfl)
    · exact .driver (by rw [marking]; rfl)
  | working rest p h lost driver work halted flag tally =>
    left
    cases rest with
    | nil =>
      refine .move .driver .proceed (by simp [Part.internalMoves]) ?_
      simp only [step?, driver, Option.isSome_some]
    | cons stage rest =>
      cases live : p.isLive stage with
      | true => exact .staged work (Pipeline.goes_on tally.steady.queues live)
      | false =>
        have ended : x.sweep.work.hasEnded stage = true := by simp [work, Work.hasEnded, live]
        refine .move .driver .join (by simp [Part.internalMoves]) ?_
        simp only [step?, driver, ended, if_true, Option.isSome_some]
  | releasing p gone driver work halted taken counted store =>
    exact Or.inl (.driver (by rw [driver]; rfl))
  | reported p report gone driver work halted taken counted store => exact Or.inr ⟨report, driver⟩

end Sweep

end KeySweeper
