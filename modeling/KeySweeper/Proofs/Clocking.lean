import KeySweeper.Proofs.Presence
import KeySweeper.Proofs.Workplace

/-!
# Calls that read the clock before the entries

A call that has to know which entries of a store are live reads the clock first. It reads the
entries as soon as nobody else is at them, and other clients may use the store in between, and time
may pass. At a workplace a call does both at once. Here a call that waits may read the clock on its
own, and when it is carried out it takes the entries as they are by then, with the clock as it was.
So an inspection may be told a lifetime longer than any that the key had while it was made: the
answer is short of the truth by the time that passes between the readings, if the key is stored
again in between.

A write of the guard has no use for the clock, since its entry has no deadline; and what a deletion
takes out does not depend on the clock, only the number that it answers.

A call that waits goes on waiting until it is answered. For an inspection this is what ties the
clock to the answer: the call that is answered is the one that read the clock.
-/

namespace KeySweeper

/-- The filter asks about a key until it is answered. -/
theorem Pipeline.inspecting_step {s : Settings} {p next : Pipeline} {move : Pipeline.Move}
    {shown : List Effect} {key : String} (steps : Steps s p move next shown)
    (unanswered : ∀ answer, move ≠ .inspected answer) (inspecting : p.filter = .inspecting key) :
    next.filter = .inspecting key := by
  cases steps with
  | inspected answer => exact absurd rfl (unanswered answer)
  | candidateTaken other rest waiting => cases waiting.symm.trans inspecting
  | candidatesEnded waiting => cases waiting.symm.trans inspecting
  | matchLost other offering => cases offering.symm.trans inspecting
  | matchSent other offering => cases offering.symm.trans inspecting
  | _ => exact inspecting

namespace Sweep

variable {s : Settings} {sweep : Sweep} {move : Move} {progress : Progress} {key : String}

/-- An inspection waits exactly if the filter of stages that work asks about the key. -/
theorem pending_filter_iff : sweep.pending? s .filter = some (.inspect key) ↔
    ∃ p, sweep.work = .running p ∧ p.filter = .inspecting key := by
  constructor
  · intro pending
    cases waits_of_pending? pending with
    | inspecting p other running now => exact ⟨p, running, now⟩
  · rintro ⟨p, running, now⟩
    simp only [pending?, filterCall?, running, now]

/-- A sweep that is told to wind down goes on waiting for its inspection. -/
theorem inspecting_cancel {work : Work} (waits : ∃ p, work = .running p ∧
      p.filter = .inspecting key) :
    ∃ p, work.cancel = .running p ∧ p.filter = .inspecting key := by
  obtain ⟨p, rfl, now⟩ := waits
  exact ⟨{ p with control := p.control.cancel }, rfl, now⟩

/-- An inspection that waits goes on waiting until it is answered, whatever else the sweep does. -/
theorem inspecting_step (opening : Opening sweep) (steps : Steps s sweep move progress)
    (unanswered : ∀ answer, move ≠ .stage (.inspected answer))
    (waits : sweep.pending? s .filter = some (.inspect key)) :
    progress.sweep.pending? s .filter = some (.inspect key) := by
  rw [pending_filter_iff] at waits ⊢
  have told := inspecting_cancel waits
  cases steps with
  | staged stageMove p next shown running stepped =>
    obtain ⟨q, same, now⟩ := waits
    obtain rfl := Work.running.inj (running.symm.trans same)
    refine ⟨next, rfl, Pipeline.inspecting_step (Pipeline.steps_of_step? stepped) ?_ now⟩
    rintro answer rfl
    exact unanswered answer rfl
  | acquired marking answer back =>
    obtain ⟨q, same, now⟩ := waits
    obtain ⟨flag, waiting⟩ := opening (by rw [marking]; rfl)
    cases waiting.symm.trans same
  | proceeded => exact told
  | cancelled => exact told
  | passedOn => exact told
  | left => exact told
  | abandoned => exact told
  | _ => exact waits

end Sweep

/-- A sweep that has come to its state in its own way has started no stages before it acquired the
guard. -/
theorem Sweeper.HasCome.opening {s : Settings} {e : Engagement} {log : Sweep.Chronicle}
    (come : HasCome s e log) : e.sweep.Opening := by
  rcases come with ⟨never, -⟩ | ⟨flag, moves, ran⟩
  · exact fun _ => never.work
  · exact Sweep.opening_along ran

/-- An inspection that waits goes on waiting until it is answered, whatever the sweeper does. -/
theorem Sweeper.inspecting_step {c next : Sweeper} {move : Sweeper.Move} {log shown : Sweeper.Log}
    {index : Nat} {e : Engagement} {key : String} (origins : Origins c log)
    (steps : Steps c move next shown)
    (unanswered : ∀ answer, move ≠ .sweep index (.stage (.inspected answer)))
    (present : c.engagements[index]? = some e)
    (waits : e.sweep.pending? c.settings .filter = some (.inspect key)) :
    ∃ after, next.engagements[index]? = some after ∧
      after.sweep.pending? next.settings .filter = some (.inspect key) := by
  have come := origins.come index e present
  obtain ⟨after, there, fate⟩ := persists steps present
  refine ⟨after, there, ?_⟩
  rw [settings_step steps]
  generalize chronicle index shown = entries at fate
  cases fate with
  | spared => exact waits
  | told =>
    have stepped : Sweep.Steps c.settings e.sweep .cancel ⟨(cancelSweep e).sweep, [], none⟩ :=
      .cancelled
    exact Sweep.inspecting_step come.opening stepped nofun waits
  | admitted flag e slot unclaimed =>
    obtain ⟨-, never, -⟩ := come.unclaimed unclaimed
    obtain ⟨flag, waiting⟩ := never.work
    obtain ⟨p, running, -⟩ := Sweep.pending_filter_iff.mp waits
    cases waiting.symm.trans running
  | refused => exact waits
  | gaveUp => exact waits
  | moved inner e progress made =>
    refine Sweep.inspecting_step come.opening (Sweep.steps_of_step? made) ?_ waits
    rintro answer rfl
    exact unanswered answer rfl

namespace Workplace

variable {w next : Workplace} {turn : Turn} {shown log : Sweeper.Log} {index : Nat} {key : String}

end Workplace

/-- A workplace at which a call may read the clock of the store before its entries. -/
structure TimedWorkplace where
  /-- The sweeper, the store and the scans. -/
  place : Workplace
  /-- The clock as the call that a part of a sweep waits for has read it, if it has. -/
  clocks : Nat → Sweep.Part → Option Nat

namespace TimedWorkplace

/-- A workplace at which no call has read the clock. -/
def ofWorkplace (place : Workplace) : TimedWorkplace := ⟨place, fun _ _ => none⟩

/-- A sweeper that never ran, with a store. -/
def opened (s : Settings) (store : Store) : TimedWorkplace := .ofWorkplace (.opened s store)

/-- What happens next. -/
inductive Turn where
  /-- The call that a part of a sweep waits for reads the clock. -/
  | look (index : Nat) (part : Sweep.Part)
  /-- Something happens at the workplace. A call that is carried out reads the entries. -/
  | take (turn : Workplace.Turn)

/-- The readings of the clock with that of the call of one part replaced. -/
def noted (w : TimedWorkplace) (index : Nat) (part : Sweep.Part) (reading : Option Nat) :
    Nat → Sweep.Part → Option Nat :=
  Function.update w.clocks index (Function.update (w.clocks index) part reading)

/-- The workplace as it is for what happens next: a call works by the clock that it has read, if it
has. -/
def view (w : TimedWorkplace) : Workplace.Turn → Workplace
  | .call index part _ =>
    { w.place with store := w.place.store.asOf ((w.clocks index part).getD w.place.store.now) }
  | _ => w.place

/-- The workplace after something has happened. The clock of the store is not touched by a call, and
a call that was carried out has no reading of the clock any more. -/
def after (w : TimedWorkplace) (next : Workplace) : Workplace.Turn → TimedWorkplace
  | .call index part _ =>
    ⟨{ next with store := next.store.asOf w.place.store.now }, w.noted index part none⟩
  | _ => { w with place := next }

/-- The workplace after a turn and the entries of the sweeper's log for it. There is none if it
cannot be that turn. -/
def step? (w : TimedWorkplace) : Turn → Option (TimedWorkplace × Sweeper.Log)
  | .look index part =>
    if (w.place.waiting? index part).isSome ∧ w.clocks index part = none then
      some ({ w with clocks := w.noted index part (some w.place.store.now) }, [])
    else none
  | .take turn => ((w.view turn).step? turn).map fun (next, shown) => (w.after next turn, shown)

/-- The workplace after a sequence of turns, and the log of its sweeper. -/
abbrev run? : TimedWorkplace → List Turn → Option (TimedWorkplace × Sweeper.Log) :=
  Execution.run? step?

variable {s : Settings} {store : Store} {w next : TimedWorkplace} {turn : Turn} {turns : List Turn}
variable {shown log : Sweeper.Log} {index : Nat} {key : String}

@[simp] theorem view_sweeper (w : TimedWorkplace) (turn : Workplace.Turn) :
    (w.view turn).sweeper = w.place.sweeper := by cases turn <;> rfl

@[simp] theorem after_sweeper (w : TimedWorkplace) (next : Workplace) (turn : Workplace.Turn) :
    (w.after next turn).place.sweeper = next.sweeper := by cases turn <;> rfl

/-- The reading of one call, once it was replaced. -/
theorem noted_eq (w : TimedWorkplace) (index other : Nat) (part site : Sweep.Part)
    (reading : Option Nat) :
    w.noted index part reading other site =
      if other = index ∧ site = part then reading else w.clocks other site := by
  unfold noted
  by_cases same : other = index
  · subst same
    by_cases here : site = part <;> simp [here]
  · simp [same]

/-- The ways in which a turn can come about. -/
inductive Turns (w : TimedWorkplace) : Turn → TimedWorkplace → Sweeper.Log → Prop where
  /-- A call that waits reads the clock. -/
  | looked (index : Nat) (part : Sweep.Part) (call : StoreCall)
      (waits : w.place.waiting? index part = some call) (unlooked : w.clocks index part = none) :
      Turns w (.look index part) { w with clocks := w.noted index part (some w.place.store.now) } []
  /-- Something happens at the workplace. -/
  | taken (turn : Workplace.Turn) (next : Workplace) (shown : Sweeper.Log)
      (stepped : (w.view turn).step? turn = some (next, shown)) :
      Turns w (.take turn) (w.after next turn) shown

/-- Every turn comes about in one of these ways. -/
theorem turns_of_step? (stepped : w.step? turn = some (next, shown)) : Turns w turn next shown := by
  cases turn with
  | look index part =>
    obtain ⟨⟨waits, unlooked⟩, made⟩ := Option.ite_none_right_eq_some.mp stepped
    obtain ⟨rfl, rfl⟩ := Prod.mk.inj (Option.some.inj made)
    obtain ⟨call, waits⟩ := Option.isSome_iff_exists.mp waits
    exact .looked index part call waits unlooked
  | take turn =>
    obtain ⟨⟨after, entries⟩, made, result⟩ := Option.map_eq_some_iff.mp stepped
    obtain ⟨rfl, rfl⟩ := Prod.mk.inj result
    exact .taken turn after entries made

/-- A turn of a workplace is one in which the clock and the entries are read at once. -/
theorem step?_of_workplace {place next : Workplace} {turn : Workplace.Turn}
    (stepped : place.step? turn = some (next, shown)) :
    (ofWorkplace place).step? (.take turn) = some (ofWorkplace next, shown) := by
  have same : (ofWorkplace place).view turn = place := by cases turn <;> rfl
  simp only [step?, same, stepped, Option.map_some]
  cases Workplace.turns_of_step? stepped with
  | own => rfl
  | others => rfl
  | called index part mishap e call sweeper entries present pending steps =>
    have clocks : (ofWorkplace place).noted index part none = fun _ _ => none := by
      funext other site
      rw [noted_eq]
      exact ite_self none
    have clock : (ofWorkplace place).place.store.now =
        (place.carried index part mishap call).store.now :=
      (place.now_carried index part mishap call).symm
    simp only [after, clocks]
    rw [clock, Store.asOf_now]
    rfl

/-- Every execution of a workplace is one in which the clock and the entries are always read at
once. -/
theorem run?_of_workplace {place last : Workplace} {taken : List Workplace.Turn}
    (ran : place.run? taken = some (last, log)) :
    (ofWorkplace place).run? (taken.map .take) = some (ofWorkplace last, log) := by
  refine Execution.induction_along (motive := fun taken last log =>
    (ofWorkplace place).run? (taken.map .take) = some (ofWorkplace last, log)) rfl ?_ ran
  intro taken turn mid before next shown _ inductionHypothesis stepped
  rw [List.map_append]
  exact Execution.run?_concat_iff.mpr
    ⟨_, before, shown, inductionHypothesis, step?_of_workplace stepped, rfl⟩

/-- Whatever happens at a workplace, every sweep has come to its state in its own way. -/
theorem origins_along (ran : run? (opened s store) turns = some (w, log)) :
    w.place.sweeper.settings = s ∧ Sweeper.Origins w.place.sweeper log := by
  refine Execution.induction_along (motive := fun _ w log =>
    w.place.sweeper.settings = s ∧ Sweeper.Origins w.place.sweeper log) ⟨rfl, .fresh s⟩ ?_ ran
  rintro moves turn mid before after shown - ⟨same, origins⟩ stepped
  cases turns_of_step? stepped with
  | looked => exact ⟨same, by rwa [List.append_nil]⟩
  | taken turn next shown made =>
    rw [after_sweeper]
    rcases Workplace.fate_of_turn made with ⟨still, rfl, -⟩ | ⟨move, steps, -⟩
    · rw [still, view_sweeper, List.append_nil]
      exact ⟨same, origins⟩
    · rw [view_sweeper] at steps
      exact ⟨(Sweeper.settings_step steps).trans same, origins.step steps⟩

/-- The reading of the clock by an inspection that waits: the inspection was there in the state
`begun`, after the turns `first`, read the clock by the next turn, and was not answered in the turns
`middle` behind that. -/
structure Looked (s : Settings) (store : Store) (turns : List Turn) (index : Nat) (key : String)
    (w : TimedWorkplace) (first middle : List Turn) (begun : TimedWorkplace) : Prop where
  split : turns = first ++ .look index .filter :: middle
  reached : ∃ early, run? (opened s store) first = some (begun, early)
  unanswered : ∀ mishap, .take (.call index .filter mishap) ∉ middle
  waited : begun.place.waiting? index .filter = some (.inspect key)
  waits : w.place.waiting? index .filter = some (.inspect key)

/-- More turns do not take the reading back, as long as the inspection is not answered. -/
theorem Looked.later {first middle : List Turn} {begun : TimedWorkplace}
    (looked : Looked s store turns index key w first middle begun)
    (unanswered : ∀ mishap, turn ≠ .take (.call index .filter mishap))
    (waits : next.place.waiting? index .filter = some (.inspect key)) :
    Looked s store (turns ++ [turn]) index key next first (middle ++ [turn]) begun where
  split := by rw [looked.split, List.append_assoc, List.cons_append]
  reached := looked.reached
  unanswered mishap member := by
    rcases List.mem_append.mp member with before | now
    · exact looked.unanswered mishap before
    · exact unanswered mishap (List.mem_singleton.mp now).symm
  waited := looked.waited
  waits := waits

end TimedWorkplace

end KeySweeper
