import KeySweeper.Proofs.Occupancy
import KeySweeper.Proofs.Order

/-!
# What the admin interface answers

A sweeper whose admin interface is open: sweeps are asked for, claim, move, are dropped and give up
their claims in any order, and in between operators send requests. What an operator is told depends
on the slot alone, and the slot on the whole history. The answers are described by the history: the
phase at the moment of the request decides whether a sweep can be started, and the sweeps that have
completed by then, in order, decide which report is shown.

A sweep completes in one step, and that step leaves its report in the slot. No other step touches
the report there. So the report shown is that of the sweep that completed last, and a sweep that was
refused, found the guard held, could not find out, crashed or was dropped does not show in it.
-/

namespace KeySweeper

namespace Sweep

variable {s : Settings} {sweep : Sweep} {move : Move} {progress : Progress}

/-- A sweep that completes has just released the guard, and announces its report. -/
theorem completed_of_step (steps : Steps s sweep move progress) {report : SweepReport}
    (completed : progress.sweep.driver = .finished (.completed report)) :
    sweep.driver = .finished (.completed report) ∧ progress.slot = none ∨
      sweep.driver = .releasing ∧ progress.slot = some (.complete report) := by
  cases steps with
  | completed releasing answer back elapsed finishedAt =>
    obtain rfl := SweepOutcome.completed.inj (Driver.finished.inj completed)
    exact Or.inr ⟨releasing, rfl⟩
  | staged => exact Or.inl ⟨completed, rfl⟩
  | cancelled => exact Or.inl ⟨completed, rfl⟩
  | releaserJoined => exact Or.inl ⟨completed, rfl⟩
  | releaserProceeded => exact Or.inl ⟨completed, rfl⟩
  | releaserEnded => exact Or.inl ⟨completed, rfl⟩
  | _ => cases completed

/-- A sweep announces its report only when it completes. -/
theorem complete_of_step (steps : Steps s sweep move progress) {report : SweepReport}
    (announced : progress.slot = some (.complete report)) :
    sweep.driver = .releasing ∧ progress.sweep.driver = .finished (.completed report) := by
  cases steps with
  | completed releasing answer back elapsed finishedAt =>
    obtain rfl := SlotChange.complete.inj (Option.some.inj announced)
    exact ⟨releasing, rfl⟩
  | _ => cases announced

end Sweep

namespace Sweeper

/-- What happens at a sweeper whose admin interface is open. -/
inductive Happening where
  /-- A move of the sweeper: a sweep is asked for, claims, moves, is dropped, gives up its claim, or
  is told. -/
  | moved (move : Move)
  /-- A request to the admin interface, at this time. -/
  | asked (now : Timestamp) (request : Admin.Request)

/-- The sweep that has completed in a move, with its report. -/
def Move.completes (c next : Sweeper) : Move → List (Nat × SweepReport)
  | .sweep index _ =>
    match c.outcome? index, next.outcome? index with
    | none, some (.completed report) => [(index, report)]
    | _, _ => []
  | _ => []

/-- The sweeper after something has happened, with the sweep that has completed in it. -/
def happen? (c : Sweeper) : Happening → Option (Sweeper × List (Nat × SweepReport))
  | .moved move => (c.recorded? move).map fun (next, _) => (next, move.completes c next)
  | .asked now request => some ((Admin.handle c now request).sweeper, [])

/-- The sweeper after a history, with the sweeps that have completed in it, in order, each with its
report. -/
abbrev history? : Sweeper → List Happening → Option (Sweeper × List (Nat × SweepReport)) :=
  Execution.run? happen?

variable {c next : Sweeper} {move : Move} {shown log : Log}

/-- The sweep that completes in a move has not come to an outcome before, and has completed after
it. -/
theorem mem_completes {index : Nat} {report : SweepReport}
    (member : (index, report) ∈ move.completes c next) :
    (∃ inner, move = .sweep index inner) ∧ c.outcome? index = none ∧
      next.outcome? index = some (.completed report) := by
  cases move with
  | sweep other inner =>
    simp only [Move.completes] at member
    split at member
    · next before after =>
      obtain ⟨rfl, rfl⟩ := Prod.mk.inj (List.mem_singleton.mp member)
      exact ⟨⟨inner, rfl⟩, before, after⟩
    · cases member
  | _ => cases member

/-- The completed sweeps after a move are those before it and the one that completes in it. -/
theorem completed_step (steps : Steps c move next shown) (index : Nat) (report : SweepReport) :
    next.outcome? index = some (.completed report) ↔
      c.outcome? index = some (.completed report) ∨ (index, report) ∈ move.completes c next := by
  constructor
  · intro now
    obtain ⟨after, there, completed⟩ := outcome?_eq_some.mp now
    have fate := fate_of_steps steps there
    generalize chronicle index shown = added at fate
    generalize before : c.engagements[index]? = old at fate
    have kept {e : Engagement} (present : c.engagements[index]? = some e)
        (driver : e.sweep.driver = .finished (.completed report)) :
        c.outcome? index = some (.completed report) := outcome?_eq_some.mpr ⟨e, present, driver⟩
    -- Of all that can become of a sweep only a move of its own brings it to a report.
    cases fate with
    | spared => exact Or.inl (kept before completed)
    | told => exact Or.inl (kept before completed)
    | gaveUp => exact Or.inl (kept before completed)
    | moved inner e progress made =>
      obtain ⟨was, -⟩ | ⟨releasing, -⟩ :=
        Sweep.completed_of_step (Sweep.steps_of_step? made) completed
      · exact Or.inl (kept before was)
      · have open_ : c.outcome? index = none := by simp only [outcome?, before, releasing]
        simp only [Move.completes, open_, now]
        exact Or.inr (List.mem_singleton.mpr rfl)
    | _ => cases completed
  · rintro (was | member)
    · obtain ⟨e, present, completed⟩ := outcome?_eq_some.mp was
      obtain ⟨after, there, fate⟩ := persists steps present
      refine outcome?_eq_some.mpr ⟨after, there, ?_⟩
      generalize chronicle index shown = added at fate
      cases fate with
      | spared => exact completed
      | told => exact completed
      | gaveUp => exact completed
      | moved inner _ progress made =>
        have halted : isOver e.sweep.driver = true := by rw [completed]; rfl
        exact (Sweep.driver_of_over (Sweep.steps_of_step? made) halted).trans completed
      | admitted flag _ slot unclaimed free =>
        rw [completed] at unclaimed
        cases unclaimed
      | refused flag _ unclaimed =>
        rw [completed] at unclaimed
        cases unclaimed
    · exact (mem_completes member).2.2

/-- In a move of a sweep that sweep completes if it announces its report, and none otherwise. -/
theorem completes_moved {index : Nat} {inner : Sweep.Move} {e : Engagement}
    {progress : Sweep.Progress} (present : c.engagements[index]? = some e)
    (made : e.sweep.step? c.settings inner = some progress)
    (there : next.engagements[index]? = some { e with sweep := progress.sweep }) :
    (Move.sweep index inner).completes c next =
      match progress.slot with
      | some (.complete report) => [(index, report)]
      | _ => [] := by
  have stepped := Sweep.steps_of_step? made
  split
  · next report announced =>
    obtain ⟨releasing, completed⟩ := Sweep.complete_of_step stepped announced
    simp only [Move.completes, outcome?, present, there, releasing, completed]
  · next silent =>
    refine List.eq_nil_iff_forall_not_mem.mpr ?_
    rintro ⟨other, report⟩ member
    obtain ⟨⟨again, same⟩, before, after⟩ := mem_completes member
    obtain ⟨rfl, -⟩ := Move.sweep.inj same
    obtain ⟨f, here, completed⟩ := outcome?_eq_some.mp after
    obtain rfl := Option.some.inj (there.symm.trans here)
    obtain ⟨was, -⟩ | ⟨-, announced⟩ := Sweep.completed_of_step stepped completed
    · rw [outcome?_eq_some.mpr ⟨e, present, was⟩] at before
      cases before
    · exact silent report announced

/-- A sweeper can be claimed if it never ran or its last sweep is over. -/
theorem claim?_eq (slot : Slot) (index : Nat) : slot.claim? index =
    if slot.phase = .idle ∨ slot.phase = .stopped then
      some ⟨.acquiring, slot.generation + 1, some index, slot.lastReport⟩
    else none := by
  obtain ⟨phase, generation, holder, lastReport⟩ := slot
  cases phase <;> rfl

/-- A claim does not touch the last report. -/
theorem lastReport_of_claim {slot claimed : Slot} {index : Nat}
    (free : slot.claim? index = some claimed) :
    claimed.lastReport = slot.lastReport := by
  rw [claim?_eq] at free
  split at free
  · obtain rfl := Option.some.inj free
    rfl
  · cases free

/-- A move leaves the last report as it is, unless a sweep completes in it; then it is the report of
that sweep. -/
theorem lastReport_step (steps : Steps c move next shown) :
    move.completes c next = [] ∧ next.slot.lastReport = c.slot.lastReport ∨
      ∃ index report, move.completes c next = [(index, report)] ∧
        next.slot.lastReport = some report := by
  cases steps with
  | requested caller => exact Or.inl ⟨rfl, rfl⟩
  | started slot free => exact Or.inl ⟨rfl, lastReport_of_claim free⟩
  | admitted index flag e slot present unclaimed free =>
    exact Or.inl ⟨rfl, lastReport_of_claim free⟩
  | refused index flag e present unclaimed busy => exact Or.inl ⟨rfl, rfl⟩
  | moved index inner e progress present made =>
    have there := List.getElem?_set_self (a := { e with sweep := progress.sweep })
      (List.getElem?_eq_some_iff.mp present).1
    rw [completes_moved present made there]
    cases announced : progress.slot with
    | none => exact Or.inl ⟨rfl, rfl⟩
    | some change =>
      cases change with
      | complete report => exact Or.inr ⟨index, report, rfl, rfl⟩
      | enter => exact Or.inl ⟨rfl, rfl⟩
      | drain => exact Or.inl ⟨rfl, rfl⟩
      | rest => exact Or.inl ⟨rfl, rfl⟩
  | gaveUp index e generation present held halted =>
    refine Or.inl ⟨rfl, ?_⟩
    simp only [Slot.giveUp]
    split <;> rfl
  | stopped =>
    refine Or.inl ⟨rfl, ?_⟩
    simp only [stop, Slot.stop]
    split <;> rfl
  | flagged caller => exact Or.inl ⟨rfl, rfl⟩

/-- The sweeps that have completed by now, in order, and the report that is kept. -/
structure Reported (c : Sweeper) (completed : List (Nat × SweepReport)) : Prop where
  outcomes : ∀ index report, (index, report) ∈ completed ↔
    c.outcome? index = some (.completed report)
  last : c.slot.lastReport = completed.getLast?.map (·.2)

/-- A new sweeper keeps no report. -/
theorem Reported.fresh (s : Settings) : Reported (.ofSettings s) [] where
  outcomes index report := by simp [outcome?, ofSettings]
  last := rfl

/-- Every move keeps the report of the sweep that completed last. -/
theorem Reported.step {completed : List (Nat × SweepReport)} (reported : Reported c completed)
    (steps : Steps c move next shown) : Reported next (completed ++ move.completes c next) where
  outcomes index report := by
    rw [List.mem_append, reported.outcomes, completed_step steps]
  last := by
    obtain ⟨none, same⟩ | ⟨index, report, one, new⟩ := lastReport_step steps
    · rw [none, List.append_nil, same, reported.last]
    · rw [one, new, List.getLast?_append, List.getLast?_singleton]
      rfl

/-- A request is a move of the sweeper in which no sweep completes, or it leaves the sweeper as it
is. -/
theorem asked_cases (c : Sweeper) (now : Timestamp) (request : Admin.Request) :
    (Admin.handle c now request).sweeper = c ∨
      ∃ move, move.completes c (Admin.handle c now request).sweeper = [] ∧
        Steps c move (Admin.handle c now request).sweeper [] := by
  have answered := Admin.handled c now request
  generalize Admin.handle c now request = reply at answered
  cases answered with
  | aside response => exact Or.inl rfl
  | stopped response asked => exact Or.inr ⟨.stop, rfl, .stopped⟩
  | started response next free =>
    refine Or.inr ⟨.start, rfl, steps_of_recorded? ?_⟩
    simp only [recorded?, free, Option.map_some]
    rfl

/-- Whatever happens, the reports are kept in order, and the slot and the sweeps belong together. -/
theorem reported_along {s : Settings} {history : List Happening}
    {completed : List (Nat × SweepReport)}
    (ran : history? (.ofSettings s) history = some (c, completed)) :
    Reported c completed ∧ Occupancy c := by
  refine Execution.induction_along
    (motive := fun _ c completed => Reported c completed ∧ Occupancy c)
    ⟨.fresh s, .fresh s⟩ ?_ ran
  rintro happenings happening mid before after added - ⟨reported, occupancy⟩ happened
  cases happening with
  | moved move =>
    obtain ⟨⟨next, shown⟩, made, same⟩ := Option.map_eq_some_iff.mp happened
    obtain ⟨rfl, rfl⟩ := Prod.mk.inj same
    have steps := steps_of_recorded? made
    exact ⟨reported.step steps, occupancy.step steps⟩
  | asked now request =>
    obtain ⟨rfl, rfl⟩ := Prod.mk.inj (Option.some.inj happened)
    obtain same | ⟨move, none, steps⟩ := asked_cases mid now request
    · rw [same, List.append_nil]
      exact ⟨reported, occupancy⟩
    · have on := reported.step steps
      rw [none] at on
      exact ⟨on, occupancy.step steps⟩

/-- The answer to a request to start a sweep. It is accepted if no sweep is under way. Then the
sweeper is claimed by a sweep that nobody had asked for before, in a generation that no sweep has
claimed, and not told to wind down. A request that is refused leaves the sweeper as it is. -/
structure StartAnswered (c : Sweeper) (reply : Admin.Reply) : Prop where
  status : reply.response.status =
    if c.slot.phase = .idle ∨ c.slot.phase = .stopped then 202 else 409
  claimed : reply.response.status = 202 →
    reply.sweeper.slot =
        ⟨.acquiring, c.slot.generation + 1, some c.engagements.length, c.slot.lastReport⟩ ∧
      reply.sweeper.engagements =
          c.engagements ++ [⟨.claimed false, none, some (c.slot.generation + 1)⟩] ∧
        reply.sweeper.holderCancelled = false ∧ reply.started = some c.engagements.length
  unseen : ∀ (index : Nat) (e : Engagement), c.engagements[index]? = some e →
    e.claim ≠ some (c.slot.generation + 1)
  refused : reply.response.status = 409 → reply.sweeper = c ∧ reply.started = none

/-- The answer to a request to stop the current sweep. It is always accepted. At most the flag of
the sweep that made the latest claim changes, and the phase from running to draining. -/
structure StopAnswered (c : Sweeper) (reply : Admin.Reply) : Prop where
  status : reply.response.status = 202
  started : reply.started = none
  settings : reply.sweeper.settings = c.settings
  slot : reply.sweeper.slot =
    { c.slot with phase := if c.slot.phase = .running then .draining else c.slot.phase }
  engagements : ∀ index : Nat, reply.sweeper.engagements[index]? =
    c.engagements[index]?.map fun e => if c.slot.holder = some index then cancelSweep e else e

/-- The answer to a request for the last report, when these sweeps have completed so far. -/
structure ReportAnswered (c : Sweeper) (completed : List (Nat × SweepReport))
    (reply : Admin.Reply) : Prop where
  missing : reply.response.status = 404 ↔ completed = []
  shown : ∀ index report, completed.getLast? = some (index, report) →
    c.outcome? index = some (.completed report) ∧
    reply.response = Admin.respond 200 (Admin.reportDocument report)
  aside : reply.sweeper = c ∧ reply.started = none

/-- A request to start a sweep is accepted if no sweep is under way. -/
theorem startAnswered (occupancy : Occupancy c) (now : Timestamp) {target : String}
    (path : Admin.pathOf target = "/cleaner/run") :
    StartAnswered c (Admin.handle c now ⟨"POST", target⟩) := by
  have served : Admin.handle c now ⟨"POST", target⟩ = Admin.actRoute c .run := by
    simp only [Admin.handle, path]
    rfl
  have unseen (index : Nat) (e : Engagement) (present : c.engagements[index]? = some e) :
      e.claim ≠ some (c.slot.generation + 1) := fun later =>
    absurd (occupancy.tenancy.counted index e _ present later) (Nat.not_succ_le_self _)
  rw [served]
  by_cases free : c.slot.phase = .idle ∨ c.slot.phase = .stopped
  · have claim := claim?_eq c.slot c.engagements.length
    rw [if_pos free] at claim
    simp only [Admin.actRoute, step?, claim]
    refine ⟨(if_pos free).symm, fun _ => ⟨rfl, rfl, ?_, rfl⟩, unseen, ?_⟩
    · simp only [holderCancelled, Option.bind_some, List.getElem?_concat_length]
      rfl
    · exact fun refused => absurd (show (202 : Nat) = 409 from refused) (by decide)
  · have claim := claim?_eq c.slot c.engagements.length
    rw [if_neg free] at claim
    simp only [Admin.actRoute, step?, claim]
    refine ⟨(if_neg free).symm, ?_, unseen, fun _ => ⟨rfl, rfl⟩⟩
    exact fun accepted => absurd (show (409 : Nat) = 202 from accepted) (by decide)

/-- A request to stop is accepted in every phase. -/
theorem stopAnswered (c : Sweeper) (now : Timestamp) {target : String}
    (path : Admin.pathOf target = "/cleaner/stop") :
    StopAnswered c (Admin.handle c now ⟨"POST", target⟩) := by
  have served : Admin.handle c now ⟨"POST", target⟩ = Admin.actRoute c .stop := by
    simp only [Admin.handle, path]
    rfl
  rw [served]
  refine ⟨rfl, rfl, rfl, ?_, stop_getElem? c⟩
  show c.slot.stop = _
  simp only [Slot.stop]
  split <;> rfl

/-- The report that is shown is that of the sweep which completed last. -/
theorem reportAnswered {completed : List (Nat × SweepReport)} (reported : Reported c completed)
    (now : Timestamp) {target : String} (path : Admin.pathOf target = "/cleaner/report") :
    ReportAnswered c completed (Admin.handle c now ⟨"GET", target⟩) := by
  have served : Admin.handle c now ⟨"GET", target⟩ = ⟨Admin.readRoute c now .report, c, none⟩ := by
    simp only [Admin.handle, path]
    rfl
  rw [served]
  have last := reported.last
  cases latest : completed.getLast? with
  | none =>
    have none_yet := List.getLast?_eq_none_iff.mp latest
    rw [latest, Option.map_none] at last
    simp only [Admin.readRoute, last]
    refine ⟨⟨fun _ => none_yet, fun _ => rfl⟩, ?_, rfl, rfl⟩
    intro index report some_yet
    cases latest.symm.trans some_yet
  | some entry =>
    obtain ⟨index, report⟩ := entry
    rw [latest, Option.map_some] at last
    simp only [Admin.readRoute, last]
    refine ⟨⟨?_, ?_⟩, ?_, rfl, rfl⟩
    · exact fun missing => absurd (show (200 : Nat) = 404 from missing) (by decide)
    · rintro rfl
      cases latest
    · intro other another same
      obtain ⟨rfl, rfl⟩ := Prod.mk.inj (Option.some.inj (latest.symm.trans same))
      exact ⟨(reported.outcomes index report).mp (List.mem_of_getLast? latest), rfl⟩

/-- What happens next either completes one sweep and shows its report from then on, or changes
nothing of what is shown. -/
theorem happened_cases {happening : Happening} {added : List (Nat × SweepReport)}
    (happened : happen? c happening = some (next, added)) :
    added = [] ∧ next.slot.lastReport = c.slot.lastReport ∨
      ∃ index report, added = [(index, report)] ∧ next.slot.lastReport = some report ∧
        c.outcome? index = none ∧ next.outcome? index = some (.completed report) := by
  cases happening with
  | moved move =>
    obtain ⟨⟨after, shown⟩, made, same⟩ := Option.map_eq_some_iff.mp happened
    obtain ⟨rfl, rfl⟩ := Prod.mk.inj same
    refine (lastReport_step (steps_of_recorded? made)).imp_right ?_
    rintro ⟨index, report, one, shown⟩
    obtain ⟨-, before, after⟩ := mem_completes (one ▸ List.mem_singleton.mpr rfl)
    exact ⟨index, report, one, shown, before, after⟩
  | asked now request =>
    obtain ⟨rfl, rfl⟩ := Prod.mk.inj (Option.some.inj happened)
    refine Or.inl ⟨rfl, ?_⟩
    obtain same | ⟨move, none, steps⟩ := asked_cases c now request
    · rw [same]
    · obtain ⟨-, kept⟩ | ⟨index, report, one, -⟩ := lastReport_step steps
      · exact kept
      · cases none.symm.trans one

/-- The admin interface over a whole history. Let sweeps be asked for, claim, move, be dropped and
give up their claims, and let operators send requests, all in any order, and take the sweeps that
have completed so far, in order. These are the sweeps whose outcome is a report, each with its own.
Whatever happens next completes at most one sweep, which had no outcome before, and the report that
is kept changes only with that. A request to start a sweep is accepted exactly if no sweep is under
way, and a request to stop always; neither does anything but what its answer says. A request for the
report is answered with that of the sweep that completed last, and with a refusal only as long as
there is none. -/
theorem admin_answers {s : Settings} {history : List Happening}
    {completed : List (Nat × SweepReport)}
    (ran : history? (.ofSettings s) history = some (c, completed)) :
    (∀ index report, (index, report) ∈ completed ↔ c.outcome? index = some (.completed report)) ∧
      (∀ happening next added, happen? c happening = some (next, added) →
        added = [] ∧ next.slot.lastReport = c.slot.lastReport ∨
          ∃ index report, added = [(index, report)] ∧ next.slot.lastReport = some report ∧
            c.outcome? index = none ∧ next.outcome? index = some (.completed report)) ∧
      (∀ now target, Admin.pathOf target = "/cleaner/run" →
        StartAnswered c (Admin.handle c now ⟨"POST", target⟩)) ∧
      (∀ now target, Admin.pathOf target = "/cleaner/stop" →
        StopAnswered c (Admin.handle c now ⟨"POST", target⟩)) ∧
      (∀ now target, Admin.pathOf target = "/cleaner/report" →
        ReportAnswered c completed (Admin.handle c now ⟨"GET", target⟩)) := by
  obtain ⟨reported, occupancy⟩ := reported_along ran
  exact ⟨reported.outcomes, fun _ _ _ => happened_cases, fun now _ => startAnswered occupancy now,
    fun now _ => stopAnswered c now, fun now _ => reportAnswered reported now⟩

/-- A request to start a sweep. -/
def askForSweep : Happening := .asked .epoch ⟨"POST", "/cleaner/run"⟩

/-- Two sweeps on demand: the first finds no keys and completes, and the second finds the guard
held. -/
def sweptThenHeld : List Happening :=
  [askForSweep] ++ ([.begin, .guardChecked (.value false), .guardMarked (.value ()),
    .stage (.scanned (.value none)), .stage .takeCandidate, .stage .takeMatch, .join, .join,
    .join, .proceed,
    .guardReleased (.value 1) .zero .epoch].map fun move => .moved (.sweep 0 move)) ++
  [.moved (.giveUp 0), askForSweep, .moved (.sweep 1 .begin),
    .moved (.sweep 1 (.guardChecked (.value true)))]

/-- A sweep that finds the guard held leaves the report of the sweep before it on show. -/
theorem admin_answers_held : ∃ c, history? (.ofSettings (.ofPattern "k*" 100)) sweptThenHeld =
      some (c, [(0, ⟨0, .zero, .epoch⟩)]) ∧
    c.outcome? 1 = some .alreadyRunning ∧ Admin.pathOf "/cleaner/report" = "/cleaner/report" ∧
      (Admin.handle c .epoch ⟨"GET", "/cleaner/report"⟩).response =
        Admin.respond 200 (Admin.reportDocument ⟨0, .zero, .epoch⟩) := by
  have seen : (history? (.ofSettings (.ofPattern "k*" 100)) sweptThenHeld).map (fun reached =>
      (reached.1.outcome? 1, reached.2)) = some (some .alreadyRunning,
      [(0, ⟨0, .zero, .epoch⟩)]) := by
    decide +kernel
  obtain ⟨⟨c, completed⟩, ran, same⟩ := Option.map_eq_some_iff.mp seen
  obtain ⟨held, rfl⟩ := Prod.mk.inj same
  have path : Admin.pathOf "/cleaner/report" = "/cleaner/report" := by decide +kernel
  obtain ⟨-, -, -, -, report⟩ := admin_answers ran
  exact ⟨c, ran, held, path, ((report .epoch "/cleaner/report" path).shown 0 _ rfl).2⟩

end Sweeper

end KeySweeper
