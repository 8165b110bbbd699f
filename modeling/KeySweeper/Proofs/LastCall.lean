import KeySweeper.Proofs.Passage

/-!
# The release comes last

What a sweep calls, seen at its sweeper: however the sweeps of a sweeper interleave, whatever the
store answers and wherever a sweep is dropped, the calls of each sweep come in the order of its
passage, the deletion of the guard is issued at most once and only after the guard was acquired, and
from then on no stage of the sweep has a call waiting or makes one. A sweep that is refused by its
own sweeper, or never driven, calls nothing.
-/

namespace KeySweeper.Sweeper

/-- Whether a move issues the deletion of the guard for the sweep at an index. -/
def Move.issuesRelease (index : Nat) : Move → Bool
  | .sweep other move => other == index && move.issuesRelease
  | _ => false

/-- How often the deletion of the guard was issued for the sweep at an index. -/
def releasesIssued (index : Nat) (moves : List Move) : Nat :=
  moves.countP (Move.issuesRelease index)

@[simp] theorem releasesIssued_append (index : Nat) (moves later : List Move) :
    releasesIssued index (moves ++ later) = releasesIssued index moves +
      releasesIssued index later :=
  List.countP_append

@[simp] theorem releasesIssued_singleton (index : Nat) (move : Move) :
    releasesIssued index [move] = (move.issuesRelease index).toNat := by
  cases issues : move.issuesRelease index <;> simp [releasesIssued, issues]

/-- The calls of the sweep at an index, in order, each with the part that made it. -/
def trail (index : Nat) (log : Log) : List (Sweep.Part × StoreEvent) :=
  Sweep.trail (chronicle index log)

@[simp] theorem trail_append (index : Nat) (log later : Log) :
    trail index (log ++ later) = trail index log ++ trail index later := by
  simp only [trail, chronicle_append, Sweep.trail_append]

/-- Every sweep that was asked for is somewhere on its passage, and nothing is known of the
others. -/
structure Passages (c : Sweeper) (moves : List Move) (log : Log) : Prop where
  asked : ∀ (index : Nat) (e : Engagement), c.engagements[index]? = some e →
    Sweep.Passage c.settings e.sweep (trail index log) (releasesIssued index moves)
  unasked : ∀ index, c.engagements[index]? = none →
    trail index log = [] ∧ releasesIssued index moves = 0

variable {s : Settings} {c next : Sweeper} {move : Move} {moves : List Move} {shown log : Log}

/-- A move issues nothing for a sweep that was not asked for, and nothing is shown of it. -/
theorem unasked_step (steps : Steps c move next shown) {index : Nat}
    (absent : next.engagements[index]? = none) :
    c.engagements[index]? = none ∧ trail index shown = [] ∧ move.issuesRelease index = false := by
  obtain ⟨grown, known⟩ := known_step steps
  have beyond := List.getElem?_eq_none_iff.mp absent
  have missing : c.engagements[index]? = none := List.getElem?_eq_none (Nat.le_trans grown beyond)
  refine ⟨missing, ?_, ?_⟩
  · have silent : chronicle index shown = [] := by
      simp only [chronicle, List.map_eq_nil_iff, List.filter_eq_nil_iff, beq_iff_eq]
      intro entry member same
      have inside := known entry member
      omega
    simp only [trail, silent]
    rfl
  · cases steps with
    | moved other inner e progress present made =>
      have different : other ≠ index := by
        rintro rfl
        rw [present] at missing
        cases missing
      simp [Move.issuesRelease, different]
    | _ => rfl

/-- What becomes of a sweep carries its passage on. -/
theorem passage_of_fate {index : Nat} {e after : Engagement} {added : Sweep.Chronicle}
    {past : List (Sweep.Part × StoreEvent)} {issued : Nat}
    (passage : Sweep.Passage c.settings e.sweep past issued)
    (fate : Fate c index move (some e) after added) :
    Sweep.Passage c.settings after.sweep (past ++ Sweep.trail added)
      (issued + (move.issuesRelease index).toNat) := by
  cases fate with
  | spared move e elsewhere =>
    have outside : move.issuesRelease index = false := by
      cases move with
      | sweep other inner =>
        have different : other ≠ index := by
          rintro rfl
          exact elsewhere inner rfl
        simp [Move.issuesRelease, different]
      | _ => rfl
    rw [outside, show Sweep.trail [] = [] from rfl, List.append_nil]
    exact passage
  | told move e reaches =>
    have outside : move.issuesRelease index = false := by
      cases move with
      | sweep other inner => cases reaches
      | _ => rfl
    rw [outside]
    exact passage.step (.cancelled)
  | admitted flag e slot unclaimed free =>
    obtain ⟨rfl, rfl, -⟩ := passage.unclaimed unclaimed
    exact .claimed flag
  | refused flag e unclaimed =>
    obtain ⟨rfl, rfl, waiting, absent⟩ := passage.unclaimed unclaimed
    exact .before (Or.inr rfl) waiting absent (.silent _ nofun)
  | moved inner e progress made =>
    rw [show (Move.sweep index inner).issuesRelease index = inner.issuesRelease by
      simp [Move.issuesRelease]]
    exact passage.step (Sweep.steps_of_step? made)
  | gaveUp e generation held halted =>
    rw [show (Move.giveUp index).issuesRelease index = false from rfl,
      show Sweep.trail [] = [] from rfl, List.append_nil]
    exact passage

/-- Every move of a sweeper carries on the passages of its sweeps. -/
theorem Passages.step (passages : Passages c moves log) (steps : Steps c move next shown) :
    Passages next (moves ++ [move]) (log ++ shown) := by
  constructor
  · intro index after there
    rw [trail_append, releasesIssued_append, releasesIssued_singleton, settings_step steps]
    have fate := fate_of_steps steps there
    simp only [trail] at *
    generalize chronicle index shown = added at fate ⊢
    cases before : c.engagements[index]? with
    | some e =>
      rw [before] at fate
      exact passage_of_fate (passages.asked index e before) fate
    | none =>
      rw [before] at fate
      obtain ⟨silent, unissued⟩ := passages.unasked index before
      simp only [trail] at silent
      rw [silent, unissued]
      cases fate with
      | requested caller => exact .requested
      | started slot free => exact .claimed false
  · intro index absent
    obtain ⟨missing, silent, outside⟩ := unasked_step steps absent
    obtain ⟨before, unissued⟩ := passages.unasked index missing
    rw [trail_append, before, silent, releasesIssued_append, unissued,
      releasesIssued_singleton, outside]
    exact ⟨rfl, rfl⟩

/-- In every state of a sweeper its sweeps are somewhere on their passages. -/
theorem passages_along (ran : run? (.ofSettings s) moves = some (c, log)) :
    c.settings = s ∧ Passages c moves log := by
  refine Execution.induction_along (motive := fun moves c log =>
    c.settings = s ∧ Passages c moves log) ?_ ?_ ran
  · refine ⟨rfl, ?_, ?_⟩
    · intro index e impossible
      simp [ofSettings] at impossible
    · intro index _
      exact ⟨rfl, rfl⟩
  · rintro moves move mid before after shown - ⟨same, passages⟩ stepped
    have steps := steps_of_recorded? stepped
    exact ⟨(settings_step steps).trans same, passages.step steps⟩

/-- The moves of a sweep whose deletion of the guard was issued: the engagement of that sweep is
there, its stages are over, and nothing that it goes on to do is a call of a stage. -/
theorem silent_after_issue {first rest : List Move} {index : Nat}
    (ran : run? (.ofSettings s) (first ++ rest) = some (c, log))
    (issued : releasesIssued index first = 1) :
    ∃ mid early later, run? (.ofSettings s) first = some (mid, early) ∧
      run? mid rest = some (c, later) ∧ log = early ++ later ∧
      (∀ (e : Engagement) (part : Sweep.Part), mid.engagements[index]? = some e →
        part.isStage = true → e.sweep.pending? s part = none) ∧
      ∀ call ∈ trail index later, ¬ Sweep.IsStageCall s call := by
  obtain ⟨mid, early, later, led, continued, rfl⟩ := Execution.run?_append_iff.mp ran
  refine ⟨mid, early, later, led, continued, rfl, ?_, ?_⟩
  · intro e part present stage
    obtain ⟨-, passages⟩ := passages_along led
    have passage := passages.asked index e present
    rw [issued] at passage
    obtain ⟨-, p, work, quiet⟩ := passage.of_issued
    exact Sweep.idle_of_over work quiet stage
  · rintro ⟨part, event⟩ member staged
    have entry := mem_chronicle.mp (Sweep.mem_trail.mp member)
    obtain ⟨between, move, others, before, past, after, shown, rfl, reached, stepped, among⟩ :=
      Execution.shown_by_move continued entry
    have led' : run? (.ofSettings s) (first ++ between) = some (before, early ++ past) :=
      Execution.run?_append_iff.mpr ⟨mid, early, past, led, reached, rfl⟩
    obtain ⟨same, passages⟩ := passages_along led'
    obtain ⟨inner, e, progress, rfl, present, made, called⟩ :=
      moved_of_call (steps_of_recorded? stepped) among
    have passage := passages.asked index e present
    have once := passage.once
    rw [releasesIssued_append, issued] at passage once
    obtain none : releasesIssued index between = 0 := by omega
    rw [none, same] at passage
    rw [same] at made
    exact passage.silent_of_issued (Sweep.steps_of_step? made) (Sweep.mem_trail.mpr called) staged

/-- The release of the guard comes last, and at most once. In every execution of a sweeper, with any
answers of the store and any drops, and for every sweep that was asked for:

* its calls are a check of the guard, a write of it if it was found free, calls of its stages, and
  the deletion of the guard, each part only if the one before it came to its end;
* the deletion is issued at most once, and a deletion that waits for the store or has ended was
  issued;
* a sweep for which it was issued had found the guard free and got its write back, and in particular
  no sweep that was refused, that could not find out whether the guard is held, or that called
  nothing issued it;
* from the moment at which it is issued no stage waits for the store, and no stage calls anything
  later. -/
theorem release_last (ran : run? (.ofSettings s) moves = some (c, log)) {index : Nat}
    {e : Engagement} (present : c.engagements[index]? = some e) :
    Sweep.IsOrdered s (trail index log) ∧
      releasesIssued index moves ≤ 1 ∧
      (∀ (part : Sweep.Part) (keys : List String), part.isStage = false →
        e.sweep.pending? s part = some (.delete keys) → releasesIssued index moves = 1) ∧
      (∀ call ∈ trail index log, Sweep.IsRelease s call → releasesIssued index moves = 1) ∧
      (releasesIssued index moves = 1 → Sweep.checkCall s (.value false) ∈ trail index log ∧
        ∃ answer, Sweep.returned answer = true ∧ Sweep.markCall s answer ∈ trail index log) ∧
      (e.sweep.driver = .finished .alreadyRunning ∨
        (∃ cause, e.sweep.driver = .finished (.guardFailed cause)) ∨ trail index log = [] →
          releasesIssued index moves = 0) ∧
      ∀ first rest, moves = first ++ rest → releasesIssued index first = 1 →
        ∃ mid early later, run? (.ofSettings s) first = some (mid, early) ∧
          run? mid rest = some (c, later) ∧ log = early ++ later ∧
          (∀ (f : Engagement) (part : Sweep.Part), mid.engagements[index]? = some f →
            part.isStage = true → f.sweep.pending? s part = none) ∧
          ∀ call ∈ trail index later, ¬ Sweep.IsStageCall s call := by
  obtain ⟨rfl, passages⟩ := passages_along ran
  have passage := passages.asked index e present
  have acquired (issued : releasesIssued index moves = 1) :
      Sweep.checkCall c.settings (.value false) ∈ trail index log ∧
        ∃ answer, Sweep.returned answer = true ∧
          Sweep.markCall c.settings answer ∈ trail index log := by
    rw [issued] at passage
    obtain ⟨⟨release, entered⟩, -⟩ := passage.of_issued
    exact entered.marked
  refine ⟨passage.ordered, passage.once, ?_, ?_, acquired, ?_, ?_⟩
  · intro part keys outside pending
    exact passage.issued_of_pending outside pending
  · intro call member release
    exact passage.issued_of_released member release
  · rintro (refused | unknown | silent)
    · exact passage.unissued_of_refused (Or.inl refused)
    · exact passage.unissued_of_refused (Or.inr unknown)
    · by_contra issues
      have once := passage.once
      obtain ⟨checked, -⟩ := acquired (by omega)
      rw [silent] at checked
      cases checked
  · rintro first rest rfl issued
    exact silent_after_issue ran issued

/-- The moves of a sweep that is dropped after its driver has waited for the scanner: the releaser
waits for the other two stages and deletes the guard. -/
def handedOn : List Move :=
  [.request none, .claim 0 false, .sweep 0 .begin, .sweep 0 (.guardChecked (.value false)),
    .sweep 0 (.guardMarked (.value ())), .sweep 0 (.stage (.scanned (.value none))), .sweep 0 .join,
    .sweep 0 (.drop true), .sweep 0 (.stage .takeCandidate), .sweep 0 (.stage .takeMatch),
    .sweep 0 .releaserJoin, .sweep 0 .releaserJoin, .sweep 0 .releaserProceed,
    .sweep 0 (.releaserReleased (.value 1))]

/-- The sweep that hands its list on calls the store four times, in order, and its releaser issues
the one deletion of the guard. -/
theorem release_last_handedOn : ∃ c log e,
    run? (.ofSettings (.ofPattern "a*" 10)) handedOn = some (c, log) ∧ c.engagements[0]? = some e ∧
      trail 0 log = [Sweep.checkCall (.ofPattern "a*" 10) (.value false),
        Sweep.markCall (.ofPattern "a*" 10) (.value ()), (.scanner, .scanned "a*" (.value none)),
        (.releaser, .deleted [(Settings.ofPattern "a*" 10).guardKey] (.value 1))] ∧
      Sweep.IsOrdered (.ofPattern "a*" 10) (trail 0 log) ∧ releasesIssued 0 handedOn = 1 := by
  have seen : ((run? (.ofSettings (.ofPattern "a*" 10)) handedOn).map fun reached =>
      (trail 0 reached.2, reached.1.engagements.length)) =
      some ([Sweep.checkCall (.ofPattern "a*" 10) (.value false),
        Sweep.markCall (.ofPattern "a*" 10) (.value ()), (.scanner, .scanned "a*" (.value none)),
        (.releaser, .deleted [(Settings.ofPattern "a*" 10).guardKey] (.value 1))], 1) := by
          decide +kernel
  obtain ⟨⟨c, log⟩, ran, same⟩ := Option.map_eq_some_iff.mp seen
  simp only [Prod.mk.injEq] at same
  obtain ⟨shown, one⟩ := same
  have present : c.engagements[0]? = some c.engagements[0] := List.getElem?_eq_getElem (by omega)
  obtain ⟨ordered, -, -, released, -⟩ := release_last ran present
  refine ⟨c, log, _, ran, present, shown, ordered, ?_⟩
  apply released (.releaser, .deleted [(Settings.ofPattern "a*" 10).guardKey] (.value 1))
  · rw [shown]
    simp
  · exact .passed _

end KeySweeper.Sweeper
