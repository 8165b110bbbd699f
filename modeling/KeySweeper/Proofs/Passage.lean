import KeySweeper.Proofs.Custody
import KeySweeper.Proofs.Engagements

/-!
# The order of the calls of a sweep

A sweep checks the guard, writes it, lets its stages work, and deletes the guard. The calls of its
stages have no fixed order among themselves, but they all lie between the write and the deletion.
The deletion is issued by one of two tasks: by the driver once it has waited for all stages, or by
the releaser of a sweep that was dropped while the driver was waiting, which goes on with the stages
that the driver had not waited for yet.

The invariant names the place of a sweep on this way, together with its calls so far and the number
of deletions that were issued. Nothing is said about what the deletion does to the store.
-/

namespace KeySweeper

namespace Pipeline

variable {s : Settings} {p next : Pipeline} {move : Move} {shown : List Effect}

/-- A step leaves a stage that is over as it was. -/
theorem untouched_of_over (stepped : p.step? s move = some (next, shown)) {stage : StageName}
    (halted : p.isLive stage = false) :
    next.isLive stage = p.isLive stage ∧ next.crash? stage = p.crash? stage := by
  by_cases outside : move = .cancel
  · subst outside
    obtain ⟨rfl, -⟩ := step_cancel stepped
    cases stage <;> exact ⟨rfl, rfl⟩
  · obtain ⟨mover, moved⟩ := mover_of_step stepped outside
    have different : stage ≠ mover := by
      rintro rfl
      exact absurd (halted.symm.trans moved.live) Bool.false_ne_true
    exact moved.others stage different

/-- A stage that is over stays over. -/
theorem over_of_step (stepped : p.step? s move = some (next, shown)) {stage : StageName}
    (halted : p.isLive stage = false) : next.isLive stage = false :=
  (untouched_of_over stepped halted).1.trans halted

/-- Stages that are over call nothing. -/
theorem silent_of_over (halted : ∀ stage, p.isLive stage = false)
    (stepped : p.step? s move = some (next, shown)) : calls shown = [] := by
  by_cases outside : move = .cancel
  · subst outside
    obtain ⟨-, rfl⟩ := step_cancel stepped
    rfl
  · obtain ⟨mover, moved⟩ := mover_of_step stepped outside
    exact absurd ((halted mover).symm.trans moved.live) Bool.false_ne_true

end Pipeline

namespace Sweep

/-- The calls in a chronicle, in order, each with the part that made it. -/
def trail (log : Chronicle) : List (Part × StoreEvent) :=
  log.filterMap fun entry => entry.2.call?.map fun event => (entry.1, event)

@[simp] theorem trail_append (log later : Chronicle) :
    trail (log ++ later) = trail log ++ trail later := List.filterMap_append

/-- The calls of one move are made by the part that moves. -/
theorem trail_entries (move : Move) (shown : List Effect) :
    trail (entries move shown) = (calls shown).map fun event => (move.part, event) := by
  simp only [trail, entries, calls, List.filterMap_map, List.map_filterMap, Function.comp_def]

/-- A call stands in the trail of a chronicle if the chronicle shows it. -/
theorem mem_trail {log : Chronicle} {part : Part} {event : StoreEvent} :
    (part, event) ∈ trail log ↔ (part, .called event) ∈ log := by
  simp only [trail, List.mem_filterMap, Option.map_eq_some_iff, Prod.mk.injEq]
  constructor
  · rintro ⟨⟨other, effect⟩, member, called, read, rfl, rfl⟩
    cases effect with
    | called same => cases read; exact member
    | logged line => cases read
  · intro member
    exact ⟨_, member, event, rfl, rfl, rfl⟩

/-- A call of a stage: the scanner scans, the filter inspects and the deleter deletes. -/
inductive IsStageCall (s : Settings) : Part × StoreEvent → Prop where
  /-- The scanner asks for the next key. -/
  | scanned (answer : Answer (Option String)) : IsStageCall s (.scanner, .scanned s.pattern answer)
  /-- The filter asks for the lifetime left to a key. -/
  | inspected (key : String) (answer : Answer Ttl) : IsStageCall s (.filter, .inspected key answer)
  /-- The deleter deletes a batch. -/
  | deleted (batch : List String) (answer : Answer Nat) :
      IsStageCall s (.deleter, .deleted batch answer)

/-- A deletion of the guard, by the driver or by the task that stands in for it. -/
inductive IsRelease (s : Settings) : Part × StoreEvent → Prop where
  /-- The driver deletes the guard. -/
  | own (answer : Answer Nat) : IsRelease s (.driver, .deleted [s.guardKey] answer)
  /-- The releaser deletes the guard. -/
  | passed (answer : Answer Nat) : IsRelease s (.releaser, .deleted [s.guardKey] answer)

/-- A check of the guard by the driver. -/
abbrev checkCall (s : Settings) (answer : Answer Bool) : Part × StoreEvent :=
  (.driver, .checked s.guardKey answer)

/-- A write of the guard by the driver. -/
abbrev markCall (s : Settings) (answer : Answer Unit) : Part × StoreEvent :=
  (.driver, .written s.guardKey Guard.mark answer)

/-- The guard was found free and written, the stages called something, and the guard was deleted or
not. -/
inductive Acquired (s : Settings) (release : Option (Part × StoreEvent)) :
    List (Part × StoreEvent) → Prop where
  /-- The calls in this order. -/
  | intro (answer : Answer Unit) (back : returned answer = true) (stages : List (Part × StoreEvent))
      (work : ∀ call ∈ stages, IsStageCall s call) (last : ∀ call ∈ release, IsRelease s call) :
      Acquired s release
        (checkCall s (.value false) :: markCall s answer :: (stages ++ release.toList))

/-- The calls of a sweep that has not acquired the guard yet, or never will. -/
inductive Unacquired (s : Settings) : Driver → List (Part × StoreEvent) → Prop where
  /-- It has not asked for the guard. -/
  | silent (driver : Driver) (other : driver ≠ .marking) : Unacquired s driver []
  /-- It has found the guard free. -/
  | free : Unacquired s .marking [checkCall s (.value false)]
  /-- It has asked for the guard, and is over. -/
  | checked (driver : Driver) (answer : Answer Bool) (halted : Sweeper.isOver driver = true) :
      Unacquired s driver [checkCall s answer]
  /-- The code behind the write of the guard crashed. -/
  | crashed (text error : String) :
      Unacquired s (.finished (.crashed error)) [checkCall s (.value false),
        markCall s (.crashed text)]

/-- The calls of a sweep in their order: a check of the guard, a write only if the guard was found
free, calls of the stages only if the write came back, and at last the deletion of the guard, at
most once. -/
inductive IsOrdered (s : Settings) : List (Part × StoreEvent) → Prop where
  /-- Nothing was called. -/
  | silent : IsOrdered s []
  /-- The guard was checked. -/
  | checked (answer : Answer Bool) : IsOrdered s [checkCall s answer]
  /-- The guard was found free, and the code behind the write crashed. -/
  | crashed (text : String) :
      IsOrdered s [checkCall s (.value false), markCall s (.crashed text)]
  /-- The guard was acquired. -/
  | acquired (past : List (Part × StoreEvent)) (release : Option (Part × StoreEvent))
      (entered : Acquired s release past) : IsOrdered s past

/-- The place of a sweep between its claim and its end, with its calls so far and the number of
deletions of the guard that were issued. -/
inductive Passage (s : Settings) (sweep : Sweep) (past : List (Part × StoreEvent)) :
    Nat → Prop where
  /-- The guard is not acquired, and if the driver is over it never will be. -/
  | before (driver : sweep.driver.isOpening = true ∨ Sweeper.isOver sweep.driver = true)
      (work : ∃ flag, sweep.work = .waiting flag) (releaser : sweep.releaser = .absent)
      (early : Unacquired s sweep.driver past) : Passage s sweep past 0
  /-- One of the two tasks waits for some of the stages. The others are over. -/
  | during (p : Pipeline) (rest : List StageName)
      (place : sweep.driver = .joining rest ∧ sweep.releaser = .absent ∨
        sweep.driver = .dropped ∧ sweep.releaser = .joining rest)
      (work : sweep.work = .running p) (joined : ∀ stage, stage ∉ rest → p.isLive stage = false)
      (entered : Acquired s none past) : Passage s sweep past 0
  /-- The driver was dropped, and nobody waits for the stages. -/
  | left (p : Pipeline) (driver : sweep.driver = .dropped) (releaser : sweep.releaser = .absent)
      (work : sweep.work = .running p) (entered : Acquired s none past) : Passage s sweep past 0
  /-- All stages are over, and one of the two tasks deletes the guard. -/
  | issued (p : Pipeline)
      (place : sweep.driver = .releasing ∧ sweep.releaser = .absent ∨
        sweep.driver = .dropped ∧ sweep.releaser = .releasing)
      (work : sweep.work = .running p) (quiet : ∀ stage, p.isLive stage = false)
      (entered : Acquired s none past) : Passage s sweep past 1
  /-- All stages are over, and nobody deletes the guard any more. -/
  | closed (p : Pipeline)
      (driver : sweep.driver = .dropped ∨ (∃ report, sweep.driver = .finished (.completed report)) ∨
        ∃ text, sweep.driver = .finished (.crashed text))
      (releaser : sweep.releaser.isBound = false)
      (work : sweep.work = .running p) (quiet : ∀ stage, p.isLive stage = false)
      (release : Option (Part × StoreEvent)) (entered : Acquired s release past) :
      Passage s sweep past 1

/-- Whether a move issues a deletion of the guard. -/
def Move.issuesRelease : Move → Bool
  | .proceed => true
  | .releaserProceed => true
  | _ => false

variable {s : Settings} {sweep : Sweep} {move : Move} {progress : Progress}
variable {past : List (Part × StoreEvent)} {issued : Nat}

/-- A sweep that is under way and has not found the guard free has called nothing. -/
theorem Unacquired.nothing {driver : Driver} (early : Unacquired s driver past)
    (unmarking : driver ≠ .marking) (under : Sweeper.isOver driver = false) : past = [] := by
  cases early with
  | silent => rfl
  | free => exact absurd rfl unmarking
  | checked now answer halted => rw [halted] at under; cases under
  | crashed => cases under

/-- A sweep that writes the guard has found it free. -/
theorem Unacquired.found (early : Unacquired s .marking past) :
    past = [checkCall s (.value false)] := by
  cases early with
  | silent now other => exact absurd rfl other
  | free => rfl
  | checked now answer halted => cases halted

/-- A stage that moves adds calls of stages to those of a sweep. -/
theorem Acquired.staged {p after : Pipeline} {stageMove : Pipeline.Move} {effects : List Effect}
    (entered : Acquired s none past) (running : sweep.work = .running p)
    (stepped : p.step? s stageMove = some (after, effects)) :
    Acquired s none (past ++ trail (entries (.stage stageMove) effects)) := by
  obtain ⟨answer, back, stages, work, last⟩ := entered
  have added : ∀ call ∈ trail (entries (.stage stageMove) effects), IsStageCall s call := by
    rintro ⟨part, event⟩ member
    rw [trail_entries] at member
    obtain ⟨shown, called, same⟩ := List.mem_map.mp member
    obtain ⟨rfl, rfl⟩ := Prod.mk.inj same
    cases answers_of_staged running stepped called with
    | scanned answer => exact .scanned answer
    | inspected answer q key => exact .inspected key answer
    | deleted answer q batch waiting => exact .deleted batch answer
  have whole : Acquired s none (checkCall s (.value false) :: markCall s answer ::
      ((stages ++ trail (entries (.stage stageMove) effects)) ++ (none : Option _).toList)) := by
    refine .intro answer back _ ?_ (fun _ => nofun)
    intro call member
    rcases List.mem_append.mp member with earlier | now
    · exact work call earlier
    · exact added call now
  simpa only [Option.toList_none, List.append_nil, List.cons_append] using whole

/-- The deletion of the guard comes behind the calls of the stages. -/
theorem Acquired.released {call : Part × StoreEvent} (entered : Acquired s none past)
    (release : IsRelease s call) : Acquired s (some call) (past ++ [call]) := by
  obtain ⟨answer, back, stages, work, last⟩ := entered
  have whole : Acquired s (some call)
      (checkCall s (.value false) :: markCall s answer :: (stages ++ (some call).toList)) := by
    refine .intro answer back stages work ?_
    intro other same
    obtain rfl := Option.some.inj same
    exact release
  simpa only [Option.toList_none, Option.toList_some, List.append_nil, List.cons_append] using whole

/-- A step that shows no call adds none. -/
theorem still_of_silent (past : List (Part × StoreEvent)) (move : Move) (effects : List Effect)
    (silent : calls effects = []) : past ++ trail (entries move effects) = past := by
  rw [trail_entries, silent, List.map_nil, List.append_nil]

/-- Stages at work that are told to wind down only have their flag raised. -/
theorem told_of_running {p : Pipeline} (work : sweep.work = .running p) :
    sweep.work.cancel = .running { p with control := p.control.cancel } := by
  rw [work]
  rfl

/-- Before the guard is acquired a step leads to the next call of the opening, to the end, or to the
acquisition, which starts the stages. -/
theorem Passage.before_step
    (driver : sweep.driver.isOpening = true ∨ Sweeper.isOver sweep.driver = true)
    (waiting : ∃ flag, sweep.work = .waiting flag) (absent : sweep.releaser = .absent)
    (early : Unacquired s sweep.driver past) (steps : Steps s sweep move progress) :
    Passage s progress.sweep (past ++ trail (entries move progress.effects))
      (0 + move.issuesRelease.toNat) := by
  have unbound := unbound_of driver
  have still := still_of_silent past move progress.effects
  obtain ⟨flag, work⟩ := waiting
  cases steps with
  | begun claimed =>
    obtain rfl := early.nothing (by rw [claimed]; exact Driver.noConfusion) (by rw [claimed]; rfl)
    exact .before (Or.inl rfl) ⟨flag, work⟩ absent (.silent _ Driver.noConfusion)
  | held checking =>
    obtain rfl := early.nothing (by rw [checking]; exact Driver.noConfusion) (by rw [checking]; rfl)
    exact .before (Or.inr rfl) ⟨flag, work⟩ absent (.checked _ _ rfl)
  | free checking =>
    obtain rfl := early.nothing (by rw [checking]; exact Driver.noConfusion) (by rw [checking]; rfl)
    exact .before (Or.inl rfl) ⟨flag, work⟩ absent .free
  | unknown checking cause =>
    obtain rfl := early.nothing (by rw [checking]; exact Driver.noConfusion) (by rw [checking]; rfl)
    exact .before (Or.inr rfl) ⟨flag, work⟩ absent (.checked _ _ rfl)
  | checkCrashed checking text =>
    obtain rfl := early.nothing (by rw [checking]; exact Driver.noConfusion) (by rw [checking]; rfl)
    exact .before (Or.inr rfl) ⟨flag, work⟩ absent (.checked _ _ rfl)
  | acquired marking answer back =>
    obtain rfl := (marking ▸ early).found
    rw [trail_entries, calls_called_logged]
    refine .during _ StageName.all (Or.inl ⟨rfl, absent⟩) rfl ?_ ?_
    · intro stage missing
      cases stage <;> exact absurd (by decide) missing
    · exact .intro answer back [] (List.forall_mem_nil _) (fun _ impossible =>
        absurd impossible.symm (Option.some_ne_none _))
  | markCrashed marking text =>
    obtain rfl := (marking ▸ early).found
    exact .before (Or.inr rfl) ⟨flag, work⟩ absent (.crashed _ _)
  | cancelled =>
    rw [still rfl]
    exact .before driver ⟨true, by simp only [work, Work.cancel]⟩ absent early
  | withdrawn opening canSpawn =>
    rw [still rfl]
    refine .before (Or.inr rfl) ⟨flag, work⟩ absent ?_
    generalize sweep.driver = now at early opening
    cases early with
    | silent => exact .silent _ Driver.noConfusion
    | free => exact .checked _ _ rfl
    | checked now answer halted => exact .checked _ _ rfl
    | crashed text error => cases opening
  | staged stageMove p after effects running stepped => rw [work] at running; cases running
  | joined stage rest joining ended => rw [joining] at unbound; cases unbound
  | proceeded joining => rw [joining] at unbound; cases unbound
  | completed releasing answer back elapsed finishedAt => rw [releasing] at unbound; cases unbound
  | releaseCrashed releasing text elapsed finishedAt => rw [releasing] at unbound; cases unbound
  | passedOn rest joining => rw [joining] at unbound; cases unbound
  | left rest joining => rw [joining] at unbound; cases unbound
  | abandoned releasing canSpawn => rw [releasing] at unbound; cases unbound
  | releaserJoined stage rest joining ended => rw [joining] at absent; cases absent
  | releaserProceeded joining => rw [joining] at absent; cases absent
  | releaserEnded releasing answer => rw [releasing] at absent; cases absent

/-- While a task waits for stages, stages move and end, the task notices ends in turn, and may hand
its list over. Only with an empty list, when every stage is over, is the deletion of the guard
issued. -/
theorem Passage.during_step {p : Pipeline} {rest : List StageName}
    (place : sweep.driver = .joining rest ∧ sweep.releaser = .absent ∨
      sweep.driver = .dropped ∧ sweep.releaser = .joining rest)
    (work : sweep.work = .running p) (joined : ∀ stage, stage ∉ rest → p.isLive stage = false)
    (entered : Acquired s none past) (steps : Steps s sweep move progress) :
    Passage s progress.sweep (past ++ trail (entries move progress.effects))
      (0 + move.issuesRelease.toNat) := by
  have told := told_of_running work
  have shorter (stage : StageName) (others : List StageName) (same : rest = stage :: others)
      (ended : sweep.work.hasEnded stage = true) :
      ∀ other, other ∉ others → p.isLive other = false := by
    intro other missing
    by_cases now : other = stage
    · subst now
      simpa only [work, Work.hasEnded, Bool.not_eq_true'] using ended
    · exact joined other (by simp [same, now, missing])
  have still := still_of_silent past move progress.effects
  cases steps with
  | staged stageMove q after effects running stepped =>
    obtain rfl := Work.running.inj (work.symm.trans running)
    refine .during after rest place rfl ?_ (entered.staged running stepped)
    exact fun stage missing => Pipeline.over_of_step stepped (joined stage missing)
  | joined stage others joining ended =>
    rw [still (calls_logged _)]
    obtain ⟨now, absent⟩ | ⟨now, -⟩ := place
    · obtain rfl := Driver.joining.inj (now.symm.trans joining)
      exact .during p others (Or.inl ⟨rfl, absent⟩) work (shorter stage others rfl ended) entered
    · rw [now] at joining; cases joining
  | releaserJoined stage others joining ended =>
    rw [still (calls_logged _)]
    obtain ⟨-, absent⟩ | ⟨dropped, now⟩ := place
    · rw [absent] at joining; cases joining
    · obtain rfl := Releaser.joining.inj (now.symm.trans joining)
      exact .during p others (Or.inr ⟨dropped, rfl⟩) work (shorter stage others rfl ended) entered
  | proceeded joining =>
    rw [still rfl]
    obtain ⟨now, absent⟩ | ⟨now, -⟩ := place
    · obtain rfl := Driver.joining.inj (now.symm.trans joining)
      exact .issued _ (Or.inl ⟨rfl, absent⟩) told (fun stage =>
        joined stage List.not_mem_nil) entered
    · rw [now] at joining; cases joining
  | releaserProceeded joining =>
    rw [still rfl]
    obtain ⟨-, absent⟩ | ⟨dropped, now⟩ := place
    · rw [absent] at joining; cases joining
    · obtain rfl := Releaser.joining.inj (now.symm.trans joining)
      exact .issued p (Or.inr ⟨dropped, rfl⟩) work (fun stage =>
        joined stage List.not_mem_nil) entered
  | cancelled =>
    rw [still rfl]
    exact .during _ rest place told joined entered
  | passedOn others joining =>
    rw [still rfl]
    obtain ⟨now, -⟩ | ⟨now, -⟩ := place
    · obtain rfl := Driver.joining.inj (now.symm.trans joining)
      exact .during _ rest (Or.inr ⟨rfl, rfl⟩) told joined entered
    · rw [now] at joining; cases joining
  | left others joining =>
    rw [still rfl]
    obtain ⟨-, absent⟩ | ⟨now, -⟩ := place
    · exact .left _ rfl absent told entered
    · rw [now] at joining; cases joining
  | _ =>
    exfalso
    obtain ⟨now, absent⟩ | ⟨now, busy⟩ := place <;> simp_all [Driver.isOpening]

/-- Once neither of the two tasks is at work, only stages move, and somebody may tell them to wind
down. -/
theorem staged_or_told {p : Pipeline} (halted : Sweeper.isOver sweep.driver = true)
    (unbound : sweep.releaser.isBound = false) (work : sweep.work = .running p)
    (steps : Steps s sweep move progress) :
    (∃ stageMove after effects, move = .stage stageMove ∧
        p.step? s stageMove = some (after, effects) ∧
        progress = ⟨{ sweep with work := .running after }, effects, none⟩) ∨
      move = .cancel ∧ progress = ⟨{ sweep with work := sweep.work.cancel }, [], none⟩ := by
  cases steps with
  | staged stageMove q after effects running stepped =>
    obtain rfl := Work.running.inj (work.symm.trans running)
    exact Or.inl ⟨stageMove, after, effects, rfl, stepped, rfl⟩
  | cancelled => exact Or.inr ⟨rfl, rfl⟩
  | releaserJoined stage rest joining ended => rw [joining] at unbound; cases unbound
  | releaserProceeded joining => rw [joining] at unbound; cases unbound
  | releaserEnded releasing answer => rw [releasing] at unbound; cases unbound
  | withdrawn opening canSpawn => rw [under_of_opening opening] at halted; cases halted
  | _ =>
    exfalso
    simp_all [Sweeper.isOver]

/-- A sweep whose stages nobody waits for never deletes the guard. -/
theorem Passage.left_step {p : Pipeline} (driver : sweep.driver = .dropped)
    (releaser : sweep.releaser = .absent) (work : sweep.work = .running p)
    (entered : Acquired s none past) (steps : Steps s sweep move progress) :
    Passage s progress.sweep (past ++ trail (entries move progress.effects))
      (0 + move.issuesRelease.toNat) := by
  rcases staged_or_told (by rw [driver]; rfl) (by rw [releaser]; rfl) work steps with
    ⟨stageMove, after, effects, rfl, stepped, rfl⟩ | ⟨rfl, rfl⟩
  · exact .left after driver releaser rfl (entered.staged work stepped)
  · rw [still_of_silent past .cancel [] rfl]
    exact .left _ driver releaser (told_of_running work) entered

/-- While the guard is deleted no stage calls anything, and the deletion ends at most once. -/
theorem Passage.issued_step {p : Pipeline}
    (place : sweep.driver = .releasing ∧ sweep.releaser = .absent ∨
      sweep.driver = .dropped ∧ sweep.releaser = .releasing)
    (work : sweep.work = .running p) (quiet : ∀ stage, p.isLive stage = false)
    (entered : Acquired s none past) (steps : Steps s sweep move progress) :
    Passage s progress.sweep (past ++ trail (entries move progress.effects))
      (1 + move.issuesRelease.toNat) := by
  have told := told_of_running work
  have still := still_of_silent past move progress.effects
  cases steps with
  | staged stageMove q after effects running stepped =>
    obtain rfl := Work.running.inj (work.symm.trans running)
    rw [still (Pipeline.silent_of_over quiet stepped)]
    exact .issued after place rfl (fun stage => Pipeline.over_of_step stepped (quiet stage)) entered
  | cancelled =>
    rw [still rfl]
    exact .issued _ place told quiet entered
  | completed releasing answer back elapsed finishedAt =>
    obtain ⟨-, absent⟩ | ⟨now, -⟩ := place
    · rw [trail_entries, calls_called_logged]
      exact .closed p (Or.inr (Or.inl ⟨_, rfl⟩)) (by rw [absent]; rfl) work quiet _
        (entered.released (.own answer))
    · rw [now] at releasing; cases releasing
  | releaseCrashed releasing text elapsed finishedAt =>
    obtain ⟨-, absent⟩ | ⟨now, -⟩ := place
    · exact .closed p (Or.inr (Or.inr ⟨_, rfl⟩)) (by rw [absent]; rfl) work quiet _
        (entered.released (.own (.crashed text)))
    · rw [now] at releasing; cases releasing
  | abandoned releasing canSpawn =>
    rw [still rfl]
    obtain ⟨-, absent⟩ | ⟨now, -⟩ := place
    · exact .closed _ (Or.inl rfl) (by rw [absent]; rfl) told quiet none entered
    · rw [now] at releasing; cases releasing
  | releaserEnded releasing answer =>
    obtain ⟨-, absent⟩ | ⟨dropped, -⟩ := place
    · rw [absent] at releasing; cases releasing
    · rw [trail_entries, calls_called_logged]
      exact .closed p (Or.inl dropped) rfl work quiet _ (entered.released (.passed answer))
  | _ =>
    exfalso
    obtain ⟨now, absent⟩ | ⟨now, busy⟩ := place <;> simp_all [Driver.isOpening]

/-- Once the deletion of the guard has ended, or was dropped, nothing is called any more. -/
theorem Passage.closed_step {p : Pipeline} {release : Option (Part × StoreEvent)}
    (driver : sweep.driver = .dropped ∨ (∃ report, sweep.driver = .finished (.completed report)) ∨
      ∃ text, sweep.driver = .finished (.crashed text))
    (releaser : sweep.releaser.isBound = false) (work : sweep.work = .running p)
    (quiet : ∀ stage, p.isLive stage = false) (entered : Acquired s release past)
    (steps : Steps s sweep move progress) :
    Passage s progress.sweep (past ++ trail (entries move progress.effects))
      (1 + move.issuesRelease.toNat) := by
  have halted : Sweeper.isOver sweep.driver = true := by
    rcases driver with now | ⟨_, now⟩ | ⟨_, now⟩ <;> rw [now] <;> rfl
  rcases staged_or_told halted releaser work steps with
    ⟨stageMove, after, effects, rfl, stepped, rfl⟩ | ⟨rfl, rfl⟩
  · rw [still_of_silent past _ effects (Pipeline.silent_of_over quiet stepped)]
    exact .closed after driver releaser rfl
      (fun stage => Pipeline.over_of_step stepped (quiet stage)) release entered
  · rw [still_of_silent past .cancel [] rfl]
    exact .closed _ driver releaser (told_of_running work) quiet release entered

/-- A step leads from place to place, and issues a deletion of the guard only on the way out of the
stages. -/
theorem Passage.step (passage : Passage s sweep past issued) (steps : Steps s sweep move progress) :
    Passage s progress.sweep (past ++ trail (entries move progress.effects))
      (issued + move.issuesRelease.toNat) := by
  cases passage with
  | before driver work releaser early => exact before_step driver work releaser early steps
  | during p rest place work joined entered => exact during_step place work joined entered steps
  | left p driver releaser work entered => exact left_step driver releaser work entered steps
  | issued p place work quiet entered => exact issued_step place work quiet entered steps
  | closed p driver releaser work quiet release entered =>
    exact closed_step driver releaser work quiet entered steps

/-- A sweep that was asked for has called nothing. -/
theorem Passage.requested : Passage s .requested [] 0 :=
  .before (Or.inl rfl) ⟨false, rfl⟩ rfl (.silent _ nofun)

/-- A sweep that has just claimed its sweeper has called nothing. -/
theorem Passage.claimed (flag : Bool) : Passage s (.claimed flag) [] 0 :=
  .before (Or.inl rfl) ⟨flag, rfl⟩ rfl (.silent _ nofun)

/-- Before its claim a sweep has called nothing. -/
theorem Passage.unclaimed (passage : Passage s sweep past issued)
    (unclaimed : sweep.driver = .unclaimed) :
    past = [] ∧ issued = 0 ∧ (∃ flag, sweep.work = .waiting flag) ∧ sweep.releaser = .absent := by
  cases passage with
  | before driver work releaser early =>
    exact ⟨early.nothing (by rw [unclaimed]; nofun) (by rw [unclaimed]; rfl), rfl, work, releaser⟩
  | during p rest place => simp [unclaimed] at place
  | left p driver => simp [unclaimed] at driver
  | issued p place => simp [unclaimed] at place
  | closed p driver => simp [unclaimed] at driver

/-- The calls of a sweep are in order in every place. -/
theorem Passage.ordered (passage : Passage s sweep past issued) : IsOrdered s past := by
  cases passage with
  | before driver work releaser early =>
    clear driver
    generalize sweep.driver = now at early
    cases early with
    | silent => exact .silent
    | free => exact .checked _
    | checked now answer halted => exact .checked answer
    | crashed text error => exact .crashed text
  | during p rest place work joined entered => exact .acquired past none entered
  | left p driver releaser work entered => exact .acquired past none entered
  | issued p place work quiet entered => exact .acquired past none entered
  | closed p driver releaser work quiet release entered => exact .acquired past release entered

/-- The deletion of the guard is issued at most once. -/
theorem Passage.once (passage : Passage s sweep past issued) : issued ≤ 1 := by
  cases passage <;> simp

/-- As long as the driver is under way there is no releaser. -/
theorem Passage.absent_of_driven (passage : Passage s sweep past issued)
    (under : Sweeper.isOver sweep.driver = false) : sweep.releaser = .absent := by
  cases passage with
  | before driver work releaser => exact releaser
  | during p rest place =>
    obtain ⟨-, absent⟩ | ⟨dropped, -⟩ := place
    · exact absent
    · rw [dropped] at under; cases under
  | left p dropped => rw [dropped] at under; cases under
  | issued p place =>
    obtain ⟨-, absent⟩ | ⟨dropped, -⟩ := place
    · exact absent
    · rw [dropped] at under; cases under
  | closed p driver =>
    rcases driver with now | ⟨_, now⟩ | ⟨_, now⟩ <;> rw [now] at under <;> cases under

/-- A releaser at work stands in for a driver that was dropped. -/
theorem Passage.dropped_of_bound (passage : Passage s sweep past issued)
    (bound : sweep.releaser.isBound = true) : sweep.driver = .dropped := by
  cases passage with
  | before driver work absent => rw [absent] at bound; cases bound
  | during p rest place =>
    obtain ⟨-, absent⟩ | ⟨dropped, -⟩ := place
    · rw [absent] at bound; cases bound
    · exact dropped
  | left p dropped => exact dropped
  | issued p place =>
    obtain ⟨-, absent⟩ | ⟨dropped, -⟩ := place
    · rw [absent] at bound; cases bound
    · exact dropped
  | closed p driver unbound => rw [unbound] at bound; cases bound

/-- A part that is no stage and waits for a deletion waits for one that was issued. -/
theorem Passage.issued_of_pending (passage : Passage s sweep past issued) {part : Part}
    {keys : List String} (outside : part.isStage = false)
    (pending : sweep.pending? s part = some (.delete keys)) : issued = 1 := by
  have busy : sweep.driver = .releasing ∨ sweep.releaser = .releasing := by
    cases waits_of_pending? pending with
    | releasing now => exact Or.inl now
    | passed now => exact Or.inr now
    | deleting => cases outside
  cases passage with
  | before driver work releaser early =>
    have unbound := unbound_of driver
    rcases busy with now | now
    · rw [now] at unbound; cases unbound
    · rw [now] at releaser; cases releaser
  | during p rest place =>
    exfalso
    rcases place with ⟨driver, releaser⟩ | ⟨driver, releaser⟩ <;> simp [driver, releaser] at busy
  | left p driver releaser => simp [driver, releaser] at busy
  | issued => rfl
  | closed => rfl

/-- A sweep with a stage at work has acquired the guard and not deleted it. -/
theorem Passage.entered_of_live (passage : Passage s sweep past issued) {p : Pipeline}
    {stage : StageName} (running : sweep.work = .running p) (live : p.isLive stage = true) :
    Acquired s none past := by
  have still (q : Pipeline) (work : sweep.work = .running q)
    (quiet : ∀ stage, q.isLive stage = false) :
      False := by
    obtain rfl := Work.running.inj (running.symm.trans work)
    exact absurd (live.symm.trans (quiet stage)) nofun
  cases passage with
  | before driver work =>
    obtain ⟨flag, waiting⟩ := work
    cases waiting.symm.trans running
  | during q rest place work joined entered => exact entered
  | left q driver releaser work entered => exact entered
  | issued q place work quiet => exact (still q work quiet).elim
  | closed q driver releaser work quiet => exact (still q work quiet).elim

/-- A sweep whose deletion of the guard waits for the store has not deleted it yet. -/
theorem Passage.entered_of_pending (passage : Passage s sweep past issued) {part : Part}
    {keys : List String} (outside : part.isStage = false)
    (pending : sweep.pending? s part = some (.delete keys)) : Acquired s none past := by
  cases passage with
  | before driver work releaser early =>
    have unbound := unbound_of driver
    cases waits_of_pending? pending with
    | releasing now => rw [now] at unbound; cases unbound
    | passed now => rw [now] at releaser; cases releaser
    | deleting => cases outside
  | during p rest place work joined entered => exact entered
  | left p driver releaser work entered => exact entered
  | issued p place work quiet entered => exact entered
  | closed p driver releaser work quiet release entered =>
    exfalso
    cases waits_of_pending? pending with
    | releasing now => simp [now] at driver
    | passed now => simp [now, Releaser.isBound] at releaser
    | deleting => cases outside

/-- A sweep that has not deleted the guard shows no deletion of the guard. -/
theorem Acquired.unreleased (entered : Acquired s none past) :
    ∀ call ∈ past, ¬ IsRelease s call := by
  obtain ⟨answer, back, stages, work, last⟩ := entered
  intro call member release
  simp only [Option.toList_none, List.append_nil, List.mem_cons] at member
  rcases member with rfl | rfl | among
  · cases release
  · cases release
  · have staged := work call among
    cases release <;> cases staged

/-- A deletion of the guard that has ended was issued. -/
theorem Passage.issued_of_released (passage : Passage s sweep past issued)
    {call : Part × StoreEvent} (member : call ∈ past)
    (release : IsRelease s call) : issued = 1 := by
  cases passage with
  | before driver work releaser early =>
    clear driver
    generalize sweep.driver = now at early
    exfalso
    cases early <;> simp only [List.mem_cons, List.not_mem_nil, or_false] at member
    · subst member; cases release
    · subst member; cases release
    · rcases member with rfl | rfl <;> cases release
  | during p rest place work joined entered => exact absurd release (entered.unreleased call member)
  | left p driver releaser work entered => exact absurd release (entered.unreleased call member)
  | issued => rfl
  | closed => rfl

/-- Before the deletion of the guard is issued the guard was found free, its write has come back,
and all stages are over. -/
theorem Passage.of_issued (passage : Passage s sweep past 1) :
    (∃ release, Acquired s release past) ∧ ∃ p, sweep.work = .running p ∧
      ∀ stage, p.isLive stage = false := by
  cases passage with
  | issued p place work quiet entered => exact ⟨⟨none, entered⟩, p, work, quiet⟩
  | closed p driver releaser work quiet release entered =>
    exact ⟨⟨release, entered⟩, p, work, quiet⟩

/-- The deletion of the guard is one of the calls. -/
theorem Acquired.release_mem {call : Part × StoreEvent} (entered : Acquired s (some call) past) :
    call ∈ past := by
  obtain ⟨answer, back, stages, work, last⟩ := entered
  exact List.mem_cons_of_mem _ (List.mem_cons_of_mem _ (List.mem_append_right _ List.mem_cons_self))

/-- A sweep that acquired the guard has found it free and got its write back. -/
theorem Acquired.marked {release : Option (Part × StoreEvent)} (entered : Acquired s release past) :
    checkCall s (.value false) ∈ past ∧ ∃ answer, returned answer = true ∧
      markCall s answer ∈ past := by
  obtain ⟨answer, back, stages, work, last⟩ := entered
  exact ⟨List.mem_cons_self, answer, back, List.mem_cons_of_mem _ List.mem_cons_self⟩

/-- A sweep that shows a call of a stage has got its write of the guard back. -/
theorem IsOrdered.marked (ordered : IsOrdered s past) {call : Part × StoreEvent}
    (member : call ∈ past) (stage : call.1.isStage = true) :
    ∃ answer, returned answer = true ∧ markCall s answer ∈ past := by
  cases ordered with
  | silent => cases member
  | checked answer =>
    obtain rfl := List.mem_singleton.mp member
    cases stage
  | crashed text =>
    simp only [List.mem_cons, List.not_mem_nil, or_false] at member
    rcases member with rfl | rfl <;> cases stage
  | acquired past release entered => exact entered.marked.2

/-- A sweep that was refused, or could not find out whether the guard is held, issues no
deletion. -/
theorem Passage.unissued_of_refused (passage : Passage s sweep past issued)
    (refused : sweep.driver = .finished .alreadyRunning ∨
      ∃ cause, sweep.driver = .finished (.guardFailed cause)) : issued = 0 := by
  cases passage with
  | before => rfl
  | during => rfl
  | left => rfl
  | issued p place =>
    exfalso
    rcases refused with driver | ⟨cause, driver⟩ <;> simp [driver] at place
  | closed p place =>
    exfalso
    rcases refused with driver | ⟨cause, driver⟩ <;> simp [driver] at place

/-- A stage that waits for an answer is at work. -/
theorem live_of_waits {part : Part} {call : StoreCall} (waits : Waits s sweep part call)
    (stage : part.isStage = true) :
    ∃ p name, sweep.work = .running p ∧ p.isLive name = true := by
  cases waits with
  | asking p running now => exact ⟨p, .scanner, running, by simp only [Pipeline.isLive, now]; rfl⟩
  | inspecting p key running now =>
    exact ⟨p, .filter, running, by simp only [Pipeline.isLive, now]; rfl⟩
  | deleting p batch waiting running now =>
    exact ⟨p, .deleter, running, by simp only [Pipeline.isLive, now]; rfl⟩
  | _ => cases stage

/-- Stages that are over wait for no answer. -/
theorem idle_of_over {p : Pipeline} (work : sweep.work = .running p)
    (quiet : ∀ stage, p.isLive stage = false) {part : Part} (stage : part.isStage = true) :
    sweep.pending? s part = none := by
  by_contra busy
  obtain ⟨call, pending⟩ := Option.ne_none_iff_exists'.mp busy
  obtain ⟨q, name, running, live⟩ := live_of_waits (waits_of_pending? pending) stage
  obtain rfl := Work.running.inj (work.symm.trans running)
  rw [quiet name] at live
  cases live

/-- The call that a part makes is one that it waited for. -/
theorem pending_of_answers {part : Part} {event : StoreEvent}
    (answers : Answers s sweep move part event) :
    sweep.pending? s part = some event.call := by
  cases answers with
  | checked answer checking => simp only [pending?, checking]; rfl
  | written answer marking => simp only [pending?, marking]; rfl
  | released answer elapsed finishedAt releasing => simp only [pending?, releasing]; rfl
  | passed answer releasing => simp only [pending?, releasing]; rfl
  | scanned answer p running asking => simp only [pending?, scannerCall?, running, asking]; rfl
  | inspected answer p key running inspecting =>
    simp only [pending?, filterCall?, running, inspecting]; rfl
  | deleted answer p batch waiting running deleting =>
    simp only [pending?, deleterCall?, running, deleting]; rfl

/-- Once the deletion of the guard is issued no stage calls anything. -/
theorem Passage.silent_of_issued (passage : Passage s sweep past 1)
    (steps : Steps s sweep move progress) {call : Part × StoreEvent}
    (member : call ∈ trail (entries move progress.effects)) :
    ¬ IsStageCall s call := by
  intro staged
  obtain ⟨-, p, work, quiet⟩ := passage.of_issued
  have pending := pending_of_answers (answers_of_entry steps (mem_trail.mp member))
  have stage : call.1.isStage = true := by cases staged <;> rfl
  rw [idle_of_over work quiet stage] at pending
  cases pending

/-- In every state that an execution from the claim on can reach, a sweep is somewhere on its
passage. -/
theorem passage_along {flag : Bool} {moves : List Move} {log : Chronicle}
    (ran : run? s (.claimed flag) moves = some (sweep, log)) :
    Passage s sweep (trail log) (moves.countP Move.issuesRelease) := by
  refine Execution.induction_along (motive := fun moves sweep log =>
    Passage s sweep (trail log) (moves.countP Move.issuesRelease)) (.claimed flag) ?_ ran
  intro moves move mid before next shown _ inductionHypothesis stepped
  obtain ⟨progress, made, rfl, rfl⟩ := recorded?_eq_some stepped
  have counted : (moves ++ [move]).countP Move.issuesRelease =
      moves.countP Move.issuesRelease + move.issuesRelease.toNat := by
    cases issues : move.issuesRelease <;> simp [issues]
  rw [trail_append, counted]
  exact inductionHypothesis.step (steps_of_step? made)

end Sweep

end KeySweeper
