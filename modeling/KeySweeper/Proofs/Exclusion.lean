import KeySweeper.Proofs.Crew

/-!
# One sweep at a time

The guard of a fleet is a key that is checked and then written, in two calls. Two sweeps that both
check before either writes would both go on. Here no check of one member falls between a check of
another member that finds the guard free and the write that follows it, no write of the guard fails,
and nobody but the sweeps stores or deletes the guard key. Then at most one sweep of the whole crew
holds the guard at any time, the key is present as long as that sweep has a stage at work, and the
calls of the stages of two sweeps never interleave.

The invariant links the key to its holder: while somebody holds the guard the key is stored without
a deadline, so that no stage ever clears it for deletion, whatever its pattern, and a sweep that
waits for its write after an undisturbed check knows that nobody holds the guard. Deletions of the
guard may go wrong, sweeps may be dropped or crash anywhere, and other clients may do anything with
the other keys.
-/

namespace KeySweeper

namespace Sweeper

variable {c next : Sweeper} {move : Move} {shown : Log}

/-- A sweep waits for its write of the guard because it did so before, or has just found the guard
free. -/
theorem marking_of_steps (steps : Steps c move next shown) {index : Nat} {after : Engagement}
    (there : next.engagements[index]? = some after) (marking : after.sweep.driver = .marking) :
    (∃ e, c.engagements[index]? = some e ∧ e.sweep.driver = .marking ∧
        ∀ answer, move ≠ .sweep index (.guardMarked answer)) ∨
      move = .sweep index (.guardChecked (.value false)) := by
  have fate := fate_of_steps steps there
  generalize chronicle index shown = added at fate
  cases before : c.engagements[index]? with
  | none =>
    rw [before] at fate
    cases fate <;> cases marking
  | some e =>
    rw [before] at fate
    cases fate with
    | spared move e elsewhere => exact Or.inl ⟨_, rfl, marking, fun answer => elsewhere _⟩
    | told move e reaches =>
      refine Or.inl ⟨e, rfl, marking, ?_⟩
      rintro answer rfl
      cases reaches
    | admitted => cases marking
    | refused => cases marking
    | gaveUp => exact Or.inl ⟨_, rfl, marking, nofun⟩
    | moved inner e progress made =>
      have steps := Sweep.steps_of_step? made
      cases steps with
      | free => exact Or.inr rfl
      | staged => exact Or.inl ⟨_, rfl, marking, nofun⟩
      | cancelled => exact Or.inl ⟨_, rfl, marking, nofun⟩
      | releaserJoined => exact Or.inl ⟨_, rfl, marking, nofun⟩
      | releaserProceeded => exact Or.inl ⟨_, rfl, marking, nofun⟩
      | releaserEnded => exact Or.inl ⟨_, rfl, marking, nofun⟩
      | _ => cases marking

end Sweeper

namespace Crew

/-- A sweep holds the guard: its write of the guard took effect, and it has not deleted the guard
since. -/
structure Holds (g : String) (h : List Call) (who : Nat × Nat) : Prop where
  written : ∃ value, ⟨who, .driver, .written g value (.value ())⟩ ∈ h
  unreleased : ∀ part answer, part.isStage = false → ⟨who, part, .deleted [g] answer⟩ ∉ h

/-- No check of the guard by another member falls between a check that finds the guard free and the
write that follows it. -/
def Undivided (g : String) (h : List Call) : Prop :=
  ∀ who early between rest value answer,
    h = early ++ ⟨who, .driver, .checked g (.value false)⟩ ::
        (between ++ ⟨who, .driver, .written g value answer⟩ :: rest) →
      ∀ call ∈ between, call.who.1 ≠ who.1 → ∀ seen, call.event ≠ .checked g seen

/-- No write of the guard fails. -/
def WritesWork (g : String) (h : List Call) : Prop :=
  ∀ call ∈ h, ∀ value cause, call.event ≠ .written g value (.failed cause)

/-- Nobody but the sweeps stores or deletes the guard key. -/
def GuardIsTheirs (g : String) (turns : List Turn) : Prop :=
  ∀ member command, (member, .others command) ∈ turns →
    (∀ written value ttl, command = .set written value ttl → written ≠ g) ∧
      ∀ keys, command = .delete keys → g ∉ keys

/-- The conditions on an execution under which the guard excludes. -/
structure Disciplined (g : String) (turns : List Turn) (h : List Call) : Prop where
  theirs : GuardIsTheirs g turns
  works : WritesWork g h
  undivided : Undivided g h

/-- What has happened so far was disciplined if everything is. -/
theorem Disciplined.of_append {g : String} {turns more : List Turn} {h later : List Call}
    (disciplined : Disciplined g (turns ++ more) (h ++ later)) : Disciplined g turns h where
  theirs member command among := disciplined.theirs member command (List.mem_append_left _ among)
  works call among := disciplined.works call (List.mem_append_left _ among)
  undivided who early between rest value answer split :=
    disciplined.undivided who early between (rest ++ later) value answer (by simp [split])

/-- A sweep has found the guard free and waits for its write. -/
def IsMarking (crew : Crew) (who : Nat × Nat) : Prop :=
  ∃ e, (crew.sweepers who.1).engagements[who.2]? = some e ∧ e.sweep.driver = .marking

/-- What the guard key, the sweeps that wait for a write and the holder have to do with each
other. -/
structure Exclusive (g : String) (crew : Crew) (h : List Call) : Prop where
  one : ∀ who other, Holds g h who → Holds g h other → who = other
  present : ∀ who, Holds g h who → ∃ value, crew.store.entries.find? g = some ⟨value, none⟩
  timeless : crew.store.Timeless g
  uncleared : ∀ call ∈ h, ∀ left, call.event ≠ .inspected g (.value (.expires left))
  marking : ∀ who, crew.IsMarking who → ∃ early later,
    h = early ++ ⟨who, .driver, .checked g (.value false)⟩ :: later ∧
      ((∀ call ∈ later, call.who.1 ≠ who.1 → ∀ seen, call.event ≠ .checked g seen) →
        ∀ other, ¬ Holds g h other)

variable {g : String} {crew next : Crew} {h : List Call} {call : Call} {who : Nat × Nat}

/-- Only a write that took effect makes a holder. -/
theorem holds_of_concat (holds : Holds g (h ++ [call]) who)
    (unwritten : ∀ value, call.event ≠ .written g value (.value ())) : Holds g h who := by
  obtain ⟨⟨value, member⟩, unreleased⟩ := holds
  constructor
  · rcases List.mem_append.mp member with earlier | now
    · exact ⟨value, earlier⟩
    · obtain rfl := List.mem_singleton.mp now
      exact absurd rfl (unwritten value)
  · intro part answer outside earlier
    exact unreleased part answer outside (List.mem_append_left _ earlier)

/-- Of two places in a list one comes first. -/
theorem first_of_two {x y : Call} {early later early' later' : List Call}
    (same : early ++ x :: later = early' ++ y :: later') : x = y ∨ y ∈ later ∨ x ∈ later' := by
  rcases List.append_eq_append_iff.mp same with ⟨middle, -, split⟩ | ⟨middle, -, split⟩
  · cases middle with
    | nil => exact Or.inl (List.cons.inj split).1
    | cons head rest =>
      obtain ⟨-, rfl⟩ := List.cons.inj split
      exact Or.inr (Or.inl (by simp))
  · cases middle with
    | nil => exact Or.inl (List.cons.inj split).1.symm
    | cons head rest =>
      obtain ⟨-, rfl⟩ := List.cons.inj split
      exact Or.inr (Or.inr (by simp))

/-- A turn that completes no call and does not touch the guard key keeps everything as it is. -/
theorem Exclusive.still (exclusive : Exclusive g crew h)
    (same : next.store.entries.find? g = crew.store.entries.find? g)
    (passes : crew.store.now ≤ next.store.now)
    (marking : ∀ who, next.IsMarking who → crew.IsMarking who) : Exclusive g next h where
  one := exclusive.one
  present := by rw [same]; exact exclusive.present
  timeless := fun entry moment found deadline =>
    Nat.le_trans (exclusive.timeless entry moment (same ▸ found) deadline) passes
  uncleared := exclusive.uncleared
  marking := fun who waits => exclusive.marking who (marking who waits)

/-- A sweep that waited for its write before another call waits for it after the call. -/
theorem Exclusive.marking_concat (exclusive : Exclusive g crew h) (waits : crew.IsMarking who)
    (fewer : ∀ other, Holds g (h ++ [call]) other → Holds g h other) : ∃ early later,
      h ++ [call] = early ++ ⟨who, .driver, .checked g (.value false)⟩ :: later ∧
        ((∀ call ∈ later, call.who.1 ≠ who.1 → ∀ seen, call.event ≠ .checked g seen) →
          ∀ other, ¬ Holds g (h ++ [call]) other) := by
  obtain ⟨early, later, split, free⟩ := exclusive.marking who waits
  refine ⟨early, later ++ [call], by simp [split], ?_⟩
  intro undisturbed other holds
  exact free (fun call member => undisturbed call (List.mem_append_left _ member)) other
    (fewer other holds)

/-- A call that neither writes nor deletes the guard key keeps its holder. A check that finds the
guard free shows that there is none. -/
theorem Exclusive.passed (exclusive : Exclusive g crew h)
    (same : next.store.entries.find? g = crew.store.entries.find? g)
    (passes : crew.store.now ≤ next.store.now)
    (unwritten : ∀ value, call.event ≠ .written g value (.value ()))
    (unexpiring : ∀ left, call.event ≠ .inspected g (.value (.expires left)))
    (marking : ∀ who, next.IsMarking who → crew.IsMarking who ∨
      call = ⟨who, .driver, .checked g (.value false)⟩ ∧ crew.store.contains g = false) :
    Exclusive g next (h ++ [call]) := by
  have fewer (other : Nat × Nat) (holds : Holds g (h ++ [call]) other) : Holds g h other :=
    holds_of_concat holds unwritten
  refine ⟨?_, ?_, ?_, ?_, ?_⟩
  · intro who other holds too
    exact exclusive.one who other (fewer who holds) (fewer other too)
  · intro who holds
    rw [same]
    exact exclusive.present who (fewer who holds)
  · intro entry moment found deadline
    exact Nat.le_trans (exclusive.timeless entry moment (same ▸ found) deadline) passes
  · intro other member
    rcases List.mem_append.mp member with earlier | now
    · exact exclusive.uncleared other earlier
    · obtain rfl := List.mem_singleton.mp now
      exact unexpiring
  · intro who waits
    rcases marking who waits with before | ⟨rfl, free⟩
    · exact exclusive.marking_concat before fewer
    · refine ⟨h, [], rfl, ?_⟩
      intro _ other holds
      obtain ⟨value, stored⟩ := exclusive.present other (fewer other holds)
      rw [Store.contains_of_persistent stored] at free
      cases free

/-- The holder deletes the guard, and nobody holds it afterwards, whether or not the call worked. -/
theorem Exclusive.released (exclusive : Exclusive g crew h) (holder : Holds g h call.who)
    (outside : call.part.isStage = false) {answer : Answer Nat}
    (release : call.event = .deleted [g] answer) (timeless : next.store.Timeless g)
    (marking : ∀ who, next.IsMarking who → crew.IsMarking who) :
    Exclusive g next (h ++ [call]) := by
  have nobody (other : Nat × Nat) : ¬ Holds g (h ++ [call]) other := by
    intro holds
    have before := holds_of_concat holds (by rw [release]; exact nofun)
    obtain rfl := exclusive.one _ _ holder before
    refine holds.unreleased call.part answer outside ?_
    rw [← release]
    exact List.mem_append_right _ (List.mem_singleton_self _)
  refine ⟨?_, ?_, timeless, ?_, ?_⟩
  · intro who other holds
    exact absurd holds (nobody who)
  · intro who holds
    exact absurd holds (nobody who)
  · intro other member
    rcases List.mem_append.mp member with earlier | now
    · exact exclusive.uncleared other earlier
    · obtain rfl := List.mem_singleton.mp now
      rw [release]
      exact nofun
  · intro who waits
    exact exclusive.marking_concat (marking who waits) fun other holds =>
      absurd holds (nobody other)

/-- A sweep writes the guard, and from then on it is the only holder. Its check was undisturbed, so
nobody held the guard before, and no other sweep that waits for its write has an undisturbed
check. -/
theorem Exclusive.wrote (exclusive : Exclusive g crew h) (waits : crew.IsMarking who)
    {value : String} (undivided : Undivided g (h ++ [⟨who, .driver, .written g value (.value ())⟩]))
    (alone : ∀ other, crew.IsMarking other → other.1 = who.1 → other = who)
    (stored : next.store.entries.find? g = some ⟨value, none⟩)
    (marking : ∀ other, next.IsMarking other → other ≠ who ∧ crew.IsMarking other) :
    Exclusive g next (h ++ [⟨who, .driver, .written g value (.value ())⟩]) := by
  obtain ⟨early, later, split, free⟩ := exclusive.marking who waits
  have undisturbed : ∀ call ∈ later, call.who.1 ≠ who.1 → ∀ seen, call.event ≠ .checked g seen :=
    undivided who early later [] value (.value ()) (by simp [split])
  have nobody := free undisturbed
  have only (other : Nat × Nat)
      (holds : Holds g (h ++ [⟨who, .driver, .written g value (.value ())⟩]) other) :
      other = who := by
    by_contra different
    obtain ⟨⟨written, member⟩, unreleased⟩ := holds
    rcases List.mem_append.mp member with earlier | now
    · refine nobody other ⟨⟨written, earlier⟩, ?_⟩
      intro part answer outside before
      exact unreleased part answer outside (List.mem_append_left _ before)
    · exact different (Call.mk.inj (List.mem_singleton.mp now)).1
  refine ⟨?_, ?_, ?_, ?_, ?_⟩
  · intro one other holds too
    rw [only one holds, only other too]
  · intro other _
    exact ⟨value, stored⟩
  · intro entry moment found deadline
    rw [stored] at found
    obtain rfl := Option.some.inj found
    cases deadline
  · intro other member
    rcases List.mem_append.mp member with earlier | now
    · exact exclusive.uncleared other earlier
    · obtain rfl := List.mem_singleton.mp now
      exact nofun
  · intro other still
    obtain ⟨different, before⟩ := marking other still
    obtain ⟨first, after, place, -⟩ := exclusive.marking other before
    refine ⟨first, after ++ [⟨who, .driver, .written g value (.value ())⟩], by simp [place], ?_⟩
    intro clean
    exfalso
    have apart : other.1 ≠ who.1 := fun same => different (alone other before same)
    rcases first_of_two (split.symm.trans place) with same | behind | behind
    · exact different (Call.mk.inj same).1.symm
    · exact undisturbed _ behind apart _ rfl
    · exact clean _ (List.mem_append_left _ behind) (Ne.symm apart) _ rfl

/-- Whether a sweep waits for its write after a turn of a member is decided by the member's move. -/
theorem isMarking_withView {member : Nat} {w : Workplace} {move : Sweeper.Move}
    {shown : Sweeper.Log} (steps : Sweeper.Steps (crew.sweepers member) move w.sweeper shown)
    (waits : (crew.withView member w).IsMarking who) :
    (crew.IsMarking who ∧
        ∀ answer, who.1 = member → move ≠ .sweep who.2 (.guardMarked answer)) ∨
      who.1 = member ∧ move = .sweep who.2 (.guardChecked (.value false)) := by
  obtain ⟨e, present, marking⟩ := waits
  by_cases same : who.1 = member
  · rw [same, withView_self] at present
    rcases Sweeper.marking_of_steps steps present marking with ⟨f, before, waited, other⟩ | checked
    · exact Or.inl ⟨⟨f, by rwa [same], waited⟩, fun answer _ => other answer⟩
    · exact Or.inr ⟨same, checked⟩
  · rw [withView_other crew w same] at present
    exact Or.inl ⟨⟨e, present, marking⟩, fun answer equal => absurd equal same⟩

section Along

variable {settings : Nat → Settings} {store : Store} {turns : List Turn} {log : Log}

/-- A sweep that has acquired the guard and not deleted it holds the guard, where no write fails. -/
theorem holds_of_acquired {member index : Nat} (shared : (settings member).guardKey = g)
    (works : WritesWork g (calls log))
    (entered : Sweep.Acquired (settings member) none (Sweeper.trail index (share member log))) :
    Holds g (calls log) (member, index) := by
  have unreleased := entered.unreleased
  obtain ⟨-, answer, back, marked⟩ := entered.marked
  subst shared
  have written := mem_trail_share.mp marked
  constructor
  · cases answer with
    | value done => exact ⟨_, written⟩
    | failed cause => exact absurd rfl (works _ written _ cause)
    | crashed text => cases back
  · intro part removed outside deleted
    apply unreleased _ (mem_trail_share.mpr deleted)
    cases part with
    | driver => exact .own removed
    | releaser => exact .passed removed
    | _ => cases outside

/-- The guard key is in no batch that a sweep is about to delete. -/
theorem unguarded_of_pending (exclusive : Exclusive g crew (calls log))
    (ran : run? (opened settings store) turns = some (crew, log)) {member index : Nat}
    {e : Engagement} (present : (crew.sweepers member).engagements[index]? = some e)
    {batch : List String}
    (pending : e.sweep.pending? (crew.sweepers member).settings .deleter = some (.delete batch)) :
    g ∉ batch := by
  intro among
  obtain ⟨call, made, left, same⟩ := inspected_of_pending ran present pending among
  exact exclusive.uncleared call made left same

/-- Deletions that leave the guard key out leave its entry alone. -/
theorem find?_of_deletion {w : Workplace} {index : Nat} {part : Sweep.Part} {mishap : Option Mishap}
    {keys : List String} (spared : g ∉ keys) :
    (w.carried index part mishap (.delete keys)).store.entries.find? g =
      w.store.entries.find? g := by
  rw [(Workplace.carried_delete ..).2.1]
  split
  · rw [Keyspace.find?_eraseAll, if_neg spared]
  · rfl

/-- A deletion of the guard leaves nothing with a deadline under its key. -/
theorem timeless_of_release {w : Workplace} {index : Nat} {part : Sweep.Part}
    {mishap : Option Mishap} (timeless : w.store.Timeless g) :
    (w.carried index part mishap (.delete [g])).store.Timeless g := by
  rw [(Workplace.carried_delete ..).2.1]
  split
  · intro entry moment found
    rw [Keyspace.find?_eraseAll, if_pos List.mem_cons_self] at found
    cases found
  · exact timeless

/-- Whether a sweep waits for its write after the move of a sweep. -/
theorem isMarking_of_sweep {member index : Nat} {w : Workplace} {inner : Sweep.Move}
    {shown : Sweeper.Log}
    (steps : Sweeper.Steps (crew.sweepers member) (.sweep index inner) w.sweeper shown)
    (waits : (crew.withView member w).IsMarking who) :
    (crew.IsMarking who ∧ ∀ answer, who = (member, index) → inner ≠ .guardMarked answer) ∨
      who = (member, index) ∧ inner = .guardChecked (.value false) := by
  rcases isMarking_withView steps waits with ⟨before, other⟩ | ⟨rfl, checked⟩
  · refine Or.inl ⟨before, ?_⟩
    rintro answer rfl rfl
    exact other answer rfl rfl
  · obtain ⟨rfl, rfl⟩ := Sweeper.Move.sweep.inj checked
    exact Or.inr ⟨rfl, rfl⟩

/-- A write of the guard keeps the guard exclusive: it makes its sweep the holder, or it crashes and
changes nothing. -/
theorem Exclusive.marked {member index : Nat} {mishap : Option Mishap} {e : Engagement}
    (exclusive : Exclusive g crew (calls log))
    (ran : run? (opened settings store) turns = some (crew, log))
    (present : (crew.sweepers member).engagements[index]? = some e)
    (now : e.sweep.driver = .marking)
    (stored : next.store =
      ((crew.view member).carried index .driver mishap (.write g Guard.mark)).store)
    (passes : crew.store.now ≤ next.store.now)
    (before : ∀ who, next.IsMarking who → crew.IsMarking who)
    (leaves : ∀ answer,
      ((crew.view member).carried index .driver mishap (.write g Guard.mark)).move =
        .guardMarked answer → ¬ next.IsMarking (member, index))
    (works : WritesWork g (calls log ++
      [⟨(member, index), .driver, (crew.view member).event index mishap (.write g Guard.mark)⟩]))
    (undivided : Undivided g (calls log ++
      [⟨(member, index), .driver, (crew.view member).event index mishap (.write g Guard.mark)⟩])) :
    Exclusive g next (calls log ++
      [⟨(member, index), .driver,
        (crew.view member).event index mishap (.write g Guard.mark)⟩]) := by
  have writing : crew.IsMarking (member, index) := ⟨e, present, now⟩
  match mishap with
  | none =>
    refine exclusive.wrote writing undivided ?_ ?_ ?_
    · rintro ⟨_, other⟩ ⟨f, there, too⟩ rfl
      exact Prod.ext rfl (alone_along ran there present (by rw [too]; rfl) (by rw [now]; rfl))
    · rw [stored, (Workplace.carried_write ..).2.1, if_pos rfl, Keyspace.find?_insert, if_pos rfl]
    · intro other still
      refine ⟨?_, before other still⟩
      rintro rfl
      exact leaves _ (Workplace.carried_write ..).1 still
  | some (.fail cause) =>
    exact absurd rfl (works _ (List.mem_append_right _ (List.mem_singleton_self _))
      Guard.mark cause)
  | some (.crash text) =>
    refine exclusive.passed ?_ passes ?_ nofun (fun who still => Or.inl (before who still))
    · rw [stored, (Workplace.carried_write ..).2.1]
      rfl
    · intro value same
      cases (StoreEvent.written.inj same).2.2

/-- The call of a sweep keeps the guard exclusive. The cases are the calls that a sweep can wait
for. -/
theorem Exclusive.called {member index : Nat} {part : Sweep.Part} {mishap : Option Mishap}
    {e : Engagement} {pending : StoreCall} (exclusive : Exclusive g crew (calls log))
    (shared : ∀ member, (settings member).guardKey = g)
    (ran : run? (opened settings store) turns = some (crew, log))
    (present : (crew.sweepers member).engagements[index]? = some e)
    (call : e.sweep.pending? (crew.sweepers member).settings part = some pending)
    (stored : next.store = ((crew.view member).carried index part mishap pending).store)
    (waiting : ∀ who, next.IsMarking who →
      (crew.IsMarking who ∧ ∀ answer, who = (member, index) →
          ((crew.view member).carried index part mishap pending).move ≠ .guardMarked answer) ∨
        who = (member, index) ∧
          ((crew.view member).carried index part mishap pending).move =
            .guardChecked (.value false))
    (works : WritesWork g
      (calls log ++ [⟨(member, index), part, (crew.view member).event index mishap pending⟩]))
    (undivided : Undivided g
      (calls log ++ [⟨(member, index), part, (crew.view member).event index mishap pending⟩])) :
    Exclusive g next
      (calls log ++ [⟨(member, index), part, (crew.view member).event index mishap pending⟩]) := by
  have told : (crew.sweepers member).settings.guardKey = g := by
    rw [settings_along ran member, shared]
  have passes : crew.store.now ≤ next.store.now := by
    rw [stored, Workplace.now_carried]
    exact Nat.le_refl _
  have worksBefore : WritesWork g (calls log) := fun call among =>
    works call (List.mem_append_left _ among)
  have holder (outside : part.isStage = false) (keys : List String)
    (deletes : pending = .delete keys) :
      Holds g (calls log) (member, index) := by
    obtain ⟨issued, passage⟩ := passage_along ran present
    rw [settings_along ran member, deletes] at call
    exact holds_of_acquired (shared member) worksBefore (passage.entered_of_pending outside call)
  have before (unchecked : ((crew.view member).carried index part mishap pending).move ≠
      .guardChecked (.value false)) (who : Nat × Nat) (still : next.IsMarking who) :
      crew.IsMarking who := by
    rcases waiting who still with ⟨waited, -⟩ | ⟨-, checked⟩
    · exact waited
    · exact absurd checked unchecked
  subst told
  cases Sweep.waits_of_pending? call with
  | checking now =>
    refine exclusive.passed ?_ passes nofun nofun ?_
    · rw [stored, (Workplace.carried_check ..).2.1]
      rfl
    · intro who still
      rcases waiting who still with ⟨waited, -⟩ | ⟨rfl, checked⟩
      · exact Or.inl waited
      · rw [(Workplace.carried_check ..).1] at checked
        have answered := Sweep.Move.guardChecked.inj checked
        refine Or.inr ⟨?_, (Mishap.of_answer_value answered).2⟩
        simp only [Workplace.event, answered]
  | marking now =>
    have written := (Workplace.carried_write (crew.view member) index .driver mishap
      (crew.sweepers member).settings.guardKey Guard.mark).1
    refine exclusive.marked ran present now stored passes
      (before (by rw [written]; exact nofun)) ?_ works
      undivided
    intro answer marks still
    rcases waiting _ still with ⟨-, unmarked⟩ | ⟨-, checked⟩
    · exact unmarked answer rfl marks
    · rw [marks] at checked
      cases checked
  | releasing now =>
    refine exclusive.released (holder rfl _ rfl) rfl rfl ?_ (before ?_)
    · rw [stored]
      exact timeless_of_release exclusive.timeless
    · rw [(Workplace.carried_delete ..).1]
      exact nofun
  | passed now =>
    refine exclusive.released (holder rfl _ rfl) rfl rfl ?_ (before ?_)
    · rw [stored]
      exact timeless_of_release exclusive.timeless
    · rw [(Workplace.carried_delete ..).1]
      exact nofun
  | asking p running now =>
    refine exclusive.passed ?_ passes nofun nofun ?_
    · rw [stored, (Workplace.carried_scan ..).2.1]
      rfl
    · exact fun who still =>
        Or.inl (before (by rw [(Workplace.carried_scan ..).1]; exact nofun) who still)
  | inspecting p key running now =>
    refine exclusive.passed ?_ passes nofun ?_ ?_
    · rw [stored, (Workplace.carried_inspect ..).2.1]
      rfl
    · intro left same
      obtain ⟨rfl, answered⟩ := StoreEvent.inspected.inj same
      exact exclusive.timeless.ttl_ne left (Mishap.of_answer_value answered).2
    · exact fun who still =>
        Or.inl (before (by rw [(Workplace.carried_inspect ..).1]; exact nofun) who still)
  | deleting p batch waiting running now =>
    refine exclusive.passed ?_ passes nofun nofun ?_
    · rw [stored, find?_of_deletion (unguarded_of_pending exclusive ran present call)]
      rfl
    · exact fun who still =>
        Or.inl (before (by rw [(Workplace.carried_delete ..).1]; exact nofun) who still)

/-- In every state of a disciplined execution the guard is exclusive. -/
theorem exclusive_along (shared : ∀ member, (settings member).guardKey = g)
    (absent : store.contains g = false) (disciplined : Disciplined g turns (calls log))
    (ran : run? (opened settings store) turns = some (crew, log)) :
    Exclusive g crew (calls log) := by
  refine Execution.induction_along (motive := fun turns crew log =>
    Disciplined g turns (calls log) → Exclusive g crew (calls log)) ?_ ?_ ran disciplined
  · rintro -
    refine ⟨?_, ?_, Store.timeless_of_absent absent, List.forall_mem_nil _, ?_⟩
    · rintro who other ⟨⟨value, impossible⟩, -⟩
      cases impossible
    · rintro who ⟨⟨value, impossible⟩, -⟩
      cases impossible
    · rintro who ⟨e, impossible, -⟩
      simp [opened, Sweeper.ofSettings] at impossible
  · intro turns turn mid before next shown reached inductionHypothesis stepped disciplined
    rw [calls_append] at disciplined ⊢
    have exclusive := inductionHypothesis disciplined.of_append
    have steps := turns_of_step? stepped
    generalize calls shown = made at steps disciplined ⊢
    cases steps with
    | own member move silent sweeper entries steps =>
      rw [List.append_nil]
      refine exclusive.still rfl (Nat.le_refl _) ?_
      intro who waits
      rcases isMarking_withView steps waits with ⟨before, -⟩ | ⟨-, rfl⟩
      · exact before
      · cases silent
    | others member command =>
      rw [List.append_nil]
      obtain ⟨unset, undeleted⟩ := disciplined.theirs member command
        (List.mem_append_right _ (List.mem_singleton_self _))
      obtain ⟨same, passes⟩ : _ ∧ mid.store.now ≤ _ := Store.find?_of_run unset undeleted
      refine exclusive.still same passes ?_
      rintro who ⟨e, present, marking⟩
      refine ⟨e, ?_, marking⟩
      by_cases mine : who.1 = member
      · rwa [mine, withView_self, ← mine] at present
      · rwa [withView_other mid _ mine] at present
    | called member index part mishap e call sweeper entries present pending steps =>
      exact exclusive.called shared reached present pending rfl
        (fun who => isMarking_of_sweep steps) disciplined.works disciplined.undivided

/-- A sweep has deleted the guard. -/
def Released (g : String) (h : List Call) (who : Nat × Nat) : Prop :=
  ∃ part answer, part.isStage = false ∧ ⟨who, part, .deleted [g] answer⟩ ∈ h

/-- The calls of the stages of different sweeps do not interleave. A sweep whose stages have called
something before a stage of another sweep did has deleted the guard. -/
structure Apart (g : String) (h : List Call) : Prop where
  parted : ∀ x y, [x, y].Sublist h → x.part.isStage = true → y.part.isStage = true → x.who ≠ y.who →
    Released g h x.who
  contiguous : ∀ x y z, [x, y, z].Sublist h → x.part.isStage = true → y.part.isStage = true →
    z.part.isStage = true → x.who = z.who → y.who = x.who

/-- A sequence that ends in a list with one more call ended before, or ends with that call. -/
theorem sublist_concat {items : List Call} {last : Call}
    (sub : (items ++ [last]).Sublist (h ++ [call])) :
    (items ++ [last]).Sublist h ∨ last = call ∧ items.Sublist h := by
  have turned := List.reverse_sublist.mpr sub
  simp only [List.reverse_append, List.reverse_singleton, List.singleton_append] at turned
  rcases List.sublist_cons_iff.mp turned with before | ⟨rest, same, behind⟩
  · left
    rw [← List.reverse_sublist]
    simpa using before
  · obtain ⟨rfl, rfl⟩ := List.cons.inj same
    exact Or.inr ⟨rfl, List.reverse_sublist.mp behind⟩

/-- A call that no stage makes keeps stages apart. -/
theorem Apart.outside (apart : Apart g h) (outside : call.part.isStage = false) :
    Apart g (h ++ [call]) := by
  have earlier {items : List Call} {last : Call} (sub : (items ++ [last]).Sublist (h ++ [call]))
      (stage : last.part.isStage = true) : (items ++ [last]).Sublist h := by
    rcases sublist_concat sub with before | ⟨rfl, -⟩
    · exact before
    · rw [outside] at stage
      cases stage
  constructor
  · intro x y sub first second different
    have before : [x, y].Sublist h := earlier (show ([x] ++ [y]).Sublist _ from sub) second
    obtain ⟨part, answer, guard, member⟩ := apart.parted x y before first second different
    exact ⟨part, answer, guard, List.mem_append_left _ member⟩
  · intro x y z sub first second third same
    have before : [x, y, z].Sublist h := earlier (show ([x, y] ++ [z]).Sublist _ from sub) third
    exact apart.contiguous x y z before first second third same

/-- A stage that calls something works for the holder of the guard, so that all sweeps whose stages
have called something before have deleted the guard. -/
theorem Apart.staged (apart : Apart g h) (holder : Holds g h call.who)
    (others : ∀ x ∈ h, x.part.isStage = true → x.who = call.who ∨ Released g h x.who) :
    Apart g (h ++ [call]) := by
  have later {who : Nat × Nat} (released : Released g h who) : Released g (h ++ [call]) who := by
    obtain ⟨part, answer, guard, member⟩ := released
    exact ⟨part, answer, guard, List.mem_append_left _ member⟩
  have unreleased : ¬ Released g h call.who := by
    rintro ⟨part, answer, guard, member⟩
    exact holder.unreleased part answer guard member
  constructor
  · intro x y sub first second different
    rcases sublist_concat (show ([x] ++ [y]).Sublist _ from sub) with before | ⟨rfl, before⟩
    · exact later (apart.parted x y before first second different)
    · rcases others x (List.singleton_sublist.mp before) first with same | released
      · exact absurd same different
      · exact later released
  · intro x y z sub first second third same
    rcases sublist_concat (show ([x, y] ++ [z]).Sublist _ from sub) with before | ⟨rfl, before⟩
    · exact apart.contiguous x y z before first second third same
    · by_contra different
      exact unreleased (same ▸ apart.parted x y before first second (Ne.symm different))

/-- A sweep whose stages have called something had its write of the guard take effect. -/
theorem written_of_stageCall (shared : ∀ member, (settings member).guardKey = g)
    (works : WritesWork g (calls log)) (ran : run? (opened settings store) turns = some (crew, log))
    (made : call ∈ calls log) (stage : call.part.isStage = true) :
    ∃ value, ⟨call.who, .driver, .written g value (.value ())⟩ ∈ calls log := by
  obtain ⟨e, present⟩ := engagement_of_call ran made
  obtain ⟨issued, passage⟩ := passage_along ran present
  obtain ⟨answer, back, marked⟩ := passage.ordered.marked (mem_trail_share.mpr made) stage
  have written := mem_trail_share.mp marked
  rw [shared] at written
  cases answer with
  | value done => exact ⟨_, written⟩
  | failed cause => exact absurd rfl (works _ written _ cause)
  | crashed text => cases back

/-- A sweep with a stage at work holds the guard. -/
theorem holds_of_live (shared : ∀ member, (settings member).guardKey = g)
    (works : WritesWork g (calls log)) (ran : run? (opened settings store) turns = some (crew, log))
    {member index : Nat} {e : Engagement} {p : Pipeline} {stage : StageName}
    (present : (crew.sweepers member).engagements[index]? = some e)
    (running : e.sweep.work = .running p) (live : p.isLive stage = true) :
    Holds g (calls log) (member, index) := by
  obtain ⟨issued, passage⟩ := passage_along ran present
  exact holds_of_acquired (shared member) works (passage.entered_of_live running live)

/-- In a disciplined execution the stages of different sweeps are kept apart. -/
theorem apart_along (shared : ∀ member, (settings member).guardKey = g)
    (absent : store.contains g = false) (disciplined : Disciplined g turns (calls log))
    (ran : run? (opened settings store) turns = some (crew, log)) : Apart g (calls log) := by
  refine Execution.induction_along (motive := fun turns _ log =>
    Disciplined g turns (calls log) → Apart g (calls log)) ?_ ?_ ran disciplined
  · rintro -
    constructor
    · intro x y impossible
      cases impossible
    · intro x y z impossible
      cases impossible
  · intro turns turn mid before next shown reached inductionHypothesis stepped disciplined
    rw [calls_append] at disciplined ⊢
    have earlier := disciplined.of_append
    have apart := inductionHypothesis earlier
    have exclusive := exclusive_along shared absent earlier reached
    have steps := turns_of_step? stepped
    generalize calls shown = made at steps disciplined ⊢
    cases steps with
    | own member move silent sweeper entries steps => rwa [List.append_nil]
    | others member command => rwa [List.append_nil]
    | called member index part mishap e call sweeper entries present pending steps =>
      cases outside : part.isStage with
      | false => exact apart.outside outside
      | true =>
        obtain ⟨p, name, running, live⟩ :=
          Sweep.live_of_waits (Sweep.waits_of_pending? pending) outside
        have holder := holds_of_live shared earlier.works reached present running live
        refine apart.staged holder ?_
        intro x made stage
        by_cases released : Released g (calls before) x.who
        · exact Or.inr released
        · have written := written_of_stageCall shared earlier.works reached made stage
          have holds : Holds g (calls before) x.who := ⟨written, fun part answer guard member =>
            released ⟨part, answer, guard, member⟩⟩
          exact Or.inl (exclusive.one _ _ holds holder)

/-- One sweep at a time. Take any number of sweepers with settings of their own that share a store
and a guard key, and any execution from a state in which the key is not found: their sweeps,
requests to stop, failures and crashes of stages and of guard calls, refused and dropped sweeps come
in any order, and other clients do anything with other keys. If no write of the guard fails and no
check of one member falls between a check of another that finds the guard free and the write that
follows it, then at every moment

* at most one sweep of all members is between its write of the guard and its deletion of the guard;
* a sweep with a stage at work is that sweep, and the guard key is found in the store;
* no call of a stage of one sweep falls between two calls of stages of another. -/
theorem guard_excludes (settings : Nat → Settings) (g : String)
    (shared : ∀ member, (settings member).guardKey = g) (store : Store)
    (absent : store.contains g = false) (turns : List Turn) (crew : Crew) (log : Log)
    (ran : run? (opened settings store) turns = some (crew, log)) (theirs : GuardIsTheirs g turns)
    (works : WritesWork g (calls log)) (undivided : Undivided g (calls log)) :
    (∀ who other, Holds g (calls log) who → Holds g (calls log) other → who = other) ∧
      (∀ (member index : Nat) (e : Engagement) (p : Pipeline) (stage : StageName),
        (crew.sweepers member).engagements[index]? = some e → e.sweep.work = .running p →
          p.isLive stage = true →
            Holds g (calls log) (member, index) ∧ crew.store.contains g = true) ∧
      ∀ x y z, [x, y, z].Sublist (calls log) → x.part.isStage = true → y.part.isStage = true →
        z.part.isStage = true → x.who = z.who → y.who = x.who := by
  have disciplined : Disciplined g turns (calls log) := ⟨theirs, works, undivided⟩
  have exclusive := exclusive_along shared absent disciplined ran
  refine ⟨exclusive.one, ?_, (apart_along shared absent disciplined ran).contiguous⟩
  intro member index e p stage present running live
  have holder := holds_of_live shared works ran present running live
  obtain ⟨value, stored⟩ := exclusive.present _ holder
  exact ⟨holder, Store.contains_of_persistent stored⟩

end Along

open Workplace (smallSettings smallStore acquisition)

/-- The turns of a member that acquires the guard, of another one that finds it held, and of the
scan of the first. -/
def contended : List Turn :=
  ((acquisition 0).map fun turn => (0, turn)) ++
    [(1, .own .start), (1, .own (.sweep 0 .begin)), (1, .call 0 .driver none),
      (0, .call 0 .scanner none)]

/-- The calls of these turns. -/
def contendedCalls : List Call :=
  [⟨(0, 0), .driver, .checked smallSettings.guardKey (.value false)⟩,
    ⟨(0, 0), .driver, .written smallSettings.guardKey Guard.mark (.value ())⟩,
    ⟨(1, 0), .driver, .checked smallSettings.guardKey (.value true)⟩,
    ⟨(0, 0), .scanner, .scanned "a*" (.value (some "a"))⟩]

/-- The one write of the guard among these calls follows its check at once. -/
theorem undivided_contendedCalls : Undivided smallSettings.guardKey contendedCalls := by
  intro who early between rest value answer split call member
  rcases early with _ | ⟨first, _ | ⟨second, _ | ⟨third, _ | ⟨fourth, early⟩⟩⟩⟩ <;>
    simp [contendedCalls] at split
  rcases between with _ | ⟨first, _ | ⟨second, _ | ⟨third, between⟩⟩⟩ <;> simp at split member

/-- The first of two members holds the guard while its stages work, and the other one is refused. -/
theorem guard_excludes_contended : ∃ crew log,
    run? (opened (fun _ => smallSettings) smallStore) contended = some (crew, log) ∧
      (crew.sweepers 1).outcome? 0 = some .alreadyRunning ∧
      crew.store.contains smallSettings.guardKey = true ∧
      Holds smallSettings.guardKey (calls log) (0, 0) ∧
      ∀ who, Holds smallSettings.guardKey (calls log) who → who = (0, 0) := by
  have seen : ((run? (opened (fun _ => smallSettings) smallStore) contended).map fun reached =>
      (calls reached.2, (reached.1.sweepers 1).outcome? 0,
        ((reached.1.sweepers 0).engagements[0]?).map fun e => e.sweep.work)) =
      some (contendedCalls, some .alreadyRunning, some (.running
        { Pipeline.fresh ⟨false, 0⟩ with scanner := .offering "a" })) := by decide +kernel
  obtain ⟨⟨crew, log⟩, ran, same⟩ := Option.map_eq_some_iff.mp seen
  simp only [Prod.mk.injEq] at same
  obtain ⟨shown, refused, working⟩ := same
  obtain ⟨e, present, running⟩ := Option.map_eq_some_iff.mp working
  have theirs : GuardIsTheirs smallSettings.guardKey contended := by
    intro member command among
    simp [contended, acquisition] at among
  have works : WritesWork smallSettings.guardKey (calls log) := by
    rw [shown]
    simp [WritesWork, contendedCalls]
  have undivided : Undivided smallSettings.guardKey (calls log) := by
    rw [shown]
    exact undivided_contendedCalls
  obtain ⟨one, guarded, -⟩ := guard_excludes (fun _ => smallSettings) smallSettings.guardKey
    (fun _ => rfl) smallStore (by decide +kernel) contended crew log ran theirs works undivided
  obtain ⟨holds, found⟩ := guarded 0 0 e _ .scanner present running rfl
  exact ⟨crew, log, ran, refused, found, holds, fun who other => one who (0, 0) other holds⟩

end Crew

end KeySweeper
