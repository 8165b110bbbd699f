import KeySweeper.Proofs.Engagements

/-!
# Whose the slot is

The slot of a sweeper shows a sweep under way exactly as long as somebody holds the claim that it
counted last. A sweep that has claimed and is not over holds that claim, so at most one sweep of a
sweeper is engaged at any moment, and it is the one that the slot speaks of. Claims of older sweeps
that are given up late do no harm. When all claims were given up the slot is free for the next
sweep.
-/

namespace KeySweeper

/-- Whether a driving task has claimed its sweeper and is not over. -/
def Driver.isEngaged : Driver → Bool
  | .claimed => true
  | .checking => true
  | .marking => true
  | .joining _ => true
  | .releasing => true
  | _ => false

namespace Sweep

variable {s : Settings} {sweep : Sweep} {move : Move} {progress : Progress}

/-- No step of a sweep claims the sweeper. -/
theorem engaged_of_step (steps : Steps s sweep move progress)
    (engaged : progress.sweep.driver.isEngaged = true) : sweep.driver.isEngaged = true := by
  cases steps with
  | begun now => rw [now]; rfl
  | free now => rw [now]; rfl
  | acquired now answer back => rw [now]; rfl
  | joined stage rest now ended => rw [now]; rfl
  | proceeded now => rw [now]; rfl
  | staged stageMove p after effects running stepped => exact engaged
  | cancelled => exact engaged
  | releaserJoined stage rest now ended => exact engaged
  | releaserProceeded now => exact engaged
  | releaserEnded now answer => exact engaged
  | _ => cases engaged

/-- Only an engaged sweep announces anything. It announces that it goes on as long as it is engaged,
and that it is over when it ends. -/
theorem announced_of_step (steps : Steps s sweep move progress) {change : SlotChange}
    (announced : progress.slot = some change) : sweep.driver.isEngaged = true ∧
      ((change = .enter ∨ change = .drain) ∨
        progress.sweep.driver.isEngaged = false ∧
          (change = .rest ∨ ∃ report, change = .complete report)) := by
  cases steps with
  | held now =>
    obtain rfl := Option.some.inj announced
    exact ⟨by rw [now]; rfl, Or.inr ⟨rfl, Or.inl rfl⟩⟩
  | unknown now cause =>
    obtain rfl := Option.some.inj announced
    exact ⟨by rw [now]; rfl, Or.inr ⟨rfl, Or.inl rfl⟩⟩
  | acquired now answer back =>
    obtain rfl := Option.some.inj announced
    exact ⟨by rw [now]; rfl, Or.inl (Or.inl rfl)⟩
  | proceeded now =>
    obtain rfl := Option.some.inj announced
    exact ⟨by rw [now]; rfl, Or.inl (Or.inr rfl)⟩
  | completed now answer back elapsed finishedAt =>
    obtain rfl := Option.some.inj announced
    exact ⟨by rw [now]; rfl, Or.inr ⟨rfl, Or.inr ⟨_, rfl⟩⟩⟩
  | _ => cases announced

end Sweep

namespace Sweeper

/-- What a slot and the claims of the sweeps have to do with each other. -/
structure Tenancy (c : Sweeper) : Prop where
  counted : ∀ (i : Nat) (e : Engagement) (generation : Nat), c.engagements[i]? = some e →
    e.claim = some generation → generation ≤ c.slot.generation
  unique : ∀ (i j : Nat) (e f : Engagement) (generation : Nat), c.engagements[i]? = some e →
    c.engagements[j]? = some f → e.claim = some generation → f.claim = some generation → i = j
  current : ∀ (i : Nat) (e : Engagement), c.engagements[i]? = some e →
    e.sweep.driver.isEngaged = true →
    e.claim = some c.slot.generation ∧ c.slot.phase.isActive = true
  occupied : c.slot.phase.isActive = true →
    ∃ (i : Nat) (e : Engagement), c.engagements[i]? = some e ∧ e.claim = some c.slot.generation

/-- Nobody has claimed a new sweeper. -/
theorem Tenancy.fresh (s : Settings) : Tenancy (.ofSettings s) where
  counted i e generation impossible := by simp [ofSettings] at impossible
  unique i j e f generation impossible := by simp [ofSettings] at impossible
  current i e impossible := by simp [ofSettings] at impossible
  occupied impossible := by simp [ofSettings, Slot.fresh, Phase.isActive] at impossible

variable {c next : Sweeper} {move : Move} {shown log : Log}

/-- At most one sweep of a sweeper is engaged. -/
theorem Tenancy.alone (tenancy : Tenancy c) {i j : Nat} {e f : Engagement}
    (present : c.engagements[i]? = some e) (other : c.engagements[j]? = some f)
    (engaged : e.sweep.driver.isEngaged = true) (too : f.sweep.driver.isEngaged = true) : i = j :=
  tenancy.unique i j e f _ present other (tenancy.current i e present engaged).1
    (tenancy.current j f other too).1

/-- A slot can be claimed only while no sweep is engaged. -/
theorem Tenancy.nobody (tenancy : Tenancy c) (idle : c.slot.phase.isActive = false) {i : Nat}
    {e : Engagement} (present : c.engagements[i]? = some e) : e.sweep.driver.isEngaged = false := by
  by_contra engaged
  have active := (tenancy.current i e present (by simpa using engaged)).2
  rw [idle] at active
  cases active

/-- A claim takes a free slot, makes it busy, and counts one more. -/
theorem claim?_eq_some {slot claimed : Slot} {index : Nat}
    (free : slot.claim? index = some claimed) :
    slot.phase.isActive = false ∧ claimed.phase = .acquiring ∧
      claimed.generation = slot.generation + 1 ∧ claimed.holder = some index := by
  simp only [Slot.claim?] at free
  split at free
  · cases free
  · next idle =>
    obtain rfl := Option.some.inj free
    exact ⟨by simpa using idle, rfl, rfl, rfl⟩

/-- A move that leaves all claims as they are, makes nobody engaged and does not free the slot keeps
the tenancy. It may bring in engagements without a claim. -/
theorem Tenancy.unchanged (tenancy : Tenancy c)
    (generation : next.slot.generation = c.slot.generation)
    (active : next.slot.phase.isActive = c.slot.phase.isActive)
    (back : ∀ (i : Nat) (after : Engagement), next.engagements[i]? = some after →
      after.claim = none ∧ after.sweep.driver.isEngaged = false ∨
        ∃ e, c.engagements[i]? = some e ∧ after.claim = e.claim ∧
          (after.sweep.driver.isEngaged = true → e.sweep.driver.isEngaged = true))
    (forth : ∀ (i : Nat) (e : Engagement), c.engagements[i]? = some e →
      ∃ after, next.engagements[i]? = some after ∧ after.claim = e.claim) : Tenancy next := by
  have claimed (i : Nat) (after : Engagement) (g : Nat) (there : next.engagements[i]? = some after)
      (held : after.claim = some g) : ∃ e, c.engagements[i]? = some e ∧ e.claim = some g := by
    rcases back i after there with ⟨nothing, -⟩ | ⟨e, present, same, -⟩
    · rw [nothing] at held
      cases held
    · exact ⟨e, present, same ▸ held⟩
  refine ⟨?_, ?_, ?_, ?_⟩
  · intro i after g there held
    obtain ⟨e, present, has⟩ := claimed i after g there held
    rw [generation]
    exact tenancy.counted i e g present has
  · intro i j after other g there also held too
    obtain ⟨e, present, has⟩ := claimed i after g there held
    obtain ⟨f, beside, alike⟩ := claimed j other g also too
    exact tenancy.unique i j e f g present beside has alike
  · intro i after there engaged
    rcases back i after there with ⟨-, idle⟩ | ⟨e, present, same, before⟩
    · rw [idle] at engaged
      cases engaged
    · rw [generation, active, same]
      exact tenancy.current i e present (before engaged)
  · intro busy
    obtain ⟨i, e, present, held⟩ := tenancy.occupied (active ▸ busy)
    obtain ⟨after, there, same⟩ := forth i e present
    exact ⟨i, after, there, by rw [same, generation, held]⟩

/-- A new claim on a free slot starts a new tenancy: the engagement that made it holds the number
counted last, and all others hold smaller ones. -/
theorem Tenancy.claimed (tenancy : Tenancy c) {index : Nat} {slot : Slot} {e : Engagement}
    (free : c.slot.claim? index = some slot) (held : e.claim = some slot.generation)
    (nextSlot : next.slot = slot) (first : next.engagements[index]? = some e)
    (others : ∀ (i : Nat) (after : Engagement), next.engagements[i]? = some after →
      i = index ∧ after = e ∨ c.engagements[i]? = some after) : Tenancy next := by
  obtain ⟨idle, phase, generation, -⟩ := claim?_eq_some free
  have fresh (i : Nat) (f : Engagement) (before : c.engagements[i]? = some f) :
      f.claim ≠ some slot.generation := by
    intro same
    have bound := tenancy.counted i f _ before same
    omega
  refine ⟨?_, ?_, ?_, ?_⟩
  · intro i after g there has
    rw [nextSlot]
    rcases others i after there with ⟨-, rfl⟩ | before
    · rw [held] at has
      exact Nat.le_of_eq (Option.some.inj has).symm
    · have bound := tenancy.counted i after g before has
      omega
  · intro i j after other g there also has too
    rcases others i after there with ⟨rfl, rfl⟩ | before
    · rcases others j other also with ⟨rfl, rfl⟩ | beside
      · rfl
      · exact absurd (too.trans (has.symm.trans held)) (fresh j other beside)
    · rcases others j other also with ⟨rfl, rfl⟩ | beside
      · exact absurd (has.trans (too.symm.trans held)) (fresh i after before)
      · exact tenancy.unique i j after other g before beside has too
  · intro i after there engaged
    rw [nextSlot, phase]
    rcases others i after there with ⟨-, rfl⟩ | before
    · exact ⟨held, rfl⟩
    · rw [tenancy.nobody idle before] at engaged
      cases engaged
  · intro _
    exact ⟨index, e, first, by rw [nextSlot, held]⟩

/-- An engaged sweep that ends frees the slot, and nobody is engaged any more. -/
theorem Tenancy.freed (tenancy : Tenancy c) (generation : next.slot.generation = c.slot.generation)
    (idle : next.slot.phase.isActive = false)
    (back : ∀ (i : Nat) (after : Engagement), next.engagements[i]? = some after →
      after.sweep.driver.isEngaged = false ∧
        ∃ e, c.engagements[i]? = some e ∧ after.claim = e.claim) : Tenancy next where
  counted i after g there held := by
    obtain ⟨-, e, present, same⟩ := back i after there
    rw [generation]
    exact tenancy.counted i e g present (same ▸ held)
  unique i j after other g there also held too := by
    obtain ⟨-, e, present, same⟩ := back i after there
    obtain ⟨-, f, beside, alike⟩ := back j other also
    exact tenancy.unique i j e f g present beside (same ▸ held) (alike ▸ too)
  current i after there engaged := by
    rw [(back i after there).1] at engaged
    cases engaged
  occupied busy := by
    rw [idle] at busy
    cases busy

/-- A stop request leaves the count of claims, and whether a sweep is under way, as they are. -/
theorem stop_slot (slot : Slot) : slot.stop.generation = slot.generation ∧
    slot.stop.phase.isActive = slot.phase.isActive := by
  simp only [Slot.stop]
  split
  · next running => exact ⟨rfl, by rw [running]; rfl⟩
  · exact ⟨rfl, rfl⟩

/-- What a stop request does to an engagement. -/
def stopped (holder : Option Nat) (i : Nat) (e : Engagement) : Engagement :=
  if holder = some i then cancelSweep e else e

/-- A stop request reaches the engagement that made the latest claim. -/
theorem stop_getElem? (c : Sweeper) (i : Nat) :
    c.stop.engagements[i]? = c.engagements[i]?.map (stopped c.slot.holder i) := by
  simp only [stop]
  cases c.slot.holder with
  | none =>
    have spared : stopped none i = id := funext fun e => if_neg (Option.some_ne_none i).symm
    rw [spared, Option.map_id, id]
  | some index =>
    have reached : stopped (some index) i = fun e => if index = i then cancelSweep e else e := by
      funext e
      simp only [stopped, Option.some.injEq]
    rw [reached]
    exact List.getElem?_modify ..

/-- A stop request takes no engagement back. -/
theorem length_stop (c : Sweeper) : c.stop.engagements.length = c.engagements.length := by
  simp only [stop]
  split
  · rfl
  · exact List.length_modify ..

/-- What the move of one sweep does to the tenancy is decided by what it announces. -/
theorem Tenancy.moved (tenancy : Tenancy c) {index : Nat} {inner : Sweep.Move} {e : Engagement}
    {progress : Sweep.Progress} (present : c.engagements[index]? = some e)
    (made : e.sweep.step? c.settings inner = some progress) :
    Tenancy { c.replace index { e with sweep := progress.sweep } with
      slot := c.heard progress.slot } := by
  have steps := Sweep.steps_of_step? made
  have back (i : Nat) (after : Engagement)
      (there : (c.engagements.set index { e with sweep := progress.sweep })[i]? = some after) :
      after.claim = none ∧ after.sweep.driver.isEngaged = false ∨
        ∃ f, c.engagements[i]? = some f ∧ after.claim = f.claim ∧
          (after.sweep.driver.isEngaged = true → f.sweep.driver.isEngaged = true) := by
    rcases replace_cases present there with ⟨rfl, rfl⟩ | ⟨-, before⟩
    · exact Or.inr ⟨e, present, rfl, Sweep.engaged_of_step steps⟩
    · exact Or.inr ⟨after, before, rfl, id⟩
  have forth (i : Nat) (f : Engagement) (before : c.engagements[i]? = some f) : ∃ after,
      (c.engagements.set index { e with sweep := progress.sweep })[i]? = some after ∧
        after.claim = f.claim := by
    by_cases same : index = i
    · subst same
      rw [List.getElem?_set_self (List.getElem?_eq_some_iff.mp present).1]
      exact ⟨_, rfl, by rw [Option.some.inj (present.symm.trans before)]⟩
    · rw [List.getElem?_set_ne same]
      exact ⟨f, before, rfl⟩
  cases announced : progress.slot with
  | none => exact tenancy.unchanged rfl rfl back forth
  | some change =>
    obtain ⟨engaged, going | ⟨ended, ending⟩⟩ := Sweep.announced_of_step steps announced
    · have active := (tenancy.current index e present engaged).2
      rcases going with rfl | rfl
      · refine tenancy.unchanged rfl ?_ back forth
        simp only [heard, Slot.apply, active]
        split <;> rfl
      · exact tenancy.unchanged rfl (by rw [active]; rfl) back forth
    · have halted (i : Nat) (after : Engagement)
          (there : (c.engagements.set index { e with sweep := progress.sweep })[i]? = some after) :
          after.sweep.driver.isEngaged = false ∧
            ∃ f, c.engagements[i]? = some f ∧ after.claim = f.claim := by
        rcases replace_cases present there with ⟨rfl, rfl⟩ | ⟨different, before⟩
        · exact ⟨ended, e, present, rfl⟩
        · refine ⟨?_, after, before, rfl⟩
          by_contra too
          exact different (tenancy.alone before present (by simpa using too) engaged)
      rcases ending with rfl | ⟨report, rfl⟩
      · exact tenancy.freed rfl rfl halted
      · exact tenancy.freed rfl rfl halted

/-- A claim that is given up frees the slot if it is the one that the slot counted last, and
otherwise changes nothing. -/
theorem Tenancy.gaveUp (tenancy : Tenancy c) {index : Nat} {e : Engagement} {generation : Nat}
    (present : c.engagements[index]? = some e) (held : e.claim = some generation)
    (halted : isOver e.sweep.driver = true) :
    Tenancy { c.replace index { e with claim := none } with slot := c.slot.giveUp generation } := by
  have counts : (c.slot.giveUp generation).generation = c.slot.generation := by
    simp only [Slot.giveUp]
    split <;> rfl
  have idle : e.sweep.driver.isEngaged = false := by
    cases driver : e.sweep.driver with
    | finished outcome => rfl
    | dropped => rfl
    | _ => simp [driver, isOver] at halted
  have back (i : Nat) (after : Engagement)
      (there : (c.engagements.set index { e with claim := none })[i]? = some after) :
      i = index ∧ after = { e with claim := none } ∨ i ≠ index ∧ c.engagements[i]? = some after :=
    replace_cases present there
  have held' (i : Nat) (after : Engagement) (g : Nat)
      (there : (c.engagements.set index { e with claim := none })[i]? = some after)
      (has : after.claim = some g) : i ≠ index ∧ c.engagements[i]? = some after := by
    rcases back i after there with ⟨-, rfl⟩ | other
    · cases has
    · exact other
  refine ⟨?_, ?_, ?_, ?_⟩
  · intro i after g there has
    rw [counts]
    exact tenancy.counted i after g (held' i after g there has).2 has
  · intro i j after other g there also has too
    exact tenancy.unique i j after other g (held' i after g there has).2
      (held' j other g also too).2 has too
  · intro i after there engaged
    rcases back i after there with ⟨-, rfl⟩ | ⟨different, before⟩
    · rw [idle] at engaged
      cases engaged
    · obtain ⟨latest, active⟩ := tenancy.current i after before engaged
      have older : ¬ (c.slot.generation = generation ∧ c.slot.phase.isActive = true) := by
        rintro ⟨same, -⟩
        exact different (tenancy.unique i index after e generation before present
          (same ▸ latest) held)
      simp only [Slot.giveUp, if_neg older]
      exact ⟨latest, active⟩
  · intro busy
    simp only [Slot.giveUp] at busy ⊢
    split at busy
    · cases busy
    · next older =>
      rw [if_neg older]
      obtain ⟨i, f, before, latest⟩ := tenancy.occupied busy
      have different : index ≠ i := by
        rintro rfl
        rw [Option.some.inj (present.symm.trans before), latest] at held
        exact older ⟨Option.some.inj held, busy⟩
      exact ⟨i, f, by simpa only [replace, List.getElem?_set_ne different] using before, latest⟩

/-- A move that touches neither a claim nor a driver, except to end a driver or to ask for a sweep,
keeps the tenancy if the slot stays as it is. -/
theorem Tenancy.aside (tenancy : Tenancy c) (steps : Steps c move next shown)
    (generation : next.slot.generation = c.slot.generation)
    (active : next.slot.phase.isActive = c.slot.phase.isActive)
    (only : ∀ before after entries index, Fate c index move before after entries →
      after.claim = none ∧ after.sweep.driver.isEngaged = false ∨
        ∃ e, before = some e ∧ after.claim = e.claim ∧
          (after.sweep.driver.isEngaged = true → e.sweep.driver.isEngaged = true))
    (keeps : ∀ e after entries index, Fate c index move (some e) after entries →
      after.claim = e.claim) : Tenancy next := by
  refine tenancy.unchanged generation active ?_ ?_
  · intro i after there
    exact only _ after _ i (fate_of_steps steps there)
  · intro i e present
    obtain ⟨after, there, fate⟩ := persists steps present
    exact ⟨after, there, keeps e after _ i fate⟩

/-- Every move of a sweeper keeps the tenancy. -/
theorem Tenancy.step (tenancy : Tenancy c) (steps : Steps c move next shown) : Tenancy next := by
  cases steps with
  | started slot free =>
    refine tenancy.claimed free rfl rfl (List.getElem?_concat_length ..) fun i after there => ?_
    rcases append_cases there with ⟨last, -, same⟩ | before
    · exact Or.inl ⟨last, same⟩
    · exact Or.inr before
  | admitted index flag e slot present unclaimed free =>
    refine tenancy.claimed free rfl rfl
      (List.getElem?_set_self (List.getElem?_eq_some_iff.mp present).1) fun i after there => ?_
    rcases replace_cases present there with here | ⟨-, before⟩
    · exact Or.inl here
    · exact Or.inr before
  | moved index inner e progress present made => exact tenancy.moved present made
  | gaveUp index e generation present held halted => exact tenancy.gaveUp present held halted
  | requested caller =>
    refine tenancy.aside (.requested caller) rfl rfl ?_ ?_
    · intro before after entries index fate
      cases fate with
      | spared => exact Or.inr ⟨after, rfl, rfl, id⟩
      | told move e => exact Or.inr ⟨e, rfl, rfl, id⟩
      | requested => exact Or.inl ⟨rfl, rfl⟩
    · intro e after entries index fate
      cases fate <;> rfl
  | refused index flag e present unclaimed busy =>
    refine tenancy.aside (.refused index flag e present unclaimed busy) rfl rfl ?_ ?_
    · intro before after entries other fate
      cases fate with
      | spared => exact Or.inr ⟨after, rfl, rfl, id⟩
      | told move e => exact Or.inr ⟨e, rfl, rfl, id⟩
      | refused flag e => exact Or.inr ⟨e, rfl, rfl, Bool.noConfusion⟩
      | admitted flag e slot now free => rw [busy] at free; cases free
    · intro e after entries other fate
      cases fate with
      | admitted flag e slot now free => rw [busy] at free; cases free
      | _ => rfl
  | stopped =>
    obtain ⟨generation, active⟩ := stop_slot c.slot
    refine tenancy.aside .stopped generation active ?_ ?_
    · intro before after entries index fate
      cases fate with
      | spared => exact Or.inr ⟨after, rfl, rfl, id⟩
      | told move e => exact Or.inr ⟨e, rfl, rfl, id⟩
    · intro e after entries index fate
      cases fate <;> rfl
  | flagged caller =>
    refine tenancy.aside (.flagged caller) rfl rfl ?_ ?_
    · intro before after entries index fate
      cases fate with
      | spared => exact Or.inr ⟨after, rfl, rfl, id⟩
      | told move e => exact Or.inr ⟨e, rfl, rfl, id⟩
    · intro e after entries index fate
      cases fate <;> rfl

end Sweeper

end KeySweeper
