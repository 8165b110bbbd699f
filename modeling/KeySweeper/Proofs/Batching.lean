import KeySweeper.Proofs.Counting
import KeySweeper.Proofs.Progress

/-!
# How keys are packed into batches

A deleter seen by itself. Keys arrive in its queue at any time, until it is said that no more will
come; the deleter receives them one by one; and its calls come back whenever the store lets them,
with a value or a failure. The batches depend on none of this. They are the keys that have arrived,
cut into pieces of one length in the order of arrival, with what is left in the last piece.

The argument is an account of the keys. Those that have arrived are the ones in the calls issued so
far, then those in the hands of the deleter, then those in the queue. As long as keys can be
received all calls but the one under way are full, because a call is issued only when its batch is
full and one more key is there, or when no key can come any more; and the second happens once, at
the end.

A deleter that collects keys for a pipeline makes these very moves, so the batches of a pipeline are
packed like this.
-/

namespace KeySweeper

/-- A deleter at work, with the queue from which it receives its keys. -/
structure Packer where
  /-- The flag and the counter of the sweep. -/
  control : Control
  /-- What the deleter is doing. -/
  deleter : Deleter
  /-- The keys that have arrived and were not received yet. -/
  inbox : Handoff
  /-- Whether more keys may arrive. -/
  inboxOpen : Bool
deriving DecidableEq, Repr

/-- The keys in the hands of a deleter that it has not asked the store to delete. -/
def Deleter.unsubmitted : Deleter → List String
  | .collecting batch => batch
  | .deleting _ waiting => waiting.toList
  | _ => []

/-- The keys in the call that a deleter waits for. -/
def Deleter.underWay : Deleter → List String
  | .deleting batch _ => batch
  | _ => []

namespace Packer

/-- What can happen to a deleter that is seen by itself. -/
inductive Move where
  /-- A key arrives in the queue. -/
  | arrive (key : String)
  /-- It is said that no more keys will come. -/
  | close
  /-- The deleter receives a key, or finds that none can come any more. -/
  | take
  /-- The call that deletes a batch comes back. -/
  | answered (answer : Answer Nat)
  /-- The sweep is told to wind down. -/
  | cancel
deriving DecidableEq, Repr

/-- What is noted of a move. -/
inductive Event where
  /-- A key has arrived. -/
  | arrived (key : String)
  /-- No more keys will come. -/
  | closed
  /-- The store was asked to delete a batch. -/
  | issued (batch : List String)
  /-- The call for a batch has come back, and the counter stood like this after it. -/
  | returned (batch : List String) (answer : Answer Nat) (counter : UInt64)
deriving DecidableEq, Repr

/-- Whether a move is made by the deleter, or by the store for it. -/
def Move.isOwn : Move → Bool
  | .take => true
  | .answered _ => true
  | _ => false

/-- A deleter that has just come to be in this state asks the store to delete its batch, if it has
come to that. -/
def request : Deleter → List Event
  | .deleting batch _ => [.issued batch]
  | _ => []

/-- The deleter after a move, with what is noted of it. There is none if the move cannot be made
now. -/
def step? (size : Nat) (p : Packer) : Move → Option (Packer × List Event)
  | .arrive key =>
    if p.inboxOpen && p.deleter.isLive then some ({ p with inbox := p.inbox.push key },
      [.arrived key]) else none
  | .close => if p.inboxOpen then some ({ p with inboxOpen := false }, [.closed]) else none
  | .take =>
    match p.deleter with
    | .collecting batch =>
      (Deleter.take? (Deleter.effectiveSize size) batch p.inboxOpen p.inbox).map
        fun (deleter, inbox) =>
        ({ p with deleter, inbox }, request deleter)
    | _ => none
  | .answered answer =>
    match p.deleter with
    | .deleting batch waiting =>
      let control :=
        Pipeline.recordUnlessCrashed (Pipeline.cancelIfFailed p.control answer) batch answer
      some ({ p with deleter := Deleter.afterAnswer waiting answer, control },
        [.returned batch answer control.deleted])
    | _ => none
  | .cancel => some ({ p with control := p.control.cancel }, [])

/-- The deleter after an execution, with all that was noted. -/
abbrev run? (size : Nat) : Packer → List Move → Option (Packer × List Event) :=
  Execution.run? (step? size)

/-- A deleter that has received nothing yet, with an empty queue for so many keys; the sweep may
have been told to wind down already. -/
def fresh (cancelled : Bool) (capacity : Nat) : Packer :=
  ⟨.fresh cancelled, .collecting [], .empty capacity, true⟩

/-- The key that has arrived. -/
def arrival? : Event → Option String
  | .arrived key => some key
  | _ => none

/-- The batch that the store was asked to delete. -/
def issued? : Event → Option (List String)
  | .issued batch => some batch
  | _ => none

/-- The keys that have arrived, in order. -/
def arrivals (log : List Event) : List String := log.filterMap arrival?

/-- The batches that the store was asked to delete, in order. -/
def issues (log : List Event) : List (List String) := log.filterMap issued?

@[simp] theorem arrivals_nil : arrivals [] = [] := rfl

@[simp] theorem issues_nil : issues [] = [] := rfl

@[simp] theorem arrivals_append (log later : List Event) :
    arrivals (log ++ later) = arrivals log ++ arrivals later := List.filterMap_append

@[simp] theorem issues_append (log later : List Event) :
    issues (log ++ later) = issues log ++ issues later :=
  List.filterMap_append

@[simp] theorem arrivals_singleton (event : Event) :
    arrivals [event] = (arrival? event).toList := by
  cases read : arrival? event <;> simp [arrivals, read]

@[simp] theorem issues_singleton (event : Event) : issues [event] = (issued? event).toList := by
  cases read : issued? event <;> simp [issues, read]

variable {size : Nat} {p next : Packer} {move : Move} {moves : List Move} {shown log : List Event}

/-- The ways in which a move can come about. -/
inductive Steps (size : Nat) (p : Packer) : Move → Packer → List Event → Prop where
  /-- A key arrives while the deleter is there to receive it. -/
  | arrived (key : String) (isOpen : p.inboxOpen = true) (live : p.deleter.isLive = true) :
      Steps size p (.arrive key) { p with inbox := p.inbox.push key } [.arrived key]
  /-- No more keys will come. -/
  | closed (isOpen : p.inboxOpen = true) :
      Steps size p .close { p with inboxOpen := false } [.closed]
  /-- A key is added to a batch that is not full. -/
  | added (batch : List String) (key : String) (rest : List String)
      (collecting : p.deleter = .collecting batch)
      (queued : p.inbox.queue = key :: rest) (room : batch.length < Deleter.effectiveSize size) :
      Steps size p .take
        { p with deleter := .collecting (batch ++ [key]), inbox := { p.inbox with queue := rest } }
        []
  /-- A key is there that no longer fits, so the batch is submitted. -/
  | filled (batch : List String) (key : String) (rest : List String)
      (collecting : p.deleter = .collecting batch)
      (queued : p.inbox.queue = key :: rest) (full : Deleter.effectiveSize size ≤ batch.length) :
      Steps size p .take
        { p with deleter := .deleting batch (some key), inbox := { p.inbox with queue := rest } }
        [.issued batch]
  /-- No key can come any more, and none is left to be deleted. -/
  | ended (collecting : p.deleter = .collecting []) (queued : p.inbox.queue = [])
      (isClosed : p.inboxOpen = false) : Steps size p .take { p with deleter := .ended } []
  /-- No key can come any more, so what is left is submitted. -/
  | flushed (batch : List String) (collecting : p.deleter = .collecting batch)
      (queued : p.inbox.queue = []) (isClosed : p.inboxOpen = false) (nonempty : batch ≠ []) :
      Steps size p .take { p with deleter := .deleting batch none } [.issued batch]
  /-- A call has come back, and a key waits to be put into the next batch. -/
  | resumed (answer : Answer Nat) (batch : List String) (key : String)
      (deleting : p.deleter = .deleting batch (some key)) (back : ∀ text, answer ≠ .crashed text)
      (control : Control) (counted : control.deleted = p.control.deleted +
        UInt64.ofNat batch.length) :
      Steps size p (.answered answer) { p with deleter := .collecting [key], control }
        [.returned batch answer control.deleted]
  /-- The last call has come back. -/
  | finished (answer : Answer Nat) (batch : List String)
      (deleting : p.deleter = .deleting batch none)
      (back : ∀ text, answer ≠ .crashed text) (control : Control)
      (counted : control.deleted = p.control.deleted + UInt64.ofNat batch.length) :
      Steps size p (.answered answer) { p with deleter := .ended, control }
        [.returned batch answer control.deleted]
  /-- The code behind a call has crashed, and the deleter with it. -/
  | crashed (text : String) (batch : List String) (waiting : Option String)
      (deleting : p.deleter = .deleting batch waiting) :
      Steps size p (.answered (.crashed text)) { p with deleter := .crashed text }
        [.returned batch (.crashed text) p.control.deleted]
  /-- The sweep is told to wind down. -/
  | cancelled : Steps size p .cancel { p with control := p.control.cancel } []

/-- A collecting deleter receives the oldest key, or finds that none can come any more. -/
theorem steps_take (stepped : p.step? size .take = some (next, shown)) :
    Steps size p .take next shown := by
  simp only [step?] at stepped
  split at stepped
  · next batch collecting =>
    obtain ⟨⟨deleter, inbox⟩, taken, result⟩ := Option.map_eq_some_iff.mp stepped
    obtain ⟨rfl, rfl⟩ := Prod.mk.inj result
    simp only [Deleter.take?, Handoff.pop?] at taken
    cases queued : p.inbox.queue with
    | cons key rest =>
      simp only [queued] at taken
      obtain ⟨rfl, rfl⟩ := Prod.mk.inj (Option.some.inj taken)
      by_cases full : Deleter.effectiveSize size ≤ batch.length
      · rw [Deleter.accept, if_pos full]
        exact .filled batch key rest collecting queued full
      · rw [Deleter.accept, if_neg full]
        exact .added batch key rest collecting queued (Nat.lt_of_not_le full)
    | nil =>
      simp only [queued] at taken
      split at taken
      · cases taken
      · next shut =>
        have isClosed : p.inboxOpen = false := by simpa using shut
        obtain ⟨rfl, rfl⟩ := Prod.mk.inj (Option.some.inj taken)
        cases batch with
        | nil => exact .ended collecting queued isClosed
        | cons key rest => exact .flushed _ collecting queued isClosed (List.cons_ne_nil key rest)
  · cases stepped

/-- A call comes back to the deleter that waits for it. -/
theorem steps_answered {answer : Answer Nat}
    (stepped : p.step? size (.answered answer) = some (next, shown)) :
    Steps size p (.answered answer) next shown := by
  simp only [step?] at stepped
  split at stepped
  · next batch waiting deleting =>
    obtain ⟨rfl, rfl⟩ := Prod.mk.inj (Option.some.inj stepped)
    have resumes (back : ∀ text, answer ≠ .crashed text) (control : Control)
        (counted : control.deleted = p.control.deleted + UInt64.ofNat batch.length) :
        Steps size p (.answered answer)
          { p with deleter := waiting.elim .ended fun key => .collecting [key], control }
          [.returned batch answer control.deleted] := by
      cases waiting with
      | none => exact .finished answer batch deleting back control counted
      | some key => exact .resumed answer batch key deleting back control counted
    cases answer with
    | value removed =>
      have steps := resumes (fun _ => nofun) (p.control.record (UInt64.ofNat batch.length)) rfl
      cases waiting <;> exact steps
    | failed cause =>
      have steps :=
        resumes (fun _ => nofun) (p.control.cancel.record (UInt64.ofNat batch.length)) rfl
      cases waiting <;> exact steps
    | crashed text => exact .crashed text batch waiting deleting
  · cases stepped

/-- Every move comes about in one of these ways. -/
theorem steps_of_step? (stepped : p.step? size move = some (next, shown)) :
    Steps size p move next shown := by
  cases move with
  | arrive key =>
    simp only [step?, Bool.and_eq_true, Option.ite_none_right_eq_some] at stepped
    obtain ⟨⟨isOpen, live⟩, made⟩ := stepped
    obtain ⟨rfl, rfl⟩ := Prod.mk.inj (Option.some.inj made)
    exact .arrived key isOpen live
  | close =>
    simp only [step?, Option.ite_none_right_eq_some] at stepped
    obtain ⟨isOpen, made⟩ := stepped
    obtain ⟨rfl, rfl⟩ := Prod.mk.inj (Option.some.inj made)
    exact .closed isOpen
  | take => exact steps_take stepped
  | answered answer => exact steps_answered stepped
  | cancel =>
    obtain ⟨rfl, rfl⟩ := Prod.mk.inj (Option.some.inj stepped)
    exact .cancelled

/-- The deleter has not crashed. -/
def IsSound (p : Packer) : Prop := ∀ text, p.deleter ≠ .crashed text

/-- Batches of one size, save that the last one may be smaller. None of them is empty. -/
structure Packed (size : Nat) (batches : List (List String)) : Prop where
  full : ∀ batch ∈ batches.dropLast, batch.length = size
  filled : ∀ batch ∈ batches, 0 < batch.length ∧ batch.length ≤ size

/-- Full batches are packed. -/
theorem packed_of_full {size : Nat} {batches : List (List String)} (positive : 0 < size)
    (full : ∀ batch ∈ batches, batch.length = size) : Packed size batches where
  full batch member := full batch (List.dropLast_subset batches member)
  filled batch member := by rw [full batch member]; exact ⟨positive, Nat.le_refl size⟩

/-- Full batches and a smaller one behind them are packed. -/
theorem packed_concat {size : Nat} {batches : List (List String)} {last : List String}
    (full : ∀ batch ∈ batches, batch.length = size)
    (filled : 0 < last.length ∧ last.length ≤ size) :
    Packed size (batches ++ [last]) where
  full := by rwa [List.dropLast_concat]
  filled := by
    intro batch member
    rcases List.mem_append.mp member with earlier | same
    · rw [full batch earlier]
      exact ⟨Nat.lt_of_lt_of_le filled.1 filled.2, Nat.le_refl size⟩
    · obtain rfl := List.mem_singleton.mp same
      exact filled

/-- The keys of full batches. -/
theorem length_flatten_of_full {size : Nat} {batches : List (List String)}
    (full : ∀ batch ∈ batches, batch.length = size) :
    batches.flatten.length = size * batches.length := by
  induction batches with
  | nil => rfl
  | cons batch rest inductionHypothesis =>
    rw [List.flatten_cons, List.length_append, full batch List.mem_cons_self,
      inductionHypothesis fun other member => full other (List.mem_cons_of_mem batch member),
      List.length_cons, Nat.mul_succ, Nat.add_comm]

/-- Packed batches are as many as are needed: their number is that of their keys divided by the size
of a batch, rounded up. -/
theorem Packed.length_eq {size : Nat} {batches : List (List String)} (packed : Packed size batches)
    (positive : 0 < size) : batches.length = (batches.flatten.length + size - 1) / size := by
  rcases List.eq_nil_or_concat' batches with rfl | ⟨earlier, last, rfl⟩
  · symm
    apply Nat.div_eq_of_lt
    rw [List.flatten_nil, List.length_nil, Nat.zero_add]
    exact Nat.sub_lt positive Nat.one_pos
  · have full := packed.full
    rw [List.dropLast_concat] at full
    obtain ⟨filled, few⟩ := packed.filled last (List.mem_append_right earlier List.mem_cons_self)
    have keys := length_flatten_of_full full
    rw [List.flatten_append, List.length_append, List.length_append, keys, List.flatten_singleton,
      List.length_singleton]
    symm
    apply Nat.div_eq_of_lt_le
    · rw [Nat.add_mul, Nat.mul_comm, Nat.one_mul]
      omega
    · rw [Nat.succ_mul, Nat.succ_mul, Nat.mul_comm]
      omega

/-- How the batches issued so far fit to what the deleter is doing. As long as it can receive keys
they are all full. -/
def Fits (size : Nat) (batches : List (List String)) : Deleter → Prop
  | .collecting batch => (∀ full ∈ batches, full.length = size) ∧ batch.length ≤ size
  | .deleting batch waiting =>
    ∃ earlier, batches = earlier ++ [batch] ∧ (∀ full ∈ earlier, full.length = size) ∧
      (0 < batch.length ∧ batch.length ≤ size) ∧ (waiting ≠ none → batch.length = size)
  | _ => Packed size batches

/-- The batches issued so far are packed, whatever the deleter is doing. -/
theorem Fits.packed {size : Nat} {batches : List (List String)} {deleter : Deleter}
    (positive : 0 < size) (fits : Fits size batches deleter) : Packed size batches := by
  cases deleter with
  | collecting batch => exact packed_of_full positive fits.1
  | deleting batch waiting =>
    obtain ⟨earlier, rfl, full, filled, -⟩ := fits
    exact packed_concat full filled
  | ended => exact fits
  | crashed text => exact fits

/-- The notes of an execution and the state of the deleter account for each other. -/
structure Account (size : Nat) (p : Packer) (moves : List Move) (log : List Event) : Prop where
  fits : Fits (Deleter.effectiveSize size) (issues log) p.deleter
  kept : p.IsSound → arrivals log = (issues log).flatten ++ p.deleter.unsubmitted ++ p.inbox.queue
  submitted : (issues log).flatten <+: arrivals log
  counted : p.IsSound →
    p.control.deleted + UInt64.ofNat p.deleter.underWay.length =
      UInt64.ofNat (issues log).flatten.length
  closed : p.inboxOpen = false ↔ .closed ∈ log
  closing : p.deleter.isClosing = true → p.inboxOpen = false ∧ p.inbox.queue = []
  lost : ∀ text, p.deleter = .crashed text → ∃ batch counter,
    .returned batch (.crashed text) counter ∈ log
  steps : moves.countP Move.isOwn + p.deleter.effort + 2 * p.inbox.queue.length ≤
    2 + 2 * (arrivals log).length

/-- Before the first key there is nothing to account for. -/
theorem Account.fresh (size capacity : Nat) (cancelled : Bool) :
    Account size (.fresh cancelled capacity) [] [] where
  fits := ⟨List.forall_mem_nil _, Nat.zero_le _⟩
  kept _ := rfl
  submitted := List.nil_prefix
  counted _ := rfl
  closed := ⟨Bool.noConfusion, fun member => absurd member List.not_mem_nil⟩
  closing := Bool.noConfusion
  lost _ := Deleter.noConfusion
  steps := Nat.le_refl 2

/-- The size of a batch is positive. -/
theorem effectiveSize_pos (size : Nat) : 0 < Deleter.effectiveSize size :=
  Nat.lt_of_lt_of_le Nat.one_pos (Nat.le_max_left 1 size)

/-- A batch is submitted when it is full and one more key is there, or when no key can come any
more. -/
theorem Account.fits_step (account : Account size p moves log)
    (steps : Steps size p move next shown) :
    Fits (Deleter.effectiveSize size) (issues (log ++ shown)) next.deleter := by
  have fits := account.fits
  rw [issues_append]
  cases steps with
  | arrived key isOpen live => simpa [issued?] using fits
  | closed isOpen => simpa [issued?] using fits
  | cancelled => simpa using fits
  | added batch key rest collecting queued room =>
    rw [collecting] at fits
    rw [issues_nil, List.append_nil]
    refine ⟨fits.1, ?_⟩
    rw [List.length_append, List.length_singleton]
    exact room
  | filled batch key rest collecting queued full =>
    rw [collecting] at fits
    have whole := Nat.le_antisymm fits.2 full
    refine ⟨issues log, rfl, fits.1, ⟨?_, fits.2⟩, fun _ => whole⟩
    rw [whole]
    exact effectiveSize_pos size
  | ended collecting queued isClosed =>
    rw [collecting] at fits
    rw [issues_nil, List.append_nil]
    exact packed_of_full (effectiveSize_pos size) fits.1
  | flushed batch collecting queued isClosed nonempty =>
    rw [collecting] at fits
    refine ⟨issues log, rfl, fits.1, ⟨List.length_pos_iff.mpr nonempty, fits.2⟩, ?_⟩
    exact fun waiting => absurd rfl waiting
  | resumed answer batch key deleting back control counted =>
    rw [deleting] at fits
    obtain ⟨earlier, split, full, filled, last⟩ := fits
    have whole := last (Option.some_ne_none key)
    rw [show issues [Event.returned batch answer control.deleted] = [] from rfl, List.append_nil]
    refine ⟨fun other member => ?_, effectiveSize_pos size⟩
    rw [split] at member
    rcases List.mem_append.mp member with before | same
    · exact full other before
    · rw [List.mem_singleton.mp same, whole]
  | finished answer batch deleting back control counted =>
    rw [deleting] at fits
    rw [show issues [Event.returned batch answer control.deleted] = [] from rfl, List.append_nil]
    exact fits.packed (effectiveSize_pos size)
  | crashed text batch waiting deleting =>
    rw [show issues [Event.returned batch (.crashed text) p.control.deleted] = [] from rfl,
      List.append_nil]
    exact fits.packed (effectiveSize_pos size)

/-- A step of a deleter that has not crashed is made by one that had not crashed. -/
theorem IsSound.of_step (steps : Steps size p move next shown) (sound : next.IsSound) :
    p.IsSound := by
  have apart {state : Deleter} (same : p.deleter = state) (intact : ∀ text, state ≠ .crashed text) :
      p.IsSound := by
    intro text crashed
    exact intact text (same.symm.trans crashed)
  cases steps with
  | arrived key isOpen live => exact sound
  | closed isOpen => exact sound
  | cancelled => exact sound
  | added batch key rest collecting => exact apart collecting fun _ => nofun
  | filled batch key rest collecting => exact apart collecting fun _ => nofun
  | ended collecting => exact apart collecting fun _ => nofun
  | flushed batch collecting => exact apart collecting fun _ => nofun
  | resumed answer batch key deleting => exact apart deleting fun _ => nofun
  | finished answer batch deleting => exact apart deleting fun _ => nofun
  | crashed text => exact absurd rfl (sound text)

/-- The keys that have arrived are those submitted, those in the hands of the deleter and those
queued, in this order. A crash loses the keys in hand. -/
theorem Account.kept_step (account : Account size p moves log)
    (steps : Steps size p move next shown) (sound : next.IsSound) : arrivals (log ++ shown) =
      (issues (log ++ shown)).flatten ++ next.deleter.unsubmitted ++ next.inbox.queue := by
  have kept := account.kept (sound.of_step steps)
  rw [arrivals_append, issues_append, kept]
  cases steps with
  | arrived key isOpen live => simp [arrival?, issued?, Handoff.push]
  | closed isOpen => simp [arrival?, issued?]
  | cancelled => simp
  | added batch key rest collecting queued room => simp [collecting, queued, Deleter.unsubmitted]
  | filled batch key rest collecting queued full =>
    simp [arrival?, issued?, collecting, queued, Deleter.unsubmitted]
  | ended collecting queued isClosed => simp [collecting, queued, Deleter.unsubmitted]
  | flushed batch collecting queued isClosed nonempty =>
    simp [arrival?, issued?, collecting, queued, Deleter.unsubmitted]
  | resumed answer batch key deleting back control counted =>
    simp [arrival?, issued?, deleting, Deleter.unsubmitted]
  | finished answer batch deleting back control counted =>
    simp [arrival?, issued?, deleting, Deleter.unsubmitted]
  | crashed text => exact absurd rfl (sound text)

/-- Whatever happens, the keys submitted are the first ones that have arrived. -/
theorem Account.submitted_step (account : Account size p moves log)
    (steps : Steps size p move next shown) :
    (issues (log ++ shown)).flatten <+: arrivals (log ++ shown) := by
  -- Unless the deleter crashes in this very step the account of the keys says it.
  have earlier (unissued : issues shown = []) : (issues (log ++ shown)).flatten <+: arrivals
      (log ++ shown) := by
    rw [issues_append, unissued, List.append_nil, arrivals_append]
    exact account.submitted.trans (List.prefix_append ..)
  have issuing (sound : next.IsSound) : (issues (log ++ shown)).flatten <+: arrivals
      (log ++ shown) := by
    rw [account.kept_step steps sound, List.append_assoc]
    exact List.prefix_append ..
  cases steps with
  | filled batch key rest collecting queued full => exact issuing fun _ => nofun
  | flushed batch collecting queued isClosed nonempty => exact issuing fun _ => nofun
  | _ => exact earlier rfl

/-- The counter holds the number of keys submitted, those of the call under way excepted. -/
theorem Account.counted_step (account : Account size p moves log)
    (steps : Steps size p move next shown)
    (sound : next.IsSound) :
    next.control.deleted + UInt64.ofNat next.deleter.underWay.length =
      UInt64.ofNat (issues (log ++ shown)).flatten.length := by
  have counted := account.counted (sound.of_step steps)
  have submitting {batch : List String} (collecting : p.deleter = .collecting batch) :
      p.control.deleted + UInt64.ofNat batch.length =
        UInt64.ofNat (issues log ++ [batch]).flatten.length := by
    have before : p.control.deleted = UInt64.ofNat (issues log).flatten.length := by
      simpa [collecting, Deleter.underWay] using counted
    rw [before, ← UInt64.ofNat_add, List.flatten_append, List.flatten_singleton, List.length_append]
  rw [issues_append]
  cases steps with
  | arrived key isOpen live => simpa [issued?] using counted
  | closed isOpen => simpa [issued?] using counted
  | cancelled => simpa [Control.cancel] using counted
  | added batch key rest collecting => simpa [collecting, Deleter.underWay] using counted
  | ended collecting => simpa [collecting, Deleter.underWay] using counted
  | filled batch key rest collecting => exact submitting collecting
  | flushed batch collecting => exact submitting collecting
  | resumed answer batch key deleting back control added =>
    rw [deleting] at counted
    simpa [issued?, added, Deleter.underWay] using counted
  | finished answer batch deleting back control added =>
    rw [deleting] at counted
    simpa [issued?, added, Deleter.underWay] using counted
  | crashed text => exact absurd rfl (sound text)

/-- Keys stop coming exactly when it is said so. -/
theorem Account.closed_step (account : Account size p moves log)
    (steps : Steps size p move next shown) :
    next.inboxOpen = false ↔ .closed ∈ log ++ shown := by
  have closed := account.closed
  cases steps with
  | closed isOpen => simp
  | _ => simpa using closed

/-- A deleter that collects no more has found its queue empty and closed, and both stay so. -/
theorem Account.closing_step (account : Account size p moves log)
    (steps : Steps size p move next shown)
    (closing : next.deleter.isClosing = true) : next.inboxOpen = false ∧ next.inbox.queue = [] := by
  cases steps with
  | arrived key isOpen live =>
    obtain ⟨shut, -⟩ := account.closing closing
    rw [shut] at isOpen
    cases isOpen
  | closed isOpen => exact ⟨rfl, (account.closing closing).2⟩
  | cancelled => exact account.closing closing
  | ended collecting queued isClosed => exact ⟨isClosed, queued⟩
  | flushed batch collecting queued isClosed nonempty => exact ⟨isClosed, queued⟩
  | finished answer batch deleting => exact account.closing (by rw [deleting]; rfl)
  | _ => cases closing

/-- A deleter crashes only in a call. -/
theorem Account.lost_step (account : Account size p moves log)
    (steps : Steps size p move next shown) (text : String)
    (crashed : next.deleter = .crashed text) :
    ∃ batch counter, .returned batch (.crashed text) counter ∈ log ++ shown := by
  have before (same : p.deleter = .crashed text) :
      ∃ batch counter, .returned batch (.crashed text) counter ∈ log ++ shown := by
    obtain ⟨batch, counter, noted⟩ := account.lost text same
    exact ⟨batch, counter, List.mem_append_left shown noted⟩
  cases steps with
  | arrived key isOpen live => exact before crashed
  | closed isOpen => exact before crashed
  | cancelled => exact before crashed
  | crashed other batch waiting deleting =>
    obtain rfl := Deleter.crashed.inj crashed
    exact ⟨batch, p.control.deleted, List.mem_append_right log List.mem_cons_self⟩
  | _ => cases crashed

/-- Every step of the deleter costs effort, and only a key that arrives brings effort. -/
theorem Account.steps_step (account : Account size p moves log)
    (steps : Steps size p move next shown) :
    (moves ++ [move]).countP Move.isOwn + next.deleter.effort + 2 * next.inbox.queue.length ≤
      2 + 2 * (arrivals (log ++ shown)).length := by
  have before := account.steps
  rw [List.countP_append, List.countP_singleton, arrivals_append, List.length_append]
  cases steps with
  | arrived key isOpen live => simp [Move.isOwn, Handoff.push, arrival?]; omega
  | closed isOpen => simp [Move.isOwn, arrival?]; omega
  | cancelled => simp [Move.isOwn]; omega
  | added batch key rest collecting queued room =>
    simp only [collecting, queued, Deleter.effort, List.length_cons] at before
    simp [Move.isOwn, Deleter.effort]; omega
  | filled batch key rest collecting queued full =>
    simp only [collecting, queued, Deleter.effort, List.length_cons] at before
    simp [Move.isOwn, arrival?, Deleter.effort]; omega
  | ended collecting queued isClosed =>
    simp only [collecting, queued, Deleter.effort] at before
    simp [Move.isOwn, Deleter.effort, queued]; omega
  | flushed batch collecting queued isClosed nonempty =>
    simp only [collecting, queued, Deleter.effort] at before
    simp [Move.isOwn, arrival?, Deleter.effort, queued]; omega
  | resumed answer batch key deleting back control counted =>
    simp only [deleting, Deleter.effort] at before
    simp [Move.isOwn, arrival?, Deleter.effort]; omega
  | finished answer batch deleting back control counted =>
    simp only [deleting, Deleter.effort] at before
    simp [Move.isOwn, arrival?, Deleter.effort]; omega
  | crashed text batch waiting deleting =>
    have cost : 1 ≤ p.deleter.effort := by cases waiting <;> simp [deleting, Deleter.effort]
    simp [Move.isOwn, arrival?, Deleter.effort]; omega

/-- Every step keeps the account. -/
theorem Account.step (account : Account size p moves log) (steps : Steps size p move next shown) :
    Account size next (moves ++ [move]) (log ++ shown) where
  fits := account.fits_step steps
  kept := account.kept_step steps
  submitted := account.submitted_step steps
  counted := account.counted_step steps
  closed := account.closed_step steps
  closing := account.closing_step steps
  lost := account.lost_step steps
  steps := account.steps_step steps

/-- In every execution the notes and the deleter account for each other. -/
theorem account_along {cancelled : Bool} {capacity : Nat}
    (ran : run? size (.fresh cancelled capacity) moves = some (p, log)) :
    Account size p moves log := by
  refine Execution.induction_along (motive := fun moves p log => Account size p moves log) ?_ ?_ ran
  · exact .fresh size capacity cancelled
  · intro moves move mid before next shown _ inductionHypothesis stepped
    exact inductionHypothesis.step (steps_of_step? stepped)

/-- What is to be said of the batches of an execution in which batches of this size were asked
for. -/
structure Batched (size : Nat) (moves : List Move) (p : Packer) (log : List Event) : Prop where
  /-- No call is for nothing, and all calls but the last are for full batches. -/
  packed : Packed (Deleter.effectiveSize size) (issues log)
  /-- The keys submitted are the first ones that have arrived, in order. -/
  submitted : (issues log).flatten <+: arrivals log
  /-- A deleter that has ended was told that no more keys come, and has submitted all that had come,
  in as many calls as are needed. -/
  complete : p.deleter = .ended → .closed ∈ log ∧ (issues log).flatten = arrivals log ∧
    (issues log).length =
      ((arrivals log).length + Deleter.effectiveSize size - 1) / Deleter.effectiveSize size
  /-- A call is issued only when the key behind its batch has arrived, or when no more keys will
  come and the batch holds all that are left. -/
  timely : ∀ move next shown batch, p.step? size move = some (next, shown) → .issued batch ∈ shown →
    (∃ key, (issues log).flatten ++ batch ++ [key] <+: arrivals log) ∨
      .closed ∈ log ∧ (issues log).flatten ++ batch = arrivals log
  /-- When a call has come back the counter holds the number of keys submitted so far, as a machine
  word. -/
  counted : ∀ move next shown batch answer counter, p.step? size move = some (next, shown) →
    .returned batch answer counter ∈ shown → (∀ text, answer ≠ .crashed text) →
      counter = UInt64.ofNat (issues log).flatten.length ∧ next.control.deleted = counter
  /-- The deleter makes no more steps than the keys that have arrived account for. -/
  bounded : moves.countP Move.isOwn ≤ 2 + 2 * (arrivals log).length
  /-- Once no more keys will come, and unless a call has crashed, the deleter has ended, can make a
  step, or waits for a call and takes any answer. -/
  goesOn : .closed ∈ log → (∀ batch text counter, .returned batch (.crashed text) counter ∉ log) →
    p.deleter = .ended ∨ (p.step? size .take).isSome = true ∨
      ∀ answer, (p.step? size (.answered answer)).isSome = true

/-- A deleter that has ended has submitted all keys that had arrived. -/
theorem Account.complete (account : Account size p moves log) (ended : p.deleter = .ended) :
    .closed ∈ log ∧ (issues log).flatten = arrivals log ∧ (issues log).length =
      ((arrivals log).length + Deleter.effectiveSize size - 1) / Deleter.effectiveSize size := by
  obtain ⟨shut, empty⟩ := account.closing (by rw [ended]; rfl)
  have kept := account.kept fun text crashed => by
    rw [ended] at crashed
    cases crashed
  have all : (issues log).flatten = arrivals log := by
    simpa [ended, empty, Deleter.unsubmitted] using kept.symm
  refine ⟨account.closed.mp shut, all, ?_⟩
  have positive := effectiveSize_pos size
  rw [← all]
  exact (account.fits.packed positive).length_eq positive

/-- What stands before a call when it is issued. -/
theorem Account.timely (account : Account size p moves log) {batch : List String}
    (steps : Steps size p move next shown) (issued : .issued batch ∈ shown) :
    (∃ key, (issues log).flatten ++ batch ++ [key] <+: arrivals log) ∨
      .closed ∈ log ∧ (issues log).flatten ++ batch = arrivals log := by
  have whole {collected : List String} (collecting : p.deleter = .collecting collected) :
      arrivals log = (issues log).flatten ++ collected ++ p.inbox.queue := by
    have kept := account.kept fun text crashed => by
      rw [collecting] at crashed
      cases crashed
    rwa [collecting] at kept
  cases steps with
  | filled collected key rest collecting queued =>
    obtain rfl := Event.issued.inj (List.mem_singleton.mp issued)
    refine Or.inl ⟨key, rest, ?_⟩
    rw [whole collecting, queued, List.append_assoc, List.singleton_append]
  | flushed collected collecting queued isClosed =>
    obtain rfl := Event.issued.inj (List.mem_singleton.mp issued)
    refine Or.inr ⟨account.closed.mp isClosed, ?_⟩
    rw [whole collecting, queued, List.append_nil]
  | _ => simp at issued

/-- What the counter holds when a call has come back. -/
theorem Account.counter (account : Account size p moves log) {batch : List String}
    {answer : Answer Nat} {counter : UInt64} (steps : Steps size p move next shown)
    (returned : .returned batch answer counter ∈ shown) (back : ∀ text, answer ≠ .crashed text) :
    counter = UInt64.ofNat (issues log).flatten.length ∧ next.control.deleted = counter := by
  have total {waiting : Option String} (deleting : p.deleter = .deleting batch waiting) :
      p.control.deleted + UInt64.ofNat batch.length = UInt64.ofNat (issues log).flatten.length := by
    have counted := account.counted fun text crashed => by
      rw [deleting] at crashed
      cases crashed
    rwa [deleting] at counted
  cases steps with
  | resumed given batch key deleting back control added =>
    obtain ⟨rfl, rfl, rfl⟩ := Event.returned.inj (List.mem_singleton.mp returned)
    exact ⟨added.trans (total deleting), rfl⟩
  | finished given batch deleting back control added =>
    obtain ⟨rfl, rfl, rfl⟩ := Event.returned.inj (List.mem_singleton.mp returned)
    exact ⟨added.trans (total deleting), rfl⟩
  | crashed text =>
    obtain ⟨-, rfl, -⟩ := Event.returned.inj (List.mem_singleton.mp returned)
    exact absurd rfl (back text)
  | _ => simp at returned

/-- A deleter whose queue is closed has ended, unless it can go on by itself or with the answer to
its call. -/
theorem Account.goes_on (account : Account size p moves log) (closed : .closed ∈ log)
    (intact : ∀ batch text counter, .returned batch (.crashed text) counter ∉ log) :
    p.deleter = .ended ∨ (p.step? size .take).isSome = true ∨
      ∀ answer, (p.step? size (.answered answer)).isSome = true := by
  have shut := account.closed.mpr closed
  cases state : p.deleter with
  | collecting batch =>
    right; left
    cases queued : p.inbox.queue <;> simp [step?, state, Deleter.take?, Handoff.pop?, queued, shut]
  | deleting batch waiting =>
    right; right
    intro answer
    simp [step?, state]
  | ended => exact Or.inl rfl
  | crashed text =>
    obtain ⟨batch, counter, noted⟩ := account.lost text state
    exact absurd noted (intact batch text counter)

/-- The size of a batch is the one asked for, and at least one; a size asked for through the
settings counts if it is positive, and otherwise batches have fifty keys. -/
theorem effectiveSize_batching (s : Settings) (requested : Int) :
    Deleter.effectiveSize (s.batching requested).batchSize = if requested < 1 then 50 else
      requested.toNat := by
  simp only [Settings.batching, Settings.effectiveBatchSize, Settings.defaultBatchSize,
    Deleter.effectiveSize]
  split
  · rfl
  · exact Nat.max_eq_right (by omega)

/-- The batches are the keys that have arrived, cut into pieces of one length. In every execution,
whenever keys arrive, whatever the store answers to the calls and however long it takes, no call is
for nothing, all calls but the last are for full batches, and the keys submitted are the first ones
that have arrived, each once and in order. A call is issued only when the key behind its batch has
arrived or no more keys will come. When it has come back, with a value or a failure, the counter
holds the number of keys submitted. A deleter that is told that no more keys come makes a bounded
number of steps and is not stuck before it has ended, unless a call has crashed; and when it has
ended it has submitted all keys in as many calls as are needed.

The size asked for counts if it is positive, and one is taken for nothing; the settings take fifty
for what is not positive. -/
theorem batches_packed {cancelled : Bool} {capacity : Nat}
    (ran : run? size (.fresh cancelled capacity) moves = some (p, log)) :
    Batched size moves p log ∧ Deleter.effectiveSize size = (if size = 0 then 1 else size) ∧
      ∀ (s : Settings) (requested : Int),
        Deleter.effectiveSize (s.batching requested).batchSize = if requested < 1 then 50 else
          requested.toNat := by
  have account := account_along ran
  refine ⟨?_, ?_, effectiveSize_batching⟩
  · constructor
    case packed => exact account.fits.packed (effectiveSize_pos size)
    case submitted => exact account.submitted
    case complete => exact account.complete
    case timely =>
      intro move next shown batch stepped
      exact account.timely (steps_of_step? stepped)
    case counted =>
      intro move next shown batch answer counter stepped
      exact account.counter (steps_of_step? stepped)
    case bounded =>
      exact Nat.le_trans (Nat.le_trans (Nat.le_add_right ..) (Nat.le_add_right ..)) account.steps
    case goesOn => exact account.goes_on
  · unfold Deleter.effectiveSize
    split <;> omega

/-- Three keys for batches of two: the first call is issued when the third key is there and fails,
and the sweep is told to wind down meanwhile. -/
def threeKeys : List Move :=
  [.arrive "a", .take, .arrive "b", .take, .arrive "a", .cancel, .take,
    .answered (.failed (.unavailable "down")), .close, .take, .answered (.value 1)]

/-- The failed batch is not tried again, and the key that is left goes into a batch of its own. -/
theorem batches_packed_failing : ∃ p log, run? 2 (.fresh false 1) threeKeys = some (p, log) ∧
    issues log = [["a", "b"], ["a"]] ∧ p.control.deleted = 3 ∧ Batched 2 threeKeys p log := by
  have seen : (run? 2 (.fresh false 1) threeKeys).map (fun reached =>
      (issues reached.2, reached.1.control.deleted)) = some ([["a", "b"], ["a"]], 3) := by
        decide +kernel
  obtain ⟨⟨p, log⟩, ran, same⟩ := Option.map_eq_some_iff.mp seen
  obtain ⟨issued, counter⟩ := Prod.mk.inj same
  exact ⟨p, log, ran, issued, counter, (batches_packed ran).1⟩

/-- The batch of a call that has come back. -/
def returned? : Event → Option (List String)
  | .returned batch _ _ => some batch
  | _ => none

/-- The batches of the calls that have come back, in order. -/
def returns (log : List Event) : List (List String) := log.filterMap returned?

end Packer

namespace Pipeline

/-- The deleter of a pipeline with its queue. Keys may arrive as long as the filter is at work. -/
def packer (p : Pipeline) : Packer := ⟨p.control, p.deleter, p.matched, p.filter.isLive⟩

variable {s : Settings} {p next : Pipeline} {move : Move} {shown : List Effect}

/-- What a step of the pipeline is for its deleter: a move of its own or of its queue, or
nothing. -/
theorem packer_step (stepped : p.step? s move = some (next, shown)) : ∃ own log,
    Packer.run? s.batchSize p.packer own = some (next.packer, log) ∧
      Packer.returns log = Ledger.batches (calls shown) := by
  have aside (control : next.control = p.control) (deleter : next.deleter = p.deleter)
      (matched : next.matched = p.matched) (filter : next.filter.isLive = p.filter.isLive)
      (uncalled : Ledger.batches (calls shown) = []) : ∃ own log,
      Packer.run? s.batchSize p.packer own = some (next.packer, log) ∧
        Packer.returns log = Ledger.batches (calls shown) := by
    refine ⟨[], [], ?_, uncalled.symm⟩
    simp only [Execution.run?, packer, control, deleter, matched, filter]
  have single (inner : Packer.Move) (events : List Packer.Event)
      (made : p.packer.step? s.batchSize inner = some (next.packer, events))
      (called : Packer.returns events = Ledger.batches (calls shown)) : ∃ own log,
      Packer.run? s.batchSize p.packer own = some (next.packer, log) ∧
        Packer.returns log = Ledger.batches (calls shown) :=
    ⟨[inner], events, by rw [Packer.run?, Execution.run?_singleton, made], called⟩
  cases steps_of_step? stepped with
  | scanned answer asking =>
    cases answer with
    | failed cause => exact single .cancel [] rfl rfl
    | value result => exact aside rfl rfl rfl rfl rfl
    | crashed text => exact aside rfl rfl rfl rfl rfl
  | candidateLost key offering reason => exact aside rfl rfl rfl rfl rfl
  | candidateSent key offering uncancelled live room => exact aside rfl rfl rfl rfl rfl
  | candidateTaken key rest waiting queued => exact aside rfl rfl rfl (by rw [waiting]; rfl) rfl
  | candidatesEnded waiting queued halted =>
    exact single .close [.closed] (by simp [packer, Packer.step?, waiting, Filter.isLive]) rfl
  | inspected answer key inspecting =>
    cases answer with
    | value ttl =>
      refine aside rfl rfl rfl ?_ rfl
      simp only [Filter.afterAnswer, inspecting]
      split <;> rfl
    | failed cause =>
      refine single .cancel [] ?_ rfl
      simp [packer, Packer.step?, inspecting, Filter.isLive, Filter.afterAnswer, cancelIfFailed]
    | crashed text =>
      refine single .close [.closed] ?_ rfl
      simp [packer, Packer.step?, inspecting, Filter.isLive, Filter.afterAnswer, cancelIfFailed]
  | matchLost key offering gone =>
    exact single .close [.closed] (by simp [packer, Packer.step?, offering, Filter.isLive]) rfl
  | matchSent key offering live room =>
    refine single (.arrive key) [.arrived key] ?_ rfl
    simp [packer, Packer.step?, offering, live, Filter.isLive]
  | matchTaken batch key rest collecting queued =>
    refine single .take
      (Packer.request (Deleter.accept (Deleter.effectiveSize s.batchSize) batch key)) ?_ ?_
    · simp [packer, Packer.step?, collecting, Deleter.take?, Handoff.pop?, queued]
    · unfold Deleter.accept
      split <;> rfl
  | matchesEnded batch collecting queued halted =>
    refine single .take (Packer.request (Deleter.flush batch)) ?_ ?_
    · simp [packer, Packer.step?, collecting, Deleter.take?, Handoff.pop?, queued, halted]
    · unfold Deleter.flush
      split <;> rfl
  | deleted answer batch waiting deleting =>
    refine single (.answered answer) [.returned batch answer
      (recordUnlessCrashed (cancelIfFailed p.control answer) batch answer).deleted] ?_ ?_
    · simp [packer, Packer.step?, deleting]
    · rw [calls_effects]
      rfl
  | cancelled => exact single .cancel [] rfl rfl

/-- The deleter of a pipeline is a deleter that is seen by itself: every execution of the stages is
an execution of their deleter with its queue, in which the calls for the same batches come back. -/
theorem packer_along {cancelled : Bool} {moves : List Move} {effects : List Effect}
    (ran : Execution.run? (step? s) (.fresh (.fresh cancelled)) moves = some (p, effects)) :
    ∃ own log,
      Packer.run? s.batchSize (.fresh cancelled Handoff.defaultCapacity) own =
        some (p.packer, log) ∧
      Packer.returns log = Ledger.batches (calls effects) := by
  refine Execution.induction_along (motive := fun _ p effects => ∃ own log,
    Packer.run? s.batchSize (.fresh cancelled Handoff.defaultCapacity) own = some (p.packer, log) ∧
      Packer.returns log = Ledger.batches (calls effects)) ?_ ?_ ran
  · exact ⟨[], [], rfl, rfl⟩
  · rintro moves move mid before next shown - ⟨own, log, reached, same⟩ stepped
    obtain ⟨more, later, made, called⟩ := packer_step stepped
    refine ⟨own ++ more, log ++ later, ?_, ?_⟩
    · exact Execution.run?_append_iff.mpr ⟨mid.packer, log, later, reached, made, rfl⟩
    · rw [Packer.returns, List.filterMap_append, calls_append, Ledger.batches_append]
      exact congrArg₂ (· ++ ·) same called

end Pipeline

end KeySweeper
