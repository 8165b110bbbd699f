import KeySweeper.Proofs.Failures
import KeySweeper.Proofs.Flow

/-!
# How a scanner feeds its queue

A scanner seen by itself, with the queue to which it sends its keys. The scan yields its items
whenever it likes; keys are received from the queue at any time, or the receiver goes and takes the
queue with it; and the sweep may be told to wind down at any moment, also between the two looks at
the flag that the scanner takes for a key, and while it waits for room that appears at the very same
time.

The argument is an account of the items. The keys that the scan has yielded are those that have
entered the queue, then the one in the hand of the scanner, then the one that was lost when the
scanner stopped; and the scan was asked once for each of its answers and once more while the scanner
waits. A scanner that is wanted no longer, because the sweep winds down or because nobody receives
its keys, never sends a key again, so all that is left to it is the item it waits for.

A scanner that finds candidates for a pipeline makes these very moves.
-/

namespace KeySweeper

/-- A scanner at work, with the queue to which it sends its keys. -/
structure Feeder where
  /-- The flag and the counter of the sweep. -/
  control : Control
  /-- What the scanner is doing. -/
  scanner : Scanner
  /-- Whether the scan was asked for an item that it has not yielded yet. -/
  asked : Bool
  /-- The keys that have entered the queue and were not received yet. -/
  outbox : Handoff
  /-- Whether somebody is there to receive keys. -/
  outboxOpen : Bool
deriving DecidableEq, Repr

namespace Feeder

/-- What can happen to a scanner that is seen by itself. -/
inductive Move where
  /-- The scanner is polled with no item at hand. -/
  | poll
  /-- The scan yields an item, and the scanner looks at it. -/
  | yielded (answer : Answer (Option String))
  /-- The oldest key is received. -/
  | receive
  /-- The sweep is told to wind down. -/
  | cancel
  /-- The receiver goes, and the keys queued go with it. -/
  | hangUp
deriving DecidableEq, Repr

/-- What is noted of a move. -/
inductive Event where
  /-- The scan was asked for its next item. -/
  | asked
  /-- The scan has yielded an item. -/
  | yielded (answer : Answer (Option String))
  /-- A key has entered the queue. -/
  | entered (key : String)
  /-- A key was received. -/
  | received (key : String)
  /-- The receiver is gone, and so are these keys. -/
  | hungUp (queued : List String)
deriving DecidableEq, Repr

/-- The scanner after a move, with what is noted of it. There is none if the move cannot be made
now. A scanner that has sent its key asks for the next item at once, and one that can do nothing
when it is polled stays as it is. -/
def step? (p : Feeder) : Move → Option (Feeder × List Event)
  | .poll =>
    match p.scanner with
    | .asking => if p.asked then some (p, []) else some ({ p with asked := true }, [.asked])
    | .offering key =>
      match Scanner.offer? key p.control.cancelled p.outboxOpen p.outbox with
      | none => some (p, [])
      | some (.asking, outbox) =>
        some ({ p with scanner := .asking, asked := true, outbox }, [.entered key, .asked])
      | some (scanner, outbox) => some ({ p with scanner, outbox }, [])
    | _ => some (p, [])
  | .yielded answer =>
    match p.scanner with
    | .asking =>
      if p.asked then
        some ({ p with
          scanner := Scanner.afterAnswer p.control.cancelled answer
          control := Pipeline.cancelIfFailed p.control answer
          asked := false }, [.yielded answer])
      else none
    | _ => none
  | .receive =>
    if p.outboxOpen then p.outbox.pop?.map fun (key, outbox) =>
      ({ p with outbox }, [.received key]) else none
  | .cancel => some ({ p with control := p.control.cancel }, [])
  | .hangUp =>
    if p.outboxOpen then
      some ({ p with outbox := .empty p.outbox.capacity, outboxOpen := false },
        [.hungUp p.outbox.queue])
    else none

/-- The scanner after an execution, with all that was noted. -/
abbrev run? : Feeder → List Move → Option (Feeder × List Event) :=
  Execution.run? step?

/-- A scanner before its first step, with an empty queue for so many keys; the sweep may have been
told to wind down already. -/
def fresh (cancelled : Bool) (capacity : Nat) : Feeder :=
  ⟨.fresh cancelled, .asking, false, .empty capacity, true⟩

/-- The moves of the scanner from one point at which it waits to the next, if the scan has these
items ready for it. -/
def polled (ready : List (Answer (Option String))) : List Move :=
  .poll :: ready.flatMap fun answer => [.yielded answer, .poll]

/-- The keys of the scanner are wanted no longer: the sweep winds down, or nobody receives them. -/
def IsUnwanted (p : Feeder) : Prop := p.control.cancelled = true ∨ p.outboxOpen = false

instance (p : Feeder) : Decidable p.IsUnwanted := inferInstanceAs (Decidable (_ ∨ _))

/-- The item that the scan has yielded. -/
def answer? : Event → Option (Answer (Option String))
  | .yielded answer => some answer
  | _ => none

/-- The key that has entered the queue. -/
def entered? : Event → Option String
  | .entered key => some key
  | _ => none

/-- The key that was received. -/
def receipt? : Event → Option String
  | .received key => some key
  | _ => none

/-- The key that an item brings. -/
def yieldedKey? : Answer (Option String) → Option String
  | .value result => result
  | _ => none

/-- The items that the scan has yielded, in order. -/
def answers (log : List Event) : List (Answer (Option String)) := log.filterMap answer?

/-- The keys that have entered the queue, in order. -/
def entries (log : List Event) : List String := log.filterMap entered?

/-- The keys that were received, in order. -/
def receipts (log : List Event) : List String := log.filterMap receipt?

/-- How often the scan was asked for an item. -/
def asks (log : List Event) : Nat := log.count .asked

/-- The keys that the items of a scan bring, in order. -/
def yieldedKeys (stream : List (Answer (Option String))) : List String :=
  stream.filterMap yieldedKey?

@[simp] theorem answers_nil : answers [] = [] := rfl

@[simp] theorem entries_nil : entries [] = [] := rfl

@[simp] theorem receipts_nil : receipts [] = [] := rfl

@[simp] theorem asks_nil : asks [] = 0 := rfl

@[simp] theorem answers_append (log later : List Event) :
    answers (log ++ later) = answers log ++ answers later :=
  List.filterMap_append

@[simp] theorem entries_append (log later : List Event) :
    entries (log ++ later) = entries log ++ entries later :=
  List.filterMap_append

@[simp] theorem receipts_append (log later : List Event) :
    receipts (log ++ later) = receipts log ++ receipts later :=
  List.filterMap_append

@[simp] theorem asks_append (log later : List Event) :
    asks (log ++ later) = asks log + asks later :=
  List.count_append

@[simp] theorem yieldedKeys_append (stream later : List (Answer (Option String))) :
    yieldedKeys (stream ++ later) = yieldedKeys stream ++ yieldedKeys later := List.filterMap_append

@[simp] theorem answers_cons (event : Event) (log : List Event) :
    answers (event :: log) = (answer? event).toList ++ answers log := by
  cases read : answer? event <;> simp [answers, read]

@[simp] theorem entries_cons (event : Event) (log : List Event) :
    entries (event :: log) = (entered? event).toList ++ entries log := by
  cases read : entered? event <;> simp [entries, read]

@[simp] theorem receipts_cons (event : Event) (log : List Event) :
    receipts (event :: log) = (receipt? event).toList ++ receipts log := by
  cases read : receipt? event <;> simp [receipts, read]

@[simp] theorem asks_cons (event : Event) (log : List Event) :
    asks (event :: log) = (if event = .asked then 1 else 0) + asks log := by
  simp only [asks, List.count_cons, beq_iff_eq, Nat.add_comm]

@[simp] theorem yieldedKeys_singleton (answer : Answer (Option String)) :
    yieldedKeys [answer] = (yieldedKey? answer).toList := by
  cases read : yieldedKey? answer <;> simp [yieldedKeys, read]

variable {p next : Feeder} {move : Move} {moves : List Move} {shown log : List Event}
  {lost : List String}

/-- The ways in which a move can come about. -/
inductive Steps (p : Feeder) : Move → Feeder → List Event → Prop where
  /-- The scanner begins by asking for an item. -/
  | begun (asking : p.scanner = .asking) (unasked : p.asked = false) :
      Steps p .poll { p with asked := true } [.asked]
  /-- The scanner gives its key up, because it is not wanted. -/
  | dropped (key : String) (offering : p.scanner = .offering key) (unwanted : p.IsUnwanted) :
      Steps p .poll { p with scanner := .ended } []
  /-- The scanner sends its key and asks for the next item. -/
  | sent (key : String) (offering : p.scanner = .offering key) (wanted : ¬p.IsUnwanted)
      (room : p.outbox.hasRoom = true) :
      Steps p .poll { p with scanner := .asking, asked := true, outbox := p.outbox.push key }
        [.entered key, .asked]
  /-- The scanner can do nothing. -/
  | idled : Steps p .poll p []
  /-- The scan yields the item that the scanner waits for. -/
  | yielded (answer : Answer (Option String)) (asking : p.scanner = .asking)
      (asked : p.asked = true) :
      Steps p (.yielded answer) { p with
        scanner := Scanner.afterAnswer p.control.cancelled answer
        control := Pipeline.cancelIfFailed p.control answer
        asked := false } [.yielded answer]
  /-- The oldest key is received. -/
  | received (key : String) (rest : List String) (isOpen : p.outboxOpen = true)
      (queued : p.outbox.queue = key :: rest) :
      Steps p .receive { p with outbox := { p.outbox with queue := rest } } [.received key]
  /-- The sweep is told to wind down. -/
  | cancelled : Steps p .cancel { p with control := p.control.cancel } []
  /-- The receiver goes. -/
  | hungUp (isOpen : p.outboxOpen = true) :
      Steps p .hangUp { p with outbox := .empty p.outbox.capacity, outboxOpen := false }
        [.hungUp p.outbox.queue]

/-- A scanner with a key in its hand that is polled gives it up, sends it or goes on waiting. -/
theorem poll_offering {key : String} (offering : p.scanner = .offering key) :
    p.step? .poll =
      if p.IsUnwanted then some ({ p with scanner := .ended }, [])
      else if p.outbox.hasRoom = true then
        some ({ p with scanner := .asking, asked := true, outbox := p.outbox.push key },
          [.entered key, .asked])
      else some (p, []) := by
  by_cases unwanted : p.IsUnwanted
  · rw [if_pos unwanted]
    cases cancelled : p.control.cancelled with
    | true => simp [step?, offering, Scanner.offer?, cancelled]
    | false =>
      have shut : p.outboxOpen = false := unwanted.resolve_left (by simp [cancelled])
      simp [step?, offering, Scanner.offer?, cancelled, shut]
  · obtain ⟨uncancelled, present⟩ := not_or.mp unwanted
    rw [if_neg unwanted]
    cases room : p.outbox.hasRoom <;> simp [step?, offering, Scanner.offer?, uncancelled,
      present, room]

/-- A scanner that is polled before its item is there has asked for it. -/
theorem poll_asking (asking : p.scanner = .asking) :
    p.step? .poll = some ({ p with asked := true }, if p.asked then [] else [.asked]) := by
  cases asked : p.asked with
  | true =>
    have same : { p with asked := true } = p := by rw [← asked]
    rw [same]
    simp [step?, asking, asked]
  | false => simp [step?, asking, asked]

/-- A scanner that is done can be polled. -/
theorem poll_halted (halted : p.scanner.isLive = false) : p.step? .poll = some (p, []) := by
  cases state : p.scanner with
  | asking => simp [state, Scanner.isLive] at halted
  | offering key => simp [state, Scanner.isLive] at halted
  | ended => simp only [step?, state]
  | crashed text => simp only [step?, state]

/-- A scanner that is polled begins, gives its key up, sends it, or stays as it is. -/
theorem steps_poll (stepped : p.step? .poll = some (next, shown)) : Steps p .poll next shown := by
  cases state : p.scanner with
  | asking =>
    rw [poll_asking state] at stepped
    obtain ⟨rfl, rfl⟩ := Prod.mk.inj (Option.some.inj stepped)
    cases asked : p.asked with
    | true =>
      have same : { p with asked := true } = p := by rw [← asked]
      rw [same, if_pos rfl]
      exact .idled
    | false => exact .begun state asked
  | offering key =>
    rw [poll_offering state] at stepped
    split at stepped
    · next unwanted =>
      obtain ⟨rfl, rfl⟩ := Prod.mk.inj (Option.some.inj stepped)
      exact .dropped key state unwanted
    · next wanted =>
      split at stepped
      · next room =>
        obtain ⟨rfl, rfl⟩ := Prod.mk.inj (Option.some.inj stepped)
        exact .sent key state wanted room
      · obtain ⟨rfl, rfl⟩ := Prod.mk.inj (Option.some.inj stepped)
        exact .idled
  | ended =>
    rw [poll_halted (by rw [state]; rfl)] at stepped
    obtain ⟨rfl, rfl⟩ := Prod.mk.inj (Option.some.inj stepped)
    exact .idled
  | crashed text =>
    rw [poll_halted (by rw [state]; rfl)] at stepped
    obtain ⟨rfl, rfl⟩ := Prod.mk.inj (Option.some.inj stepped)
    exact .idled

/-- Every move comes about in one of these ways. -/
theorem steps_of_step? (stepped : p.step? move = some (next, shown)) : Steps p move next shown := by
  cases move with
  | poll => exact steps_poll stepped
  | yielded answer =>
    simp only [step?] at stepped
    split at stepped
    · next asking =>
      obtain ⟨asked, made⟩ := Option.ite_none_right_eq_some.mp stepped
      obtain ⟨rfl, rfl⟩ := Prod.mk.inj (Option.some.inj made)
      exact .yielded answer asking asked
    · cases stepped
  | receive =>
    simp only [step?] at stepped
    obtain ⟨isOpen, popped⟩ := Option.ite_none_right_eq_some.mp stepped
    obtain ⟨⟨key, outbox⟩, taken, result⟩ := Option.map_eq_some_iff.mp popped
    obtain ⟨rfl, rfl⟩ := Prod.mk.inj result
    simp only [Handoff.pop?] at taken
    split at taken
    · cases taken
    · next first rest queued =>
      obtain ⟨rfl, rfl⟩ := Prod.mk.inj (Option.some.inj taken)
      exact .received first rest isOpen queued
  | cancel =>
    obtain ⟨rfl, rfl⟩ := Prod.mk.inj (Option.some.inj stepped)
    exact .cancelled
  | hangUp =>
    obtain ⟨isOpen, made⟩ := Option.ite_none_right_eq_some.mp stepped
    obtain ⟨rfl, rfl⟩ := Prod.mk.inj (Option.some.inj made)
    exact .hungUp isOpen

/-- An item that the scanner has looked at is not waited for any longer. -/
theorem afterAnswer_ne_asking (cancelled : Bool) (answer : Answer (Option String)) :
    Scanner.afterAnswer cancelled answer ≠ .asking := by
  cases answer with
  | value result =>
    cases result with
    | none => exact Scanner.noConfusion
    | some key => cases cancelled <;> exact Scanner.noConfusion
  | failed cause => exact Scanner.noConfusion
  | crashed text => exact Scanner.noConfusion

/-- The key that an item brings is in the hand of the scanner, or the scanner comes to its end and
it is lost. -/
theorem lost_afterAnswer (cancelled : Bool) (answer : Answer (Option String)) :
    ∃ lost, (yieldedKey? answer).toList = (Scanner.afterAnswer cancelled answer).inHand ++ lost ∧
      lost.length ≤ 1 ∧ ((Scanner.afterAnswer cancelled answer).isLive = true → lost = []) := by
  cases answer with
  | value result =>
    cases result with
    | none => exact ⟨[], rfl, Nat.zero_le 1, fun _ => rfl⟩
    | some key =>
      cases cancelled with
      | true => exact ⟨[key], rfl, Nat.le_refl 1, Bool.noConfusion⟩
      | false => exact ⟨[], rfl, Nat.zero_le 1, fun _ => rfl⟩
  | failed cause => exact ⟨[], rfl, Nat.zero_le 1, fun _ => rfl⟩
  | crashed text => exact ⟨[], rfl, Nat.zero_le 1, fun _ => rfl⟩

/-- The notes of an execution and the state of the scanner account for each other. -/
structure Account (cancelled : Bool) (capacity : Nat) (p : Feeder) (moves : List Move)
    (log : List Event) : Prop where
  kept : ∃ lost, yieldedKeys (answers log) = entries log ++ p.scanner.inHand ++ lost ∧
    lost.length ≤ 1 ∧ (p.scanner.isLive = true → lost = [])
  delivered : ∃ gone, entries log = receipts log ++ gone ++ p.outbox.queue ∧
    (p.outboxOpen = true → gone = [])
  bounded : p.outbox.capacity = capacity ∧ p.outbox.queue.length ≤ capacity
  asked : asks log = (answers log).length + p.asked.toNat
  waiting : p.asked = true → p.scanner = .asking
  unbegun : p.scanner = .asking → p.asked = false → asks log = 0
  raised : p.control.cancelled = true ↔
    cancelled = true ∨ .cancel ∈ moves ∨ ∃ cause, .failed cause ∈ answers log
  failed : ∀ cause, .failed cause ∈ answers log → p.scanner.isLive = false

variable {cancelled : Bool} {capacity : Nat}

/-- Before the first step there is nothing to account for. -/
theorem Account.fresh (cancelled : Bool) (capacity : Nat) :
    Account cancelled capacity (.fresh cancelled capacity) [] [] where
  kept := ⟨[], rfl, Nat.zero_le 1, fun _ => rfl⟩
  delivered := ⟨[], rfl, fun _ => rfl⟩
  bounded := ⟨rfl, Nat.zero_le capacity⟩
  asked := rfl
  waiting := Bool.noConfusion
  unbegun _ _ := rfl
  raised := by simp [Feeder.fresh, Control.fresh]
  failed _ member := absurd member List.not_mem_nil

/-- The keys yielded are those that have entered the queue, the one in hand, and the one that was
lost with the last step of the scanner. -/
theorem Account.kept_step (account : Account cancelled capacity p moves log)
    (steps : Steps p move next shown) :
    ∃ lost, yieldedKeys (answers (log ++ shown)) = entries (log ++ shown) ++
      next.scanner.inHand ++ lost ∧ lost.length ≤ 1 ∧ (next.scanner.isLive = true → lost = []) := by
  obtain ⟨lost, same, few, none⟩ := account.kept
  cases steps with
  | begun asking unasked => exact ⟨lost, by simpa [answer?, entered?] using same, few, none⟩
  | idled => exact ⟨lost, by simpa using same, few, none⟩
  | cancelled => exact ⟨lost, by simpa using same, few, none⟩
  | received key rest isOpen queued =>
    exact ⟨lost, by simpa [answer?, entered?] using same, few, none⟩
  | hungUp isOpen => exact ⟨lost, by simpa [answer?, entered?] using same, few, none⟩
  | dropped key offering unwanted =>
    obtain rfl := none (by rw [offering]; rfl)
    rw [offering] at same
    exact ⟨[key], by simpa [Scanner.inHand] using same, Nat.le_refl 1, Bool.noConfusion⟩
  | sent key offering wanted room =>
    obtain rfl := none (by rw [offering]; rfl)
    rw [offering] at same
    exact ⟨[], by simpa [Scanner.inHand, answer?, entered?] using same, Nat.zero_le 1, fun _ => rfl⟩
  | yielded answer asking asked =>
    obtain rfl := none (by rw [asking]; rfl)
    rw [asking, show Scanner.asking.inHand = [] from rfl, List.append_nil, List.append_nil] at same
    obtain ⟨after, split, fewer, nothing⟩ := lost_afterAnswer p.control.cancelled answer
    exact ⟨after, by simp [same, split, answer?, entered?], fewer, nothing⟩

/-- The keys that have entered the queue are those received, those that went with the receiver, and
those queued. -/
theorem Account.delivered_step (account : Account cancelled capacity p moves log)
    (steps : Steps p move next shown) :
    ∃ gone, entries (log ++ shown) = receipts (log ++ shown) ++ gone ++ next.outbox.queue ∧
      (next.outboxOpen = true → gone = []) := by
  obtain ⟨gone, same, none⟩ := account.delivered
  cases steps with
  | sent key offering wanted room =>
    exact ⟨gone, by simp [same, Handoff.push, entered?, receipt?], none⟩
  | received key rest isOpen queued =>
    obtain rfl := none isOpen
    exact ⟨[], by simp [same, queued, entered?, receipt?], fun _ => rfl⟩
  | hungUp isOpen =>
    obtain rfl := none isOpen
    exact ⟨p.outbox.queue, by simp [same, Handoff.empty, entered?, receipt?], Bool.noConfusion⟩
  | dropped key offering unwanted => exact ⟨gone, by simpa using same, none⟩
  | idled => exact ⟨gone, by simpa using same, none⟩
  | cancelled => exact ⟨gone, by simpa using same, none⟩
  | begun asking unasked => exact ⟨gone, by simpa [entered?, receipt?] using same, none⟩
  | yielded answer asking asked => exact ⟨gone, by simpa [entered?, receipt?] using same, none⟩

/-- No more keys are queued than fit. -/
theorem Account.bounded_step (account : Account cancelled capacity p moves log)
    (steps : Steps p move next shown) :
    next.outbox.capacity = capacity ∧ next.outbox.queue.length ≤ capacity := by
  obtain ⟨same, fits⟩ := account.bounded
  cases steps with
  | sent key offering wanted room =>
    refine ⟨same, ?_⟩
    rw [Handoff.hasRoom, decide_eq_true_iff, same] at room
    rw [Handoff.push, List.length_append]
    exact room
  | received key rest isOpen queued =>
    refine ⟨same, Nat.le_trans ?_ fits⟩
    rw [queued]
    exact Nat.le_succ rest.length
  | hungUp isOpen => exact ⟨same, Nat.zero_le capacity⟩
  | _ => exact ⟨same, fits⟩

/-- The scan was asked for every item that it has yielded, and for the one that the scanner waits
for. -/
theorem Account.asked_step (account : Account cancelled capacity p moves log)
    (steps : Steps p move next shown) :
    asks (log ++ shown) = (answers (log ++ shown)).length + next.asked.toNat := by
  have asked := account.asked
  cases steps with
  | begun asking unasked => simp [asked, unasked, answer?]
  | sent key offering wanted room =>
    have idle : p.asked = false := by
      by_contra pending
      have asking := account.waiting (by simpa using pending)
      rw [offering] at asking
      cases asking
    simp [asked, idle, answer?]
  | yielded answer asking pending => simp [asked, pending, answer?]
  | received key rest isOpen queued => simp [asked, answer?]
  | hungUp isOpen => simp [asked, answer?]
  | _ => simp [asked]

/-- The flag is raised by the scanner when the scan fails, and by nothing else that happens here but
the call to wind down. -/
theorem Account.raised_step (account : Account cancelled capacity p moves log)
    (steps : Steps p move next shown) :
    next.control.cancelled = true ↔
      cancelled = true ∨ .cancel ∈ moves ++ [move] ∨ ∃ cause, .failed cause ∈
        answers (log ++ shown) := by
  have raised := account.raised
  cases steps with
  | cancelled => simp [Control.cancel]
  | yielded answer asking asked =>
    cases answer with
    | failed cause => simp [Pipeline.cancelIfFailed, Control.cancel, answer?]
    | value result => simpa [Pipeline.cancelIfFailed, answer?] using raised
    | crashed text => simpa [Pipeline.cancelIfFailed, answer?] using raised
  | _ => simpa [answer?] using raised

/-- A scan that has failed is the end of the scanner. -/
theorem Account.failed_step (account : Account cancelled capacity p moves log)
    (steps : Steps p move next shown) (cause : StoreError)
    (noted : .failed cause ∈ answers (log ++ shown)) :
    next.scanner.isLive = false := by
  have failed := account.failed cause
  cases steps with
  | yielded answer asking asked =>
    -- The scanner was at work until now, so nothing has failed before this answer.
    have earlier : .failed cause ∉ answers log := by
      intro member
      have halted := failed member
      rw [asking] at halted
      cases halted
    have now : Answer.failed cause = answer := by simpa [answer?, earlier] using noted
    rw [← now]
    rfl
  | dropped key offering unwanted => rfl
  | sent key offering wanted room =>
    have halted := failed (by simpa [answer?] using noted)
    rw [offering] at halted
    cases halted
  | begun asking unasked => exact failed (by simpa [answer?] using noted)
  | idled => exact failed (by simpa using noted)
  | received key rest isOpen queued => exact failed (by simpa [answer?] using noted)
  | cancelled => exact failed (by simpa using noted)
  | hungUp isOpen => exact failed (by simpa [answer?] using noted)

/-- What a scanner waits for was asked for. -/
theorem Account.waiting_step (account : Account cancelled capacity p moves log)
    (steps : Steps p move next shown) (asked : next.asked = true) : next.scanner = .asking := by
  cases steps with
  | begun asking unasked => exact asking
  | sent key offering wanted room => rfl
  | dropped key offering unwanted =>
    have asking := account.waiting asked
    rw [offering] at asking
    cases asking
  | yielded answer asking pending => cases asked
  | _ => exact account.waiting asked

/-- A scanner that waits for nothing has not begun. -/
theorem Account.unbegun_step (account : Account cancelled capacity p moves log)
    (steps : Steps p move next shown) (asking : next.scanner = .asking)
    (unasked : next.asked = false) : asks (log ++ shown) = 0 := by
  cases steps with
  | begun => cases unasked
  | sent => cases unasked
  | dropped => cases asking
  | yielded answer => exact absurd asking (afterAnswer_ne_asking p.control.cancelled answer)
  | idled => simpa using account.unbegun asking unasked
  | received => simpa using account.unbegun asking unasked
  | cancelled => simpa using account.unbegun asking unasked
  | hungUp => simpa using account.unbegun asking unasked

/-- Every step keeps the account. -/
theorem Account.step (account : Account cancelled capacity p moves log)
    (steps : Steps p move next shown) :
    Account cancelled capacity next (moves ++ [move]) (log ++ shown) where
  kept := account.kept_step steps
  delivered := account.delivered_step steps
  bounded := account.bounded_step steps
  asked := account.asked_step steps
  waiting := account.waiting_step steps
  unbegun := account.unbegun_step steps
  raised := account.raised_step steps
  failed := account.failed_step steps

/-- In every execution the notes and the scanner account for each other. -/
theorem account_along (ran : run? (.fresh cancelled capacity) moves = some (p, log)) :
    Account cancelled capacity p moves log := by
  refine Execution.induction_along
    (motive := fun moves p log => Account cancelled capacity p moves log) ?_ ?_ ran
  · exact .fresh cancelled capacity
  · intro moves move mid before next shown _ inductionHypothesis stepped
    exact inductionHypothesis.step (steps_of_step? stepped)

/-- No key can enter the queue any more: the keys are not wanted, or the scanner is not at work. -/
def IsSilent (p : Feeder) : Prop := p.IsUnwanted ∨ p.scanner.isLive = false

/-- How many items the scanner will look at without sending a key. -/
def expected (p : Feeder) : Nat := if p.scanner = .asking then 1 else 0

/-- How often the scanner will ask for an item without sending a key. -/
def unasked (p : Feeder) : Nat := if p.scanner = .asking ∧ p.asked = false then 1 else 0

/-- If no key can enter the queue although the scanner is at work, then because the keys are not
wanted. -/
theorem IsSilent.unwanted (silent : p.IsSilent) (live : p.scanner.isLive = true) :
    p.IsUnwanted := by
  rcases silent with unwanted | halted
  · exact unwanted
  · rw [live] at halted
    cases halted

/-- Keys that are not wanted stay so when an item arrives, also if it is the failure of the scan. -/
theorem IsUnwanted.yielded (unwanted : p.IsUnwanted) (scanner : Scanner)
    (answer : Answer (Option String)) :
    IsUnwanted { p with scanner, control := Pipeline.cancelIfFailed p.control answer, asked :=
      false } := by
  rcases unwanted with cancelled | shut
  · exact Or.inl ((Pipeline.cancelled_cancelIfFailed p.control answer).mpr (Or.inl cancelled))
  · exact Or.inr shut

/-- Keys that are not wanted stay so, and a scanner that is done stays done. -/
theorem IsSilent.step (silent : p.IsSilent) (steps : Steps p move next shown) : next.IsSilent := by
  cases steps with
  | begun asking unasked => exact silent
  | dropped key offering unwanted => exact Or.inr rfl
  | sent key offering wanted room => exact absurd (silent.unwanted (by rw [offering]; rfl)) wanted
  | idled => exact silent
  | yielded answer asking asked =>
    exact Or.inl ((silent.unwanted (by rw [asking]; rfl)).yielded _ answer)
  | received key rest isOpen queued => exact silent
  | cancelled => exact Or.inl (Or.inl rfl)
  | hungUp isOpen => exact Or.inl (Or.inr rfl)

/-- A step of a scanner that sends no key uses up what it expects and what it has to ask for. -/
theorem IsSilent.spent (silent : p.IsSilent) (steps : Steps p move next shown) :
    entries shown = [] ∧ (answers shown).length + next.expected ≤ p.expected ∧
      asks shown + next.unasked ≤ p.unasked := by
  -- Only a key that is sent makes the scanner ask once more, and this scanner sends none.
  cases steps with
  | begun asking notAsked => simp [expected, unasked, asking, notAsked, entered?, answer?]
  | dropped key offering unwanted => simp [expected, unasked]
  | sent key offering wanted room => exact absurd (silent.unwanted (by rw [offering]; rfl)) wanted
  | idled => simp
  | yielded answer asking asked =>
    have moved := afterAnswer_ne_asking p.control.cancelled answer
    cases state : Scanner.afterAnswer p.control.cancelled answer with
    | asking => exact absurd state moved
    | _ => simp [expected, unasked, asking, entered?, answer?]
  | received key rest isOpen queued => simp [expected, unasked, entered?, answer?]
  | cancelled => simp [expected, unasked]
  | hungUp isOpen => simp [expected, unasked, entered?, answer?]

/-- Once no key can enter the queue none does, whatever happens later, and all that is looked at and
asked for later was expected before. -/
theorem silent_along {later : List Move} {q : Feeder} (silent : p.IsSilent)
    (ran : p.run? later = some (q, shown)) :
    q.IsSilent ∧ entries shown = [] ∧ (answers shown).length + q.expected ≤ p.expected ∧
      asks shown + q.unasked ≤ p.unasked := by
  refine Execution.induction_along (motive := fun _ q shown => q.IsSilent ∧ entries shown = [] ∧
    (answers shown).length + q.expected ≤ p.expected ∧ asks shown + q.unasked ≤ p.unasked) ?_ ?_ ran
  · exact ⟨silent, rfl, Nat.le_of_eq (Nat.zero_add _), Nat.le_of_eq (Nat.zero_add _)⟩
  · rintro moves move mid before next seen - ⟨still, none, looked, requested⟩ stepped
    have steps := steps_of_step? stepped
    obtain ⟨quiet, one, other⟩ := still.spent steps
    refine ⟨still.step steps, by rw [entries_append, none, quiet]; rfl, ?_, ?_⟩
    · rw [answers_append, List.length_append]
      omega
    · rw [asks_append]
      omega

/-- Polled so, with these items ready for it, the scanner comes to its end. -/
def Halts (p : Feeder) (ready : List (Answer (Option String))) : Prop :=
  ∃ q shown, p.run? (polled ready) = some (q, shown) ∧ q.scanner.isLive = false

/-- A scanner whose keys are not wanted is done once it is polled, unless it waits for an item. -/
theorem poll_unwanted (unwanted : p.IsUnwanted) (idle : p.scanner ≠ .asking) :
    ∃ last, p.step? .poll = some (last, []) ∧ last.scanner.isLive = false := by
  cases state : p.scanner with
  | asking => exact absurd state idle
  | offering key => exact ⟨_, by rw [poll_offering state, if_pos unwanted], rfl⟩
  | ended =>
    have halted : p.scanner.isLive = false := by rw [state]; rfl
    exact ⟨p, poll_halted halted, halted⟩
  | crashed text =>
    have halted : p.scanner.isLive = false := by rw [state]; rfl
    exact ⟨p, poll_halted halted, halted⟩

/-- A scanner whose keys are not wanted gives up the key in its hand as soon as it is polled. -/
theorem halts_offering {key : String} (unwanted : p.IsUnwanted)
    (offering : p.scanner = .offering key) :
    p.Halts [] := by
  obtain ⟨last, finished, halted⟩ :=
    poll_unwanted unwanted (by rw [offering]; exact Scanner.noConfusion)
  exact ⟨last, [], Execution.run?_singleton.trans finished, halted⟩

/-- A scanner whose keys are not wanted ends with the item that it waits for. -/
theorem halts_asking (unwanted : p.IsUnwanted) (asking : p.scanner = .asking)
    (answer : Answer (Option String)) :
    p.Halts [answer] := by
  have began := poll_asking asking
  let q : Feeder := { p with
    scanner := Scanner.afterAnswer p.control.cancelled answer
    control := Pipeline.cancelIfFailed p.control answer
    asked := false }
  have looked : step? { p with asked := true } (.yielded answer) = some (q, [.yielded answer]) := by
    simp [step?, asking, q]
  obtain ⟨last, finished, halted⟩ :=
    q.poll_unwanted (unwanted.yielded _ answer) (afterAnswer_ne_asking _ answer)
  refine ⟨last, (if p.asked then [] else [.asked]) ++ [.yielded answer], ?_, halted⟩
  simp [run?, polled, Execution.run?, began, looked, finished]

/-- What is to be said of a scanner after an execution, its queue being made for so many keys. -/
structure Feeds (cancelled : Bool) (capacity : Nat) (moves : List Move) (p : Feeder)
    (log : List Event) : Prop where
  /-- Whatever items the scan may yet yield, the keys that have entered the queue are its first
  keys, in order. -/
  inOrder : ∀ stream, answers log <+: stream → entries log <+: yieldedKeys stream
  /-- Of the keys that were yielded at most one has not entered the queue. As long as the scanner is
  at work it has that key in its hand, and later the key is lost. -/
  accounted : ∃ lost, yieldedKeys (answers log) = entries log ++ p.scanner.inHand ++ lost ∧
    lost.length ≤ 1 ∧ (p.scanner.isLive = true → lost = [])
  /-- Keys are received in the order in which they have entered the queue, which holds no more than
  it was made for. -/
  delivered : receipts log <+: entries log ∧ p.outbox.queue.length ≤ capacity
  /-- Once the keys are not wanted any more none enters the queue, whatever happens later. The
  scanner looks at one more item at most, and this is one that it has asked for before, unless it
  had not begun. -/
  silent : p.IsUnwanted → ∀ later q shown, p.run? later = some (q, shown) →
    entries shown = [] ∧ (answers shown).length ≤ 1 ∧
    (asks shown = 0 ∨ asks log = 0 ∧ asks shown = 1)
  /-- Polled once, the scanner is then done with the key in its hand or with the item it waits
  for. -/
  stops : p.IsUnwanted → p.scanner.isLive = true →
    (p.scanner = .asking ∧ ∀ answer, p.Halts [answer]) ∨
    ((∃ key, p.scanner = .offering key) ∧ p.Halts [])
  /-- A scanner that is done sends nothing, looks at nothing and asks for nothing. -/
  halted : p.scanner.isLive = false → ∀ later q shown, p.run? later = some (q, shown) →
    entries shown = [] ∧ answers shown = [] ∧ asks shown = 0
  /-- The flag is raised if the sweep was told to wind down or the scan has failed, and not
  otherwise. -/
  raised : p.control.cancelled = true ↔
    cancelled = true ∨ .cancel ∈ moves ∨ ∃ cause, .failed cause ∈ answers log
  /-- A scan that has failed is the end of the scanner. -/
  failed : ∀ cause, .failed cause ∈ answers log → p.scanner.isLive = false
  /-- A key that is wanted enters the queue as soon as there is room. -/
  sends : ∀ key, p.scanner = .offering key → ¬p.IsUnwanted → p.outbox.hasRoom = true →
    ∃ q, p.step? .poll = some (q, [.entered key, .asked]) ∧ q.scanner = .asking

/-- What is looked at and asked for once no key can enter the queue. -/
theorem Account.silent (account : Account cancelled capacity p moves log) (silent : p.IsSilent)
    {later : List Move} {q : Feeder} (ran : p.run? later = some (q, shown)) :
    entries shown = [] ∧ (answers shown).length ≤ 1 ∧
    (asks shown = 0 ∨ asks log = 0 ∧ asks shown = 1) := by
  obtain ⟨-, none, looked, requested⟩ := silent_along silent ran
  have one : p.expected ≤ 1 := by unfold expected; split <;> omega
  refine ⟨none, by omega, ?_⟩
  by_cases unbegun : p.scanner = .asking ∧ p.asked = false
  · have once : p.unasked = 1 := if_pos unbegun
    have never : asks log = 0 := account.unbegun unbegun.1 unbegun.2
    omega
  · have nothing : p.unasked = 0 := if_neg unbegun
    exact Or.inl (by omega)

/-- A scanner that is done does nothing more. -/
theorem done_along {later : List Move} {q : Feeder} (halted : p.scanner.isLive = false)
    (ran : p.run? later = some (q, shown)) :
    entries shown = [] ∧ answers shown = [] ∧ asks shown = 0 := by
  obtain ⟨-, none, looked, requested⟩ := silent_along (Or.inr halted) ran
  have nothing : p.expected = 0 ∧ p.unasked = 0 := by
    cases state : p.scanner with
    | asking => simp [state, Scanner.isLive] at halted
    | _ => simp [expected, unasked, state]
  exact ⟨none, List.eq_nil_of_length_eq_zero (by omega), by omega⟩

/-- A scanner stops at once when its keys are not wanted any more. In every execution, whatever the
scan yields and whenever, however many keys fit into the queue, and wherever receiving, winding down
and the end of the receiver fall among the steps of the scanner, the keys that enter the queue are
the first ones of the scan, in order. Once the sweep was told to wind down or nobody receives the
keys, none enters the queue any more, even if the scanner waited for room and gets it at the same
time; the scanner looks at one more item at most, which it had asked for before, and loses one key
at most. It raises the flag itself only if the scan fails. -/
theorem keys_enter_until_unwanted (ran : run? (.fresh cancelled capacity) moves = some (p, log)) :
    Feeds cancelled capacity moves p log := by
  have account := account_along ran
  constructor
  case inOrder =>
    rintro stream ⟨later, rfl⟩
    obtain ⟨lost, same, -⟩ := account.kept
    rw [yieldedKeys_append, same, List.append_assoc, List.append_assoc]
    exact List.prefix_append ..
  case accounted => exact account.kept
  case delivered =>
    obtain ⟨gone, same, -⟩ := account.delivered
    refine ⟨?_, account.bounded.2⟩
    rw [same, List.append_assoc]
    exact List.prefix_append ..
  case silent =>
    intro unwanted later q shown continued
    exact account.silent (Or.inl unwanted) continued
  case stops =>
    intro unwanted live
    cases state : p.scanner with
    | asking => exact Or.inl ⟨rfl, halts_asking unwanted state⟩
    | offering key => exact Or.inr ⟨⟨key, rfl⟩, halts_offering unwanted state⟩
    | ended => simp [state, Scanner.isLive] at live
    | crashed text => simp [state, Scanner.isLive] at live
  case halted =>
    intro halted later q shown continued
    exact done_along halted continued
  case raised => exact account.raised
  case failed => exact account.failed
  case sends =>
    intro key offering wanted room
    exact ⟨_, by rw [poll_offering offering, if_neg wanted, if_pos room], rfl⟩

/-- A queue for one key: the second key waits for room, which appears just before the sweep is told
to wind down. -/
def roomTooLate : List Move :=
  polled [.value (some "a"), .value (some "b")] ++ [.receive, .cancel, .poll]

/-- The key that waits is given up although there is room for it. -/
theorem keys_enter_until_unwanted_roomTooLate :
    ∃ p log, run? (.fresh false 1) roomTooLate = some (p, log) ∧
    receipts log = ["a"] ∧ entries log = ["a"] ∧ p.scanner = .ended ∧ p.outbox.hasRoom = true ∧
      Feeds false 1 roomTooLate p log := by
  have seen : (run? (.fresh false 1) roomTooLate).map (fun reached =>
      (receipts reached.2, entries reached.2, reached.1.scanner, reached.1.outbox.hasRoom)) =
        some (["a"], ["a"], .ended, true) := by decide +kernel
  obtain ⟨⟨p, log⟩, ran, same⟩ := Option.map_eq_some_iff.mp seen
  obtain ⟨received, rest⟩ := Prod.mk.inj same
  obtain ⟨entered, rest⟩ := Prod.mk.inj rest
  obtain ⟨ended, room⟩ := Prod.mk.inj rest
  exact ⟨p, log, ran, received, entered, ended, room, keys_enter_until_unwanted ran⟩

end Feeder

namespace Pipeline

/-- The scanner of a pipeline with its queue. Somebody receives its keys as long as the filter is at
work. -/
def feeder (p : Pipeline) : Feeder where
  control := .fresh p.control.cancelled
  scanner := p.scanner
  asked := decide (p.scanner = .asking)
  outbox := if p.filter.isLive then p.candidates else .empty p.candidates.capacity
  outboxOpen := p.filter.isLive

variable {s : Settings} {p next : Pipeline} {move : Move} {shown : List Effect}

/-- What a step of the pipeline is for its scanner: a move of its own or of its queue, or
nothing. -/
theorem feeder_step (stepped : p.step? s move = some (next, shown)) : ∃ own log,
    Feeder.run? p.feeder own = some (next.feeder, log) ∧
    Feeder.answers log = Ledger.scanAnswers (calls shown) := by
  have aside (control : next.control.cancelled = p.control.cancelled)
    (scanner : next.scanner = p.scanner)
      (candidates : next.candidates = p.candidates) (filter : next.filter.isLive = p.filter.isLive)
      (uncalled : Ledger.scanAnswers (calls shown) = []) : ∃ own log,
      Feeder.run? p.feeder own = some (next.feeder, log) ∧
      Feeder.answers log = Ledger.scanAnswers (calls shown) := by
    refine ⟨[], [], ?_, uncalled.symm⟩
    simp only [Execution.run?, feeder, control, scanner, candidates, filter]
  have single (inner : Feeder.Move) (events : List Feeder.Event)
      (made : p.feeder.step? inner = some (next.feeder, events))
      (called : Feeder.answers events = Ledger.scanAnswers (calls shown)) : ∃ own log,
      Feeder.run? p.feeder own = some (next.feeder, log) ∧
      Feeder.answers log = Ledger.scanAnswers (calls shown) :=
    ⟨[inner], events, by rw [Feeder.run?, Execution.run?_singleton, made], called⟩
  cases steps_of_step? stepped with
  | scanned answer asking =>
    refine single (.yielded answer) [.yielded answer] ?_ (by rw [calls_effects]; rfl)
    have moved := Feeder.afterAnswer_ne_asking p.control.cancelled answer
    cases answer <;> simp [feeder, Feeder.step?, asking, moved, cancelIfFailed, Control.cancel,
      Control.fresh]
  | candidateLost key offering reason =>
    refine single .poll [] ?_ rfl
    have unwanted : p.feeder.IsUnwanted := reason
    rw [Feeder.poll_offering (show p.feeder.scanner = .offering key from offering), if_pos unwanted]
    simp [feeder, offering]
  | candidateSent key offering uncancelled live room =>
    refine single .poll [.entered key, .asked] ?_ rfl
    have wanted : ¬p.feeder.IsUnwanted := by
      simp [Feeder.IsUnwanted, feeder, Control.fresh, uncancelled, live]
    have fits : p.feeder.outbox.hasRoom = true := by simpa [feeder, live] using room
    rw [Feeder.poll_offering (show p.feeder.scanner = .offering key from offering), if_neg wanted,
      if_pos fits]
    simp [feeder, live]
  | candidateTaken key rest waiting queued =>
    refine single .receive [.received key] ?_ rfl
    simp [feeder, Feeder.step?, waiting, Filter.isLive, Handoff.pop?, queued]
  | candidatesEnded waiting queued halted =>
    refine single .hangUp [.hungUp []] ?_ rfl
    simp [feeder, Feeder.step?, waiting, Filter.isLive, queued]
  | inspected answer key inspecting =>
    cases answer with
    | value ttl =>
      refine aside rfl rfl rfl ?_ (by rw [calls_effects]; rfl)
      simp only [Filter.afterAnswer, inspecting]
      split <;> rfl
    | failed cause =>
      refine single .cancel [] ?_ rfl
      simp [feeder, Feeder.step?, inspecting, Filter.isLive, Filter.afterAnswer, cancelIfFailed,
        Control.cancel, Control.fresh]
    | crashed text =>
      refine single .hangUp [.hungUp p.candidates.queue] ?_ rfl
      simp [feeder, Feeder.step?, inspecting, Filter.isLive, Filter.afterAnswer, cancelIfFailed,
        Handoff.empty]
  | matchLost key offering gone =>
    refine single .hangUp [.hungUp p.candidates.queue] ?_ rfl
    simp [feeder, Feeder.step?, offering, Filter.isLive, Handoff.empty]
  | matchSent key offering live room => exact aside rfl rfl rfl (by rw [offering]; rfl) rfl
  | matchTaken batch key rest collecting queued => exact aside rfl rfl rfl rfl rfl
  | matchesEnded batch collecting queued halted => exact aside rfl rfl rfl rfl rfl
  | deleted answer batch waiting deleting =>
    cases answer with
    | value removed => exact aside rfl rfl rfl rfl rfl
    | failed cause => exact single .cancel [] rfl rfl
    | crashed text => exact aside rfl rfl rfl rfl rfl
  | cancelled => exact single .cancel [] rfl rfl

/-- The scanner of a pipeline is a scanner that is seen by itself: every execution of the stages is
an execution of their scanner with its queue, in which the scan yields the same items. -/
theorem feeder_along {cancelled : Bool} {moves : List Move} {effects : List Effect}
    (ran : Execution.run? (step? s) (.fresh (.fresh cancelled)) moves = some (p, effects)) :
    ∃ own log,
      Feeder.run? (.fresh cancelled Handoff.defaultCapacity) own = some (p.feeder, log) ∧
      Feeder.answers log = Ledger.scanAnswers (calls effects) := by
  refine Execution.induction_along (motive := fun _ p effects => ∃ own log,
    Feeder.run? (.fresh cancelled Handoff.defaultCapacity) own = some (p.feeder, log) ∧
      Feeder.answers log = Ledger.scanAnswers (calls effects)) ?_ ?_ ran
  · exact ⟨[.poll], [.asked], rfl, rfl⟩
  · rintro moves move mid before next shown - ⟨own, log, reached, same⟩ stepped
    obtain ⟨more, later, made, yielded⟩ := feeder_step stepped
    refine ⟨own ++ more, log ++ later, ?_, ?_⟩
    · exact Execution.run?_append_iff.mpr ⟨mid.feeder, log, later, reached, made, rfl⟩
    · rw [Feeder.answers_append, calls_append, Ledger.scanAnswers_append, same, yielded]

end Pipeline

end KeySweeper
