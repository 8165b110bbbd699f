import KeySweeper.Proofs.Directory
import KeySweeper.Proofs.Draining
import KeySweeper.Proofs.Execution

/-!
# What a scan sees of a store

Scans are opened on a store at any time, through handles that may be slow, and are polled in any
order, while other clients use the store and time passes. A scan that was never polled has read
nothing. From its first poll on it waits for its handle. Then it reads the clock, and as soon as
nobody else is at the entries it reads these. Other clients may come between the two readings, and
time may pass. This is the only look of a scan at the store.

So the moment at which a scan reads the store has a clock of its own. A key is listed if there is an
entry under it when the entries are read and this entry is live by the clock that the scan has read.
All keys that are live when the entries are read are among them. A key that expires between the two
readings is as well, next to keys that were stored since, so what is listed is what the store lists
at some single moment only if no time passes between the readings.

The time that handles take and the time by which entries expire are told apart here. Nothing depends
on how they go together.

The account of a scan are the states in which it read the clock and the entries: the keys that it
has yielded and those that are left are the keys listed there. A session in which the next key of a
scan is asked for polls the scan until it answers.
-/

namespace KeySweeper

/-- The store after calls of clients. -/
def Store.served (store : Store) (commands : List SessionCommand) : Store :=
  commands.foldl (fun store command => ((Session.ofStore store).run command).2.2.store) store

/-- Calls are made one after the other. -/
theorem Store.served_append (store : Store) (commands later : List SessionCommand) :
    store.served (commands ++ later) = (store.served commands).served later := List.foldl_append

/-- A scan that was opened, as its client polls it. -/
structure PolledScan where
  /-- The scan with the latency of its handle. -/
  slow : SlowScan
  /-- When the first item was asked for, if it was. -/
  asked : Option Nat
  /-- The clock as it was read, as long as the entries were not read. -/
  clock : Option Nat
deriving Repr

namespace PolledScan

/-- The pattern and the latency with which the scan was opened. -/
def origin (p : PolledScan) : String × Duration := (p.slow.scan.pattern, p.slow.latency)

/-- When the wait for the handle is over, if the scan is polled at some time. -/
def due (p : PolledScan) (time : Nat) : Nat := p.asked.getD time + p.slow.cost.nanos

/-- The scan after a poll at some time that was over without an answer. -/
def waiting (p : PolledScan) (time : Nat) : PolledScan :=
  { p with asked := some (p.asked.getD time) }

/-- The scan after a poll at some time that has read the clock and was over without an answer. -/
def looked (p : PolledScan) (time now : Nat) : PolledScan :=
  { p.waiting time with clock := some now }

/-- The store as the scan finds it if it reads the entries now. -/
def view (p : PolledScan) (store : Store) : Store := store.asOf (p.clock.getD store.now)

/-- A scan that reads the clock and the entries at once finds the store as it is. -/
theorem view_eq {p : PolledScan} {store : Store} (unlooked : p.clock = none) :
    p.view store = store := by
  rw [view, unlooked, Option.getD_none, Store.asOf_now]

/-- The scan after a poll at some time that the store has answered. -/
def answered (p : PolledScan) (time : Nat) (store : Store) : PolledScan :=
  ⟨{ p.slow with scan := (p.slow.scan.next (p.view store)).2 }, some (p.asked.getD time), none⟩

end PolledScan

/-- A store with the scans that were opened on it. -/
structure OpenScans where
  /-- The store. -/
  store : Store
  /-- The time by which handles are slow. -/
  time : Nat
  /-- The scans, in the order of opening. -/
  scans : List PolledScan
deriving Repr

namespace OpenScans

/-- What can happen to a store on which scans are open. -/
inductive Move where
  /-- A client calls the store, or time passes on the clock of the store. -/
  | call (command : SessionCommand)
  /-- Time passes for those who wait for their handles. -/
  | pass (length : Duration)
  /-- A scan is opened through a handle of some latency. -/
  | openScan (pattern : String) (latency : Duration)
  /-- A scan is polled and waits for its handle, or for its turn at the entries. -/
  | wait (index : Nat)
  /-- A scan is polled, reads the clock, and waits for its turn at the entries. -/
  | look (index : Nat)
  /-- A scan is polled and answers. -/
  | poll (index : Nat)
deriving Repr

/-- What is noted of a scan. -/
inductive Event where
  /-- The scan was polled for the first time. -/
  | asked (index moment : Nat)
  /-- The scan has answered with a key, or with its end. -/
  | yielded (index : Nat) (key : Option String)
deriving DecidableEq, Repr

/-- What is noted of a scan when it is polled at some time: whether this was the first time. -/
def note (index time : Nat) (p : PolledScan) : List Event :=
  match p.asked with
  | none => [.asked index time]
  | some _ => []

/-- The store and its scans after a move, with what is noted. There is nothing if the move cannot be
made now. -/
def step? (s : OpenScans) : Move → Option (OpenScans × List Event)
  | .call command =>
    some ({ s with store := ((Session.ofStore s.store).run command).2.2.store }, [])
  | .pass length => some ({ s with time := s.time + length.nanos }, [])
  | .openScan pattern latency =>
    some ({ s with scans := s.scans ++ [⟨⟨.fresh pattern, latency.awaited⟩, none, none⟩] }, [])
  | .wait index =>
    match s.scans[index]? with
    | none => none
    | some p =>
      if p.slow.cost = .zero ∧ p.clock = none then none
      else some ({ s with scans := s.scans.set index (p.waiting s.time) }, note index s.time p)
  | .look index =>
    match s.scans[index]? with
    | none => none
    | some p =>
      if p.due s.time ≤ s.time ∧ p.slow.scan.remaining = none ∧ p.clock = none then
        some ({ s with scans := s.scans.set index (p.looked s.time s.store.now) },
          note index s.time p)
      else none
  | .poll index =>
    match s.scans[index]? with
    | none => none
    | some p =>
      if p.due s.time ≤ s.time then
        some ({ s with scans := s.scans.set index (p.answered s.time s.store) },
          note index s.time p ++ [.yielded index (p.slow.scan.next (p.view s.store)).1])
      else none

/-- The store and its scans after an execution, with all that was noted. -/
abbrev run? : OpenScans → List Move → Option (OpenScans × List Event) := Execution.run? step?

/-- A store on which no scan was opened yet. -/
def fresh (store : Store) (time : Nat) : OpenScans := ⟨store, time, []⟩

/-- The call that a client makes in a move. -/
def call? : Move → Option SessionCommand
  | .call command => some command
  | _ => none

/-- The pattern and the handle of the scan that a move opens. -/
def opening? : Move → Option (String × Duration)
  | .openScan pattern latency => some (pattern, latency)
  | _ => none

/-- Whether a move is a poll of a scan that answers. -/
def Move.isPoll (index : Nat) : Move → Bool
  | .poll other => other == index
  | _ => false

/-- The moment at which a scan was polled for the first time. -/
def asked? (index : Nat) : Event → Option Nat
  | .asked other moment => if other = index then some moment else none
  | _ => none

/-- What a scan has yielded. -/
def yielded? (index : Nat) : Event → Option (Option String)
  | .yielded other key => if other = index then some key else none
  | _ => none

/-- The calls that clients make, in order. -/
def calls (moves : List Move) : List SessionCommand := moves.filterMap call?

/-- The patterns and the handles of the scans, in the order of opening. -/
def openings (moves : List Move) : List (String × Duration) := moves.filterMap opening?

/-- The moments at which a scan was polled for the first time. There is at most one. -/
def requests (index : Nat) (log : List Event) : List Nat := log.filterMap (asked? index)

/-- All that a scan has yielded, in order. -/
def yields (index : Nat) (log : List Event) : List (Option String) := log.filterMap (yielded? index)

@[simp] theorem calls_append (moves later : List Move) :
    calls (moves ++ later) = calls moves ++ calls later :=
  List.filterMap_append

@[simp] theorem openings_append (moves later : List Move) :
    openings (moves ++ later) = openings moves ++ openings later := List.filterMap_append

@[simp] theorem requests_append (index : Nat) (log later : List Event) :
    requests index (log ++ later) = requests index log ++ requests index later :=
  List.filterMap_append

@[simp] theorem yields_append (index : Nat) (log later : List Event) :
    yields index (log ++ later) = yields index log ++ yields index later := List.filterMap_append

@[simp] theorem requests_cons (index : Nat) (event : Event) (log : List Event) :
    requests index (event :: log) = (asked? index event).toList ++ requests index log := by
  cases read : asked? index event <;> simp [requests, read]

@[simp] theorem yields_cons (index : Nat) (event : Event) (log : List Event) :
    yields index (event :: log) = (yielded? index event).toList ++ yields index log := by
  cases read : yielded? index event <;> simp [yields, read]

@[simp] theorem requests_nil (index : Nat) : requests index [] = [] := rfl

@[simp] theorem yields_nil (index : Nat) : yields index [] = [] := rfl

variable {start s next mid : OpenScans} {move : Move} {moves before : List Move}
  {shown log : List Event}
variable {index other time : Nat} {p : PolledScan}

/-- The first poll is noted if none was noted before. -/
theorem requests_note_self (index time : Nat) (p : PolledScan) :
    p.asked.toList ++ requests index (note index time p) = [p.asked.getD time] := by
  cases asked : p.asked <;> simp [note, asked, asked?]

/-- Nothing is noted for another scan. -/
theorem requests_note_other (different : other ≠ index) :
    requests index (note other time p) = [] := by
  cases asked : p.asked <;> simp [note, asked, asked?, different]

/-- The note of a poll tells nothing of what the poll yields. -/
theorem yields_note : yields index (note other time p) = [] := by
  cases asked : p.asked <;> simp [note, asked, yielded?]

/-- The ways in which a move can come about. -/
inductive Steps (s : OpenScans) : Move → OpenScans → List Event → Prop where
  /-- A client calls the store. -/
  | called (command : SessionCommand) :
      Steps s (.call command) { s with store := ((Session.ofStore s.store).run command).2.2.store }
        []
  /-- Time passes for those who wait. -/
  | passed (length : Duration) : Steps s (.pass length) { s with time := s.time + length.nanos } []
  /-- A scan is opened. -/
  | opened (pattern : String) (latency : Duration) :
      Steps s (.openScan pattern latency)
        { s with scans := s.scans ++ [⟨⟨.fresh pattern, latency.awaited⟩, none, none⟩] } []
  /-- A scan waits for its handle or for its turn. -/
  | waited (index : Nat) (p : PolledScan) (there : s.scans[index]? = some p)
      (unready : ¬ (p.slow.cost = .zero ∧ p.clock = none)) :
      Steps s (.wait index) { s with scans := s.scans.set index (p.waiting s.time) }
        (note index s.time p)
  /-- A scan reads the clock. -/
  | looked (index : Nat) (p : PolledScan) (there : s.scans[index]? = some p)
      (elapsed : p.due s.time ≤ s.time)
      (unread : p.slow.scan.remaining = none) (unlooked : p.clock = none) :
      Steps s (.look index) { s with scans := s.scans.set index (p.looked s.time s.store.now) }
        (note index s.time p)
  /-- A scan answers. -/
  | polled (index : Nat) (p : PolledScan) (there : s.scans[index]? = some p)
      (elapsed : p.due s.time ≤ s.time) :
      Steps s (.poll index) { s with scans := s.scans.set index (p.answered s.time s.store) }
        (note index s.time p ++ [.yielded index (p.slow.scan.next (p.view s.store)).1])

/-- Every move comes about in one of these ways. -/
theorem steps_of_step? (stepped : s.step? move = some (next, shown)) : Steps s move next shown := by
  cases move with
  | call command =>
    obtain ⟨rfl, rfl⟩ := Prod.mk.inj (Option.some.inj stepped)
    exact .called command
  | pass length =>
    obtain ⟨rfl, rfl⟩ := Prod.mk.inj (Option.some.inj stepped)
    exact .passed length
  | openScan pattern latency =>
    obtain ⟨rfl, rfl⟩ := Prod.mk.inj (Option.some.inj stepped)
    exact .opened pattern latency
  | wait index =>
    simp only [step?] at stepped
    split at stepped
    · cases stepped
    · next p there =>
      obtain ⟨unready, made⟩ := Option.ite_none_left_eq_some.mp stepped
      obtain ⟨rfl, rfl⟩ := Prod.mk.inj (Option.some.inj made)
      exact .waited index p there unready
  | look index =>
    simp only [step?] at stepped
    split at stepped
    · cases stepped
    · next p there =>
      obtain ⟨⟨elapsed, unread, unlooked⟩, made⟩ := Option.ite_none_right_eq_some.mp stepped
      obtain ⟨rfl, rfl⟩ := Prod.mk.inj (Option.some.inj made)
      exact .looked index p there elapsed unread unlooked
  | poll index =>
    simp only [step?] at stepped
    split at stepped
    · cases stepped
    · next p there =>
      obtain ⟨elapsed, made⟩ := Option.ite_none_right_eq_some.mp stepped
      obtain ⟨rfl, rfl⟩ := Prod.mk.inj (Option.some.inj made)
      exact .polled index p there elapsed

/-- The clock of the store never goes back. -/
theorem now_le_along (ran : s.run? moves = some (next, log)) : s.store.now ≤ next.store.now := by
  refine Execution.induction_along (motive := fun _ next _ => s.store.now ≤ next.store.now)
    (Nat.le_refl _) ?_ ran
  intro moves move mid before next shown reached inductionHypothesis stepped
  refine Nat.le_trans inductionHypothesis ?_
  cases steps_of_step? stepped with
  | called command => exact Store.now_le_run _ command
  | _ => exact Nat.le_refl _

/-- A scan that has yielded nothing is to read the clock in the state `begun`, to which the moves
`first` led. Its handle has taken its time. -/
structure Begins (start : OpenScans) (index : Nat) (p : PolledScan) (first : List Move)
    (begun : OpenScans) :
    Prop where
  reached : ∃ early, start.run? first = some (begun, early) ∧ yields index early = []
  waited : ∃ moment, p.asked = some moment ∧ moment + p.slow.latency.nanos ≤ begun.time

/-- A scan has read the clock in the state `begun` and the entries in the state `mid`, to which the
moves `middle` led from there. The first of these moves was that reading of the clock, or else both
were read at once. -/
structure ReadAt (start : OpenScans) (index : Nat) (moves : List Move) (p : PolledScan)
    (first middle : List Move) (begun mid : OpenScans) : Prop where
  begins : Begins start index p first begun
  split : ∃ after, moves = first ++ middle ++ .poll index :: after
  looks : middle = [] ∨ ∃ rest, middle = .look index :: rest
  reached : ∃ early, start.run? (first ++ middle) = some (mid, early) ∧ yields index early = []

/-- What was noted of a scan and its state account for each other. -/
structure Tracked (start : OpenScans) (index : Nat) (moves : List Move) (log : List Event)
    (time : Nat) (p : PolledScan) : Prop where
  requests : requests index log = p.asked.toList
  asked : ∀ moment, p.asked = some moment → moment ≤ time
  unread : p.slow.scan.remaining = none → yields index log = []
  looked : ∀ now, p.clock = some now → p.slow.scan.remaining = none ∧ ∃ first begun,
    Begins start index p first begun ∧ begun.store.now = now ∧
    ∃ rest, moves = first ++ .look index :: rest
  read : ∀ left, p.slow.scan.remaining = some left → ∃ first middle begun mid,
    ReadAt start index moves p first middle begun mid ∧
      Handed ((mid.store.asOf begun.store.now).keys p.slow.scan.pattern) left (yields index log)

/-- Whether a scan can read the store depends on its handle and on the moment at which it was
asked. -/
theorem Begins.congr {first : List Move} {begun : OpenScans} {after : PolledScan}
    (begins : Begins start index p first begun) (handle : after.slow.latency = p.slow.latency)
    (asked : ∀ moment, p.asked = some moment → after.asked = some moment) :
    Begins start index after first begun := by
  obtain ⟨reached, moment, known, waited⟩ := begins
  exact ⟨reached, moment, asked moment known, by rwa [handle]⟩

/-- A scan that has read the store has done so whatever moves come later. -/
theorem ReadAt.later {first middle : List Move} {begun mid : OpenScans} {after : PolledScan}
    (read : ReadAt start index moves p first middle begun mid) (move : Move)
    (handle : after.slow.latency = p.slow.latency)
    (asked : ∀ moment, p.asked = some moment → after.asked = some moment) :
    ReadAt start index (moves ++ [move]) after first middle begun mid := by
  obtain ⟨begins, ⟨rest, rfl⟩, looks, reached⟩ := read
  exact ⟨begins.congr handle asked, ⟨rest ++ [move], List.append_assoc ..⟩, looks, reached⟩

/-- What happens to others does not concern a scan. -/
theorem Tracked.aside (tracked : Tracked start index moves log time p) (move : Move) {later : Nat}
    (unasked : OpenScans.requests index shown = []) (silent : yields index shown = [])
    (ordered : time ≤ later) :
    Tracked start index (moves ++ [move]) (log ++ shown) later p where
  requests := by rw [requests_append, unasked, List.append_nil, tracked.requests]
  asked moment known := Nat.le_trans (tracked.asked moment known) ordered
  unread unread := by rw [yields_append, silent, List.append_nil, tracked.unread unread]
  looked now known := by
    obtain ⟨unread, first, begun, begins, same, rest, rfl⟩ := tracked.looked now known
    exact ⟨unread, first, begun, begins, same, rest ++ [move], List.append_assoc ..⟩
  read left fixed := by
    obtain ⟨first, middle, begun, mid, read, handed⟩ := tracked.read left fixed
    refine ⟨first, middle, begun, mid, read.later move rfl fun _ => id, ?_⟩
    rwa [yields_append, silent, List.append_nil]

/-- A scan that may wait has not read the entries: its handle still costs something, or it has read
the clock only. -/
theorem Tracked.remaining_of_unready (tracked : Tracked start index moves log time p)
    (unready : ¬ (p.slow.cost = .zero ∧ p.clock = none)) : p.slow.scan.remaining = none := by
  by_contra fixed
  refine unready ⟨?_, Option.eq_none_iff_forall_ne_some.mpr fun now known =>
    fixed (tracked.looked now known).1⟩
  rw [SlowScan.cost, Option.isNone_eq_false_iff.mpr (Option.isSome_iff_ne_none.mpr fixed)]
  rfl

/-- The first poll was not later than this one. -/
theorem Tracked.first_le (tracked : Tracked start index moves log time p) :
    p.asked.getD time ≤ time := by
  cases asked : p.asked with
  | none => exact Nat.le_refl time
  | some first => exact tracked.asked first asked

/-- A scan that was polled before was asked for its first item then. -/
theorem asked_waiting {moment : Nat} (p : PolledScan) (time : Nat) (known : p.asked = some moment) :
    (p.waiting time).asked = some moment := by
  rw [PolledScan.waiting, known]
  rfl

/-- A scan that waits has read nothing, or the clock only. -/
theorem Tracked.waiting (tracked : Tracked start index moves log time p)
    (unready : ¬ (p.slow.cost = .zero ∧ p.clock = none)) :
    Tracked start index (moves ++ [.wait index]) (log ++ note index time p) time
      (p.waiting time) where
  requests := by rw [requests_append, tracked.requests, requests_note_self]; rfl
  asked moment known := Option.some.inj known ▸ tracked.first_le
  unread unread := by rw [yields_append, yields_note, List.append_nil, tracked.unread unread]
  looked now known := by
    obtain ⟨unread, first, begun, begins, same, rest, rfl⟩ := tracked.looked now known
    exact ⟨unread, first, begun, begins.congr rfl fun _ => asked_waiting p time, same,
      rest ++ [.wait index], List.append_assoc ..⟩
  read left fixed := by
    have unread := tracked.remaining_of_unready unready
    rw [show p.slow.scan.remaining = some left from fixed] at unread
    cases unread

/-- A scan whose wait for its handle is over reads the clock, or both the clock and the entries,
now. -/
theorem Tracked.begins (tracked : Tracked start index moves log s.time p)
    (elapsed : p.due s.time ≤ s.time) (unread : p.slow.scan.remaining = none)
    (ran : start.run? moves = some (s, log)) :
    Begins start index (p.waiting s.time) moves s := by
  refine ⟨⟨log, ran, tracked.unread unread⟩, _, rfl, ?_⟩
  have cost : p.slow.cost = p.slow.latency := by simp [SlowScan.cost, unread]
  rwa [PolledScan.due, cost] at elapsed

/-- A scan that reads the clock does so now. -/
theorem Tracked.looking (tracked : Tracked start index moves log s.time p)
    (elapsed : p.due s.time ≤ s.time) (unread : p.slow.scan.remaining = none)
    (ran : start.run? moves = some (s, log)) :
    Tracked start index (moves ++ [.look index]) (log ++ note index s.time p) s.time
      (p.looked s.time s.store.now) where
  requests := by rw [requests_append, tracked.requests, requests_note_self]; rfl
  asked moment known := Option.some.inj known ▸ tracked.first_le
  unread unread := by rw [yields_append, yields_note, List.append_nil, tracked.unread unread]
  looked now known := by
    obtain rfl := Option.some.inj known
    exact ⟨unread, moves, s, (tracked.begins elapsed unread ran).congr rfl fun _ => id,
      rfl, [], rfl⟩
  read left fixed := by
    rw [show p.slow.scan.remaining = some left from fixed] at unread
    cases unread

/-- A scan that answers for the first time reads the entries now, by the clock that it has read
before or else reads now. -/
theorem Tracked.reads (tracked : Tracked start index moves log s.time p)
    (elapsed : p.due s.time ≤ s.time) (unread : p.slow.scan.remaining = none)
    (ran : start.run? moves = some (s, log)) :
    ∃ first middle begun, ReadAt start index (moves ++ [.poll index]) (p.waiting s.time) first
      middle begun s ∧ p.view s.store = s.store.asOf begun.store.now := by
  have silent := tracked.unread unread
  cases known : p.clock with
  | none =>
    refine ⟨moves, [], s, ⟨tracked.begins elapsed unread ran, ⟨[], ?_⟩, Or.inl rfl, log, ?_,
      silent⟩, ?_⟩
    · rw [List.append_nil]
    · rw [List.append_nil, ran]
    · rw [PolledScan.view_eq known, Store.asOf_now]
  | some now =>
    obtain ⟨-, first, begun, begins, rfl, rest, rfl⟩ := tracked.looked now known
    refine ⟨first, .look index :: rest, begun,
      ⟨?_, ⟨[], rfl⟩, Or.inr ⟨rest, rfl⟩, log, ran, silent⟩, ?_⟩
    · exact begins.congr rfl fun _ => asked_waiting p s.time
    · rw [PolledScan.view, known, Option.getD_some]

/-- A scan that answers for the first time reads the entries now, and after that it reads nothing
any more. -/
theorem Tracked.answered (tracked : Tracked start index moves log s.time p)
    (elapsed : p.due s.time ≤ s.time) (ran : start.run? moves = some (s, log)) :
    Tracked start index (moves ++ [.poll index])
      (log ++ (note index s.time p ++ [.yielded index (p.slow.scan.next (p.view s.store)).1]))
      s.time (p.answered s.time s.store) := by
  obtain ⟨first, others⟩ := p.slow.scan.next_eq (p.view s.store)
  have told : yields index (log ++ (note index s.time p ++
      [.yielded index (p.slow.scan.next (p.view s.store)).1])) =
      yields index log ++ [(p.slow.scan.upcoming (p.view s.store)).head?] := by
    rw [yields_append, yields_append, yields_note, first]
    simp [yielded?]
  have pattern : (p.answered s.time s.store).slow.scan.pattern = p.slow.scan.pattern := by
    rw [PolledScan.answered, others]
  constructor
  case requests =>
    rw [requests_append, requests_append, ← List.append_assoc, tracked.requests, requests_note_self]
    rfl
  case asked => exact fun moment known => Option.some.inj known ▸ tracked.first_le
  case unread =>
    intro unread
    rw [PolledScan.answered, others] at unread
    cases unread
  case looked => exact nofun
  case read =>
    intro left fixed
    rw [PolledScan.answered, others] at fixed
    obtain rfl := Option.some.inj fixed
    rw [told, pattern]
    cases remaining : p.slow.scan.remaining with
    | none =>
      obtain ⟨first, middle, begun, read, view⟩ := tracked.reads elapsed remaining ran
      have upcoming : p.slow.scan.upcoming (p.view s.store) =
          (s.store.asOf begun.store.now).keys p.slow.scan.pattern := by
        rw [Scan.upcoming, remaining, Option.getD_none, view]
      refine ⟨first, middle, begun, s, ⟨read.begins.congr rfl fun _ => id, read.split, read.looks,
        read.reached⟩, ?_⟩
      rw [tracked.unread remaining, upcoming]
      exact (Handed.start _).next
    | some rest =>
      have upcoming : p.slow.scan.upcoming (p.view s.store) = rest := by
        rw [Scan.upcoming, remaining, Option.getD_some]
      obtain ⟨first, middle, begun, mid, read, handed⟩ := tracked.read rest remaining
      refine ⟨first, middle, begun, mid, read.later _ rfl fun _ => asked_waiting p s.time, ?_⟩
      rw [upcoming]
      exact handed.next

/-- The notes of an execution and the open scans account for each other. -/
structure Account (start : OpenScans) (moves : List Move) (s : OpenScans)
    (log : List Event) : Prop where
  store : s.store = start.store.served (calls moves)
  opened : s.scans.map PolledScan.origin = (openings moves).map (Prod.map id Duration.awaited)
  tracked : ∀ index p, s.scans[index]? = some p → Tracked start index moves log s.time p
  unopened : ∀ index, s.scans.length ≤ index → requests index log = [] ∧ yields index log = []
  polls : ∀ index, (yields index log).length = moves.countP (Move.isPoll index)

/-- Before the first scan is opened there is nothing to account for. -/
theorem Account.fresh (store : Store) (time : Nat) :
    Account (.fresh store time) [] (.fresh store time) [] where
  store := rfl
  opened := rfl
  tracked := nofun
  unopened _ _ := ⟨rfl, rfl⟩
  polls _ := rfl

/-- Only clients change the store. -/
theorem Account.store_step (account : Account start moves s log) (steps : Steps s move next shown) :
    next.store = start.store.served (calls (moves ++ [move])) := by
  rw [calls_append, Store.served_append, ← account.store]
  cases steps <;> rfl

/-- A poll changes neither the pattern of a scan nor its handle. -/
theorem map_origin_set {after : PolledScan} (there : s.scans[index]? = some p)
    (same : after.origin = p.origin) :
    (s.scans.set index after).map PolledScan.origin = s.scans.map PolledScan.origin := by
  obtain ⟨inside, rfl⟩ := List.getElem?_eq_some_iff.mp there
  rw [List.map_set, same, ← List.getElem_map PolledScan.origin (h := by simpa using inside)]
  exact List.set_getElem_self _

/-- A scan keeps its pattern and its handle. -/
theorem Account.opened_step (account : Account start moves s log)
    (steps : Steps s move next shown) :
    next.scans.map PolledScan.origin =
      (openings (moves ++ [move])).map (Prod.map id Duration.awaited) := by
  rw [openings_append, List.map_append, ← account.opened]
  cases steps with
  | called command => exact (List.append_nil _).symm
  | passed length => exact (List.append_nil _).symm
  | opened pattern latency => exact List.map_append
  | waited index p there =>
    have same : (p.waiting s.time).origin = p.origin := rfl
    exact (map_origin_set there same).trans (List.append_nil _).symm
  | looked index p there =>
    have same : (p.looked s.time s.store.now).origin = p.origin := rfl
    exact (map_origin_set there same).trans (List.append_nil _).symm
  | polled index p there =>
    have same : (p.answered s.time s.store).origin = p.origin := by
      rw [PolledScan.origin, PolledScan.answered, (p.slow.scan.next_eq (p.view s.store)).2]
      rfl
    exact (map_origin_set there same).trans (List.append_nil _).symm

/-- A scan that is there once one was replaced is the new one, or it was there before. -/
theorem scan_of_set {other : Nat} {after : PolledScan}
    (there : (s.scans.set other after)[index]? = some p) :
    other = index ∧ after = p ∨ other ≠ index ∧ s.scans[index]? = some p := by
  rw [List.getElem?_set] at there
  split at there
  · next same =>
    exact Or.inl ⟨same, Option.some.inj (Option.ite_none_right_eq_some.mp there).2⟩
  · next different => exact Or.inr ⟨different, there⟩

/-- What is noted of the scans accounts for their states after every step. -/
theorem Account.tracked_step (account : Account start moves s log)
    (ran : start.run? moves = some (s, log)) (steps : Steps s move next shown)
    (there : next.scans[index]? = some p) :
    Tracked start index (moves ++ [move]) (log ++ shown) next.time p := by
  have tracked := account.tracked
  cases steps with
  | called command => exact (tracked index p there).aside _ rfl rfl (Nat.le_refl _)
  | passed length => exact (tracked index p there).aside _ rfl rfl (Nat.le_add_right ..)
  | opened pattern latency =>
    rw [List.getElem?_append] at there
    split at there
    · exact (tracked index p there).aside _ rfl rfl (Nat.le_refl _)
    · next outside =>
      obtain ⟨unasked, silent⟩ := account.unopened index (Nat.le_of_not_lt outside)
      rw [List.getElem?_singleton] at there
      obtain ⟨-, made⟩ := Option.ite_none_right_eq_some.mp there
      obtain rfl := Option.some.inj made
      rw [List.append_nil]
      exact ⟨unasked, nofun, fun _ => silent, nofun, nofun⟩
  | waited other q found unready =>
    rcases scan_of_set there with ⟨rfl, rfl⟩ | ⟨different, there⟩
    · exact (tracked other q found).waiting unready
    · exact (tracked index p there).aside _ (requests_note_other different) yields_note
        (Nat.le_refl _)
  | looked other q found elapsed unread =>
    rcases scan_of_set there with ⟨rfl, rfl⟩ | ⟨different, there⟩
    · exact (tracked other q found).looking elapsed unread ran
    · exact (tracked index p there).aside _ (requests_note_other different) yields_note
        (Nat.le_refl _)
  | polled other q found elapsed =>
    rcases scan_of_set there with ⟨rfl, rfl⟩ | ⟨different, there⟩
    · exact (tracked other q found).answered elapsed ran
    · refine (tracked index p there).aside _ ?_ ?_ (Nat.le_refl _)
      · simp [requests_note_other different, asked?]
      · simp [yields_note, yielded?, different]

/-- Nothing is noted of a scan before it is opened. -/
theorem Account.unopened_step (account : Account start moves s log)
    (steps : Steps s move next shown) (absent : next.scans.length ≤ index) :
    requests index (log ++ shown) = [] ∧ yields index (log ++ shown) = [] := by
  have unopened := account.unopened index
  -- A scan that is polled has been opened.
  have apart {other : Nat} {q after : PolledScan} (there : s.scans[other]? = some q)
      (absent : (s.scans.set other after).length ≤ index) :
      s.scans.length ≤ index ∧ other ≠ index := by
    rw [List.length_set] at absent
    have inside := (List.getElem?_eq_some_iff.mp there).1
    exact ⟨absent, Nat.ne_of_lt (Nat.lt_of_lt_of_le inside absent)⟩
  cases steps with
  | called command => simpa using unopened absent
  | passed length => simpa using unopened absent
  | opened pattern latency =>
    rw [List.length_append] at absent
    simpa using unopened (Nat.le_of_add_right_le absent)
  | waited other q there =>
    obtain ⟨outside, different⟩ := apart there absent
    simpa [requests_note_other different, yields_note] using unopened outside
  | looked other q there =>
    obtain ⟨outside, different⟩ := apart there absent
    simpa [requests_note_other different, yields_note] using unopened outside
  | polled other q there =>
    obtain ⟨outside, different⟩ := apart there absent
    simpa [requests_note_other different, yields_note, asked?, yielded?, different] using
      unopened outside

/-- Every poll that answers yields one item. -/
theorem Account.polls_step (account : Account start moves s log) (steps : Steps s move next shown)
    (index : Nat) :
    (yields index (log ++ shown)).length = (moves ++ [move]).countP (Move.isPoll index) := by
  rw [yields_append, List.length_append, List.countP_append, account.polls index]
  congr 1
  cases steps with
  | waited other q there => simp [yields_note, Move.isPoll]
  | looked other q there => simp [yields_note, Move.isPoll]
  | polled other q there =>
    by_cases same : other = index <;> simp [yields_note, yielded?, Move.isPoll, same]
  | _ => rfl

/-- The account is kept up by every execution. -/
theorem account_along {store : Store} (ran : run? (.fresh store time) moves = some (s, log)) :
    Account (.fresh store time) moves s log := by
  refine Execution.induction_along
    (motive := fun moves s log => Account (.fresh store time) moves s log)
    (Account.fresh store time) ?_ ran
  intro moves move mid before next shown reached account stepped
  have steps := steps_of_step? stepped
  exact ⟨account.store_step steps, account.opened_step steps, fun _ _ =>
    account.tracked_step reached steps,
    fun _ => account.unopened_step steps, account.polls_step steps⟩

/-- The clock is read no later than the entries. -/
theorem ReadAt.ordered {first middle : List Move} {begun mid : OpenScans}
    (read : ReadAt start index moves p first middle begun mid) :
    begun.store.now ≤ mid.store.now := by
  obtain ⟨early, led, -⟩ := read.begins.reached
  obtain ⟨whole, reached, -⟩ := read.reached
  obtain ⟨between, _, _, there, onward, -⟩ := Execution.run?_append_iff.mp reached
  obtain ⟨rfl, -⟩ := Prod.mk.inj (Option.some.inj (there.symm.trans led))
  exact now_le_along onward

/-- The open scans as those of a session with a handle of some latency. -/
def session (s : OpenScans) (latency : Duration) : Session :=
  ⟨s.store, latency, s.scans.map (·.slow)⟩

/-- A poll that reads the clock and the entries at once does to the scans what a session does that
takes the next key. -/
theorem session_polled (s : OpenScans) (latency : Duration) (time : Nat)
    (there : s.scans[index]? = some p) (unlooked : p.clock = none) :
    (s.session latency).run (.nextKey index) = (.text (p.slow.scan.next s.store).1, p.slow.cost,
      { s with scans := s.scans.set index (p.answered time s.store) : OpenScans }.session
        latency) := by
  have listed : (s.session latency).scans[index]? = some p.slow := by simp [session, there]
  simp only [Session.run, listed]
  simp [session, PolledScan.answered, PolledScan.view_eq unlooked, List.map_set]

/-- A session that takes the next key of a scan polls it, lets its handle take its time, and polls
it again. What this costs is the time that passes. -/
theorem session_polls (latency : Duration) (there : s.scans[index]? = some p)
    (unlooked : p.clock = none) (past : p.asked.getD s.time ≤ s.time) :
    ∃ moves after log, s.run? moves = some (after, log) ∧
      (s.session latency).run (.nextKey index) =
        (.text (p.slow.scan.next s.store).1, ⟨after.time - s.time⟩, after.session latency) ∧
      yields index log = [(p.slow.scan.next s.store).1] := by
  have answer := s.session_polled latency s.time there unlooked
  by_cases paid : p.slow.cost = .zero
  · have elapsed : p.due s.time ≤ s.time := by
      rw [PolledScan.due, paid]
      exact past
    refine ⟨[.poll index], { s with scans := s.scans.set index (p.answered s.time s.store) },
      note index s.time p ++ [.yielded index (p.slow.scan.next s.store).1], ?_, ?_, ?_⟩
    · simp [Execution.run?, step?, there, elapsed, PolledScan.view_eq unlooked]
    · rw [answer, paid]
      simp [Duration.zero]
    · simp [yields_note, yielded?]
  · have inside := (List.getElem?_eq_some_iff.mp there).1
    have unready : ¬ (p.slow.cost = .zero ∧ p.clock = none) := fun ready => paid ready.1
    have elapsed : (p.waiting s.time).due (s.time + p.slow.cost.nanos) ≤
        s.time + p.slow.cost.nanos :=
      Nat.add_le_add_right past _
    refine ⟨[.wait index, .pass p.slow.cost, .poll index],
      { s with
        time := s.time + p.slow.cost.nanos
        scans := s.scans.set index (p.answered s.time s.store) },
      note index s.time p ++ [.yielded index (p.slow.scan.next s.store).1], ?_, ?_, ?_⟩
    · have known : (s.scans.set index (p.waiting s.time))[index]? = some (p.waiting s.time) :=
        List.getElem?_set_self inside
      have view : (p.waiting s.time).view s.store = s.store := PolledScan.view_eq unlooked
      simp only [Execution.run?, step?, there, unready, known, elapsed, view, if_true, if_false,
        List.set_set]
      rfl
    · rw [answer]
      simp [session]
    · simp [yields_note, yielded?]

end OpenScans

end KeySweeper
