import KeySweeper.Proofs.Draining
import KeySweeper.Proofs.Execution
import KeySweeper.Server.Paging

/-!
# What a scan in pages yields

A scan over a server as its client polls it. A poll that finds a key at hand yields it; otherwise it
asks for the next page, waits for the reply, perhaps over many polls, and goes on with what has
come. What the server replies is up to the server: pages may be empty or long, cursors may come
again or in any order, keys may repeat.

The account is an equation between lists: the keys yielded and the keys at hand are the keys of all
pages that have come, in order. A page is asked for only when no key is at hand, so at that moment
everything that has come was yielded. The scan is over for good once a page with the cursor zero or
an error has come and what is at hand was yielded.

The scan that runs against replies laid down beforehand makes these very steps, one poll to its end
for each item.
-/

namespace KeySweeper

/-- What comes back from the request for a page: the cursor of the next page with the keys of this
one, or an error. -/
abbrev PageReply := Except ServerError (Nat × List String)

namespace PageReply

/-- Whether another page is to be asked for after this reply. -/
def goesOn : PageReply → Bool
  | .ok page => page.1 != 0
  | .error _ => false

/-- The items that a reply brings: its keys, or its error. -/
def items : PageReply → List PageScan.Item
  | .ok page => page.2.map .ok
  | .error e => [.error e]

/-- The cursor that a reply names; an error names none. -/
def cursor : PageReply → Nat
  | .ok page => page.1
  | .error _ => 0

/-- Replies up to the first one after which no page is to be asked for. -/
def Conclusive (replies : List PageReply) : Prop :=
  ∃ pages last, replies = pages ++ [last] ∧ (∀ page ∈ pages, goesOn page = true) ∧
    goesOn last = false

variable {early script : List PageReply}

/-- A reply after which nothing is to be asked for comes only at the end. -/
theorem Conclusive.eq_of_prefix (conclusive : Conclusive script) (concluded : Conclusive early)
    (begins : early <+: script) : early = script := by
  obtain ⟨pages, last, rfl, going, -⟩ := conclusive
  obtain ⟨before, final, rfl, -, halts⟩ := concluded
  rcases List.prefix_concat_iff.mp begins with same | shorter
  · exact same
  · have member : final ∈ pages := shorter.subset (List.mem_append_right before List.mem_cons_self)
    rw [going final member] at halts
    cases halts

/-- Replies that all ask the scan to go on are not all that come. -/
theorem Conclusive.length_lt (conclusive : Conclusive script)
    (going : ∀ reply ∈ early, goesOn reply = true)
    (begins : early <+: script) : early.length < script.length := by
  apply Nat.lt_of_le_of_ne begins.length_le
  intro same
  obtain rfl := begins.eq_of_length same
  obtain ⟨pages, last, rfl, -, halts⟩ := conclusive
  rw [going last (List.mem_append_right pages List.mem_cons_self)] at halts
  cases halts

end PageReply

/-- A scan in pages, as its client polls it. -/
structure PageStream where
  /-- The scan. -/
  scan : PageScan
  /-- Whether a page was asked for that has not come yet. -/
  asking : Bool
deriving DecidableEq, Repr

namespace PageStream

/-- What a poll comes to next. -/
inductive Move where
  /-- Nothing is asked for: the poll yields an item that is at hand, or the end, or else asks for a
  page. -/
  | advance
  /-- The page has not come, and the poll is over without an item. -/
  | wait
  /-- The reply has come. -/
  | receive (reply : PageReply)
deriving Repr

/-- What is noted of a scan that is polled. -/
inductive Event where
  /-- A page was asked for with these arguments. -/
  | asked (arguments : List String)
  /-- The reply has come. -/
  | received (reply : PageReply)
  /-- A poll was over without an item. -/
  | waited
  /-- A poll has yielded an item, or the end. -/
  | yielded (item : Option PageScan.Item)
deriving Repr

/-- Whether a move is one that waits for nothing. -/
def Move.isWork : Move → Bool
  | .wait => false
  | _ => true

/-- The scan after a move, with what is noted of it. There is none if the move cannot be made
now. -/
def step? (s : PageStream) : Move → Option (PageStream × List Event)
  | .advance =>
    if s.asking then none
    else
      match s.scan.local? with
      | some (item, scan) => some (⟨scan, false⟩, [.yielded (item.map .ok)])
      | none => some (⟨s.scan, true⟩, [.asked s.scan.requestArguments])
  | .wait => if s.asking then some (s, [.waited]) else none
  | .receive reply =>
    if s.asking then
      match reply with
      | .ok (cursor, keys) => some (⟨s.scan.withPage cursor keys, false⟩, [.received reply])
      | .error e => some (⟨s.scan.failed, false⟩, [.received reply, .yielded (some (.error e))])
    else none

/-- The scan after an execution, with all that was noted. -/
abbrev run? : PageStream → List Move → Option (PageStream × List Event) := Execution.run? step?

/-- A scan that was opened and not polled yet. -/
def fresh (pattern : String) (count : Nat) : PageStream := ⟨.fresh pattern count, false⟩

/-- The arguments of the request that was made. -/
def asked? : Event → Option (List String)
  | .asked arguments => some arguments
  | _ => none

/-- The reply that has come. -/
def received? : Event → Option PageReply
  | .received reply => some reply
  | _ => none

/-- The item, or the end, that was yielded. -/
def yielded? : Event → Option (Option PageScan.Item)
  | .yielded item => some item
  | _ => none

/-- The arguments of all requests, in order. -/
def requests (log : List Event) : List (List String) := log.filterMap asked?

/-- All replies that have come, in order. -/
def replies (log : List Event) : List PageReply := log.filterMap received?

/-- All that was yielded, in order. -/
def yields (log : List Event) : List (Option PageScan.Item) := log.filterMap yielded?

@[simp] theorem requests_append (log later : List Event) :
    requests (log ++ later) = requests log ++ requests later :=
  List.filterMap_append

@[simp] theorem replies_append (log later : List Event) :
    replies (log ++ later) = replies log ++ replies later :=
  List.filterMap_append

@[simp] theorem yields_append (log later : List Event) :
    yields (log ++ later) = yields log ++ yields later :=
  List.filterMap_append

@[simp] theorem requests_nil : requests [] = [] := rfl

@[simp] theorem replies_nil : replies [] = [] := rfl

@[simp] theorem yields_nil : yields [] = [] := rfl

@[simp] theorem requests_cons (event : Event) (log : List Event) :
    requests (event :: log) = (asked? event).toList ++ requests log := by
  cases read : asked? event <;> simp [requests, read]

@[simp] theorem replies_cons (event : Event) (log : List Event) :
    replies (event :: log) = (received? event).toList ++ replies log := by
  cases read : received? event <;> simp [replies, read]

@[simp] theorem yields_cons (event : Event) (log : List Event) :
    yields (event :: log) = (yielded? event).toList ++ yields log := by
  cases read : yielded? event <;> simp [yields, read]

/-- The arguments of the request for the page at a cursor. -/
def argumentsAt (pattern : String) (count cursor : Nat) : List String :=
  [toString cursor, "MATCH", pattern, "COUNT", toString count]

variable {s next : PageStream} {move : Move} {moves : List Move} {shown log : List Event}

/-- The ways in which a move can come about. -/
inductive Steps (s : PageStream) : Move → PageStream → List Event → Prop where
  /-- A key is at hand and is yielded. -/
  | yielded (key : String) (rest : List String) (idle : s.asking = false)
      (atHand : s.scan.pending = key :: rest) :
      Steps s .advance ⟨{ s.scan with pending := rest }, false⟩ [.yielded (some (.ok key))]
  /-- The scan is over. -/
  | ended (idle : s.asking = false) (empty : s.scan.pending = [])
      (finished : s.scan.finished = true) :
      Steps s .advance ⟨s.scan, false⟩ [.yielded none]
  /-- The next page is asked for. -/
  | asked (idle : s.asking = false) (empty : s.scan.pending = [])
      (unfinished : s.scan.finished = false) :
      Steps s .advance ⟨s.scan, true⟩
        [.asked (argumentsAt s.scan.pattern s.scan.count s.scan.cursor)]
  /-- The reply has not come. -/
  | waited (asking : s.asking = true) : Steps s .wait s [.waited]
  /-- A page has come. -/
  | page (cursor : Nat) (keys : List String) (asking : s.asking = true) :
      Steps s (.receive (.ok (cursor, keys))) ⟨s.scan.withPage cursor keys, false⟩
        [.received (.ok (cursor, keys))]
  /-- The request has failed. -/
  | failed (e : ServerError) (asking : s.asking = true) :
      Steps s (.receive (.error e)) ⟨s.scan.failed, false⟩ [.received (.error e),
        .yielded (some (.error e))]

/-- Every move comes about in one of these ways. -/
theorem steps_of_step? (stepped : s.step? move = some (next, shown)) : Steps s move next shown := by
  cases move with
  | advance =>
    simp only [step?] at stepped
    split at stepped
    · cases stepped
    · next unasked =>
      have idle : s.asking = false := by simpa using unasked
      cases atHand : s.scan.pending with
      | cons key rest =>
        simp only [PageScan.local?, atHand] at stepped
        obtain ⟨rfl, rfl⟩ := Prod.mk.inj (Option.some.inj stepped)
        exact .yielded key rest idle atHand
      | nil =>
        cases finished : s.scan.finished with
        | true =>
          simp only [PageScan.local?, atHand, finished, if_true] at stepped
          obtain ⟨rfl, rfl⟩ := Prod.mk.inj (Option.some.inj stepped)
          exact .ended idle atHand finished
        | false =>
          simp only [PageScan.local?, atHand, finished, Bool.false_eq_true, if_false] at stepped
          obtain ⟨rfl, rfl⟩ := Prod.mk.inj (Option.some.inj stepped)
          exact .asked idle atHand finished
  | wait =>
    simp only [step?, Option.ite_none_right_eq_some] at stepped
    obtain ⟨asking, made⟩ := stepped
    obtain ⟨rfl, rfl⟩ := Prod.mk.inj (Option.some.inj made)
    exact .waited asking
  | receive reply =>
    simp only [step?, Option.ite_none_right_eq_some] at stepped
    obtain ⟨asking, made⟩ := stepped
    cases reply with
    | ok page =>
      obtain ⟨rfl, rfl⟩ := Prod.mk.inj (Option.some.inj made)
      exact .page page.1 page.2 asking
    | error e =>
      obtain ⟨rfl, rfl⟩ := Prod.mk.inj (Option.some.inj made)
      exact .failed e asking

/-- Where a scan stands after these replies: it is over, or it goes on at this cursor. -/
inductive Stands (replies : List PageReply) : Bool → Nat → Prop where
  /-- All replies ask the scan to go on, and it does so where the last one says. -/
  | going {cursor : Nat} (going : ∀ reply ∈ replies, reply.goesOn = true)
      (last : (0 :: replies.map PageReply.cursor)[replies.length]? = some cursor) :
      Stands replies false cursor
  /-- The last reply has ended the scan, and it was the first that did. -/
  | concluded {cursor : Nat} (conclusive : PageReply.Conclusive replies) :
      Stands replies true cursor

/-- A page comes to a scan that was going on. -/
theorem Stands.page {replies : List PageReply} {before : Nat} (stands : Stands replies false before)
    (cursor : Nat)
    (keys : List String) : Stands (replies ++ [.ok (cursor, keys)]) (cursor == 0) cursor := by
  cases stands with
  | going going last =>
    cases zero : cursor == 0 with
    | true =>
      exact .concluded ⟨replies, .ok (cursor, keys), rfl, going,
        by simpa [PageReply.goesOn] using zero⟩
    | false =>
      refine .going (fun reply member => ?_) (by simp [PageReply.cursor])
      rcases List.mem_append.mp member with earlier | now
      · exact going reply earlier
      · rw [List.mem_singleton.mp now, PageReply.goesOn, bne, zero]
        rfl

/-- An error ends a scan that was going on. -/
theorem Stands.failed {replies : List PageReply} {before : Nat}
    (stands : Stands replies false before)
    (e : ServerError) : Stands (replies ++ [.error e]) true before := by
  cases stands with
  | going going last => exact .concluded ⟨replies, .error e, rfl, going, rfl⟩

/-- The notes of an execution and the scan account for each other. -/
structure Account (pattern : String) (count : Nat) (s : PageStream) (moves : List Move)
    (log : List Event) : Prop where
  told : s.scan.pattern = pattern ∧ s.scan.count = max 1 count
  handed : Handed ((replies log).flatMap PageReply.items) (s.scan.pending.map .ok) (yields log)
  ended : none ∈ yields log → s.scan.finished = true
  requested : requests log =
    ((0 :: (replies log).map PageReply.cursor).take (requests log).length).map
      (argumentsAt pattern (max 1 count))
  answered : (requests log).length = (replies log).length + s.asking.toNat
  stands : Stands (replies log) s.scan.finished s.scan.cursor
  waiting : s.asking = true → s.scan.finished = false ∧ s.scan.pending = []
  work : moves.countP Move.isWork ≤
    (yields log).length + (requests log).length + (replies log).length

/-- Before the first poll there is nothing to account for. -/
theorem Account.fresh (pattern : String) (count : Nat) :
    Account pattern count (.fresh pattern count) [] [] where
  told := ⟨rfl, rfl⟩
  handed := .start []
  ended := nofun
  requested := rfl
  answered := rfl
  stands := .going (List.forall_mem_nil _) rfl
  waiting := Bool.noConfusion
  work := Nat.le_refl 0

variable {pattern : String} {count : Nat}

/-- As long as a scan is not over all replies ask it to go on, and it does so where the last one
says. -/
theorem Account.going (account : Account pattern count s moves log)
    (unfinished : s.scan.finished = false) :
    (∀ reply ∈ replies log, reply.goesOn = true) ∧
      (0 :: (replies log).map PageReply.cursor)[(replies log).length]? = some s.scan.cursor := by
  have stands := account.stands
  rw [unfinished] at stands
  cases stands with
  | going going last => exact ⟨going, last⟩

/-- A scan is over when a reply has come after which nothing is to be asked for, and it was the
first such reply. -/
theorem Account.concluded (account : Account pattern count s moves log)
    (finished : s.scan.finished = true) :
    PageReply.Conclusive (replies log) := by
  have stands := account.stands
  rw [finished] at stands
  cases stands with
  | concluded conclusive => exact conclusive

/-- The pattern and the size of a page stay as they were given. -/
theorem Account.told_step (account : Account pattern count s moves log)
    (steps : Steps s move next shown) :
    next.scan.pattern = pattern ∧ next.scan.count = max 1 count := by
  cases steps <;> exact account.told

/-- While a page is waited for the end was not yielded. -/
theorem Account.unended (account : Account pattern count s moves log)
    (unfinished : s.scan.finished = false) :
    none ∉ yields log := by
  intro ended
  rw [account.ended ended] at unfinished
  cases unfinished

/-- The items yielded and those at hand are the items of the replies that have come. -/
theorem Account.handed_step (account : Account pattern count s moves log)
    (steps : Steps s move next shown) :
    Handed ((replies (log ++ shown)).flatMap PageReply.items) (next.scan.pending.map .ok)
      (yields (log ++ shown)) := by
  have handed := account.handed
  -- What a reply brings comes when nothing is at hand.
  have brought (asking : s.asking = true) (added : List PageScan.Item) :
      Handed ((replies log).flatMap PageReply.items ++ added) added (yields log) := by
    obtain ⟨unfinished, empty⟩ := account.waiting asking
    have more := handed.more (account.unended unfinished) added
    rwa [empty, List.map_nil, List.nil_append] at more
  cases steps with
  | yielded key rest idle atHand => simpa [atHand, received?, yielded?] using handed.next
  | ended idle empty finished => simpa [empty, received?, yielded?] using handed.next
  | asked idle empty unfinished => simpa [received?, yielded?] using handed
  | waited asking => simpa [received?, yielded?] using handed
  | page cursor keys asking =>
    simpa [received?, yielded?, PageReply.items, PageScan.withPage] using
      brought asking (keys.map .ok)
  | failed e asking =>
    simpa [received?, yielded?, PageReply.items, PageScan.failed] using
      (brought asking [.error e]).next

/-- The end is yielded only when the scan is over. -/
theorem Account.ended_step (account : Account pattern count s moves log)
    (steps : Steps s move next shown)
    (ended : none ∈ yields (log ++ shown)) : next.scan.finished = true := by
  have before := account.ended
  cases steps with
  | yielded key rest idle => exact before (by simpa [yielded?] using ended)
  | ended idle empty finished => exact finished
  | asked idle => exact before (by simpa [yielded?] using ended)
  | waited asking => exact before (by simpa [yielded?] using ended)
  | page cursor keys asking =>
    exact absurd (by simpa [yielded?] using ended) (account.unended (account.waiting asking).1)
  | failed e asking => rfl

/-- There are as many requests as replies, and one more while a reply is waited for. -/
theorem Account.answered_step (account : Account pattern count s moves log)
    (steps : Steps s move next shown) :
    (requests (log ++ shown)).length = (replies (log ++ shown)).length + next.asking.toNat := by
  have answered := account.answered
  cases steps with
  | yielded key rest idle => simpa [idle, asked?, received?] using answered
  | ended idle => simpa [idle, asked?, received?] using answered
  | asked idle => simp [idle, asked?, received?, answered]
  | waited asking => simpa [asking, asked?, received?] using answered
  | page cursor keys asking => simpa [asking, asked?, received?] using answered
  | failed e asking => simpa [asking, asked?, received?] using answered

/-- The first request is for the cursor zero, and each later one for the cursor of the reply before
it. -/
theorem Account.requested_step (account : Account pattern count s moves log)
    (steps : Steps s move next shown) :
    requests (log ++ shown) = ((0 :: (replies (log ++ shown)).map PageReply.cursor).take
      (requests (log ++ shown)).length).map (argumentsAt pattern (max 1 count)) := by
  have requested := account.requested
  -- A reply adds a cursor behind those that were asked for.
  have behind (reply : PageReply) (asking : s.asking = true) :
      requests log = ((0 :: (replies log ++ [reply]).map PageReply.cursor).take
        (requests log).length).map (argumentsAt pattern (max 1 count)) := by
    have answered := account.answered
    rw [asking, Bool.toNat_true] at answered
    have within : (requests log).length ≤ (0 :: (replies log).map PageReply.cursor).length := by
      simp [answered]
    rw [List.map_append, ← List.cons_append, List.take_append_of_le_length within]
    exact requested
  cases steps with
  | yielded key rest idle => simpa [asked?, received?] using requested
  | ended idle => simpa [asked?, received?] using requested
  | waited asking => simpa [asked?, received?] using requested
  | asked idle empty unfinished =>
    have answered := account.answered
    rw [idle, Bool.toNat_false, Nat.add_zero] at answered
    obtain ⟨samePattern, sameCount⟩ := account.told
    obtain ⟨-, now⟩ := account.going unfinished
    rw [← answered] at now
    rw [requests_append, replies_append, List.length_append]
    simp only [requests_cons, replies_cons, asked?, received?, Option.toList, requests_nil,
      replies_nil, List.append_nil, List.length_singleton]
    rw [List.take_add_one, now, List.map_append, ← requested, samePattern, sameCount]
    rfl
  | page cursor keys asking => simpa [asked?, received?] using behind (.ok (cursor, keys)) asking
  | failed e asking => simpa [asked?, received?] using behind (.error e) asking

/-- Only replies bring a scan to another place. -/
theorem Account.stands_step (account : Account pattern count s moves log)
    (steps : Steps s move next shown) :
    Stands (replies (log ++ shown)) next.scan.finished next.scan.cursor := by
  have stands := account.stands
  have standing (asking : s.asking = true) : Stands (replies log) false s.scan.cursor := by
    rwa [(account.waiting asking).1] at stands
  rw [replies_append]
  cases steps with
  | yielded key rest idle => simpa [received?] using stands
  | ended idle => simpa [received?] using stands
  | asked idle => simpa [received?] using stands
  | waited asking => simpa [received?] using stands
  | page cursor keys asking => exact (standing asking).page cursor keys
  | failed e asking => exact (standing asking).failed e

/-- A reply is waited for only while the scan is not over and no key is at hand. -/
theorem Account.waiting_step (account : Account pattern count s moves log)
    (steps : Steps s move next shown)
    (asking : next.asking = true) : next.scan.finished = false ∧ next.scan.pending = [] := by
  cases steps with
  | asked idle empty unfinished => exact ⟨unfinished, empty⟩
  | waited before => exact account.waiting before
  | _ => cases asking

/-- A move that does not wait yields an item, asks for a page or takes a reply. -/
theorem Account.work_step (account : Account pattern count s moves log)
    (steps : Steps s move next shown) :
    (moves ++ [move]).countP Move.isWork ≤ (yields (log ++ shown)).length +
      (requests (log ++ shown)).length + (replies (log ++ shown)).length := by
  have work := account.work
  rw [List.countP_append, yields_append, requests_append, replies_append, List.length_append,
    List.length_append, List.length_append]
  cases steps <;> simp [Move.isWork, asked?, received?, yielded?] <;> omega

/-- The account is kept up by every execution. -/
theorem account_along (ran : run? (.fresh pattern count) moves = some (s, log)) :
    Account pattern count s moves log := by
  refine Execution.induction_along (motive := fun moves s log => Account pattern count s moves log)
    (Account.fresh pattern count) ?_ ran
  intro moves move mid before next shown _ account stepped
  have steps := steps_of_step? stepped
  exact ⟨account.told_step steps, account.handed_step steps, account.ended_step steps,
    account.requested_step steps, account.answered_step steps, account.stands_step steps,
    account.waiting_step steps, account.work_step steps⟩

/-- What a scan with this pattern and this size of a page yields and asks for when the server gives
these replies. -/
structure Exact (pattern : String) (count : Nat) (script : List PageReply) (s : PageStream)
    (moves : List Move) (log : List Event) : Prop where
  /-- The keys of all pages are yielded in order and then the error if there is one, and from then
  on the end. -/
  yielded : yields log <+: (script.flatMap PageReply.items).map some ++
    List.replicate (yields log).length none
  /-- The first page is asked for at the cursor zero and each other one at the cursor of the reply
  before it, and nothing is asked for after the last reply. -/
  requested : requests log <+:
    (0 :: script.dropLast.map PageReply.cursor).map (argumentsAt pattern (max 1 count))
  /-- A page is asked for only when all keys that have come were yielded, and never after an error
  or the cursor zero. -/
  timely : ∀ move next shown arguments, s.step? move = some (next, shown) →
    .asked arguments ∈ shown →
    yields log = ((replies log).flatMap PageReply.items).map some ∧
    ∀ reply ∈ replies log, reply.goesOn = true
  /-- The moves that wait for nothing are the items yielded, the requests and the replies. -/
  bounded : moves.countP Move.isWork ≤ (yields log).length + 2 * script.length
  /-- The scan can go on by itself, or it has asked for a page and takes any reply. -/
  goesOn : (s.step? .advance).isSome = true ∨ ∀ reply, (s.step? (.receive reply)).isSome = true

/-- As many pages are asked for as there are replies, at most. -/
theorem Account.requests_le {script : List PageReply} (account : Account pattern count s moves log)
    (conclusive : PageReply.Conclusive script) (given : replies log <+: script) :
    (requests log).length ≤ script.length := by
  rw [account.answered]
  cases asking : s.asking with
  | false => exact given.length_le
  | true => exact conclusive.length_lt (account.going (account.waiting asking).1).1 given

/-- What has been yielded is what the replies bring, in order, and then only the end. -/
theorem Account.yielded {script : List PageReply} (account : Account pattern count s moves log)
    (conclusive : PageReply.Conclusive script) (given : replies log <+: script) :
    yields log <+: (script.flatMap PageReply.items).map some ++
      List.replicate (yields log).length none := by
  by_cases ended : none ∈ yields log
  · rw [← conclusive.eq_of_prefix (account.concluded (account.ended ended)) given]
    exact account.handed.isPrefix
  · obtain ⟨later, split⟩ := given
    rw [← split, List.flatMap_append, List.map_append, ← account.handed.items_of_unended ended,
      List.append_assoc, List.append_assoc]
    exact List.prefix_append ..

/-- The pages asked for are those at the cursor zero and at the cursors of all replies but the
last. -/
theorem Account.asked {script : List PageReply} (account : Account pattern count s moves log)
    (conclusive : PageReply.Conclusive script) (given : replies log <+: script) :
    requests log <+: (0 :: script.dropLast.map PageReply.cursor).map
      (argumentsAt pattern (max 1 count)) := by
  have within := account.requests_le conclusive given
  have behind : (requests log).length ≤ (0 :: (replies log).map PageReply.cursor).length := by
    rw [account.answered, List.length_cons, List.length_map]
    exact Nat.add_le_add_left (Bool.toNat_le s.asking) _
  obtain ⟨later, split⟩ := given
  have same : (0 :: script.dropLast.map PageReply.cursor) =
      (0 :: script.map PageReply.cursor).take script.length := by
    obtain ⟨pages, last, rfl, -⟩ := conclusive
    simp
  rw [account.requested, same]
  apply List.IsPrefix.map
  have more : ((0 :: (replies log).map PageReply.cursor) ++ later.map PageReply.cursor).take
    (requests log).length =
      (0 :: (replies log).map PageReply.cursor).take (requests log).length :=
        List.take_append_of_le_length behind
  rw [← more, List.cons_append, ← List.map_append, split]
  exact List.take_prefix_take_left within

/-- A page is asked for when all that has come was yielded and the last reply names another page. -/
theorem Account.timely (account : Account pattern count s moves log) {arguments : List String}
    (steps : Steps s move next shown) (asked : .asked arguments ∈ shown) :
    yields log = ((replies log).flatMap PageReply.items).map some ∧
      ∀ reply ∈ replies log, reply.goesOn = true := by
  cases steps with
  | asked idle empty unfinished =>
    have all := account.handed.items_of_unended (account.unended unfinished)
    rw [empty, List.map_nil, List.map_nil, List.append_nil] at all
    exact ⟨all, (account.going unfinished).1⟩
  | _ => simp at asked

/-- A scan that waits for no page can be polled, and one that waits takes any reply. -/
theorem goes_on (s : PageStream) :
    (s.step? .advance).isSome = true ∨ ∀ reply, (s.step? (.receive reply)).isSome = true := by
  cases asking : s.asking with
  | false =>
    left
    simp only [step?, asking]
    cases s.scan.local? <;> rfl
  | true =>
    right
    intro reply
    cases reply <;> simp [step?, asking]

/-- A scan in pages is exact. Whatever pages the server sends, empty or long, with cursors that come
again or in any order, up to the cursor zero or an error, and however the scan is polled: the keys
of the pages are yielded in order, then the error if there is one, and then the end for good. The
first request is for the cursor zero and each later one for the cursor of the reply before it, with
the same pattern and size of a page. A page is asked for only when all keys that have come were
yielded, and nothing is asked for after an error or the cursor zero. -/
theorem paging_exact {script : List PageReply}
    (ran : run? (.fresh pattern count) moves = some (s, log))
    (conclusive : PageReply.Conclusive script) (given : replies log <+: script) :
    Exact pattern count script s moves log := by
  have account := account_along ran
  constructor
  case yielded => exact account.yielded conclusive given
  case requested => exact account.asked conclusive given
  case timely =>
    intro move next shown arguments stepped
    exact account.timely (steps_of_step? stepped)
  case bounded =>
    have asked := account.requests_le conclusive given
    have come := given.length_le
    have work := account.work
    omega
  case goesOn => exact goes_on s

/-- Replies with an empty page and with a cursor that comes again before a smaller one, up to a page
with keys and the cursor zero. -/
def fourPages : List PageReply := [.ok (7, ["a", "b"]), .ok (7, []), .ok (3, ["a"]), .ok (0, ["c"])]

/-- Polls for these replies: some are over before the page has come, and the last one comes after
the end. -/
def patientPolls : List Move :=
  [.advance, .wait, .wait, .receive (.ok (7, ["a", "b"])), .advance, .advance, .advance,
    .receive (.ok (7, [])),
    .advance, .wait, .receive (.ok (3, ["a"])), .advance, .advance, .receive (.ok (0, ["c"])),
    .advance, .advance,
    .advance]

/-- The scan yields the keys of all pages and then the end, again and again. -/
theorem paging_exact_fourPages : ∃ s log, run? (.fresh "*" 2) patientPolls = some (s, log) ∧
    replies log <+: fourPages ∧
      yields log = [some (.ok "a"), some (.ok "b"), some (.ok "a"), some (.ok "c"), none, none] ∧
        Exact "*" 2 fourPages s patientPolls log := by
  have seen : (run? (.fresh "*" 2) patientPolls).map (fun reached =>
        (replies reached.2, yields reached.2)) =
      some (fourPages,
        [some (.ok "a"), some (.ok "b"), some (.ok "a"), some (.ok "c"), none, none]) := by
    decide +kernel
  obtain ⟨⟨s, log⟩, ran, same⟩ := Option.map_eq_some_iff.mp seen
  obtain ⟨given, yielded⟩ := Prod.mk.inj same
  have conclusive : PageReply.Conclusive fourPages :=
    ⟨[.ok (7, ["a", "b"]), .ok (7, []), .ok (3, ["a"])], .ok (0, ["c"]), rfl, by decide, rfl⟩
  have begins : replies log <+: fourPages := given ▸ List.prefix_refl _
  exact ⟨s, log, ran, begins, yielded, paging_exact ran conclusive begins⟩

/-- What a poll to its end yields: a key, the error or the end. -/
def outcome : Except ServerError (Option String) → Option PageScan.Item
  | .ok key => key.map .ok
  | .error e => some (.error e)

/-- A request over a connection sends its command, whatever comes of it. -/
theorem sent_request (scan : PageScan) (c : Connection) :
    (scan.request c).2.sent = c.sent ++ [⟨"SCAN", scan.requestArguments⟩] := by
  simp only [PageScan.request, Connection.askFor, Connection.ask]
  split
  · rfl
  · split <;> rfl

/-- What a request over a connection makes of the scan is what the reply makes of it. -/
theorem request_reply (scan : PageScan) (c : Connection) : ∃ reply : PageReply,
    (scan.request c).1 = reply.map fun page => scan.withPage page.1 page.2 :=
  ⟨(c.askFor ServerReply.page "SCAN" scan.requestArguments).1, rfl⟩

/-- A key that is asked for from replies laid down beforehand is what one item of a scan that is
polled to its end yields, and the commands sent for it are the requests.

Proof: induction along the pages, of which each uses up a reply. -/
theorem next_polls (scan : PageScan) (c : Connection) : ∃ moves log,
    run? ⟨scan, false⟩ moves = some (⟨(scan.next c).2.1, false⟩, log) ∧
      yields log = [outcome (scan.next c).1] ∧
        (scan.next c).2.2.sent = c.sent ++ (requests log).map (SentCommand.mk "SCAN") := by
  fun_induction PageScan.next scan c with
  | case1 scan c item rest atHand =>
    refine ⟨[.advance], [.yielded (item.map .ok)], ?_, rfl, ?_⟩
    · simp [Execution.run?, step?, atHand]
    · simp [asked?]
  | case2 scan c empty e later answered =>
    obtain ⟨reply, same⟩ := request_reply scan c
    have sent := sent_request scan c
    rw [answered] at same sent
    cases reply with
    | ok page => cases same
    | error cause =>
      obtain rfl := Except.error.inj same
      refine ⟨[.advance, .receive (.error e)],
        [.asked scan.requestArguments, .received (.error e), .yielded (some (.error e))],
        ?_, rfl, ?_⟩
      · simp only [Execution.run?, step?, empty]
        rfl
      · simpa [asked?] using sent
  | case3 scan c empty page later answered inductionHypothesis =>
    obtain ⟨reply, same⟩ := request_reply scan c
    have sent := sent_request scan c
    rw [answered] at same sent
    cases reply with
    | error cause => cases same
    | ok content =>
      obtain rfl := Except.ok.inj same
      obtain ⟨moves, log, ran, yielded, told⟩ := inductionHypothesis
      refine ⟨.advance :: .receive (.ok content) :: moves,
        .asked scan.requestArguments :: .received (.ok content) :: log, ?_, ?_, ?_⟩
      · simp [Execution.run?, step?, empty, ran]
      · simpa [yielded?] using yielded
      · rw [told, sent]
        simp [asked?]

/-- The items that are collected from replies laid down beforehand are what a scan that is polled
yields, with the end behind them unless the limit or an error has cut them short, and the commands
sent are the requests. -/
theorem collect_polls (limit : Nat) (scan : PageScan) (c : Connection) : ∃ moves s log ends,
    run? ⟨scan, false⟩ moves = some (s, log) ∧
      yields log = (PageScan.collect limit scan c).1.map some ++ List.replicate ends none ∧
        (PageScan.collect limit scan c).2.sent =
          c.sent ++ (requests log).map (SentCommand.mk "SCAN") := by
  induction limit generalizing scan c with
  | zero => exact ⟨[], _, [], 0, rfl, rfl, (List.append_nil _).symm⟩
  | succ limit inductionHypothesis =>
    obtain ⟨moves, log, ran, yielded, sent⟩ := next_polls scan c
    simp only [PageScan.collect]
    generalize scan.next c = polled at ran yielded sent ⊢
    obtain ⟨answer, rest, after⟩ := polled
    cases answer with
    | error e => exact ⟨moves, _, log, 0, ran, yielded, sent⟩
    | ok item =>
      cases item with
      | none => exact ⟨moves, _, log, 1, ran, yielded, sent⟩
      | some key =>
        obtain ⟨more, last, later, ends, continued, remaining, told⟩ :=
          inductionHypothesis rest after
        refine ⟨moves ++ more, last, log ++ later, ends,
          Execution.run?_append_iff.mpr ⟨_, log, later, ran, continued, rfl⟩, ?_, ?_⟩
        · rw [yields_append, yielded, remaining]
          rfl
        · rw [told, requests_append, List.map_append, ← List.append_assoc]
          exact congrArg (· ++ _) sent

end PageStream

end KeySweeper
