import KeySweeper.Proofs.Deletion
import KeySweeper.Proofs.Inventory
import KeySweeper.Proofs.Refinement
import KeySweeper.Server.Sweep

/-!
# How often a sweep visits a key

A sweep visits a key when it asks for the lifetime left to it and when it places it in a batch. It
keeps no memory of the keys that it has visited: a key that the scan yields again is a key like any
other. So it is the scan that decides how often a key is visited at most. No key of a scan without
repetition is visited twice, and the scans of a store in memory are such scans. Whatever keys a scan
yields, there is an execution that visits each of them as often as it was yielded.
-/

namespace KeySweeper

open Ledger

namespace Pipeline

variable {s : Settings} {p : Pipeline} {h : List StoreEvent} {lost : List String}

/-- The keys handed over and those that the deleter holds are the first ones that were cleared. -/
theorem Flow.placed (flow : Flow s p h lost) :
    handedOver h ++ p.deleter.held <+: cleared s.minTtl h := by
  cases crash : p.crash? .deleter with
  | none =>
    rw [flow.downstream crash, List.append_assoc _ p.matched.queue]
    exact List.prefix_append ..
  | some text =>
    have nothing : p.deleter.held = [] := by
      cases state : p.deleter with
      | crashed text => rfl
      | _ => simp [crash?, state] at crash
    rw [nothing, List.append_nil]
    exact flow.submitted

/-- Stages that wait for the next key of the scan, with nothing on the way but a batch that is not
submitted. -/
def between (control : Control) (batch : List String) : Pipeline :=
  { fresh control with deleter := .collecting batch }

/-- A lifetime that is just above the threshold. -/
def outliving (s : Settings) : Ttl := .expires ⟨s.minTtl.nanos + 1⟩

/-- It lets its key pass. -/
theorem outlives_outliving (s : Settings) : (outliving s).outlives s.minTtl = true :=
  decide_eq_true (Nat.lt_succ_self s.minTtl.nanos)

/-- A key that the scan yields to such stages and that lives long enough reaches the deleter. -/
theorem passage_to_deleter {ttl : Ttl} (passes : ttl.outlives s.minTtl = true) (deleted : UInt64)
    (batch : List String) (key : String) : Execution.run? (step? s) (between ⟨false, deleted⟩ batch)
      [.scanned (.value (some key)), .offerCandidate, .takeCandidate, .inspected (.value ttl),
        .offerMatch, .takeMatch] =
      some ({ fresh ⟨false, deleted⟩ with
          deleter := Deleter.accept (Deleter.effectiveSize s.batchSize) batch key },
        [.called (.scanned s.pattern (.value (some key))),
          .called (.inspected key (.value ttl))]) := by
  simp [Execution.run?, step?, between, fresh, passes, effects, cancelIfFailed, Scanner.afterAnswer,
    Scanner.offer?,
    Filter.isLive, Filter.take?, Filter.afterAnswer, Filter.offer?, Deleter.isLive, Deleter.take?,
    Handoff.empty,
    Handoff.defaultCapacity, Handoff.hasRoom, Handoff.push, Handoff.pop?]

/-- There it is placed in a batch, behind the others or as the first of the next one. -/
theorem passage (s : Settings) (deleted : UInt64) (batch : List String) (key : String) :
    ∃ moves after left effects,
      Execution.run? (step? s) (between ⟨false, deleted⟩ batch) moves =
        some (between ⟨false, after⟩ left, effects) ∧
        found (calls effects) = [key] ∧ inspected (calls effects) = [key] ∧
        handedOver (calls effects) ++ left = batch ++ [key] := by
  have reached := passage_to_deleter (outlives_outliving s) deleted batch key
  by_cases full : Deleter.effectiveSize s.batchSize ≤ batch.length
  -- A full batch is deleted first, and the key then starts the next one.
  · rw [Deleter.accept, if_pos full] at reached
    refine ⟨_ ++ [.deleted (.value 0)], deleted + UInt64.ofNat batch.length, [key], _,
      Execution.run?_append_iff.mpr ⟨_, _, [.called (.deleted batch (.value 0))], reached, ?_, rfl⟩,
      rfl, rfl, ?_⟩
    · rfl
    · exact congrArg (· ++ [key]) (List.append_nil batch)
  · rw [Deleter.accept, if_neg full] at reached
    exact ⟨_, deleted, batch ++ [key], _, reached, rfl, rfl, rfl⟩

/-- Whatever keys the scan yields, each of them can be inspected and placed in a batch as often as
it is yielded. -/
theorem passages (s : Settings) (keys : List String) : ∃ moves deleted left effects,
    Execution.run? (step? s) (fresh (.fresh false)) moves =
        some (between ⟨false, deleted⟩ left, effects) ∧
      found (calls effects) = keys ∧ inspected (calls effects) = keys ∧
      handedOver (calls effects) ++ left = keys := by
  induction keys using List.reverseRecOn with
  | nil => exact ⟨[], 0, [], [], rfl, rfl, rfl, rfl⟩
  | append_singleton keys key inductionHypothesis =>
    obtain ⟨moves, deleted, batch, before, reached, yielded, asked, placed⟩ := inductionHypothesis
    obtain ⟨more, after, left, later, made, one, two, three⟩ := passage s deleted batch key
    refine ⟨moves ++ more, after, left, before ++ later,
      Execution.run?_append_iff.mpr ⟨_, before, later, reached, made, rfl⟩, ?_, ?_, ?_⟩
    · rw [calls_append, found_append, yielded, one]
    · rw [calls_append, inspected_append, asked, two]
    · rw [calls_append, handedOver_append, List.append_assoc, three, ← List.append_assoc, placed]

end Pipeline

namespace Sweep

variable {s : Settings} {flag : Bool} {moves : List Move} {sweep : Sweep} {log : Chronicle}

/-- What the stages can do the sweep that has started them can do. -/
theorem run?_stages (sweep : Sweep) {p q : Pipeline} {stageMoves : List Pipeline.Move}
    {effects : List Effect} (running : sweep.work = .running p)
    (ran : Execution.run? (Pipeline.step? s) p stageMoves = some (q, effects)) :
    ∃ log, run? s sweep (stageMoves.map .stage) = some ({ sweep with work := .running q }, log) ∧
      stageCalls log = calls effects := by
  refine Execution.induction_along (motive := fun stageMoves q effects => ∃ log,
    run? s sweep (stageMoves.map .stage) = some ({ sweep with work := .running q }, log) ∧
      stageCalls log = calls effects) ?_ ?_ ran
  · refine ⟨[], ?_, rfl⟩
    rw [← running]
    rfl
  · rintro moves move mid before after shown - ⟨log, reached, same⟩ stepped
    refine ⟨log ++ entries (.stage move) shown, ?_, ?_⟩
    · rw [List.map_append]
      refine Execution.run?_concat_iff.mpr ⟨_, log, _, reached, ?_, rfl⟩
      simp only [recorded?, step?, stepped, Option.map_some]
    · rw [stageCalls_append, calls_append, same, stageCalls_staged stepped]

/-- The keys that a sweep has asked about, with the one for which it waits for the answer. -/
def asked (sweep : Sweep) (log : Chronicle) : List String :=
  inspected (stageCalls log) ++
    match sweep.work with
    | .running p => p.filter.toInspect
    | .waiting _ => []

/-- The keys that a sweep has placed in batches: those handed over for deletion, and those that its
deleter holds. -/
def placed (sweep : Sweep) (log : Chronicle) : List String :=
  handedOver (stageCalls log) ++
    match sweep.work with
    | .running p => p.deleter.held
    | .waiting _ => []

/-- The keys asked about are the first ones that the scan has yielded, and those placed in batches
are the first ones that were cleared. -/
theorem visits_along (ran : run? s (.claimed flag) moves = some (sweep, log)) :
    sweep.asked log <+: found (stageCalls log) ∧
    sweep.placed log <+: cleared s.minTtl (stageCalls log) := by
  have holds := flow_along ran
  unfold asked placed
  cases work : sweep.work with
  | waiting raised =>
    rw [work] at holds
    have none : stageCalls log = [] := holds
    rw [none]
    exact ⟨List.nil_prefix, List.nil_prefix⟩
  | running p =>
    obtain ⟨lost, flow⟩ := flow_of_running ran work
    refine ⟨?_, flow.placed⟩
    rw [flow.upstream]
    simp only [List.append_assoc]
    exact List.prefix_append_right_inj _ |>.mpr (List.prefix_append ..)

/-- A key is asked about no more often than it was yielded, and placed in batches no more often than
it was asked about. -/
theorem visits_sublist (ran : run? s (.claimed flag) moves = some (sweep, log)) :
    List.Sublist (sweep.placed log) (sweep.asked log) ∧
      List.Sublist (sweep.asked log) (found (stageCalls log)) := by
  obtain ⟨asked, placed⟩ := visits_along ran
  refine ⟨placed.sublist.trans (List.Sublist.trans ?_ (List.sublist_append_left ..)), asked.sublist⟩
  rw [cleared_eq_filter, inspected_eq_map]
  exact List.filter_sublist.map _

end Sweep

/-- These are the keys that a scan of a store has yielded so far, and no key stands twice among them
and those still to come. -/
def Scan.Follows (scan : Scan) (yielded : List String) : Prop :=
  scan.remaining = none ∧ yielded = [] ∨ ∃ left, scan.remaining = some left ∧
    (yielded ++ left).Nodup

/-- No key was yielded twice. -/
theorem Scan.Follows.nodup {scan : Scan} {yielded : List String} (follows : scan.Follows yielded) :
    yielded.Nodup := by
  rcases follows with ⟨-, rfl⟩ | ⟨left, -, once⟩
  · exact List.nodup_nil
  · exact (List.nodup_append.mp once).1

/-- The next key of a scan is a new one, whatever has become of the store. -/
theorem Scan.Follows.next {scan : Scan} {yielded : List String} (follows : scan.Follows yielded)
    (store : Store) :
    (scan.next store).2.Follows (yielded ++ (scan.next store).1.toList) := by
  obtain ⟨first, others⟩ := scan.next_eq store
  have once : (yielded ++ scan.upcoming store).Nodup := by
    rcases follows with ⟨unread, rfl⟩ | ⟨left, read, once⟩
    · rw [Scan.upcoming, unread, Option.getD_none, List.nil_append]
      exact store.nodup_keys scan.pattern
    · rwa [Scan.upcoming, read, Option.getD_some]
  refine Or.inr ⟨(scan.upcoming store).tail, by rw [others], ?_⟩
  rw [first, List.append_assoc]
  cases coming : scan.upcoming store with
  | nil => rwa [coming] at once
  | cons key rest => rwa [coming] at once

namespace Workplace

variable {s : Settings} {store : Store} {w next : Workplace} {turn : Turn} {turns : List Turn}
variable {shown log : Sweeper.Log}

/-- A call that is carried out for a sweep has the scan of the sweep yield its next key, or nothing
happens to it. -/
theorem found_of_call {index : Nat} {part : Sweep.Part} {mishap : Option Mishap} {call : StoreCall}
    {sweep : Sweep} {progress : Sweep.Progress} (waits : Sweep.Waits s sweep part call)
    (made : sweep.step? s (w.carried index part mishap call).move = some progress) :
    found (Sweep.stageCalls
        (Sweep.entries (w.carried index part mishap call).move progress.effects)) = [] ∧
        (w.carried index part mishap call).scan = w.scans index ∨
      found (Sweep.stageCalls
        (Sweep.entries (w.carried index part mishap call).move progress.effects)) =
          ((w.scans index).next w.store).1.toList ∧
        (w.carried index part mishap call).scan = ((w.scans index).next w.store).2 := by
  obtain ⟨event, shows, answers⟩ :=
    Sweep.call_of_answer (Sweep.steps_of_step? made) (carried_takesAnswer waits)
  obtain ⟨mover, rfl⟩ := event_of_answers waits answers
  rw [Sweep.stageCalls, Sweep.callsBy_entries, mover, shows]
  have silent (other : foundKey? (w.event index mishap call) = none) :
      found (if part.isStage = true then [w.event index mishap call] else []) = [] := by
    split
    · rw [found_singleton, other]
      rfl
    · rfl
  -- Only the call of the scanner has to do with the scan, and only if it does not go wrong.
  cases waits with
  | asking p running now =>
    rw [(carried_scan ..).2.2, if_pos (show Sweep.Part.scanner.isStage = true from rfl),
      found_singleton]
    cases mishap with
    | none =>
      refine Or.inr ⟨?_, rfl⟩
      simp only [event, Mishap.answer]
      cases ((w.scans index).next w.store).1 <;> rfl
    | some mishap => cases mishap <;> exact Or.inl ⟨rfl, rfl⟩
  | checking now => exact Or.inl ⟨silent rfl, (carried_check ..).2.2⟩
  | marking now => exact Or.inl ⟨silent rfl, (carried_write ..).2.2⟩
  | releasing now => exact Or.inl ⟨silent rfl, (carried_delete ..).2.2⟩
  | passed now => exact Or.inl ⟨silent rfl, (carried_delete ..).2.2⟩
  | inspecting p key running now => exact Or.inl ⟨silent rfl, (carried_inspect ..).2.2⟩
  | deleting p batch waiting running now => exact Or.inl ⟨silent rfl, (carried_delete ..).2.2⟩

/-- In a turn the scan of a sweep yields its next key, or nothing happens to it. -/
theorem found_of_turn (stepped : w.step? turn = some (next, shown)) (index : Nat) :
    found (Sweep.stageCalls (Sweeper.chronicle index shown)) = [] ∧
    next.scans index = w.scans index ∨
      found (Sweep.stageCalls (Sweeper.chronicle index shown)) =
        ((w.scans index).next w.store).1.toList ∧
        next.scans index = ((w.scans index).next w.store).2 := by
  cases turns_of_step? stepped with
  | others command => exact Or.inl ⟨rfl, rfl⟩
  | own move silent sweeper entries steps =>
    refine Or.inl ⟨List.eq_nil_iff_forall_not_mem.mpr fun key member => ?_, rfl⟩
    obtain ⟨pattern, among⟩ := mem_found_iff.mp member
    obtain ⟨part, -, listed⟩ := Sweep.mem_callsBy.mp among
    obtain ⟨_, _, _, impossible, -⟩ := answers_of_turn stepped (Sweeper.mem_chronicle.mp listed)
    cases impossible
  | called site part mishap e call sweeper entries present pending steps =>
    cases steps with
    | moved _ _ e progress there made =>
      obtain rfl := Option.some.inj (present.symm.trans there)
      rw [Sweeper.chronicle_tagged]
      by_cases same : site = index
      · subst same
        rw [if_pos rfl]
        dsimp only
        rw [Function.update_self]
        exact found_of_call (Sweep.waits_of_pending? pending) made
      · rw [if_neg same]
        exact Or.inl ⟨rfl, Function.update_of_ne (Ne.symm same) ..⟩

/-- No scan of a workplace yields a key twice, whatever the other clients do. -/
theorem follows_along (ran : run? (opened s store) turns = some (w, log)) (index : Nat) :
    (w.scans index).Follows (found (Sweep.stageCalls (Sweeper.chronicle index log))) := by
  refine Execution.induction_along (motive := fun _ w log =>
    (w.scans index).Follows (found (Sweep.stageCalls (Sweeper.chronicle index log)))) ?_ ?_ ran
  · exact Or.inl ⟨rfl, rfl⟩
  · intro moves turn mid before after shown _ inductionHypothesis stepped
    rw [Sweeper.chronicle_append, Sweep.stageCalls_append, found_append]
    rcases found_of_turn stepped index with ⟨nothing, same⟩ | ⟨key, moved⟩
    · rwa [nothing, List.append_nil, same]
    · rw [key, moved]
      exact inductionHypothesis.next mid.store

end Workplace

namespace Sweep

/-- How often the sweeps with these settings visit a key. -/
structure VisitsAsYielded (s : Settings) : Prop where
  /-- In every execution a key is placed in batches no more often than it was asked about, and asked
  about no more often than the scan has yielded it. -/
  bounded : ∀ flag moves sweep log, run? s (.claimed flag) moves = some (sweep, log) → ∀ key,
    (sweep.placed log).count key ≤ (sweep.asked log).count key ∧
      (sweep.asked log).count key ≤ (found (stageCalls log)).count key
  /-- Whatever keys are yielded, there is an execution in which each of them is asked about and
  placed in a batch as often as it is yielded. -/
  attained : ∀ keys, ∃ moves sweep log, run? s (.claimed false) moves = some (sweep, log) ∧
    found (stageCalls log) = keys ∧ sweep.asked log = keys ∧ sweep.placed log = keys
  /-- So if no key is yielded twice, and only then, no execution asks about a key twice or places
  one twice. -/
  once : ∀ keys : List String, keys.Nodup ↔ ∀ flag moves sweep log, run? s (.claimed flag) moves =
    some (sweep, log) →
    found (stageCalls log) = keys → (sweep.asked log).Nodup ∧ (sweep.placed log).Nodup
  /-- Over a store in memory that other clients use as well no sweep visits a key twice. -/
  inMemory : ∀ store turns w log, Workplace.run? (.opened s store) turns = some (w, log) →
    ∀ (index : Nat) (e : Engagement), w.sweeper.engagements[index]? = some e →
      (e.sweep.asked (Sweeper.chronicle index log)).Nodup ∧
      (e.sweep.placed (Sweeper.chronicle index log)).Nodup

variable {s : Settings}

/-- The moves of a sweep until it has started its stages. -/
def opening : List Move := [.begin, .guardChecked (.value false), .guardMarked (.value ())]

/-- Each of the keys can be visited as often as the scan yields it. -/
theorem visits_attained (s : Settings) (keys : List String) :
    ∃ moves sweep log, run? s (.claimed false) moves = some (sweep, log) ∧
      found (stageCalls log) = keys ∧ sweep.asked log = keys ∧ sweep.placed log = keys := by
  obtain ⟨moves, deleted, left, effects, made, yielded, inspected, placed⟩ :=
    Pipeline.passages s keys
  let started : Sweep := ⟨.joining StageName.all, .running (.fresh (.fresh false)), .absent⟩
  obtain ⟨early, acquired, quiet⟩ : ∃ early, run? s (.claimed false) opening =
      some (started, early) ∧ stageCalls early = [] := ⟨_, rfl, rfl⟩
  obtain ⟨log, went, same⟩ := run?_stages started rfl made
  have all : stageCalls (early ++ log) = calls effects := by
    rw [stageCalls_append, quiet, same, List.nil_append]
  refine ⟨_, _, _, Execution.run?_append_iff.mpr ⟨started, early, log, acquired, went, rfl⟩,
    ?_, ?_, ?_⟩
  · rw [all, yielded]
  · rw [asked, all, inspected]
    exact List.append_nil keys
  · rw [Sweep.placed, all]
    exact placed

/-- A sweep visits a key as often as its scan yields it, at most, and it keeps no key from being
visited again. In every execution, whatever the scan yields and whatever the store answers, a key is
asked about no more often than it was yielded, and it is placed in batches no more often than it was
asked about. For every list of keys that a scan may yield there is an execution that visits all of
them each time. So sweeps visit each key at most once exactly if the scan yields no key twice; a
store in memory has no other scans. -/
theorem visits_as_yielded (s : Settings) : VisitsAsYielded s := by
  have within {flag : Bool} {moves : List Move} {sweep : Sweep} {log : Chronicle}
      (ran : run? s (.claimed flag) moves = some (sweep, log))
      (once : (found (stageCalls log)).Nodup) :
      (sweep.asked log).Nodup ∧ (sweep.placed log).Nodup := by
    obtain ⟨placed, asked⟩ := visits_sublist ran
    exact ⟨once.sublist asked, (once.sublist asked).sublist placed⟩
  constructor
  case bounded =>
    intro flag moves sweep log ran key
    obtain ⟨placed, asked⟩ := visits_sublist ran
    exact ⟨placed.count_le key, asked.count_le key⟩
  case attained => exact visits_attained s
  case once =>
    intro keys
    constructor
    · rintro once flag moves sweep log ran rfl
      exact within ran once
    · intro visited
      obtain ⟨moves, sweep, log, ran, yielded, asked, -⟩ := visits_attained s keys
      rw [← asked]
      exact (visited false moves sweep log ran yielded).1
  case inMemory =>
    intro store turns w log ran index e present
    obtain ⟨rfl, origins⟩ := Workplace.origins_along ran
    rcases origins.come index e present with ⟨idle, -⟩ | ⟨flag, moves, led⟩
    · obtain ⟨flag, waiting⟩ := idle.work
      have silent : stageCalls (Sweeper.chronicle index log) = [] := by
        refine List.eq_nil_iff_forall_not_mem.mpr fun event member => ?_
        obtain ⟨part, -, listed⟩ := mem_callsBy.mp member
        exact idle.silent part event listed
      rw [asked, placed, silent, waiting]
      exact ⟨List.nodup_nil, List.nodup_nil⟩
    · exact within led (Workplace.follows_along ran index).nodup

end Sweep

namespace ServerSweep

/-- What a server replies to a sweep whose scan repeats its key on the second page; the key lives
for an hour. -/
def repeatingPages : ReplyPlan :=
  [("EXISTS", [.number 0]), ("SET", [.status "OK"]),
    ("SCAN", [.items [.text "7", .items [.text "k0"]], .items [.text "0", .items [.text "k0"]]]),
    ("PTTL", [.number 3600000, .number 3600000]), ("DEL", [.number 1, .number 1])]

/-- The sweep asks about the key twice, and its one call that deletes keys holds the key twice. -/
theorem visits_repeated :
    (((start (.ofPattern "k*" 100) ⟨repeatingPages, []⟩ 100).run).connection.sent.filter
      fun command => command.name = "PTTL" ∨ command.name = "DEL") =
      [⟨"PTTL", ["k0"]⟩, ⟨"PTTL", ["k0"]⟩, ⟨"DEL", ["k0", "k0"]⟩,
        ⟨"DEL", ["redis-cleaner:is-running"]⟩] := by
  decide +kernel

end ServerSweep

end KeySweeper
