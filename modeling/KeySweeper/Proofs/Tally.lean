import KeySweeper.Proofs.Inventory
import KeySweeper.Proofs.Progress

/-!
# The tally of undisturbed stages

Stages over a store that nobody else touches and whose calls all succeed. Their scan yields the keys
that the store listed when it was first asked, while the deleter takes keys out of the same store.
Two facts keep the two apart: no key is listed twice, and a key is taken out only after it was
inspected. So each key is found with the lifetime that it had at the start, however the stages
interleave.

The tally says at every moment which keys are found, which of them were judged and how, what is left
in the store and what was counted. The stages may be told to wind down at any moment. The scanner
then gives up the key in its hand, and what was queued before is still inspected, deleted and
counted. Once the stages are over, the store has lost an initial part of the keys that it had to
lose, and all of them if the stages were never told to wind down.
-/

namespace KeySweeper

open Ledger

namespace Pipeline

/-- Whether a move takes up no failure and no crash, and does not come from outside. -/
def Move.isRegular : Move → Bool
  | .scanned (.value _) => true
  | .inspected (.value _) => true
  | .deleted (.value _) => true
  | move => move.isInternal

variable {s : Settings} {p next : Pipeline} {move : Move} {shown : List Effect}
  {h : List StoreEvent}

/-- A move without the store shows no call and does not touch the control. -/
theorem still_of_internal (stepped : p.step? s move = some (next, shown))
    (inside : move.isInternal = true) :
    calls shown = [] ∧ next.control = p.control := by
  cases steps_of_step? stepped with
  | scanned => cases inside
  | inspected => cases inside
  | deleted => cases inside
  | cancelled => cases inside
  | _ => exact ⟨rfl, rfl⟩

/-- Without failures nobody raises the flag. -/
theorem flag_of_regular (stepped : p.step? s move = some (next, shown))
    (regular : move.isRegular = true) :
    next.control.cancelled = p.control.cancelled := by
  cases steps_of_step? stepped with
  | scanned answer => cases answer <;> first | rfl | cases regular
  | inspected answer => cases answer <;> first | rfl | cases regular
  | deleted answer => cases answer <;> first | rfl | cases regular
  | cancelled => cases regular
  | _ => rfl

/-- Without crashes sound stages stay sound. -/
theorem IsSound.step (sound : p.IsSound) (stepped : p.step? s move = some (next, shown))
    (regular : move.isRegular = true) : next.IsSound := by
  intro stage
  have before := sound stage
  cases steps_of_step? stepped with
  | scanned answer asking =>
    cases stage with
    | scanner =>
      cases answer with
      | value result =>
        cases result with
        | none => rfl
        | some key => simp only [crash?, Scanner.afterAnswer]; cases p.control.cancelled <;> rfl
      | _ => cases regular
    | _ => exact before
  | inspected answer key inspecting =>
    cases stage with
    | filter =>
      cases answer with
      | value ttl => simp only [crash?, Filter.afterAnswer]; cases ttl.outlives s.minTtl <;> rfl
      | _ => cases regular
    | _ => exact before
  | matchTaken batch key rest collecting queued =>
    cases stage with
    | deleter =>
      by_cases full : Deleter.effectiveSize s.batchSize ≤ batch.length
      · simp [crash?, Deleter.accept, full]
      · simp [crash?, Deleter.accept, full]
    | _ => exact before
  | matchesEnded batch collecting queued halted =>
    cases stage with
    | deleter => cases batch <;> rfl
    | _ => exact before
  | deleted answer batch waiting deleting =>
    cases stage with
    | deleter =>
      cases answer with
      | value removed => cases waiting <;> rfl
      | _ => cases regular
    | _ => exact before
  | cancelled => cases regular
  | _ =>
    cases stage <;> first | rfl | exact before

/-- Stages none of which has crashed, and that have lost a key only if they were told to wind
down. -/
structure Steady (s : Settings) (p : Pipeline) (h : List StoreEvent)
    (lost : List String) : Prop where
  flow : Flow s p h lost
  sound : p.IsSound
  queues : p.HasQueues
  kept : p.control.cancelled = false → lost = []

variable {lost : List String}

/-- Fresh stages are steady. -/
theorem Steady.fresh (s : Settings) (control : Control) : Steady s (.fresh control) [] [] where
  flow := .fresh s _
  sound stage := by cases stage <;> rfl
  queues := .fresh _
  kept _ := rfl

/-- The filter of steady stages does not end before the scanner. -/
theorem Steady.filter_live (steady : Steady s p h lost) (live : p.scanner.isLive = true) :
    p.filter.isLive = true := by
  by_contra halted
  have ended := (steady.flow.scanner_over steady.sound (by simpa using halted)).1
  rw [live] at ended
  cases ended

/-- Without failures and crashes steady stages stay steady. -/
theorem Steady.step (steady : Steady s p h lost) (stepped : p.step? s move = some (next, shown))
    (regular : move.isRegular = true) : ∃ after, Steady s next (h ++ calls shown) after := by
  obtain ⟨after, flow, change⟩ := steady.flow.step stepped
  refine ⟨after, flow, steady.sound.step stepped regular, steady.queues.step stepped, ?_⟩
  intro uncancelled
  have before : p.control.cancelled = false :=
    (flag_of_regular stepped regular).symm.trans uncancelled
  rcases change with rfl | ⟨live, cancelled | gone⟩
  · exact steady.kept before
  · rw [before] at cancelled
    cases cancelled
  · rw [steady.filter_live live] at gone
    cases gone

/-- The scanner of steady stages ends by an answer of the scan, or when it is told to wind down. -/
theorem Steady.scanner_of_internal (steady : Steady s p h lost)
    (stepped : p.step? s move = some (next, shown)) (inside : move.isInternal = true)
    (ended : next.scanner = .ended) :
    p.control.cancelled = true ∨ p.scanner = .ended := by
  cases steps_of_step? stepped with
  | candidateLost key offering reason =>
    rcases reason with cancelled | gone
    · exact Or.inl cancelled
    · rw [steady.filter_live (by rw [offering]; rfl)] at gone
      cases gone
  | candidateSent => cases ended
  | scanned => cases inside
  | _ => exact Or.inr ended

/-- The ledger of steady stages against the store `marked` with which they started: the scan yields
the keys listed there, every key inspected so far was judged by the lifetime that it had there, and
the keys handed over are what the store has lost and what was counted. -/
structure Tally (s : Settings) (marked : Store) (p : Pipeline) (store : Store) (scan : Scan)
    (h : List StoreEvent) (lost : List String) : Prop where
  steady : Steady s p h lost
  pattern : scan.pattern = s.pattern
  listed : found h ++ scan.upcoming marked = marked.keys s.pattern
  exhausted : p.scanner = .ended → p.control.cancelled = true ∨ scan.upcoming marked = []
  judged : cleared s.minTtl h = (inspected h).filter fun key => (marked.ttl key).outlives s.minTtl
  stored : store = marked.without (handedOver h)
  counted : p.control.deleted = UInt64.ofNat (handedOver h).length

variable {marked store : Store} {scan : Scan}

/-- The tally of fresh stages. -/
theorem Tally.fresh (s : Settings) (marked : Store) (told : Bool) :
    Tally s marked (.fresh (.fresh told)) marked (.fresh s.pattern) [] [] where
  steady := .fresh s _
  pattern := rfl
  listed := rfl
  exhausted impossible := nomatch impossible
  judged := rfl
  stored := marked.without_nil.symm
  counted := rfl

/-- A key is handed over only after it was inspected. -/
theorem Tally.inspected_of_handedOver (tally : Tally s marked p store scan h lost) {key : String}
    (gone : key ∈ handedOver h) : key ∈ inspected h := by
  have passed := tally.steady.flow.submitted.subset gone
  rw [tally.judged] at passed
  exact (List.mem_filter.mp passed).1

/-- The scan reads the store before anything was taken out. -/
theorem Tally.upcoming (tally : Tally s marked p store scan h lost) :
    scan.upcoming store = scan.upcoming marked := by
  cases read : scan.remaining with
  | some rest => simp only [Scan.upcoming, read, Option.getD_some]
  | none =>
    have listed := tally.listed
    simp only [Scan.upcoming, read, Option.getD_none, tally.pattern] at listed
    have nothing : found h = [] := List.append_left_eq_self.mp listed
    have uninspected : inspected h = [] := by
      have account := tally.steady.flow.upstream
      rw [nothing] at account
      simp only [List.nil_eq, List.append_eq_nil_iff] at account
      exact account.1.1.1.1
    have untouched : handedOver h = [] := by
      refine List.eq_nil_iff_forall_not_mem.mpr fun key gone => ?_
      have early := tally.inspected_of_handedOver gone
      rw [uninspected] at early
      cases early
    rw [tally.stored, untouched, Store.without_nil]

/-- A move without the store leaves the tally as it is. -/
theorem Tally.internal (tally : Tally s marked p store scan h lost)
    (stepped : p.step? s move = some (next, shown)) (inside : move.isInternal = true) :
    ∃ after, Tally s marked next store scan (h ++ calls shown) after := by
  obtain ⟨after, steady⟩ := tally.steady.step stepped (by cases move <;> first | rfl | cases inside)
  obtain ⟨silent, same⟩ := still_of_internal stepped inside
  rw [silent, List.append_nil] at steady ⊢
  exact ⟨after, {
    steady := steady
    pattern := tally.pattern
    listed := tally.listed
    exhausted := fun ended => by
      rw [same]
      exact (tally.steady.scanner_of_internal stepped inside ended).elim Or.inl tally.exhausted
    judged := tally.judged
    stored := tally.stored
    counted := by rw [same]; exact tally.counted }⟩

/-- A key that the scan yields is one more key found and one less to come. -/
theorem Tally.scanned (tally : Tally s marked p store scan h lost)
    (stepped : p.step? s (.scanned (.value (scan.next store).1)) = some (next, shown)) :
    ∃ after, Tally s marked next store (scan.next store).2 (h ++ calls shown) after := by
  obtain ⟨after, steady⟩ := tally.steady.step stepped rfl
  obtain ⟨asking, rfl, rfl⟩ := step_scanned stepped
  obtain ⟨first, others⟩ := scan.next_eq store
  rw [tally.upcoming] at first others
  rw [calls_effects] at steady ⊢
  have listed := tally.listed
  cases coming : scan.upcoming marked with
  | nil =>
    rw [coming] at first others listed
    rw [first] at steady ⊢
    exact ⟨after, {
      steady := steady
      pattern := by rw [others]; exact tally.pattern
      listed := by simpa [others, Scan.upcoming, foundKey?] using listed
      exhausted := fun _ => Or.inr (by rw [others]; rfl)
      judged := by simpa [clearedKey?, inspectedKey?] using tally.judged
      stored := by simpa [deletedBatch?] using tally.stored
      counted := by simpa [deletedBatch?, cancelIfFailed] using tally.counted }⟩
  | cons key rest =>
    rw [coming] at first others listed
    rw [first] at steady ⊢
    exact ⟨after, {
      steady := steady
      pattern := by rw [others]; exact tally.pattern
      listed := by simpa [others, Scan.upcoming, foundKey?] using listed
      exhausted := fun ended => by
        cases told : p.control.cancelled with
        | true => exact Or.inl told
        | false => simp [Scanner.afterAnswer, told] at ended
      judged := by simpa [clearedKey?, inspectedKey?] using tally.judged
      stored := by simpa [deletedBatch?] using tally.stored
      counted := by simpa [deletedBatch?, cancelIfFailed] using tally.counted }⟩

/-- The key that the filter asks about was not handed over yet: it was found once, and it is not
among the keys inspected so far. -/
theorem Tally.kept (tally : Tally s marked p store scan h lost) {key : String}
    (inspecting : p.filter = .inspecting key) : key ∉ handedOver h := by
  intro gone
  have early := tally.inspected_of_handedOver gone
  have once := Store.nodup_keys marked s.pattern
  have atFilter : p.filter.toInspect = [key] := by rw [inspecting]; rfl
  rw [← tally.listed, tally.steady.flow.upstream, atFilter] at once
  simp only [List.append_assoc] at once
  exact (List.nodup_append.mp once).2.2 key early key
    (List.mem_append_left _ (List.mem_singleton_self key)) rfl

/-- An inspected key is judged by the lifetime that it had at the start. -/
theorem Tally.inspected {key : String} (tally : Tally s marked p store scan h lost)
    (inspecting : p.filter = .inspecting key)
    (stepped : p.step? s (.inspected (.value (store.ttl key))) = some (next, shown)) :
    ∃ after, Tally s marked next store scan (h ++ calls shown) after := by
  obtain ⟨after, steady⟩ := tally.steady.step stepped rfl
  have same : store.ttl key = marked.ttl key := by
    rw [tally.stored]
    exact Store.ttl_without (tally.kept inspecting)
  obtain ⟨other, inspecting', rfl, rfl⟩ := step_inspected stepped
  obtain rfl := Filter.inspecting.inj (inspecting.symm.trans inspecting')
  rw [calls_effects] at steady ⊢
  exact ⟨after, {
    steady := steady
    pattern := tally.pattern
    listed := by simpa [foundKey?] using tally.listed
    exhausted := tally.exhausted
    judged := by
      simp only [cleared_append, inspected_append, tally.judged, cleared_singleton,
        clearedKey?_value, inspected_singleton, inspectedKey?, List.filter_append, same]
      cases passes : (marked.ttl key).outlives s.minTtl <;> simp [passes]
    stored := by simpa [deletedBatch?] using tally.stored
    counted := by simpa [deletedBatch?, cancelIfFailed] using tally.counted }⟩

/-- A batch that is deleted leaves the store and is counted. -/
theorem Tally.deleted {batch : List String} {waiting : Option String} {removed : Nat}
    (tally : Tally s marked p store scan h lost) (deleting : p.deleter = .deleting batch waiting)
    (stepped : p.step? s (.deleted (.value removed)) = some (next, shown)) :
    ∃ after, Tally s marked next (store.without batch) scan (h ++ calls shown) after := by
  obtain ⟨after, steady⟩ := tally.steady.step stepped rfl
  obtain ⟨other, next, deleting', rfl, rfl⟩ := step_deleted stepped
  obtain ⟨rfl, rfl⟩ := Deleter.deleting.inj (deleting.symm.trans deleting')
  rw [calls_effects] at steady ⊢
  exact ⟨after, {
    steady := steady
    pattern := tally.pattern
    listed := by simpa [foundKey?] using tally.listed
    exhausted := tally.exhausted
    judged := by simpa [clearedKey?, inspectedKey?] using tally.judged
    stored := by simp [tally.stored, Store.without_without, deletedBatch?]
    counted := by
      simp only [recordUnlessCrashed, cancelIfFailed, Control.record, tally.counted,
        handedOver_append,
        handedOver_singleton, deletedBatch?, Option.getD_some, List.length_append,
        UInt64.ofNat_add] }⟩

/-- What stages can do over a store that answers every call: one of them moves without the store, or
the call of one of them is carried out. The calls made are listed. -/
inductive Served (s : Settings) (p : Pipeline) (store : Store) (scan : Scan) :
    Pipeline → Store → Scan → List StoreEvent → Prop where
  /-- A stage moves without the store. -/
  | internal (move : Move) (next : Pipeline) (shown : List Effect) (inside : move.isInternal = true)
      (stepped : p.step? s move = some (next, shown)) :
      Served s p store scan next store scan (calls shown)
  /-- The scan answers. -/
  | scanned (next : Pipeline) (shown : List Effect)
      (stepped : p.step? s (.scanned (.value (scan.next store).1)) = some (next, shown)) :
      Served s p store scan next store (scan.next store).2 (calls shown)
  /-- A key is inspected. -/
  | inspected (key : String) (next : Pipeline) (shown : List Effect)
      (inspecting : p.filter = .inspecting key)
      (stepped : p.step? s (.inspected (.value (store.ttl key))) = some (next, shown)) :
      Served s p store scan next store scan (calls shown)
  /-- A batch is deleted. -/
  | deleted (batch : List String) (waiting : Option String) (next : Pipeline) (shown : List Effect)
      (deleting : p.deleter = .deleting batch waiting)
      (stepped : p.step? s (.deleted (.value (store.delete batch).1)) = some (next, shown)) :
      Served s p store scan next (store.without batch) scan (calls shown)

variable {store' : Store} {scan' : Scan} {called : List StoreEvent}

/-- What stages do is a step of theirs. -/
theorem Served.steps (served : Served s p store scan next store' scan' called) :
    ∃ move shown, move ≠ .cancel ∧ called = calls shown ∧ p.step? s move = some (next, shown) := by
  cases served with
  | internal move next shown inside stepped =>
    refine ⟨move, shown, ?_, rfl, stepped⟩
    rintro rfl
    cases inside
  | scanned next shown stepped => exact ⟨_, shown, Move.noConfusion, rfl, stepped⟩
  | inspected key next shown inspecting stepped => exact ⟨_, shown, Move.noConfusion, rfl, stepped⟩
  | deleted batch waiting next shown deleting stepped =>
    exact ⟨_, shown, Move.noConfusion, rfl, stepped⟩

/-- Stages that are over do nothing. -/
theorem Served.live (served : Served s p store scan next store' scan' called) :
    ∃ stage, p.isLive stage = true := by
  obtain ⟨move, shown, inside, -, stepped⟩ := served.steps
  obtain ⟨mover, moved⟩ := mover_of_step stepped inside
  exact ⟨mover, moved.live⟩

/-- Stages whose calls all succeed do not raise the flag. -/
theorem Served.flag (served : Served s p store scan next store' scan' called) :
    next.control.cancelled = p.control.cancelled := by
  cases served with
  | internal move next shown inside stepped => rw [(still_of_internal stepped inside).2]
  | scanned next shown stepped => exact flag_of_regular stepped rfl
  | inspected key next shown inspecting stepped => exact flag_of_regular stepped rfl
  | deleted batch waiting next shown deleting stepped => exact flag_of_regular stepped rfl

/-- Whatever the stages do next, they keep the tally. -/
theorem Tally.step (tally : Tally s marked p store scan h lost)
    (served : Served s p store scan next store' scan' called) :
    ∃ after, Tally s marked next store' scan' (h ++ called) after := by
  cases served with
  | internal move next shown inside stepped => exact tally.internal stepped inside
  | scanned next shown stepped => exact tally.scanned stepped
  | inspected key next shown inspecting stepped => exact tally.inspected inspecting stepped
  | deleted batch waiting next shown deleting stepped => exact tally.deleted deleting stepped

/-- The effort of the stages, together with the keys that the scan has yet to yield, goes down with
whatever they do. -/
theorem Tally.effort_step (tally : Tally s marked p store scan h lost)
    (served : Served s p store scan next store' scan' called) :
    next.effort + 7 * (scan'.upcoming marked).length < p.effort + 7 *
      (scan.upcoming marked).length := by
  obtain ⟨_, later⟩ := tally.step served
  have now := congrArg List.length later.listed
  have before := congrArg List.length tally.listed
  obtain ⟨move, shown, inside, rfl, stepped⟩ := served.steps
  have spent := Pipeline.effort_step stepped inside
  simp only [found_append, List.length_append] at before now
  omega

/-- Stages that are told to wind down keep the tally. -/
theorem Tally.cancelled (tally : Tally s marked p store scan h lost) :
    ∃ after, Tally s marked { p with control := p.control.cancel } store scan h after := by
  obtain ⟨after, flow, -⟩ := tally.steady.flow.step (rfl : p.step? s .cancel = some (_, []))
  rw [show calls [] = [] from rfl, List.append_nil] at flow
  have sound (stage : StageName) : ({ p with control := p.control.cancel } : Pipeline).crash?
      stage = none := by
    have before := tally.steady.sound stage
    cases stage <;> exact before
  exact ⟨after, {
    steady := ⟨flow, sound, tally.steady.queues, Bool.noConfusion⟩
    pattern := tally.pattern
    listed := tally.listed
    exhausted := fun _ => Or.inl rfl
    judged := tally.judged
    stored := tally.stored
    counted := tally.counted }⟩

/-- Once the stages are over, the keys handed over are those that a sweep is to delete, in the order
of the list: the first ones, and all of them if nobody told the stages to wind down. -/
theorem Tally.handed_over (tally : Tally s marked p store scan h lost)
    (halted : ∀ stage, p.isLive stage = false) :
    handedOver h <+: marked.doomed s ∧
    (p.control.cancelled = false → handedOver h = marked.doomed s) := by
  have flow := tally.steady.flow
  have sound := tally.steady.sound
  have ended : p.scanner = .ended := scanner_ended (halted .scanner) (sound .scanner)
  have listed := tally.listed
  rw [flow.all_inspected sound (halted .filter), List.append_assoc] at listed
  rw [flow.handed_over sound (halted .deleter), tally.judged]
  constructor
  · rw [Store.doomed, ← listed]
    exact (List.prefix_append ..).filter _
  · intro uncancelled
    obtain told | complete := tally.exhausted ended
    · rw [uncancelled] at told
      cases told
    · rw [complete, tally.steady.kept uncancelled, List.append_nil, List.append_nil] at listed
      rw [Store.doomed, ← listed]

end Pipeline

end KeySweeper
