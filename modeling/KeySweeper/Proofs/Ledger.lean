import KeySweeper.Proofs.Stages

/-!
# The ledger of a sweep

What the completed store calls of the stages say, read off without the states of the stages: which
keys the scan yielded, which were inspected, which of them turned out to outlive the threshold, and
which were handed over for deletion. A key is counted as often as it occurs, and in order.
-/

namespace KeySweeper

/-- The store call that was completed, if the effect is one. -/
def Effect.call? : Effect → Option StoreEvent
  | .called event => some event
  | .logged _ => none

/-- The completed store calls among effects. -/
def calls (effects : List Effect) : List StoreEvent := effects.filterMap Effect.call?

namespace Ledger

/-- The answer of a scan. -/
def scanAnswer? : StoreEvent → Option (Answer (Option String))
  | .scanned _ answer => some answer
  | _ => none

/-- The key that a scan yielded. -/
def foundKey? : StoreEvent → Option String
  | .scanned _ (.value (some key)) => some key
  | _ => none

/-- The answer of a scan that yields no key: its end, a failure or a crash. -/
def scanEnd? : StoreEvent → Option (Answer (Option String))
  | .scanned _ (.value (some _)) => none
  | .scanned _ answer => some answer
  | _ => none

/-- The key whose lifetime was asked for, whatever the answer. -/
def inspectedKey? : StoreEvent → Option String
  | .inspected key _ => some key
  | _ => none

/-- The key that was found to expire, and later than the threshold allows. -/
def clearedKey? (threshold : Duration) : StoreEvent → Option String
  | .inspected key (.value (.expires left)) => if threshold < left then some key else none
  | _ => none

/-- The key whose lifetime was asked for, with the answer. -/
def inspection? : StoreEvent → Option (String × Answer Ttl)
  | .inspected key answer => some (key, answer)
  | _ => none

/-- The keys of a call that deletes, whatever the answer. -/
def deletedBatch? : StoreEvent → Option (List String)
  | .deleted keys _ => some keys
  | _ => none

/-- All answers of the scan, in order. -/
def scanAnswers (h : List StoreEvent) : List (Answer (Option String)) := h.filterMap scanAnswer?

/-- The keys that the scan yielded, in order. -/
def found (h : List StoreEvent) : List String := h.filterMap foundKey?

/-- The answers of the scan that yielded no key, in order. -/
def scanEnds (h : List StoreEvent) : List (Answer (Option String)) := h.filterMap scanEnd?

/-- The keys that were inspected, in order. -/
def inspected (h : List StoreEvent) : List String := h.filterMap inspectedKey?

/-- The inspections with their answers, in order. -/
def inspections (h : List StoreEvent) : List (String × Answer Ttl) := h.filterMap inspection?

/-- The inspected keys that outlive the threshold, in order. -/
def cleared (threshold : Duration) (h : List StoreEvent) : List String :=
  h.filterMap (clearedKey? threshold)

/-- The batches of the calls that delete, in order. -/
def batches (h : List StoreEvent) : List (List String) := h.filterMap deletedBatch?

/-- The keys handed over for deletion, in order. -/
def handedOver (h : List StoreEvent) : List String := (batches h).flatten

@[simp] theorem scanAnswers_append (h later : List StoreEvent) :
    scanAnswers (h ++ later) = scanAnswers h ++ scanAnswers later := List.filterMap_append

@[simp] theorem found_append (h later : List StoreEvent) :
    found (h ++ later) = found h ++ found later := List.filterMap_append

@[simp] theorem scanEnds_append (h later : List StoreEvent) :
    scanEnds (h ++ later) = scanEnds h ++ scanEnds later := List.filterMap_append

@[simp] theorem inspected_append (h later : List StoreEvent) :
    inspected (h ++ later) = inspected h ++ inspected later := List.filterMap_append

@[simp] theorem cleared_append (threshold : Duration) (h later : List StoreEvent) :
    cleared threshold (h ++ later) = cleared threshold h ++ cleared threshold later :=
  List.filterMap_append

@[simp] theorem batches_append (h later : List StoreEvent) :
    batches (h ++ later) = batches h ++ batches later := List.filterMap_append

@[simp] theorem handedOver_append (h later : List StoreEvent) :
    handedOver (h ++ later) = handedOver h ++ handedOver later := by
  simp only [handedOver, batches_append, List.flatten_append]

@[simp] theorem scanAnswers_singleton (event : StoreEvent) :
    scanAnswers [event] = (scanAnswer? event).toList := by
  cases read : scanAnswer? event <;> simp [scanAnswers, read]

@[simp] theorem found_singleton (event : StoreEvent) :
    found [event] = (foundKey? event).toList := by
  cases read : foundKey? event <;> simp [found, read]

@[simp] theorem scanEnds_singleton (event : StoreEvent) :
    scanEnds [event] = (scanEnd? event).toList := by
  cases read : scanEnd? event <;> simp [scanEnds, read]

@[simp] theorem inspected_singleton (event : StoreEvent) :
    inspected [event] = (inspectedKey? event).toList := by
  cases read : inspectedKey? event <;> simp [inspected, read]

@[simp] theorem cleared_singleton (threshold : Duration) (event : StoreEvent) :
    cleared threshold [event] = (clearedKey? threshold event).toList := by
  cases read : clearedKey? threshold event <;> simp [cleared, read]

@[simp] theorem batches_singleton (event : StoreEvent) :
    batches [event] = (deletedBatch? event).toList := by
  cases read : deletedBatch? event <;> simp [batches, read]

@[simp] theorem handedOver_singleton (event : StoreEvent) :
    handedOver [event] = (deletedBatch? event).getD [] := by
  cases read : deletedBatch? event <;> simp [handedOver, batches, read]

/-- The test that lets a key pass is the one that clears it. -/
theorem clearedKey?_value (threshold : Duration) (key : String) (ttl : Ttl) :
    clearedKey? threshold (.inspected key (.value ttl)) =
      if ttl.outlives threshold then some key else none := by
  cases ttl <;> simp [clearedKey?, Ttl.outlives]

/-- The inspected keys are those of the inspections. -/
theorem inspected_eq_map (h : List StoreEvent) : inspected h = (inspections h).map (·.1) := by
  rw [inspected, inspections, List.map_filterMap]
  congr 1
  funext event
  cases event <;> rfl

/-- Whether the answer to an inspection lets its key pass. -/
def passes (threshold : Duration) : Answer Ttl → Bool
  | .value ttl => ttl.outlives threshold
  | _ => false

/-- The cleared keys are those of the inspections whose answer lets them pass. -/
theorem cleared_eq_filter (threshold : Duration) (h : List StoreEvent) :
    cleared threshold h = ((inspections h).filter fun item =>
      passes threshold item.2).map (·.1) := by
  rw [cleared, inspections, List.filter_filterMap, List.map_filterMap]
  congr 1
  funext event
  cases event with
  | inspected key answer =>
    cases answer with
    | value ttl =>
      rw [clearedKey?_value]
      simp only [inspection?, Option.filter_some, passes]
      split <;> rfl
    | failed cause => rfl
    | crashed text => rfl
  | _ => rfl

/-- A cleared key is one whose inspection was answered by a lifetime above the threshold. -/
theorem mem_cleared_iff {threshold : Duration} {h : List StoreEvent} {key : String} :
    key ∈ cleared threshold h ↔
      ∃ left, threshold < left ∧ .inspected key (.value (.expires left)) ∈ h := by
  constructor
  · intro member
    obtain ⟨event, present, read⟩ := List.mem_filterMap.mp member
    unfold clearedKey? at read
    split at read
    · next other left =>
      split at read
      · next above =>
        obtain rfl := Option.some.inj read
        exact ⟨left, above, present⟩
      · cases read
    · cases read
  · rintro ⟨left, above, present⟩
    exact List.mem_filterMap.mpr ⟨_, present, by simp only [clearedKey?, above, if_true]⟩

/-- A found key is one that the scan answered with. -/
theorem mem_found_iff {h : List StoreEvent} {key : String} :
    key ∈ found h ↔ ∃ pattern, .scanned pattern (.value (some key)) ∈ h := by
  constructor
  · intro member
    obtain ⟨event, present, read⟩ := List.mem_filterMap.mp member
    unfold foundKey? at read
    split at read
    · next pattern other =>
      obtain rfl := Option.some.inj read
      exact ⟨pattern, present⟩
    · cases read
  · rintro ⟨pattern, present⟩
    exact List.mem_filterMap.mpr ⟨_, present, rfl⟩

end Ledger

@[simp] theorem calls_append (effects later : List Effect) :
    calls (effects ++ later) = calls effects ++ calls later := List.filterMap_append

/-- A completed call shows one call, whether or not a line about its failure follows. -/
@[simp] theorem calls_effects {α : Type} (event : StoreEvent) (line : StoreError → LogLine)
    (answer : Answer α) : calls (Pipeline.effects event line answer) = [event] := by
  cases answer <;> rfl

/-- Lines are no calls. -/
@[simp] theorem calls_logged (lines : List LogLine) : calls (lines.map .logged) = [] := by
  induction lines with
  | nil => rfl
  | cons line rest inductionHypothesis => exact inductionHypothesis

/-- A call that lines follow is one call. -/
theorem calls_called_logged (event : StoreEvent) (lines : List LogLine) :
    calls (.called event :: lines.map .logged) = [event] :=
  congrArg (event :: ·) (calls_logged lines)

/-- The calls that a step of the pipeline can complete. -/
inductive Pipeline.Completes (s : Settings) (p : Pipeline) : List StoreEvent → Prop where
  /-- None: only answers of the store complete calls. -/
  | nothing : Completes s p []
  /-- The scan of the pattern was asked for its next key. -/
  | scanned (asking : p.scanner = .asking) (answer : Answer (Option String)) :
      Completes s p [.scanned s.pattern answer]
  /-- The filter's key was inspected. -/
  | inspected (key : String) (inspecting : p.filter = .inspecting key) (answer : Answer Ttl) :
      Completes s p [.inspected key answer]
  /-- The deleter's batch was deleted. -/
  | deleted (batch : List String) (waiting : Option String)
      (deleting : p.deleter = .deleting batch waiting) (answer : Answer Nat) :
      Completes s p [.deleted batch answer]

/-- A step of the pipeline completes one of these calls or none. -/
theorem Pipeline.completes_of_step {s : Settings} {p next : Pipeline} {move : Move}
    {shown : List Effect} (stepped : p.step? s move = some (next, shown)) :
    Completes s p (calls shown) := by
  cases steps_of_step? stepped with
  | scanned answer asking => simpa only [calls_effects] using .scanned asking answer
  | inspected answer key inspecting =>
    simpa only [calls_effects] using .inspected key inspecting answer
  | deleted answer batch waiting deleting =>
    simpa only [calls_effects] using .deleted batch waiting deleting answer
  | _ => exact .nothing

end KeySweeper
