import KeySweeper.Proofs.Chronicle
import KeySweeper.Proofs.Flow

/-!
# Nothing is deleted without clearance

A key is cleared by a sweep once the scan of its pattern has yielded the key and, after that, the
store has answered an inspection with a lifetime above the threshold. Every key of a batch was
cleared before its call was made, and no key is handed over more often than it was cleared, whatever
the store answers and however the parts of the sweep interleave.
-/

namespace KeySweeper

open Ledger

/-- The calls show that the scan yielded the key and that a later inspection found a lifetime above
the threshold. -/
def Cleared (s : Settings) (h : List StoreEvent) (key : String) : Prop :=
  ∃ before between after left, s.minTtl < left ∧
    h = before ++ .scanned s.pattern (.value (some key)) :: between ++
      .inspected key (.value (.expires left)) :: after

/-- Later calls take no clearance back. -/
theorem Cleared.append {s : Settings} {h : List StoreEvent} {key : String}
    (cleared : Cleared s h key) (later : List StoreEvent) : Cleared s (h ++ later) key := by
  obtain ⟨before, between, after, left, above, rfl⟩ := cleared
  exact ⟨before, between, after ++ later, left, above, by simp⟩

namespace Pipeline

/-- What the ledger of a pipeline says about clearance: the scan is that of the pattern, and every
key that was found to outlive the threshold, and so every key of a deleted batch, was cleared by
then. -/
structure Vetted (s : Settings) (p : Pipeline) (h : List StoreEvent) : Prop where
  flow : ∃ lost, Flow s p h lost
  pattern : ∀ pattern answer, .scanned pattern answer ∈ h → pattern = s.pattern
  vetted : ∀ key ∈ cleared s.minTtl h, Cleared s h key
  deleted : ∀ before batch answer after, h = before ++ .deleted batch answer :: after →
    ∀ key ∈ batch, Cleared s before key

variable {s : Settings} {p next : Pipeline} {move : Move} {shown : List Effect}
variable {h : List StoreEvent} {lost : List String}

/-- Fresh stages have called nothing. -/
theorem Vetted.fresh (s : Settings) (control : Control) : Vetted s (.fresh control) [] where
  flow := ⟨[], Flow.fresh s control⟩
  pattern := nofun
  vetted := nofun
  deleted before batch answer after impossible := by simp at impossible

/-- A key that the filter asks about was yielded by the scan. -/
theorem Flow.found_of_inspecting {key : String} (flow : Flow s p h lost)
    (inspecting : p.filter = .inspecting key) : key ∈ found h := by
  rw [flow.upstream, show p.filter.toInspect = [key] by rw [inspecting]; rfl]
  simp

/-- The batch that is being deleted, together with all batches before it, holds the first keys that
were cleared. -/
theorem Flow.submitted_deleting {batch : List String} {waiting : Option String}
    (flow : Flow s p h lost) (deleting : p.deleter = .deleting batch waiting) :
    handedOver h ++ batch <+: cleared s.minTtl h := by
  have account := flow.downstream (by simp only [crash?, deleting])
  rw [show p.deleter.held = batch ++ waiting.toList by rw [deleting]; rfl] at account
  exact ⟨waiting.toList ++ p.matched.queue ++ p.filter.toSend, by simp [account]⟩

/-- The keys of a batch that is being deleted were cleared. -/
theorem Vetted.cleared_of_deleting {batch : List String} {waiting : Option String}
    (vetted : Vetted s p h) (deleting : p.deleter = .deleting batch waiting) :
    ∀ key ∈ batch, Cleared s h key := by
  intro key member
  obtain ⟨lost, flow⟩ := vetted.flow
  exact vetted.vetted key
    ((flow.submitted_deleting deleting).subset (List.mem_append_right _ member))

/-- An answered inspection clears its key if the answer is a lifetime above the threshold: the
filter only asks about keys that the scan yielded. -/
theorem Vetted.cleared_of_inspecting {key : String} {left : Duration} (vetted : Vetted s p h)
    (inspecting : p.filter = .inspecting key) (above : s.minTtl < left) :
    Cleared s (h ++ [.inspected key (.value (.expires left))]) key := by
  obtain ⟨lost, flow⟩ := vetted.flow
  obtain ⟨pattern, present⟩ := mem_found_iff.mp (flow.found_of_inspecting inspecting)
  obtain ⟨before, between, split⟩ := List.append_of_mem present
  rw [vetted.pattern pattern _ present] at split
  exact ⟨before, between, [], left, above, by rw [split]⟩

/-- Every step keeps to clearance: an inspection clears its key at most, and a deletion takes only
keys that were cleared before. -/
theorem Vetted.step (vetted : Vetted s p h) (stepped : p.step? s move = some (next, shown)) :
    Vetted s next (h ++ calls shown) := by
  obtain ⟨lost, flow⟩ := vetted.flow
  obtain ⟨after, flow', _⟩ := flow.step stepped
  have completes := completes_of_step stepped
  refine ⟨⟨after, flow'⟩, ?_, ?_, ?_⟩
  · intro pattern answer member
    rcases List.mem_append.mp member with earlier | now
    · exact vetted.pattern pattern answer earlier
    · generalize calls shown = now' at completes now
      cases completes with
      | nothing => cases now
      | scanned asking other => cases List.mem_singleton.mp now; rfl
      | inspected key inspecting other => cases List.mem_singleton.mp now
      | deleted batch waiting deleting other => cases List.mem_singleton.mp now
  · intro key member
    rw [cleared_append] at member
    rcases List.mem_append.mp member with earlier | now
    · exact (vetted.vetted key earlier).append _
    · obtain ⟨left, above, present⟩ := mem_cleared_iff.mp now
      generalize calls shown = now' at completes present
      cases completes with
      | nothing => cases present
      | scanned asking other => cases List.mem_singleton.mp present
      | inspected other inspecting answer =>
        cases List.mem_singleton.mp present
        exact vetted.cleared_of_inspecting inspecting above
      | deleted batch waiting deleting other => cases List.mem_singleton.mp present
  · intro before batch answer rest split key member
    rcases List.eq_nil_or_concat rest with rfl | ⟨init, last, rfl⟩
    · generalize calls shown = now at completes split
      cases completes with
      | nothing =>
        rw [List.append_nil] at split
        exact vetted.deleted before batch answer [] split key member
      | scanned asking other => cases List.append_inj_right' split rfl
      | inspected other inspecting lifetime => cases List.append_inj_right' split rfl
      | deleted other waiting deleting removed =>
        cases List.append_inj_right' split rfl
        obtain rfl := List.append_inj_left' split rfl
        exact vetted.cleared_of_deleting deleting key member
    · have earlier (event : StoreEvent) (same : calls shown = [event]) :
          h = before ++ .deleted batch answer :: init := by
        rw [same, List.concat_eq_append, ← List.cons_append, ← List.append_assoc] at split
        exact List.append_inj_left' split rfl
      generalize calls shown = now at completes split earlier
      cases completes with
      | nothing =>
        rw [List.append_nil] at split
        exact vetted.deleted before batch answer _ split key member
      | scanned asking other =>
        exact vetted.deleted before batch answer init (earlier _ rfl) key member
      | inspected other inspecting lifetime =>
        exact vetted.deleted before batch answer init (earlier _ rfl) key member
      | deleted other waiting deleting removed =>
        exact vetted.deleted before batch answer init (earlier _ rfl) key member

end Pipeline

namespace Sweep

/-- The batch that a sweep is about to hand over, if its deleter waits for the store. -/
def submitting (s : Settings) (sweep : Sweep) : List String :=
  match sweep.pending? s .deleter with
  | some (.delete batch) => batch
  | _ => []

/-- A sweep submits the batch that its deleter deletes. -/
theorem submitting_running {s : Settings} {sweep : Sweep} {p : Pipeline}
    (running : sweep.work = .running p) : (∃ batch waiting, p.deleter = .deleting batch waiting ∧
      sweep.submitting s = batch) ∨ sweep.submitting s = [] := by
  simp only [submitting, pending?, deleterCall?, running]
  cases p.deleter with
  | deleting batch waiting => exact Or.inl ⟨batch, waiting, rfl, rfl⟩
  | _ => exact Or.inr rfl

variable {s : Settings} {sweep : Sweep} {flag : Bool} {moves : List Move} {log : Chronicle}

/-- The stages of every sweep keep to clearance. -/
theorem vetted_along (ran : run? s (.claimed flag) moves = some (sweep, log)) :
    HoldsOf (Pipeline.Vetted s) (stageCalls log) sweep.work :=
  (holds_along (fun _ => .fresh s _) (fun _ _ _ _ _ vetted stepped => vetted.step stepped) ran).2

/-- Every key of a batch that is about to be handed over was cleared, and together with the batches
before it no key is handed over more often than it was cleared. -/
theorem submitting_cleared (ran : run? s (.claimed flag) moves = some (sweep, log)) :
    (∀ key ∈ sweep.submitting s, Cleared s (stageCalls log) key) ∧
      handedOver (stageCalls log) ++ sweep.submitting s <+: cleared s.minTtl (stageCalls log) := by
  have vetted := vetted_along ran
  cases work : sweep.work with
  | waiting raised =>
    rw [work] at vetted
    have none : stageCalls log = [] := vetted
    have idle : sweep.submitting s = [] := by simp only [submitting, pending?, deleterCall?, work]
    rw [none, idle]
    exact ⟨List.forall_mem_nil _, List.nil_prefix⟩
  | running p =>
    rw [work] at vetted
    have held : Pipeline.Vetted s p (stageCalls log) := vetted
    obtain ⟨lost, flow⟩ := held.flow
    rcases submitting_running work with ⟨batch, waiting, deleting, same⟩ | idle
    · rw [same]
      exact ⟨held.cleared_of_deleting deleting, flow.submitted_deleting deleting⟩
    · rw [idle, List.append_nil]
      exact ⟨List.forall_mem_nil _, flow.submitted⟩

end Sweep

end KeySweeper
