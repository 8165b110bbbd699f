import KeySweeper.Store.Session

/-!
# What a store contains

How the operations on a store bear on the presence of one key. Deleting and waiting bring no key
about, and storing brings about the stored key only. So a key that nobody stores does not appear.
-/

namespace KeySweeper

namespace Store

variable {store : Store} {key : String}

/-- What is found after a deletion was there before and was not deleted. -/
theorem contains_of_eraseAll {keys : List String}
    (found : Store.contains { store with entries := store.entries.eraseAll keys } key = true) :
    key ∉ keys ∧ store.contains key = true := by
  simp only [contains, live?, Keyspace.find?_eraseAll] at found
  split at found
  · cases found
  · next kept => exact ⟨kept, found⟩

/-- A key that was written without a deadline is found, and any other one is found as before. -/
theorem contains_insert (written value : String) :
    Store.contains { store with entries := store.entries.insert written ⟨value, none⟩ } key =
      if key = written then true else store.contains key := by
  simp only [contains, live?, Keyspace.find?_insert]
  split
  · rfl
  · rfl

/-- What is found after some time was there before. -/
theorem contains_of_elapse {length : Duration} (found : (store.elapse length).contains key = true) :
    store.contains key = true := by
  simp only [contains, live?, elapse] at found ⊢
  obtain ⟨entry, kept⟩ := Option.isSome_iff_exists.mp found
  obtain ⟨present, live⟩ := Option.filter_eq_some_iff.mp kept
  refine Option.isSome_iff_exists.mpr ⟨entry, Option.filter_eq_some_iff.mpr ⟨present, ?_⟩⟩
  cases deadline : entry.deadline with
  | none => simp [StoreEntry.isLive, deadline]
  | some moment =>
    simp only [StoreEntry.isLive, deadline, decide_eq_true_eq] at live ⊢
    omega

/-- Storing a value takes no time. -/
theorem set?_now {after : Store} {written value : String} {ttl : Option Duration}
    (stored : store.set? written value ttl = some after) : after.now = store.now := by
  simp only [set?] at stored
  split at stored
  · obtain rfl := Option.some.inj stored
    rfl
  · obtain ⟨-, made⟩ := Option.ite_none_right_eq_some.mp stored
    obtain rfl := Option.some.inj made
    rfl

/-- Storing a value touches no other entry. -/
theorem set?_find? {after : Store} {written value : String} {ttl : Option Duration}
    (stored : store.set? written value ttl = some after) (different : key ≠ written) :
    after.entries.find? key = store.entries.find? key := by
  simp only [set?] at stored
  split at stored
  · obtain rfl := Option.some.inj stored
    rw [Keyspace.find?_insert, if_neg different]
  · obtain ⟨-, made⟩ := Option.ite_none_right_eq_some.mp stored
    obtain rfl := Option.some.inj made
    rw [Keyspace.find?_insert, if_neg different]

/-- Storing a value does not change what else is found. -/
theorem set?_other {after : Store} {written value : String} {ttl : Option Duration}
    (stored : store.set? written value ttl = some after) (different : key ≠ written) :
    after.contains key = store.contains key := by
  simp only [contains, live?, set?_find? stored different, set?_now stored]

/-- Another client that does not store a key does not bring it about. -/
theorem contains_of_run {command : SessionCommand}
    (found : ((Session.ofStore store).run command).2.2.store.contains key = true)
    (other : ∀ written value ttl, command = .set written value ttl → written ≠ key) :
    store.contains key = true := by
  cases command with
  | set written value ttl =>
    have different : key ≠ written := fun same => other written value ttl rfl same.symm
    simp only [Session.run, Session.ofStore] at found
    cases stored : store.set? written value ttl with
    | none => simpa only [stored] using found
    | some after =>
      simp only [stored] at found
      rwa [set?_other stored different] at found
  | delete keys => exact (contains_of_eraseAll found).2
  | sleep length => exact contains_of_elapse found
  | nextKey index => simpa [Session.run, Session.ofStore] using found
  | _ => exact found

/-- Nothing live under the key has a deadline. -/
def Timeless (store : Store) (key : String) : Prop :=
  ∀ entry moment, store.entries.find? key = some entry → entry.deadline = some moment →
    moment ≤ store.now

/-- A key that is not found is timeless. -/
theorem timeless_of_absent (absent : store.contains key = false) : store.Timeless key := by
  intro entry moment present deadline
  apply Nat.le_of_not_lt
  intro later
  simp only [contains, live?, present, Option.filter_some, StoreEntry.isLive, deadline,
    decide_eq_true later, if_true] at absent
  cases absent

/-- A timeless key never expires. -/
theorem Timeless.ttl_ne (timeless : store.Timeless key) (left : Duration) :
    store.ttl key ≠ .expires left := by
  intro expires
  simp only [ttl] at expires
  split at expires
  · cases expires
  · next entry present =>
    simp only [StoreEntry.ttl] at expires
    split at expires
    · cases expires
    · next moment deadline =>
      split at expires
      · next before => exact absurd (timeless entry moment present deadline) (Nat.not_le.mpr before)
      · cases expires

/-- An entry without a deadline is found. -/
theorem contains_of_persistent {value : String}
    (present : store.entries.find? key = some ⟨value, none⟩) :
    store.contains key = true := by
  simp only [contains, live?, present]
  rfl

/-- Time does not go back, whatever another client does. -/
theorem now_le_run (store : Store) (command : SessionCommand) :
    store.now ≤ ((Session.ofStore store).run command).2.2.store.now := by
  cases command with
  | set written value ttl =>
    simp only [Session.run, Session.ofStore]
    cases stored : store.set? written value ttl with
    | none => exact Nat.le_refl _
    | some after => exact Nat.le_of_eq (set?_now stored).symm
  | sleep length => exact Nat.le_add_right ..
  | nextKey index => simp [Session.run, Session.ofStore]
  | _ => exact Nat.le_refl _

/-- Another client that neither stores nor deletes a key leaves its entry alone, and time does not
go back. -/
theorem find?_of_run {command : SessionCommand}
    (unset : ∀ written value ttl, command = .set written value ttl → written ≠ key)
    (undeleted : ∀ keys, command = .delete keys → key ∉ keys) :
    ((Session.ofStore store).run command).2.2.store.entries.find? key = store.entries.find? key ∧
      store.now ≤ ((Session.ofStore store).run command).2.2.store.now := by
  refine ⟨?_, now_le_run store command⟩
  cases command with
  | set written value ttl =>
    have different : key ≠ written := fun same => unset written value ttl rfl same.symm
    simp only [Session.run, Session.ofStore]
    cases stored : store.set? written value ttl with
    | none => rfl
    | some after => exact set?_find? stored different
  | delete keys =>
    simp only [Session.run, Session.ofStore, delete]
    rw [Keyspace.find?_eraseAll, if_neg (undeleted keys rfl)]
  | nextKey index => simp [Session.run, Session.ofStore]
  | _ => rfl

/-- The store as a call finds it that has read the clock at some moment and then reads the
entries. -/
def asOf (store : Store) (moment : Nat) : Store := { store with now := moment }

/-- A call that reads the clock and the entries at once finds the store as it is. -/
@[simp] theorem asOf_now (store : Store) : store.asOf store.now = store := rfl

end Store

end KeySweeper
