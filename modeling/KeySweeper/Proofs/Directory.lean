import KeySweeper.Proofs.Inventory
import Mathlib.Data.Finset.Sort
import Mathlib.Data.String.Basic

/-!
# A store is a map without expired entries

A store keeps an entry whose deadline has come until its key is deleted or written again, and every
query must look past it by itself. Here is what a client may think of instead: a map from keys to
values with deadlines, from which an entry is gone as soon as its deadline has come. The registry is
such a map with a clock. It answers every command in terms of the map alone, and no state of it
holds an entry that is expired.

Forgetting the expired entries turns a session into a registry, and every command gives the same
answer before and after this and leads to corresponding states. So no sequence of commands tells the
two apart, whatever the store held at first, and two stores with the same live entries are told
apart by none either.

A session charges the latency of a handle to its client and not to the clock of the store. Time
passes in it by commands of its own, as often and for as long as anybody likes, so a call that comes
back later than it was made is one before which some time has passed.
-/

namespace KeySweeper

/-- An entry has lapsed once its deadline has come. -/
def StoreEntry.Lapsed (e : StoreEntry) (now : Nat) : Prop :=
  ∃ deadline, e.deadline = some deadline ∧ deadline ≤ now

/-- An entry is live as long as it has not lapsed. -/
theorem StoreEntry.isLive_iff {e : StoreEntry} {now : Nat} :
    e.isLive now = true ↔ ¬ e.Lapsed now := by
  unfold isLive Lapsed
  cases e.deadline with
  | none => simp
  | some deadline => simp

instance (e : StoreEntry) (now : Nat) : Decidable (e.Lapsed now) :=
  decidable_of_iff (¬ e.isLive now = true) (not_congr StoreEntry.isLive_iff |>.trans not_not)

/-- What is live at some time was live before. -/
theorem StoreEntry.isLive_of_later {e : StoreEntry} {now later : Nat} (ordered : now ≤ later)
    (live : e.isLive later = true) : e.isLive now = true := by
  rw [isLive_iff] at live ⊢
  rintro ⟨deadline, timed, come⟩
  exact live ⟨deadline, timed, Nat.le_trans come ordered⟩

/-- A map from finitely many keys to entries. -/
structure Directory where
  /-- The keys under which there is an entry. -/
  keys : Finset String
  /-- The entry under a key. -/
  entry : String → Option StoreEntry
  /-- There is an entry under the keys, and under nothing else. -/
  mem_keys : ∀ key, key ∈ keys ↔ (entry key).isSome = true

namespace Directory

variable {d : Directory} {key : String}

/-- Maps with the same entries are the same. -/
@[ext]
theorem ext {first second : Directory} (same : ∀ key, first.entry key = second.entry key) :
    first = second := by
  obtain ⟨keys, entry, mem_keys⟩ := first
  obtain ⟨keys', entry', mem_keys'⟩ := second
  obtain rfl : entry = entry' := funext same
  obtain rfl : keys = keys' := by
    ext key
    rw [mem_keys, mem_keys']
  rfl

/-- The map in which a key has this entry, in place of the one it had. -/
def put (d : Directory) (key : String) (e : StoreEntry) : Directory where
  keys := insert key d.keys
  entry := Function.update d.entry key (some e)
  mem_keys other := by
    by_cases same : other = key
    · subst same
      simp
    · simp [same, d.mem_keys]

/-- The map without these keys. -/
def remove (d : Directory) (gone : Finset String) : Directory where
  keys := d.keys \ gone
  entry key := if key ∈ gone then none else d.entry key
  mem_keys key := by
    by_cases among : key ∈ gone <;> simp [among, d.mem_keys]

/-- The map without the entries that have lapsed. -/
def purge (d : Directory) (now : Nat) : Directory where
  keys := d.keys.filter fun key => ((d.entry key).filter fun e => ¬ e.Lapsed now).isSome
  entry key := (d.entry key).filter fun e => ¬ e.Lapsed now
  mem_keys key := by
    rw [Finset.mem_filter, and_iff_right_iff_imp, d.mem_keys]
    intro kept
    obtain ⟨e, left⟩ := Option.isSome_iff_exists.mp kept
    exact Option.isSome_of_eq_some (Option.filter_eq_some_iff.mp left).1

@[simp] theorem entry_put (d : Directory) (key other : String) (e : StoreEntry) :
    (d.put key e).entry other = if other = key then some e else d.entry other :=
  Function.update_apply ..

@[simp] theorem entry_remove (d : Directory) (gone : Finset String) (key : String) :
    (d.remove gone).entry key = if key ∈ gone then none else d.entry key := rfl

@[simp] theorem entry_purge (d : Directory) (now : Nat) (key : String) :
    (d.purge now).entry key = (d.entry key).filter (·.isLive now) := by
  have same : (fun e : StoreEntry => decide (¬ e.Lapsed now)) = (·.isLive now) := by
    funext e
    exact Bool.eq_iff_iff.mpr (decide_eq_true_iff.trans StoreEntry.isLive_iff.symm)
  exact congrArg (Option.filter · (d.entry key)) same

/-- The keys that a pattern selects, in increasing order. -/
def selected (d : Directory) (pattern : String) : List String :=
  (d.keys.filter fun key => Glob.selects pattern key = true).sort

/-- The lifetime left to a key. -/
def ttl (d : Directory) (now : Nat) (key : String) : Ttl :=
  match d.entry key with
  | none => .missing
  | some e =>
    match e.deadline with
    | none => .persistent
    | some deadline => .expires ⟨deadline - now⟩

end Directory

/-- A map with a clock, in which no entry has lapsed, and with the scans that were opened. -/
structure Registry where
  /-- The map. -/
  directory : Directory
  /-- The time on the clock. -/
  now : Nat
  /-- The open scans, in the order of opening. -/
  scans : List Scan
  /-- No entry has lapsed. -/
  current : ∀ key e, directory.entry key = some e → ¬ e.Lapsed now

namespace Registry

/-- Registries with the same entries, clock and scans are the same. -/
@[ext]
theorem ext {first second : Registry}
    (entry : ∀ key, first.directory.entry key = second.directory.entry key)
    (now : first.now = second.now) (scans : first.scans = second.scans) : first = second := by
  obtain ⟨directory, now', scans', current⟩ := first
  obtain ⟨directory', now'', scans'', current'⟩ := second
  obtain rfl : directory = directory' := Directory.ext entry
  obtain rfl : now' = now'' := now
  obtain rfl : scans' = scans'' := scans
  rfl

/-- The registry of a map at some time: what has lapsed by then is gone. -/
def settle (d : Directory) (now : Nat) (scans : List Scan) : Registry where
  directory := d.purge now
  now := now
  scans := scans
  current key e left := by
    rw [Directory.entry_purge, Option.filter_eq_some_iff] at left
    exact StoreEntry.isLive_iff.mp left.2

/-- What the registry answers to a command, and the registry after it. -/
def run (r : Registry) : SessionCommand → SessionAnswer × Registry
  | .set key value none => (.done, settle (r.directory.put key ⟨value, none⟩) r.now r.scans)
  | .set key value (some length) =>
    if r.now + length.nanos < Store.clockLimit then
      (.done, settle (r.directory.put key ⟨value, some (r.now + length.nanos)⟩) r.now r.scans)
    else (.deadlineOverflow, r)
  | .get key => (.text ((r.directory.entry key).map (·.value)), r)
  | .contains key => (.truth (decide (key ∈ r.directory.keys)), r)
  | .ttl key => (.lifetime (r.directory.ttl r.now key), r)
  | .delete keys =>
    (.count (keys.toFinset ∩ r.directory.keys).card,
      settle (r.directory.remove keys.toFinset) r.now r.scans)
  | .keys pattern => (.texts (r.directory.selected pattern), r)
  | .scan pattern => (.texts (r.directory.selected pattern), r)
  | .openScan pattern => (.count r.scans.length, { r with scans := r.scans ++ [⟨pattern, none⟩] })
  | .nextKey index =>
    match r.scans[index]? with
    | none => (.text none, r)
    | some scan =>
      let upcoming := scan.remaining.getD (r.directory.selected scan.pattern)
      (.text upcoming.head?,
        { r with scans := r.scans.set index { scan with remaining := some upcoming.tail } })
  | .size => (.count r.directory.keys.card, r)
  | .isEmpty => (.truth (decide (r.directory.keys = ∅)), r)
  | .sleep length => (.done, settle r.directory (r.now + length.nanos) r.scans)
  | .useLatency _ => (.done, r)

/-- What the registry answers to commands, one after the other, and the registry after them. -/
def serve : Registry → List SessionCommand → List SessionAnswer × Registry
  | r, [] => ([], r)
  | r, command :: rest =>
    let (answer, next) := r.run command
    let (answers, last) := next.serve rest
    (answer :: answers, last)

end Registry

/-- What a session answers to commands, one after the other, and the session after them. -/
def Session.serve : Session → List SessionCommand → List SessionAnswer × Session
  | s, [] => ([], s)
  | s, command :: rest =>
    let (answer, _, next) := s.run command
    let (answers, last) := next.serve rest
    (answer :: answers, last)

namespace Store

variable {store : Store} {key : String}

/-- The keys under which something live is found. -/
def liveKeys (store : Store) : Finset String := (store.liveEntries.map (·.1)).toFinset

/-- A live key is one that is found. -/
theorem mem_liveKeys : key ∈ store.liveKeys ↔ (store.live? key).isSome = true := by
  simp only [liveKeys, List.mem_toFinset, List.mem_map, mem_liveEntries, Option.isSome_iff_exists]
  constructor
  · rintro ⟨item, live, rfl⟩
    exact ⟨item.2, live⟩
  · rintro ⟨entry, live⟩
    exact ⟨(key, entry), live, rfl⟩

/-- What a store holds, as a map without expired entries. -/
def directory (store : Store) : Directory where
  keys := store.liveKeys
  entry := store.live?
  mem_keys _ := mem_liveKeys

@[simp] theorem keys_directory (store : Store) : store.directory.keys = store.liveKeys := rfl

@[simp] theorem entry_directory (store : Store) (key : String) :
    store.directory.entry key = store.live? key := rfl

/-- What is live has not lapsed. -/
theorem not_lapsed_of_live? {entry : StoreEntry} (live : store.live? key = some entry) :
    ¬ entry.Lapsed store.now :=
  StoreEntry.isLive_iff.mp (Option.filter_eq_some_iff.mp live).2

/-- What is found once an entry was put in: under its key this entry, if it is live, and under any
other key what was found before. -/
theorem live?_insert (store : Store) (key other : String) (e : StoreEntry) :
    Store.live? { store with entries := store.entries.insert key e } other =
      if other = key then (some e).filter (·.isLive store.now) else store.live? other := by
  simp only [live?, Keyspace.find?_insert]
  split <;> rfl

/-- There are as many live keys as live entries. -/
theorem size_eq_card (store : Store) : store.size = store.directory.keys.card := by
  rw [keys_directory, liveKeys, List.toFinset_card_of_nodup store.nodup_liveEntries,
    List.length_map, size]

/-- Nothing is live if there are no live keys. -/
theorem isEmpty_eq_decide (store : Store) : store.isEmpty = decide (store.directory.keys = ∅) := by
  rw [Bool.eq_iff_iff, decide_eq_true_iff, isEmpty, List.isEmpty_iff, keys_directory, liveKeys,
    List.toFinset_eq_empty_iff, List.map_eq_nil_iff]

/-- A deletion counts the keys that were live among those given, each once. -/
theorem delete_eq_card (store : Store) (keys : List String) :
    (store.delete keys).1 = (keys.toFinset ∩ store.directory.keys).card := by
  have distinct : ((store.liveEntries.filter fun item => keys.contains item.1).map (·.1)).Nodup :=
    store.nodup_liveEntries.sublist (List.filter_sublist.map _)
  have same : ((store.liveEntries.filter fun item => keys.contains item.1).map (·.1)).toFinset =
      keys.toFinset ∩ store.directory.keys := by
    ext key
    simp only [List.mem_toFinset, List.mem_map, List.mem_filter, List.contains_iff_mem,
      Finset.mem_inter, keys_directory, liveKeys]
    constructor
    · rintro ⟨item, ⟨live, given⟩, rfl⟩
      exact ⟨given, item, live, rfl⟩
    · rintro ⟨given, item, live, rfl⟩
      exact ⟨item, ⟨live, given⟩, rfl⟩
  rw [← same, List.toFinset_card_of_nodup distinct, List.length_map]
  rfl

/-- The keys are listed in increasing order. -/
theorem pairwise_keys (store : Store) (pattern : String) : (store.keys pattern).Pairwise (· < ·) :=
  List.pairwise_map.mpr ((store.entries.increasing.filter _).filter _)

/-- The listed keys are those that the pattern selects in the map. -/
theorem keys_eq_selected (store : Store) (pattern : String) :
    store.keys pattern = store.directory.selected pattern := by
  apply (store.pairwise_keys pattern).eq_of_mem_iff (Finset.sortedLT_sort _).pairwise
  intro key
  rw [mem_keys_iff, Finset.mem_sort, Finset.mem_filter, keys_directory, mem_liveKeys, contains]

/-- The lifetime left to a key is that of its entry in the map. -/
theorem ttl_eq_ttl (store : Store) (key : String) :
    store.ttl key = store.directory.ttl store.now key := by
  rw [ttl, Directory.ttl, entry_directory, live?]
  cases store.entries.find? key with
  | none => rfl
  | some e =>
    simp only [Option.filter_some, StoreEntry.ttl, StoreEntry.isLive]
    cases timed : e.deadline with
    | none => simp [timed]
    | some deadline => by_cases ahead : store.now < deadline <;> simp [timed, ahead]

end Store

/-- A session, as a map without expired entries. Which handle is in use makes no difference to
it. -/
def Session.registry (s : Session) : Registry where
  directory := s.store.directory
  now := s.store.now
  scans := s.scans.map (·.scan)
  current _ _ live := Store.not_lapsed_of_live? live

namespace Session

/-- The registry of a session after an entry was put in. -/
theorem registry_insert (s : Session) (key : String) (e : StoreEntry) :
    Registry.settle (s.registry.directory.put key e) s.registry.now s.registry.scans =
      ({ s with store.entries := s.store.entries.insert key e } : Session).registry := by
  refine Registry.ext (fun other => ?_) rfl rfl
  simp only [Registry.settle, registry, Store.entry_directory, Directory.entry_purge,
    Directory.entry_put, Store.live?_insert]
  split
  · rfl
  · simp only [Store.live?, Option.filter_filter, Bool.and_self]

/-- The registry of a session after keys were taken out. -/
theorem registry_eraseAll (s : Session) (keys : List String) :
    Registry.settle (s.registry.directory.remove keys.toFinset) s.registry.now s.registry.scans =
      ({ s with store.entries := s.store.entries.eraseAll keys } : Session).registry := by
  refine Registry.ext (fun other => ?_) rfl rfl
  simp only [Registry.settle, registry, Store.entry_directory, Directory.entry_purge,
    Directory.entry_remove, Store.live?, Keyspace.find?_eraseAll, List.mem_toFinset]
  split
  · rfl
  · simp only [Option.filter_filter, Bool.and_self]

/-- The registry of a session after some time has passed. -/
theorem registry_elapse (s : Session) (length : Duration) :
    Registry.settle s.registry.directory (s.registry.now + length.nanos) s.registry.scans =
      ({ s with store := s.store.elapse length } : Session).registry := by
  refine Registry.ext (fun key => ?_) rfl rfl
  simp only [Registry.settle, registry, Store.entry_directory, Directory.entry_purge, Store.live?,
    Store.elapse, Option.filter_filter]
  congr 1
  funext e
  rw [Bool.eq_iff_iff, Bool.and_eq_true, and_iff_right_iff_imp]
  exact StoreEntry.isLive_of_later (Nat.le_add_right ..)

/-- A session yields the next key of a scan as its registry does. -/
theorem registry_nextKey (s : Session) (index : Nat) : s.registry.run (.nextKey index) =
    ((s.run (.nextKey index)).1, (s.run (.nextKey index)).2.2.registry) := by
  cases opened : s.scans[index]? with
  | none =>
    have known : s.registry.scans[index]? = none := by simp [registry, opened]
    simp only [Registry.run, run, known, opened]
  | some slow =>
    have known : s.registry.scans[index]? = some slow.scan := by simp [registry, opened]
    have upcoming : slow.scan.remaining.getD (s.registry.directory.selected slow.scan.pattern) =
        slow.scan.upcoming s.store := by
      rw [Scan.upcoming, s.store.keys_eq_selected]
      rfl
    obtain ⟨first, others⟩ := slow.scan.next_eq s.store
    simp only [Registry.run, run, known, opened, upcoming, first, others]
    refine congrArg (Prod.mk _) (Registry.ext (fun _ => rfl) rfl ?_)
    simp only [registry, List.map_set]

/-- A session answers every command as its registry does, and goes on to a session whose registry is
the next one. -/
theorem registry_run (s : Session) (command : SessionCommand) :
    s.registry.run command = ((s.run command).1, (s.run command).2.2.registry) := by
  have listing (pattern : String) : (SessionAnswer.texts (s.registry.directory.selected pattern),
      s.registry) = (SessionAnswer.texts (s.store.keys pattern), s.registry) := by
    rw [s.store.keys_eq_selected]
    rfl
  cases command with
  | set key value ttl =>
    cases ttl with
    | none => exact congrArg (Prod.mk _) (s.registry_insert key ⟨value, none⟩)
    | some length =>
      simp only [Registry.run, run, Store.set?]
      by_cases inside : s.store.now + length.nanos < Store.clockLimit
      · have known : s.registry.now + length.nanos < Store.clockLimit := inside
        rw [if_pos known, if_pos inside]
        exact congrArg (Prod.mk _)
          (s.registry_insert key ⟨value, some (s.store.now + length.nanos)⟩)
      · have unknown : ¬ s.registry.now + length.nanos < Store.clockLimit := inside
        rw [if_neg unknown, if_neg inside]
  | get key => rfl
  | contains key =>
    have known : decide (key ∈ s.store.directory.keys) = s.store.contains key :=
      Bool.eq_iff_iff.mpr (decide_eq_true_iff.trans Store.mem_liveKeys)
    exact congrArg (fun found => (SessionAnswer.truth found, s.registry)) known
  | ttl key =>
    exact congrArg (fun left => (SessionAnswer.lifetime left, s.registry))
      (s.store.ttl_eq_ttl key).symm
  | delete keys =>
    exact congrArg₂ (fun removed => Prod.mk (SessionAnswer.count removed))
      (s.store.delete_eq_card keys).symm (s.registry_eraseAll keys)
  | keys pattern => exact listing pattern
  | scan pattern => exact listing pattern
  | openScan pattern =>
    refine congrArg₂ (fun number => Prod.mk (SessionAnswer.count number)) (List.length_map _) ?_
    refine Registry.ext (fun _ => rfl) rfl ?_
    simp only [registry, run, List.map_append, List.map_cons, List.map_nil, Scan.fresh]
  | nextKey index => exact s.registry_nextKey index
  | size =>
    exact congrArg (fun number => (SessionAnswer.count number, s.registry))
      s.store.size_eq_card.symm
  | isEmpty =>
    exact congrArg (fun empty => (SessionAnswer.truth empty, s.registry))
      s.store.isEmpty_eq_decide.symm
  | sleep length => exact congrArg (Prod.mk _) (s.registry_elapse length)
  | useLatency latency => rfl

/-- A session answers any commands as its registry does. -/
theorem registry_serve (s : Session) (commands : List SessionCommand) :
    s.registry.serve commands = ((s.serve commands).1, (s.serve commands).2.registry) := by
  induction commands generalizing s with
  | nil => rfl
  | cons command rest inductionHypothesis =>
    simp only [Registry.serve, registry_run, inductionHypothesis]
    rfl

/-- Sessions with the same live entries, the same time and the same open scans. What expired entries
their stores keep and which handles are in use may be different. -/
structure Alike (first second : Session) : Prop where
  live : ∀ key, first.store.live? key = second.store.live? key
  now : first.store.now = second.store.now
  scans : first.scans.map (·.scan) = second.scans.map (·.scan)

/-- Such sessions have the same registry. -/
theorem Alike.registry_eq {first second : Session} (alike : Alike first second) :
    first.registry = second.registry :=
  Registry.ext alike.live alike.now alike.scans

end Session

/-- The lifetime of a key that was stored just now. Without a deadline it is unlimited, and with no
time at all the key is not found. -/
def Ttl.granted : Option Duration → Ttl
  | none => .persistent
  | some length => if length = .zero then .missing else .expires length

/-- A star selects every key. -/
theorem Glob.selects_star (key : String) : selects "*" key = true := by
  rw [selects, show "*".toList = ['*'] from rfl, matchChars]

namespace Store

variable {store : Store} {key : String}

/-- What the answers of a store have to do with each other. -/
structure Coherent (store : Store) : Prop where
  /-- A key can be read, has a lifetime and is among all keys if it is said to exist, and otherwise
  none of this. -/
  found : ∀ key, ((store.get? key).isSome = true ↔ store.contains key = true) ∧
    (store.ttl key ≠ .missing ↔ store.contains key = true) ∧
      (key ∈ store.keys "*" ↔ store.contains key = true)
  /-- The size is the number of all keys. -/
  counted : store.size = (store.keys "*").length ∧ (store.isEmpty = true ↔ store.keys "*" = [])
  /-- A lifetime that is left is not nothing. -/
  positive : ∀ key left, store.ttl key = .expires left → .zero < left
  /-- A deletion counts the different keys that are found, and it takes away these and no others. -/
  deleted : ∀ keys, (store.delete keys).1 = (keys.toFinset.filter fun key =>
    store.contains key = true).card ∧ (store.delete keys).2.now = store.now ∧
      ∀ key, (store.delete keys).2.live? key = if key ∈ keys then none else store.live? key
  /-- A value that is stored replaces the value and the lifetime of its key and leaves every other
  key alone. -/
  replaced : ∀ key value ttl after, store.set? key value ttl = some after →
    after.get? key = (if ttl = some .zero then none else some value) ∧
    after.ttl key = .granted ttl ∧
      after.now = store.now ∧ ∀ other, other ≠ key → after.live? other = store.live? other
  /-- A value is not stored exactly if its deadline lies beyond what the clock can represent. The
  client is told, and everything is as it was. -/
  refused : ∀ key value ttl, (store.set? key value ttl = none ↔
      ∃ length, ttl = some length ∧ clockLimit ≤ store.now + length.nanos) ∧
    ∀ s : Session, s.store = store → store.set? key value ttl = none →
      s.run (.set key value ttl) = (.deadlineOverflow, s.latency, s)

/-- A key has a lifetime if it is found. -/
theorem ttl_ne_missing_iff : store.ttl key ≠ .missing ↔ store.contains key = true := by
  rw [ttl_eq_ttl, Directory.ttl, entry_directory, contains]
  cases store.live? key with
  | none => simp
  | some e => cases timed : e.deadline <;> simp [timed]

/-- A lifetime that is left is not nothing. -/
theorem pos_of_ttl {left : Duration} (expires : store.ttl key = .expires left) : .zero < left := by
  unfold ttl StoreEntry.ttl at expires
  split at expires
  · cases expires
  · split at expires
    · cases expires
    · split at expires
      · next ahead =>
        obtain rfl := Ttl.expires.inj expires
        exact Nat.sub_pos_of_lt ahead
      · cases expires

/-- All keys are those that are found. -/
theorem mem_keys_star_iff : key ∈ store.keys "*" ↔ store.contains key = true := by
  rw [mem_keys_iff, and_iff_left (Glob.selects_star key)]

/-- All keys are those of the live entries. -/
theorem keys_star (store : Store) : store.keys "*" = store.liveEntries.map (·.1) := by
  rw [keys, List.filter_eq_self.mpr fun item _ => Glob.selects_star item.1]

/-- A deletion takes away the keys given and no others. -/
theorem live?_delete (store : Store) (keys : List String) (key : String) :
    (store.delete keys).2.live? key = if key ∈ keys then none else store.live? key := by
  simp only [delete, live?, Keyspace.find?_eraseAll]
  split <;> rfl

/-- What is found under a key that was stored just now. -/
theorem set?_self {after : Store} {value : String} {ttl : Option Duration}
    (stored : store.set? key value ttl = some after) : after.live? key =
      if ttl = some .zero then none else some ⟨value, ttl.map fun length =>
        store.now + length.nanos⟩ := by
  unfold set? at stored
  cases ttl with
  | none =>
    obtain rfl := Option.some.inj stored
    rw [live?_insert, if_pos rfl, if_neg (Option.some_ne_none _).symm]
    rfl
  | some length =>
    obtain ⟨-, made⟩ := Option.ite_none_right_eq_some.mp stored
    obtain rfl := Option.some.inj made
    rw [live?_insert, if_pos rfl, Option.filter_some, StoreEntry.isLive]
    by_cases nothing : length = .zero
    · subst nothing
      simp [Duration.zero]
    · have lasting : 0 < length.nanos := Nat.pos_of_ne_zero fun none =>
        nothing (congrArg Duration.mk none)
      simp [nothing, lasting]

/-- The answers of every store fit together. -/
theorem coherent (store : Store) : store.Coherent := by
  constructor
  case found =>
    intro key
    refine ⟨?_, ttl_ne_missing_iff, mem_keys_star_iff⟩
    rw [get?, Option.isSome_map]
    rfl
  case counted =>
    rw [keys_star]
    refine ⟨(List.length_map _).symm, ?_⟩
    rw [List.map_eq_nil_iff]
    exact List.isEmpty_iff
  case positive =>
    intro key left
    exact pos_of_ttl
  case deleted =>
    intro keys
    refine ⟨?_, rfl, store.live?_delete keys⟩
    rw [delete_eq_card]
    congr 1
    ext key
    rw [Finset.mem_inter, Finset.mem_filter, keys_directory, mem_liveKeys, contains]
  case replaced =>
    intro key value ttl after stored
    have now := set?_now stored
    have live := set?_self stored
    refine ⟨?_, ?_, now, fun other different => ?_⟩
    · rw [get?, live]
      split <;> rfl
    · rw [ttl_eq_ttl, Directory.ttl, entry_directory, live, now]
      cases ttl with
      | none => rfl
      | some length => by_cases nothing : length = .zero <;> simp [Ttl.granted, nothing]
    · rw [live?, live?, set?_find? stored different, now]
  case refused =>
    intro key value ttl
    constructor
    · cases ttl with
      | none => simp [set?]
      | some length => simp [set?]
    · intro s same refused
      subst same
      rw [Session.run, refused]

end Store

/-- A store is a map from keys to values with deadlines in which there are no expired entries. From
any state of a session, expired entries and open scans included, and for any commands with any
handles and any time between them, the answers are those of the map from which every entry is
removed as soon as its deadline has come, and the states go on to correspond. So nothing that a
client does shows an expired entry that is still stored. And in every state that is reached the
answers fit together: what it means to be found, the size, the lifetimes, what a deletion and a new
value change, and that a value whose deadline cannot be represented changes nothing. -/
theorem Session.served_from_map (s : Session) (commands : List SessionCommand) :
    s.registry.serve commands = ((s.serve commands).1, (s.serve commands).2.registry) ∧
      (∀ other, s.Alike other → (other.serve commands).1 = (s.serve commands).1) ∧
        (s.serve commands).2.store.Coherent := by
  refine ⟨s.registry_serve commands, fun other alike => ?_, Store.coherent _⟩
  have mine := s.registry_serve commands
  have theirs := other.registry_serve commands
  rw [← alike.registry_eq, mine] at theirs
  exact (Prod.mk.inj theirs).1.symm

end KeySweeper
