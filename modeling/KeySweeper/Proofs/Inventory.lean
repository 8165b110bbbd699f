import KeySweeper.Proofs.Presence
import KeySweeper.Settings

/-!
# What a store lists

The lists of a store, its live entries and the keys that a pattern selects, after an entry was put
in and after keys were taken out. An entry without a deadline that is put in and taken out again
leaves no trace in the live entries, if nothing live stood under its key. In between it is listed
like any other, but no threshold is below its lifetime, so it is not among the keys that a sweep is
to delete.
-/

namespace KeySweeper

namespace Keyspace

variable {k : Keyspace} {key : String} {entry : StoreEntry}

/-- A look-up finds an entry that is there: no other one stands under its key. -/
theorem find?_of_mem (member : (key, entry) ∈ k.toList) : k.find? key = some entry := by
  have increasing := k.increasing
  unfold find?
  revert member increasing
  induction k.toList with
  | nil => exact fun member => nomatch member
  | cons head rest inductionHypothesis =>
    intro member increasing
    obtain ⟨smaller, ordered⟩ := List.pairwise_cons.mp increasing
    rw [lookup_cons]
    rcases List.mem_cons.mp member with rfl | behind
    · exact if_pos rfl
    · have different : key ≠ head.1 := by
        intro same
        have below := smaller _ behind
        rw [← same] at below
        exact String.lt_irrefl _ below
      rw [if_neg different]
      exact inductionHypothesis behind ordered

/-- What a look-up finds is there. -/
theorem mem_of_find? (present : k.find? key = some entry) : (key, entry) ∈ k.toList := by
  unfold find? at present
  revert present
  induction k.toList with
  | nil => exact fun present => nomatch present
  | cons head rest inductionHypothesis =>
    intro present
    rw [lookup_cons] at present
    split at present
    · next same =>
      obtain rfl := Option.some.inj present
      rw [same]
      exact List.mem_cons_self
    · exact List.mem_cons_of_mem _ (inductionHypothesis present)

/-- A choice that leaves out the entry put in, and the one that stood in its place, is the choice
made before. -/
theorem filter_insertSorted {choose : String × StoreEntry → Bool}
    {entries : List (String × StoreEntry)} (unchosen : choose (key, entry) = false)
    (replaced : ∀ item ∈ entries, item.1 = key → choose item = false) :
    (insertSorted key entry entries).filter choose = entries.filter choose := by
  induction entries with
  | nil => simp only [insertSorted, List.filter_cons, unchosen, Bool.false_eq_true, if_false]
  | cons head rest inductionHypothesis =>
    unfold insertSorted
    split
    · next same =>
      have left := replaced head List.mem_cons_self same.symm
      simp only [List.filter_cons, unchosen, left, Bool.false_eq_true, if_false]
    · split
      · simp only [List.filter_cons, unchosen, Bool.false_eq_true, if_false]
      · have behind := inductionHypothesis fun item member =>
          replaced item (List.mem_cons_of_mem head member)
        simp only [List.filter_cons, behind]

/-- An insertion makes a choice longer by no more than one entry. -/
theorem length_filter_insertSorted (choose : String × StoreEntry → Bool)
    (entries : List (String × StoreEntry)) :
    ((insertSorted key entry entries).filter choose).length ≤
      (entries.filter choose).length + 1 := by
  have one (item : String × StoreEntry) (rest : List (String × StoreEntry)) :
      ((item :: rest).filter choose).length ≤ (rest.filter choose).length + 1 := by
    rw [List.filter_cons]
    split
    · exact Nat.le_refl _
    · exact Nat.le_succ _
  induction entries with
  | nil => exact one _ _
  | cons head rest inductionHypothesis =>
    unfold insertSorted
    split
    · refine Nat.le_trans (one _ _) (Nat.succ_le_succ ?_)
      exact ((List.sublist_cons_self head rest).filter choose).length_le
    · split
      · exact one _ _
      · simp only [List.filter_cons]
        split
        · exact Nat.succ_le_succ inductionHypothesis
        · exact inductionHypothesis

/-- Taking out nothing changes nothing. -/
theorem eraseAll_nil (k : Keyspace) : k.eraseAll [] = k := by
  simp only [eraseAll, List.contains_nil, Bool.not_false]
  congr 1
  exact List.filter_eq_self.mpr fun _ _ => rfl

/-- Keys that are taken out one after the other could be taken out at once. -/
theorem eraseAll_eraseAll (k : Keyspace) (keys later : List String) :
    (k.eraseAll keys).eraseAll later = k.eraseAll (keys ++ later) := by
  simp only [eraseAll, List.filter_filter, List.contains_append, Bool.not_or, Bool.and_comm]

end Keyspace

/-- Whether a sweep with these settings is to delete a key: the pattern selects the key, and the key
outlives the threshold. -/
def Settings.dooms (s : Settings) (store : Store) (key : String) : Bool :=
  Glob.selects s.pattern key && (store.ttl key).outlives s.minTtl

namespace Store

variable {store : Store} {key : String}

/-- The store with a value put in that never expires. -/
def holding (store : Store) (key value : String) : Store :=
  { store with entries := store.entries.insert key ⟨value, none⟩ }

/-- The store with keys taken out. -/
def without (store : Store) (keys : List String) : Store :=
  { store with entries := store.entries.eraseAll keys }

/-- Taking out nothing changes nothing. -/
theorem without_nil (store : Store) : store.without [] = store := by
  simp only [without, Keyspace.eraseAll_nil]

/-- Keys that are taken out one after the other could be taken out at once. -/
theorem without_without (store : Store) (keys later : List String) :
    (store.without keys).without later = store.without (keys ++ later) := by
  simp only [without, Keyspace.eraseAll_eraseAll]

/-- The lifetime left to a key does not change when others are taken out. -/
theorem ttl_without {keys : List String} (kept : key ∉ keys) :
    (store.without keys).ttl key = store.ttl key := by
  simp only [ttl, without, Keyspace.find?_eraseAll, if_neg kept]

/-- A key that was taken out is not found. -/
theorem absent_without {keys : List String} (gone : key ∈ keys) :
    (store.without keys).contains key = false := by
  simp only [contains, live?, without, Keyspace.find?_eraseAll, if_pos gone, Option.filter_none,
    Option.isSome_none]

/-- A live entry is one that is found under its key. -/
theorem mem_liveEntries {item : String × StoreEntry} :
    item ∈ store.liveEntries ↔ store.live? item.1 = some item.2 := by
  simp only [liveEntries, live?, List.mem_filter, Option.filter_eq_some_iff]
  constructor
  · rintro ⟨member, live⟩
    exact ⟨Keyspace.find?_of_mem member, live⟩
  · rintro ⟨present, live⟩
    exact ⟨Keyspace.mem_of_find? present, live⟩

/-- The listed keys are those that are found and that the pattern selects. -/
theorem mem_keys_iff {pattern : String} :
    key ∈ store.keys pattern ↔ store.contains key = true ∧ Glob.selects pattern key = true := by
  simp only [keys, contains, List.mem_map, List.mem_filter, mem_liveEntries,
    Option.isSome_iff_exists]
  constructor
  · rintro ⟨item, ⟨live, selected⟩, rfl⟩
    exact ⟨⟨item.2, live⟩, selected⟩
  · rintro ⟨⟨entry, live⟩, selected⟩
    exact ⟨(key, entry), ⟨live, selected⟩, rfl⟩

/-- No two live entries stand under one key. -/
theorem nodup_liveEntries (store : Store) : (store.liveEntries.map (·.1)).Nodup := by
  refine List.pairwise_map.mpr ((store.entries.increasing.filter _).imp ?_)
  intro first second smaller same
  rw [same] at smaller
  exact String.lt_irrefl _ smaller

/-- No key is listed twice. -/
theorem nodup_keys (store : Store) (pattern : String) : (store.keys pattern).Nodup :=
  store.nodup_liveEntries.sublist (List.filter_sublist.map _)

/-- A key that is not found has no lifetime left. -/
theorem ttl_of_absent (absent : store.contains key = false) : store.ttl key = .missing := by
  simp only [contains, live?, Option.isSome_eq_false_iff, Option.isNone_iff_eq_none,
    Option.filter_eq_none_iff] at absent
  unfold ttl
  split
  · rfl
  · next entry present =>
    have expired := absent entry present
    unfold StoreEntry.isLive at expired
    unfold StoreEntry.ttl
    split
    · next persistent => simp only [persistent, not_true_eq_false] at expired
    · next deadline timed =>
      simp only [timed, decide_eq_true_eq] at expired
      exact if_neg expired

/-- A value that never expires outlives no threshold, and the other keys outlive what they outlived
before. -/
theorem outlives_holding {value : String} (absent : store.contains key = false) (other : String)
    (threshold : Duration) :
    ((store.holding key value).ttl other).outlives threshold = (store.ttl other).outlives
      threshold := by
  by_cases same : other = key
  · subst same
    rw [ttl_of_absent absent]
    simp only [ttl, holding, Keyspace.find?_insert, if_true, StoreEntry.ttl, Ttl.outlives]
  · simp only [ttl, holding, Keyspace.find?_insert, if_neg same]

/-- What a sweep is to delete does not depend on its own mark. -/
theorem dooms_holding {s : Settings} {value : String} (absent : store.contains key = false)
    (other : String) : s.dooms (store.holding key value) other = s.dooms store other := by
  simp only [Settings.dooms, outlives_holding absent]

/-- A value that never expires is not deleted. -/
theorem not_dooms_absent {s : Settings} (absent : store.contains key = false) :
    s.dooms store key = false := by
  simp only [Settings.dooms, ttl_of_absent absent, Ttl.outlives, Bool.and_false]

/-- At most one key more is listed once a value was put in. -/
theorem length_keys_holding (store : Store) (key value pattern : String) :
    ((store.holding key value).keys pattern).length ≤ store.size + 1 := by
  rw [keys, List.length_map]
  exact Nat.le_trans (List.length_filter_le ..) (Keyspace.length_filter_insertSorted _ _)

/-- The listed keys that a sweep with these settings is to delete. -/
def doomed (store : Store) (s : Settings) : List String :=
  (store.keys s.pattern).filter fun key => (store.ttl key).outlives s.minTtl

/-- A key is to be deleted if it is found, selected, and outlives the threshold. -/
theorem mem_doomed_iff {s : Settings} :
    key ∈ store.doomed s ↔ store.contains key = true ∧ s.dooms store key = true := by
  simp only [doomed, List.mem_filter, mem_keys_iff, Settings.dooms, Bool.and_eq_true, and_assoc]

/-- There are as many keys to delete as live entries that a sweep dooms. -/
theorem length_doomed (store : Store) (s : Settings) :
    (store.doomed s).length = (store.liveEntries.filter fun item =>
      s.dooms store item.1).length := by
  rw [doomed, keys, List.filter_map, List.length_map, List.filter_filter]
  refine congrArg (fun choose => (store.liveEntries.filter choose).length) ?_
  funext item
  exact Bool.and_comm ..

/-- The mark of a sweep does not change how many live entries the sweep dooms, although it is a live
entry itself. -/
theorem length_doomed_holding {s : Settings} {value : String}
    (absent : store.contains key = false) :
    ((store.holding key value).doomed s).length =
      (store.liveEntries.filter fun item => s.dooms store item.1).length := by
  rw [length_doomed]
  simp only [dooms_holding absent, liveEntries, List.filter_filter]
  refine congrArg List.length (Keyspace.filter_insertSorted ?_ ?_)
  · simp only [not_dooms_absent absent, Bool.false_and]
  · rintro item - rfl
    simp only [not_dooms_absent absent, Bool.false_and]

/-- The live entries once the mark of a sweep was put in, some keys were taken out, and the mark was
taken out as well: those from before under other keys. -/
theorem liveEntries_without_holding (absent : store.contains key = false) (value : String)
    (gone : List String) :
    (((store.holding key value).without gone).without [key]).liveEntries =
      store.liveEntries.filter fun item => !gone.contains item.1 := by
  have other (item : String × StoreEntry) (live : item ∈ store.liveEntries) : item.1 ≠ key := by
    intro same
    simp only [contains, ← same, mem_liveEntries.mp live, Option.isSome_some,
      Bool.true_eq_false] at absent
  simp only [liveEntries, without, Keyspace.eraseAll, holding, Keyspace.insert, List.filter_filter]
  rw [Keyspace.filter_insertSorted]
  · refine List.filter_congr fun item member => ?_
    cases alive : item.2.isLive store.now with
    | false => simp only [Bool.false_and, Bool.and_false]
    | true =>
      have kept : [key].contains item.1 = false := by
        simp [other item (List.mem_filter.mpr ⟨member, alive⟩)]
      simp only [kept, Bool.not_false, Bool.true_and, Bool.and_true]
  · simp only [List.contains_cons, beq_self_eq_true, Bool.true_or, Bool.not_true, Bool.and_false,
      Bool.false_and]
  · rintro item - rfl
    simp only [List.contains_cons, beq_self_eq_true, Bool.true_or, Bool.not_true, Bool.and_false,
      Bool.false_and]

/-- A sweep is to delete a key, whether or not its mark stands in the store, if the key is found and
the sweep dooms it. The mark itself is not among these keys. -/
theorem mem_doomed_holding_iff {s : Settings} {value : String} (absent : store.contains key = false)
    {other : String} : other ∈ (store.holding key value).doomed s ↔
      store.contains other = true ∧ s.dooms store other = true := by
  rw [mem_doomed_iff, dooms_holding absent, holding, contains_insert]
  by_cases same : other = key
  · rw [if_pos same, same, not_dooms_absent absent, absent]
    exact iff_of_false (fun both => Bool.noConfusion both.2) fun both => Bool.noConfusion both.1
  · rw [if_neg same]

/-- The live entries once the mark of a sweep was put in, the keys that the sweep is to delete were
taken out, and the mark was taken out as well: those from before that the sweep does not doom. -/
theorem liveEntries_left {s : Settings} {value : String} (absent : store.contains key = false) :
    (((store.holding key value).without ((store.holding key value).doomed s)).without
      [key]).liveEntries = store.liveEntries.filter fun item => !s.dooms store item.1 := by
  rw [liveEntries_without_holding absent]
  refine List.filter_congr fun item live => congrArg (!·) ?_
  rw [Bool.eq_iff_iff, List.contains_iff_mem, mem_doomed_holding_iff absent]
  simp only [contains, mem_liveEntries.mp live, Option.isSome_some, true_and]

end Store

/-- What a scan yields next is the first of the keys to come, and the others are left. -/
theorem Scan.next_eq (scan : Scan) (store : Store) :
    (scan.next store).1 = (scan.upcoming store).head? ∧
      (scan.next store).2 = { scan with remaining := some (scan.upcoming store).tail } := by
  unfold Scan.next
  split
  · next ended => exact ⟨by rw [ended]; rfl, by rw [ended]; rfl⟩
  · next key rest listed => exact ⟨by rw [listed]; rfl, by rw [listed]; rfl⟩

end KeySweeper
