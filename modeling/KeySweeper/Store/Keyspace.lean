import KeySweeper.Ttl

/-!
# Keyspaces

What a store holds: entries under keys, each with a value and an optional deadline. The keys stand
in strictly increasing order of their code points, so that every key has at most one entry and
listing the keys needs no sorting. The order is part of the type; inserting and erasing keep it.

The main statements say what a look-up finds after an insertion and after an erasure.
-/

namespace KeySweeper

/-- What is stored under a key. -/
structure StoreEntry where
  /-- The value. -/
  value : String
  /-- The moment at which the entry expires, if it ever does. -/
  deadline : Option Nat
deriving DecidableEq, Repr

namespace StoreEntry

/-- An entry is live until its deadline has come. -/
def isLive (e : StoreEntry) (now : Nat) : Bool :=
  match e.deadline with
  | none => true
  | some deadline => decide (now < deadline)

/-- The lifetime left to an entry, which is missing once its deadline has come. -/
def ttl (e : StoreEntry) (now : Nat) : Ttl :=
  match e.deadline with
  | none => .persistent
  | some deadline => if now < deadline then .expires ⟨deadline - now⟩ else .missing

end StoreEntry

/-- Entries in strictly increasing order of their keys. -/
structure Keyspace where
  /-- The keys with their entries. -/
  toList : List (String × StoreEntry)
  /-- Every key is smaller than the keys behind it. -/
  increasing : toList.Pairwise fun a b => a.1 < b.1
deriving Repr

namespace Keyspace

/-- No entries. -/
def empty : Keyspace := ⟨[], .nil⟩

/-- Puts an entry at the place of its key, instead of the entry that was there. -/
def insertSorted (key : String) (entry : StoreEntry) :
    List (String × StoreEntry) → List (String × StoreEntry)
  | [] => [(key, entry)]
  | head :: rest =>
    if key = head.1 then (key, entry) :: rest
    else if key < head.1 then (key, entry) :: head :: rest
    else head :: insertSorted key entry rest

/-- An insertion brings in nothing but its own entry. -/
theorem mem_of_mem_insertSorted {key : String} {entry : StoreEntry}
    {entries : List (String × StoreEntry)} {item : String × StoreEntry}
    (present : item ∈ insertSorted key entry entries) : item = (key, entry) ∨ item ∈ entries := by
  induction entries with
  | nil => exact Or.inl (List.mem_singleton.1 present)
  | cons head rest inductionHypothesis =>
    unfold insertSorted at present
    split at present
    · rcases List.mem_cons.1 present with same | behind
      · exact Or.inl same
      · exact Or.inr (List.mem_cons_of_mem _ behind)
    · split at present
      · rcases List.mem_cons.1 present with same | behind
        · exact Or.inl same
        · exact Or.inr behind
      · rcases List.mem_cons.1 present with same | behind
        · exact Or.inr (same ▸ List.mem_cons_self)
        · exact (inductionHypothesis behind).imp_right (List.mem_cons_of_mem _)

/-- An insertion keeps the order: it stops at the first key that is not smaller. -/
theorem pairwise_insertSorted (key : String) (entry : StoreEntry)
    {entries : List (String × StoreEntry)} (increasing : entries.Pairwise fun a b => a.1 < b.1) :
    (insertSorted key entry entries).Pairwise fun a b => a.1 < b.1 := by
  induction entries with
  | nil => exact List.pairwise_singleton _ _
  | cons head rest inductionHypothesis =>
    obtain ⟨smaller, ordered⟩ := List.pairwise_cons.1 increasing
    unfold insertSorted
    split
    · next same =>
        exact List.pairwise_cons.2 ⟨fun item member => same ▸ smaller item member, ordered⟩
    · next different =>
      split
      · next before =>
        refine List.pairwise_cons.2 ⟨fun item member => ?_, increasing⟩
        rcases List.mem_cons.1 member with same | behind
        · exact same ▸ before
        · exact String.lt_trans before (smaller item behind)
      · next notBefore =>
        have after : head.1 < key := by
          rcases Std.lt_trichotomy key head.1 with below | equal | above
          · exact absurd below notBefore
          · exact absurd equal different
          · exact above
        refine List.pairwise_cons.2 ⟨fun item member => ?_, inductionHypothesis ordered⟩
        rcases mem_of_mem_insertSorted member with same | behind
        · exact same ▸ after
        · exact smaller item behind

/-- Stores an entry under a key, in place of what was there. -/
def insert (k : Keyspace) (key : String) (entry : StoreEntry) : Keyspace :=
  ⟨insertSorted key entry k.toList, pairwise_insertSorted key entry k.increasing⟩

/-- Drops whatever is stored under the given keys. -/
def eraseAll (k : Keyspace) (keys : List String) : Keyspace :=
  ⟨k.toList.filter fun item => !keys.contains item.1, k.increasing.filter _⟩

/-- What is stored under a key, live or not. -/
def find? (k : Keyspace) (key : String) : Option StoreEntry := k.toList.lookup key

/-- A look-up compares the keys one after the other. -/
theorem lookup_cons (key : String) (head : String × StoreEntry)
    (rest : List (String × StoreEntry)) :
    (head :: rest).lookup key = if key = head.1 then some head.2 else rest.lookup key := by
  obtain ⟨first, entry⟩ := head
  by_cases same : key = first
  · simp only [List.lookup_cons, same, beq_self_eq_true, if_true]
  · simp only [List.lookup_cons, beq_false_of_ne same, same, if_false]

/-- Looking up a key finds the entry that was inserted under it, and any other key is untouched. -/
theorem find?_insert (k : Keyspace) (key other : String) (entry : StoreEntry) :
    (k.insert key entry).find? other = if other = key then some entry else k.find? other := by
  unfold find? insert
  simp only
  induction k.toList with
  | nil => simp only [insertSorted, lookup_cons, List.lookup_nil]
  | cons head rest inductionHypothesis =>
    by_cases same : key = head.1
    · simp only [insertSorted, same, if_true, lookup_cons]
      split <;> rfl
    · by_cases before : key < head.1
      · simp only [insertSorted, same, before, if_true, if_false, lookup_cons]
      · simp only [insertSorted, same, before, if_false, lookup_cons, inductionHypothesis]
        by_cases atHead : other = head.1
        · have different : ¬ other = key := fun equal => same (equal.symm.trans atHead)
          simp only [atHead, if_true, if_false, atHead ▸ different]
        · simp only [atHead, if_false]

/-- Looking up a key finds nothing once the key was erased, and any other key is untouched. -/
theorem find?_eraseAll (k : Keyspace) (keys : List String) (key : String) :
    (k.eraseAll keys).find? key = if key ∈ keys then none else k.find? key := by
  unfold find? eraseAll
  simp only
  induction k.toList with
  | nil => simp only [List.filter_nil, List.lookup_nil, ite_self]
  | cons head rest inductionHypothesis =>
    by_cases erased : head.1 ∈ keys
    · simp only [List.filter_cons, List.contains_iff_mem.2 erased, Bool.not_true,
        Bool.false_eq_true, if_false, inductionHypothesis, lookup_cons]
      by_cases same : key = head.1
      · simp only [same, erased, if_true]
      · simp only [same, if_false]
    · have kept : keys.contains head.1 = false := by simpa using erased
      simp only [List.filter_cons, kept, Bool.not_false, if_true, inductionHypothesis, lookup_cons]
      by_cases same : key = head.1
      · simp only [same, erased, if_true, if_false]
      · simp only [same, if_false]

end Keyspace

end KeySweeper
