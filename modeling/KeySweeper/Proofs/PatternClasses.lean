import KeySweeper.Proofs.PatternPositions
import Mathlib.Logic.Relation

/-!
# Where a class ends

A search that finds a class goes on behind it, whether or not the class held the character. A search
that starts again on a later rest of the key passes the same class with another character, so the
place behind a class must depend on the pattern alone.

This module says which place that is without scanning: items are laid end to end from the beginning
of the body, each ends where the next begins, and the class is closed by the first closing bracket
at which an item would begin. What an item is depends on up to two characters behind its first, so a
bracket inside a range or behind a backslash is passed over, and a backslash at the end of a range
protects nothing. The scan stops behind the bracket, or at the end of the pattern if items reach it.

A caret in front of a body turns the test round and moves everything behind it by one position.
-/

namespace KeySweeper.Glob

variable {p : List Char} {i j k : Nat} {c : Char} {found : Bool}

section Laying

/-- A hyphen and a character other than a closing bracket stand behind the position. -/
def RangeAt (p : List Char) (i : Nat) : Prop :=
  p[i + 1]? = some '-' ∧ ∃ last, p[i + 2]? = some last ∧ last ≠ ']'

/-- An item of a class, from the position of its first character to the position behind its last. -/
inductive ItemAt (p : List Char) (i : Nat) : Nat → Prop where
  /-- A backslash and the character that it protects. -/
  | escape (backslash : p[i]? = some '\\') (more : i + 1 < p.length) : ItemAt p i (i + 2)
  /-- A range. -/
  | range (e : Char) (first : p[i]? = some e) (notClosing : e ≠ ']') (notEscape : e ≠ '\\')
      (further : RangeAt p i) : ItemAt p i (i + 3)
  /-- A character that stands for itself. A backslash does so at the end of the pattern. -/
  | single (e : Char) (first : p[i]? = some e) (notClosing : e ≠ ']')
      (notEscape : e = '\\' → i + 1 = p.length) (alone : ¬ RangeAt p i) : ItemAt p i (i + 1)

/-- Items laid end to end lead from one position to another. -/
abbrev ItemsTo (p : List Char) : Nat → Nat → Prop := Relation.ReflTransGen (ItemAt p)

/-- The first position of the items of a class, which is behind its caret if it has one. -/
def itemsStart (p : List Char) (i : Nat) : Nat := if p[i]? = some '^' then i + 1 else i

/-- The closing bracket at a position is the one that ends the class whose body begins at the
other. -/
def ClosesAt (p : List Char) (i k : Nat) : Prop := ItemsTo p (itemsStart p i) k ∧ p[k]? = some ']'

/-- A position from which a character is read is inside the pattern. -/
theorem lt_length_of_read {e : Char} (read : p[i]? = some e) : i < p.length :=
  (List.getElem?_eq_some_iff.mp read).1

/-- No item begins with a closing bracket. -/
theorem not_itemAt_closing (closing : p[i]? = some ']') : ¬ ItemAt p i j := by
  intro item
  cases item with
  | escape backslash more => cases closing.symm.trans backslash
  | range e first notClosing notEscape further =>
    exact notClosing (Option.some.inj (first.symm.trans closing))
  | single e first notClosing notEscape alone =>
    exact notClosing (Option.some.inj (first.symm.trans closing))

/-- No item begins at the end of the pattern. -/
theorem not_itemAt_end : ¬ ItemAt p p.length j := by
  intro item
  cases item with
  | escape backslash more => omega
  | range e first notClosing notEscape further => exact Nat.lt_irrefl _ (lt_length_of_read first)
  | single e first notClosing notEscape alone => exact Nat.lt_irrefl _ (lt_length_of_read first)

/-- Where an item ends is determined by where it begins. -/
theorem itemAt_unique (item : ItemAt p i j) (other : ItemAt p i k) : j = k := by
  cases item with
  | escape backslash more =>
    cases other with
    | escape => rfl
    | range e first notClosing notEscape further =>
      exact absurd (Option.some.inj (first.symm.trans backslash)) notEscape
    | single e first notClosing notEscape alone =>
      have final := notEscape (Option.some.inj (first.symm.trans backslash))
      omega
  | range e first notClosing notEscape further =>
    cases other with
    | escape backslash more => exact absurd (Option.some.inj (first.symm.trans backslash)) notEscape
    | range => rfl
    | single e' first' notClosing' notEscape' alone => exact absurd further alone
  | single e first notClosing notEscape alone =>
    cases other with
    | escape backslash more =>
      have final := notEscape (Option.some.inj (first.symm.trans backslash))
      omega
    | range e' first' notClosing' notEscape' further => exact absurd further alone
    | single => rfl

/-- Two places that items lead to and where no item begins are one place. -/
theorem itemsTo_unique {start : Nat} (one : ItemsTo p start j) (other : ItemsTo p start k)
    (last : ∀ next, ¬ ItemAt p j next) (final : ∀ next, ¬ ItemAt p k next) : j = k := by
  have unique : Relator.RightUnique (ItemAt p) := fun _ _ _ => itemAt_unique
  rcases Relation.ReflTransGen.total_of_right_unique unique one other with onward | backward
  · rcases onward.cases_head with same | ⟨next, item, _⟩
    · exact same
    · exact absurd item (last next)
  · rcases backward.cases_head with same | ⟨next, item, _⟩
    · exact same.symm
    · exact absurd item (final next)

end Laying

section Scanning

/-- A range is recognised where one stands. -/
theorem rangeEnd?_eq (p : List Char) (i : Nat) :
    (∃ last, rangeEnd? p i = some (some last) ∧ RangeAt p i) ∨ rangeEnd? p i = some none ∧
    ¬ RangeAt p i := by
  unfold rangeEnd? RangeAt
  by_cases room : i + 2 < p.length
  · rw [if_pos room, List.getElem?_eq_getElem (Nat.lt_of_succ_lt room),
      List.getElem?_eq_getElem room]
    by_cases dash : p[i + 1] = '-'
    · by_cases closing : p[i + 2] = ']'
      · exact Or.inr (by simp [dash, closing])
      · exact Or.inl ⟨p[i + 2], by simp [dash, closing]⟩
    · exact Or.inr (by simp [dash])
  · rw [if_neg room, List.getElem?_eq_none (Nat.le_of_not_lt room)]
    exact Or.inr (by simp)

/-- A turn of the loop leaves behind a closing bracket, and otherwise goes on behind one item. -/
theorem itemTurn_eq (c : Char) (found : Bool) (inside : i < p.length) :
    p[i]? = some ']' ∧ itemTurn p c i found = some (.leave found (i + 1)) ∨
      ∃ found' next, ItemAt p i next ∧ itemTurn p c i found = some (.goOn found' next) := by
  have read := List.getElem?_eq_getElem inside
  by_cases closing : p[i] = ']'
  · exact Or.inl ⟨read.trans (congrArg some closing), by simp [itemTurn, read, closing]⟩
  by_cases escaping : p[i] = '\\' ∧ i + 1 < p.length
  · obtain ⟨backslash, more⟩ := escaping
    refine Or.inr ⟨found || c == p[i + 1], i + 2,
      .escape (read.trans (congrArg some backslash)) more, ?_⟩
    simp [itemTurn, read, backslash, more]
  rcases rangeEnd?_eq p i with ⟨last, ends, further⟩ | ⟨ends, alone⟩
  · have notEscape : p[i] ≠ '\\' := by
      intro backslash
      exact escaping ⟨backslash, lt_length_of_read further.1⟩
    refine Or.inr ⟨found || between p[i] last c, i + 3, .range _ read closing notEscape further, ?_⟩
    simp [itemTurn, read, closing, notEscape, ends]
  · have final (backslash : p[i] = '\\') : i + 1 = p.length := by
      have atEnd : ¬ i + 1 < p.length := fun more => escaping ⟨backslash, more⟩
      omega
    refine Or.inr ⟨found || c == p[i], i + 1, .single _ read closing final alone, ?_⟩
    simp [itemTurn, read, closing, escaping, ends]

/-- The loop over the items stops behind a closing bracket that items lead to, or at the end of the
pattern if items lead there. -/
theorem itemsFrom_stops {answer : Bool × Nat} (inside : i ≤ p.length)
    (come : itemsFrom p c i found = some answer) :
    (∃ k, ItemsTo p i k ∧ p[k]? = some ']' ∧ answer.2 = k + 1) ∨
      ItemsTo p i p.length ∧ answer.2 = p.length := by
  fun_induction itemsFrom p c i found with
  | case1 => cases come
  | case2 i found more found' next taken =>
    obtain rfl := Option.some.inj come
    rcases itemTurn_eq c found more with ⟨closing, left⟩ | ⟨_, _, _, went⟩
    · obtain ⟨-, rfl⟩ := ItemTurn.leave.inj (Option.some.inj (taken.symm.trans left))
      exact Or.inl ⟨i, .refl, closing, rfl⟩
    · cases Option.some.inj (taken.symm.trans went)
  | case3 i found more found' next taken _ inductionHypothesis =>
    rcases itemTurn_eq c found more with ⟨_, left⟩ | ⟨found'', next', item, went⟩
    · cases Option.some.inj (taken.symm.trans left)
    · obtain ⟨-, rfl⟩ := ItemTurn.goOn.inj (Option.some.inj (taken.symm.trans went))
      obtain ⟨turn, same, _, within, _⟩ := itemTurn_spec c found more
      obtain rfl := Option.some.inj (taken.symm.trans same)
      rcases inductionHypothesis within come with ⟨k, items, closing, stops⟩ | ⟨items, stops⟩
      · exact Or.inl ⟨k, items.head item, closing, stops⟩
      · exact Or.inr ⟨items.head item, stops⟩
  | case4 i found outside =>
    obtain rfl := Option.some.inj come
    obtain rfl : i = p.length := by omega
    exact Or.inr ⟨.refl, rfl⟩

/-- A class is scanned by the loop from the first position of its items. -/
theorem classFrom_eq_some {answer : Bool × Nat} (inside : i ≤ p.length)
    (come : classFrom p c i = some answer) :
    itemsStart p i ≤ p.length ∧
      ∃ found, itemsFrom p c (itemsStart p i) false = some (found, answer.2) := by
  have caret : caretAt? p i = some (decide (p[i]? = some '^')) := by
    unfold caretAt?
    by_cases more : i < p.length
    · simp [more]
      rfl
    · rw [if_neg more, List.getElem?_eq_none (Nat.le_of_not_lt more)]
      rfl
  constructor
  · unfold itemsStart
    split
    · next negated => exact lt_length_of_read negated
    · exact inside
  · simp only [classFrom, caret, Option.bind_eq_bind, Option.bind_some, decide_eq_true_eq] at come
    obtain ⟨⟨found, next⟩, items, result⟩ := Option.bind_eq_some_iff.mp come
    obtain rfl := Option.some.inj result
    exact ⟨found, items⟩

/-- The closing bracket that ends a class is the only one. -/
theorem closesAt_unique (one : ClosesAt p i j) (other : ClosesAt p i k) : j = k :=
  itemsTo_unique one.1 other.1 (fun _ => not_itemAt_closing one.2) fun _ =>
    not_itemAt_closing other.2

/-- Behind a class the search goes on behind the closing bracket that ends it, or at the end of the
pattern if there is none. -/
theorem classFrom_stops {answer : Bool × Nat} (inside : i ≤ p.length)
    (come : classFrom p c i = some answer) :
    (∀ k, ClosesAt p i k → answer.2 = k + 1) ∧ ((∀ k, ¬ ClosesAt p i k) → answer.2 = p.length) := by
  obtain ⟨within, found, scanned⟩ := classFrom_eq_some inside come
  rcases itemsFrom_stops within scanned with ⟨last, items, closing, stops⟩ | ⟨items, stops⟩
  · constructor
    · intro k closes
      obtain rfl := closesAt_unique ⟨items, closing⟩ closes
      exact stops
    · intro unclosed
      exact absurd ⟨items, closing⟩ (unclosed last)
  · constructor
    · intro k closes
      have atEnd := itemsTo_unique items closes.1 (fun _ => not_itemAt_end) fun _ =>
        not_itemAt_closing closes.2
      exact absurd (lt_length_of_read closes.2) (by omega)
    · intro _
      exact stops

/-- Two positions behind which the same is left are one, unless one is behind the end. -/
theorem eq_of_drop_eq (inside : j ≤ p.length) (within : k ≤ p.length) (same : p.drop j = p.drop k) :
    j = k := by
  have counted := congrArg List.length same
  simp only [List.length_drop] at counted
  omega

/-- Where a class ends does not depend on the character that is tested. -/
theorem classFrom_steady (inside : i ≤ p.length) :
    ∃ next, i ≤ next ∧ next ≤ p.length ∧ ∀ c, classFrom p c i =
      some ((scanClass c (p.drop i)).1, next) ∧ (scanClass c (p.drop i)).2 = p.drop next := by
  obtain ⟨next, _, notBefore, within, further⟩ := classFrom_spec ' ' inside
  refine ⟨next, notBefore, within, fun c => ?_⟩
  obtain ⟨place, come, _, bounded, rest⟩ := classFrom_spec c inside
  have same : p.drop place = p.drop next := by
    rw [rest, further, scanClass_rest, scanClass_rest]
  obtain rfl := eq_of_drop_eq bounded within same
  exact ⟨come, rest.symm⟩

/-- A body without a caret of its own, behind a caret: the test is turned round, and the class ends
where it did. -/
theorem scanClass_caret (c : Char) {body : List Char} (plain : body.head? ≠ some '^') :
    scanClass c ('^' :: body) = (!(scanClass c body).1, (scanClass c body).2) := by
  have same : scanClass c body = scanItems c body false := by
    unfold scanClass
    split
    · exact absurd rfl plain
    · rfl
  rw [same, scanClass]

/-- A caret put in front of a body that has none turns the test round and moves the end of the class
by one. -/
theorem classFrom_caret {next : Nat} (inside : i ≤ p.length) (plain : p[i]? ≠ some '^')
    (come : classFrom p c i = some (found, next)) :
    classFrom (p.take i ++ '^' :: p.drop i) c i = some (!found, next + 1) := by
  obtain ⟨place, _, bounded, scanned⟩ := classFrom_steady inside
  obtain ⟨rfl, rfl⟩ := Prod.mk.inj (Option.some.inj (come.symm.trans (scanned c).1))
  have before : (p.take i).length = i := List.length_take_of_le inside
  have body : (p.take i ++ '^' :: p.drop i).drop i = '^' :: p.drop i := List.drop_left' before
  have longer : (p.take i ++ '^' :: p.drop i).length = p.length + 1 := by
    simp only [List.length_append, List.length_cons, List.length_take, List.length_drop]
    omega
  have stillInside : i ≤ (p.take i ++ '^' :: p.drop i).length := by omega
  obtain ⟨last, negated, _, within, rest⟩ := classFrom_spec c stillInside
  have turned := scanClass_caret c (by rwa [List.head?_drop] : (p.drop i).head? ≠ some '^')
  rw [body, turned] at negated rest
  rw [(scanned c).2] at rest
  have counted := congrArg List.length rest
  simp only [List.length_drop, longer] at counted
  obtain rfl : last = next + 1 := by omega
  exact negated

end Scanning

/-- Classes are scanned consistently. For every pattern, every position in it or at its end at which
the body of a class may begin, and every character: the scan comes to an end with no read outside,
the place behind the class lies between the position and the end of the pattern and is the same for
all characters, it is the one at which the matcher goes on, and it is behind the closing bracket to
which items laid end to end lead from behind the caret, if there is one, or the end of the pattern
if they lead to no closing bracket. And if the body has no caret, then with a caret in front of it
the class holds exactly the characters that it did not hold, and ends one position later. -/
theorem classes_scanned (p : List Char) (i : Nat) (inside : i ≤ p.length) :
    (∃ next, i ≤ next ∧ next ≤ p.length ∧
      (∀ c, classFrom p c i = some ((scanClass c (p.drop i)).1, next) ∧
        (scanClass c (p.drop i)).2 = p.drop next) ∧
      (∀ k, ClosesAt p i k → next = k + 1) ∧ ((∀ k, ¬ ClosesAt p i k) → next = p.length)) ∧
    (p[i]? ≠ some '^' → ∀ c found next, classFrom p c i = some (found, next) →
      classFrom (p.take i ++ '^' :: p.drop i) c i = some (!found, next + 1)) := by
  constructor
  · obtain ⟨next, notBefore, within, scanned⟩ := classFrom_steady inside
    exact ⟨next, notBefore, within, scanned, classFrom_stops inside (scanned ' ').1⟩
  · intro plain c found next come
    exact classFrom_caret inside plain come

/-- In the pattern `[a-\]]` the backslash is the end of a range whose ends come in the other order,
so it protects nothing, and the bracket behind it closes the class for every character. With a caret
the same class refuses what it held and holds what it refused, and ends one position later. -/
theorem classes_scanned_toBackslash :
    ClosesAt "[a-\\]]".toList 1 4 ∧
    (∀ c, ∃ found, classFrom "[a-\\]]".toList c 1 = some (found, 5)) ∧
    classFrom "[^a-\\]]".toList '_' 1 = some (false, 6) ∧
    classFrom "[^a-\\]]".toList 'b' 1 = some (true, 6) := by
  have closes : ClosesAt "[a-\\]]".toList 1 4 :=
    ⟨.single (.range 'a' rfl (by decide) (by decide) ⟨rfl, '\\', rfl, by decide⟩), rfl⟩
  obtain ⟨⟨next, _, _, scanned, ends, _⟩, turned⟩ := classes_scanned "[a-\\]]".toList 1 (by decide)
  obtain rfl : next = 5 := ends 4 closes
  have held (c : Char) (found : Bool) (holds : between 'a' '\\' c = found) :
      classFrom "[a-\\]]".toList c 1 = some (found, 5) := by
    rw [(scanned c).1]
    simp [scanClass, scanItems, holds]
  refine ⟨closes, fun c => ⟨_, (scanned c).1⟩, ?_, ?_⟩
  · exact turned (by decide) '_' true 5 (held '_' true (by decide))
  · exact turned (by decide) 'b' false 5 (held 'b' false (by decide))

end KeySweeper.Glob
