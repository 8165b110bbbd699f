import KeySweeper.Proofs.PatternLanguage

/-!
# Patterns by positions

A search over arrays does not take lists apart. It keeps a position in the pattern and one in the
key, turns a loop until the pattern is used up, and a star starts the search again on what is left
of both. Every read needs a position inside, and every rest needs a position not behind the end.

This module spells that search out. Each read answers whether there is a character at its position,
so a position outside is an outcome of its own, which no comparison can hide. Each turn of a loop
moves on in the pattern, which ends the loops, and each turn keeps the positions inside, so the
search always has an answer. It is the answer of the matcher, and with it the language of the
pattern.
-/

namespace KeySweeper.Glob

variable {p t : List Char} {i j : Nat}

/-- What remains of a text from a position on, if the position is not behind its end. -/
def restFrom? (text : List Char) (start : Nat) : Option (List Char) :=
  if start ≤ text.length then some (text.drop start) else none

/-- Where something is left of a text, its first character is read at the position, and the others
are what is left from the next position on. -/
theorem read_of_drop {e : Char} {rest : List Char} (left : p.drop i = e :: rest) :
    p[i]? = some e ∧ p.drop (i + 1) = rest ∧ p.length = i + 1 + rest.length := by
  have inside : i < p.length := by
    have counted := congrArg List.length left
    simp only [List.length_drop, List.length_cons] at counted
    omega
  obtain ⟨read, behind⟩ := List.cons.inj ((List.drop_eq_getElem_cons inside).symm.trans left)
  refine ⟨by rw [List.getElem?_eq_getElem inside, read], behind, ?_⟩
  rw [← behind, List.length_drop]
  omega

section Items

/-- What one turn of the loop over the items of a class comes to. -/
inductive ItemTurn where
  /-- The class is closed, and the pattern goes on behind it. -/
  | leave (found : Bool) (next : Nat)
  /-- The next item begins here. -/
  | goOn (found : Bool) (next : Nat)

/-- The position from which the pattern is read next. -/
def ItemTurn.next : ItemTurn → Nat
  | .leave _ next => next
  | .goOn _ next => next

/-- The end of the range that begins at the position, if it is one. -/
def rangeEnd? (p : List Char) (i : Nat) : Option (Option Char) :=
  if i + 2 < p.length then do
    let dash ← p[i + 1]?
    if dash = '-' then
      let last ← p[i + 2]?
      return if last = ']' then none else some last
    else return none
  else return none

/-- One turn of the loop over the items of a class, which reads the item at the position. -/
def itemTurn (p : List Char) (c : Char) (i : Nat) (found : Bool) : Option ItemTurn := do
  let e ← p[i]?
  if e = ']' then return .leave found (i + 1)
  else if e = '\\' ∧ i + 1 < p.length then
    let taken ← p[i + 1]?
    return .goOn (found || c == taken) (i + 2)
  else match ← rangeEnd? p i with
    | some last => return .goOn (found || between e last c) (i + 3)
    | none => return .goOn (found || c == e) (i + 1)

/-- What a turn comes to when the items behind it are scanned as a list. -/
def ItemTurn.result (p : List Char) (c : Char) : ItemTurn → Bool × List Char
  | .leave found next => (found, p.drop next)
  | .goOn found next => scanItems c (p.drop next) found

/-- The end of a range in what is left behind its first character, if that is a range. -/
def rangeEndOf : List Char → Option Char
  | '-' :: last :: _ => if last = ']' then none else some last
  | _ => none

/-- There is no range without a hyphen and a character behind it. -/
theorem rangeEndOf_other {rest : List Char}
    (other : ∀ last behind, rest = '-' :: last :: behind → False) :
    rangeEndOf rest = none := rangeEndOf.eq_2 rest other

/-- A range is recognised by reading the two characters behind its first, where there are two. -/
theorem rangeEnd?_of_drop {e : Char} {rest : List Char} (left : p.drop i = e :: rest) :
    rangeEnd? p i = some (rangeEndOf rest) := by
  obtain ⟨_, behind, long⟩ := read_of_drop left
  unfold rangeEnd?
  match rest with
  | [] => exact if_neg (by simp [long])
  | [_] =>
    rw [rangeEndOf_other fun _ _ same => by cases same]
    exact if_neg (by simp [long])
  | dash :: last :: _ =>
    obtain ⟨readDash, further, _⟩ := read_of_drop behind
    obtain ⟨readLast, _, room⟩ := read_of_drop further
    rw [if_pos (by omega), readDash, readLast]
    by_cases isDash : dash = '-'
    · subst isDash
      rfl
    · rw [rangeEndOf_other fun _ _ same => isDash (List.cons.inj same).1]
      exact if_neg isDash

/-- A turn inside the pattern reads no position outside, moves on, stays inside, and scans one
item. -/
theorem itemTurn_spec (c : Char) (found : Bool) (inside : i < p.length) :
    ∃ turn, itemTurn p c i found = some turn ∧ i < turn.next ∧ turn.next ≤ p.length ∧
      turn.result p c = scanItems c (p.drop i) found := by
  generalize left : p.drop i = body
  fun_cases scanItems c body found with
  | case1 =>
    simp only [List.drop_eq_nil_iff] at left
    omega
  | case2 rest =>
    obtain ⟨read, behind, long⟩ := read_of_drop left
    exact ⟨.leave found (i + 1), by
      simp [itemTurn, read], by simp [ItemTurn.next], by simp [ItemTurn.next]; omega,
      by rw [ItemTurn.result, behind]⟩
  | case3 taken rest =>
    obtain ⟨read, behind, _⟩ := read_of_drop left
    obtain ⟨readTaken, further, long⟩ := read_of_drop behind
    have goesOn : itemTurn p c i found = some (.goOn (found || c == taken) (i + 2)) := by
      rw [itemTurn, read, readTaken]
      simp [show i + 1 < p.length by omega]
    exact ⟨.goOn (found || c == taken) (i + 2), goesOn,
      by simp [ItemTurn.next], by simp [ItemTurn.next]; omega, by rw [ItemTurn.result, further]⟩
  | case4 e rest notClosing notEscape =>
    obtain ⟨read, behind, long⟩ := read_of_drop left
    have single := rangeEnd?_of_drop left
    exact ⟨.goOn (found || c == e) (i + 1), by simp_all [itemTurn, rangeEndOf],
      by simp [ItemTurn.next], by simp [ItemTurn.next]; omega, by rw [ItemTurn.result, behind]⟩
  | case5 e last rest notClosing notEscape ending =>
    obtain ⟨read, behind, _⟩ := read_of_drop left
    obtain ⟨_, further, _⟩ := read_of_drop behind
    obtain ⟨_, furthest, long⟩ := read_of_drop further
    have range := rangeEnd?_of_drop left
    exact ⟨.goOn (found || between e last c) (i + 3), by simp_all [itemTurn, rangeEndOf],
      by simp [ItemTurn.next], by simp [ItemTurn.next]; omega, by rw [ItemTurn.result, furthest]⟩
  | case6 e rest _ notClosing notEscape notRange =>
    obtain ⟨read, behind, long⟩ := read_of_drop left
    have single : rangeEnd? p i = some none := by
      rw [rangeEnd?_of_drop left, rangeEndOf_other notRange]
    have goesOn : itemTurn p c i found = some (.goOn (found || c == e) (i + 1)) := by
      rw [itemTurn, read, single]
      have unprotected : ¬ (e = '\\' ∧ i + 1 < p.length) := by
        rintro ⟨backslash, more⟩
        cases rest with
        | nil => simp [long] at more
        | cons taken rest => exact notEscape _ _ backslash rfl
      simp_all
    exact ⟨.goOn (found || c == e) (i + 1), goesOn,
      by simp [ItemTurn.next], by simp [ItemTurn.next]; omega, by rw [ItemTurn.result, behind]⟩

/-- A turn that goes on leaves less of the pattern. -/
theorem itemTurn_closer {c : Char} {found found' : Bool} {next : Nat} (inside : i < p.length)
    (taken : itemTurn p c i found = some (.goOn found' next)) : p.length - next < p.length - i := by
  obtain ⟨turn, same, further, _⟩ := itemTurn_spec c found inside
  obtain rfl := Option.some.inj (taken.symm.trans same)
  simp only [ItemTurn.next] at further
  omega

/-- The loop over the items of a class, which runs until the class is closed or the pattern used
up. -/
def itemsFrom (p : List Char) (c : Char) (i : Nat) (found : Bool) : Option (Bool × Nat) :=
  if inside : i < p.length then
    match taken : itemTurn p c i found with
    | none => none
    | some (.leave found next) => some (found, next)
    | some (.goOn found next) =>
      have := itemTurn_closer inside taken
      itemsFrom p c next found
  else some (found, i)
termination_by p.length - i

/-- The loop over the items comes to an end with no read outside, at a position inside or at the end
of the pattern, and says what scanning the items as a list says. -/
theorem itemsFrom_spec (c : Char) (i : Nat) (found : Bool) (inside : i ≤ p.length) :
    ∃ next, itemsFrom p c i found = some ((scanItems c (p.drop i) found).1, next) ∧ i ≤ next ∧
      next ≤ p.length ∧ p.drop next = (scanItems c (p.drop i) found).2 := by
  fun_induction itemsFrom p c i found with
  | case1 i found more missing =>
    obtain ⟨turn, taken, _⟩ := itemTurn_spec c found more
    rw [missing] at taken
    contradiction
  | case2 i found more found' next taken =>
    obtain ⟨turn, same, further, within, result⟩ := itemTurn_spec c found more
    obtain rfl := Option.some.inj (taken.symm.trans same)
    rw [← result]
    exact ⟨next, rfl, Nat.le_of_lt further, within, rfl⟩
  | case3 i found more found' next taken _ inductionHypothesis =>
    obtain ⟨turn, same, further, within, result⟩ := itemTurn_spec c found more
    obtain rfl := Option.some.inj (taken.symm.trans same)
    rw [← result]
    obtain ⟨last, come, notBefore, inBounds, rest⟩ := inductionHypothesis within
    exact ⟨last, come, Nat.le_trans (Nat.le_of_lt further) notBefore, inBounds, rest⟩
  | case4 i found outside =>
    rw [List.drop_of_length_le (by omega), scanItems]
    exact ⟨i, rfl, Nat.le_refl i, inside, List.drop_of_length_le (by omega)⟩

/-- Whether a caret stands at the position. At the end of the pattern there is none. -/
def caretAt? (p : List Char) (i : Nat) : Option Bool :=
  if i < p.length then p[i]?.map (· == '^') else some false

/-- Tests a character against the class that begins at the position, behind its opening bracket. -/
def classFrom (p : List Char) (c : Char) (i : Nat) : Option (Bool × Nat) := do
  let negated ← caretAt? p i
  let (found, next) ← itemsFrom p c (if negated then i + 1 else i) false
  return (found != negated, next)

/-- A class is tested with no read outside, and the test says what testing it as a list says. -/
theorem classFrom_spec (c : Char) (inside : i ≤ p.length) :
    ∃ next, classFrom p c i = some ((scanClass c (p.drop i)).1, next) ∧ i ≤ next ∧ next ≤ p.length ∧
      p.drop next = (scanClass c (p.drop i)).2 := by
  generalize left : p.drop i = body
  fun_cases scanClass c body with
  | case1 body found rest scanned =>
    obtain ⟨read, behind, long⟩ := read_of_drop left
    have onwards : i + 1 ≤ p.length := by omega
    obtain ⟨next, come, notBefore, within, further⟩ := itemsFrom_spec c (i + 1) false onwards
    have caret : caretAt? p i = some true := by
      rw [caretAt?, if_pos (by omega), read]
      rfl
    rw [behind, scanned] at come further
    exact ⟨next, by simp [classFrom, caret, come], by omega, within, further⟩
  | case2 body notCaret =>
    obtain ⟨next, come, notBefore, within, further⟩ := itemsFrom_spec c i false inside
    have noCaret : caretAt? p i = some false := by
      cases body with
      | nil =>
        exact if_neg (by simpa using left)
      | cons e rest =>
        obtain ⟨read, behind, long⟩ := read_of_drop left
        rw [caretAt?, if_pos (by omega), read]
        simpa using fun caret => notCaret rest (by rw [caret])
    rw [left] at come further
    exact ⟨next, by simp [classFrom, noCaret, come], notBefore, within, further⟩

end Items

section Matching

/-- The last of the stars that stand in a row from the position on. -/
def lastStar (p : List Char) (i : Nat) : Option Nat :=
  if i + 1 < p.length then
    match p[i + 1]? with
    | none => none
    | some c => if c = '*' then lastStar p (i + 1) else some i
  else some i
termination_by p.length - i

/-- What one turn of the search comes to. -/
inductive Turn where
  /-- An answer. -/
  | answer (selected : Bool)
  /-- The next positions. -/
  | goOn (i j : Nat)
  /-- What is left of the pattern behind stars, with which the search begins anew. -/
  | anew (rest : List Char)

/-- A turn that compares the character of the key with the character at a position of the
pattern. -/
def compareTurn (p t : List Char) (i j : Nat) : Option Turn :=
  if t.length ≤ j then some (.answer false) else do
    let c ← t[j]?
    let e ← p[i]?
    return if c = e then .goOn (i + 1) (j + 1) else .answer false

/-- One turn of the search at a position of the pattern and one of the key. -/
def matchTurn (p t : List Char) (i j : Nat) : Option Turn := do
  let e ← p[i]?
  if e = '*' then
    let last ← lastStar p i
    if last + 1 = p.length then return .answer true
    else return .anew (← restFrom? p (last + 1))
  else if e = '?' then return if t.length ≤ j then .answer false else .goOn (i + 1) (j + 1)
  else if e = '[' then
    if t.length ≤ j then return .answer false
    else
      let c ← t[j]?
      let (found, next) ← classFrom p c (i + 1)
      return if found then .goOn next (j + 1) else .answer false
  else if e = '\\' ∧ i + 1 < p.length then compareTurn p t (i + 1) j
  else compareTurn p t i j

/-- How much of a pattern is left after a turn. -/
def Turn.remaining (p : List Char) : Turn → Nat
  | .answer _ => 0
  | .goOn i _ => p.length - i
  | .anew rest => rest.length

/-- The positions with which a turn goes on are in the two texts or at their ends. -/
def Turn.Within (p t : List Char) : Turn → Prop
  | .goOn i j => i ≤ p.length ∧ j ≤ t.length
  | _ => True

/-- What a turn comes to when the matcher decides the rest. -/
def Turn.result (p t : List Char) (j : Nat) : Turn → Bool
  | .answer selected => selected
  | .goOn i j => matchChars (p.drop i) (t.drop j)
  | .anew rest => matchChars ('*' :: rest) (t.drop j)

/-- What a turn of the search at a position of the pattern has to be: it is taken with no read
outside, leaves less of the pattern, stays inside, and agrees with the matcher. -/
def IsTurn (p t : List Char) (i j : Nat) (outcome : Option Turn) : Prop :=
  ∃ turn, outcome = some turn ∧ turn.remaining p < p.length - i ∧ turn.Within p t ∧
    turn.result p t j = matchChars (p.drop i) (t.drop j)

/-- Stars in a row are skipped with no read outside, and mean what the last of them means. -/
theorem lastStar_spec {rest : List Char} (left : p.drop i = '*' :: rest) :
    ∃ last, lastStar p i = some last ∧ i ≤ last ∧ last < p.length ∧
      ∀ text, matchChars ('*' :: p.drop (last + 1)) text = matchChars ('*' :: rest) text := by
  fun_induction lastStar p i generalizing rest with
  | case1 i more missing =>
    simp [List.getElem?_eq_getElem more] at missing
  | case2 i more next inductionHypothesis =>
    obtain ⟨_, behind, long⟩ := read_of_drop left
    cases rest with
    | nil => simp [long] at more
    | cons e rest =>
      obtain ⟨read, _, _⟩ := read_of_drop behind
      obtain rfl := Option.some.inj (read.symm.trans next)
      obtain ⟨last, come, notBefore, within, same⟩ := inductionHypothesis behind
      refine ⟨last, come, by omega, within, fun text => ?_⟩
      rw [same, matchChars]
  | case3 i more c next notStar =>
    obtain ⟨_, behind, long⟩ := read_of_drop left
    exact ⟨i, rfl, Nat.le_refl i, by omega, fun text => by rw [behind]⟩
  | case4 i outside =>
    obtain ⟨_, behind, long⟩ := read_of_drop left
    exact ⟨i, rfl, Nat.le_refl i, by omega, fun text => by rw [behind]⟩

/-- A comparison reads one character of each text, and both are inside. -/
theorem compareTurn_eq {e : Char} {rest : List Char} (left : p.drop i = e :: rest) :
    compareTurn p t i j = some (match t.drop j with
      | [] => .answer false
      | c :: _ => if c = e then .goOn (i + 1) (j + 1) else .answer false) := by
  obtain ⟨read, _, _⟩ := read_of_drop left
  cases text : t.drop j with
  | nil => exact if_pos (List.drop_eq_nil_iff.mp text)
  | cons c behind =>
    obtain ⟨readText, _, long⟩ := read_of_drop text
    rw [compareTurn, if_neg (by omega), read, readText]
    rfl

/-- A comparison is a turn of the matcher if the matcher compares the same characters and goes on
behind them. -/
theorem compareTurn_isTurn {k : Nat} {e : Char} {rest : List Char} (notBefore : i ≤ k)
    (left : p.drop k = e :: rest) (compares : ∀ text, matchChars (p.drop i) text = match text with
      | [] => false
      | c :: text => c == e && matchChars rest text) :
    IsTurn p t i j (compareTurn p t k j) := by
  obtain ⟨_, behind, long⟩ := read_of_drop left
  rw [compareTurn_eq left]
  cases text : t.drop j with
  | nil =>
    refine ⟨_, rfl, ?_, trivial, ?_⟩
    · simp only [Turn.remaining]; omega
    · rw [text, compares]; rfl
  | cons c later =>
    obtain ⟨_, behindText, longText⟩ := read_of_drop text
    refine ⟨_, rfl, ?_, ?_, ?_⟩
    · dsimp only
      split <;> simp only [Turn.remaining] <;> omega
    · dsimp only
      split
      · exact ⟨by omega, by omega⟩
      · trivial
    · rw [text, compares]
      by_cases same : c = e
      · simp [same, Turn.result, behind, behindText]
      · simp [same, Turn.result]

/-- The turn at a star skips the stars behind it, and accepts any rest or searches anew. -/
theorem starTurn_isTurn {rest : List Char} (left : p.drop i = '*' :: rest) :
    IsTurn p t i j (matchTurn p t i j) := by
  obtain ⟨read, _, long⟩ := read_of_drop left
  obtain ⟨last, come, notBefore, within, same⟩ := lastStar_spec left
  by_cases final : last + 1 = p.length
  · have taken : matchTurn p t i j = some (.answer true) := by
      simp [matchTurn, read, come, final]
    refine ⟨_, taken, by simp only [Turn.remaining]; omega, trivial, ?_⟩
    rw [left, ← same, List.drop_of_length_le (by omega), matchChars, Turn.result]
  · have behind : restFrom? p (last + 1) = some (p.drop (last + 1)) :=
      if_pos (Nat.succ_le_of_lt within)
    have taken : matchTurn p t i j = some (.anew (p.drop (last + 1))) := by
      simp [matchTurn, read, come, final, behind]
    refine ⟨_, taken, by simp only [Turn.remaining, List.length_drop]; omega, trivial, ?_⟩
    rw [left, Turn.result, same]

/-- The turn at a question mark passes over one character. -/
theorem anyCharTurn_isTurn {rest : List Char} (left : p.drop i = '?' :: rest) :
    IsTurn p t i j (matchTurn p t i j) := by
  obtain ⟨read, behind, long⟩ := read_of_drop left
  have taken : matchTurn p t i j = some (if t.length ≤ j then .answer false else
      .goOn (i + 1) (j + 1)) := by
    simp [matchTurn, read]
  refine ⟨_, taken, ?_, ?_, ?_⟩
  · split <;> simp only [Turn.remaining] <;> omega
  · split
    · trivial
    · exact ⟨by omega, by omega⟩
  · rw [left]
    cases text : t.drop j with
    | nil => rw [if_pos (List.drop_eq_nil_iff.mp text), Turn.result, matchChars]
    | cons c later =>
      obtain ⟨_, behindText, longText⟩ := read_of_drop text
      rw [if_neg (by omega), Turn.result, behind, behindText, matchChars]

/-- The turn at a class tests one character and goes on behind the class. -/
theorem classTurn_isTurn {rest : List Char} (left : p.drop i = '[' :: rest) :
    IsTurn p t i j (matchTurn p t i j) := by
  obtain ⟨read, behind, long⟩ := read_of_drop left
  cases text : t.drop j with
  | nil =>
    have atEnd : t.length ≤ j := List.drop_eq_nil_iff.mp text
    have taken : matchTurn p t i j = some (.answer false) := by
      simp [matchTurn, read, atEnd]
    refine ⟨_, taken, by simp only [Turn.remaining]; omega, trivial, ?_⟩
    rw [left, text, matchChars, Turn.result]
  | cons c later =>
    obtain ⟨readText, behindText, longText⟩ := read_of_drop text
    have onwards : i + 1 ≤ p.length := by omega
    obtain ⟨next, come, notBefore, within, further⟩ := classFrom_spec c onwards
    rw [behind] at come further
    have taken : matchTurn p t i j =
        some (if (scanClass c rest).1 then .goOn next (j + 1) else .answer false) := by
      rw [matchTurn, read, readText]
      simp [come, show ¬ t.length ≤ j by omega]
    refine ⟨_, taken, ?_, ?_, ?_⟩
    · split <;> simp only [Turn.remaining] <;> omega
    · split
      · exact ⟨within, by omega⟩
      · trivial
    · rw [left, text, matchChars]
      by_cases found : (scanClass c rest).1 = true
      · simp [found, Turn.result, further, behindText]
      · simp [found, Turn.result]

/-- Every turn inside the pattern is a turn of the matcher. -/
theorem matchTurn_isTurn (inside : i < p.length) : IsTurn p t i j (matchTurn p t i j) := by
  obtain ⟨e, rest, left⟩ : ∃ e rest, p.drop i = e :: rest :=
    ⟨_, _, List.drop_eq_getElem_cons inside⟩
  obtain ⟨read, behind, long⟩ := read_of_drop left
  by_cases isStar : e = '*'
  · exact starTurn_isTurn (isStar ▸ left)
  by_cases isMark : e = '?'
  · exact anyCharTurn_isTurn (isMark ▸ left)
  by_cases isBracket : e = '['
  · exact classTurn_isTurn (isBracket ▸ left)
  by_cases escaping : e = '\\' ∧ i + 1 < p.length
  · obtain ⟨rfl, more⟩ := escaping
    have taken : matchTurn p t i j = compareTurn p t (i + 1) j := by
      simp [matchTurn, read, more]
    rw [taken]
    cases rest with
    | nil => simp [long] at more
    | cons e rest =>
      refine compareTurn_isTurn (Nat.le_succ i) behind fun text => ?_
      rw [left]
      cases text <;> rw [matchChars]
  · have taken : matchTurn p t i j = compareTurn p t i j := by
      simp [matchTurn, read, isStar, isMark, isBracket, escaping]
    rw [taken]
    have literal : ∀ next later, e = '\\' → rest = next :: later → False := by
      rintro next later backslash rfl
      exact escaping ⟨backslash, by simp [long]⟩
    refine compareTurn_isTurn (Nat.le_refl i) left fun text => ?_
    rw [left]
    cases text <;> rw [matchChars] <;> simp_all

/-- What a turn that is taken is known to be. -/
theorem matchTurn_taken {turn : Turn} (inside : i < p.length)
    (taken : matchTurn p t i j = some turn) :
    turn.remaining p < p.length - i ∧ turn.Within p t ∧
      turn.result p t j = matchChars (p.drop i) (t.drop j) := by
  obtain ⟨turn', same, known⟩ := matchTurn_isTurn (t := t) (j := j) inside
  obtain rfl := Option.some.inj (taken.symm.trans same)
  exact known

/-- The search: turns until the pattern is used up, and then the key has to be used up too. Behind
stars, what is left of the pattern is tried on every rest of the key, the longest first, until one
is selected. -/
def matchFrom (p t : List Char) (i j : Nat) : Option Bool :=
  if inside : i < p.length then
    match taken : matchTurn p t i j with
    | none => none
    | some (.answer selected) => some selected
    | some (.goOn i j) =>
      have := (matchTurn_taken inside taken).1
      matchFrom p t i j
    | some (.anew rest) =>
      have := (matchTurn_taken inside taken).1
      (List.range' j (t.length + 1 - j)).anyM fun start => do
        let text ← restFrom? t start
        matchFrom rest text 0 0
  else some (j == t.length)
termination_by p.length - i

/-- A search over a list whose every test has an answer has the answer of the search over the
answers. -/
theorem anyM_eq_some {α : Type} {test : α → Option Bool} {answer : α → Bool} {places : List α}
    (answered : ∀ place ∈ places, test place = some (answer place)) :
    places.anyM test = some (places.any answer) := by
  induction places with
  | nil => rfl
  | cons place places inductionHypothesis =>
    rw [List.forall_mem_cons] at answered
    rw [List.anyM, answered.1, inductionHypothesis answered.2, List.any_cons]
    cases answer place <;> rfl

/-- A star selects a text if what stands behind it selects one of its rests. -/
theorem any_rest_eq (rest : List Char) (inside : j ≤ t.length) :
    (List.range' j (t.length + 1 - j)).any (fun start => matchChars rest (t.drop start)) =
      matchChars ('*' :: rest) (t.drop j) := by
  rw [Bool.eq_iff_iff, List.any_eq_true, matchChars_iff, tokens, accepted_anyText]
  simp only [List.mem_range'_1, matchChars_iff]
  constructor
  · rintro ⟨start, ⟨notBefore, _⟩, accepted⟩
    refine ⟨(t.drop j).take (start - j), t.drop start, ?_, accepted⟩
    have place : t.drop start = (t.drop j).drop (start - j) := by
      rw [List.drop_drop, Nat.add_sub_cancel' notBefore]
    rw [place, List.take_append_drop]
  · rintro ⟨piece, behind, whole, accepted⟩
    have counted := congrArg List.length whole
    simp only [List.length_drop, List.length_append] at counted
    refine ⟨j + piece.length, by omega, ?_⟩
    rw [← List.drop_drop, whole, List.drop_left]
    exact accepted

/-- The search by positions has an answer from every place inside, with no read and no rest outside,
and it is the answer of the matcher. Proof: induction on the calls of the search; a turn keeps the
answer, and behind stars the answers for all rests of the key together are the answer for the
star. -/
theorem matchFrom_eq (p t : List Char) (i j : Nat) (insideText : j ≤ t.length) :
    matchFrom p t i j = some (matchChars (p.drop i) (t.drop j)) := by
  fun_induction matchFrom p t i j with
  | case1 p t i j inside missing =>
    obtain ⟨turn, taken, _⟩ := matchTurn_isTurn (t := t) (j := j) inside
    rw [missing] at taken
    contradiction
  | case2 p t i j inside selected taken =>
    exact congrArg some (matchTurn_taken inside taken).2.2
  | case3 p t i j inside i' j' taken _ inductionHypothesis =>
    obtain ⟨_, within, result⟩ := matchTurn_taken inside taken
    rw [inductionHypothesis within.2]
    exact congrArg some result
  | case4 p t i j inside rest taken _ inductionHypothesis =>
    obtain ⟨_, _, result⟩ := matchTurn_taken inside taken
    have answered : ∀ start ∈ List.range' j (t.length + 1 - j),
        ((restFrom? t start).bind fun text => matchFrom rest text 0 0) =
          some (matchChars rest (t.drop start)) := by
      intro start place
      rw [List.mem_range'_1] at place
      rw [restFrom?, if_pos (by omega), Option.bind_some, inductionHypothesis _ (Nat.zero_le _),
        List.drop_zero, List.drop_zero]
    rw [← result, Turn.result, ← any_rest_eq rest insideText]
    exact anyM_eq_some answered
  | case5 p t i j outside =>
    rw [List.drop_of_length_le (by omega), matchChars, Option.some_inj, Bool.eq_iff_iff, beq_iff_eq,
      List.isEmpty_iff, List.drop_eq_nil_iff]
    omega

end Matching

/-- Patterns select the keys of their language. For every pattern and every key the search comes to
an end, reads no position outside of the two and takes no rest from behind their ends; its answer is
what `selects` says, and this is whether the key is a concatenation of pieces that the tokens of the
pattern accept in order. -/
theorem selects_decides (pattern key : String) :
    matchFrom pattern.toList key.toList 0 0 = some (selects pattern key) ∧
    (selects pattern key = true ↔ ∃ pieces : List (List Char), key.toList = pieces.flatten ∧
      List.Forall₂ Token.Accepts (tokens pattern.toList) pieces) := by
  constructor
  · rw [matchFrom_eq _ _ _ _ (Nat.zero_le _), List.drop_zero, List.drop_zero, selects]
  · exact matchChars_iff pattern.toList key.toList

end KeySweeper.Glob
