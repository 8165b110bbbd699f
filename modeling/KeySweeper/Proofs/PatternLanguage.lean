import Mathlib.Data.List.Forall2
import KeySweeper.Glob

/-!
# The language of key patterns

A pattern is read once, from left to right, into tokens. A star stands for any text, every other
token for exactly one character: any character, a given one, or one of a class. A class is a list of
items, and an item is a character or the range between two characters. Reading a pattern never fails
and does not look at a key.

The meaning of a list of tokens says nothing about how a key is searched: the key is cut into
pieces, one for each token and in their order, and every token accepts its piece. The matcher
decides this meaning for every pattern and every text. It is proved by induction on the calls of the
matcher, with two equations for each kind of token, one for the empty text and one for a text with a
first character.

As an application, a key in which every special character is protected by a backslash is read into
its own characters, so it selects this key and no other.
-/

namespace KeySweeper.Glob

/-- One item of a class. -/
inductive Item where
  /-- A character. -/
  | single (c : Char)
  /-- The characters between two, these included. -/
  | range (one other : Char)
  deriving DecidableEq, Repr

/-- The characters an item stands for. The ends of a range may come in either order. -/
def Item.Holds : Item → Char → Prop
  | .single e, c => c = e
  | .range one other, c => (one ≤ c ∧ c ≤ other) ∨ (other ≤ c ∧ c ≤ one)

/-- A token that stands for one character. -/
inductive Single where
  /-- A question mark. -/
  | anyChar
  /-- A character that stands for itself. -/
  | exactly (c : Char)
  /-- A class. -/
  | oneOf (negated : Bool) (items : List Item)
  deriving DecidableEq, Repr

/-- The characters such a token accepts. A negated class accepts the characters that none of its
items holds, so an empty class accepts no character and a negated empty class every character. -/
def Single.Admits : Single → Char → Prop
  | .anyChar, _ => True
  | .exactly e, c => c = e
  | .oneOf false items, c => ∃ item ∈ items, item.Holds c
  | .oneOf true items, c => ¬ ∃ item ∈ items, item.Holds c

/-- A token of a pattern. -/
inductive Token where
  /-- A star. -/
  | anyText
  /-- Any other token. -/
  | one (single : Single)
  deriving DecidableEq, Repr

/-- The texts a token accepts. -/
def Token.Accepts : Token → List Char → Prop
  | .anyText, _ => True
  | .one single, piece => ∃ c, piece = [c] ∧ single.Admits c

/-- A text is accepted by a list of tokens if it is a concatenation of pieces, one for each token
and in their order, such that every token accepts its piece. -/
def Accepted (pattern : List Token) (text : List Char) : Prop :=
  ∃ pieces : List (List Char), text = pieces.flatten ∧ List.Forall₂ Token.Accepts pattern pieces

section Reading

/-- Reads the items of a class up to the first closing bracket in item position, and answers what
stands behind it. A backslash takes the next character as it is, a range needs an end other than the
closing bracket, and every other character stands for itself. A class that is not closed ends with
the pattern. -/
def readItems : List Char → List Item × List Char
  | [] => ([], [])
  | ']' :: rest => ([], rest)
  | '\\' :: c :: rest => (.single c :: (readItems rest).1, (readItems rest).2)
  | one :: '-' :: other :: rest =>
    if other = ']' then
      (.single one :: (readItems ('-' :: other :: rest)).1, (readItems ('-' :: other :: rest)).2)
    else (.range one other :: (readItems rest).1, (readItems rest).2)
  | c :: rest => (.single c :: (readItems rest).1, (readItems rest).2)
termination_by body => body.length

/-- Reads a class from behind its opening bracket. A caret there negates it. -/
def readClass : List Char → Single × List Char
  | '^' :: body => (.oneOf true (readItems body).1, (readItems body).2)
  | body => (.oneOf false (readItems body).1, (readItems body).2)

/-- What follows the items of a class is never longer than the text they were read from. -/
theorem length_readItems_le (body : List Char) : (readItems body).2.length ≤ body.length := by
  fun_induction readItems body <;> simp_all <;> omega

/-- What follows a class is never longer than the text the class was read from. -/
theorem length_readClass_le (body : List Char) : (readClass body).2.length ≤ body.length := by
  unfold readClass
  split
  · next body => exact Nat.le_succ_of_le (length_readItems_le body)
  · exact length_readItems_le body

/-- Reads a pattern into its tokens. A backslash at the very end stands for itself. -/
def tokens : List Char → List Token
  | [] => []
  | '*' :: rest => .anyText :: tokens rest
  | '?' :: rest => .one .anyChar :: tokens rest
  | '[' :: rest => .one (readClass rest).1 :: tokens (readClass rest).2
  | '\\' :: c :: rest => .one (.exactly c) :: tokens rest
  | c :: rest => .one (.exactly c) :: tokens rest
termination_by pattern => pattern.length
decreasing_by
  all_goals have shorter := length_readClass_le rest
  all_goals simp only [List.length_cons]
  all_goals omega

/-- A character without a special meaning in its place is read as itself. -/
theorem tokens_literal {c : Char} {rest : List Char} (notStar : c ≠ '*') (notMark : c ≠ '?')
    (notBracket : c ≠ '[') (notEscape : ∀ e behind, c = '\\' → rest ≠ e :: behind) :
    tokens (c :: rest) = .one (.exactly c) :: tokens rest := by
  rw [tokens]
  all_goals assumption

example : tokens "a*[^x-a\\]q-]?\\".toList =
    [.one (.exactly 'a'), .anyText,
      .one (.oneOf true [.range 'x' 'a', .single ']', .single 'q', .single '-']),
      .one .anyChar, .one (.exactly '\\')] := by
  decide +kernel

end Reading

section Meaning

variable {pattern : List Token} {text : List Char}

/-- A pattern without tokens accepts the empty text only. -/
theorem accepted_nil : Accepted [] text ↔ text = [] := by
  constructor
  · rintro ⟨pieces, rfl, fit⟩
    cases fit
    rfl
  · rintro rfl
    exact ⟨[], rfl, .nil⟩

/-- The first token accepts a first piece, the others the text behind it. -/
theorem accepted_cons {token : Token} : Accepted (token :: pattern) text ↔
    ∃ piece rest, text = piece ++ rest ∧ token.Accepts piece ∧ Accepted pattern rest := by
  constructor
  · rintro ⟨pieces, rfl, fit⟩
    cases fit with
    | @cons _ piece _ others accepts fit =>
      exact ⟨piece, others.flatten, rfl, accepts, others, rfl, fit⟩
  · rintro ⟨piece, _, rfl, accepts, others, rfl, fit⟩
    exact ⟨piece :: others, rfl, .cons accepts fit⟩

/-- A token for one character accepts nothing of an empty text. -/
theorem not_accepted_one_nil {single : Single} : ¬ Accepted (.one single :: pattern) [] := by
  rw [accepted_cons]
  rintro ⟨_, rest, whole, ⟨c, rfl, _⟩, _⟩
  simp at whole

/-- A token for one character takes the first character of the text. -/
theorem accepted_one_cons {single : Single} {c : Char} :
    Accepted (.one single :: pattern) (c :: text) ↔ single.Admits c ∧ Accepted pattern text := by
  rw [accepted_cons]
  constructor
  · rintro ⟨_, rest, whole, ⟨first, rfl, admits⟩, accepted⟩
    obtain ⟨rfl, rfl⟩ : c = first ∧ text = rest := by simpa using whole
    exact ⟨admits, accepted⟩
  · rintro ⟨admits, accepted⟩
    exact ⟨[c], text, rfl, ⟨c, rfl, admits⟩, accepted⟩

/-- A star takes some beginning of the text. -/
theorem accepted_anyText : Accepted (.anyText :: pattern) text ↔
    ∃ piece rest, text = piece ++ rest ∧ Accepted pattern rest := by
  simp only [accepted_cons, Token.Accepts, true_and]

/-- A star takes nothing of an empty text. -/
theorem accepted_anyText_nil : Accepted (.anyText :: pattern) [] ↔ Accepted pattern [] := by
  rw [accepted_anyText]
  constructor
  · rintro ⟨piece, rest, whole, accepted⟩
    rw [← (List.nil_eq_append_iff.mp whole).2]
    exact accepted
  · intro accepted
    exact ⟨[], [], rfl, accepted⟩

/-- A star takes nothing of a text, or its first character and then what a star takes of the
others. -/
theorem accepted_anyText_cons {c : Char} : Accepted (.anyText :: pattern) (c :: text) ↔
    Accepted pattern (c :: text) ∨ Accepted (.anyText :: pattern) text := by
  simp only [accepted_anyText]
  constructor
  · rintro ⟨piece, rest, whole, accepted⟩
    cases piece with
    | nil =>
      left
      rw [show c :: text = rest from whole]
      exact accepted
    | cons first piece =>
      right
      exact ⟨piece, rest, (List.cons.inj whole).2, accepted⟩
  · rintro (accepted | ⟨piece, rest, rfl, accepted⟩)
    · exact ⟨[], c :: text, rfl, accepted⟩
    · exact ⟨c :: piece, rest, rfl, accepted⟩

/-- A star alone accepts every text. -/
theorem accepted_anyText_only : Accepted [.anyText] text :=
  accepted_anyText.mpr ⟨text, [], (List.append_nil text).symm, accepted_nil.mpr rfl⟩

/-- A second star says nothing that the first does not say. -/
theorem accepted_anyText_anyText :
    Accepted (.anyText :: .anyText :: pattern) text ↔ Accepted (.anyText :: pattern) text := by
  constructor
  · intro both
    obtain ⟨piece, behind, rfl, again⟩ := accepted_anyText.mp both
    obtain ⟨middle, rest, rfl, accepted⟩ := accepted_anyText.mp again
    exact accepted_anyText.mpr ⟨piece ++ middle, rest, (List.append_assoc ..).symm, accepted⟩
  · intro accepted
    exact accepted_anyText.mpr ⟨[], text, rfl, accepted⟩

/-- A list of given characters accepts the text of these characters and no other. -/
theorem accepted_exactly (key : List Char) :
    Accepted (key.map (Token.one ∘ Single.exactly)) text ↔ text = key := by
  induction key generalizing text with
  | nil => exact accepted_nil
  | cons e key inductionHypothesis =>
    cases text with
    | nil => simpa using not_accepted_one_nil
    | cons c text =>
      rw [List.map_cons, Function.comp_apply, accepted_one_cons, inductionHypothesis]
      simp [Single.Admits]

end Meaning

section Deciding

/-- The two ends of a range are put in order before the character is compared with them. -/
theorem between_iff (one other c : Char) :
    between one other c = true ↔ (Item.range one other).Holds c := by
  simp only [between, Item.Holds, Char.le_def, UInt32.le_iff_toNat_le]
  split <;> simp only [Bool.and_eq_true, decide_eq_true_eq] <;> omega

/-- The matcher takes a class to end where reading it ends, whatever it found. -/
theorem scanItems_rest (c : Char) (body : List Char) (found : Bool) :
    (scanItems c body found).2 = (readItems body).2 := by
  fun_induction scanItems c body found <;> simp_all [readItems]

/-- The matcher finds a character in a class if one of the items that are read holds it. -/
theorem scanItems_found (c : Char) (body : List Char) (found : Bool) :
    (scanItems c body found).1 = true ↔ found = true ∨ ∃ item ∈ (readItems body).1,
      item.Holds c := by
  fun_induction scanItems c body found <;> simp_all [readItems, Item.Holds, between_iff, or_assoc]

/-- The matcher takes a class to end where reading it ends. -/
theorem scanClass_rest (c : Char) (body : List Char) :
    (scanClass c body).2 = (readClass body).2 := by
  unfold scanClass readClass
  split <;> simp_all [scanItems_rest]

/-- The matcher tests a character against the class that is read. -/
theorem scanClass_found (c : Char) (body : List Char) :
    (scanClass c body).1 = true ↔ (readClass body).1.Admits c := by
  unfold scanClass readClass
  split
  · simp [Single.Admits, ← Bool.not_eq_true, scanItems_found]
  · simp [Single.Admits, scanItems_found]

/-- The matcher decides the meaning of a pattern. Proof: induction on the calls of the matcher; the
tokens of the pattern begin with the one that the matcher looks at, and each case is the equation
for this token. -/
theorem matchChars_iff (pattern text : List Char) :
    matchChars pattern text = true ↔ Accepted (tokens pattern) text := by
  fun_induction matchChars pattern text with
  | case1 text => simp [tokens, accepted_nil]
  | case2 text => simp [tokens, accepted_anyText_only]
  | case3 pattern text inductionHypothesis =>
    simp only [inductionHypothesis, tokens, accepted_anyText_anyText]
  | case4 pattern _ _ inductionHypothesis =>
    rw [inductionHypothesis, tokens, accepted_anyText_nil]
  | case5 pattern _ _ c text nothing some =>
    rw [Bool.or_eq_true, nothing, some, tokens, accepted_anyText_cons]
  | case6 pattern => simp [tokens, not_accepted_one_nil]
  | case7 pattern c text inductionHypothesis =>
    rw [inductionHypothesis, tokens, accepted_one_cons]
    simp [Single.Admits]
  | case8 pattern => simp [tokens, not_accepted_one_nil]
  | case9 pattern c text inductionHypothesis =>
    rw [Bool.and_eq_true, inductionHypothesis, scanClass_found, scanClass_rest, tokens,
      accepted_one_cons]
  | case10 e pattern => simp [tokens, not_accepted_one_nil]
  | case11 e pattern c text inductionHypothesis =>
    rw [Bool.and_eq_true, beq_iff_eq, inductionHypothesis, tokens, accepted_one_cons, Single.Admits]
  | case12 e pattern _ _ notStar notMark notBracket notEscape =>
    simp [tokens_literal notStar notMark notBracket notEscape, not_accepted_one_nil]
  | case13 e pattern _ _ notStar notMark notBracket notEscape c text inductionHypothesis =>
    rw [Bool.and_eq_true, beq_iff_eq, inductionHypothesis,
      tokens_literal notStar notMark notBracket notEscape,
      accepted_one_cons, Single.Admits]

end Deciding

section Escaping

/-- The characters that mean something else than themselves in some position of a pattern. -/
def isSpecial (c : Char) : Bool :=
  c = '*' || c = '?' || c = '[' || c = ']' || c = '\\'

/-- A character as a pattern writes it that means the character itself. -/
def guarded (c : Char) : List Char := if isSpecial c then ['\\', c] else [c]

/-- The pattern that is the key with a backslash put before every special character. -/
def escaped (key : String) : String := String.ofList (key.toList.flatMap guarded)

/-- Guarded characters are read into themselves. A backslash put in by the guard is never the last
character of the pattern, and a backslash of the key is guarded itself. -/
theorem tokens_flatMap_guarded (key : List Char) :
    tokens (key.flatMap guarded) = key.map (Token.one ∘ Single.exactly) := by
  induction key with
  | nil => rw [List.flatMap_nil, tokens, List.map_nil]
  | cons c key inductionHypothesis =>
    rw [List.flatMap_cons, List.map_cons, Function.comp_apply, ← inductionHypothesis, guarded]
    by_cases special : isSpecial c = true
    · rw [if_pos special, List.cons_append, List.cons_append, List.nil_append, tokens]
    · rw [if_neg special, List.cons_append, List.nil_append]
      simp only [isSpecial, Bool.or_eq_true, decide_eq_true_eq, not_or] at special
      obtain ⟨⟨⟨⟨notStar, notMark⟩, notBracket⟩, _⟩, notBackslash⟩ := special
      exact tokens_literal notStar notMark notBracket fun _ _ backslash =>
        absurd backslash notBackslash

/-- A key with a backslash before each of its special characters is a pattern that selects this key
and no other, whatever characters the two keys have. -/
theorem selects_escaped_iff (key text : String) :
    selects (escaped key) text = true ↔ text = key := by
  rw [selects, escaped, String.toList_ofList, matchChars_iff, tokens_flatMap_guarded,
    accepted_exactly, String.toList_inj]

end Escaping

end KeySweeper.Glob
