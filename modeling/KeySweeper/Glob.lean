/-!
# Key patterns

A pattern selects keys by shell-style wildcards over characters: a star stands for any text, a
question mark for one character, brackets for one character of a class, and a backslash takes the
special meaning off the character behind it. Patterns have no syntax errors: a class that is never
closed runs to the end of the pattern, and a backslash at the very end stands for itself.

A class is read item by item up to the first closing bracket in item position. How an item is read
does not depend on the character being tested, so a failed test can skip the same part of the
pattern as a successful one.
-/

namespace KeySweeper.Glob

/-- Whether the character lies between the two ends, which may come in either order. -/
def between (low high c : Char) : Bool :=
  if low ≤ high then low ≤ c && c ≤ high else high ≤ c && c ≤ low

/-- Reads class items up to the closing bracket or the end of the pattern. Answers whether some item
holds the character, or `found` was already set, together with what follows the class.

An item is a backslash with the character it protects, a range whose end is not a closing bracket,
or a single character, tried in this order. -/
def scanItems (c : Char) : List Char → Bool → Bool × List Char
  | [], found => (found, [])
  | ']' :: rest, found => (found, rest)
  | '\\' :: e :: rest, found => scanItems c rest (found || c == e)
  | a :: '-' :: b :: rest, found =>
    if b = ']' then scanItems c ('-' :: b :: rest) (found || c == a)
    else scanItems c rest (found || between a b c)
  | a :: rest, found => scanItems c rest (found || c == a)
termination_by body => body.length

/-- Tests a character against the class whose body starts here, and answers what follows the class.
A leading caret turns the test round. -/
def scanClass (c : Char) : List Char → Bool × List Char
  | '^' :: body =>
    let (found, rest) := scanItems c body false
    (!found, rest)
  | body => scanItems c body false

/-- What follows a class is never longer than the class body. -/
theorem length_scanItems_le (c : Char) (body : List Char) (found : Bool) :
    (scanItems c body found).2.length ≤ body.length := by
  fun_induction scanItems c body found <;> simp_all <;> omega

/-- What follows a class, negated or not, is never longer than its body. -/
theorem length_scanClass_le (c : Char) (body : List Char) :
    (scanClass c body).2.length ≤ body.length := by
  unfold scanClass
  split
  · next rest =>
    have shorter := length_scanItems_le c rest false
    simp only [List.length_cons]
    omega
  · exact length_scanItems_le c body false

/-- Whether the text, as a whole, is selected by the pattern. A star is tried with ever longer
texts, starting with none; stars in a row say no more than one, and a star at the end accepts any
rest. -/
def matchChars : List Char → List Char → Bool
  | [], text => text.isEmpty
  | ['*'], _ => true
  | '*' :: '*' :: pattern, text => matchChars ('*' :: pattern) text
  | '*' :: pattern, text =>
    match text with
    | [] => matchChars pattern []
    | c :: text => matchChars pattern (c :: text) || matchChars ('*' :: pattern) text
  | '?' :: pattern, text =>
    match text with
    | [] => false
    | _ :: text => matchChars pattern text
  | '[' :: pattern, text =>
    match text with
    | [] => false
    | c :: text =>
      (scanClass c pattern).1 && matchChars (scanClass c pattern).2 text
  | '\\' :: e :: pattern, text =>
    match text with
    | [] => false
    | c :: text => c == e && matchChars pattern text
  | e :: pattern, text =>
    match text with
    | [] => false
    | c :: text => c == e && matchChars pattern text
termination_by pattern text => pattern.length + text.length
decreasing_by
  all_goals simp_wf
  all_goals first
    | omega
    | exact Nat.add_lt_add_of_lt_of_le
        (Nat.lt_succ_of_le (length_scanClass_le c pattern)) (Nat.le_succ _)

/-- Whether the pattern selects the key. -/
def selects (pattern key : String) : Bool := matchChars pattern.toList key.toList

end KeySweeper.Glob
