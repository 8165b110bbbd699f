import KeySweeper.Text.Numeral

/-!
# Which texts are numbers

The numbers of the configuration are read by a loop over their characters. What the loop accepts is
stated here without it: a natural number is spelt by one or more decimal digits, perhaps after a
plus sign, an integer may have a minus sign instead, and the number that is spelt has to be within
the limit. Nothing else is accepted, so that blanks, empty texts, signs that do not belong and
numbers out of range are all refused. The decimal notation of a number within the limit is always
accepted.
-/

namespace KeySweeper.Text.Numeral

/-- The characters are decimal digits, at least one, and this is the number that they spell. -/
structure Spells (digits : List Char) (n : Nat) : Prop where
  /-- There is a digit. -/
  nonempty : digits ≠ []
  /-- There are only digits. -/
  decimal : ∀ c ∈ digits, c.isDigit
  /-- The number has the digits in the decimal system, the most significant one first. -/
  value : Nat.ofDigitChars 10 digits 0 = n

/-- The characters spell a natural number, perhaps with a plus sign in front. -/
def IsNatural (chars : List Char) (n : Nat) : Prop :=
  Spells chars n ∨ ∃ digits, chars = '+' :: digits ∧ Spells digits n

/-- The characters spell an integer: a natural number, or one behind a minus sign. -/
def IsInteger (chars : List Char) (z : Int) : Prop :=
  (∃ n : Nat, z = n ∧ IsNatural chars n) ∨
    ∃ (n : Nat) (digits : List Char), z = -n ∧ chars = '-' :: digits ∧ Spells digits n

/-! ### Digits -/

/-- A character has a value as a digit exactly if it is a decimal digit. -/
theorem digit?_eq (c : Char) :
    digit? c = if c.isDigit then some (c.toNat - '0'.toNat) else none := by
  have same : (decide ('0' ≤ c) && decide (c ≤ '9')) = c.isDigit := rfl
  rw [digit?, same]

/-- The loop over the digits continues the number already read. -/
theorem digitsFrom?_eq_some_iff {chars : List Char} {read n : Nat} :
    digitsFrom? read chars = some n ↔
      (∀ c ∈ chars, c.isDigit) ∧ Nat.ofDigitChars 10 chars read = n := by
  induction chars generalizing read with
  | nil => simp [digitsFrom?]
  | cons c rest inductionHypothesis =>
    rw [digitsFrom?, digit?_eq, Nat.ofDigitChars_cons]
    by_cases decimal : c.isDigit
    · simp [decimal, inductionHypothesis]
    · simp [decimal]

/-- What is read as digits are the characters that spell the number. -/
theorem digits?_eq_some_iff {chars : List Char} {n : Nat} :
    digits? chars = some n ↔ Spells chars n := by
  cases chars with
  | nil =>
    constructor
    · intro impossible
      cases impossible
    · intro spells
      exact absurd rfl spells.nonempty
  | cons c rest =>
    rw [digits?, digitsFrom?_eq_some_iff]
    · exact ⟨fun ⟨decimal, value⟩ => ⟨List.cons_ne_nil c rest, decimal, value⟩,
        fun spells => ⟨spells.decimal, spells.value⟩⟩
    · exact List.cons_ne_nil c rest

/-- Digits do not begin with a sign. -/
theorem Spells.not_sign {sign : Char} {rest : List Char} {n : Nat}
    (spells : Spells (sign :: rest) n) : sign ≠ '+' ∧ sign ≠ '-' := by
  have decimal := spells.decimal sign (List.mem_cons_self ..)
  constructor <;> rintro rfl <;> exact absurd decimal (by decide)

/-- The decimal notation of a number spells that number. -/
theorem spells_toString (n : Nat) : Spells (toString n).toList n := by
  rw [Nat.toString_eq_repr, Nat.toList_repr]
  exact
    { nonempty := Nat.toDigits_ne_nil
      decimal := fun _ member => Nat.isDigit_of_mem_toDigits (by decide) (by decide) member
      value := Nat.ofDigitChars_ten_toDigits }

/-! ### Signs -/

/-- Behind a plus sign there are only digits. -/
theorem isNatural_plus {digits : List Char} {n : Nat} :
    IsNatural ('+' :: digits) n ↔ Spells digits n := by
  constructor
  · rintro (spells | ⟨rest, same, spells⟩)
    · exact absurd rfl spells.not_sign.1
    · exact (List.cons.inj same).2 ▸ spells
  · intro spells
    exact .inr ⟨digits, rfl, spells⟩

/-- Without a plus sign there are only digits. -/
theorem isNatural_bare {chars : List Char} {n : Nat} (bare : ∀ rest, chars ≠ '+' :: rest) :
    IsNatural chars n ↔ Spells chars n := by
  constructor
  · rintro (spells | ⟨rest, same, -⟩)
    · exact spells
    · exact absurd same (bare rest)
  · exact .inl

/-- A minus sign makes a natural number into its negative. -/
theorem isInteger_minus {digits : List Char} {z : Int} :
    IsInteger ('-' :: digits) z ↔ ∃ n : Nat, z = -n ∧ Spells digits n := by
  constructor
  · rintro (⟨n, -, natural⟩ | ⟨n, rest, value, same, spells⟩)
    · have spells := (isNatural_bare (by simp)).mp natural
      exact absurd rfl spells.not_sign.2
    · exact ⟨n, value, (List.cons.inj same).2 ▸ spells⟩
  · rintro ⟨n, value, spells⟩
    exact .inr ⟨n, digits, value, rfl, spells⟩

/-- Without a minus sign an integer is a natural number. -/
theorem isInteger_unsigned {chars : List Char} {z : Int} (unsigned : ∀ rest, chars ≠ '-' :: rest) :
    IsInteger chars z ↔ ∃ n : Nat, z = n ∧ IsNatural chars n := by
  constructor
  · rintro (natural | ⟨-, rest, -, same, -⟩)
    · exact natural
    · exact absurd same (unsigned rest)
  · exact .inl

/-! ### Numbers within a limit -/

/-- Digits are kept exactly if the number that they spell is within the bound. -/
theorem bounded_eq_some_iff {bound : Nat → Prop} [DecidablePred bound]
    {digits : List Char} {n : Nat} :
    (digits? digits).filter (fun value => decide (bound value)) = some n ↔
      bound n ∧ Spells digits n := by
  rw [Option.filter_eq_some_iff, decide_eq_true_iff, digits?_eq_some_iff, and_comm]

/-- Digits below the limit, taken for an integer, spell a number from zero up to the limit. -/
theorem nonnegative_eq_some_iff {limit : Nat} {digits : List Char} {z : Int} :
    ((digits? digits).filter (· < limit)).map Int.ofNat = some z ↔
      z < limit ∧ ∃ n : Nat, z = n ∧ Spells digits n := by
  simp only [Option.map_eq_some_iff, bounded_eq_some_iff]
  constructor
  · rintro ⟨n, ⟨within, spells⟩, rfl⟩
    exact ⟨Int.ofNat_lt.mpr within, n, rfl, spells⟩
  · rintro ⟨within, n, rfl, spells⟩
    exact ⟨n, ⟨Int.ofNat_lt.mp within, spells⟩, rfl⟩

/-- For a number that is not negative only the upper side of the range counts. -/
theorem within_iff_below {limit : Nat} {z : Int} {spelt : Nat → Prop} :
    (-limit ≤ z ∧ z < limit) ∧ (∃ n : Nat, z = n ∧ spelt n) ↔
      z < limit ∧ ∃ n : Nat, z = n ∧ spelt n := by
  constructor
  · rintro ⟨within, natural⟩
    exact ⟨within.2, natural⟩
  · rintro ⟨below, n, rfl, spells⟩
    exact ⟨⟨by omega, below⟩, n, rfl, spells⟩

/-- A natural number is read exactly from the texts that spell it, if it is below the limit. -/
theorem unsigned?_eq_some_iff {limit n : Nat} {text : String} :
    unsigned? limit text = some n ↔ n < limit ∧ IsNatural text.toList n := by
  unfold unsigned?
  generalize text.toList = chars
  split
  case h_1 digits => rw [bounded_eq_some_iff, isNatural_plus]
  case h_2 bare => rw [bounded_eq_some_iff, isNatural_bare fun rest same => bare rest same]

/-- An integer is read exactly from the texts that spell it, if it is within the limit on its side
of zero. -/
theorem signed?_eq_some_iff {limit : Nat} {z : Int} {text : String} (positive : 0 < limit) :
    signed? limit text = some z ↔ (-limit ≤ z ∧ z < limit) ∧ IsInteger text.toList z := by
  unfold signed?
  generalize text.toList = chars
  split
  case h_1 digits =>
    simp only [Option.map_eq_some_iff, Option.bind_eq_bind, Option.bind_eq_some_iff,
      bounded_eq_some_iff, isInteger_minus]
    constructor
    · rintro ⟨_, ⟨n, ⟨within, spells⟩, ⟨⟩⟩, rfl⟩
      exact ⟨by omega, n, rfl, spells⟩
    · rintro ⟨within, n, rfl, spells⟩
      exact ⟨n, ⟨n, ⟨by omega, spells⟩, rfl⟩, rfl⟩
  case h_2 digits =>
    rw [nonnegative_eq_some_iff, isInteger_unsigned (by simp), within_iff_below]
    simp only [isNatural_plus]
  case h_3 unsigned bare =>
    rw [nonnegative_eq_some_iff, isInteger_unsigned fun rest same => unsigned rest same,
      within_iff_below]
    simp only [isNatural_bare fun rest same => bare rest same]

/-- A truth value is read from its word and from nothing else. -/
theorem truth?_eq_some_iff {text : String} {b : Bool} :
    truth? text = some b ↔ text = toString b := by
  have words : toString true = "true" ∧ toString false = "false" := ⟨rfl, rfl⟩
  unfold truth?
  cases b <;> split <;> simp_all

end KeySweeper.Text.Numeral
