import Mathlib.Algebra.Order.Ring.Int
import Mathlib.Logic.Function.Basic
import KeySweeper.Environment
import KeySweeper.Proofs.Numerals

/-!
# The variables of the configuration

An environment holds bytes, and each field of the configuration has one variable in it. A field
depends on its own variable only: if the bytes are a text and the text is spelt as the type of the
field wants it, the field holds what is spelt, raised to one or replaced if it may not be so small;
otherwise the field holds its default, as if the variable were not set. Rendering a configuration
into its variables and loading it gives it back, for every configuration whose numbers fit the types
of their fields; and every configuration that is loaded is one of these.
-/

namespace KeySweeper

/-- The environment of a process: the bytes of each variable that is set. -/
abbrev RawEnvironment := String → Option (List UInt8)

namespace RawEnvironment

/-- The texts of the variables whose bytes are one. -/
def texts (raw : RawEnvironment) : Environment :=
  fun name => (raw name).bind Environment.textOfBytes

/-- The same environment with one variable removed. -/
def without (raw : RawEnvironment) (name : String) : RawEnvironment := Function.update raw name none

end RawEnvironment

/-- The bytes of a text. -/
def Environment.bytesOfText (text : String) : List UInt8 := text.toByteArray.data.toList

/-- The bytes of a text are a text again, the same one. -/
@[simp]
theorem Environment.textOfBytes_bytesOfText (text : String) :
    textOfBytes (bytesOfText text) = some text := by
  simp [textOfBytes, bytesOfText, String.fromUTF8?, text.isValidUTF8, String.fromUTF8]

namespace Configuration

/-- The configuration that an environment asks for. -/
def load (raw : RawEnvironment) : Configuration := ofEnvironment raw.texts

/-- The configurations whose numbers fit the types of their fields, with something to ask for per
page, some time between two sweeps and something to delete per batch. -/
structure Fits (c : Configuration) : Prop where
  /-- The port has sixteen bits. -/
  port : c.port < 2 ^ 16
  /-- The threshold has sixty-four bits. -/
  minTtl : c.settings.minTtlSeconds < 2 ^ 64
  /-- The page size is positive and has sixty-four bits. -/
  scanCount : 1 ≤ c.scanCount ∧ c.scanCount < 2 ^ 64
  /-- The interval is positive and has sixty-four bits. -/
  interval : 1 ≤ c.interval ∧ c.interval < 2 ^ 64
  /-- The batch size is positive and has sixty-three bits. -/
  batchSize : 1 ≤ c.settings.batchSize ∧ c.settings.batchSize < 2 ^ 63

/-- What a field holds. -/
inductive FieldValue where
  /-- A text. -/
  | text (value : String)
  /-- A number. -/
  | number (value : Int)
  /-- A truth value. -/
  | truth (value : Bool)
deriving DecidableEq, Repr

/-- The text that a value is rendered to. -/
def FieldValue.rendered : FieldValue → String
  | .text value => value
  | .number value => toString value
  | .truth value => toString value

/-- The variables, one for each field. -/
inductive Variable where
  /-- The address of the key-value server. -/
  | serverUrl
  /-- The keys per page. -/
  | scanCount
  /-- The port of the admin interface. -/
  | port
  /-- The pattern of the keys to inspect. -/
  | pattern
  /-- The longest lifetime that is left alone. -/
  | minTtl
  /-- The keys per batch. -/
  | batchSize
  /-- Whether a report is logged. -/
  | report
  /-- The key that marks a running sweep. -/
  | guardKey
  /-- The seconds between two sweeps. -/
  | interval
deriving DecidableEq, Repr

namespace Variable

/-- The name of a variable in the environment. -/
def name : Variable → String
  | serverUrl => "REDIS_URL"
  | scanCount => "REDIS_SCAN_COUNT"
  | port => "SERVER_PORT"
  | pattern => "CLEANER_KEY_PATTERN"
  | minTtl => "CLEANER_MIN_TTL_SECS"
  | batchSize => "CLEANER_BATCH_SIZE"
  | report => "CLEANER_REPORT"
  | guardKey => "CLEANER_GUARD_KEY"
  | interval => "CLEANER_INTERVAL_SECS"

/-- The field of a variable in a configuration. -/
def field (v : Variable) (c : Configuration) : FieldValue :=
  match v with
  | serverUrl => .text c.serverUrl
  | scanCount => .number c.scanCount
  | port => .number c.port
  | pattern => .text c.settings.pattern
  | minTtl => .number c.settings.minTtlSeconds
  | batchSize => .number c.settings.batchSize
  | report => .truth c.settings.report
  | guardKey => .text c.settings.guardKey
  | interval => .number c.interval

/-- A text is spelt as a value of the type of the field: any text is a text, a number is spelt in
decimal digits and is in the range of its type, and a truth value is one of two words. -/
def Spelt (v : Variable) (text : String) (value : FieldValue) : Prop :=
  match v with
  | serverUrl | pattern | guardKey => value = .text text
  | port => ∃ n : Nat, value = .number n ∧ n < 2 ^ 16 ∧ Text.Numeral.IsNatural text.toList n
  | scanCount | minTtl | interval =>
    ∃ n : Nat, value = .number n ∧ n < 2 ^ 64 ∧ Text.Numeral.IsNatural text.toList n
  | batchSize =>
    ∃ z : Int, value = .number z ∧ (-2 ^ 63 ≤ z ∧ z < 2 ^ 63) ∧
      Text.Numeral.IsInteger text.toList z
  | report => ∃ b : Bool, value = .truth b ∧ text = toString b

/-- The variable is set to bytes that are a text, and the text is spelt as its field wants it. -/
def Readable (v : Variable) (raw : RawEnvironment) : Prop :=
  ∃ bytes text value, raw v.name = some bytes ∧ Environment.textOfBytes bytes = some text ∧
    v.Spelt text value

/-- What a field makes of the value that was spelt: the page size and the interval are at least one,
and the default batch size replaces one that is not positive. -/
def settled (v : Variable) (value : FieldValue) : FieldValue :=
  match v, value with
  | scanCount, .number z => .number (max 1 z)
  | interval, .number z => .number (max 1 z)
  | batchSize, .number z => .number (Settings.effectiveBatchSize z)
  | _, other => other

/-- The value read from a text, if the text is spelt as the field wants it. -/
def parse (v : Variable) (text : String) : Option FieldValue :=
  match v with
  | serverUrl | pattern | guardKey => some (.text text)
  | port => (Text.Numeral.unsigned? Text.Numeral.limit16 text).map fun n : Nat => .number n
  | scanCount | minTtl | interval =>
    (Text.Numeral.unsigned? Text.Numeral.limit64 text).map fun n : Nat => .number n
  | batchSize => (Text.Numeral.signed? Text.Numeral.signedLimit64 text).map .number
  | report => (Text.Numeral.truth? text).map .truth

/-- All variables. -/
def all : List Variable :=
  [serverUrl, scanCount, port, pattern, minTtl, batchSize, report, guardKey, interval]

/-- Different variables have different names. -/
theorem name_injective : Function.Injective name := by
  intro v w same
  cases v <;> cases w <;> first | rfl | exact absurd same (by decide)

/-- A value that is read and then wrapped is the wrapping of what is spelt. -/
theorem mapped_eq_some_iff {α : Type} {read : Option α} {wrap : α → FieldValue}
    {spelt : α → Prop} (reads : ∀ a, read = some a ↔ spelt a) {value : FieldValue} :
    read.map wrap = some value ↔ ∃ a, value = wrap a ∧ spelt a := by
  rw [Option.map_eq_some_iff]
  constructor
  · rintro ⟨a, isRead, rfl⟩
    exact ⟨a, rfl, (reads a).mp isRead⟩
  · rintro ⟨a, rfl, isSpelt⟩
    exact ⟨a, (reads a).mpr isSpelt, rfl⟩

/-- What is parsed is what is spelt. -/
theorem parse_eq_some_iff (v : Variable) (text : String) (value : FieldValue) :
    v.parse text = some value ↔ v.Spelt text value := by
  cases v
  case serverUrl | pattern | guardKey =>
    simp only [parse, Spelt, Option.some.injEq, eq_comm]
  case port => exact mapped_eq_some_iff fun _ => Text.Numeral.unsigned?_eq_some_iff
  case scanCount | minTtl | interval =>
    exact mapped_eq_some_iff fun _ => Text.Numeral.unsigned?_eq_some_iff
  case batchSize =>
    exact mapped_eq_some_iff fun _ => Text.Numeral.signed?_eq_some_iff (by decide)
  case report => exact mapped_eq_some_iff fun _ => Text.Numeral.truth?_eq_some_iff

end Variable

/-- A configuration is what its fields hold. -/
theorem eq_of_fields {c d : Configuration} (same : ∀ v : Variable, v.field c = v.field d) :
    c = d := by
  have serverUrl := same .serverUrl
  have scanCount := same .scanCount
  have port := same .port
  have pattern := same .pattern
  have minTtl := same .minTtl
  have batchSize := same .batchSize
  have report := same .report
  have guardKey := same .guardKey
  have interval := same .interval
  simp only [Variable.field, FieldValue.text.injEq, FieldValue.number.injEq,
    FieldValue.truth.injEq, Int.ofNat_inj] at *
  obtain ⟨_, _, _, _, ⟨_, _, _, _, _⟩⟩ := c
  obtain ⟨_, _, _, _, ⟨_, _, _, _, _⟩⟩ := d
  simp_all

/-! ### One field, one variable -/

/-- Reading a variable in the type of its field and wrapping what is read may change places. -/
theorem wrapped_read {α : Type} (env : Environment) (parse : String → Option α) (name : String)
    (default : α) (wrap : α → FieldValue) :
    wrap (env.read parse name default) =
      ((env name).bind fun text => (parse text).map wrap).getD (wrap default) := by
  unfold Environment.read
  cases env name with
  | none => rfl
  | some text => cases parsed : parse text <;> simp [parsed]

/-- Raising a number to one does not depend on whether it is taken for an integer before. -/
theorem FieldValue.number_max (n : Nat) :
    number ((max 1 n : Nat) : Int) = number (max 1 (n : Int)) :=
  congrArg number (by omega)

/-- A field holds the settled value of its variable, or of its default. -/
theorem field_ofEnvironment (env : Environment) (v : Variable) :
    v.field (ofEnvironment env) =
      v.settled (((env v.name).bind v.parse).getD (v.field Configuration.default)) := by
  cases v
  case serverUrl | pattern | guardKey => exact wrapped_read env some _ _ FieldValue.text
  case port | minTtl => exact wrapped_read env _ _ _ fun n : Nat => .number n
  case report => exact wrapped_read env _ _ _ FieldValue.truth
  case batchSize =>
    exact congrArg Variable.batchSize.settled (wrapped_read env _ _ _ FieldValue.number)
  case scanCount =>
    exact (FieldValue.number_max _).trans
      (congrArg Variable.scanCount.settled (wrapped_read env _ _ _ fun n : Nat => .number n))
  case interval =>
    exact (FieldValue.number_max _).trans
      (congrArg Variable.interval.settled (wrapped_read env _ _ _ fun n : Nat => .number n))

/-- The value that a variable is set to, if its bytes are a text that spells one. -/
def Variable.reading (v : Variable) (raw : RawEnvironment) : Option FieldValue :=
  (raw.texts v.name).bind v.parse

/-- A field holds what its variable is set to, once settled, and otherwise its default. -/
theorem field_load (raw : RawEnvironment) (v : Variable) :
    v.field (load raw) = v.settled ((v.reading raw).getD (v.field Configuration.default)) :=
  field_ofEnvironment raw.texts v

/-- Nothing but its own bytes decides what a variable is set to. -/
theorem Variable.reading_congr {v : Variable} {raw raw' : RawEnvironment}
    (same : raw v.name = raw' v.name) : v.reading raw = v.reading raw' := by
  simp only [Variable.reading, RawEnvironment.texts, same]

/-- A variable that is not readable is not set to anything. -/
theorem Variable.reading_eq_none {v : Variable} {raw : RawEnvironment}
    (unreadable : ¬ v.Readable raw) : v.reading raw = none := by
  rw [Option.eq_none_iff_forall_ne_some]
  intro value isRead
  obtain ⟨text, isText, parsed⟩ := Option.bind_eq_some_iff.mp isRead
  obtain ⟨bytes, isSet, decoded⟩ := Option.bind_eq_some_iff.mp isText
  exact unreadable ⟨bytes, text, value, isSet, decoded, (v.parse_eq_some_iff text value).mp parsed⟩

/-- A variable whose bytes are a text is set to what the text spells. -/
theorem Variable.reading_eq_some {v : Variable} {raw : RawEnvironment} {bytes : List UInt8}
    {text : String} {value : FieldValue} (isSet : raw v.name = some bytes)
    (decoded : Environment.textOfBytes bytes = some text) (spelt : v.Spelt text value) :
    v.reading raw = some value := by
  simp only [Variable.reading, RawEnvironment.texts, isSet, Option.bind_some, decoded]
  exact (v.parse_eq_some_iff text value).mpr spelt

/-- A variable is readable if and only if it is set to something. -/
theorem Variable.readable_iff {v : Variable} {raw : RawEnvironment} :
    v.Readable raw ↔ (v.reading raw).isSome := by
  constructor
  · rintro ⟨bytes, text, value, isSet, decoded, spelt⟩
    rw [Variable.reading_eq_some isSet decoded spelt]
    rfl
  · intro isRead
    by_contra unreadable
    rw [Variable.reading_eq_none unreadable] at isRead
    cases isRead

/-- A field depends on its own variable only. -/
theorem field_load_congr {raw raw' : RawEnvironment} {v : Variable}
    (same : raw v.name = raw' v.name) : v.field (load raw) = v.field (load raw') := by
  rw [field_load, field_load, Variable.reading_congr same]

/-- Removing a variable that is not readable changes nothing. -/
theorem load_without {raw : RawEnvironment} {v : Variable} (unreadable : ¬ v.Readable raw) :
    load (raw.without v.name) = load raw := by
  refine eq_of_fields fun w => ?_
  by_cases own : w.name = v.name
  · have removed : ¬ v.Readable (raw.without v.name) := by
      rintro ⟨bytes, -, -, isSet, -⟩
      simp [RawEnvironment.without] at isSet
    obtain rfl := Variable.name_injective own
    rw [field_load, field_load, Variable.reading_eq_none unreadable,
      Variable.reading_eq_none removed]
  · exact field_load_congr (Function.update_of_ne own ..)

/-! ### Configurations that fit their types -/

/-- A positive batch size is used as it is. -/
theorem effectiveBatchSize_natCast {n : Nat} (positive : 1 ≤ n) :
    Settings.effectiveBatchSize n = n := by
  unfold Settings.effectiveBatchSize
  rw [if_neg (by omega), Int.toNat_natCast]

/-- A field of a configuration that fits is settled. -/
theorem Fits.settled {c : Configuration} (fits : c.Fits) (v : Variable) :
    v.settled (v.field c) = v.field c := by
  cases v
  case scanCount =>
    exact congrArg FieldValue.number (Int.max_eq_right (Int.ofNat_le.mpr fits.scanCount.1))
  case interval =>
    exact congrArg FieldValue.number (Int.max_eq_right (Int.ofNat_le.mpr fits.interval.1))
  case batchSize =>
    exact congrArg (fun n : Nat => FieldValue.number n)
      (effectiveBatchSize_natCast fits.batchSize.1)
  all_goals rfl

/-- A number is spelt by its decimal notation. -/
theorem isNatural_rendered (n : Nat) :
    Text.Numeral.IsNatural (FieldValue.number n).rendered.toList n :=
  .inl (Text.Numeral.spells_toString n)

/-- A field of a configuration that fits is spelt by its rendering. -/
theorem Fits.spelt {c : Configuration} (fits : c.Fits) (v : Variable) :
    v.Spelt (v.field c).rendered (v.field c) := by
  cases v
  case serverUrl | pattern | guardKey => rfl
  case port => exact ⟨c.port, rfl, fits.port, isNatural_rendered _⟩
  case minTtl => exact ⟨c.settings.minTtlSeconds, rfl, fits.minTtl, isNatural_rendered _⟩
  case scanCount => exact ⟨c.scanCount, rfl, fits.scanCount.2, isNatural_rendered _⟩
  case interval => exact ⟨c.interval, rfl, fits.interval.2, isNatural_rendered _⟩
  case batchSize =>
    have below := fits.batchSize.2
    exact ⟨c.settings.batchSize, rfl, by omega, .inl ⟨_, rfl, isNatural_rendered _⟩⟩
  case report => exact ⟨c.settings.report, rfl, rfl⟩

/-- A configuration that fits is loaded from its rendering. -/
theorem Fits.load_rendered {c : Configuration} (fits : c.Fits) {raw : RawEnvironment}
    (rendered : ∀ v : Variable,
      raw v.name = some (Environment.bytesOfText (v.field c).rendered)) : load raw = c := by
  refine eq_of_fields fun v => ?_
  rw [field_load, Variable.reading_eq_some (rendered v)
    (Environment.textOfBytes_bytesOfText _) (fits.spelt v)]
  exact fits.settled v

/-- The environment that holds the rendering of each field in its variable, and nothing else. -/
def rendering (c : Configuration) : RawEnvironment := fun name =>
  (Variable.all.find? fun v => v.name = name).map fun v =>
    Environment.bytesOfText (v.field c).rendered

/-- Each variable holds the rendering of its field. -/
theorem rendering_name (c : Configuration) (v : Variable) :
    c.rendering v.name = some (Environment.bytesOfText (v.field c).rendered) := by
  have found : (Variable.all.find? fun w => w.name = v.name) = some v := by
    cases v <;> decide
  rw [rendering, found, Option.map_some]

/-- What holds of every value that is parsed and of the default holds of what is read. -/
theorem read_satisfies {α : Type} {P : α → Prop} (env : Environment) {parse : String → Option α}
    (name : String) {default : α} (ofParsed : ∀ text a, parse text = some a → P a)
    (ofDefault : P default) : P (env.read parse name default) := by
  unfold Environment.read
  cases isRead : (env name).bind parse with
  | none => exact ofDefault
  | some a =>
    obtain ⟨text, -, parsed⟩ := Option.bind_eq_some_iff.mp isRead
    exact ofParsed text a parsed

/-- A natural number that is read is below the limit of its type. -/
theorem read_unsigned_lt (env : Environment) (name : String) {limit default : Nat}
    (below : default < limit) : env.read (Text.Numeral.unsigned? limit) name default < limit :=
  read_satisfies env name (fun _ _ parsed => (Text.Numeral.unsigned?_eq_some_iff.mp parsed).1) below

/-- An environment never leads to a configuration that does not fit. -/
theorem fits_load (raw : RawEnvironment) : (load raw).Fits where
  port := read_unsigned_lt raw.texts _ (by decide)
  minTtl := read_unsigned_lt raw.texts _ (by decide)
  scanCount :=
    ⟨Nat.le_max_left 1 _, Nat.max_lt.mpr ⟨by decide, read_unsigned_lt raw.texts _ (by decide)⟩⟩
  interval :=
    ⟨Nat.le_max_left 1 _, Nat.max_lt.mpr ⟨by decide, read_unsigned_lt raw.texts _ (by decide)⟩⟩
  batchSize := by
    refine ⟨Settings.effectiveBatchSize_pos _, ?_⟩
    refine read_satisfies raw.texts _ (P := fun z => Settings.effectiveBatchSize z < 2 ^ 63)
      (fun _ z parsed => ?_) (by decide)
    have within := ((Text.Numeral.signed?_eq_some_iff (by decide)).mp parsed).1
    simp only [Settings.effectiveBatchSize, Settings.defaultBatchSize,
      Text.Numeral.signedLimit64] at within ⊢
    split <;> omega

/-- Loading is a faithful decoder. A configuration whose numbers fit the types of their fields is
loaded back from any environment that holds the rendering of each field in its variable. A variable
that is not set, is no text or is not spelt as its field wants it might as well be removed. Changing
a variable, whatever its bytes, leaves the field of every other variable as it is, and nothing but
the nine variables counts. Every environment leads to a configuration that fits, in which the page
size, the interval and the batch size are positive. -/
theorem load_faithful :
    (∀ (c : Configuration) (raw : RawEnvironment), c.Fits →
      (∀ v : Variable, raw v.name = some (Environment.bytesOfText (v.field c).rendered)) →
        load raw = c) ∧
      (∀ (raw : RawEnvironment) (v : Variable), ¬ v.Readable raw →
        load raw = load (raw.without v.name)) ∧
      (∀ (raw : RawEnvironment) (v w : Variable) (bytes : Option (List UInt8)), w ≠ v →
        w.field (load (Function.update raw v.name bytes)) = w.field (load raw)) ∧
      (∀ raw raw' : RawEnvironment, (∀ v : Variable, raw v.name = raw' v.name) →
        load raw = load raw') ∧
      ∀ raw : RawEnvironment, (load raw).Fits := by
  refine ⟨fun c raw fits => fits.load_rendered, fun raw v unreadable =>
    (load_without unreadable).symm, ?_, ?_, fits_load⟩
  · intro raw v w bytes other
    have otherName : w.name ≠ v.name := fun same => other (Variable.name_injective same)
    exact field_load_congr (Function.update_of_ne otherName ..)
  · intro raw raw' same
    exact eq_of_fields fun v => field_load_congr (same v)

/-- The largest numbers of each type and texts that are not plain are loaded back; a port that is
one too large might as well be unset; and changing it does not touch the guard key. -/
theorem load_faithful_largest :
    let largest : Configuration :=
      { serverUrl := "", scanCount := 2 ^ 64 - 1, port := 2 ^ 16 - 1, interval := 2 ^ 64 - 1
        settings :=
          { pattern := "[é*]", minTtlSeconds := 2 ^ 64 - 1, batchSize := 2 ^ 63 - 1, report := false
            guardKey := " true" } }
    let tooLarge : RawEnvironment := fun _ => some (Environment.bytesOfText "65536")
    load largest.rendering = largest ∧
      load tooLarge = load (tooLarge.without "SERVER_PORT") ∧
      Variable.guardKey.field (load (Function.update tooLarge "SERVER_PORT" none)) =
        Variable.guardKey.field (load tooLarge) := by
  intro largest tooLarge
  have unreadable : ¬ Variable.port.Readable tooLarge := by
    have outOfRange : Variable.port.parse "65536" = none := by decide
    simp [Variable.readable_iff, Variable.reading, RawEnvironment.texts, tooLarge, outOfRange]
  exact ⟨load_faithful.1 largest largest.rendering
      ⟨by decide, by decide, by decide, by decide, by decide⟩ largest.rendering_name,
    load_faithful.2.1 tooLarge .port unreadable,
    load_faithful.2.2.1 tooLarge .port .guardKey none (by decide)⟩

end Configuration

end KeySweeper
