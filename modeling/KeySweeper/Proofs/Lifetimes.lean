import KeySweeper.Proofs.Clearance
import KeySweeper.Proofs.Refinement
import KeySweeper.Server.Sweep

/-!
# Lifetimes as machine words

Between a server and a sweep a lifetime is a machine word at every turn. A lifetime that is set is
cut down to whole milliseconds, which fill more than one word, and one word of them is sent. A
lifetime that is reported is a signed word of milliseconds with two values set apart; it is taken as
an unsigned word, split into seconds and nanoseconds and compared with a threshold in seconds, first
by the seconds and then by the rest.

Each of these operations is written here in words, and shown to be the operation on natural numbers
that stands for it. What is reported is compared without any loss: the test of a sweep is the
comparison of two integers. What is sent is exact as long as the milliseconds fit into a word.
Beyond that it wraps round, and the key is told to live for less.
-/

namespace KeySweeper

open Text.Numeral (limit64 signedLimit64)

/-- A length of time in machine words: whole seconds, and the nanoseconds beyond them. -/
structure Span where
  /-- The whole seconds. -/
  seconds : UInt64
  /-- The nanoseconds beyond the whole seconds. -/
  subsecond : UInt32
  /-- They are fewer than a second has. -/
  valid : subsecond.toNat < Duration.perSecond
deriving DecidableEq, Repr

namespace Span

/-- The length that the words stand for. -/
def length (span : Span) : Duration := .ofParts span.seconds.toNat span.subsecond.toNat

/-- A whole number of seconds. -/
def ofSeconds (seconds : UInt64) : Span := ⟨seconds, 0, by decide⟩

/-- The nanoseconds in a word of milliseconds that are beyond its whole seconds. -/
theorem toNat_subsecond (millis : UInt64) :
    ((millis % 1000).toUInt32 * 1000000).toNat = millis.toNat % 1000 * Duration.perMilli := by
  have few : millis.toNat % 1000 < 1000 := Nat.mod_lt _ (by decide)
  simp only [UInt32.toNat_mul, UInt64.toNat_toUInt32, UInt64.toNat_mod, UInt64.reduceToNat,
    UInt32.reduceToNat, Duration.perMilli]
  omega

/-- A whole number of milliseconds. -/
def ofMillis (millis : UInt64) : Span where
  seconds := millis / 1000
  subsecond := (millis % 1000).toUInt32 * 1000000
  valid := by
    have few : millis.toNat % 1000 < 1000 := Nat.mod_lt _ (by decide)
    rw [toNat_subsecond, Duration.perMilli, Duration.perSecond]
    omega

/-- A length is above a threshold if it has more seconds, or as many and more nanoseconds beyond
them. -/
def exceeds (span threshold : Span) : Bool :=
  if span.seconds = threshold.seconds then decide (threshold.subsecond < span.subsecond)
  else decide (threshold.seconds < span.seconds)

/-- The whole milliseconds of a length, in a word of double size. -/
def millis (span : Span) : BitVec 128 :=
  span.seconds.toBitVec.setWidth 128 * 1000#128 + (span.subsecond / 1000000).toBitVec.setWidth 128

/-- The word that is sent for a length: the lower half of its milliseconds, or one if that is
nothing. -/
def sent (span : Span) : UInt64 := max 1 (.ofBitVec (span.millis.setWidth 64))

/-- A word of seconds stands for that many seconds. -/
theorem length_ofSeconds (seconds : UInt64) :
    (ofSeconds seconds).length = .ofSeconds seconds.toNat :=
  congrArg Duration.mk (Nat.add_zero _)

/-- A word of milliseconds stands for that many milliseconds. -/
theorem length_ofMillis (millis : UInt64) : (ofMillis millis).length = .ofMillis millis.toNat := by
  have split := Nat.div_add_mod millis.toNat 1000
  refine congrArg Duration.mk ?_
  simp only [ofMillis, toNat_subsecond, UInt64.toNat_div, UInt64.reduceToNat, Duration.perMilli,
    Duration.perSecond]
  omega

/-- Comparing the words compares the lengths. -/
theorem exceeds_iff (span threshold : Span) :
    span.exceeds threshold = true ↔ threshold.length < span.length := by
  have below := span.valid
  have under := threshold.valid
  show _ ↔ threshold.seconds.toNat * Duration.perSecond + threshold.subsecond.toNat <
    span.seconds.toNat * Duration.perSecond + span.subsecond.toNat
  rw [Duration.perSecond] at *
  unfold exceeds
  -- The rests are below a second, so they decide only between equal seconds.
  split
  · next same =>
    rw [decide_eq_true_iff, UInt32.lt_iff_toNat_lt, same]
    omega
  · next other =>
    have apart : span.seconds.toNat ≠ threshold.seconds.toNat :=
      fun same => other (UInt64.toNat_inj.mp same)
    rw [decide_eq_true_iff, UInt64.lt_iff_toNat_lt]
    omega

/-- The milliseconds of a length fit into a word of double size. -/
theorem toNat_millis (span : Span) : span.millis.toNat = span.length.millis := by
  -- A word of seconds has fewer than 2 ^ 74 milliseconds, so neither the product nor the sum wraps
  -- round.
  have bounded := span.seconds.toNat_lt
  have valid := span.valid
  simp only [millis, length, Duration.ofParts, Duration.millis, Duration.perMilli,
    Duration.perSecond] at *
  simp
  omega

/-- The word that is sent is the number of the connection. -/
theorem toNat_sent (span : Span) : span.sent.toNat = Connection.sentMillis span.length := by
  simp only [sent, Connection.sentMillis, ← toNat_millis, limit64]
  rw [UInt64.toNat_max]
  simp

end Span

/-- What a reported lifetime says, in machine words. -/
inductive Reading where
  /-- There is no such key. -/
  | missing
  /-- The key has no deadline. -/
  | persistent
  /-- The key expires once this much time has passed. -/
  | expires (left : Span)
deriving DecidableEq, Repr

namespace Reading

/-- Reads a signed word of milliseconds. -/
def ofReply (raw : Int64) : Reading :=
  if raw = -2 then .missing
  else if raw < 0 then .persistent
  else .expires (.ofMillis raw.toUInt64)

/-- The lifetime that the words stand for. -/
def ttl : Reading → Ttl
  | .missing => .missing
  | .persistent => .persistent
  | .expires left => .expires left.length

/-- A lifetime is above a threshold if it has a deadline that is. -/
def outlives (reading : Reading) (threshold : Span) : Bool :=
  match reading with
  | .expires left => left.exceeds threshold
  | _ => false

/-- Reading words reads the integer that they stand for. -/
theorem ttl_ofReply (raw : Int64) : (ofReply raw).ttl = .ofMillis raw.toInt := by
  unfold ofReply Ttl.ofMillis
  by_cases gone : raw = -2
  · subst gone
    rfl
  · have present : raw.toInt ≠ -2 := fun same => gone (Int64.toInt_inj.mp same)
    rw [if_neg gone, if_neg present]
    by_cases negative : raw < 0
    · have below : raw.toInt < 0 := Int64.lt_iff_toInt_lt.mp negative
      rw [if_pos negative, if_pos below]
      rfl
    · have above : ¬raw.toInt < 0 := fun below => negative (Int64.lt_iff_toInt_lt.mpr below)
      rw [if_neg negative, if_neg above]
      refine congrArg Ttl.expires ?_
      rw [Span.length_ofMillis, Int64.toNat_toUInt64_of_le (Int64.not_lt.mp negative)]
      rfl

/-- Testing words tests the lifetime that they stand for. -/
theorem outlives_eq (reading : Reading) (threshold : Span) :
    reading.outlives threshold = reading.ttl.outlives threshold.length := by
  cases reading with
  | missing => rfl
  | persistent => rfl
  | expires left =>
    exact Bool.eq_iff_iff.mpr ((left.exceeds_iff threshold).trans decide_eq_true_iff.symm)

end Reading

/-- A lifetime reported in milliseconds is above a threshold in seconds exactly if the integer
is. -/
theorem Ttl.ofMillis_outlives_iff (reported : Int) (seconds : Nat) :
    (ofMillis reported).outlives (.ofSeconds seconds) = true ↔
      1000 * (seconds : Int) < reported := by
  unfold ofMillis
  split
  · next missing =>
    constructor
    · exact Bool.noConfusion
    · omega
  · split
    · next negative =>
      constructor
      · exact Bool.noConfusion
      · omega
    · next positive =>
      show decide (seconds * Duration.perSecond < reported.toNat * Duration.perMilli) = true ↔ _
      rw [decide_eq_true_iff, Duration.perSecond, Duration.perMilli]
      omega

namespace Connection

/-- Sending a command notes it behind the others, whatever the reply to it is. -/
theorem sent_ask (c : Connection) (name : String) (arguments : List String) :
    (c.ask name arguments).2.sent = c.sent ++ [⟨name, arguments⟩] := by
  unfold ask
  dsimp only
  split
  · rfl
  · split <;> rfl

/-- A lifetime is sent as its whole milliseconds, or as one if it has none, exactly if they fit into
a word. -/
theorem sentMillis_eq_iff (ttl : Duration) :
    sentMillis ttl = max 1 ttl.millis ↔ ttl.millis < limit64 := by
  have wrapped : ttl.millis % limit64 < limit64 := Nat.mod_lt _ (by decide)
  unfold sentMillis
  constructor
  · intro same
    have positive : 1 < limit64 := by decide
    omega
  · intro fits
    rw [Nat.mod_eq_of_lt fits]

/-- What is sent is less than a millisecond below the lifetime exactly if its milliseconds fit into
a word. -/
theorem lt_ofMillis_sentMillis_iff (ttl : Duration) :
    ttl < .ofMillis (sentMillis ttl + 1) ↔ ttl.millis < limit64 := by
  show ttl.nanos < (sentMillis ttl + 1) * Duration.perMilli ↔ _
  rw [← Nat.div_lt_iff_lt_mul (by decide)]
  show ttl.millis < sentMillis ttl + 1 ↔ _
  have wrapped : ttl.millis % limit64 < limit64 := Nat.mod_lt _ (by decide)
  constructor
  · intro close
    by_contra large
    -- At least one full word of milliseconds is cut off.
    have less : ttl.millis % limit64 + limit64 ≤ ttl.millis := by
      have split := Nat.div_add_mod ttl.millis limit64
      have whole : 1 ≤ ttl.millis / limit64 :=
        (Nat.one_le_div_iff (by decide)).mpr (Nat.not_lt.mp large)
      have most : limit64 * 1 ≤ limit64 * (ttl.millis / limit64) :=
        Nat.mul_le_mul_left limit64 whole
      omega
    have two : 2 ≤ limit64 := by decide
    unfold sentMillis at close
    omega
  · intro fits
    rw [(sentMillis_eq_iff ttl).mpr fits]
    omega

/-- Of two lifetimes whose milliseconds fit into a word the longer one is not sent as less. -/
theorem sentMillis_mono {ttl longer : Duration} (ordered : ttl ≤ longer)
    (fits : longer.millis < limit64) :
    sentMillis ttl ≤ sentMillis longer := by
  have less : ttl.millis ≤ longer.millis := Nat.div_le_div_right ordered
  rw [(sentMillis_eq_iff longer).mpr fits, (sentMillis_eq_iff ttl).mpr
    (Nat.lt_of_le_of_lt less fits)]
  omega

/-- What is sent for a lifetime of a millisecond or more, reported as it was sent, is read as the
lifetime without the part of a millisecond exactly if its milliseconds fit into a word. -/
theorem ofMillis_sentMillis_iff {ttl : Duration} (positive : 0 < ttl.millis) :
    Ttl.ofMillis (sentMillis ttl) = .expires (.ofMillis ttl.millis) ↔ ttl.millis < limit64 := by
  have read : Ttl.ofMillis (sentMillis ttl) = .expires (.ofMillis (sentMillis ttl)) := by
    unfold Ttl.ofMillis
    rw [if_neg (by omega), if_neg (by omega), Int.toNat_natCast]
  rw [read, ← sentMillis_eq_iff]
  constructor
  · intro same
    have equal := congrArg Duration.nanos (Ttl.expires.inj same)
    have millis : sentMillis ttl = ttl.millis := Nat.eq_of_mul_eq_mul_right (by decide) equal
    omega
  · intro same
    rw [same, Nat.max_eq_right positive]

/-- A word that fits into a signed word is the same number there. -/
theorem toInt_toInt64 {word : UInt64} (fits : word.toNat < signedLimit64) :
    word.toInt64.toInt = word.toNat := by
  rw [signedLimit64] at fits
  refine BitVec.toInt_eq_toNat_of_lt ?_
  show 2 * word.toNat < _
  omega

/-- What is to be said of the number that is sent when a value is stored with a lifetime. -/
structure SendsLifetime (c : Connection) (key value : String) (ttl : Span) : Prop where
  /-- One command is sent, with the word of the lifetime as a number, which is never nothing. -/
  command : (c.set key value (some ttl.length)).2.sent =
    c.sent ++ [⟨"SET", [key, value, "PX", toString ttl.sent.toNat]⟩] ∧ 1 ≤ ttl.sent.toNat
  /-- The number is that of the whole milliseconds, or one, exactly if they fit into a word. -/
  whole : ttl.sent.toNat = max 1 ttl.length.millis ↔ ttl.length.millis < limit64
  /-- It is less than a millisecond below the lifetime exactly if they do. -/
  close : ttl.length < .ofMillis (ttl.sent.toNat + 1) ↔ ttl.length.millis < limit64
  /-- A longer lifetime is not sent as less if its milliseconds fit. -/
  monotone : ∀ longer : Span, ttl.length ≤ longer.length → longer.length.millis < limit64 →
    ttl.sent.toNat ≤ longer.sent.toNat
  /-- Reported as a signed word, a number that is no more than such a word holds is read as the
  lifetime without its part of a millisecond exactly if the milliseconds fit. -/
  back : 0 < ttl.length.millis → ttl.sent.toNat < signedLimit64 →
    ((Reading.ofReply ttl.sent.toInt64).ttl = .expires (.ofMillis ttl.length.millis) ↔
      ttl.length.millis < limit64)

/-- A lifetime is sent unshortened exactly if its milliseconds fit into a word. For every key, every
value and every length of time that a machine holds, storing the value sends one number for its
lifetime. Below the bound of a word of milliseconds this is the number of whole milliseconds, or one
if there is none, so it is less than a millisecond below the lifetime, it grows with the lifetime,
and it is read back as what it was. From the bound on the number has wrapped round: it is below the
lifetime by a millisecond or more, and it is read back as something else. -/
theorem lifetime_sent (c : Connection) (key value : String) (ttl : Span) :
    SendsLifetime c key value ttl := by
  have word := ttl.toNat_sent
  constructor
  case command =>
    refine ⟨?_, ?_⟩
    · rw [word]
      exact sent_ask c "SET" (setArguments key value (some ttl.length))
    · rw [word]
      exact Nat.le_max_left ..
  case whole =>
    rw [word]
    exact sentMillis_eq_iff ttl.length
  case close =>
    rw [word]
    exact lt_ofMillis_sentMillis_iff ttl.length
  case monotone =>
    intro longer ordered fits
    rw [word, longer.toNat_sent]
    exact sentMillis_mono ordered fits
  case back =>
    intro positive small
    rw [Reading.ttl_ofReply, toInt_toInt64 small, word]
    exact ofMillis_sentMillis_iff positive

/-- A lifetime of 384 milliseconds more than a word holds. -/
def beyondWord : Span := .ofSeconds 18446744073709552

/-- Of that lifetime only what is beyond the word is sent. -/
theorem lifetime_sent_wrapped :
    ((⟨[("SET", [.status "OK"])], []⟩ : Connection).set "k" "v" (some beyondWord.length)).2.sent =
        [⟨"SET", ["k", "v", "PX", "384"]⟩] ∧
      max 1 beyondWord.length.millis = 18446744073709552000 := by
  decide +kernel

end Connection

namespace Sweep

open Ledger

/-- What an inspection brings to the filter, if the server replies with this word or fails. -/
def inspection (reply : Except ServerError Int64) : Answer Ttl :=
  ServerSweep.answerOf (reply.map fun raw => .ofMillis raw.toInt)

/-- The keys whose reply is above a threshold of so many seconds. -/
def deletable (seconds : UInt64) (replies : List (String × Except ServerError Int64)) :
    List String :=
  replies.filterMap fun
    | (key, .ok raw) => if 1000 * (seconds.toNat : Int) < raw.toInt then some key else none
    | (_, .error _) => none

/-- The keys that are cleared are those whose reply is above the threshold. -/
theorem cleared_eq_deletable {s : Settings} {seconds : UInt64}
    (configured : s.minTtlSeconds = seconds.toNat) {h : List StoreEvent}
    {replies : List (String × Except ServerError Int64)}
    (replied : inspections h = replies.map fun item => (item.1, inspection item.2)) :
    cleared s.minTtl h = deletable seconds replies := by
  rw [cleared_eq_filter, replied, List.filter_map, List.map_map, deletable, ← List.filterMap_eq_map,
    List.filterMap_filter]
  congr 1
  funext item
  obtain ⟨key, reply⟩ := item
  cases reply with
  | error cause => rfl
  | ok raw =>
    have test := Ttl.ofMillis_outlives_iff raw.toInt seconds.toNat
    rw [← configured] at test ⊢
    show (if (Ttl.ofMillis raw.toInt).outlives s.minTtl = true then some key else none) =
      if 1000 * (s.minTtlSeconds : Int) < raw.toInt then some key else none
    exact if_congr test rfl rfl

/-- What is to be said of the test that decides which keys are deleted, with a threshold of so many
seconds. -/
structure DecidesExactly (s : Settings) (seconds : UInt64) : Prop where
  /-- In machine words: what is read from a reply is above the threshold exactly if the integers
  are. -/
  words : ∀ raw : Int64,
    (Reading.ofReply raw).outlives (.ofSeconds seconds) = true ↔
      1000 * (seconds.toNat : Int) < raw.toInt
  /-- A reply of the server is read as the integer that it is. -/
  replied : ∀ (c : Connection) (plan : ReplyPlan) (key : String) (raw : Int64),
    c.plan.take? "PTTL" = some (.number raw.toInt, plan) → (c.ttl key).1 = .ok (.ofMillis raw.toInt)
  /-- The filter lets a key pass exactly if its reply is above the threshold. -/
  filter : ∀ (key : String) (raw : Int64), Filter.afterAnswer s.minTtl key (inspection (.ok raw)) =
    if 1000 * (seconds.toNat : Int) < raw.toInt then .offering key else .waiting
  /-- In every execution of a sweep the keys handed over are the first ones whose reply is above the
  threshold, and they are all of these once the stages are over, if none has crashed. -/
  sweeps : ∀ flag moves sweep log replies, run? s (.claimed flag) moves = some (sweep, log) →
    inspections (stageCalls log) = replies.map (fun item => (item.1, inspection item.2)) →
    handedOver (stageCalls log) <+: deletable seconds replies ∧
      ((∀ stage, sweep.work.crash? stage = none) → sweep.IsQuiet →
        handedOver (stageCalls log) = deletable seconds replies)

/-- The test of lifetimes is a comparison of integers. Whatever signed word the server replies with,
and whatever word of seconds the threshold is set to, a key is deleted exactly if the reply is more
than a thousand times the threshold. So it is for the words that the machine compares, for what is
read from the reply, for the filter, and for the keys that a sweep hands over. No negative reply is
above a threshold, whether it is set apart or not; a threshold whose milliseconds do not fit into a
word is above every reply; and a single millisecond decides. -/
theorem lifetime_test_exact {s : Settings} {seconds : UInt64}
    (configured : s.minTtlSeconds = seconds.toNat) :
    DecidesExactly s seconds := by
  have test (raw : Int64) :
      (Ttl.ofMillis raw.toInt).outlives s.minTtl = true ↔
        1000 * (seconds.toNat : Int) < raw.toInt := by
    rw [← configured]
    exact Ttl.ofMillis_outlives_iff raw.toInt s.minTtlSeconds
  constructor
  case words =>
    intro raw
    rw [Reading.outlives_eq, Reading.ttl_ofReply, Span.length_ofSeconds]
    exact Ttl.ofMillis_outlives_iff raw.toInt seconds.toNat
  case replied =>
    intro c plan key raw laid
    simp [Connection.ttl, Connection.askFor, Connection.ask, laid, ServerReply.error?,
      ServerReply.signed, Except.bind, Except.map]
  case filter =>
    intro key raw
    exact if_congr (test raw) rfl rfl
  case sweeps =>
    intro flag moves sweep log replies ran replied
    have same := cleared_eq_deletable configured replied
    have submitted : handedOver (stageCalls log) <+: cleared s.minTtl (stageCalls log) :=
      (List.prefix_append ..).trans (submitting_cleared ran).2
    refine ⟨same ▸ submitted, fun sound quiet => ?_⟩
    rw [handed_over_along ran sound quiet, same]

/-- A sweep that finds two keys: one lives for ten seconds, the other for a millisecond more. -/
def twoLifetimes : List Move :=
  [.begin, .guardChecked (.value false), .guardMarked (.value ())] ++
    [.scanned (.value (some "a")), .offerCandidate, .takeCandidate,
      .inspected (inspection (.ok 10000)),
      .scanned (.value (some "b")), .offerCandidate, .takeCandidate,
      .inspected (inspection (.ok 10001)), .offerMatch,
      .scanned (.value none), .takeCandidate, .takeMatch, .takeMatch,
      .deleted (.value 1)].map .stage

/-- With a threshold of ten seconds only the other key is deleted. -/
theorem lifetime_test_exact_boundary : DecidesExactly (.ofPattern "*" 10) 10 ∧ ∃ sweep log,
    run? (.ofPattern "*" 10) (.claimed false) twoLifetimes = some (sweep, log) ∧ sweep.IsQuiet ∧
      handedOver (stageCalls log) = ["b"] := by
  have exact : DecidesExactly (.ofPattern "*" 10) 10 := lifetime_test_exact rfl
  refine ⟨exact, _, _, rfl, ?_, ?_⟩
  · rintro p same stage
    obtain rfl := Work.running.inj same
    cases stage <;> rfl
  · have swept := exact.sweeps false twoLifetimes _ _ [("a", .ok 10000), ("b", .ok 10001)] rfl rfl
    refine (swept.2 ?_ ?_).trans ?_
    · intro stage
      cases stage <;> rfl
    · rintro p same stage
      obtain rfl := Work.running.inj same
      cases stage <;> rfl
    · decide

end Sweep

end KeySweeper
