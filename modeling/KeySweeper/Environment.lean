import KeySweeper.Settings
import KeySweeper.Text.Numeral

/-!
# Configuration from environment variables

The service is configured by nine variables. A variable that is unset, that is no text, or that
cannot be read in the type of its field leaves the default of that field in place; no variable can
make the service fail to start. The number of keys asked for per page and the interval between
sweeps are raised to one if they are zero.
-/

namespace KeySweeper

/-- The configuration of the service. -/
structure Configuration where
  /-- The address of the key-value server. -/
  serverUrl : String
  /-- How many keys a page of a scan is asked to hold. -/
  scanCount : Nat
  /-- The port of the admin interface. -/
  port : Nat
  /-- Seconds between two scheduled sweeps. -/
  interval : Nat
  /-- The settings of the sweeper. -/
  settings : Settings
deriving DecidableEq, Repr

/-- An environment: the text of each variable that is set to one. -/
abbrev Environment := String → Option String

namespace Environment

/-- The environment given by a list of variables; the first entry of a name counts. -/
def ofList (assignments : List (String × String)) : Environment :=
  fun name => List.lookup name assignments

/-- The bytes of a variable as a text, if they are one. -/
def textOfBytes (bytes : List UInt8) : Option String := String.fromUTF8? ⟨bytes.toArray⟩

/-- The value of a variable in the type of its field, or the default. -/
def read {α : Type} (env : Environment) (parse : String → Option α) (name : String)
    (default : α) : α :=
  ((env name).bind parse).getD default

end Environment

namespace Configuration

/-- The number of keys that a page of a scan is asked to hold unless configured otherwise. -/
def defaultScanCount : Nat := 100

/-- The configuration of an empty environment. -/
def default : Configuration where
  serverUrl := "redis://127.0.0.1:6379"
  scanCount := defaultScanCount
  port := 3000
  interval := 3600
  settings := { Settings.ofPattern "*" 86400 with report := true }

/-- Reads the configuration from the environment. -/
def ofEnvironment (env : Environment) : Configuration where
  serverUrl := env.read some "REDIS_URL" default.serverUrl
  scanCount :=
    max 1 (env.read (Text.Numeral.unsigned? Text.Numeral.limit64) "REDIS_SCAN_COUNT"
      default.scanCount)
  port := env.read (Text.Numeral.unsigned? Text.Numeral.limit16) "SERVER_PORT" default.port
  interval :=
    max 1 (env.read (Text.Numeral.unsigned? Text.Numeral.limit64) "CLEANER_INTERVAL_SECS"
      default.interval)
  settings :=
    Settings.batching
      { pattern := env.read some "CLEANER_KEY_PATTERN" default.settings.pattern
        minTtlSeconds :=
          env.read (Text.Numeral.unsigned? Text.Numeral.limit64) "CLEANER_MIN_TTL_SECS"
            default.settings.minTtlSeconds
        batchSize := default.settings.batchSize
        report := env.read Text.Numeral.truth? "CLEANER_REPORT" default.settings.report
        guardKey := env.read some "CLEANER_GUARD_KEY" default.settings.guardKey }
      (env.read (Text.Numeral.signed? Text.Numeral.signedLimit64) "CLEANER_BATCH_SIZE"
        (Int.ofNat default.settings.batchSize))

end Configuration

end KeySweeper
