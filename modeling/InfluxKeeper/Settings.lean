import InfluxKeeper.Number.Integer
import InfluxKeeper.Text.Upper

/-!
# Settings

Settings are taken from the environment: where the server is and how to talk to it, how much work is done
at a time, and how much is logged. A token has to be there; all else has a default. Settings are loaded
once and kept until they are reset.

Main statement: `describe_congr` says that the description of the server's settings does not show the
token.
-/

namespace InfluxKeeper

open Text

/-- The variables of an environment. -/
abbrev Environment := List (String × String)

/-- Where the server is and how to talk to it. -/
structure ServerSettings where
  endpoint : String
  token : String
  timeout : Int
  deriving DecidableEq, Repr

/-- How much work is done at a time, and how often. -/
structure WorkSettings where
  maxConcurrent : Int
  maxPasses : Int
  deriving DecidableEq, Repr

/-- All settings. -/
structure Settings where
  server : ServerSettings
  work : WorkSettings
  logLevel : String
  deriving DecidableEq, Repr

/-- Why there are no settings. -/
inductive SettingsFault
  | noToken
  | badNumber (text : String) (fault : IntegerFault)
  deriving DecidableEq, Repr

/-- The wording of a fault. -/
def SettingsFault.message : SettingsFault → String
  | noToken => "INFLUXDB_TOKEN environment variable must be set. InfluxDB API token cannot be empty."
  | badNumber text fault => settingIntegerMessage text fault

/-- The endpoint of a server on this machine. -/
def defaultEndpoint : String := "http://localhost:8086"

/-- A variable of an environment, or the given text. -/
def Environment.getOr (env : Environment) (name other : String) : String :=
  (env.lookup name).getD other

/-- A variable of an environment as a whole number. -/
def Environment.getInteger (env : Environment) (name other : String) : Except SettingsFault Int :=
  let text := env.getOr name other
  (readSettingInteger text).mapError (.badNumber text)

namespace ServerSettings

/-- The settings without any variables. -/
def default : ServerSettings := ⟨defaultEndpoint, "", 30⟩

/-- The settings of an environment. -/
def ofEnvironment (env : Environment) : Except SettingsFault ServerSettings := do
  let token := env.getOr "INFLUXDB_TOKEN" ""
  if token = "" then throw .noToken
  let timeout ← env.getInteger "INFLUXDB_TIMEOUT" "30"
  return ⟨env.getOr "INFLUXDB_ENDPOINT" defaultEndpoint, token, timeout⟩

/-- A description of the settings, without the token. -/
def describe (s : ServerSettings) : String :=
  "InfluxDBConfig(endpoint=" ++ quoted s.endpoint ++ ", timeout=" ++ toString s.timeout ++ ")"

/-- Settings that differ in the token only have one description. -/
theorem describe_congr (s : ServerSettings) (token : String) :
    { s with token }.describe = s.describe := rfl

end ServerSettings

namespace WorkSettings

/-- The settings without any variables. -/
def default : WorkSettings := ⟨5, 5⟩

/-- The settings of an environment. -/
def ofEnvironment (env : Environment) : Except SettingsFault WorkSettings := do
  let maxConcurrent ← env.getInteger "MAX_CONCURRENT_RECONCILES" "5"
  let maxPasses ← env.getInteger "MAX_RECONCILE_PASSES" "5"
  return ⟨maxConcurrent, maxPasses⟩

end WorkSettings

namespace Settings

/-- The settings without any variables. -/
def default : Settings := ⟨.default, .default, "INFO"⟩

/-- The settings of an environment. -/
def ofEnvironment (env : Environment) : Except SettingsFault Settings := do
  let server ← ServerSettings.ofEnvironment env
  let work ← WorkSettings.ofEnvironment env
  return ⟨server, work, toUpper (env.getOr "LOG_LEVEL" "INFO")⟩

end Settings

/-- Settings that were made, with a number of their own. -/
structure Made where
  number : Nat
  settings : Settings
  deriving DecidableEq, Repr

/-- The settings in force, if there are any, and how many were made so far. -/
structure SettingsKeeper where
  current : Option Made
  made : Nat

namespace SettingsKeeper

/-- No settings in force. -/
def empty : SettingsKeeper := ⟨none, 0⟩

/-- Makes settings that are not put in force. -/
def make (k : SettingsKeeper) (s : Settings) : Made × SettingsKeeper :=
  (⟨k.made, s⟩, { k with made := k.made + 1 })

/-- The settings in force; those of the environment are put in force if there are none. -/
def load (env : Environment) (k : SettingsKeeper) : Except SettingsFault (Made × SettingsKeeper) :=
  match k.current with
  | some made => .ok (made, k)
  | none =>
    (Settings.ofEnvironment env).map fun s =>
      let (made, k) := k.make s
      (made, { k with current := some made })

/-- Puts the settings out of force. -/
def reset (k : SettingsKeeper) : SettingsKeeper := { k with current := none }

/-- Settings once loaded stay in force, whatever the environment is later. -/
theorem load_again {env : Environment} {k k' : SettingsKeeper} {made : Made}
    (h : k.load env = .ok (made, k')) (later : Environment) : k'.load later = .ok (made, k') := by
  cases hk : k.current with
  | some m =>
    simp only [load, hk, Except.ok.injEq, Prod.mk.injEq] at h
    obtain ⟨rfl, rfl⟩ := h
    simp [load, hk]
  | none =>
    cases hs : Settings.ofEnvironment env with
    | error e => simp [load, hk, hs, Except.map] at h
    | ok s =>
      simp only [load, hk, hs, Except.map, make, Except.ok.injEq, Prod.mk.injEq] at h
      obtain ⟨rfl, rfl⟩ := h
      simp [load]

end SettingsKeeper

end InfluxKeeper
