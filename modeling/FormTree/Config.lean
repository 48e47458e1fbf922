import FormTree.Config.Toml
import FormTree.Config.Filter

set_option autoImplicit false

/-!
# Configuration

Settings of the layout engine, read from a configuration file. A missing file and every missing
setting mean the default.

## Main definitions

* `FormTree.Config` — the settings.
* `FormTree.ConfigError` — why a configuration is refused.
* `FormTree.Config.ofJson?`, `FormTree.Config.toJson` — settings and the values that give them.
* `FormTree.Config.validate` — the checks on a configuration.
* `FormTree.Config.load` — reading a configuration file.
-/

namespace FormTree

/-- Logging settings. -/
structure LoggingConfig where
  /-- Which messages are logged. -/
  filter : String := "info"
  /-- The log file; without one, messages go to the standard error stream. -/
  file : Option String := none
  deriving DecidableEq, Inhabited

/-- Settings of event routing. -/
structure BusConfig where
  /-- How many dispatches are routed at most before control goes back to the caller. -/
  maxDispatchesPerPass : Nat := 10000
  deriving DecidableEq, Inhabited

/-- Settings of reporting. -/
structure ReportingConfig where
  /-- Whether events are reported. -/
  isEnabled : Bool := true
  deriving DecidableEq, Inhabited

/-- The settings of the engine. -/
structure Config where
  logging : LoggingConfig := {}
  bus : BusConfig := {}
  reporting : ReportingConfig := {}
  deriving DecidableEq, Inhabited

/-- Why a configuration is refused. -/
inductive ConfigError where
  /-- The file exists but cannot be read as text. -/
  | unreadable
  /-- The text is malformed, or a setting has the wrong kind of value. -/
  | malformed
  /-- The logging filter is not accepted. -/
  | invalidFilter (filter : String) (flaw : Filter.Flaw)
  /-- No dispatch at all could be routed. -/
  | noDispatches
  deriving DecidableEq, Inhabited

/-- What is wrong with a configuration that was read but not accepted. -/
def ConfigError.message : ConfigError → String
  | .unreadable => "Failed to read config file"
  | .malformed => "Failed to parse config file"
  | .invalidFilter filter _ =>
    "Config validation failed: Invalid logging filter '" ++ filter ++ "'"
  | .noDispatches =>
    "Config validation failed: bus.max_dispatches_per_pass must be greater than zero"

/-! ## Reading settings -/

/-- The settings of one group, by the given names: an object gives them by name, a list by
position. -/
def Json.settings? (names : List String) : Json → Option (List (Option Json))
  | .obj members => some (names.map fun name => members.lookup name)
  | .arr items =>
    if items.length ≤ names.length then
      some (items.map some ++ List.replicate (names.length - items.length) none)
    else none
  | _ => none

namespace Config

/-- The logging settings given by a value. -/
def loggingOfJson? (value : Json) : Option LoggingConfig := do
  let [filter, file] ← value.settings? ["filter", "file"] | none
  let filter ← match filter with
    | none => some "info"
    | some (.str filter) => some filter
    | some _ => none
  let file ← match file with
    | none | some .null => some none
    | some (.str file) => some (some file)
    | some _ => none
  return { filter, file }

/-- The routing settings given by a value. -/
def busOfJson? (value : Json) : Option BusConfig := do
  let [limit] ← value.settings? ["max_dispatches_per_pass"] | none
  match limit with
  | none => return {}
  | some (.int limit) =>
    if 0 ≤ limit ∧ limit.toNat < UInt64.size then
      return { maxDispatchesPerPass := limit.toNat }
    else none
  | some _ => none

/-- The reporting settings given by a value. -/
def reportingOfJson? (value : Json) : Option ReportingConfig := do
  let [isEnabled] ← value.settings? ["enabled"] | none
  match isEnabled with
  | none => return {}
  | some (.bool isEnabled) => return { isEnabled }
  | some _ => none

/-- The settings given by a value. -/
def ofJson? (value : Json) : Option Config := do
  let [logging, bus, reporting] ← value.settings? ["logging", "bus", "reporting"] | none
  let logging ← match logging with
    | none => some {}
    | some value => loggingOfJson? value
  let bus ← match bus with
    | none => some {}
    | some value => busOfJson? value
  let reporting ← match reporting with
    | none => some {}
    | some value => reportingOfJson? value
  return { logging, bus, reporting }

/-- The settings as a value: an object with every setting. -/
def toJson (config : Config) : Json :=
  .object [
    ("logging", .object [("filter", .str config.logging.filter),
      ("file", .ofText? config.logging.file)]),
    ("bus", .object [("max_dispatches_per_pass", .int config.bus.maxDispatchesPerPass)]),
    ("reporting", .object [("enabled", .bool config.reporting.isEnabled)])]

/-! ## Checks -/

/-- The first check that the configuration does not pass. -/
def validate (config : Config) : Except ConfigError Unit :=
  match Filter.check config.logging.filter with
  | .error flaw => .error (.invalidFilter config.logging.filter flaw)
  | .ok () => if config.bus.maxDispatchesPerPass = 0 then .error .noDispatches else .ok ()

/-! ## Files -/

/-- What is found where a configuration file is expected. -/
inductive Source where
  /-- Nothing. -/
  | missing
  /-- Something that cannot be read as text. -/
  | unreadable
  /-- A text. -/
  | text (content : String)
  deriving DecidableEq, Inhabited

/-- Read a configuration file and check it. -/
def load : Source → Except ConfigError Config
  | .missing => .ok {}
  | .unreadable => .error .unreadable
  | .text content =>
    match (Toml.parse? content).bind ofJson? with
    | none => .error .malformed
    | some config => config.validate.map fun _ => config

end Config

end FormTree
