import VolumeSync.Failure
import VolumeSync.Text.Blank
import VolumeSync.Text.Decimal
import VolumeSync.Url
import VolumeSync.Word

-- The configuration of the watcher, read from named variables. The ceiling
-- is looked at first, then the variables that have to be set, and last the
-- rules that every value has to keep. The first kind of trouble that is
-- found is the one that is reported.

namespace VolumeSync

/-! ## Variables -/

/-- What the surroundings say of a variable. -/
abbrev Lookup := String → Option String

namespace Variable

/-- The driver whose volumes are managed. -/
def provisionerName : String := "PVWATCHER_PROVISIONER_NAME"

/-- The type of the driver's volumes. -/
def volumeType : String := "PVWATCHER_VOLUME_TYPE"

/-- The kind of provider. -/
def providerType : String := "PVWATCHER_PROVIDER_TYPE"

/-- Where the provider is reached. -/
def providerUrl : String := "PVWATCHER_PROVIDER_URL"

/-- What the provider is shown to be let in. -/
def providerToken : String := "PVWATCHER_PROVIDER_TOKEN"

/-- The ceiling on tasks that run at once. -/
def maxConcurrentTasks : String := "PVWATCHER_MAX_CONCURRENT_TASKS"

/-- The name under which events are reported. -/
def podName : String := "POD_NAME"

/-- How much is logged. -/
def logLevel : String := "PVWATCHER_LOG_LEVEL"

end Variable

/-! ## The configuration -/

/-- A configuration. Without a ceiling any number of tasks may run. -/
structure Config where
  provisionerName : String
  volumeType : String
  providerType : String
  providerUrl : String
  providerToken : Option String
  maxConcurrentTasks : Option Nat
  podName : Option String
  logLevel : String
  deriving DecidableEq, Repr

/-- A rule that a configuration may break. -/
inductive Flaw where
  | ceilingZero
  | providerTypeEmpty
  | providerUrlMalformed
  | provisionerNameEmpty
  | volumeTypeEmpty
  deriving DecidableEq, Repr

namespace Flaw

/-- The setting that the rule is about. -/
def setting : Flaw → String
  | .ceilingZero => "max_concurrent_tasks"
  | .providerTypeEmpty => "provider_type"
  | .providerUrlMalformed => "provider_url"
  | .provisionerNameEmpty => "provisioner_name"
  | .volumeTypeEmpty => "volume_type"

/-- The name of the rule. -/
def rule : Flaw → String
  | .ceilingZero => "range"
  | .providerUrlMalformed => "url"
  | .providerTypeEmpty | .provisionerNameEmpty | .volumeTypeEmpty => "length"

end Flaw

/-- Why there is no configuration. -/
inductive Refusal where
  | ceilingUnreadable (reason : Text.NumberError)
  | missing (name : String)
  | invalid (flaws : List Flaw)
  deriving DecidableEq, Repr

/-- The refusal as an error of the watcher. Broken rules are told by their
names only. -/
def Refusal.error? : Refusal → Option WatcherError
  | .ceilingUnreadable reason =>
    some (.config
      (Variable.maxConcurrentTasks ++ " must be a positive integer: " ++ reason.message))
  | .missing name => some (.config ("missing required variable " ++ name))
  | .invalid _ => none

namespace Config

/-- The kind of provider, unless another one is set. -/
def defaultProviderType : String := "vpc-classic"

/-- How much is logged, unless something else is set. -/
def defaultLogLevel : String := "info"

/-! ## Reading -/

/-- The numbers that a ceiling may be written as lie below this one. -/
def ceilingBound : Nat := wordCount 64

/-- Reads the ceiling. A blank one is no ceiling. -/
def ceiling (lookup : Lookup) : Except Refusal (Option Nat) :=
  match (lookup Variable.maxConcurrentTasks).map fun raw => Text.trimChars raw.toList with
  | none => .ok none
  | some [] => .ok none
  | some cs =>
    match Text.readBelow ceilingBound cs with
    | .ok n => .ok (some n)
    | .error reason => .error (.ceilingUnreadable reason)

/-- Reads a variable that has to be set to more than blanks. -/
def required (lookup : Lookup) (name : String) : Except Refusal String :=
  match (lookup name).map Text.trim with
  | none => .error (.missing name)
  | some "" => .error (.missing name)
  | some value => .ok value

/-- Reads a variable that counts as not set when it is empty. -/
def nonempty? (lookup : Lookup) (name : String) : Option String :=
  (lookup name).filter (· ≠ "")

/-- Reads every variable, without looking at the rules. -/
def read (lookup : Lookup) : Except Refusal Config := do
  let maxConcurrentTasks ← ceiling lookup
  let provisionerName ← required lookup Variable.provisionerName
  let volumeType ← required lookup Variable.volumeType
  let providerUrl ← required lookup Variable.providerUrl
  return {
    provisionerName, volumeType, providerUrl, maxConcurrentTasks
    providerType := (lookup Variable.providerType).getD defaultProviderType
    providerToken := nonempty? lookup Variable.providerToken
    podName := nonempty? lookup Variable.podName
    logLevel := (lookup Variable.logLevel).getD defaultLogLevel }

/-! ## Rules -/

/-- The configuration breaks the rule. -/
def breaks (c : Config) : Flaw → Bool
  | .ceilingZero => c.maxConcurrentTasks == some 0
  | .providerTypeEmpty => c.providerType.isEmpty
  | .providerUrlMalformed => !Url.isUrl c.providerUrl
  | .provisionerNameEmpty => c.provisionerName.isEmpty
  | .volumeTypeEmpty => c.volumeType.isEmpty

/-- All rules, in the order of the settings' names. -/
def rules : List Flaw :=
  [.ceilingZero, .providerTypeEmpty, .providerUrlMalformed, .provisionerNameEmpty, .volumeTypeEmpty]

/-- The rules that the configuration breaks, in the order of the settings'
names. -/
def flaws (c : Config) : List Flaw := rules.filter c.breaks

/-- The configuration that the variables make, or why they make none. -/
def ofLookup (lookup : Lookup) : Except Refusal Config := do
  let config ← read lookup
  if config.flaws.isEmpty then return config else throw (.invalid config.flaws)

end Config

end VolumeSync
