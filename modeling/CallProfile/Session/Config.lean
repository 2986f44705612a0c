import CallProfile.Collector
import CallProfile.Failure
import CallProfile.Toml.Reader

namespace CallProfile

structure SessionConfig where
  name : String
  wallClock : Bool
  counters : SortedMap String (List String)
deriving DecidableEq

structure Environment where
  sessionName : Option String
  wallClock : Option String

namespace SessionConfig

def named (name : String) : SessionConfig := ⟨name, true, .empty⟩

/-- A switch as people set it; what is neither on nor off leaves it as it was. -/
def switch (text : Option String) (given : Bool) : Bool :=
  match text with
  | none => given
  | some text =>
    let word := Text.lowercase (Text.trim text)
    if ["1", "true", "yes", "on"].contains word then true
    else if ["0", "false", "no", "off"].contains word then false
    else given

def default (environment : Environment) : SessionConfig :=
  ⟨environment.sessionName.getD "default", switch environment.wallClock true, .empty⟩

def textOf? : Toml.Value → Option String
  | .text content => some content
  | _ => none

def textsOf? : Toml.Value → Option (List String)
  | .list items => items.mapM textOf?
  | _ => none

def countersOf? : Toml.Value → Option (SortedMap String (List String))
  | .table _ entries => do
    return .ofList (← entries.mapM fun entry => do return (entry.1, ← textsOf? entry.2))
  | _ => none

def set? (config : SessionConfig) (name : String) (value : Toml.Value) : Option SessionConfig :=
  match name, value with
  | "name", .text content => some { config with name := content }
  | "name", _ => none
  | "wall_clock", .boolean flag => some { config with wallClock := flag }
  | "wall_clock", _ => none
  | "counters", value => (countersOf? value).map fun counters => { config with counters }
  | _, _ => some config

def read (given : SessionConfig) (text : String) : Except ConfigError SessionConfig :=
  match Toml.read text with
  | none => .error .unreadable
  | some entries =>
    match entries.foldlM (fun config entry => set? config entry.1 entry.2) given with
    | none => .error .unreadable
    | some config => .ok config

def addDevice (plan : CounterPlan) (text : String) (names : List String) : Except ConfigError CounterPlan :=
  match Device.parse text with
  | .error error => .error (.invalidDevice text error)
  | .ok device =>
    if plan.contains device then .error (.repeatedDevice device) else .ok (plan.insert device names)

def plan (config : SessionConfig) : Except ConfigError CounterPlan :=
  config.counters.entries.foldlM (fun plan entry => addDevice plan entry.1 entry.2) .empty

def repeatedFrom? (seen : List String) : List String → Option String
  | [] => none
  | name :: rest => if seen.contains name then some name else repeatedFrom? (name :: seen) rest

def repeated? (names : List String) : Option String := repeatedFrom? [] names

def checkCounters (device : Device) (names : List String) : Except ConfigError Unit :=
  if names.isEmpty then .error (.noCounters device)
  else match repeated? names with
    | some counter => .error (.repeatedCounter counter device)
    | none => .ok ()

def validate (config : SessionConfig) : Except ConfigError Unit := do
  if Text.trim config.name = "" then throw .blankName
  let plan ← config.plan
  plan.entries.forM fun entry => checkCounters entry.1 entry.2
  if !config.wallClock && config.counters.isEmpty then throw .noCollector

def ofToml (environment : Environment) (text : String) : Except ConfigError SessionConfig := do
  let config ← read (default environment) text
  config.validate
  return config

def load {m : Type → Type} [Monad m] (files : Files m) (environment : Environment) (path : String) :
    ExceptT Failure m SessionConfig := do
  let content ← attempting [.readConfig path] .file (← files.read path)
  match String.fromUTF8? content with
  | none => throw ⟨[.readConfig path], .file .notText⟩
  | some text => attempting [.checkConfigFile path] .config (ofToml environment text)

def collectors {σ : Type} (config : SessionConfig) (clock : Clock σ) (backend : Backend σ) (world : σ) :
    Except Failure (List (Collector σ)) := do
  let timers := if config.wallClock then [Collector.ofClock clock] else []
  let plan ← attempting [] .config config.plan
  if plan.isEmpty then return timers
  else
    let hardware ← attempting [] .profile (HardwareCollector.ofPlan backend plan world)
    return timers ++ [.hardware hardware]

end SessionConfig

end CallProfile
