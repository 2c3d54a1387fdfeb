import LinkLocal.Config
import LinkLocal.Notice

/-!
The settings of the daemon, which come from environment variables. Reading them checks only that
numbers are numbers; checking them then reports everything that the engine would reject, so that
nothing starts with settings that cannot work.
-/
namespace LinkLocal.Daemon

/-! ## Variables -/

/-- The environment variables that the daemon knows. -/
inductive Variable where
  | ifindex
  | linkAddress
  | enumeration
  | timeout
  | requestedAddress
  | conflictPolicy
  | backend
  | contenders
  | restartDelay
  | logLevel
  deriving DecidableEq, Repr

def Variable.all : List Variable :=
  [.ifindex, .linkAddress, .enumeration, .timeout, .requestedAddress, .conflictPolicy, .backend,
    .contenders, .restartDelay, .logLevel]

def Variable.name : Variable → String
  | .ifindex => "IPV4LL_IFINDEX"
  | .linkAddress => "IPV4LL_LINK_ADDRESS"
  | .enumeration => "IPV4LL_ENUMERATION"
  | .timeout => "IPV4LL_TIMEOUT_MSEC"
  | .requestedAddress => "IPV4LL_REQUESTED_ADDRESS"
  | .conflictPolicy => "IPV4LL_CONFLICT_POLICY"
  | .backend => "IPV4LL_ACD_BACKEND"
  | .contenders => "IPV4LL_SIM_CONTENDERS"
  | .restartDelay => "IPV4LL_RESTART_DELAY_SECS"
  | .logLevel => "IPV4LL_LOG_LEVEL"

/-- The values of the variables that are set. -/
abbrev Environment := Variable → Option String

/-! ## Faults -/

/-- Why the daemon cannot start or go on. -/
inductive Fault where
  | noLinkAddress
  | notNumber (v : Variable) (value : String) (cause : Text.NumeralFault)
  | ifindexZero
  | timeoutRange (value : UInt64)
  | unknownBackend (name : String)
  | contendersRange (value : UInt64)
  | restartDelayRange (value : UInt64)
  | unknownLevel (name : String)
  | linkAddress (value : String) (cause : InvalidArgument)
  | conflictPolicy (value : String) (cause : InvalidArgument)
  | requestedAddress (value : String)
  | rejected (cause : InvalidArgument)
  | creation (backend : String) (cause : Error)
  | engine (cause : Error)
  deriving DecidableEq, Repr

def supportedBackends : List String := ["sim"]

/-- The wording of a fault: its own words, then those of its causes. -/
def Fault.text : Fault → String
  | .noLinkAddress =>
    "IPV4LL_LINK_ADDRESS is required. Set it via: export IPV4LL_LINK_ADDRESS=02:00:5e:10:00:01"
  | .notNumber v value cause => s!"{v.name} '{value}' is not valid: {cause.text}"
  | .ifindexZero => "IPV4LL_IFINDEX must be a positive interface index"
  | .timeoutRange value => s!"IPV4LL_TIMEOUT_MSEC must be between 10 and 60000. Got: {value}"
  | .unknownBackend name =>
    let supported := String.intercalate ", " supportedBackends
    s!"IPV4LL_ACD_BACKEND '{name}' is not supported. Supported backends: {supported}"
  | .contendersRange value => s!"IPV4LL_SIM_CONTENDERS must be between 0 and 64. Got: {value}"
  | .restartDelayRange value =>
    s!"IPV4LL_RESTART_DELAY_SECS must be between 1 and 300 seconds. Got: {value}"
  | .unknownLevel name =>
    let levels := String.intercalate ", " (Level.all.map Level.name)
    s!"IPV4LL_LOG_LEVEL '{name}' is not valid. Valid levels: {levels}"
  | .linkAddress value cause =>
    s!"IPV4LL_LINK_ADDRESS '{value}' is not valid: {(Error.invalidArgument cause).chain}"
  | .conflictPolicy value cause =>
    s!"IPV4LL_CONFLICT_POLICY '{value}' is not valid. Valid policies: reselect, stop: " ++
      (Error.invalidArgument cause).chain
  | .requestedAddress value =>
    s!"IPV4LL_REQUESTED_ADDRESS '{value}' is not valid: {IPv4.syntaxFault}"
  | .rejected cause => s!"engine configuration rejected: {(Error.invalidArgument cause).chain}"
  | .creation backend cause => s!"Failed to create '{backend}' ACD engine: {cause.chain}"
  | .engine cause => cause.chain

/-! ## Settings -/

/-- The settings of the daemon. -/
structure Settings where
  /-- The interface index. -/
  ifindex : UInt32
  /-- The hardware address, as it was given. -/
  linkAddress : String
  /-- The seed of the candidate sequence, if it is not to come from the hardware address. -/
  enumeration : Option UInt64
  /-- The length of a probe in milliseconds. -/
  timeoutMsec : UInt64
  /-- The address to try first, as it was given. -/
  requestedAddress : Option String
  /-- What to do after a lost address, as it was given. -/
  conflictPolicy : String
  /-- The name of the backend. -/
  backend : String
  /-- How many simulated hosts hold the first candidates. -/
  contenders : UInt64
  /-- The delay before a stopped engine is started again, in seconds. -/
  restartDelaySecs : UInt64
  /-- The least important level to report, as it was given. -/
  logLevel : String
  deriving DecidableEq, Repr

/-- Reads a variable that is a number of at most `bound`, if it is set. Blanks around the number do
not count. -/
def readNumber (env : Environment) (v : Variable) (bound : Nat) : Except Fault (Option Nat) :=
  match env v with
  | none => .ok none
  | some value =>
    match Text.readNumeral 10 bound (Text.trimBlanks value.toList) with
    | .ok n => .ok (some n)
    | .error cause => .error (.notNumber v value cause)

def max32 : Nat := Nat.pow 2 32 - 1

def max64 : Nat := Nat.pow 2 64 - 1

namespace Settings

/-- Reads the settings from the environment, variable by variable. -/
def ofEnvironment (env : Environment) : Except Fault Settings := do
  let ifindex ← readNumber env .ifindex max32
  let linkAddress ← match env .linkAddress with
    | some value => .ok value
    | none => .error .noLinkAddress
  let enumeration ← readNumber env .enumeration max64
  let timeout ← readNumber env .timeout max64
  let contenders ← readNumber env .contenders max64
  let restartDelay ← readNumber env .restartDelay max64
  return {
    ifindex := UInt32.ofNat (ifindex.getD 1)
    linkAddress
    enumeration := enumeration.map UInt64.ofNat
    timeoutMsec := UInt64.ofNat (timeout.getD 9000)
    requestedAddress := (env .requestedAddress).filter (! ·.isEmpty)
    conflictPolicy := (env .conflictPolicy).getD "reselect"
    backend := (env .backend).getD "sim"
    contenders := UInt64.ofNat (contenders.getD 0)
    restartDelaySecs := UInt64.ofNat (restartDelay.getD 5)
    logLevel := (env .logLevel).getD "info" }

/-- The least important level to report, if the setting names one. -/
def level? (s : Settings) : Option Level :=
  let name := Text.lowercase s.logLevel
  Level.all.find? (·.name == name)

def engineConfig (s : Settings) : Except Fault Config := do
  let linkAddress ← (LinkAddress.ofText s.linkAddress).mapError (.linkAddress s.linkAddress)
  let policy ← (ConflictPolicy.ofText s.conflictPolicy).mapError (.conflictPolicy s.conflictPolicy)
  let requested ← match s.requestedAddress with
    | none => .ok none
    | some value =>
      match IPv4.ofText? value with
      | some a => .ok (some a)
      | none => .error (.requestedAddress value)
  let config : Config := {
    ifindex := s.ifindex
    linkAddress
    enumeration := s.enumeration.getD linkAddress.seed
    timeoutMsec := s.timeoutMsec
    requestedAddress := requested
    conflictPolicy := policy }
  config.validate.mapError .rejected
  return config

/-- Checks the settings: ranges and names in a fixed order, and last what the engine demands. -/
def validate (s : Settings) : Except Fault Unit := do
  if s.ifindex = 0 then throw .ifindexZero
  unless 10 ≤ s.timeoutMsec ∧ s.timeoutMsec ≤ 60000 do throw (.timeoutRange s.timeoutMsec)
  unless s.backend ∈ supportedBackends do throw (.unknownBackend s.backend)
  unless s.contenders ≤ 64 do throw (.contendersRange s.contenders)
  unless 1 ≤ s.restartDelaySecs ∧ s.restartDelaySecs ≤ 300 do
    throw (.restartDelayRange s.restartDelaySecs)
  unless s.level?.isSome do throw (.unknownLevel s.logLevel)
  let _ ← s.engineConfig

/-- The delay before a stopped engine is started again. -/
def restartDelay (s : Settings) : Duration := .ofSeconds s.restartDelaySecs.toNat

end Settings
end LinkLocal.Daemon
