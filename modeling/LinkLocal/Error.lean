import LinkLocal.Duration
import LinkLocal.IPv4
import LinkLocal.Transport

/-!
What can go wrong, by cause, with the wording of each cause in one place. There are three layers:
faults of the system below, faults of a conflict detector, and errors of the link-local engine
itself. The engine passes a detector's fault on by one of two rules, one for requests, where a
detector may well be busy, and one for everything else, where that must not happen.
-/
namespace LinkLocal

/-! ## The system -/

/-- A fault of the operating system or of the descriptors it hands out. -/
inductive SystemFault where
  | code (n : Nat)
  | told (message : String)
  deriving DecidableEq, Repr

def SystemFault.wouldBlock : SystemFault := .code 11

def SystemFault.codeText : Nat → String
  | 4 => "Interrupted system call"
  | 5 => "Input/output error"
  | 9 => "Bad file descriptor"
  | 11 => "Resource temporarily unavailable"
  | 12 => "Cannot allocate memory"
  | 22 => "Invalid argument"
  | 24 => "Too many open files"
  | n => s!"Unknown error {n}"

def SystemFault.text : SystemFault → String
  | .code n => s!"{codeText n} (os error {n})"
  | .told message => message

/-! ## The detector -/

/-- Why a detector rejects the probe it is handed. -/
inductive ProbeFault where
  /-- The hardware address has no bytes. -/
  | emptyAddress
  /-- The transport is not one that can be probed on. -/
  | transport (t : Transport)
  /-- The probe would end beyond the range of the clock. -/
  | timeout (d : Duration)
  /-- Another reason, in the detector's own words. -/
  | told (message : String)
  deriving DecidableEq, Repr

def ProbeFault.text : ProbeFault → String
  | .emptyAddress => "hardware address must not be empty"
  | .transport t => s!"transport {t.name} is not supported"
  | .timeout d => s!"timeout {d.text} out of range"
  | .told message => message

/-- A condition that a detector cannot explain. -/
inductive InternalFault where
  /-- A probe runs although nothing was configured. -/
  | runningUnconfigured
  /-- An address is ready although nothing was configured. -/
  | readyUnconfigured
  /-- Another condition, in the detector's own words. -/
  | told (message : String)
  deriving DecidableEq, Repr

def InternalFault.text : InternalFault → String
  | .runningUnconfigured => "running without a configuration"
  | .readyUnconfigured => "ready without a configuration"
  | .told message => message

/-- A fault that a conflict detector reports. -/
inductive DetectorFault where
  | busy
  | invalidArgument (cause : ProbeFault)
  | outOfMemory
  | unexpected (cause : InternalFault)
  | io (cause : SystemFault)
  deriving DecidableEq, Repr

def DetectorFault.text : DetectorFault → String
  | .busy => "ACD engine busy"
  | .invalidArgument cause => s!"ACD invalid argument: {cause.text}"
  | .outOfMemory => "ACD engine out of memory"
  | .unexpected cause => s!"ACD internal error: {cause.text}"
  | .io cause => s!"ACD I/O error: {cause.text}"

/-! ## The engine -/

/-- Why an argument is not acceptable. -/
inductive InvalidArgument where
  | emptyLinkAddress
  | malformedLinkAddress (text : String)
  | unknownTransport (text : String)
  | unknownPolicy (text : String)
  | linkAddressLength (actual : Nat)
  | transport (t : Transport)
  | requestedAddress (a : IPv4)
  | unregistered (name : String)
  | told (message : String)
  deriving DecidableEq, Repr

def InvalidArgument.text : InvalidArgument → String
  | .emptyLinkAddress => "Link address cannot be empty"
  | .malformedLinkAddress text => s!"Malformed link address '{text}'"
  | .unknownTransport text => s!"Unknown transport '{text}'"
  | .unknownPolicy text => s!"Unknown conflict policy '{text}'"
  | .linkAddressLength actual => s!"Ethernet link address must be 6 bytes, got {actual}"
  | .transport t => s!"Transport {t.name} is not supported"
  | .requestedAddress a => s!"Requested address {a.text} is outside 169.254.1.0-169.254.254.255"
  | .unregistered name => s!"ACD backend '{name}' is not registered"
  | .told message => message

/-- Why a request comes at the wrong time. -/
inductive Busy where
  | running
  | pending (count : Nat)
  | notRunning
  | detector
  | told (message : String)
  deriving DecidableEq, Repr

def Busy.text : Busy → String
  | .running => "IPv4LL engine is already running"
  | .pending count => s!"{count} event(s) still pending"
  | .notRunning => "IPv4LL engine is not running"
  | .detector => "ACD engine is busy"
  | .told message => message

/-- What ran out. -/
inductive Exhausted where
  | detectorMemory
  | capacity
  | told (message : String)
  deriving DecidableEq, Repr

def Exhausted.text : Exhausted → String
  | .detectorMemory => "ACD engine out of memory"
  | .capacity =>
    "memory allocation failed because the computed capacity exceeded the collection's maximum"
  | .told message => message

/-- Why an engine has to be given up. -/
inductive Unrecoverable where
  /-- The detector was busy where it must not be. -/
  | unexpectedBusy
  /-- The detector rejected a probe that the engine had checked. -/
  | rejected (cause : ProbeFault)
  /-- The detector cannot explain its own state. -/
  | unexpected (cause : InternalFault)
  /-- Another reason, in the caller's words. -/
  | told (message : String)
  deriving DecidableEq, Repr

/-- The wording of a reason to give an engine up. -/
def Unrecoverable.text : Unrecoverable → String
  | .unexpectedBusy => "unexpected busy from ACD engine"
  | .rejected cause => s!"ACD engine rejected its arguments: {cause.text}"
  | .unexpected cause => cause.text
  | .told message => message

/-- An error of the link-local engine. Conflicts and the loss of a link are no errors: they are
reported as events. -/
inductive Error where
  | invalidArgument (cause : InvalidArgument)
  | busy (cause : Busy)
  | resourceExhausted (cause : Exhausted)
  | notRecoverable (cause : Unrecoverable)
  | io (cause : SystemFault)
  deriving DecidableEq, Repr

namespace Error

def text : Error → String
  | .invalidArgument cause => s!"Invalid argument: {cause.text}"
  | .busy cause => s!"Busy: {cause.text}"
  | .resourceExhausted cause => s!"Resource exhausted: {cause.text}"
  | .notRecoverable cause => s!"Not recoverable: {cause.text}"
  | .io cause => s!"I/O error: {cause.text}"

/-- The wording of an error followed by those of its causes. Only a fault of the system is a cause
of its own, so its words appear twice. -/
def chain : Error → String
  | .io cause => s!"{(Error.io cause).text}: {cause.text}"
  | e => e.text

/-- Whether the engine has to be given up after this error. -/
def isFatal : Error → Bool
  | .resourceExhausted _ | .notRecoverable _ | .io _ => true
  | .invalidArgument _ | .busy _ => false

/-- What a detector's fault means where none is expected. -/
def ofDetector : DetectorFault → Error
  | .outOfMemory => .resourceExhausted .detectorMemory
  | .io cause => .io cause
  | .busy => .notRecoverable .unexpectedBusy
  | .invalidArgument cause => .notRecoverable (.rejected cause)
  | .unexpected cause => .notRecoverable (.unexpected cause)

/-- What a detector's fault means as the answer to a request, which may come at the wrong time. -/
def ofRequest : DetectorFault → Error
  | .busy => .busy .detector
  | fault => ofDetector fault

theorem isFatal_ofDetector (fault : DetectorFault) : (ofDetector fault).isFatal = true := by
  cases fault <;> rfl

/-- An answer to a request is fatal unless the detector was busy. -/
theorem isFatal_ofRequest_iff (fault : DetectorFault) :
    (ofRequest fault).isFatal = true ↔ fault ≠ .busy := by
  cases fault <;> simp [ofRequest, ofDetector, isFatal]

end Error
end LinkLocal
