import PulseAnalyzer.Time.Duration
import PulseAnalyzer.Wire.ArgumentKind
import PulseAnalyzer.Wire.Frame

set_option autoImplicit false

namespace PulseAnalyzer

structure Handle where
  number : Nat
deriving DecidableEq, Repr, Hashable

def Handle.label (h : Handle) : String := "#" ++ Nat.repr h.number

inductive LinkAction where
  | acquire
  | read
  | write
  | release
deriving DecidableEq, Repr

def LinkAction.label : LinkAction → String
  | .acquire => "open"
  | .read => "read"
  | .write => "write"
  | .release => "close"

inductive LinkFault where
  | status (code : Int)
  | unknownDevice (device : Nat)
  | notOpen (handle : Handle)
  | timedOut (size : Nat) (limit : Duration)
  | earlyEnd
  | brokenPipe
  | noSuchFile
  | system (text : String)
deriving DecidableEq, Repr

def LinkFault.message : LinkFault → String
  | .status code => "status " ++ toString code
  | .unknownDevice device => "no device configured for id " ++ Nat.repr device
  | .notOpen handle => "handle " ++ handle.label ++ " is not open"
  | .timedOut size limit => "no " ++ Nat.repr size ++ "-byte response within " ++ limit.text
  | .earlyEnd => "early eof"
  | .brokenPipe => "broken pipe"
  | .noSuchFile => "No such file or directory"
  | .system text => text

def maxPeriod : Duration := .ofSecs 86400

def minSamplePeriod : Float := 25.0
def maxSamplePeriod : Float := 5000.0

inductive RangeFault where
  | quantity (name : String) (value low high : Float) (unit : String)
  | wordOverflow (name : String) (raw : Int)
  | highVoltage (value low high : Float) (closed : Bool) (unit : String)
  | ledEnable (value : Nat)
  | channel (index count : Nat)
  | argument (kind : ArgumentKind) (value : Nat)
  | notANumber (text : String)
  | presetType (name : String)
  | presetValue (value : Float)
  | clearFlag (value : Nat)
  | samplePeriod (value : Float)
  | period (what : String) (given least : Duration)
  | monitorPeriod (secs : Float)
  | unschedulable (given : Duration)
  | note (text : String)

def RangeFault.message : RangeFault → String
  | .quantity name value low high unit =>
    name ++ " " ++ messageText value ++ " not in [" ++ messageText low ++ ", "
      ++ messageText high ++ "] " ++ unit
  | .wordOverflow name raw => name ++ " raw value " ++ toString raw ++ " does not fit a word"
  | .highVoltage value low high closed unit =>
    "hv " ++ messageText value ++ " not in [" ++ messageText low ++ ", " ++ messageText high
      ++ (if closed then "] " else ") ") ++ unit
  | .ledEnable value => "led enable " ++ Nat.repr value ++ " not in [0, 1]"
  | .channel index count =>
    "channel " ++ Nat.repr index ++ " not in [0, " ++ Nat.repr count ++ ")"
  | .argument kind value =>
    kind.label ++ " argument " ++ Nat.repr value ++ " exceeds " ++ Nat.repr kind.maxValue
  | .notANumber text => "argument value '" ++ text ++ "' is not a number"
  | .presetType name =>
    "unknown preset type '" ++ name ++ "' (none, real, live, event, trigger)"
  | .presetValue value =>
    "preset value " ++ messageText value ++ " must be a non-negative number"
  | .clearFlag value => "snapshot clear flag " ++ Nat.repr value ++ " not in [0, 1]"
  | .samplePeriod value =>
    "trace sample period " ++ messageText value ++ " ns not in [" ++ messageText minSamplePeriod
      ++ ", " ++ messageText maxSamplePeriod ++ "]"
  | .period what given least =>
    what ++ " period " ++ given.text ++ " not in [" ++ least.text ++ ", " ++ maxPeriod.text ++ "]"
  | .monitorPeriod secs => "monitor period " ++ messageText secs ++ " must be positive"
  | .unschedulable given => "period " ++ given.text ++ " is not schedulable"
  | .note text => text

inductive TypeFault where
  | unknownKind (name : String)
  | untyped (text : String)
  | note (text : String)
deriving DecidableEq, Repr

def TypeFault.message : TypeFault → String
  | .unknownKind name => "unknown argument kind '" ++ name ++ "' (expected byte or word)"
  | .untyped text => "argument '" ++ text ++ "' is not of the form kind:value"
  | .note text => text

inductive StateFault where
  | alreadyFinal (kind : ArgumentKind) (value : Nat)
  | notSent
  | noChannels
  | note (text : String)
deriving DecidableEq, Repr

def StateFault.message : StateFault → String
  | .alreadyFinal kind value =>
    "cannot append " ++ kind.label ++ " " ++ Nat.repr value ++ " to a finalized command"
  | .notSent => "cannot read a response before the command is sent"
  | .noChannels => "no channels selected for the run"
  | .note text => text

inductive ConfigurationFault where
  | inverted (name : String) (low high : Float)
  | degenerateScale (name : String)
  | zeroFactor
  | logLevel (value : String)
  | logFormat (value : String)
  | noDetector
  | noPort
  | missingFile (path : String)
  | note (text : String)

def ConfigurationFault.message : ConfigurationFault → String
  | .inverted name low high =>
    name ++ ": low > high (" ++ messageText low ++ " > " ++ messageText high ++ ")"
  | .degenerateScale name => name ++ ": scale must be finite and non-zero"
  | .zeroFactor => "hv: set and monitor factors must be non-zero"
  | .logLevel value =>
    "Invalid log_level '" ++ value ++ "'. Must be one of: trace, debug, info, warn, error"
  | .logFormat value =>
    "Invalid log_format '" ++ value ++ "'. Must be one of: pretty, compact, json"
  | .noDetector => "number_of_channels must be at least 1"
  | .noPort => "serial link requires at least one port"
  | .missingFile path => "config file not found: " ++ path
  | .note text => text

-- What is wrong with a settings value, and under which keys it stands.
inductive SettingKind where
  | unreadable
  | wrongType
  | wrongValue
  | wrongLength
  | unknownVariant
  | missingField
deriving DecidableEq, Repr

def SettingKind.label : SettingKind → String
  | .unreadable => "Message"
  | .wrongType => "InvalidType"
  | .wrongValue => "InvalidValue"
  | .wrongLength => "InvalidLength"
  | .unknownVariant => "UnknownVariant"
  | .missingField => "MissingField"

structure SettingFault where
  kind : SettingKind
  path : List String
deriving DecidableEq, Repr

def SettingFault.message (f : SettingFault) : String :=
  f.kind.label ++ (if f.path.isEmpty then "" else " for key " ++ ".".intercalate f.path)

inductive Fault where
  | range (cause : RangeFault)
  | type (cause : TypeFault)
  | state (cause : StateFault)
  | link (action : LinkAction) (cause : LinkFault)
  | checksum (computed expected : UInt8)
  | length (declared : UInt8) (actual : Nat)
  | device (operation : String) (code : Int)
  | configuration (cause : ConfigurationFault)
  | setting (cause : SettingFault)

namespace Fault

def message : Fault → String
  | .range cause => "Range error: " ++ cause.message
  | .type cause => "Type error: " ++ cause.message
  | .state cause => "State error: " ++ cause.message
  | .link action cause => "I/O error: " ++ action.label ++ " failed with " ++ cause.message
  | .checksum computed expected =>
    "Checksum mismatch: computed 0x" ++ String.ofList (hexDigits computed) ++ " != expected 0x"
      ++ String.ofList (hexDigits expected)
  | .length declared actual =>
    "Payload length mismatch: declared " ++ Nat.repr declared.toNat ++ ", actual "
      ++ Nat.repr actual
  | .device operation code => operation ++ " failed with " ++ toString code
  | .configuration cause => "Configuration validation error: " ++ cause.message
  | .setting cause => "Configuration error: " ++ cause.message

def deviceCode? : Fault → Option Int
  | .device _ code => some code
  | _ => none

end Fault

-- The result of an operation followed by its cleanup: the first of the two faults, if any.
def withCleanup {α : Type} (primary : Except Fault α) (cleanup : Except Fault Unit) :
    Except Fault α :=
  match primary, cleanup with
  | .error fault, _ => .error fault
  | .ok _, .error fault => .error fault
  | .ok value, .ok () => .ok value

end PulseAnalyzer
