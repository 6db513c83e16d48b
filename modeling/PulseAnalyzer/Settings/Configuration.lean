import PulseAnalyzer.Calibration
import PulseAnalyzer.Settings.Environment
import PulseAnalyzer.Settings.Reading
import PulseAnalyzer.Settings.Toml.Document

set_option autoImplicit false

namespace PulseAnalyzer

inductive LinkKind where
  | simulated
  | serial
deriving DecidableEq, Repr

namespace LinkKind

def label : LinkKind → String
  | .simulated => "mock"
  | .serial => "serial"

def names : List (String × LinkKind) := [("mock", .simulated), ("serial", .serial)]

end LinkKind

structure Logging where
  level : String
  format : String
deriving DecidableEq, Repr

structure LinkSettings where
  kind : LinkKind
  ports : List String
  baudRate : Nat
  timeoutMillis : Nat
deriving DecidableEq, Repr

structure Configuration where
  logging : Logging
  channels : Nat
  link : LinkSettings
  simulatedApi : Bool
  calibration : Calibration

namespace Configuration

def standard : Configuration :=
  ⟨⟨"info", "compact"⟩, 1, ⟨.simulated, [], 115200, 1000⟩, false, .standard⟩

def logLevels : List String := ["trace", "debug", "info", "warn", "error"]

def logFormats : List String := ["pretty", "compact", "json"]

def validate (c : Configuration) : Except Fault Unit :=
  let refuse (cause : ConfigurationFault) : Except Fault Unit := .error (.configuration cause)
  if c.logging.level ∉ logLevels then refuse (.logLevel c.logging.level)
  else if c.logging.format ∉ logFormats then refuse (.logFormat c.logging.format)
  else if c.channels = 0 then refuse .noDetector
  else if c.link.kind = .serial ∧ c.link.ports = [] then refuse .noPort
  else c.calibration.validate

section Fields
open Setting

def loggingFields : List (Setting.Field Logging) :=
  [.optional "log_level" string fun old level => { old with level },
    .optional "log_format" string fun old format => { old with format }]

def detectorFields : List (Setting.Field Nat) :=
  [.optional "number_of_channels" (natural (Nat.pow 2 32)) fun _ channels => channels]

def linkFields : List (Setting.Field LinkSettings) :=
  [.optional "kind" (choice LinkKind.names) fun old kind => { old with kind },
    .optional "ports" (listOf string) fun old ports => { old with ports },
    .optional "baud_rate" (natural (Nat.pow 2 32)) fun old baudRate => { old with baudRate },
    .optional "timeout_ms" (natural (Nat.pow 2 64)) fun old timeoutMillis => { old with timeoutMillis }]

def acquisitionFields : List (Setting.Field Bool) :=
  [.optional "kind" (choice [("mock", true)]) fun _ simulated => simulated]

def quantityFields (unitText : Read String) : List (Setting.Field Quantity) :=
  [.needed "low" number fun old low => { old with low },
    .needed "high" number fun old high => { old with high },
    .optional "offset" number fun old offset => { old with offset },
    .optional "scale" number fun old scale => { old with scale },
    .optional "unit" unitText fun old unit => { old with unit }]

def blankQuantity : Quantity := ⟨0.0, 0.0, 0.0, 1.0, ""⟩

def factorFields : List (Setting.Field HighVoltage) :=
  [.optional "set" number fun old set => { old with set },
    .optional "monitor" number fun old monitor => { old with monitor }]

-- The factors stand among the entries of the quantity and are read before it. Faults of the
-- quantity do not tell the key, and its unit has to be a text.
def highVoltage : Read HighVoltage
  | .group entries => do
    let factors ← readEntries factorFields ⟨blankQuantity, 1.0, 1.0⟩ entries
    let others := entries.filter fun entry => factorFields.all (·.name != entry.1)
    let quantity ← (readSection (quantityFields onlyText) blankQuantity (.group others)).mapError
      fun fault => { fault with path := [] }
    return { factors with quantity }
  | _ => fail .wrongType

def calibrationFields : List (Setting.Field Calibration) :=
  let quantity : Read Quantity := readSection (quantityFields string) blankQuantity
  [.optional "profile" (choice [("factor", Profile.factor), ("linear", .linear)])
      fun old profile => { old with profile },
    .needed "hv" highVoltage fun old hv => { old with hv },
    .needed "led_period" quantity fun old ledPeriod => { old with ledPeriod },
    .needed "led_width" quantity fun old ledWidth => { old with ledWidth }]

def fields : List (Setting.Field Configuration) :=
  [.optional "application" (readSection loggingFields standard.logging)
      fun old logging => { old with logging },
    .optional "detector" (readSection detectorFields standard.channels)
      fun old channels => { old with channels },
    .optional "link" (readSection linkFields standard.link) fun old link => { old with link },
    .optional "acquisition" (readSection acquisitionFields false)
      fun old simulatedApi => { old with simulatedApi },
    .optional "calibration" (readSection calibrationFields .standard)
      fun old calibration => { old with calibration }]

def ofSetting : Read Configuration := readSection fields standard

end Fields

def quantityEntries (q : Quantity) : Entries Setting :=
  [("high", .real q.high), ("low", .real q.low), ("offset", .real q.offset),
    ("scale", .real q.scale), ("unit", .text q.unit)]

def highVoltageEntries (hv : HighVoltage) : Entries Setting :=
  let q := hv.quantity
  [("high", .real q.high), ("low", .real q.low), ("monitor", .real hv.monitor),
    ("offset", .real q.offset), ("scale", .real q.scale), ("set", .real hv.set),
    ("unit", .text q.unit)]

def toSetting (c : Configuration) : Setting :=
  .group
    [("acquisition", .group (if c.simulatedApi then [("kind", .text "mock")] else [])),
      ("application", .group
        [("log_format", .text c.logging.format), ("log_level", .text c.logging.level)]),
      ("calibration", .group
        [("hv", .group (highVoltageEntries c.calibration.hv)),
          ("led_period", .group (quantityEntries c.calibration.ledPeriod)),
          ("led_width", .group (quantityEntries c.calibration.ledWidth)),
          ("profile", .text c.calibration.profile.label)]),
      ("detector", .group [("number_of_channels", .whole c.channels)]),
      ("link", .group
        [("baud_rate", .whole c.link.baudRate), ("kind", .text c.link.kind.label),
          ("ports", .list (c.link.ports.map .text)), ("timeout_ms", .whole c.link.timeoutMillis)])]

-- What is found under the name of a settings file. What is there but is no regular file, such as
-- a directory, holds no settings.
inductive SettingsFile where
  | absent
  | irregular
  | unreadable
  | text (content : String)
deriving DecidableEq, Repr

def fileSettings (path : String) : SettingsFile → Except Fault Setting
  | .absent => .error (.configuration (.missingFile path))
  | .irregular => .ok (.group [])
  | .unreadable => .error (.setting ⟨.unreadable, []⟩)
  | .text content => match Toml.parse? content with
    | some settings => .ok settings
    | none => .error (.setting ⟨.unreadable, []⟩)

def ofSources (file : Setting) (assignments : List (String × String)) :
    Except Fault Configuration := do
  let settings := (standard.toSetting.overlay file).overlay (Environment.settings assignments)
  let configuration ← (ofSetting settings).mapError Fault.setting
  configuration.validate
  return configuration

def fromFile (path : String) (file : SettingsFile) (assignments : List (String × String)) :
    Except Fault Configuration := do
  ofSources (← fileSettings path file) assignments

def fromEnvironment (assignments : List (String × String)) : Except Fault Configuration :=
  ofSources (.group []) assignments

end Configuration
end PulseAnalyzer
