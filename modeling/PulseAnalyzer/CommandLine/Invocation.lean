import PulseAnalyzer.CommandLine.Scan

set_option autoImplicit false

namespace PulseAnalyzer.CommandLine

inductive Reading where
  | volts
  | temperature
  | led
  | value (name : String)
deriving DecidableEq, Repr

inductive Change where
  | volts (volts : Float)
  | led (enable : Nat) (periodMicros widthNanos : Float)
  | value (name : String) (value : Float)

inductive PlanRequest where
  | bounded (presetType : PresetType) (presetValue : Float) (resume : Bool)
  | snapshot (periodSecs : Option Float) (clear : Nat)
  | trace (samplePeriod : Option Float)

inductive Action where
  | boards
  | serials
  | read (what : Reading)
  | change (what : Change)
  | toggleLed
  | monitor (periodSecs : Option Float)
  | run (plan : PlanRequest)
  | raw (opcode : UInt8) (size : Nat) (arguments : List Argument)

-- What may be said at every level. A negative channel stands for all of them.
structure Globals where
  settingsFile : Option String
  simulate : Bool
  verbose : Bool
  channel : Int
deriving DecidableEq, Repr

structure Invocation where
  globals : Globals
  action : Action

def PlanRequest.plan : PlanRequest → Except Fault Plan
  | .bounded presetType presetValue resume =>
    (BoundedPlan.make presetType presetValue resume).map .bounded
  | .snapshot periodSecs clear => (SnapshotPlan.standard.withClear clear).map fun plan =>
    .snapshot (match periodSecs with
      | some secs => plan.withPeriodSecs secs
      | none => plan)
  | .trace samplePeriod => .ok (.trace (match samplePeriod with
    | some nanos => TracePlan.standard.withSamplePeriod nanos
    | none => .standard))

-- The grammar of a line: a choice of subcommands, or a last level with the action that it asks
-- for when nothing is missing.
inductive Grammar where
  | choice (subcommands : List (String × Grammar))
  | last (level : Level) (action : Found → Option Action)

def globalSwitches : List Switch :=
  [⟨"config", some 'c', .value .path⟩, ⟨"mock", none, .nothing⟩, ⟨"verbose", some 'v', .nothing⟩,
    ⟨"channel", none, .value .channel⟩, ⟨helpName, some 'h', .help⟩]

namespace Grammar

def hasHelp : List (String × Grammar) → List String → Bool
  | _, [] => true
  | subcommands, name :: rest =>
    if name = helpName then rest.isEmpty
    else match subcommands.lookup name with
      | some (.choice inner) => hasHelp inner rest
      | some (.last _ _) => rest.isEmpty
      | none => false

mutual

def read : Grammar → List String → Parsed (List (String × String) × Action)
  | .last level action, words => do
    let found ← level.read words
    return (found.given, ← needed (action found))
  | .choice subcommands, words => do
    let found ← Level.read ⟨globalSwitches, [], none, subcommands.map Prod.fst⟩ words
    let (name, rest) ← needed found.next
    if name = helpName then .error (if hasHelp subcommands rest then .help else .wrong)
    let inner ← readIn subcommands name rest
    return (inner.1 ++ (← found.settle).given, inner.2)

def readIn : List (String × Grammar) → String → List String →
    Parsed (List (String × String) × Action)
  | [], _, _ => .error .wrong
  | (name, grammar) :: rest, chosen, words =>
    if name = chosen then read grammar words else readIn rest chosen words

end

def lastLevel (switches : List Switch) (words : List WordKind) (more : Option WordKind) : Level :=
  ⟨globalSwitches ++ switches, words, more, []⟩

def line (words : List WordKind) (action : List String → Option Action) : Grammar :=
  .last (lastLevel [] words none) fun found => action found.words

def constant (action : Action) : Grammar := line [] fun _ => some action

def named {α : Type} (read : String → Option α) (name : String) (found : Found) :
    Option (Option α) :=
  match found.given.lookup name with
  | some word => (read word).map some
  | none => some none

def reading : Grammar := .choice [
  ("hv", constant (.read .volts)),
  ("temp", constant (.read .temperature)),
  ("led", constant (.read .led)),
  ("acq", line [.name] fun words => words.head?.map fun name => .read (.value name))]

def change : Grammar := .choice [
  ("hv", line [.real] fun words => do
    return .change (.volts (← parseReal? (← words[0]?)))),
  ("led", line [.byte, .real, .real] fun words => do
    let enable ← Word.byte? (← words[0]?)
    let period ← parseReal? (← words[1]?)
    let width ← parseReal? (← words[2]?)
    return .change (.led enable period width)),
  ("acq", line [.name, .real] fun words => do
    return .change (.value (← words[0]?) (← parseReal? (← words[1]?))))]

def periodSwitch : Switch := ⟨"period", none, .value .real⟩

def monitor : Grammar := .last (lastLevel [periodSwitch] [] none) fun found => do
  return .monitor (← named parseReal? periodSwitch.name found)

-- Without words a bounded run takes one second of real time.
def bounded : Grammar :=
  .last (lastLevel [⟨"resume", none, .nothing⟩] [.preset, .real] none) fun found => do
    let preset ← match found.words[0]? with
      | some word => Word.preset? word
      | none => some .real
    let value ← match found.words[1]? with
      | some word => parseReal? word
      | none => some 1.0
    return .run (.bounded preset value (found.given.lookup "resume").isSome)

def snapshots : Grammar :=
  .last (lastLevel [periodSwitch, ⟨"clear", none, .value .byte⟩] [] none) fun found => do
    let period ← named parseReal? periodSwitch.name found
    let clear ← named Word.byte? "clear" found
    return .run (.snapshot period (clear.getD 1))

def trace : Grammar :=
  .last (lastLevel [⟨"sample-period", none, .value .real⟩] [] none) fun found => do
    return .run (.trace (← named parseReal? "sample-period" found))

def raw : Grammar := .last (lastLevel [] [.opcode, .size] (some .argument)) fun found =>
  match found.words with
  | opcode :: size :: arguments => do
    return .raw (← Word.opcode? opcode) (← Word.size? size) (← arguments.mapM Word.argument?)
  | _ => none

def whole : Grammar := .choice [
  ("info", constant .boards),
  ("sn", constant .serials),
  ("read", reading),
  ("set", change),
  ("toggle-led", constant .toggleLed),
  ("monitor", monitor),
  ("run", .choice [("mca", bounded), ("snapshot", snapshots), ("trace", trace)]),
  ("raw", raw)]

end Grammar

def Globals.ofGiven (given : List (String × String)) : Globals where
  settingsFile := given.lookup "config"
  simulate := (given.lookup "mock").isSome
  verbose := (given.lookup "verbose").isSome
  channel := ((given.lookup "channel").bind Word.channel?).getD (-1)

def Invocation.parse (words : List String) : Parsed Invocation :=
  (Grammar.whole.read words).map fun found => ⟨.ofGiven found.1, found.2⟩

end PulseAnalyzer.CommandLine
