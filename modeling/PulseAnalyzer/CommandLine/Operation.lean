import PulseAnalyzer.CommandLine.Invocation
import PulseAnalyzer.Device.Report
import PulseAnalyzer.Run.Monitor
import PulseAnalyzer.Run.Sequencer
import PulseAnalyzer.Settings.Configuration

set_option autoImplicit false

namespace PulseAnalyzer.CommandLine

inductive Failure where
  | loading (path : Option String) (fault : Fault)
  | noInterface
  | opening (fault : Fault)
  | action (fault : Fault)

def causesOf : Fault → List String
  | .link _ cause => [cause.message]
  | .setting cause => [cause.message]
  | _ => []

namespace Failure

def messages : Failure → String × List String
  | .loading (some path) fault => ("loading " ++ path, fault.message :: causesOf fault)
  | .loading none fault =>
    ("loading configuration from environment", fault.message :: causesOf fault)
  | .noInterface =>
    ("no acquisition API backend for the serial link; set [acquisition] kind = \"mock\" "
      ++ "to accept simulated run control, or pass --mock", [])
  | .opening fault => ("failed to open microDXP session: " ++ fault.message, [])
  | .action fault => (fault.message, causesOf fault)

def causeText (mark cause : String) : String :=
  mark ++ ("\n" ++ String.ofList (List.replicate mark.length ' ')).intercalate (cause.splitOn "\n")

def numbered : Nat → List String → List String
  | _, [] => []
  | n, cause :: rest =>
    causeText ("    " ++ Nat.repr n ++ ": ") cause :: numbered (n + 1) rest

def causeLines : List String → List String
  | [cause] => [causeText "    " cause]
  | causes => numbered 0 causes

def text (f : Failure) : String :=
  let (message, causes) := f.messages
  if causes.isEmpty then message
  else message ++ "\n\nCaused by:\n" ++ "\n".intercalate (causeLines causes)

end Failure

def eachChannel (perform : Nat → Procedure Json) (name : String) : List Nat → Procedure Unit
  | [] => return
  | channel :: rest => do
    let value ← perform channel
    Procedure.ask (.print (Json.object [("channel", .integer channel), (name, value)]).sorted)
    eachChannel perform name rest

def named (name : String) (value : Json) : Json := .object [(name, value)]

def readJson (session : Session) (what : Reading) (channel : Nat) : Procedure Json := do
  match what with
  | .volts => return named "hv" (.real (← session.readVolts channel))
  | .temperature => return named "temp_c" (.real (← Session.readTemperature channel))
  | .led => return named "led" (← session.readLed channel).toJson
  | .value name => return named name (.real (← session.readValue channel name))

def changeJson (session : Session) (what : Change) (channel : Nat) : Procedure Json := do
  match what with
  | .volts volts => return named "hv" (.real (← session.setVolts channel volts))
  | .led enable period width =>
    return named "led" (← session.setLed channel enable period width).toJson
  | .value name value => return named name (.real (← session.writeValue channel name value))

def toggleJson (session : Session) (channel : Nat) : Procedure Json := do
  return (← session.toggleLed channel).toJson

def rawJson (opcode : UInt8) (size : Nat) (arguments : List Argument) (channel : Nat) :
    Procedure Json := do
  return .array ((← Session.raw channel opcode arguments size).map byteJson)

def monitorChannels (session : Session) (periodSecs : Option Float) (budget : Nat)
    (channels : List Nat) : Procedure Unit := do
  let monitor := Monitor.of channels
  let monitor ← match periodSecs with
    | some secs => Procedure.ofExcept (monitor.withPeriodSecs secs)
    | none => pure monitor
  let _ ← monitor.run session budget

-- The plan is checked before the channel.
def runPlan (session : Session) (index : Int) (budget : Nat) (request : PlanRequest) :
    Procedure Unit := do
  let plan ← Procedure.ofExcept request.plan
  let (channels, target) ← Procedure.ofExcept (session.selectForRun index)
  let _ ← Sequencer.run ⟨channels, target⟩ budget plan

def Action.perform (session : Session) (index : Int) (budget : Nat) (action : Action) :
    Procedure Unit :=
  let channels := session.select index
  let descriptor (toJson : Module → Json) (channel : Nat) : Procedure Json := do
    return toJson (← Procedure.ofExcept (session.module channel))
  match action with
  | .boards => eachChannel (descriptor (·.board.toJson)) "board" channels
  | .serials => eachChannel (descriptor (·.serial.toJson)) "serial" channels
  | .read what => eachChannel (readJson session what) "value" channels
  | .change what => eachChannel (changeJson session what) "value" channels
  | .toggleLed => eachChannel (toggleJson session) "led" channels
  | .raw opcode size arguments => eachChannel (rawJson opcode size arguments) "payload" channels
  | .monitor periodSecs => monitorChannels session periodSecs budget channels
  | .run request => runPlan session index budget request

namespace Invocation

def configuration (i : Invocation) (file : String → Configuration.SettingsFile)
    (assignments : List (String × String)) : Except Failure Configuration :=
  match i.globals.settingsFile with
  | some path => (Configuration.fromFile path (file path) assignments).mapError (.loading (some path))
  | none => (Configuration.fromEnvironment assignments).mapError (.loading none)

-- Which link to use. Behind serial ports a simulated acquisition interface has to be asked for.
def linkKind (i : Invocation) (c : Configuration) : Except Failure LinkKind :=
  if i.globals.simulate ∨ c.link.kind = .simulated then .ok .simulated
  else if c.simulatedApi then .ok .serial
  else .error .noInterface

def program (i : Invocation) (c : Configuration) (budget : Nat) :
    Program (Except Failure Unit) := do
  match ← (Session.start c.calibration c.channels).run with
  | .error fault => return .error (.opening fault)
  | .ok session =>
    let result ← (i.action.perform session i.globals.channel budget).run
    return result.mapError .action

end Invocation
end PulseAnalyzer.CommandLine
