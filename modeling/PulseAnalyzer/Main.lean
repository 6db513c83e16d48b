import PulseAnalyzer.CommandLine.Rehearsal
import Std.Time.DateTime.Timestamp

set_option autoImplicit false

namespace PulseAnalyzer.CommandLine

def usageLines : List String :=
  ["usage: udxp [--config FILE] [--mock] [--verbose] [--channel N] COMMAND", "commands:",
    "  info", "  sn", "  read (hv | temp | led | acq NAME)",
    "  set (hv VOLTS | led ENABLE PERIOD_US WIDTH_NS | acq NAME VALUE)", "  toggle-led",
    "  monitor [--period SECS]", "  run mca [PRESET [VALUE]] [--resume]",
    "  run snapshot [--period SECS] [--clear N]", "  run trace [--sample-period NS]",
    "  raw OPCODE SIZE [KIND:VALUE ...]"]

def usageText : String := "\n".intercalate usageLines

def isRegular (path : String) : IO (Option Bool) := do
  try return some ((← (← IO.FS.realPath path).metadata).type == .file)
  catch _ => return none

def findSettings (path : String) : IO Configuration.SettingsFile := do
  match ← isRegular path with
  | none => return .absent
  | some false => return .irregular
  | some true =>
    let content ← try String.fromUTF8? <$> IO.FS.readBinFile path catch _ => pure none
    return content.elim .unreadable .text

def environment : IO (List (String × String)) := do
  let block ← try IO.FS.readBinFile "/proc/self/environ" catch _ => pure ByteArray.empty
  let entries := (Utf8.decode block.toList).splitOn "\x00"
  return entries.filterMap fun entry => match splitEquals entry.toList with
    | (name, some value) => some (String.ofList name, String.ofList value)
    | (_, none) => none

def timestamp : IO Timestamp := do
  let nanos := (← Std.Time.Timestamp.now).toNanosecondsSinceUnixEpoch.val
  return ⟨nanos / 1000000000, (nanos % 1000000000).toNat⟩

def printLine (line : String) : IO Unit := do
  let stdout ← IO.getStdout
  stdout.putStrLn line
  stdout.flush

def present (started : Nat) (bench : IO.Ref Bench) : IO Bench := do
  let millis := (← IO.monoMsNow) - started
  bench.modify fun b => { b with millis }
  bench.get

def answer (started : Nat) (bench : IO.Ref Bench) : (r : Request) → IO r.Answer
  | .pause millis => IO.sleep (UInt32.ofNat millis)
  | .await deadline => do
    let b ← present started bench
    IO.sleep (UInt32.ofNat (Bench.wakeMillis deadline - b.millis))
    return some (← present started bench).now
  | .print line => printLine (line.render Json.realText)
  | .emit m => do printLine (Record.text ⟨← timestamp, m⟩)
  | r => do
    let (value, b) := Bench.answer r (← present started bench)
    bench.set b
    return value

-- Repetitions of a polling or a monitoring loop: more than will ever take place.
def endless : Nat := Nat.pow 2 62

def carryOut (invocation : Invocation) (c : Configuration) (kind : LinkKind) : IO Ending := do
  let bench ← IO.mkRef (benchOf c kind)
  let started ← IO.monoMsNow
  let result ← Program.runIn (answer started bench) (invocation.program c endless)
  return .ofResult (result.getD (.ok ()))

def execute (words : List String) : IO Ending := do
  match Invocation.parse words with
  | .error usage => return .usage usage
  | .ok invocation =>
    let file ← match invocation.globals.settingsFile with
      | some path => findSettings path
      | none => pure .absent
    match invocation.configuration (fun _ => file) (← environment) with
    | .error failure => return .failed failure
    | .ok c => match invocation.linkKind c with
      | .error failure => return .failed failure
      | .ok kind => carryOut invocation c kind

end PulseAnalyzer.CommandLine

open PulseAnalyzer.CommandLine in
def main (words : List String) : IO UInt32 := do
  let ending ← execute words
  match ending with
  | .failed failure => IO.eprintln ("Error: " ++ failure.text)
  | .usage .help => IO.println usageText
  | .usage .wrong => IO.eprintln usageText
  | .done => pure ()
  return UInt32.ofNat ending.exitCode
