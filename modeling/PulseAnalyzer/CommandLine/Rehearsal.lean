import PulseAnalyzer.CommandLine.Operation
import PulseAnalyzer.Simulator.Bench

set_option autoImplicit false

namespace PulseAnalyzer.CommandLine

def benchOf (c : Configuration) (kind : LinkKind) : Bench :=
  Bench.make (.make c.channels SimulatedApi.standardSeed) (match kind with
    | .simulated => .simulated (.make c.channels)
    | .serial => .ports (.make c.link.ports (.ofMillis c.link.timeoutMillis)))

inductive Ending where
  | done
  | failed (failure : Failure)
  | usage (usage : Usage)

def Ending.exitCode : Ending → Nat
  | .done => 0
  | .failed _ => 1
  | .usage .help => 0
  | .usage .wrong => 2

def Ending.ofResult : Except Failure Unit → Ending
  | .ok () => .done
  | .error failure => .failed failure

-- Carries out a command line on a bench; the lines come with the measurements last. An action
-- whose budget is spent counts as done.
def rehearse (words : List String) (file : String → Configuration.SettingsFile)
    (assignments : List (String × String)) (budget : Nat) : Ending × List Json :=
  match Invocation.parse words with
  | .error usage => (.usage usage, [])
  | .ok invocation =>
    let prepared : Except Failure (Configuration × LinkKind) := do
      let c ← invocation.configuration file assignments
      return (c, ← invocation.linkKind c)
    match prepared with
    | .error failure => (.failed failure, [])
    | .ok (c, kind) =>
      let (result, bench) := Program.run Bench.answer (invocation.program c budget) (benchOf c kind)
      (.ofResult (result.getD (.ok ())),
        bench.printed.toList ++ bench.emitted.toList.map fun m => .object m.fields)

end PulseAnalyzer.CommandLine
