import PulseAnalyzer.Run.Monitor
import PulseAnalyzer.Serial.PortLink
import PulseAnalyzer.Simulator.Acquisition
import PulseAnalyzer.Simulator.Link

/-!
A bench answers every request of a program: simulated devices, a clock that moves only while
programs wait, and a cancellation that can be planned for a time, a call or a write.
-/

set_option autoImplicit false

namespace PulseAnalyzer

inductive BenchLink where
  | simulated (link : SimulatedLink)
  | ports (link : PortLink)

structure Heard where
  call : Acquisition.Call
  millis : Nat
  phase : Phase

-- When a program is to be cancelled: at a time, or as the so-manieth call or write from now
-- arrives.
structure Cancellation where
  atMillis : Option Nat
  onCall : Option Nat
  onWrite : Option Nat
deriving DecidableEq, Repr

def Cancellation.never : Cancellation := ⟨none, none, none⟩

structure Bench where
  millis : Nat
  phase : Phase
  api : SimulatedApi
  link : BenchLink
  cancelled : Bool
  plan : Cancellation
  heard : Array Heard
  emitted : Array Measurement
  printed : Array Json
  boards : Table Nat Bytes
  serials : Table Nat Bytes
  responses : List Bytes

namespace Bench

def make (api : SimulatedApi) (link : BenchLink) : Bench :=
  ⟨0, .idle, api, link, false, .never, #[], #[], #[], [], [], []⟩

def now (b : Bench) : Instant := (Duration.ofMillis b.millis).nanos

def wakeMillis (deadline : Instant) : Nat := (deadline + 999999) / 1000000

-- Waits until a time, if it is still to come. Only a wait lets a planned time of cancellation
-- come true.
def elapse (b : Bench) (millis : Nat) : Bench :=
  if millis ≤ b.millis then b
  else { b with millis, cancelled := b.cancelled || b.plan.atMillis.any (· ≤ millis) }

def countDown : Option Nat → Option Nat × Bool
  | some 1 => (none, true)
  | some n => (some (n - 1), false)
  | none => (none, false)

-- The answer to a wait: cancellation comes first when it is there or falls before the deadline.
def await (b : Bench) (deadline : Instant) : Option Instant × Bench :=
  if b.cancelled then (none, b)
  else
    let woken := b.elapse (wakeMillis deadline)
    if woken.cancelled then
      (none, { woken with millis := max b.millis (b.plan.atMillis.getD 0) })
    else (some woken.now, woken)

def standIn (b : Bench) : (call : Acquisition.Call) → call.Answer → call.Answer
  | .boardInfo channel, answer => answer.map ((Table.lookup channel b.boards).getD ·)
  | .serialNumber channel, answer => answer.map ((Table.lookup channel b.serials).getD ·)
  | _, answer => answer

def callApi (b : Bench) (call : Acquisition.Call) : call.Answer × Bench :=
  let count := countDown b.plan.onCall
  let performed := b.api.answer b.now call
  (b.standIn call performed.1,
    { b with
      api := performed.2
      heard := b.heard.push ⟨call, b.millis, b.phase⟩
      plan := { b.plan with onCall := count.1 }
      cancelled := b.cancelled || count.2 })

def standInResponse (b : Bench) : (call : Link.Call) → call.Answer → call.Answer × Bench
  | .read _ _ _, .ok bytes => match b.responses with
    | response :: rest => (.ok response, { b with responses := rest })
    | [] => (.ok bytes, b)
  | _, answer => (answer, b)

def noteWrite (b : Bench) : Link.Call → Bench
  | .write _ _ _ =>
    let count := countDown b.plan.onWrite
    { b with
      plan := { b.plan with onWrite := count.1 }
      cancelled := b.cancelled || count.2 }
  | _ => b

def callLink (b : Bench) (call : Link.Call) : call.Answer × Bench :=
  let b := b.noteWrite call
  match b.link with
  | .simulated link =>
    let performed := link.answer call
    { b with link := .simulated performed.2 }.standInResponse call performed.1
  | .ports link =>
    let performed := link.answer call
    let b := b.elapse (b.millis + wakeMillis performed.2.1.nanos)
    { b with link := .ports performed.2.2 }.standInResponse call performed.1

def answer : (r : Request) → Bench → r.Answer × Bench
  | .api call, b => b.callApi call
  | .link call, b => b.callLink call
  | .pause millis, b => ((), b.elapse (b.millis + millis))
  | .now, b => (b.now, b)
  | .isCancelled, b => (b.cancelled, b)
  | .await deadline, b => b.await deadline
  | .enter phase, b => ((), { b with phase })
  | .emit m, b => ((), { b with emitted := b.emitted.push m })
  | .print line, b => ((), { b with printed := b.printed.push line })

def run {α : Type} (b : Bench) (procedure : Procedure α) : Option (Except Fault α) × Bench :=
  Program.run answer procedure.run b

end Bench

def latest (room : Nat) (emitted : Array Measurement) : Nat × List Measurement :=
  (emitted.size - room, emitted.toList.drop (emitted.size - room))

end PulseAnalyzer
