import PulseAnalyzer.Proofs.Run.Event
import PulseAnalyzer.Proofs.Simulator.Exchange
import PulseAnalyzer.Run.Monitor

set_option autoImplicit false

namespace PulseAnalyzer
namespace Monitor

inductive Quantity where
  | volts
  | celsius
deriving DecidableEq, Repr

def Quantity.read (session : Session) (channel : Nat) : Quantity → Procedure Float
  | .volts => session.readVolts channel
  | .celsius => Session.readTemperature channel

structure Reading where
  channel : Nat
  quantity : Quantity
  events : List Event
  reply : Except Fault Float

namespace Reading

def Made (session : Session) (r : Reading) : Prop :=
  (r.quantity.read session r.channel).Traced r.events (some r.reply)

def subject (r : Reading) : Nat × Quantity := (r.channel, r.quantity)

end Reading

inductive Step where
  | clock (now : Instant)
  | wait (deadline : Instant) (woken : Option Instant)
  | check (cancelled : Bool)
  | reading (r : Reading)
  | handOut (m : Measurement)

namespace Step

def events : Step → List Event
  | .clock now => [⟨.now, now⟩]
  | .wait deadline woken => [⟨.await deadline, woken⟩]
  | .check cancelled => [⟨.isCancelled, cancelled⟩]
  | .reading r => r.events
  | .handOut m => [⟨.emit m, ()⟩]

def reading? : Step → Option Reading
  | .reading r => some r
  | _ => none

def measurement? : Step → Option Measurement
  | .handOut m => some m
  | _ => none

def fault? : Step → Option Fault
  | .reading ⟨_, _, _, .error fault⟩ => some fault
  | _ => none

def isWait : Step → Bool
  | .wait _ _ => true
  | _ => false

def isRecall : Step → Bool
  | .check true | .wait _ none => true
  | _ => false

end Step

def readings (steps : List Step) : List Reading := steps.filterMap Step.reading?

def handedOut (steps : List Step) : List Measurement := steps.filterMap Step.measurement?

def rounds : List Step → List (List Reading)
  | [] => []
  | .wait _ (some _) :: rest => readings (rest.takeWhile fun step => !step.isWait) :: rounds rest
  | _ :: rest => rounds rest

def rota (channels : List Nat) : List (Nat × Quantity) :=
  channels.flatMap fun channel => [(channel, .volts), (channel, .celsius)]

-- The measurements of a cycle in which every channel was read twice, each time with success.
def whole? : List Nat → List Reading → Option (List Measurement)
  | [], [] => some []
  | channel :: rest, ⟨c, .volts, _, .ok volts⟩ :: ⟨d, .celsius, _, .ok celsius⟩ :: more =>
    if c = channel ∧ d = channel then (whole? rest more).map (.reading channel volts celsius :: ·) else none
  | _, _ => none

def wholeRounds (channels : List Nat) (steps : List Step) : List (List Measurement) :=
  (rounds steps).filterMap (whole? channels)

def Sound (steps : List Step) : Prop := ∀ step ∈ steps, step.fault? = none

-- The reading that fails is the last step and gives the fault; without a fault none failed.
def EndsInFault {α : Type} (steps : List Step) : Option (Except Fault α) → Prop
  | some (.error fault) => ∃ past last, steps = past ++ [last] ∧ last.fault? = some fault ∧ Sound past
  | _ => Sound steps

-- Right before each reading stands a check that finds the monitor going on; `going` tells whether one
-- stands right before these steps.
def Led : Bool → List Step → Prop
  | _, [] => True
  | _, .check cancelled :: rest => Led (!cancelled) rest
  | going, .reading _ :: rest => going = true ∧ Led false rest
  | _, _ :: rest => Led false rest

section views
variable (a b : List Step)

theorem readings_append : readings (a ++ b) = readings a ++ readings b := List.filterMap_append

theorem handed_out_append : handedOut (a ++ b) = handedOut a ++ handedOut b := List.filterMap_append

theorem sound_append : Sound (a ++ b) ↔ Sound a ∧ Sound b := List.forall_mem_append

theorem ends_in_fault_append {α : Type} (result : Option (Except Fault α)) (sound : Sound a)
    (rest : EndsInFault b result) : EndsInFault (a ++ b) result := by
  match result with
  | none | some (.ok _) => exact (sound_append a b).mpr ⟨sound, rest⟩
  | some (.error fault) =>
      obtain ⟨past, last, rfl, failed, before⟩ := rest
      exact ⟨a ++ past, last, (List.append_assoc a past [last]).symm, failed, (sound_append a past).mpr ⟨sound, before⟩⟩

theorem led_mono (going : Bool) (led : Led false a) : Led going a := by
  cases a with
  | nil => trivial
  | cons step rest =>
      cases step with
      | reading r => cases led.1
      | clock | wait | check | handOut => exact led

theorem led_append (going : Bool) (first : Led going a) (second : Led false b) : Led going (a ++ b) := by
  induction a generalizing going with
  | nil => exact led_mono b going second
  | cons step rest ih =>
      cases step with
      | reading r => exact ⟨first.1, ih false first.2⟩
      | check cancelled => exact ih (!cancelled) first
      | clock | wait | handOut => exact ih false first

end views

theorem led_reading (early late : List Step) (r : Reading) (going : Bool) (led : Led going (early ++ .reading r :: late)) :
    (early = [] ∧ going = true) ∨ ∃ before, early = before ++ [.check false] := by
  induction early generalizing going with
  | nil => exact .inl ⟨rfl, led.1⟩
  | cons step rest ih =>
      have later : ∃ next, Led next (rest ++ .reading r :: late) ∧ (next = true → step = .check false) := by
        cases step with
        | check cancelled => exact ⟨!cancelled, led, fun goes => by cases cancelled <;> simp_all⟩
        | reading other => exact ⟨false, led.2, nofun⟩
        | clock | wait | handOut => exact ⟨false, led, nofun⟩
      obtain ⟨next, left, checked⟩ := later
      rcases ih next left with ⟨rfl, goes⟩ | ⟨before, rfl⟩
      · exact .inr ⟨[], by rw [checked goes]; rfl⟩
      · exact .inr ⟨step :: before, rfl⟩

section rounds
variable (work later : List Step) (unwaiting : ∀ step ∈ work, step.isWait = false)
include unwaiting

theorem rounds_unwaiting : rounds (work ++ later) = rounds later := by
  induction work with
  | nil => rfl
  | cons step rest ih =>
      obtain ⟨here, others⟩ := List.forall_mem_cons.mp unwaiting
      cases step with
      | wait deadline woken => cases here
      | clock | check | reading | handOut => exact ih others

theorem take_while_unwaiting (begins : ∀ step rest, later = step :: rest → step.isWait = true) :
    (work ++ later).takeWhile (fun step => !step.isWait) = work := by
  have all : ∀ step ∈ work, (!step.isWait) = true := fun step member => by rw [unwaiting step member]; rfl
  have stopped : later.takeWhile (fun step => !step.isWait) = [] := by
    cases later with
    | nil => rfl
    | cons step rest => rw [List.takeWhile_cons, begins step rest rfl]; rfl
  rw [List.takeWhile_append_of_pos all, stopped, List.append_nil]

theorem rounds_round (deadline now : Instant) (begins : ∀ step rest, later = step :: rest → step.isWait = true) :
    rounds (.wait deadline (some now) :: (work ++ later)) = readings work :: rounds later := by
  rw [rounds, take_while_unwaiting work later unwaiting begins, rounds_unwaiting work later unwaiting]

end rounds

theorem whole_length (channels : List Nat) (round : List Reading) (found : List Measurement)
    (whole : whole? channels round = some found) : found.length = channels.length := by
  fun_induction whole? channels round generalizing found with
  | case1 =>
      cases whole
      rfl
  | case2 channel rest _ _ _ _ _ _ more _ ih =>
      obtain ⟨others, later, rfl⟩ := Option.map_eq_some_iff.mp whole
      exact congrArg (· + 1) (ih others later)
  | case3 => cases whole
  | case4 => cases whole

end Monitor

namespace Procedure

variable {α β : Type}

def Errand (p : Procedure α) : Prop :=
  ∀ events result, p.Traced events result → (∃ reply, result = some reply) ∧ ∀ e ∈ events, e.part = .aside

theorem errand_of_except (outcome : Except Fault α) : Errand (ofExcept outcome) := by
  intro events result traced
  obtain ⟨rfl, rfl⟩ := (traced_of_except outcome events result).mp traced
  exact ⟨⟨outcome, rfl⟩, List.forall_mem_nil _⟩

theorem errand_bind (p : Procedure α) (f : α → Procedure β) (first : Errand p) (rest : ∀ value, Errand (f value)) :
    Errand (p >>= f) := by
  intro events result traced
  rcases (traced_bind p f events result).mp traced with
    ⟨value, head, tail, begun, after, rfl⟩ | ⟨fault, failed, rfl⟩ | ⟨stuck, -⟩
  · obtain ⟨ends, aside⟩ := rest value tail result after
    exact ⟨ends, List.forall_mem_append.mpr ⟨(first head _ begun).2, aside⟩⟩
  · exact ⟨⟨_, rfl⟩, (first events _ failed).2⟩
  · obtain ⟨⟨_, impossible⟩, -⟩ := first events _ stuck
    cases impossible

end Procedure

namespace Command

theorem transaction_aside (device : Nat) (frame : Bytes) (sends size : Nat) (events : List Event)
    (outcome : Except Fault Bytes) (transaction : Transaction device frame sends size events outcome) :
    ∀ e ∈ events, e.part = .aside := by
  have writes (handle : Handle) (answers : List (Except LinkFault Unit)) :
      ∀ e ∈ writing handle frame answers, e.part = .aside := by
    intro e member
    rcases writing_forms handle frame answers e member with ⟨answer, rfl⟩ | rfl <;> rfl
  have opened (handle : Handle) (answers : List (Except LinkFault Unit)) (rest : List Event)
      (aside : ∀ e ∈ rest, e.part = .aside) :
      ∀ e ∈ (⟨.link (.acquire device), .ok handle⟩ : Event) :: (writing handle frame answers ++ rest), e.part = .aside :=
    List.forall_mem_cons.mpr ⟨rfl, List.forall_mem_append.mpr ⟨writes handle answers, aside⟩⟩
  cases transaction with
  | unopened => exact List.forall_mem_singleton.mpr rfl
  | unwritten => exact opened _ _ _ (List.forall_mem_singleton.mpr rfl)
  | unread | refused | unreleased | completed =>
      exact opened _ _ _ (List.forall_mem_cons.mpr ⟨rfl, List.forall_mem_singleton.mpr rfl⟩)

end Command

namespace Session
open Procedure

theorem request_errand (device : Nat) (opcode : UInt8) (arguments : List Argument) (fit : ∀ a ∈ arguments, a.Fits)
    (sends size : Nat) (once : 1 ≤ sends) : Errand (request device opcode arguments sends size) := by
  intro events result traced
  rw [SimulatedLink.request_fit device opcode arguments fit] at traced
  obtain ⟨outcome, rfl, transaction⟩ := Command.transact_traced _ rfl sends size once events result traced
  exact ⟨⟨outcome, rfl⟩, Command.transaction_aside _ _ _ _ events outcome transaction⟩

theorem read_volts_errand (s : Session) (channel : Nat) : Errand (s.readVolts channel) :=
  errand_bind _ _ (request_errand channel opcodeVolts _ (by decide) 2 _ (by decide)) fun _ =>
    errand_bind _ _ (errand_of_except _) fun _ => errand_of_except (.ok _)

theorem read_temperature_errand (channel : Nat) : Errand (readTemperature channel) :=
  errand_bind _ _ (request_errand channel opcodeTemperature _ (by decide) 1 _ (by decide)) fun _ => errand_of_except _

end Session

namespace Monitor

theorem read_errand (session : Session) (channel : Nat) (quantity : Quantity) :
    Procedure.Errand (quantity.read session channel) := by
  cases quantity with
  | volts => exact session.read_volts_errand channel
  | celsius => exact Session.read_temperature_errand channel

theorem made_unemitted (session : Session) (r : Reading) (made : r.Made session) : emitted r.events = [] := by
  refine List.filterMap_eq_nil_iff.mpr fun e member => ?_
  have aside := (read_errand session r.channel r.quantity r.events _ made).2 e member
  obtain ⟨request, answer⟩ := e
  cases request with
  | emit m => cases aside
  | _ => rfl

theorem emitted_steps (session : Session) (steps : List Step) (made : ∀ r ∈ readings steps, r.Made session) :
    emitted (steps.flatMap Step.events) = handedOut steps := by
  induction steps with
  | nil => rfl
  | cons step rest ih =>
      have later := ih fun r member => made r ((List.sublist_cons_self step rest).filterMap Step.reading? |>.subset member)
      have split : emitted ((step :: rest).flatMap Step.events) = emitted step.events ++ emitted (rest.flatMap Step.events) :=
        List.filterMap_append
      rw [split, later]
      cases step with
      | reading r => rw [Step.events, made_unemitted session r (made r List.mem_cons_self)]; rfl
      | clock | wait | check | handOut => rfl

end Monitor
end PulseAnalyzer
