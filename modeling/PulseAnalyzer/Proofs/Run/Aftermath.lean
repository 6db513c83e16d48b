import PulseAnalyzer.Proofs.Run.Phrases
import PulseAnalyzer.Proofs.Run.SnapshotTimes
import PulseAnalyzer.Proofs.Run.Spent

set_option autoImplicit false

namespace PulseAnalyzer

-- When the cycles of a run are due, counted from none, that was started at a time.
def Plan.beat (started : Nat) : Plan → Nat → Nat
  | .bounded _, k => started + k * 1000
  | .snapshot plan, k => Bench.wakeMillis (started * 1000000 + (k + 1) * plan.period.nanos)
  | .trace _, _ => started

namespace Sequencer
open Procedure

def cycle (s : Sequencer) : Plan → List Acquisition.Call
  | .bounded _ => (s.channels.take 1).map .runActive
  | .snapshot plan => s.snapshotCycle plan.clear
  | .trace _ => []

-- The measurements of a run that was cancelled after so many cycles.
def records (s : Sequencer) (count : Nat) : Plan → Nat
  | .snapshot _ => count * s.channels.length
  | _ => s.channels.length

def Closes (u : Nat) (tail : List Stamp) : Prop :=
  ∀ x ∈ tail, x.millis = u ∧ x.event.part ∈ [Part.phase, .readOut, .emission]

inductive Aftermath {α : Type} (pace : Pace) (s : Sequencer) (body : Procedure α) (rest : α → Procedure Summary)
    (started : Nat) : List Stamp → Option (Except Fault Summary) → Prop where
  | spent (during : List Stamp) (u : Nat) (ran : body.Clocked pace started during none u) :
      Aftermath pace s body rest started (⟨started, .entered .running⟩ :: during) none
  | stopped (during : List Stamp) (u : Nat) (outcome : Except Fault α) (answer : Except Int Unit) (tail : List Stamp)
      (result : Option (Except Fault Summary)) (ran : body.Clocked pace started during (some outcome) u)
      (closes : Closes u tail)
      (ends : (∃ fault, settled outcome answer = .error fault ∧ result = some (.error fault)) ∨
        ∃ value read last, settled outcome answer = .ok value ∧ tail = read ++ last ∧
          (rest value).Traced (shown read) result) :
      Aftermath pace s body rest started (⟨started, .entered .running⟩ :: (during ++
        ⟨u, .entered .stopping⟩ :: ⟨u, ⟨.api (.stopRun s.target), answer⟩⟩ :: tail)) result

-- How a run goes on from its start when it keeps time. What cancels it is no fault, and its result is one
-- only when the stop or what is read after it fails.
inductive OnTime (s : Sequencer) (plan : Plan) (due : Option Nat) (budget started : Nat) :
    List Stamp → Option (Except Fault Summary) → Prop where
  | spent (during : List Stamp) (u : Nat)
      (timely : Timely due (s.cycle plan) (plan.beat started) budget during .spent u) :
      OnTime s plan due budget started (⟨started, .entered .running⟩ :: during) none
  | answered (during : List Stamp) (u : Nat)
      (timely : Timely due (s.cycle plan) (plan.beat started) budget during .answered u) (answer : Except Int Unit)
      (tail : List Stamp) (closes : Closes u tail) (outcome : Except Fault Summary) :
      OnTime s plan due budget started (⟨started, .entered .running⟩ :: (during ++
        ⟨u, .entered .stopping⟩ :: ⟨u, ⟨.api (.stopRun s.target), answer⟩⟩ :: tail)) (some outcome)
  | cancelled (count : Nat) (during : List Stamp) (c : Nat)
      (timely : Timely due (s.cycle plan) (plan.beat started) budget during (.cancelled count) c)
      (answer : Except Int Unit) (tail : List Stamp) (closes : Closes c tail) (outcome : Except Fault Summary)
      (ends : outcome = .ok ⟨.cancelled, s.records count plan⟩ ∨
        ∃ fault, outcome = .error fault ∧ ∃ e ∈ ⟨.api (.stopRun s.target), answer⟩ :: shown tail, e.fault? = some fault) :
      OnTime s plan due budget started (⟨started, .entered .running⟩ :: (during ++
        ⟨c, .entered .stopping⟩ :: ⟨c, ⟨.api (.stopRun s.target), answer⟩⟩ :: tail)) (some outcome)

def Counts {α : Type} (s : Sequencer) (plan : Plan) (value : Nat → α) (rest : α → Procedure Summary) : Prop :=
  ∀ count events result, (rest (value count)).Traced events result → ∃ outcome, result = some outcome ∧
    (outcome = .ok ⟨.cancelled, s.records count plan⟩ ∨
      ∃ fault, outcome = .error fault ∧ ∃ e ∈ events, e.fault? = some fault)

theorem aftermath_on_time {α : Type} (pace : Pace) (s : Sequencer) (plan : Plan) (due : Option Nat) (budget started : Nat)
    (value : Nat → α) (body : Procedure α) (rest : α → Procedure Summary) (counts : Counts s plan value rest)
    (returns : ∀ found events, ¬ (rest found).Traced events none)
    (timely : ∀ d result u, body.Clocked pace started d result u → ∃ ending : Ending,
      Timely due (s.cycle plan) (plan.beat started) budget d ending u ∧ ending.Yields value result)
    (after : List Stamp) (result : Option (Except Fault Summary))
    (aftermath : Aftermath pace s body rest started after result) : s.OnTime plan due budget started after result := by
  cases aftermath with
  | spent during u ran =>
      obtain ⟨ending, beaten, yields⟩ := timely during none u ran
      cases ending with
      | spent => exact .spent during u beaten
      | answered => cases yields
      | cancelled count => cases yields
  | stopped during u outcome answer tail _ ran closes ends =>
      obtain ⟨ending, beaten, yields⟩ := timely during _ u ran
      have returned : ∃ summary, result = some summary := by
        rcases ends with ⟨fault, -, same⟩ | ⟨found, read, last, -, -, traced⟩
        · exact ⟨_, same⟩
        · cases result with
          | none => exact (returns found _ traced).elim
          | some summary => exact ⟨summary, rfl⟩
      obtain ⟨summary, rfl⟩ := returned
      cases ending with
      | spent => cases yields
      | answered => exact .answered during u beaten answer tail closes summary
      | cancelled count =>
          refine .cancelled count during u beaten answer tail closes summary ?_
          cases Option.some.inj yields
          cases answer with
          | error code =>
              rcases ends with ⟨fault, failed, same⟩ | ⟨found, read, last, fine, -, -⟩
              · cases failed
                cases same
                exact .inr ⟨_, rfl, _, List.mem_cons_self, rfl⟩
              · cases fine
          | ok _ =>
              rcases ends with ⟨fault, failed, same⟩ | ⟨found, read, last, fine, rfl, traced⟩
              · cases failed
              · cases fine
                obtain ⟨told, same, came⟩ := counts count _ _ traced
                cases same
                rcases came with came | ⟨fault, failed, e, member, faulty⟩
                · exact .inl came
                · refine .inr ⟨fault, failed, e, List.mem_cons_of_mem _ ?_, faulty⟩
                  rw [shown_append]
                  exact List.mem_append_left _ member

theorem read_out_ends (s : Sequencer) (outcome : Outcome) (events : List Event) (result : Option (Except Fault Summary))
    (traced : Traced (do
      let measurements ← readSpectra s.channels
      emitAll measurements
      return (⟨outcome, measurements.length⟩ : Summary)) events result) :
    ∃ told, result = some told ∧ (told = .ok ⟨outcome, s.channels.length⟩ ∨
      ∃ fault, told = .error fault ∧ ∃ e ∈ events, e.fault? = some fault) := by
  rcases (traced_bind _ _ events result).mp traced with
    ⟨found, head, tail, read, after, rfl⟩ | ⟨fault, failed, rfl⟩ | ⟨stuck, -⟩
  · have complete := (read_spectra_speaks s.channels found _).mpr ⟨head, read, rfl⟩
    rcases (traced_bind _ _ tail result).mp after with ⟨_, _, last, -, ended, -⟩ | ⟨fault, failed, -⟩ | ⟨stuck, -⟩
    · obtain ⟨-, rfl⟩ := (traced_pure _ last result).mp ended
      rw [complete_length _ _ _ _ complete]
      exact ⟨_, rfl, .inl rfl⟩
    · obtain ⟨-, impossible⟩ := emit_all_traced found tail _ failed
      cases impossible
    · obtain ⟨-, impossible⟩ := emit_all_traced found tail _ stuck
      cases impossible
  · obtain ⟨parts, stops⟩ := read_spectra_steady s.channels events _ failed
    have clockless : ClockInRange events := fun now member => absurd rfl (parts_absent parts .clock (by decide) _ member)
    obtain ⟨past, last, rfl, fails, -⟩ := stops clockless
    exact ⟨_, rfl, .inr ⟨fault, rfl, last, by simp, fails⟩⟩
  · exact (read_spectra_returns s.channels events stuck).elim

theorem aftermath_triggered {α : Type} (pace : Pace) (s : Sequencer) (body : Procedure α) (rest : α → Procedure Summary)
    (started : Nat) (trigger : Acquisition.Call) (beat : Nat → Nat)
    (triggered : ∀ d result u, body.Clocked pace started d result u → Triggered trigger beat d) (after : List Stamp)
    (result : Option (Except Fault Summary)) (aftermath : Aftermath pace s body rest started after result) :
    Triggered trigger beat after := by
  cases aftermath with
  | spent during u ran => exact triggered during none u ran
  | stopped during u outcome answer tail _ ran closes ends =>
      obtain ⟨count, same⟩ := triggered during _ u ran
      refine ⟨count, ?_⟩
      have parts : ∀ e ∈ shown (⟨u, .entered .stopping⟩ :: ⟨u, ⟨.api (.stopRun s.target), answer⟩⟩ :: tail),
          e.part ∈ [Part.stop, .phase, .readOut, .emission] := by
        refine List.forall_mem_cons.mpr ⟨by simp [Event.part, Request.part], List.forall_mem_cons.mpr
          ⟨List.mem_cons_self, fun e member => ?_⟩⟩
        obtain ⟨x, here, rfl⟩ := List.mem_map.mp member
        exact List.mem_cons_of_mem _ (closes x here).2
      have quiet := untriggered _ _ parts (by decide) (by decide)
      have opened : triggers (⟨started, .entered .running⟩ :: during) = triggers during := rfl
      rw [← List.cons_append, triggers_append, opened, quiet, List.append_nil, same]

end Sequencer
end PulseAnalyzer
