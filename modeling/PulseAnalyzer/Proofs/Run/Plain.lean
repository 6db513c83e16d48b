import PulseAnalyzer.Proofs.Run.ReadOut

set_option autoImplicit false

namespace PulseAnalyzer
namespace Sequencer
open Procedure

-- Neither a stop, nor a special run, nor a measurement handed out.
def Plain (events : List Event) : Prop := ∀ e ∈ events, e.delimits = false ∧ e.measurement? = none

theorem plain_nil : Plain [] := by
  intro e member
  cases member

theorem plain_append (a b : List Event) (first : Plain a) (second : Plain b) : Plain (a ++ b) :=
  List.forall_mem_append.mpr ⟨first, second⟩

theorem plain_of_parts (parts : List Part) (events : List Event) (inside : ∀ e ∈ events, e.part ∈ parts)
    (plain : .stop ∉ parts ∧ .snapshot ∉ parts ∧ .capture ∉ parts ∧ .emission ∉ parts) : Plain events := by
  obtain ⟨noStop, noSnapshot, noCapture, noEmission⟩ := plain
  intro e member
  have stop := parts_absent inside .stop noStop e member
  have snapshot := parts_absent inside .snapshot noSnapshot e member
  have capture := parts_absent inside .capture noCapture e member
  have emission := parts_absent inside .emission noEmission e member
  refine ⟨by simp [Event.delimits, stop, snapshot, capture], ?_⟩
  obtain ⟨request, answer⟩ := e
  cases request with
  | emit m => exact absurd rfl emission
  | _ => rfl

theorem plain_undivided (events : List Event) (plain : Plain events) : Undivided events :=
  fun e member => (plain e member).1

theorem plain_emitted (events : List Event) (plain : Plain events) : emitted events = [] :=
  List.filterMap_eq_nil_iff.mpr fun e member => (plain e member).2

theorem configure_plain (settings : List (String × Float)) (channels : List Nat) (events : List Event)
    (result : Option (Except Fault Unit)) (traced : (configure settings channels).Traced events result) :
    Plain events :=
  plain_of_parts _ events (configure_steady settings channels events result traced).1 (by decide)

theorem ticker_plain (period : Duration) (events : List Event) (result : Option (Except Fault Ticker))
    (traced : (ticker period).Traced events result) : Plain events := by
  obtain ⟨now, rfl, -⟩ := ticker_traced period events result traced
  intro e member
  rw [List.mem_singleton.mp member]
  exact ⟨rfl, rfl⟩

theorem read_spectra_plain (channels : List Nat) (events : List Event)
    (result : Option (Except Fault (List Measurement))) (traced : (readSpectra channels).Traced events result) :
    Plain events :=
  plain_of_parts _ events (read_spectra_steady channels events result traced).1 (by decide)

theorem read_snapshot_plain (channels : List Nat) (events : List Event)
    (result : Option (Except Fault (Option (List Measurement))))
    (traced : (readSnapshot channels).Traced events result) : Plain events :=
  plain_of_parts _ events (read_snapshot_steady channels events result traced).1 (by decide)

theorem read_traces_plain (channels : List Nat) (events : List Event)
    (result : Option (Except Fault (Option (List Measurement))))
    (traced : (readTraces channels).Traced events result) : Plain events :=
  plain_of_parts _ events (read_traces_steady channels events result traced).1 (by decide)

def emissions (measurements : List Measurement) : List Event := measurements.map fun m => ⟨.emit m, ()⟩

theorem emit_all_traced (measurements : List Measurement) (events : List Event)
    (result : Option (Except Fault Unit)) (traced : (emitAll measurements).Traced events result) :
    events = emissions measurements ∧ result = some (.ok ()) := by
  induction measurements generalizing events with
  | nil => exact (traced_pure () events result).mp traced
  | cons m rest ih =>
      obtain ⟨_, tail, after, rfl⟩ := (traced_ask_bind (.emit m) _ events result).mp traced
      obtain ⟨rfl, ended⟩ := ih tail after
      exact ⟨rfl, ended⟩

theorem emissions_undivided (measurements : List Measurement) :
    Undivided (emissions measurements) := by
  intro e member
  obtain ⟨m, -, rfl⟩ := List.mem_map.mp member
  rfl

theorem emissions_called (measurements : List Measurement) :
    called (emissions measurements) = [] := by
  rw [called, List.filter_eq_nil_iff]
  intro e member
  obtain ⟨m, -, rfl⟩ := List.mem_map.mp member
  exact Bool.false_ne_true

theorem emissions_emitted (measurements : List Measurement) :
    emitted (emissions measurements) = measurements := by
  induction measurements with
  | nil => rfl
  | cons m rest ih =>
      rw [emissions, List.map_cons, emitted, List.filterMap_cons]
      exact congrArg (m :: ·) ih

end Sequencer
end PulseAnalyzer
