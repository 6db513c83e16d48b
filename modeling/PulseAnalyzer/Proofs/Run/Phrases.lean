import PulseAnalyzer.Proofs.Run.CyclePhrases

set_option autoImplicit false

namespace PulseAnalyzer
namespace Sequencer
open Procedure

theorem handing_speaks (found : Option (List Measurement)) :
    Speaks (match found with
      | none => pure ⟨.cancelled, 0⟩
      | some measurements => do
        emitAll measurements
        return ⟨.completed, measurements.length⟩) fun summary word =>
      summary = found.elim (⟨.cancelled, 0⟩ : Summary) (⟨.completed, ·.length⟩) ∧ word = [] := by
  cases found with
  | none => exact speaks_pure _
  | some measurements =>
      have emitted := speaks_bind _ _ _ _ (emit_all_speaks measurements) fun _ =>
        speaks_pure (⟨.completed, measurements.length⟩ : Summary)
      simpa using emitted

theorem trace_speaks (s : Sequencer) (plan : TracePlan) :
    Speaks (s.trace plan) fun summary word =>
      summary = ⟨.cancelled, 0⟩ ∧ word = [] ∨
      ∃ read reads found, read ≤ s.channels.length ∧ complete? .captureRead (s.channels.take read) reads = some found ∧
        summary = (if read = s.channels.length then ⟨.completed, s.channels.length⟩ else ⟨.cancelled, 0⟩) ∧
        word = .success (.special s.target (.adcTrace plan.samplePeriod)) () :: reads := by
  have captured := speaks_check _ _ _ _ (speaks_pure (⟨.cancelled, 0⟩ : Summary)) <|
    speaks_api_bind (.special s.target (.adcTrace plan.samplePeriod)) _ _ fun _ =>
      speaks_bind _ _ _ _ (read_traces_speaks s.channels) handing_speaks
  refine speaks_congr _ _ _ captured fun summary word => or_congr_right ?_
  constructor
  · rintro ⟨read, reads, found, few, complete, rfl, rfl⟩
    refine ⟨(), reads, ?_, rfl⟩
    split
    · rename_i all
      have size := complete_length _ _ _ _ complete
      rw [all, List.take_length] at complete size
      exact ⟨some found, reads, [], complete, ⟨by simp [size], rfl⟩, (List.append_nil reads).symm⟩
    · rename_i short
      have fewer := Nat.lt_of_le_of_ne few short
      exact ⟨none, reads, [], ⟨read, found, fewer, complete⟩, ⟨rfl, rfl⟩, (List.append_nil reads).symm⟩
  · rintro ⟨_, _, ⟨found, reads, _, read, ⟨rfl, rfl⟩, rfl⟩, rfl⟩
    rw [List.append_nil]
    cases found with
    | none =>
        obtain ⟨count, found, few, complete⟩ := read
        refine ⟨count, reads, found, Nat.le_of_lt few, complete, ?_, rfl⟩
        exact (if_neg (Nat.ne_of_lt few)).symm
    | some found =>
        have size := complete_length _ _ _ _ read
        refine ⟨s.channels.length, reads, found, Nat.le_refl _, by rwa [List.take_length], ?_, rfl⟩
        rw [if_pos rfl, ← size]
        rfl

def writes (settings : List (String × Float)) (channels : List Nat) : List Event :=
  channels.flatMap fun channel => settings.map fun setting => .success (.setValue channel setting.1 setting.2) ()

theorem write_speaks (channel : Nat) (settings : List (String × Float)) :
    Speaks (configure.write channel settings) fun _ word =>
      word = settings.map fun setting => .success (.setValue channel setting.1 setting.2) () := by
  induction settings with
  | nil =>
      refine speaks_congr _ _ _ (speaks_pure ()) fun _ word => ?_
      simp
  | cons setting rest ih =>
      refine speaks_congr _ _ _ (speaks_api_bind (.setValue channel setting.1 setting.2) _ _ fun _ => ih) fun _ word => ?_
      constructor
      · rintro rfl
        exact ⟨(), _, rfl, rfl⟩
      · rintro ⟨_, _, rfl, rfl⟩
        rfl

theorem configure_speaks (settings : List (String × Float)) (channels : List Nat) :
    Speaks (configure settings channels) fun _ word => word = writes settings channels := by
  induction channels with
  | nil =>
      refine speaks_congr _ _ _ (speaks_pure ()) fun _ word => ?_
      simp [writes]
  | cons channel rest ih =>
      refine speaks_congr _ _ _ (speaks_bind _ _ _ _ (write_speaks channel settings) fun _ => ih) fun _ word => ?_
      constructor
      · rintro rfl
        exact ⟨(), _, _, rfl, rfl, rfl⟩
      · rintro ⟨_, _, _, rfl, rfl, rfl⟩
        rfl

theorem begin_speaks (s : Sequencer) (resume : Bool) :
    Speaks (s.begin resume) fun _ word => word = [.success (.startRun s.target resume) ()] := by
  have begun := speaks_api_bind (.startRun s.target resume) _ _ fun _ => speaks_ask (.enter .running) fun _ => rfl
  refine speaks_congr _ _ _ begun fun _ word => ?_
  constructor
  · rintro rfl
    exact ⟨(), [], rfl, rfl⟩
  · rintro ⟨_, _, rfl, rfl⟩
    rfl

theorem finish_speaks (s : Sequencer) :
    Speaks s.finish fun _ word => word = [.success (.stopRun s.target) ()] := by
  have finished := speaks_ask_bind (.enter .stopping) _ _ (fun _ => rfl) fun _ => speaks_api (.stopRun s.target)
  refine speaks_congr _ _ _ finished fun _ word => ?_
  simp

-- A run that was started returns a value only when its body does and it is stopped without a fault.
theorem between_speaks {α : Type} (s : Sequencer) (resume : Bool) (body : Procedure α) (language : α → List Event → Prop)
    (speaks : Speaks body language) :
    Speaks (s.between resume body) fun value word =>
      ∃ during, language value during ∧ word = .success (.startRun s.target resume) () ::
        (during ++ [.success (.stopRun s.target) ()]) := by
  have stopped : ∀ value : α, Speaks (do
      let stopped ← ExceptT.lift s.finish.run
      Procedure.ofExcept (withCleanup (.ok value) stopped)) fun found word =>
        found = value ∧ word = [.success (.stopRun s.target) ()] := by
    intro value
    have settled := speaks_lift_bind _ (fun answer => Procedure.ofExcept (withCleanup (.ok value) answer)) _ _ (finish_speaks s)
      (fun _ => speaks_pure value) fun fault => speaks_error fault
    refine speaks_congr _ _ _ settled fun found word => ?_
    constructor
    · rintro ⟨rfl, rfl⟩
      exact ⟨(), _, [], rfl, ⟨rfl, rfl⟩, rfl⟩
    · rintro ⟨_, _, _, rfl, ⟨rfl, rfl⟩, rfl⟩
      exact ⟨rfl, rfl⟩
  have faulty : ∀ fault : Fault, Speaks (do
      let stopped ← ExceptT.lift s.finish.run
      Procedure.ofExcept (withCleanup (.error fault : Except Fault α) stopped)) fun _ _ => False := by
    intro fault
    have settled := speaks_lift_bind _ (fun answer => Procedure.ofExcept (withCleanup (.error fault : Except Fault α) answer)) _ _
      (finish_speaks s) (fun _ => speaks_error fault) fun _ => speaks_error fault
    refine speaks_congr _ _ _ settled fun found word => ?_
    simp
  have whole : Speaks (s.between resume body) _ := speaks_bind _ _ _ _ (begin_speaks s resume) fun _ =>
    speaks_lift_bind body _ _ _ speaks stopped faulty
  refine speaks_congr _ _ _ whole fun value word => ?_
  constructor
  · rintro ⟨during, said, rfl⟩
    exact ⟨(), _, _, rfl, ⟨value, during, _, said, ⟨rfl, rfl⟩, rfl⟩, rfl⟩
  · rintro ⟨_, _, _, rfl, ⟨_, during, _, said, ⟨rfl, rfl⟩, rfl⟩, rfl⟩
    exact ⟨during, said, rfl⟩

theorem measured_speaks {α : Type} (s : Sequencer) (settings : List (String × Float)) (resume : Bool)
    (body : Procedure α) (rest : α → Procedure Summary) (language : α → List Event → Prop)
    (closing : α → Summary → List Event → Prop) (speaks : Speaks body language)
    (reads : ∀ value, Speaks (rest value) (closing value)) :
    Speaks (do
      configure settings s.channels
      if ← ask .isCancelled then return ⟨.cancelled, 0⟩
      let value ← s.between resume body
      rest value) fun summary word =>
        summary = ⟨.cancelled, 0⟩ ∧ word = writes settings s.channels ∨
        ∃ value during tail, language value during ∧ closing value summary tail ∧
          word = writes settings s.channels ++ .success (.startRun s.target resume) () ::
            (during ++ .success (.stopRun s.target) () :: tail) := by
  have run := speaks_bind _ _ _ _ (configure_speaks settings s.channels) fun _ =>
    speaks_check _ _ _ _ (speaks_pure (⟨.cancelled, 0⟩ : Summary)) <|
      speaks_bind _ _ _ _ (between_speaks s resume body language speaks) reads
  refine speaks_congr _ _ _ run fun summary word => ?_
  constructor
  · rintro (⟨rfl, rfl⟩ | ⟨value, during, tail, said, closed, rfl⟩)
    · exact ⟨(), _, [], rfl, .inl ⟨rfl, rfl⟩, (List.append_nil _).symm⟩
    · exact ⟨(), _, _, rfl, .inr ⟨value, _, tail, ⟨during, said, rfl⟩, closed, rfl⟩, by simp⟩
  · rintro ⟨_, _, _, rfl, ⟨rfl, rfl⟩ | ⟨value, _, tail, ⟨during, said, rfl⟩, closed, rfl⟩, rfl⟩
    · exact .inl ⟨rfl, List.append_nil _⟩
    · exact .inr ⟨value, during, tail, said, closed, by simp⟩

end Sequencer
end PulseAnalyzer
