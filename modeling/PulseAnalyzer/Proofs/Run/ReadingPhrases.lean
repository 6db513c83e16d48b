import PulseAnalyzer.Proofs.Run.Plain
import PulseAnalyzer.Proofs.Run.Language

set_option autoImplicit false

namespace PulseAnalyzer

inductive Reading (channel : Nat) : Part → List Event → Measurement → Prop where
  | spectrum (length : Nat) (bins : Array UInt32) (statistics : Statistics) :
      Reading channel .readOut [.success (.spectrumLength channel) length,
        .success (.spectrum channel length) bins, .success (.statistics channel) statistics]
        (.spectrum channel statistics bins)
  | snapshot (bins : Array UInt32) (statistics : Statistics) :
      Reading channel .snapshotRead [.success (.snapshotSpectrum channel Sequencer.snapshotLength) bins,
        .success (.snapshotStatistics channel) statistics]
        (.spectrum channel statistics bins)
  | trace (length : Nat) (samples : Array UInt32) :
      Reading channel .captureRead [.success (.traceLength channel) length,
        .success (.trace channel length) samples]
        (.trace channel samples)

theorem measured_iff (part : Part) (channel : Nat) (events left : List Event) (m : Measurement) :
    measured? part channel events = some (m, left) ↔
      ∃ word, Reading channel part word m ∧ events = word ++ left := by
  constructor
  · intro found
    unfold measured? at found
    split at found
    · split at found
      · rename_i same
        obtain ⟨rfl, rfl, rfl, rfl, rfl⟩ := same
        cases found
        exact ⟨_, .spectrum _ _ _, rfl⟩
      · cases found
    · split at found
      · rename_i same
        obtain ⟨rfl, rfl, rfl, rfl⟩ := same
        cases found
        exact ⟨_, .snapshot _ _, rfl⟩
      · cases found
    · split at found
      · rename_i same
        obtain ⟨rfl, rfl, rfl, rfl⟩ := same
        cases found
        exact ⟨_, .trace _ _, rfl⟩
      · cases found
    · cases found
  · rintro ⟨word, reading, rfl⟩
    cases reading with
    | spectrum length bins statistics => exact measured_spectrum channel length bins statistics left
    | snapshot bins statistics => exact measured_snapshot channel bins statistics left
    | trace length samples => exact measured_trace channel length samples left

theorem complete_reading (part : Part) (channel : Nat) (rest : List Nat) (word left : List Event) (m : Measurement)
    (others : List Measurement) (reading : Reading channel part word m)
    (later : complete? part rest left = some others) :
    complete? part (channel :: rest) (word ++ left) = some (m :: others) := by
  have first := (measured_iff part channel (word ++ left) left m).mpr ⟨word, reading, rfl⟩
  rw [complete_cons part channel rest _ left m first, later]
  rfl

theorem complete_cons_iff (part : Part) (channel : Nat) (rest : List Nat) (events : List Event)
    (found : List Measurement) :
    complete? part (channel :: rest) events = some found ↔
      ∃ word left m others, Reading channel part word m ∧ complete? part rest left = some others ∧
        events = word ++ left ∧ found = m :: others := by
  constructor
  · intro complete
    unfold complete? at complete
    split at complete
    · rename_i m left first
      obtain ⟨word, reading, rfl⟩ := (measured_iff part channel events left m).mp first
      obtain ⟨others, later, rfl⟩ := Option.map_eq_some_iff.mp complete
      exact ⟨word, left, m, others, reading, later, rfl, rfl⟩
    · cases complete
  · rintro ⟨word, left, m, others, reading, later, rfl, rfl⟩
    exact complete_reading part channel rest word left m others reading later

theorem complete_nil_iff (part : Part) (events : List Event) (found : List Measurement) :
    complete? part [] events = some found ↔ events = [] ∧ found = [] := by
  cases events with
  | nil => exact ⟨fun same => ⟨rfl, (Option.some.inj same).symm⟩, fun same => congrArg some same.2.symm⟩
  | cons e rest => exact ⟨nofun, fun same => nomatch same.1⟩

-- The calls of a read-out of all channels that is cut short.
def Cut (part : Part) (channels : List Nat) (word : List Event) : Prop :=
  ∃ missing found, missing ≠ [] ∧ complete? part channels (word ++ missing) = some found

namespace Sequencer
open Procedure

theorem read_spectra_speaks (channels : List Nat) :
    Speaks (readSpectra channels) fun found word => complete? .readOut channels word = some found := by
  induction channels with
  | nil =>
      refine speaks_congr _ _ _ (speaks_pure []) fun found word => ?_
      rw [complete_nil_iff, and_comm]
  | cons channel rest ih =>
      have reads := speaks_api_bind (.spectrumLength channel) _ _ fun length =>
        speaks_api_bind (.spectrum channel length) _ _ fun bins =>
          speaks_api_bind (.statistics channel) _ _ fun statistics =>
            speaks_bind _ _ _ _ ih fun others =>
              speaks_pure (Measurement.spectrum channel statistics bins :: others)
      refine speaks_congr _ _ _ reads fun found word => ?_
      rw [complete_cons_iff]
      constructor
      · rintro ⟨first, left, m, others, reading, later, rfl, rfl⟩
        cases reading with
        | spectrum length bins statistics =>
            exact ⟨length, _, ⟨bins, _, ⟨statistics, _, ⟨others, left, [], later, ⟨rfl, rfl⟩, rfl⟩, rfl⟩, rfl⟩,
              by simp⟩
      · rintro ⟨length, _, ⟨bins, _, ⟨statistics, _, ⟨others, left, _, later, ⟨rfl, rfl⟩, rfl⟩, rfl⟩, rfl⟩, rfl⟩
        exact ⟨_, left, _, others, .spectrum length bins statistics, later, by simp, rfl⟩

theorem others_speak (m : Measurement) (read : Procedure (Option (List Measurement)))
    (language : Option (List Measurement) → List Event → Prop) (reads : Speaks read language) :
    Speaks (do
      match ← read with
      | none => return none
      | some others => return some (m :: others)) fun found word =>
        ∃ others, language others word ∧ found = others.map (m :: ·) := by
  have handed : ∀ others : Option (List Measurement), Speaks (match others with
      | none => pure none
      | some others => pure (some (m :: others)) : Procedure (Option (List Measurement)))
      fun found word => found = others.map (m :: ·) ∧ word = [] := by
    intro others
    cases others with
    | none => exact speaks_pure none
    | some others => exact speaks_pure (some (m :: others))
  refine speaks_congr _ _ _ (speaks_bind _ _ _ _ reads handed) fun found word => ?_
  constructor
  · rintro ⟨others, said, same⟩
    exact ⟨others, word, [], said, ⟨same, rfl⟩, (List.append_nil word).symm⟩
  · rintro ⟨others, head, _, said, ⟨same, rfl⟩, rfl⟩
    rw [List.append_nil]
    exact ⟨others, said, same⟩

theorem snapshot_readable (channels : List Nat) : ∃ word found, complete? .snapshotRead channels word = some found := by
  induction channels with
  | nil => exact ⟨[], [], rfl⟩
  | cons channel rest ih =>
      obtain ⟨left, others, later⟩ := ih
      have reading : Reading channel .snapshotRead _ _ := .snapshot #[] ⟨0, 0, 0, 0, 0, 0, 0, 0, 0⟩
      exact ⟨_, _, complete_reading _ channel rest _ left _ others reading later⟩

-- A snapshot of the channels can be cut before each of its calls.
theorem cut_snapshot_cons_iff (channel : Nat) (rest : List Nat) (word : List Event) :
    Cut .snapshotRead (channel :: rest) word ↔
      word = [] ∨ ∃ bins tail, word = .success (.snapshotSpectrum channel snapshotLength) bins :: tail ∧
        (tail = [] ∨ ∃ statistics left,
          tail = .success (.snapshotStatistics channel) statistics :: left ∧ Cut .snapshotRead rest left) := by
  constructor
  · rintro ⟨missing, found, missed, complete⟩
    obtain ⟨_, left, m, others, reading, later, same, rfl⟩ := (complete_cons_iff _ _ _ _ _).mp complete
    cases reading with
    | snapshot bins statistics =>
        rcases word with _ | ⟨e, _ | ⟨f, tail⟩⟩
        · exact .inl rfl
        · obtain ⟨rfl, -⟩ := List.cons.inj same
          exact .inr ⟨bins, [], rfl, .inl rfl⟩
        · simp only [List.cons_append, List.nil_append, List.cons.injEq] at same
          obtain ⟨rfl, rfl, rfl⟩ := same
          exact .inr ⟨bins, _, rfl, .inr ⟨statistics, tail, rfl, missing, others, missed, later⟩⟩
  · obtain ⟨left, others, later⟩ := snapshot_readable rest
    have whole : ∀ bins statistics left others, complete? .snapshotRead rest left = some others →
        complete? .snapshotRead (channel :: rest) (.success (.snapshotSpectrum channel snapshotLength) bins ::
          .success (.snapshotStatistics channel) statistics :: left) =
            some (.spectrum channel statistics bins :: others) := fun bins statistics left others later =>
      complete_reading _ channel rest _ left _ others (.snapshot bins statistics) later
    rintro (rfl | ⟨bins, _, rfl, rfl | ⟨statistics, tail, rfl, missing, found, missed, complete⟩⟩)
    · exact ⟨_, _, List.cons_ne_nil _ _, whole #[] ⟨0, 0, 0, 0, 0, 0, 0, 0, 0⟩ left others later⟩
    · exact ⟨_, _, List.cons_ne_nil _ _, whole bins ⟨0, 0, 0, 0, 0, 0, 0, 0, 0⟩ left others later⟩
    · exact ⟨missing, _, missed, whole bins statistics _ found complete⟩

theorem read_snapshot_speaks (channels : List Nat) :
    Speaks (readSnapshot channels) fun found word => match found with
      | some measurements => complete? .snapshotRead channels word = some measurements
      | none => Cut .snapshotRead channels word := by
  induction channels with
  | nil =>
      refine speaks_congr _ _ _ (speaks_pure (some [])) fun found word => ?_
      cases found with
      | some measurements =>
          refine (complete_nil_iff _ _ _).trans ?_
          rw [and_comm, Option.some.injEq]
      | none =>
          refine ⟨?_, nofun⟩
          rintro ⟨missing, found, missed, complete⟩
          obtain ⟨nothing, -⟩ := (complete_nil_iff _ _ _).mp complete
          exact absurd (List.append_eq_nil_iff.mp nothing).2 missed
  | cons channel rest ih =>
      have reads := speaks_check _ _ _ _ (speaks_pure none) <|
        speaks_api_bind (.snapshotSpectrum channel snapshotLength) _ _ fun bins =>
          speaks_check _ _ _ _ (speaks_pure none) <|
            speaks_api_bind (.snapshotStatistics channel) _ _ fun statistics =>
              others_speak (.spectrum channel statistics bins) _ _ ih
      refine speaks_congr _ _ _ reads fun found word => ?_
      cases found with
      | some measurements =>
          constructor
          · intro complete
            obtain ⟨_, left, m, others, reading, later, rfl, rfl⟩ := (complete_cons_iff _ _ _ _ _).mp complete
            cases reading with
            | snapshot bins statistics =>
                exact .inr ⟨bins, _, .inr ⟨statistics, left, ⟨some others, later, rfl⟩, rfl⟩, rfl⟩
          · rintro (⟨impossible, -⟩ | ⟨bins, _, ⟨impossible, -⟩ | ⟨statistics, left, ⟨others, later, same⟩, rfl⟩, rfl⟩)
            · cases impossible
            · cases impossible
            · cases others with
              | none => cases same
              | some others =>
                  cases same
                  exact complete_reading _ channel rest _ left _ others (.snapshot bins statistics) later
      | none =>
          refine (cut_snapshot_cons_iff channel rest word).trans ?_
          constructor
          · rintro (rfl | ⟨bins, _, rfl, rfl | ⟨statistics, left, rfl, cut⟩⟩)
            · exact .inl ⟨rfl, rfl⟩
            · exact .inr ⟨bins, [], .inl ⟨rfl, rfl⟩, rfl⟩
            · exact .inr ⟨bins, _, .inr ⟨statistics, left, ⟨none, cut, rfl⟩, rfl⟩, rfl⟩
          · rintro (⟨-, rfl⟩ | ⟨bins, _, ⟨-, rfl⟩ | ⟨statistics, left, ⟨others, later, same⟩, rfl⟩, rfl⟩)
            · exact .inl rfl
            · exact .inr ⟨bins, [], rfl, .inl rfl⟩
            · cases others with
              | none => exact .inr ⟨bins, _, rfl, .inr ⟨statistics, left, rfl, later⟩⟩
              | some others => cases same

theorem read_traces_speaks (channels : List Nat) :
    Speaks (readTraces channels) fun found word => match found with
      | some measurements => complete? .captureRead channels word = some measurements
      | none => ∃ read found, read < channels.length ∧
          complete? .captureRead (channels.take read) word = some found := by
  induction channels with
  | nil =>
      refine speaks_congr _ _ _ (speaks_pure (some [])) fun found word => ?_
      cases found with
      | some measurements =>
          refine (complete_nil_iff _ _ _).trans ?_
          rw [and_comm, Option.some.injEq]
      | none => simp
  | cons channel rest ih =>
      have reads := speaks_check _ _ _ _ (speaks_pure none) <|
        speaks_api_bind (.traceLength channel) _ _ fun length =>
          speaks_api_bind (.trace channel length) _ _ fun samples =>
            others_speak (.trace channel samples) _ _ ih
      refine speaks_congr _ _ _ reads fun found word => ?_
      cases found with
      | some measurements =>
          constructor
          · intro complete
            obtain ⟨_, left, m, others, reading, later, rfl, rfl⟩ := (complete_cons_iff _ _ _ _ _).mp complete
            cases reading with
            | trace length samples =>
                exact .inr ⟨length, _, ⟨samples, left, ⟨some others, later, rfl⟩, rfl⟩, rfl⟩
          · rintro (⟨impossible, -⟩ | ⟨length, _, ⟨samples, left, ⟨others, later, same⟩, rfl⟩, rfl⟩)
            · cases impossible
            · cases others with
              | none => cases same
              | some others =>
                  cases same
                  exact complete_reading _ channel rest _ left _ others (.trace length samples) later
      | none =>
          constructor
          · rintro ⟨read, found, few, complete⟩
            cases read with
            | zero =>
                obtain ⟨rfl, -⟩ := (complete_nil_iff _ _ _).mp complete
                exact .inl ⟨rfl, rfl⟩
            | succ read =>
                obtain ⟨_, left, m, others, reading, later, rfl, rfl⟩ := (complete_cons_iff _ _ _ _ _).mp complete
                have fewer : read < rest.length := Nat.lt_of_succ_lt_succ few
                cases reading with
                | trace length samples =>
                    exact .inr ⟨length, _, ⟨samples, left, ⟨none, ⟨read, others, fewer, later⟩, rfl⟩, rfl⟩, rfl⟩
          · rintro (⟨-, rfl⟩ | ⟨length, _, ⟨samples, left, ⟨others, later, same⟩, rfl⟩, rfl⟩)
            · exact ⟨0, [], Nat.succ_pos _, rfl⟩
            · cases others with
              | none =>
                  obtain ⟨read, found, few, complete⟩ := later
                  have whole := complete_reading .captureRead channel _ _ left _ found (.trace length samples) complete
                  exact ⟨read + 1, _, Nat.succ_lt_succ few, whole⟩
              | some others => cases same

end Sequencer
end PulseAnalyzer
