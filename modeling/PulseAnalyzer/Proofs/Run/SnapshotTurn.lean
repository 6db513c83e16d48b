import PulseAnalyzer.Proofs.Run.Plain

set_option autoImplicit false

namespace PulseAnalyzer
namespace Sequencer
open Procedure

-- One turn of the loop of snapshots, with what is left of the run after it.
inductive SnapshotTurn (s : Sequencer) (clear : Bool) (budget : Nat) (ticker : Ticker) (emitted : Nat) :
    List Event → Option (Except Fault Nat) → Prop where
  | recalled : SnapshotTurn s clear budget ticker emitted [⟨.await ticker.deadline, none⟩] (some (.ok emitted))
  | cancelled (now : Instant) :
      SnapshotTurn s clear budget ticker emitted [⟨.await ticker.deadline, some now⟩, .checked true] (some (.ok emitted))
  | refused (now : Instant) (code : Int) (fault : Fault) :
      SnapshotTurn s clear budget ticker emitted [⟨.await ticker.deadline, some now⟩, .checked false,
        .failure (.special s.target (.snapshot clear)) code] (some (.error fault))
  | failed (now : Instant) (reads : List Event) (fault : Fault)
      (read : (readSnapshot s.channels).Traced reads (some (.error fault))) :
      SnapshotTurn s clear budget ticker emitted (⟨.await ticker.deadline, some now⟩ :: .checked false ::
        .success (.special s.target (.snapshot clear)) () :: reads) (some (.error fault))
  | cut (now : Instant) (reads : List Event) (read : (readSnapshot s.channels).Traced reads (some (.ok none))) :
      SnapshotTurn s clear budget ticker emitted (⟨.await ticker.deadline, some now⟩ :: .checked false ::
        .success (.special s.target (.snapshot clear)) () :: reads) (some (.ok emitted))
  | whole (now : Instant) (reads later : List Event) (measurements : List Measurement) (result : Option (Except Fault Nat))
      (read : (readSnapshot s.channels).Traced reads (some (.ok (some measurements))))
      (after : (s.takeSnapshots clear budget (ticker.taken now) (emitted + measurements.length)).Traced later result) :
      SnapshotTurn s clear budget ticker emitted (⟨.await ticker.deadline, some now⟩ :: .checked false ::
        .success (.special s.target (.snapshot clear)) () :: (reads ++ (emissions measurements ++ later))) result

theorem emit_all_then {α : Type} (measurements : List Measurement) (p : Procedure α) (events : List Event)
    (result : Option (Except Fault α)) (traced : Traced (do emitAll measurements; p) events result) :
    ∃ later, events = emissions measurements ++ later ∧ p.Traced later result := by
  rcases (traced_bind _ _ events result).mp traced with ⟨_, emits, later, handed, after, rfl⟩ | ⟨_, failed, -⟩ | ⟨stuck, -⟩
  · obtain ⟨rfl, -⟩ := emit_all_traced measurements emits _ handed
    exact ⟨later, rfl, after⟩
  · obtain ⟨-, impossible⟩ := emit_all_traced measurements events _ failed
    cases impossible
  · obtain ⟨-, impossible⟩ := emit_all_traced measurements events _ stuck
    cases impossible

theorem snapshot_turn (s : Sequencer) (clear : Bool) (budget : Nat) (ticker : Ticker) (emitted : Nat) (events : List Event)
    (result : Option (Except Fault Nat))
    (traced : (s.takeSnapshots clear (budget + 1) ticker emitted).Traced events result) :
    SnapshotTurn s clear budget ticker emitted events result := by
  obtain ⟨woken, waited, ticked, rfl⟩ := (traced_ask_bind (.await ticker.deadline) _ events result).mp traced
  cases woken with
  | none =>
      obtain ⟨rfl, rfl⟩ := (traced_pure _ waited result).mp ticked
      exact .recalled
  | some now =>
      obtain ⟨stop, checked, going, rfl⟩ := (traced_ask_bind .isCancelled _ waited result).mp ticked
      cases stop with
      | true =>
          obtain ⟨rfl, rfl⟩ := (traced_pure _ checked result).mp going
          exact .cancelled now
      | false =>
          rcases (traced_api_bind _ _ checked result).mp going with ⟨_, taken, reading, rfl⟩ | ⟨code, rfl, rfl⟩
          · rcases (traced_bind _ _ taken result).mp reading with
              ⟨found, reads, after, read, emitting, rfl⟩ | ⟨fault, failed, rfl⟩ | ⟨stuck, -⟩
            · cases found with
              | none =>
                  obtain ⟨rfl, rfl⟩ := (traced_pure _ after result).mp emitting
                  rw [List.append_nil]
                  exact .cut now reads read
              | some measurements =>
                  obtain ⟨later, rfl, again⟩ := emit_all_then measurements _ after result emitting
                  exact .whole now reads later measurements result read again
            · exact .failed now taken fault failed
            · obtain ⟨_, impossible, -⟩ := read_snapshot_complete s.channels taken _ stuck
              cases impossible
          · exact .refused now code _

end Sequencer
end PulseAnalyzer
