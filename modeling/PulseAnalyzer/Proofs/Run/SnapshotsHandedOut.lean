import PulseAnalyzer.Proofs.Run.SnapshotTurn

set_option autoImplicit false

namespace PulseAnalyzer
namespace Sequencer
open Procedure

-- What is handed out so far is read out so far, and a loop of snapshots keeps it so.
structure HandsOut (channels : List Nat) (events : List Event) : Prop where
  divides : Divides events
  same : emitted events = (readOuts channels events).flatten

theorem hands_out_nothing (channels : List Nat) : HandsOut channels [] :=
  ⟨nofun, rfl⟩

theorem emitted_section (opener : Event) (reads rest : List Event) (found : List Measurement)
    (silent : opener.measurement? = none) (plain : Plain reads) :
    emitted (opener :: (reads ++ (emissions found ++ rest))) = found ++ emitted rest := by
  calc emitted (opener :: (reads ++ (emissions found ++ rest)))
      = emitted (reads ++ (emissions found ++ rest)) := List.filterMap_cons_none silent
    _ = found ++ emitted rest := by
        rw [emitted_append, emitted_append, plain_emitted reads plain, emissions_emitted, List.nil_append]

theorem hands_out_section (channels : List Nat) (opener : Event) (reads rest : List Event)
    (found : List Measurement) (delimits : opener.delimits = true) (silent : opener.measurement? = none)
    (plain : Plain reads)
    (complete : (readOut? channels (opener, called reads)).toList.flatten = found)
    (after : HandsOut channels rest) :
    HandsOut channels (opener :: (reads ++ (emissions found ++ rest))) := by
  have divides : Divides (emissions found ++ rest) := by
    intro e left asked
    rw [called_append, emissions_called] at asked
    exact after.divides e left asked
  constructor
  · intro e left asked
    rw [called_delimiter opener _ delimits] at asked
    obtain ⟨rfl, -⟩ := List.cons.inj asked
    exact delimits
  · rw [read_outs_section channels opener reads _ delimits (plain_undivided reads plain) divides,
      read_outs_undivided channels _ rest (emissions_undivided found), emitted_section opener reads rest found silent plain,
      List.flatten_append, complete, after.same]

theorem hands_out_unread (channels : List Nat) (opener : Event) (reads : List Event)
    (delimits : opener.delimits = true) (silent : opener.measurement? = none)
    (plain : Plain reads) (cut : readOut? channels (opener, called reads) = none) :
    HandsOut channels (opener :: reads) := by
  have unread := hands_out_section channels opener reads [] [] delimits silent plain (by rw [cut]; rfl)
    (hands_out_nothing channels)
  simpa [emissions] using unread

section cycle
variable (s : Sequencer) (clear : Bool) (reads : List Event)

theorem snapshot_unread (outcome : Except Fault (Option (List Measurement)))
    (read : (readSnapshot s.channels).Traced reads (some outcome)) (nothing : outcome.toOption.join = none) :
    HandsOut s.channels (.success (.special s.target (.snapshot clear)) () :: reads) := by
  obtain ⟨found, same, complete⟩ := read_snapshot_complete s.channels reads _ read
  cases same
  exact hands_out_unread s.channels _ reads rfl rfl (read_snapshot_plain _ reads _ read)
    (complete.trans nothing)

theorem snapshot_read (more : List Event) (measurements : List Measurement)
    (read : (readSnapshot s.channels).Traced reads (some (.ok (some measurements))))
    (later : HandsOut s.channels more) :
    HandsOut s.channels (.success (.special s.target (.snapshot clear)) () ::
        (reads ++ (emissions measurements ++ more))) ∧
      emitted (.success (.special s.target (.snapshot clear)) () ::
        (reads ++ (emissions measurements ++ more))) = measurements ++ emitted more := by
  have plain := read_snapshot_plain s.channels reads _ read
  obtain ⟨outcome, same, complete⟩ := read_snapshot_complete s.channels reads _ read
  cases same
  have found : readOut? s.channels (.success (.special s.target (.snapshot clear)) (), called reads) =
      some measurements := complete
  refine ⟨hands_out_section s.channels _ reads more measurements rfl rfl plain ?_ later,
    emitted_section _ reads more measurements rfl plain⟩
  rw [found]
  exact List.append_nil measurements

end cycle

theorem take_snapshots_hands_out (s : Sequencer) (clear : Bool) (budget : Nat) (ticker : Ticker) (count : Nat)
    (events : List Event) (result : Option (Except Fault Nat))
    (traced : (s.takeSnapshots clear budget ticker count).Traced events result) :
    HandsOut s.channels events ∧ ∀ n, result = some (.ok n) → n = count + (emitted events).length := by
  induction budget generalizing ticker count events result with
  | zero =>
      obtain ⟨rfl, rfl⟩ := (traced_spent events result).mp traced
      exact ⟨hands_out_nothing s.channels, nofun⟩
  | succ budget ih =>
      cases s.snapshot_turn clear budget ticker count events result traced with
      | recalled | cancelled =>
          refine ⟨⟨nofun, rfl⟩, fun n ended => ?_⟩
          cases ended
          rfl
      | refused now code fault =>
          have cut := hands_out_unread s.channels (.failure (.special s.target (.snapshot clear)) code) []
            rfl rfl plain_nil rfl
          exact ⟨⟨cut.divides, cut.same⟩, nofun⟩
      | failed now reads fault read =>
          have cut := snapshot_unread s clear reads _ read rfl
          exact ⟨⟨cut.divides, cut.same⟩, nofun⟩
      | cut now reads read =>
          have cut := snapshot_unread s clear reads _ read rfl
          refine ⟨⟨cut.divides, cut.same⟩, fun n ended => ?_⟩
          cases ended
          have nothing := plain_emitted reads (read_snapshot_plain _ reads _ read)
          exact (congrArg (count + List.length ·) nothing).symm
      | whole now reads later measurements _ read after =>
          obtain ⟨handed, counted⟩ := ih (ticker.taken now) _ later result after
          have cycle := snapshot_read s clear reads later measurements read handed
          refine ⟨⟨cycle.1.divides, cycle.1.same⟩, fun n ended => ?_⟩
          rw [counted n ended, Nat.add_assoc, ← List.length_append]
          exact (congrArg (count + List.length ·) cycle.2).symm

end Sequencer
end PulseAnalyzer
