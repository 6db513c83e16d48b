import PulseAnalyzer.Proofs.Run.Beats

set_option autoImplicit false

namespace PulseAnalyzer
namespace Sequencer
open Procedure

section emissions
variable (measurements : List Measurement) (l : List Stamp) (emits : shown l = emissions measurements)
include emits

theorem emitted_each : ∀ x ∈ l, ∃ m, x.event = ⟨.emit m, ()⟩ := by
  intro x member
  have here : x.event ∈ emissions measurements := emits ▸ List.mem_map_of_mem member
  obtain ⟨m, -, same⟩ := List.mem_map.mp here
  exact ⟨m, same.symm⟩

theorem emitted_uncalled : calledAt l = [] := by
  rw [calledAt, List.filterMap_eq_nil_iff]
  intro x member
  obtain ⟨m, same⟩ := emitted_each measurements l emits x member
  rw [same]
  rfl

theorem emitted_calm : Calm l := by
  intro x member
  obtain ⟨m, same⟩ := emitted_each measurements l emits x member
  rw [same]
  rfl

end emissions

def snapshotCalls (channels : List Nat) : List Acquisition.Call :=
  channels.flatMap fun channel => [.snapshotSpectrum channel snapshotLength, .snapshotStatistics channel]

def snapshotCycle (s : Sequencer) (clear : Bool) : List Acquisition.Call :=
  .special s.target (.snapshot clear) :: snapshotCalls s.channels

def SnapshotEnds (channels : List Nat) (events : List Event) : Option (Except Fault (Option (List Measurement))) → Prop
  | some (.ok (some found)) => calls events = snapshotCalls channels ∧ found.length = channels.length
  | some (.ok none) => .checked true ∈ events
  | some (.error _) => True
  | none => False

theorem read_snapshot_asks (channels : List Nat) (events : List Event)
    (result : Option (Except Fault (Option (List Measurement))))
    (traced : (readSnapshot channels).Traced events result) :
    calls events <+: snapshotCalls channels ∧ SnapshotEnds channels events result := by
  induction channels generalizing events result with
  | nil =>
      obtain ⟨rfl, rfl⟩ := (traced_pure _ events result).mp traced
      exact ⟨List.prefix_rfl, rfl, rfl⟩
  | cons channel rest ih =>
      obtain ⟨cancelled, later, checked, rfl⟩ := (traced_ask_bind .isCancelled _ events result).mp traced
      cases cancelled with
      | true =>
          obtain ⟨rfl, rfl⟩ := (traced_pure _ later result).mp checked
          exact ⟨List.nil_prefix, by simp [SnapshotEnds]⟩
      | false =>
          rcases (traced_api_bind (.snapshotSpectrum channel snapshotLength) _ later result).mp checked with
            ⟨bins, tail, after, rfl⟩ | ⟨code, rfl, rfl⟩
          · obtain ⟨recalled, left, rechecked, rfl⟩ := (traced_ask_bind .isCancelled _ tail result).mp after
            cases recalled with
            | true =>
                obtain ⟨rfl, rfl⟩ := (traced_pure _ left result).mp rechecked
                exact ⟨⟨_, rfl⟩, by simp [SnapshotEnds]⟩
            | false =>
                rcases (traced_api_bind (.snapshotStatistics channel) _ left result).mp rechecked with
                  ⟨statistics, last, read, rfl⟩ | ⟨code, rfl, rfl⟩
                · have longer : ∀ word, calls word <+: snapshotCalls rest → calls (.checked false ::
                      .success (.snapshotSpectrum channel snapshotLength) bins :: .checked false ::
                      .success (.snapshotStatistics channel) statistics :: word) <+: snapshotCalls (channel :: rest) :=
                    fun word short => (List.prefix_append_right_inj [_, _]).mpr short
                  rcases (traced_bind _ _ last result).mp read with
                    ⟨found, head, ending, reads, ended, rfl⟩ | ⟨fault, failed, rfl⟩ | ⟨stuck, -⟩
                  · obtain ⟨short, told⟩ := ih head _ reads
                    cases found with
                    | none =>
                        obtain ⟨rfl, rfl⟩ := (traced_pure _ ending result).mp ended
                        rw [List.append_nil]
                        exact ⟨longer head short, by simp [SnapshotEnds, show _ ∈ head from told]⟩
                    | some others =>
                        obtain ⟨rfl, rfl⟩ := (traced_pure _ ending result).mp ended
                        rw [List.append_nil]
                        obtain ⟨whole, count⟩ := told
                        exact ⟨longer head short, congrArg ([_, _] ++ ·) whole, congrArg Nat.succ count⟩
                  · exact ⟨longer last (ih last _ failed).1, trivial⟩
                  · exact (ih last _ stuck).2.elim
                · exact ⟨⟨snapshotCalls rest, rfl⟩, trivial⟩
          · exact ⟨⟨_, rfl⟩, trivial⟩

def triggering (s : Sequencer) (clear : Bool) (t : Nat) (deadline : Instant) (u : Nat) : List Stamp :=
  [⟨t, ⟨.await deadline, some (u * 1000000)⟩⟩, ⟨u, .checked false⟩, ⟨u, .success (.special s.target (.snapshot clear)) ()⟩]

structure ReadAt (u : Nat) (channels : List Nat) (reads : List Stamp) : Prop where
  still : ∀ x ∈ reads, x.millis = u
  parts : ∀ e ∈ shown reads, e.part ∈ [Part.check, .snapshotRead]
  short : calls (shown reads) <+: snapshotCalls channels

-- One cycle of the loop of snapshots, from the time `t` on.
inductive Snapped (pace : Pace) (s : Sequencer) (clear : Bool) (budget : Nat) (ticker : Ticker) (emitted t : Nat) :
    List Stamp → Option (Except Fault Nat) → Nat → Prop where
  | interrupted (v : Nat) (step : pace t ⟨.await ticker.deadline, none⟩ v) :
      Snapped pace s clear budget ticker emitted t [⟨t, ⟨.await ticker.deadline, none⟩⟩] (some (.ok emitted)) v
  | recalled (u : Nat) (woken : u = max t (Bench.wakeMillis ticker.deadline))
      (waited : pace t ⟨.await ticker.deadline, some (u * 1000000)⟩ u) (step : pace u (.checked true) u) :
      Snapped pace s clear budget ticker emitted t
        [⟨t, ⟨.await ticker.deadline, some (u * 1000000)⟩⟩, ⟨u, .checked true⟩] (some (.ok emitted)) u
  | refused (u : Nat) (woken : u = max t (Bench.wakeMillis ticker.deadline))
      (waited : pace t ⟨.await ticker.deadline, some (u * 1000000)⟩ u) (code : Int) (fault : Fault) :
      Snapped pace s clear budget ticker emitted t
        [⟨t, ⟨.await ticker.deadline, some (u * 1000000)⟩⟩, ⟨u, .checked false⟩,
          ⟨u, .failure (.special s.target (.snapshot clear)) code⟩] (some (.error fault)) u
  | cut (u : Nat) (woken : u = max t (Bench.wakeMillis ticker.deadline))
      (waited : pace t ⟨.await ticker.deadline, some (u * 1000000)⟩ u) (reads : List Stamp)
      (read : ReadAt u s.channels reads) (step : pace u (.checked true) u) :
      Snapped pace s clear budget ticker emitted t (s.triggering clear t ticker.deadline u ++ reads) (some (.ok emitted)) u
  | failed (u : Nat) (woken : u = max t (Bench.wakeMillis ticker.deadline))
      (waited : pace t ⟨.await ticker.deadline, some (u * 1000000)⟩ u) (past : List Stamp) (last : Event) (fault : Fault)
      (read : ReadAt u s.channels (past ++ [⟨u, last⟩])) (clean : Clean (shown past)) (fails : last.fault? = some fault) :
      Snapped pace s clear budget ticker emitted t (s.triggering clear t ticker.deadline u ++ (past ++ [⟨u, last⟩]))
        (some (.error fault)) u
  | again (u : Nat) (woken : u = max t (Bench.wakeMillis ticker.deadline))
      (waited : pace t ⟨.await ticker.deadline, some (u * 1000000)⟩ u) (reads handed rest : List Stamp)
      (read : ReadAt u s.channels reads) (clean : Clean (shown reads))
      (whole : calls (shown reads) = snapshotCalls s.channels) (measurements : List Measurement)
      (emits : shown handed = emissions measurements) (result : Option (Except Fault Nat)) (v : Nat)
      (after : (s.takeSnapshots clear budget (ticker.taken (u * 1000000)) (emitted + s.channels.length)).Clocked
        pace u rest result v) :
      Snapped pace s clear budget ticker emitted t
        (s.triggering clear t ticker.deadline u ++ (reads ++ handed) ++ rest) result v

theorem triggering_calm (s : Sequencer) (clear : Bool) (t : Nat) (deadline : Instant) (u : Nat) :
    Calm (s.triggering clear t deadline u) := by
  simp [Calm, triggering, Event.ends, Event.fault?]

theorem snapshot_whole (s : Sequencer) (clear : Bool) (t : Nat) (deadline : Instant) (u : Nat) (reads handed : List Stamp)
    (read : ReadAt u s.channels reads) (clean : Clean (shown reads)) (whole : calls (shown reads) = snapshotCalls s.channels)
    (measurements : List Measurement) (emits : shown handed = emissions measurements) :
    Calm (s.triggering clear t deadline u ++ (reads ++ handed)) ∧
      calledAt (s.triggering clear t deadline u ++ (reads ++ handed)) = (s.snapshotCycle clear).map (u, ·) := by
  constructor
  · refine (calm_append _ _).mpr ⟨s.triggering_calm clear t deadline u, (calm_append _ _).mpr ⟨?_, ?_⟩⟩
    · exact calm_of_clean reads _ read.parts (by decide) clean
    · exact emitted_calm measurements handed emits
  · rw [called_at_append, called_at_append, called_at_still u reads read.still, whole,
      emitted_uncalled measurements handed emits, List.append_nil]
    rfl

theorem snapshot_failed (s : Sequencer) (clear : Bool) (t : Nat) (deadline : Instant) (u : Nat) (past : List Stamp)
    (last : Event) (read : ReadAt u s.channels (past ++ [⟨u, last⟩])) (clean : Clean (shown past)) :
    Calm (s.triggering clear t deadline u ++ past) ∧
      calledAt (s.triggering clear t deadline u ++ past ++ [⟨u, last⟩]) <+: (s.snapshotCycle clear).map (u, ·) := by
  constructor
  · have inside : ∀ e ∈ shown past, e.part ∈ [Part.check, .snapshotRead] := by
      intro e member
      refine read.parts e ?_
      rw [shown_append]
      exact List.mem_append_left _ member
    exact (calm_append _ _).mpr ⟨s.triggering_calm clear t deadline u, calm_of_clean past _ inside (by decide) clean⟩
  · rw [List.append_assoc, called_at_append, called_at_still u _ read.still]
    exact (List.prefix_append_right_inj [_]).mpr (read.short.map _)

theorem periods_on (deadline period : Nat) :
    (fun k => Bench.wakeMillis (deadline + (k + 1) * period)) =
      fun k => Bench.wakeMillis (deadline + period + k * period) := by
  funext k
  rw [grid_next]

section clock
variable {pace : Pace} (takes : ∀ t e u, pace t e u → e.Takes t u)
include takes

theorem read_snapshot_step (channels : List Nat) (u : Nat) (l : List Stamp)
    (result : Option (Except Fault (Option (List Measurement)))) (v : Nat)
    (clocked : (readSnapshot channels).Clocked pace u l result v) :
    v = u ∧ ReadAt u channels l ∧ FailStop (shown l) result ∧ SnapshotEnds channels (shown l) result := by
  obtain ⟨parts, stops⟩ := read_snapshot_steady channels _ _ clocked.traced
  obtain ⟨short, ends⟩ := read_snapshot_asks channels _ _ clocked.traced
  have clockless : ∀ e ∈ shown l, e.part ≠ .clock ∧ e.part ≠ .aside := fun e member =>
    ⟨parts_absent parts .clock (by decide) e member, parts_absent parts .aside (by decide) e member⟩
  obtain ⟨same, still⟩ := paced_still pace takes u l v clocked.paced clockless
  have inRange : ClockInRange (shown l) := fun now member => absurd rfl (clockless _ member).1
  exact ⟨same, ⟨still, parts, short⟩, stops inRange, ends⟩

theorem emit_all_step {α : Type} (measurements : List Measurement) (p : Procedure α) (u : Nat) (l : List Stamp)
    (result : Option (Except Fault α)) (v : Nat)
    (clocked : Clocked pace (do emitAll measurements; p) u l result v) :
    ∃ handed rest, l = handed ++ rest ∧ shown handed = emissions measurements ∧ p.Clocked pace u rest result v := by
  rcases clocked_bind _ _ u l result v clocked with ⟨_, w, handed, rest, emits, after, rfl⟩ | ⟨fault, failed, -⟩ | ⟨stuck, -⟩
  · obtain ⟨same, -⟩ := emit_all_traced measurements _ _ emits.traced
    have parts := (emit_all_steady measurements _ _ emits.traced).1
    have clockless : ∀ e ∈ shown handed, e.part ≠ .clock ∧ e.part ≠ .aside := fun e member =>
      ⟨parts_absent parts .clock (by decide) e member, parts_absent parts .aside (by decide) e member⟩
    obtain ⟨rfl, -⟩ := paced_still pace takes u handed w emits.paced clockless
    exact ⟨handed, rest, rfl, same, after⟩
  · obtain ⟨-, impossible⟩ := emit_all_traced measurements _ _ failed.traced
    cases impossible
  · obtain ⟨-, impossible⟩ := emit_all_traced measurements _ _ stuck.traced
    cases impossible

theorem snapshot_step (s : Sequencer) (clear : Bool) (budget : Nat) (ticker : Ticker) (emitted t : Nat) (l : List Stamp)
    (result : Option (Except Fault Nat)) (v : Nat)
    (clocked : (s.takeSnapshots clear (budget + 1) ticker emitted).Clocked pace t l result v) :
    Snapped pace s clear budget ticker emitted t l result v := by
  obtain ⟨woken, u, rest, rfl, waited, ticked⟩ := clocked_ask_bind (.await ticker.deadline) _ t l result v clocked
  cases woken with
  | none =>
      obtain ⟨rfl, rfl, rfl⟩ := clocked_pure _ u rest result v ticked
      exact .interrupted v waited
  | some now =>
      obtain ⟨woke, rfl⟩ : u = max t (Bench.wakeMillis ticker.deadline) ∧ now = u * 1000000 := takes t _ u waited
      obtain ⟨cancelled, w, tail, rfl, step, checked⟩ := clocked_ask_bind .isCancelled _ u rest result v ticked
      obtain rfl : w = u := takes u _ w step
      cases cancelled with
      | true =>
          obtain ⟨rfl, rfl, rfl⟩ := clocked_pure _ w tail result v checked
          exact .recalled v woke waited step
      | false =>
          rcases clocked_api_bind (.special s.target (.snapshot clear)) _ w tail result v checked with
            ⟨_, x, left, rfl, asked, triggered⟩ | ⟨code, rfl, asked, rfl⟩
          · obtain rfl : x = w := takes w _ x asked
            rcases clocked_bind _ _ x left result v triggered with
              ⟨found, y, reads, ending, read, ended, rfl⟩ | ⟨fault, read, rfl⟩ | ⟨read, rfl⟩
            · have paced := read.paced
              obtain ⟨rfl, readAt, clean, ends⟩ := read_snapshot_step takes s.channels x reads _ y read
              cases found with
              | none =>
                  obtain ⟨rfl, rfl, rfl⟩ := clocked_pure _ y ending result v ended
                  obtain ⟨⟨millis, event⟩, member, rfl⟩ := List.mem_map.mp ends
                  obtain ⟨z, found⟩ := paced_each pace v reads v paced _ member
                  obtain rfl : millis = v := readAt.still _ member
                  obtain rfl : z = millis := takes millis _ z found
                  rw [List.append_nil]
                  exact .cut z woke waited reads readAt found
              | some measurements =>
                  obtain ⟨whole, count⟩ := ends
                  obtain ⟨handed, last, rfl, emits, after⟩ := emit_all_step takes _ _ y ending result v ended
                  rw [count] at after
                  have again : Snapped pace s clear budget ticker emitted t _ result v :=
                    .again y woke waited reads handed last readAt clean whole measurements emits result v after
                  rw [List.append_assoc, List.append_assoc] at again
                  exact again
            · obtain ⟨rfl, readAt, ⟨past, last, split, fails, clean⟩, -⟩ :=
                read_snapshot_step takes s.channels x left _ v read
              obtain ⟨before, ending, rfl, rfl, ended⟩ := List.map_eq_append_iff.mp split
              obtain ⟨⟨millis, event⟩, nothing, rfl, rfl, empty⟩ := List.map_eq_cons_iff.mp ended
              cases List.map_eq_nil_iff.mp empty
              obtain rfl : millis = v := readAt.still ⟨millis, event⟩ (List.mem_append_right before List.mem_cons_self)
              exact .failed millis woke waited before event fault readAt clean fails
            · exact (read_snapshot_step takes s.channels x left _ v read).2.2.2.elim
          · obtain rfl : v = w := takes w _ v asked
            exact .refused v woke waited code _

end clock
end Sequencer
end PulseAnalyzer
