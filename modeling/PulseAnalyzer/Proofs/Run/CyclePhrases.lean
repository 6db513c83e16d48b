import PulseAnalyzer.Proofs.Run.ReadingPhrases

set_option autoImplicit false

namespace PulseAnalyzer
namespace Sequencer
open Procedure

def polls (channel : Nat) (answers : List Bool) : List Event :=
  answers.map fun answer => .success (.runActive channel) answer

-- How a loop of polls ends: with the first answer that the channel is inactive, or cancelled.
def pollOutcome (answers : List Bool) : Outcome :=
  if answers.getLast? = some false then .completed else .cancelled

def Going (answers : List Bool) : Prop := ∀ answer ∈ answers.dropLast, answer = true

theorem going_cons_iff (answer : Bool) (rest : List Bool) :
    Going (answer :: rest) ↔ rest = [] ∨ answer = true ∧ Going rest := by
  cases rest with
  | nil => simp [Going]
  | cons next rest => simp [Going]

theorem poll_outcome_cons (answer : Bool) (rest : List Bool) (more : rest ≠ []) :
    pollOutcome (answer :: rest) = pollOutcome rest := by
  obtain ⟨next, later, rfl⟩ := List.exists_cons_of_ne_nil more
  rw [pollOutcome, pollOutcome, List.getLast?_cons_cons]

theorem poll_speaks (channel budget : Nat) (ticker : Ticker) :
    Speaks (poll channel budget ticker) fun outcome word =>
      ∃ answers, answers.length ≤ budget ∧ 0 < budget ∧ Going answers ∧ outcome = pollOutcome answers ∧
        word = polls channel answers := by
  induction budget generalizing ticker with
  | zero =>
      refine speaks_congr _ _ _ speaks_spent fun outcome word => ?_
      simp
  | succ budget ih =>
      have polled : Speaks (poll channel (budget + 1) ticker) _ :=
        speaks_check _ _ _ _ (speaks_pure Outcome.cancelled) <| speaks_api_bind (.runActive channel) _
          (fun active outcome word => active = false ∧ outcome = .completed ∧ word = [] ∨
            active = true ∧ (outcome = .cancelled ∧ word = [] ∨ ∃ answers, answers.length ≤ budget ∧ 0 < budget ∧
              Going answers ∧ outcome = pollOutcome answers ∧ word = polls channel answers)) <| by
          intro active
          cases active with
          | false => simpa using speaks_pure Outcome.completed
          | true =>
              have waited := fun now => ih (ticker.taken now)
              simpa using speaks_await ticker.deadline _ _ _ (speaks_pure Outcome.cancelled) waited
      refine speaks_congr _ _ _ polled fun outcome word => ?_
      constructor
      · rintro ⟨answers, few, -, going, rfl, rfl⟩
        cases answers with
        | nil => exact .inl ⟨rfl, rfl⟩
        | cons active rest =>
            refine .inr ⟨active, polls channel rest, ?_, rfl⟩
            rcases (going_cons_iff active rest).mp going with rfl | ⟨rfl, goes⟩
            · cases active with
              | false => exact .inl ⟨rfl, rfl, rfl⟩
              | true => exact .inr ⟨rfl, .inl ⟨rfl, rfl⟩⟩
            · refine .inr ⟨rfl, ?_⟩
              cases rest with
              | nil => exact .inl ⟨rfl, rfl⟩
              | cons next later =>
                  have fewer := Nat.le_of_succ_le_succ few
                  exact .inr ⟨next :: later, fewer, Nat.lt_of_lt_of_le (Nat.succ_pos _) fewer, goes,
                    poll_outcome_cons true _ (List.cons_ne_nil next later), rfl⟩
      · rintro (⟨rfl, rfl⟩ | ⟨active, _, ⟨rfl, rfl, rfl⟩ | ⟨rfl, ⟨rfl, rfl⟩ | ⟨answers, few, allowed, going, rfl, rfl⟩⟩, rfl⟩)
        · exact ⟨[], Nat.zero_le _, Nat.succ_pos _, nofun, rfl, rfl⟩
        · exact ⟨[false], Nat.succ_le_succ (Nat.zero_le _), Nat.succ_pos _, nofun, rfl, rfl⟩
        · exact ⟨[true], Nat.succ_le_succ (Nat.zero_le _), Nat.succ_pos _, nofun, rfl, rfl⟩
        · refine ⟨true :: answers, Nat.succ_le_succ few, Nat.succ_pos _, (going_cons_iff true answers).mpr (.inr ⟨rfl, going⟩), ?_, rfl⟩
          cases answers with
          | nil => rfl
          | cons next later => exact (poll_outcome_cons true _ (List.cons_ne_nil next later)).symm

theorem emit_all_speaks (measurements : List Measurement) :
    Speaks (emitAll measurements) fun _ word => word = [] := by
  induction measurements with
  | nil =>
      refine speaks_congr _ _ _ (speaks_pure ()) fun _ word => ?_
      simp
  | cons m rest ih =>
      refine speaks_congr _ _ _ (speaks_ask_bind (.emit m) _ _ (fun _ => rfl) fun _ => ih) fun _ word => ?_
      exact ⟨fun nothing => ⟨(), nothing⟩, fun ⟨_, nothing⟩ => nothing⟩

-- Early enough, any period that a plan may have can be scheduled.
theorem ticker_speaks {α : Type} (period : Duration) (f : Ticker → Procedure α) (language : α → List Event → Prop)
    (positive : period.nanos ≠ 0) (bounded : period.nanos ≤ maxPeriod.nanos) (ticks : ∀ t, Speaks (f t) language) :
    Speaks (ticker period >>= f) language := by
  intro found word
  constructor
  · intro said
    obtain ⟨events, traced, rfl⟩ := (ticks (.startingAt (0 + period.nanos) period) found word).mp said
    have early : ¬ (period.nanos = 0 ∨ Instant.last < 0 + period.nanos) := by
      have longest : 0 + maxPeriod.nanos ≤ Instant.last := by decide
      rintro (empty | late)
      · exact positive empty
      · exact Nat.not_le_of_lt late (Nat.le_trans (Nat.add_le_add_left bounded 0) longest)
    have begun : (ticker period).Traced [⟨.now, 0⟩] (some (.ok (.startingAt (0 + period.nanos) period))) := by
      refine (traced_ask_bind .now _ _ _).mpr ⟨0, [], ?_, rfl⟩
      rw [if_neg early]
      exact (traced_pure _ [] _).mpr ⟨rfl, rfl⟩
    exact ⟨⟨.now, 0⟩ :: events, (traced_bind _ _ _ _).mpr (.inl ⟨_, _, events, begun, traced, rfl⟩),
      called_silent _ events rfl⟩
  · rintro ⟨events, traced, rfl⟩
    rcases (traced_bind _ _ events _).mp traced with
      ⟨t, head, tail, begun, after, rfl⟩ | ⟨fault, -, impossible⟩ | ⟨-, impossible⟩
    · obtain ⟨now, rfl, -⟩ := ticker_traced period head _ begun
      exact (ticks t found _).mpr ⟨tail, after, (called_silent _ tail rfl).symm⟩
    · cases impossible
    · cases impossible

def Cycle (s : Sequencer) (clear : Bool) (word : List Event) : Prop :=
  ∃ reads found, complete? .snapshotRead s.channels reads = some found ∧
    word = .success (.special s.target (.snapshot clear)) () :: reads

-- Whole snapshots, and at last one that is cut short.
structure Cycles (s : Sequencer) (clear : Bool) (cycles : List (List Event)) (part : List Event) : Prop where
  whole : ∀ cycle ∈ cycles, s.Cycle clear cycle
  cut : ∃ missing, missing ≠ [] ∧ s.Cycle clear (part ++ missing)

theorem cycle_cut_iff (s : Sequencer) (clear : Bool) (part : List Event) :
    (∃ missing, missing ≠ [] ∧ s.Cycle clear (part ++ missing)) ↔
      part = [] ∨ ∃ reads, part = .success (.special s.target (.snapshot clear)) () :: reads ∧
        Cut .snapshotRead s.channels reads := by
  constructor
  · rintro ⟨missing, missed, reads, found, complete, same⟩
    cases part with
    | nil => exact .inl rfl
    | cons e tail =>
        obtain ⟨rfl, rfl⟩ := List.cons.inj same
        exact .inr ⟨tail, rfl, missing, found, missed, complete⟩
  · rintro (rfl | ⟨reads, rfl, missing, found, missed, complete⟩)
    · obtain ⟨reads, found, complete⟩ := snapshot_readable s.channels
      exact ⟨_, List.cons_ne_nil _ _, reads, found, complete, rfl⟩
    · exact ⟨missing, missed, reads ++ missing, found, complete, rfl⟩

theorem cycles_nil_iff (s : Sequencer) (clear : Bool) (part : List Event) :
    s.Cycles clear [] part ↔ part = [] ∨ ∃ reads, part = .success (.special s.target (.snapshot clear)) () :: reads ∧
      Cut .snapshotRead s.channels reads := by
  rw [← cycle_cut_iff]
  exact ⟨fun taken => taken.cut, fun cut => ⟨nofun, cut⟩⟩

theorem cycles_cons_iff (s : Sequencer) (clear : Bool) (cycle : List Event) (rest : List (List Event))
    (part : List Event) :
    s.Cycles clear (cycle :: rest) part ↔ s.Cycle clear cycle ∧ s.Cycles clear rest part := by
  constructor
  · rintro ⟨whole, cut⟩
    obtain ⟨first, others⟩ := List.forall_mem_cons.mp whole
    exact ⟨first, others, cut⟩
  · rintro ⟨first, others, cut⟩
    exact ⟨List.forall_mem_cons.mpr ⟨first, others⟩, cut⟩

theorem complete_length (part : Part) (channels : List Nat) (word : List Event) (found : List Measurement)
    (complete : complete? part channels word = some found) : found.length = channels.length := by
  rw [← complete_channels part channels word found complete, List.length_map]

def Snapshots (s : Sequencer) (clear : Bool) (budget emitted count : Nat) (word : List Event) : Prop :=
  ∃ cycles part, cycles.length < budget ∧ s.Cycles clear cycles part ∧
    count = emitted + cycles.length * s.channels.length ∧ word = cycles.flatten ++ part

def Following (s : Sequencer) (clear : Bool) (budget emitted : Nat) (found : Option (List Measurement)) (count : Nat)
    (word : List Event) : Prop :=
  found = none ∧ count = emitted ∧ word = [] ∨
    ∃ measurements, found = some measurements ∧ s.Snapshots clear budget (emitted + measurements.length) count word

theorem following_speaks (s : Sequencer) (clear : Bool) (budget emitted : Nat) (ticker : Ticker)
    (again : ∀ handed, Speaks (s.takeSnapshots clear budget ticker handed) (s.Snapshots clear budget handed))
    (found : Option (List Measurement)) : Speaks (do
      match found with
      | none => return emitted
      | some measurements =>
        emitAll measurements
        s.takeSnapshots clear budget ticker (emitted + measurements.length)) (s.Following clear budget emitted found) := by
  cases found with
  | none =>
      refine speaks_congr _ _ _ (speaks_pure emitted) fun count word => ?_
      simp [Following]
  | some measurements =>
      have handed := speaks_bind _ _ _ _ (emit_all_speaks measurements) fun _ => again (emitted + measurements.length)
      refine speaks_congr _ _ _ handed fun count word => ?_
      constructor
      · rintro (⟨impossible, -⟩ | ⟨_, same, later⟩)
        · cases impossible
        · cases same
          exact ⟨(), [], word, rfl, later, rfl⟩
      · rintro ⟨_, _, tail, rfl, later, rfl⟩
        exact .inr ⟨measurements, rfl, later⟩

theorem snapshot_counted (s : Sequencer) (reads : List Event) (found : List Measurement)
    (complete : complete? .snapshotRead s.channels reads = some found) (emitted others : Nat) :
    emitted + (others + 1) * s.channels.length = emitted + found.length + others * s.channels.length := by
  rw [complete_length _ _ _ _ complete, Nat.succ_mul]
  omega

theorem snapshots_succ (s : Sequencer) (clear : Bool) (budget emitted count : Nat) (word : List Event) :
    s.Snapshots clear (budget + 1) emitted count word ↔ (count = emitted ∧ word = []) ∨
      ∃ reads found tail, (match found with
        | some measurements => complete? .snapshotRead s.channels reads = some measurements
        | none => Cut .snapshotRead s.channels reads) ∧
        s.Following clear budget emitted found count tail ∧
        word = .success (.special s.target (.snapshot clear)) () :: (reads ++ tail) := by
  constructor
  · rintro ⟨cycles, part, few, taken, rfl, rfl⟩
    cases cycles with
    | nil =>
        rcases (s.cycles_nil_iff clear part).mp taken with rfl | ⟨reads, rfl, short⟩
        · exact .inl ⟨by simp, rfl⟩
        · exact .inr ⟨reads, none, [], short, .inl ⟨rfl, by simp, rfl⟩, by simp⟩
    | cons cycle rest =>
        obtain ⟨⟨reads, found, complete, rfl⟩, later⟩ := (s.cycles_cons_iff clear cycle rest part).mp taken
        have counted := s.snapshot_counted reads found complete emitted rest.length
        have goes : rest.length < budget := Nat.lt_of_succ_lt_succ few
        exact .inr ⟨reads, some found, rest.flatten ++ part, complete,
          .inr ⟨found, rfl, rest, part, goes, later, counted, rfl⟩, by simp⟩
  · rintro (⟨rfl, rfl⟩ | ⟨reads, found, tail, read, following, rfl⟩)
    · exact ⟨[], [], Nat.succ_pos _, (s.cycles_nil_iff clear []).mpr (.inl rfl), by simp, rfl⟩
    · rcases following with ⟨rfl, rfl, rfl⟩ | ⟨found, rfl, cycles, part, few, taken, rfl, rfl⟩
      · have short := (s.cycles_nil_iff clear _).mpr (.inr ⟨reads, rfl, read⟩)
        exact ⟨[], _, Nat.succ_pos _, short, by simp, by simp⟩
      · have longer := (s.cycles_cons_iff clear _ cycles part).mpr ⟨⟨reads, found, read, rfl⟩, taken⟩
        have counted := s.snapshot_counted reads found read emitted cycles.length
        exact ⟨_ :: cycles, part, Nat.succ_lt_succ few, longer, counted.symm, by simp⟩

theorem take_snapshots_speaks (s : Sequencer) (clear : Bool) (budget : Nat) (ticker : Ticker) (emitted : Nat) :
    Speaks (s.takeSnapshots clear budget ticker emitted) (s.Snapshots clear budget emitted) := by
  induction budget generalizing ticker emitted with
  | zero =>
      refine speaks_congr _ _ _ speaks_spent fun count word => ?_
      simp [Snapshots]
  | succ budget ih =>
      have taken := fun now => speaks_check _ _ _ _ (speaks_pure emitted) <|
        speaks_api_bind (.special s.target (.snapshot clear)) _ _ fun _ =>
          speaks_bind _ _ _ _ (read_snapshot_speaks s.channels)
            (s.following_speaks clear budget emitted (ticker.taken now) (ih (ticker.taken now)))
      have looped : Speaks (s.takeSnapshots clear (budget + 1) ticker emitted) _ :=
        speaks_await ticker.deadline _ _ _ (speaks_pure emitted) taken
      refine speaks_congr _ _ _ looped fun count word => (s.snapshots_succ clear budget emitted count word).trans ?_
      constructor
      · rintro (stopped | ⟨reads, found, tail, read, following, rfl⟩)
        · exact .inl stopped
        · exact .inr (.inr ⟨(), _, ⟨found, reads, tail, read, following, rfl⟩, rfl⟩)
      · rintro (stopped | stopped | ⟨_, _, ⟨found, reads, tail, read, following, rfl⟩, rfl⟩)
        · exact .inl stopped
        · exact .inl stopped
        · exact .inr ⟨reads, found, tail, read, following, rfl⟩

end Sequencer
end PulseAnalyzer
