import PulseAnalyzer.Proofs.Run.Accounts

set_option autoImplicit false

namespace PulseAnalyzer
namespace Sequencer
open Procedure

theorem capture_unread (s : Sequencer) (opener : Event) (reads : List Event)
    (result : Option (Except Fault Summary)) (delimits : opener.delimits = true)
    (silent : opener.measurement? = none) (plain : Plain reads)
    (cut : readOut? s.channels (opener, called reads) = none)
    (nothing : ∀ summary, result = some (.ok summary) → summary.records = 0) :
    Accounts s.channels (.checked false :: opener :: reads) result ∧
      (readOuts s.channels (.checked false :: opener :: reads)).length ≤ 1 := by
  have unread : readOuts s.channels (.checked false :: opener :: reads) = [] := by
    have whole := read_outs_last s.channels opener reads delimits (plain_undivided reads plain)
    rw [cut] at whole
    exact whole
  have handed : emitted (.checked false :: opener :: reads) = [] :=
    (List.filterMap_cons_none silent).trans (plain_emitted reads plain)
  refine ⟨⟨?_, fun summary ended => ?_⟩, ?_⟩
  · rw [handed, unread, List.flatten_nil]
  · rw [handed]
    exact nothing summary ended
  · rw [unread]
    exact Nat.zero_le 1

theorem capture_read (s : Sequencer) (opener : Event) (reads : List Event) (found : List Measurement)
    (result : Option (Except Fault Summary)) (delimits : opener.delimits = true)
    (silent : opener.measurement? = none) (plain : Plain reads)
    (complete : readOut? s.channels (opener, called reads) = some found)
    (counts : ∀ summary, result = some (.ok summary) → summary.records = found.length) :
    Accounts s.channels (.checked false :: opener :: (reads ++ emissions found)) result ∧
      (readOuts s.channels (.checked false :: opener :: (reads ++ emissions found))).length ≤ 1 := by
  have undivided := undivided_append reads _ (plain_undivided reads plain) (emissions_undivided found)
  have asked : called (reads ++ emissions found) = called reads := by
    rw [called_append, emissions_called, List.append_nil]
  have read : readOuts s.channels (.checked false :: opener :: (reads ++ emissions found)) = [found] := by
    have whole := read_outs_last s.channels opener (reads ++ emissions found) delimits undivided
    rw [asked, complete] at whole
    exact whole
  have handed : emitted (.checked false :: opener :: (reads ++ emissions found)) = found := by
    have whole := emitted_section opener reads [] found silent plain
    rw [List.append_nil] at whole
    exact whole.trans (List.append_nil found)
  refine ⟨⟨?_, fun summary ended => ?_⟩, ?_⟩
  · rw [handed, read]
    exact (List.append_nil found).symm
  · rw [handed]
    exact counts summary ended
  · rw [read]
    exact Nat.le_refl 1

theorem trace_accounts (s : Sequencer) (plan : TracePlan) (events : List Event)
    (result : Option (Except Fault Summary)) (traced : (s.trace plan).Traced events result) :
    Accounts s.channels events result ∧ (readOuts s.channels events).length ≤ 1 := by
  obtain ⟨cancelled, checked, going, rfl⟩ := (traced_ask_bind .isCancelled _ events result).mp traced
  cases cancelled with
  | true =>
      obtain ⟨rfl, rfl⟩ := (traced_pure _ checked result).mp going
      refine ⟨⟨rfl, fun summary ended => ?_⟩, Nat.zero_le 1⟩
      cases ended
      rfl
  | false =>
      rcases (traced_api_bind _ _ checked result).mp going with ⟨_, taken, reading, rfl⟩ | ⟨code, rfl, rfl⟩
      · rcases (traced_bind _ _ taken result).mp reading with
          ⟨found, reads, after, read, emitting, rfl⟩ | ⟨fault, failed, rfl⟩ | ⟨stuck, rfl⟩
        · have plain := read_traces_plain s.channels reads _ read
          obtain ⟨_, same, complete⟩ := read_traces_complete s.channels reads _ read
          cases same
          cases found with
          | none =>
              obtain ⟨rfl, rfl⟩ := (traced_pure _ after result).mp emitting
              rw [List.append_nil]
              refine capture_unread s _ reads _ rfl rfl plain complete fun summary ended => ?_
              cases ended
              rfl
          | some measurements =>
              rcases (traced_bind _ _ after result).mp emitting with
                ⟨_, emits, last, handed, ended, rfl⟩ | ⟨fault, failed, rfl⟩ | ⟨stuck, rfl⟩
              · obtain ⟨rfl, -⟩ := emit_all_traced measurements emits _ handed
                obtain ⟨rfl, rfl⟩ := (traced_pure _ last result).mp ended
                rw [List.append_nil]
                refine capture_read s _ reads measurements _ rfl rfl plain complete fun summary ended => ?_
                cases ended
                rfl
              · obtain ⟨-, impossible⟩ := emit_all_traced measurements after _ failed
                cases impossible
              · obtain ⟨-, impossible⟩ := emit_all_traced measurements after _ stuck
                cases impossible
        · have plain := read_traces_plain s.channels taken _ failed
          obtain ⟨_, same, complete⟩ := read_traces_complete s.channels taken _ failed
          cases same
          exact capture_unread s _ taken _ rfl rfl plain complete nofun
        · obtain ⟨_, impossible, -⟩ := read_traces_complete s.channels taken _ stuck
          cases impossible
      · exact capture_unread s _ [] _ rfl rfl plain_nil rfl nofun

theorem perform_accounts (s : Sequencer) (first budget : Nat) (plan : Plan) (events : List Event)
    (result : Option (Except Fault Summary)) (listed : s.channels ≠ [])
    (traced : (s.perform first budget plan).Traced events result) :
    Accounts s.channels events result ∧
      ((∀ p, plan ≠ .snapshot p) → (readOuts s.channels events).length ≤ 1) := by
  cases plan with
  | bounded p =>
      obtain ⟨accounts, once⟩ := bounded_accounts s first budget p events result listed traced
      exact ⟨accounts, fun _ => once⟩
  | snapshot p =>
      exact ⟨snapshots_accounts s budget p events result listed traced, fun other => absurd rfl (other p)⟩
  | trace p =>
      obtain ⟨accounts, once⟩ := trace_accounts s p events result traced
      exact ⟨accounts, fun _ => once⟩

theorem run_accounts (s : Sequencer) (budget : Nat) (plan : Plan) (events : List Event)
    (result : Option (Except Fault Summary)) (traced : (s.run budget plan).Traced events result) :
    Accounts s.channels events result ∧
      ((∀ p, plan ≠ .snapshot p) → (readOuts s.channels events).length ≤ 1) := by
  rcases run_traced s budget plan events result traced with
    ⟨-, rfl, rfl⟩ | ⟨-, _, -, rfl, rfl⟩ | ⟨first, others, listed, -, ⟨ran, rfl⟩ | ⟨before, outcome, ran, rfl, rfl⟩⟩
  · exact ⟨⟨rfl, nofun⟩, fun _ => Nat.zero_le 1⟩
  · exact ⟨⟨rfl, nofun⟩, fun _ => Nat.zero_le 1⟩
  · exact perform_accounts s first budget plan events none (by simp [listed]) ran
  · obtain ⟨accounts, once⟩ := perform_accounts s first budget plan before _ (by simp [listed]) ran
    have uncalled : Divides [Event.entered .idle] := by
      intro e rest asked
      cases (show [] = e :: rest from asked)
    have read : readOuts s.channels (before ++ [.entered .idle]) = readOuts s.channels before := by
      rw [read_outs_append s.channels before _ uncalled]
      exact List.append_nil _
    have handed : emitted (before ++ [.entered .idle]) = emitted before := by
      rw [emitted_append]
      exact List.append_nil _
    rw [read]
    refine ⟨⟨?_, ?_⟩, once⟩
    · rw [handed, read]
      exact accounts.handed
    · rw [handed]
      exact accounts.counted

theorem run_hands_out {σ : Type} (answer : (r : Request) → σ → r.Answer × σ) (start : σ)
    (s : Sequencer) (budget : Nat) (plan : Plan) :
    let events := Program.history answer (s.run budget plan).run start
    emitted events = (readOuts s.channels events).flatten ∧
    (∀ found ∈ readOuts s.channels events, found.map Measurement.channel = s.channels) ∧
    (∀ summary, (Program.run answer (s.run budget plan).run start).1 = some (.ok summary) →
      summary.records = (emitted events).length) ∧
    ((∀ p, plan ≠ .snapshot p) →
      emitted events = [] ∨ (emitted events).map Measurement.channel = s.channels) := by
  intro events
  have traced : (s.run budget plan).Traced events _ :=
    Program.history_traced answer (s.run budget plan).run start
  obtain ⟨accounts, once⟩ := run_accounts s budget plan events _ traced
  refine ⟨accounts.handed, read_outs_channels s.channels events, accounts.counted, fun other => ?_⟩
  rw [accounts.handed]
  cases found : readOuts s.channels events with
  | nil => exact .inl rfl
  | cons first rest =>
      have few := once other
      rw [found] at few
      have alone : rest = [] := List.eq_nil_of_length_eq_zero (Nat.le_zero.mp (Nat.le_of_succ_le_succ few))
      refine .inr ?_
      rw [alone, List.flatten_cons, List.flatten_nil, List.append_nil]
      exact read_outs_channels s.channels events first (by rw [found]; exact List.mem_cons_self)

-- Both traces are handed out, in the order of the list, or none when the second is not read.
example : emitted (Program.history recalled (Sequencer.run ⟨[1, 0], .all⟩ 1 (.trace .standard)).run 9) =
    [.trace 1 #[], .trace 0 #[]] := rfl

example : emitted (Program.history recalled (Sequencer.run ⟨[1, 0], .all⟩ 1 (.trace .standard)).run 3) = [] := rfl

end Sequencer
end PulseAnalyzer
