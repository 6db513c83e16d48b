import PulseAnalyzer.Proofs.Run.MonitorLog
import PulseAnalyzer.Proofs.Run.MonitorSchedule

set_option autoImplicit false

namespace PulseAnalyzer
namespace Monitor
open Procedure

-- The readings of some channels: all of them, or up to a check that finds the monitor cancelled, or up to the
-- first that fails.
inductive Visited (session : Session) : List Nat → List Step → Except Fault (Option (List Measurement)) → Prop where
  | all : Visited session [] [] (.ok (some []))
  | unread (channel : Nat) (rest : List Nat) : Visited session (channel :: rest) [.check true] (.ok none)
  | voltsFailed (channel : Nat) (rest : List Nat) (events : List Event) (fault : Fault)
      (made : Reading.Made session ⟨channel, .volts, events, .error fault⟩) :
      Visited session (channel :: rest) [.check false, .reading ⟨channel, .volts, events, .error fault⟩] (.error fault)
  | halfway (channel : Nat) (rest : List Nat) (events : List Event) (volts : Float)
      (made : Reading.Made session ⟨channel, .volts, events, .ok volts⟩) :
      Visited session (channel :: rest) [.check false, .reading ⟨channel, .volts, events, .ok volts⟩, .check true] (.ok none)
  | celsiusFailed (channel : Nat) (rest : List Nat) (events more : List Event) (volts : Float) (fault : Fault)
      (made : Reading.Made session ⟨channel, .volts, events, .ok volts⟩)
      (next : Reading.Made session ⟨channel, .celsius, more, .error fault⟩) :
      Visited session (channel :: rest) [.check false, .reading ⟨channel, .volts, events, .ok volts⟩,
        .check false, .reading ⟨channel, .celsius, more, .error fault⟩] (.error fault)
  | read (channel : Nat) (rest : List Nat) (events more : List Event) (volts celsius : Float) (steps : List Step)
      (outcome : Except Fault (Option (List Measurement)))
      (made : Reading.Made session ⟨channel, .volts, events, .ok volts⟩)
      (next : Reading.Made session ⟨channel, .celsius, more, .ok celsius⟩) (later : Visited session rest steps outcome) :
      Visited session (channel :: rest) (.check false :: .reading ⟨channel, .volts, events, .ok volts⟩ ::
        .check false :: .reading ⟨channel, .celsius, more, .ok celsius⟩ :: steps)
        (outcome.map (·.map (.reading channel volts celsius :: ·)))

theorem reading_bind {α : Type} (session : Session) (channel : Nat) (quantity : Quantity) (f : Float → Procedure α)
    (events : List Event) (result : Option (Except Fault α))
    (traced : (quantity.read session channel >>= f).Traced events result) :
    (∃ value first rest, Reading.Made session ⟨channel, quantity, first, .ok value⟩ ∧ (f value).Traced rest result ∧
      events = first ++ rest) ∨
    ∃ fault, Reading.Made session ⟨channel, quantity, events, .error fault⟩ ∧ result = some (.error fault) := by
  rcases (traced_bind _ f events result).mp traced with begun | failed | ⟨stuck, -⟩
  · exact .inl begun
  · exact .inr failed
  · obtain ⟨⟨_, impossible⟩, -⟩ := read_errand session channel quantity events _ stuck
    cases impossible

theorem read_all_visited (session : Session) (channels : List Nat) (events : List Event)
    (result : Option (Except Fault (Option (List Measurement)))) (traced : (readAll session channels).Traced events result) :
    ∃ steps outcome, Visited session channels steps outcome ∧ events = steps.flatMap Step.events ∧ result = some outcome := by
  induction channels generalizing events result with
  | nil =>
      obtain ⟨rfl, rfl⟩ := (traced_pure _ events result).mp traced
      exact ⟨[], _, .all, rfl, rfl⟩
  | cons channel rest ih =>
      rw [read_all_cons] at traced
      obtain ⟨first, going, reading, rfl⟩ := (traced_ask_bind .isCancelled _ events result).mp traced
      cases first with
      | true =>
          obtain ⟨rfl, rfl⟩ := (traced_pure _ going result).mp reading
          exact ⟨_, _, .unread channel rest, rfl, rfl⟩
      | false =>
          rcases reading_bind session channel .volts _ going result reading with
            ⟨volts, voltsRead, tail, made, checking, rfl⟩ | ⟨fault, made, rfl⟩
          · obtain ⟨second, more, feeling, rfl⟩ := (traced_ask_bind .isCancelled _ tail result).mp checking
            cases second with
            | true =>
                obtain ⟨rfl, rfl⟩ := (traced_pure _ more result).mp feeling
                exact ⟨_, _, .halfway channel rest voltsRead volts made, by simp [Step.events], rfl⟩
            | false =>
                rcases reading_bind session channel .celsius _ more result feeling with
                  ⟨celsius, celsiusRead, others, next, onward, rfl⟩ | ⟨fault, next, rfl⟩
                · rcases (traced_bind _ _ others result).mp onward with
                    ⟨found, visit, last, visiting, ended, rfl⟩ | ⟨fault, failed, rfl⟩ | ⟨stuck, -⟩
                  · obtain ⟨steps, outcome, visited, rfl, same⟩ := ih visit _ visiting
                    cases same
                    obtain ⟨rfl, rfl⟩ := (traced_pure _ last result).mp ended
                    exact ⟨_, _, .read channel rest voltsRead celsiusRead volts celsius steps _ made next visited,
                      by simp [Step.events], rfl⟩
                  · obtain ⟨steps, outcome, visited, rfl, same⟩ := ih others _ failed
                    cases same
                    exact ⟨_, _, .read channel rest voltsRead celsiusRead volts celsius steps _ made next visited,
                      by simp [Step.events], rfl⟩
                  · obtain ⟨_, _, _, _, impossible⟩ := ih others _ stuck
                    cases impossible
                · exact ⟨_, _, .celsiusFailed channel rest voltsRead more volts fault made next, by simp [Step.events], rfl⟩
          · exact ⟨_, _, .voltsFailed channel rest going fault made, by simp [Step.events], rfl⟩

section visited
variable (session : Session) (channels : List Nat) (steps : List Step) (outcome : Except Fault (Option (List Measurement)))
  (visited : Visited session channels steps outcome)
include visited

theorem visited_made : ∀ r ∈ readings steps, r.Made session := by
  induction visited with
  | all | unread => exact List.forall_mem_nil _
  | voltsFailed channel rest events fault made | halfway channel rest events volts made =>
      exact List.forall_mem_singleton.mpr made
  | celsiusFailed channel rest events more volts fault made next =>
      exact List.forall_mem_cons.mpr ⟨made, List.forall_mem_singleton.mpr next⟩
  | read channel rest events more volts celsius steps outcome made next later ih =>
      exact List.forall_mem_cons.mpr ⟨made, List.forall_mem_cons.mpr ⟨next, ih⟩⟩

theorem visited_order : (readings steps).map Reading.subject <+: rota channels := by
  induction visited with
  | all | unread => exact List.nil_prefix
  | voltsFailed channel rest | halfway channel rest => exact ⟨(channel, .celsius) :: rota rest, rfl⟩
  | celsiusFailed channel rest => exact ⟨rota rest, rfl⟩
  | read channel rest events more volts celsius steps outcome made next later ih =>
      exact List.cons_prefix_cons.mpr ⟨rfl, List.cons_prefix_cons.mpr ⟨rfl, ih⟩⟩

theorem visited_whole : whole? channels (readings steps) = outcome.toOption.join := by
  induction visited with
  | all | unread | voltsFailed | halfway | celsiusFailed => rfl
  | read channel rest events more volts celsius steps outcome made next later ih =>
      have both : whole? (channel :: rest) (⟨channel, .volts, events, .ok volts⟩ ::
          ⟨channel, .celsius, more, .ok celsius⟩ :: readings steps) =
          (whole? rest (readings steps)).map (.reading channel volts celsius :: ·) := if_pos ⟨rfl, rfl⟩
      refine both.trans ?_
      rw [ih]
      match outcome with
      | .error fault => rfl
      | .ok none | .ok (some found) => rfl

theorem visited_quiet : ∀ step ∈ steps, step.isWait = false ∧ step.measurement? = none := by
  induction visited with
  | read channel rest events more volts celsius steps outcome made next later ih =>
      exact List.forall_mem_cons.mpr ⟨⟨rfl, rfl⟩, List.forall_mem_cons.mpr ⟨⟨rfl, rfl⟩, List.forall_mem_cons.mpr
        ⟨⟨rfl, rfl⟩, List.forall_mem_cons.mpr ⟨⟨rfl, rfl⟩, ih⟩⟩⟩⟩
  | all | unread | voltsFailed | halfway | celsiusFailed => simp [Step.isWait, Step.measurement?]

theorem visited_ends : EndsInFault steps (some outcome) := by
  induction visited with
  | all | unread | halfway => simp [EndsInFault, Sound, Step.fault?]
  | voltsFailed channel rest events fault made => exact ⟨[.check false], _, rfl, rfl, by simp [Sound, Step.fault?]⟩
  | celsiusFailed channel rest events more volts fault made next =>
      exact ⟨[.check false, .reading ⟨channel, .volts, events, .ok volts⟩, .check false], _, rfl, rfl,
        by simp [Sound, Step.fault?]⟩
  | read channel rest events more volts celsius steps outcome made next later ih =>
      have sound : Sound [.check false, .reading ⟨channel, .volts, events, .ok volts⟩, .check false,
        .reading ⟨channel, .celsius, more, .ok celsius⟩] := by simp [Sound, Step.fault?]
      have whole := ends_in_fault_append _ steps (some outcome) sound ih
      cases outcome with
      | ok found => exact whole
      | error fault => exact whole

theorem visited_led : Led false steps := by
  induction visited with
  | all | unread | voltsFailed | halfway | celsiusFailed => simp [Led]
  | read channel rest events more volts celsius steps outcome made next later ih => exact ⟨rfl, rfl, ih⟩

theorem visited_recalled (cut : outcome = .ok none) : ∃ past, steps = past ++ [.check true] := by
  induction visited with
  | all | voltsFailed | celsiusFailed => cases cut
  | unread => exact ⟨[], rfl⟩
  | halfway channel rest events volts made => exact ⟨[.check false, .reading ⟨channel, .volts, events, .ok volts⟩], rfl⟩
  | read channel rest events more volts celsius steps outcome made next later ih =>
      match outcome with
      | .ok none =>
          obtain ⟨past, rfl⟩ := ih rfl
          exact ⟨_ :: _ :: _ :: _ :: past, rfl⟩
      | .ok (some found) | .error fault => cases cut

end visited

end Monitor
end PulseAnalyzer
