import PulseAnalyzer.Proofs.Run.Beats

set_option autoImplicit false

namespace PulseAnalyzer
namespace Sequencer
open Procedure

def polling (channel t : Nat) (deadline : Instant) (woken : Option Instant) : List Stamp :=
  [⟨t, .checked false⟩, ⟨t, .success (.runActive channel) true⟩, ⟨t, ⟨.await deadline, woken⟩⟩]

inductive Polled (pace : Pace) (channel budget : Nat) (ticker : Ticker) (t : Nat) :
    List Stamp → Option (Except Fault Outcome) → Nat → Prop where
  | recalled (step : pace t (.checked true) t) :
      Polled pace channel budget ticker t [⟨t, .checked true⟩] (some (.ok .cancelled)) t
  | ended (last : Event) (outcome : Except Fault Outcome) (polls : last.call? = some (.runActive channel))
      (ends : last.ends = true) :
      Polled pace channel budget ticker t [⟨t, .checked false⟩, ⟨t, last⟩] (some outcome) t
  | interrupted (v : Nat) (step : pace t ⟨.await ticker.deadline, none⟩ v) :
      Polled pace channel budget ticker t (polling channel t ticker.deadline none) (some (.ok .cancelled)) v
  | again (u : Nat) (rest : List Stamp) (result : Option (Except Fault Outcome)) (v : Nat)
      (woken : u = max t (Bench.wakeMillis ticker.deadline))
      (step : pace t ⟨.await ticker.deadline, some (u * 1000000)⟩ u)
      (after : (poll channel budget (ticker.taken (u * 1000000))).Clocked pace u rest result v) :
      Polled pace channel budget ticker t (polling channel t ticker.deadline (some (u * 1000000)) ++ rest) result v

-- A second after a poll comes the next one, and the one after that is due another second later.
theorem poll_wake (t : Nat) : max t (Bench.wakeMillis ((t + 1000) * 1000000)) = t + 1000 := by
  rw [wake_of_millis]
  omega

theorem poll_taken (t : Nat) :
    (Ticker.startingAt ((t + 1000) * 1000000) pollInterval).taken ((t + 1000) * 1000000) =
      .startingAt ((t + 1000 + 1000) * 1000000) pollInterval := by
  have next := Ticker.taken_in_time ((t + 1000) * 1000000) pollInterval _ (Nat.le_add_right _ _)
  have second : (t + 1000) * 1000000 + pollInterval.nanos = (t + 1000 + 1000) * 1000000 := by
    change (t + 1000) * 1000000 + 1000000000 = _
    omega
  exact next.trans (congrArg (Ticker.startingAt · pollInterval) second)

theorem seconds_on (t : Nat) : (fun k => t + (k + 1) * 1000) = fun k => t + 1000 + k * 1000 := by
  funext k
  omega

theorem polling_calm (channel t : Nat) (deadline : Instant) (woken : Option Instant) :
    Calm (polling channel t deadline woken) := by
  simp [Calm, polling, Event.ends, Event.fault?]

section clock
variable {pace : Pace} (takes : ∀ t e u, pace t e u → e.Takes t u)
include takes

theorem poll_step (channel budget : Nat) (ticker : Ticker) (t : Nat) (l : List Stamp)
    (result : Option (Except Fault Outcome)) (v : Nat)
    (clocked : (poll channel (budget + 1) ticker).Clocked pace t l result v) :
    Polled pace channel budget ticker t l result v := by
  obtain ⟨cancelled, u, rest, rfl, step, checked⟩ := clocked_ask_bind .isCancelled _ t l result v clocked
  obtain rfl : u = t := takes t _ u step
  cases cancelled with
  | true =>
      obtain ⟨rfl, rfl, rfl⟩ := clocked_pure _ u rest result v checked
      exact .recalled step
  | false =>
      rcases clocked_api_bind (.runActive channel) _ u rest result v checked with
        ⟨active, w, tail, rfl, asked, polled⟩ | ⟨code, rfl, asked, rfl⟩
      · obtain rfl : w = u := takes u _ w asked
        cases active with
        | false =>
            obtain ⟨rfl, rfl, rfl⟩ := clocked_pure _ w tail result v polled
            exact .ended (.success (.runActive channel) false) _ rfl rfl
        | true =>
            obtain ⟨woken, x, left, rfl, waited, after⟩ := clocked_ask_bind (.await ticker.deadline) _ w tail result v polled
            cases woken with
            | none =>
                obtain ⟨rfl, rfl, rfl⟩ := clocked_pure _ x left result v after
                exact .interrupted v waited
            | some now =>
                obtain ⟨woke, rfl⟩ : x = max w (Bench.wakeMillis ticker.deadline) ∧ now = x * 1000000 := takes w _ x waited
                exact .again x left result v woke waited after
      · obtain rfl : v = u := takes u _ v asked
        exact .ended (.failure (.runActive channel) code) _ rfl rfl

theorem poll_triggered (channel budget t : Nat) (l : List Stamp) (result : Option (Except Fault Outcome)) (v : Nat)
    (clocked : (poll channel budget (.startingAt ((t + 1000) * 1000000) pollInterval)).Clocked pace t l result v) :
    Triggered (.runActive channel) (fun k => t + k * 1000) l := by
  induction budget generalizing t l with
  | zero =>
      obtain ⟨rfl, -, -⟩ := clocked_spent t l result v clocked
      exact triggered_never _ _ _ rfl
  | succ budget ih =>
      cases poll_step takes channel budget _ t l result v clocked with
      | recalled step => exact triggered_never _ _ _ rfl
      | ended last outcome polls ends =>
          refine triggered_once _ _ _ ?_
          obtain ⟨request, answer⟩ := last
          cases request with
          | api call =>
              cases polls
              rfl
          | _ => cases polls
      | interrupted v step => exact triggered_once _ _ _ rfl
      | again u rest result v woken step after =>
          refine triggered_next _ _ _ _ rfl ?_
          obtain rfl := woken.trans (poll_wake t)
          rw [seconds_on]
          refine ih (t + 1000) rest ?_
          rw [← poll_taken]
          exact after

theorem poll_timely (due : Option Nat) (heeds : ∀ t e u, pace t e u → e.Heeds due t u) (channel budget t : Nat)
    (early : ∀ c, due = some c → t < c) (off : ∀ c, due = some c → ∀ k, t + k * 1000 ≠ c) (l : List Stamp)
    (result : Option (Except Fault Outcome)) (v : Nat)
    (clocked : (poll channel budget (.startingAt ((t + 1000) * 1000000) pollInterval)).Clocked pace t l result v) :
    ∃ ending : Ending, Timely due [.runActive channel] (fun k => t + k * 1000) budget l ending v ∧
      ending.Yields (fun _ => .cancelled) result := by
  induction budget generalizing t l with
  | zero =>
      obtain ⟨rfl, -, rfl⟩ := clocked_spent t l result v clocked
      exact ⟨.spent, .spent [] v (List.forall_mem_nil _) rfl nofun, rfl⟩
  | succ budget ih =>
      have beat : ∀ c, due = some c → t + 0 * 1000 < c := by simpa using early
      cases poll_step takes channel budget _ t l result v clocked with
      | recalled step => exact absurd (heeds v _ v step) (unchecked_early due v v early)
      | ended last outcome polls ends =>
          have cut : calledAt ([⟨v, .checked false⟩] ++ [⟨v, last⟩]) <+: [(v, .runActive channel)] := by
            rw [called_at_append, called_at_one v last _ polls]
            exact List.prefix_rfl
          have calm : Calm [⟨v, .checked false⟩] := by simp [Calm, Event.ends, Event.fault?]
          have first := timely_first due [.runActive channel] (fun k => v + k * 1000) budget v _ last
            (by omega) calm ends cut early
          exact ⟨.answered, first, rfl⟩
      | interrupted v step =>
          obtain ⟨c, planned, rfl, late⟩ := heeds t _ v step
          have now := early c planned
          have next := off c planned 1
          rw [Ticker.startingAt, poll_wake] at late
          have same : max t c = c := by omega
          have last := timely_recalled due [.runActive channel] (fun k => t + (k + 1) * 1000) budget [] c planned
            (List.forall_mem_nil _) rfl (by omega)
          rw [same]
          refine ⟨Ending.next (.cancelled 0), ?_, rfl⟩
          exact timely_next due _ (fun k => t + k * 1000) budget (polling channel t _ none) [] _ c
            (polling_calm channel t _ _) rfl beat last
      | again u rest result v woken step after =>
          obtain rfl := woken.trans (poll_wake t)
          have next : ∀ c, due = some c → t + 1000 < c := by
            intro c planned
            obtain ⟨-, late⟩ := heeds t _ _ step c planned
            have other := off c planned 1
            rw [Ticker.startingAt, wake_of_millis] at late
            omega
          have others : ∀ c, due = some c → ∀ k, t + 1000 + k * 1000 ≠ c := by
            intro c planned k
            have other := off c planned (k + 1)
            omega
          rw [poll_taken] at after
          obtain ⟨ending, timely, yields⟩ := ih (t + 1000) next others rest after
          rw [← seconds_on] at timely
          refine ⟨ending.next, ?_, yields_next _ result ending yields⟩
          exact timely_next due _ (fun k => t + k * 1000) budget _ rest ending v (polling_calm channel t _ _) rfl beat timely

end clock

end Sequencer
end PulseAnalyzer
