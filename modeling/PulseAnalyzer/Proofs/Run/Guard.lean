import PulseAnalyzer.Proofs.Program.Cut
import PulseAnalyzer.Proofs.Run.Event

set_option autoImplicit false

namespace PulseAnalyzer

-- A run goes on from here to its next call, whatever happens: the check has been made, or none is
-- made between the length of a trace and the trace.
def Event.leads : Event → Bool
  | ⟨.isCancelled, false⟩ => true
  | ⟨.api (.traceLength _), .ok _⟩ => true
  | _ => false

def Led (before : List Event) : Prop := ∃ e, before.getLast? = some e ∧ e.leads

def Unspared (call : Acquisition.Call) : Prop := call.part ≠ .stop ∧ call.part ≠ .readOut

def Followed (e : Event) (after : List Event) : Prop :=
  e.leads → ∃ call answer rest, after = ⟨.api call, answer⟩ :: rest ∧ Unspared call

theorem followed_free (e : Event) (after : List Event) (free : e.leads = false) : Followed e after := by
  intro leads
  rw [free] at leads
  cases leads

def Guarded (before : List Event) (e : Event) (after : List Event) : Prop :=
  (∀ call, e.call? = some call → Led before) ∧ Followed e after

theorem guarded_silent (before after : List Event) (e : Event) (silent : e.call? = none)
    (free : e.leads = false) : Guarded before e after := by
  constructor
  · intro call found
    rw [silent] at found
    cases found
  · intro leads
    rw [free] at leads
    cases leads

theorem guarded_led (before after : List Event) (e : Event) (led : Led before) (free : e.leads = false) :
    Guarded before e after :=
  ⟨fun _ _ => led, followed_free e after free⟩

section guards
open Procedure
variable {β : Type}

theorem api_first (call : Acquisition.Call) (f : call.Value → Procedure β) (events future : List Event)
    (result : Option (Except Fault β)) (traced : (api call >>= f).Traced events result)
    (unspared : Unspared call) :
    ∃ other answer rest, events ++ future = ⟨.api other, answer⟩ :: rest ∧ Unspared other := by
  rcases (traced_api_bind call f events result).mp traced with ⟨value, rest, -, rfl⟩ | ⟨code, rfl, -⟩
  · exact ⟨call, .ok value, rest ++ future, rfl, unspared⟩
  · exact ⟨call, .error code, future, rfl, unspared⟩

theorem guarded_quiet (r : Request) (f : r.Answer → Procedure β)
    (quiet : ∀ answer, Event.call? ⟨r, answer⟩ = none ∧ Event.leads ⟨r, answer⟩ = false)
    (rest : ∀ answer, Each Guarded (fun _ => True) (f answer)) :
    Each Guarded (fun _ => True) (ask r >>= f) := by
  refine each_ask_bind Guarded _ r f ?_ fun answer => each_anywhere Guarded _ _ (rest answer)
  intro past answer tail _ future _ _
  exact guarded_silent past _ _ (quiet answer).1 (quiet answer).2

theorem guarded_check (call : Acquisition.Call) (f : Bool → Procedure β) (g : call.Value → Procedure β)
    (unspared : Unspared call) (next : f false = api call >>= g)
    (stop : Each Guarded (fun _ => True) (f true)) (go : Each Guarded Led (api call >>= g)) :
    Each Guarded (fun _ => True) (ask .isCancelled >>= f) := by
  refine each_ask_bind Guarded _ .isCancelled f ?_ ?_
  · intro past answer tail result future _ traced
    cases answer with
    | true => exact guarded_silent past _ _ rfl rfl
    | false =>
        rw [next] at traced
        refine ⟨?_, fun _ => api_first call g tail future result traced unspared⟩
        intro call found
        cases found
  · intro answer
    cases answer with
    | true => exact each_anywhere Guarded _ _ stop
    | false =>
        rw [next]
        exact each_weaken Guarded _ Led _ go fun past last => ⟨_, last, rfl⟩

theorem guarded_api (call : Acquisition.Call) (f : call.Value → Procedure β)
    (quiet : ∀ answer, Event.leads ⟨.api call, answer⟩ = false)
    (rest : ∀ value, Each Guarded (fun _ => True) (f value)) : Each Guarded Led (api call >>= f) := by
  refine each_api_bind Guarded _ call f ?_ ?_ fun value => each_anywhere Guarded _ _ (rest value)
  · intro past value tail _ future led _
    exact guarded_led past _ _ led (quiet (.ok value))
  · intro past code future led
    exact guarded_led past future _ led (quiet (.error code))

end guards

namespace Sequencer
open Procedure

theorem emit_all_guarded (measurements : List Measurement) :
    Each Guarded (fun _ => True) (emitAll measurements) := by
  induction measurements with
  | nil => exact each_pure Guarded _ ()
  | cons m rest ih => exact guarded_quiet (.emit m) _ (fun _ => ⟨rfl, rfl⟩) fun _ => ih

theorem ticker_guarded (period : Duration) : Each Guarded (fun _ => True) (ticker period) := by
  apply guarded_quiet .now _ (fun _ => ⟨rfl, rfl⟩)
  intro now
  split
  · exact each_of_except Guarded _ _
  · exact each_pure Guarded _ _

theorem poll_guarded (channel budget : Nat) (ticker : Ticker) :
    Each Guarded (fun _ => True) (poll channel budget ticker) := by
  induction budget generalizing ticker with
  | zero => exact each_spent Guarded _
  | succ budget ih =>
      refine guarded_check (.runActive channel) _ _ ⟨nofun, nofun⟩ rfl (each_pure Guarded _ _) ?_
      apply guarded_api _ _ (fun _ => rfl)
      intro active
      cases active with
      | false => exact each_pure Guarded _ _
      | true =>
          apply guarded_quiet (.await ticker.deadline) _ (fun _ => ⟨rfl, rfl⟩)
          intro woken
          cases woken with
          | none => exact each_pure Guarded _ _
          | some now => exact ih (ticker.taken now)

theorem read_snapshot_guarded (channels : List Nat) : Each Guarded (fun _ => True) (readSnapshot channels) := by
  induction channels with
  | nil => exact each_pure Guarded _ _
  | cons channel rest ih =>
      refine guarded_check (.snapshotSpectrum channel snapshotLength) _ _ ⟨nofun, nofun⟩ rfl
        (each_pure Guarded _ _) ?_
      apply guarded_api _ _ (fun _ => rfl)
      intro bins
      refine guarded_check (.snapshotStatistics channel) _ _ ⟨nofun, nofun⟩ rfl (each_pure Guarded _ _) ?_
      apply guarded_api _ _ (fun _ => rfl)
      intro statistics
      apply each_bind Guarded _ _ _ ih
      intro others
      cases others with
      | none => exact each_pure Guarded _ _
      | some found => exact each_pure Guarded _ _

theorem take_snapshots_guarded (s : Sequencer) (clear : Bool) (budget : Nat) (ticker : Ticker)
    (emitted : Nat) : Each Guarded (fun _ => True) (s.takeSnapshots clear budget ticker emitted) := by
  induction budget generalizing ticker emitted with
  | zero => exact each_spent Guarded _
  | succ budget ih =>
      apply guarded_quiet (.await ticker.deadline) _ (fun _ => ⟨rfl, rfl⟩)
      intro woken
      cases woken with
      | none => exact each_pure Guarded _ _
      | some now =>
          refine guarded_check (.special s.target (.snapshot clear)) _ _ ⟨nofun, nofun⟩ rfl
            (each_pure Guarded _ _) ?_
          apply guarded_api _ _ (fun _ => rfl)
          intro _
          apply each_bind Guarded _ _ _ (read_snapshot_guarded s.channels)
          intro found
          cases found with
          | none => exact each_pure Guarded _ _
          | some measurements =>
              exact each_bind Guarded _ _ _ (emit_all_guarded measurements) fun _ => ih (ticker.taken now) _

-- The trace is led to by its length, the one call with no check before it.
theorem read_traces_guarded (channels : List Nat) : Each Guarded (fun _ => True) (readTraces channels) := by
  induction channels with
  | nil => exact each_pure Guarded _ _
  | cons channel rest ih =>
      refine guarded_check (.traceLength channel) _ _ ⟨nofun, nofun⟩ rfl (each_pure Guarded _ _) ?_
      refine each_api_bind Guarded _ (.traceLength channel) _ ?_ ?_ fun length => ?_
      · intro past length tail result future led traced
        exact ⟨fun _ _ => led, fun _ =>
          api_first (.trace channel length) _ tail future result traced ⟨nofun, nofun⟩⟩
      · intro past code future led
        exact guarded_led past future _ led rfl
      · refine each_weaken Guarded _ Led _ ?_ fun past last => ⟨_, last, rfl⟩
        apply guarded_api _ _ (fun _ => rfl)
        intro samples
        apply each_bind Guarded _ _ _ ih
        intro others
        cases others with
        | none => exact each_pure Guarded _ _
        | some found => exact each_pure Guarded _ _

theorem trace_guarded (s : Sequencer) (plan : TracePlan) : Each Guarded (fun _ => True) (s.trace plan) := by
  refine guarded_check (.special s.target (.adcTrace plan.samplePeriod)) _ _ ⟨nofun, nofun⟩ rfl
    (each_pure Guarded _ _) ?_
  apply guarded_api _ _ (fun _ => rfl)
  intro _
  apply each_bind Guarded _ _ _ (read_traces_guarded s.channels)
  intro found
  cases found with
  | none => exact each_pure Guarded _ _
  | some measurements =>
      exact each_bind Guarded _ _ _ (emit_all_guarded measurements) fun _ => each_pure Guarded _ _

end Sequencer
end PulseAnalyzer
