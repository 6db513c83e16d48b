import PulseAnalyzer.Proofs.Run.Measured

set_option autoImplicit false

namespace PulseAnalyzer

-- The writes of a configuration so far; one that fails is the last.
def Writes (count : Nat) (events : List Event) : Except Fault Unit → Prop
  | .ok _ => Clean events ∧ events.length = count
  | .error _ => events.length ≤ count ∧ ∃ past last, events = past ++ [last] ∧ Clean past ∧ last.fault?.isSome

theorem writes_append (m n : Nat) (a b : List Event) (outcome : Except Fault Unit)
    (first : Writes m a (.ok ())) (rest : Writes n b outcome) : Writes (m + n) (a ++ b) outcome := by
  obtain ⟨clean, size⟩ := first
  cases outcome with
  | ok _ =>
      obtain ⟨cleanRest, sizeRest⟩ := rest
      refine ⟨(clean_append a b).mpr ⟨clean, cleanRest⟩, ?_⟩
      rw [List.length_append, size, sizeRest]
  | error fault =>
      obtain ⟨bound, past, last, rfl, early, fails⟩ := rest
      refine ⟨?_, a ++ past, last, (List.append_assoc a past [last]).symm,
        (clean_append a past).mpr ⟨clean, early⟩, fails⟩
      rw [List.length_append, size]
      exact Nat.add_le_add_left bound m

theorem writes_grow (m n : Nat) (events : List Event) (fault : Fault)
    (failed : Writes m events (.error fault)) (bound : m ≤ n) : Writes n events (.error fault) :=
  ⟨Nat.le_trans failed.1 bound, failed.2⟩

theorem writes_cut (count : Nat) (before after : List Event) (e : Event) (outcome : Except Fault Unit)
    (writes : Writes count (before ++ e :: after) outcome) : Clean before ∧ before.length < count := by
  have shorter : before.length < (before ++ e :: after).length := by
    rw [List.length_append, List.length_cons]
    omega
  cases outcome with
  | ok _ =>
      obtain ⟨clean, size⟩ := writes
      exact ⟨((clean_append before _).mp clean).1, size ▸ shorter⟩
  | error fault =>
      obtain ⟨bound, past, last, split, early, -⟩ := writes
      refine ⟨?_, Nat.lt_of_lt_of_le shorter bound⟩
      have whole : before ++ (e :: after).dropLast = past := by
        have same := congrArg List.dropLast split
        rw [List.dropLast_append_cons, List.dropLast_concat] at same
        exact same
      rw [← whole] at early
      exact ((clean_append before _).mp early).1

namespace Sequencer
open Procedure

theorem write_writes (channel : Nat) (settings : List (String × Float)) (events : List Event)
    (result : Option (Except Fault Unit)) (traced : (configure.write channel settings).Traced events result) :
    ∃ outcome, result = some outcome ∧ Writes settings.length events outcome := by
  induction settings generalizing events result with
  | nil =>
      obtain ⟨rfl, rfl⟩ := (traced_pure () events result).mp traced
      exact ⟨.ok (), rfl, clean_nil, rfl⟩
  | cons setting rest ih =>
      rcases (traced_api_bind _ _ events result).mp traced with ⟨value, tail, after, rfl⟩ | ⟨code, rfl, rfl⟩
      · obtain ⟨outcome, rfl, writes⟩ := ih tail result after
        have one : Writes 1 [.success (.setValue channel setting.1 setting.2) value] (.ok ()) :=
          ⟨by simp [Clean, Event.fault?], rfl⟩
        have all := writes_append 1 rest.length _ tail outcome one writes
        rw [Nat.add_comm] at all
        exact ⟨outcome, rfl, all⟩
      · refine ⟨_, rfl, ?_⟩
        exact writes_grow 1 _ _ _ ⟨Nat.le_refl 1, [], _, rfl, clean_nil, rfl⟩ (Nat.le_add_left 1 rest.length)

theorem configure_writes (settings : List (String × Float)) (channels : List Nat) (events : List Event)
    (result : Option (Except Fault Unit)) (traced : (configure settings channels).Traced events result) :
    ∃ outcome, result = some outcome ∧ Writes (settings.length * channels.length) events outcome := by
  induction channels generalizing events result with
  | nil =>
      obtain ⟨rfl, rfl⟩ := (traced_pure () events result).mp traced
      exact ⟨.ok (), rfl, clean_nil, rfl⟩
  | cons channel rest ih =>
      rw [List.length_cons, Nat.mul_succ, Nat.add_comm]
      rcases (traced_bind _ _ events result).mp traced with
        ⟨_, head, tail, begun, after, rfl⟩ | ⟨fault, failed, rfl⟩ | ⟨stuck, rfl⟩
      · obtain ⟨_, same, first⟩ := write_writes channel settings head _ begun
        cases same
        obtain ⟨outcome, rfl, writes⟩ := ih tail result after
        exact ⟨outcome, rfl, writes_append _ _ head tail outcome first writes⟩
      · obtain ⟨_, same, writes⟩ := write_writes channel settings events _ failed
        cases same
        exact ⟨_, rfl, writes_grow _ _ events fault writes (Nat.le_add_right _ _)⟩
      · obtain ⟨_, impossible, -⟩ := write_writes channel settings events _ stuck
        cases impossible

theorem measured_lead {α : Type} (s : Sequencer) (lead : Procedure Unit) (resume : Bool)
    (body : Procedure α) (rest : α → Procedure Summary) (events : List Event)
    (result : Option (Except Fault Summary)) (measured : Measured s lead resume body rest events result) :
    ∃ before outcome tail, lead.Traced before outcome ∧ events = before ++ tail := by
  cases measured with
  | unled _ led => exact ⟨events, _, [], led, (List.append_nil events).symm⟩
  | misled _ fault led => exact ⟨events, _, [], led, (List.append_nil events).symm⟩
  | cancelled before led => exact ⟨before, _, _, led, rfl⟩
  | refused before code led => exact ⟨before, _, _, led, rfl⟩
  | spent before during led => exact ⟨before, _, _, led, List.append_assoc _ _ _⟩
  | faulty before during outcome answer fault led =>
      exact ⟨before, _, _, led, by rw [List.append_assoc, List.append_assoc]⟩
  | stopped before during tail outcome answer value _ led =>
      exact ⟨before, _, _, led, by rw [List.append_assoc, List.append_assoc, List.append_assoc]⟩

-- The configuration of a run that starts is written first and whole.
theorem perform_writes (s : Sequencer) (first budget : Nat) (plan : Plan) (events : List Event)
    (result : Option (Except Fault Summary)) (measuring : ∀ p, plan ≠ .trace p)
    (traced : (s.perform first budget plan).Traced events result) :
    ∃ writes outcome tail, events = writes ++ tail ∧ Writes (2 * s.channels.length) writes outcome ∧
      ∀ e ∈ writes, e.part ∈ [Part.configuration] := by
  cases plan with
  | bounded p =>
      obtain ⟨writes, ended, tail, led, rfl⟩ :=
        measured_lead s _ _ _ _ events result (bounded_measured s first budget p events result traced)
      obtain ⟨outcome, rfl, whole⟩ := configure_writes _ s.channels writes ended led
      exact ⟨writes, outcome, tail, rfl, whole, (configure_steady _ _ writes _ led).1⟩
  | snapshot p =>
      obtain ⟨writes, ended, tail, led, rfl⟩ :=
        measured_lead s _ _ _ _ events result (snapshots_measured s budget p events result traced)
      obtain ⟨outcome, rfl, whole⟩ := configure_writes _ s.channels writes ended led
      exact ⟨writes, outcome, tail, rfl, whole, (configure_steady _ _ writes _ led).1⟩
  | trace p => exact absurd rfl (measuring p)

theorem written_call (e : Event) (written : e.part ∈ [Part.configuration]) :
    ∃ call, e.call? = some call ∧ call.part = .configuration := by
  obtain ⟨request, answer⟩ := e
  cases request with
  | api call => exact ⟨call, rfl, List.mem_singleton.mp written⟩
  | _ => cases List.mem_singleton.mp written

theorem writes_over (count : Nat) (writes left : List Event) (outcome : Except Fault Unit)
    (whole : Writes count writes outcome) (written : ∀ e ∈ writes, e.part ∈ [Part.configuration])
    (clean : Clean (writes ++ left)) : count ≤ (calls (writes ++ left)).length := by
  cases outcome with
  | error fault =>
      obtain ⟨-, past, last, rfl, -, fails⟩ := whole
      rw [clean last (by simp)] at fails
      cases fails
  | ok _ =>
      have asked : ∀ e ∈ writes, (Event.call? e).isSome := by
        intro e member
        obtain ⟨call, found, -⟩ := written_call e (written e member)
        rw [found]
        rfl
      have size : (writes.filterMap Event.call?).length = writes.length := by
        rw [List.length_filterMap_eq_countP, List.countP_eq_length]
        exact asked
      rw [calls, List.filterMap_append, List.length_append, size, whole.2]
      exact Nat.le_add_right count _

end Sequencer
end PulseAnalyzer
