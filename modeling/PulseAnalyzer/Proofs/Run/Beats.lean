import PulseAnalyzer.Proofs.Program.Clock
import PulseAnalyzer.Proofs.Run.HandedOut

set_option autoImplicit false

namespace PulseAnalyzer

-- An answer that ends a loop: a failure, or that the channel polled is no longer active.
def Event.ends : Event → Bool
  | ⟨.api (.runActive _), .ok active⟩ => !active
  | e => e.fault?.isSome

def Calm (l : List Stamp) : Prop := ∀ x ∈ l, x.event.ends = false

def beats (cycle : List Acquisition.Call) (beat : Nat → Nat) (count : Nat) : List (Nat × Acquisition.Call) :=
  (List.range count).flatMap fun k => cycle.map (beat k, ·)

def triggers (l : List Stamp) : List (Nat × Acquisition.Call) :=
  (calledAt l).filter fun x => x.2.part = .poll ∨ x.2.part = .snapshot

inductive Ending where
  | spent
  | answered
  | cancelled (count : Nat)

-- How a loop goes that is cancelled at a time, or never. The calls of a cycle all have its time, and the
-- cycles are those with a time before the cancellation, unless an answer has ended the loop before.
inductive Timely (due : Option Nat) (cycle : List Acquisition.Call) (beat : Nat → Nat) (budget : Nat) :
    List Stamp → Ending → Nat → Prop where
  | spent (l : List Stamp) (v : Nat) (calm : Calm l) (whole : calledAt l = beats cycle beat budget)
      (early : ∀ c, due = some c → ∀ k < budget, beat k < c) : Timely due cycle beat budget l .spent v
  | answered (count : Nat) (past part : List Stamp) (last : Event) (few : count < budget) (calm : Calm (past ++ part))
      (ends : last.ends = true) (whole : calledAt past = beats cycle beat count)
      (cut : calledAt (part ++ [⟨beat count, last⟩]) <+: cycle.map (beat count, ·))
      (early : ∀ c, due = some c → beat count < c) :
      Timely due cycle beat budget (past ++ part ++ [⟨beat count, last⟩]) .answered (beat count)
  | cancelled (count : Nat) (l : List Stamp) (c : Nat) (planned : due = some c) (few : count ≤ budget) (calm : Calm l)
      (whole : calledAt l = beats cycle beat count) (exact : ∀ k, k < count ↔ beat k < c) :
      Timely due cycle beat budget l (.cancelled count) c

theorem calm_append (a b : List Stamp) : Calm (a ++ b) ↔ Calm a ∧ Calm b := List.forall_mem_append

theorem ends_of_fault (e : Event) (fault : Fault) (fails : e.fault? = some fault) : e.ends = true := by
  unfold Event.ends
  split
  · cases fails
  · rw [fails]
    rfl

theorem calm_of_clean (l : List Stamp) (parts : List Part) (inside : ∀ e ∈ shown l, e.part ∈ parts) (polls : .poll ∉ parts)
    (clean : Clean (shown l)) : Calm l := by
  intro x member
  have here := List.mem_map_of_mem (f := Stamp.event) member
  have other := parts_absent inside .poll polls x.event here
  have quiet := clean x.event here
  unfold Event.ends
  split
  · rename_i asked
    rw [asked] at other
    exact absurd rfl other
  · rw [quiet]
    rfl

theorem beats_succ (cycle : List Acquisition.Call) (beat : Nat → Nat) (count : Nat) :
    beats cycle beat (count + 1) = cycle.map (beat 0, ·) ++ beats cycle (fun k => beat (k + 1)) count := by
  rw [beats, List.range_succ_eq_map, List.flatMap_cons, List.flatMap_map]
  rfl

def Ending.next : Ending → Ending
  | .cancelled count => .cancelled (count + 1)
  | ending => ending

theorem timely_later (due : Option Nat) (cycle : List Acquisition.Call) (beat : Nat → Nat) (budget : Nat) (x : Stamp)
    (l : List Stamp) (ending : Ending) (v : Nat) (silent : x.event.call? = none) (calm : x.event.ends = false)
    (timely : Timely due cycle beat budget l ending v) : Timely due cycle beat budget (x :: l) ending v := by
  have uncalled (rest : List Stamp) : calledAt (x :: rest) = calledAt rest := called_at_silent x rest silent
  have quiet (rest : List Stamp) (others : Calm rest) : Calm (x :: rest) := List.forall_mem_cons.mpr ⟨calm, others⟩
  cases timely with
  | spent _ _ others whole early => exact .spent _ v (quiet l others) ((uncalled l).trans whole) early
  | answered count past part last few others ends whole cut early =>
      exact .answered count (x :: past) part last few (quiet _ others) ends ((uncalled past).trans whole) cut early
  | cancelled count _ _ planned few others whole exact' =>
      exact .cancelled count _ v planned few (quiet l others) ((uncalled l).trans whole) exact'

section first
variable (due : Option Nat) (cycle : List Acquisition.Call) (beat : Nat → Nat) (budget : Nat)

theorem timely_first (t : Nat) (part : List Stamp) (last : Event) (now : t = beat 0) (calm : Calm part)
    (ends : last.ends = true) (cut : calledAt (part ++ [⟨t, last⟩]) <+: cycle.map (t, ·))
    (early : ∀ c, due = some c → t < c) : Timely due cycle beat (budget + 1) (part ++ [⟨t, last⟩]) .answered t := by
  subst now
  exact .answered 0 [] part last (Nat.succ_pos budget) calm ends rfl cut early

theorem timely_recalled (l : List Stamp) (c : Nat) (planned : due = some c) (calm : Calm l) (uncalled : calledAt l = [])
    (late : ∀ k, c ≤ beat k) : Timely due cycle beat budget l (.cancelled 0) c :=
  .cancelled 0 l c planned (Nat.zero_le budget) calm uncalled fun k =>
    ⟨fun few => absurd few (Nat.not_lt_zero k), fun early => absurd early (Nat.not_lt.mpr (late k))⟩

end first

theorem timely_next (due : Option Nat) (cycle : List Acquisition.Call) (beat : Nat → Nat) (budget : Nat)
    (first l : List Stamp) (ending : Ending) (v : Nat) (calm : Calm first)
    (whole : calledAt first = cycle.map (beat 0, ·)) (early : ∀ c, due = some c → beat 0 < c)
    (rest : Timely due cycle (fun k => beat (k + 1)) budget l ending v) :
    Timely due cycle beat (budget + 1) (first ++ l) ending.next v := by
  cases rest with
  | spent _ _ quiet called before =>
      refine .spent _ v ((calm_append first l).mpr ⟨calm, quiet⟩) ?_ ?_
      · rw [called_at_append, whole, called, beats_succ]
      · intro c planned k few
        cases k with
        | zero => exact early c planned
        | succ k => exact before c planned k (Nat.lt_of_succ_lt_succ few)
  | answered count past part last few quiet ends called cut before =>
      have still : Calm (first ++ past ++ part) := by
        rw [List.append_assoc]
        exact (calm_append first _).mpr ⟨calm, quiet⟩
      have longer : calledAt (first ++ past) = beats cycle beat (count + 1) := by
        rw [called_at_append, whole, called, beats_succ]
      rw [List.append_assoc past, ← List.append_assoc first, ← List.append_assoc (first ++ past)]
      exact .answered (count + 1) (first ++ past) part last (Nat.succ_lt_succ few) still ends longer cut before
  | cancelled count _ _ planned few quiet called exact =>
      refine .cancelled (count + 1) _ v planned (Nat.succ_le_succ few) ((calm_append first l).mpr ⟨calm, quiet⟩) ?_ ?_
      · rw [called_at_append, whole, called, beats_succ]
      · intro k
        cases k with
        | zero => exact ⟨fun _ => early v planned, fun _ => Nat.succ_pos count⟩
        | succ k => exact Nat.succ_lt_succ_iff.trans (exact k)

def Triggered (trigger : Acquisition.Call) (beat : Nat → Nat) (l : List Stamp) : Prop :=
  ∃ count, triggers l = (List.range count).map fun k => (beat k, trigger)

theorem triggers_append (a b : List Stamp) : triggers (a ++ b) = triggers a ++ triggers b := by
  rw [triggers, called_at_append, List.filter_append]
  rfl

theorem untriggered (l : List Stamp) (parts : List Part) (inside : ∀ e ∈ shown l, e.part ∈ parts) (polls : .poll ∉ parts)
    (snapshots : .snapshot ∉ parts) : triggers l = [] := by
  rw [triggers, List.filter_eq_nil_iff]
  intro x member
  obtain ⟨⟨millis, event⟩, stamped, found⟩ := List.mem_filterMap.mp member
  obtain ⟨call, called, rfl⟩ := Option.map_eq_some_iff.mp found
  have part := inside event (List.mem_map.mpr ⟨_, stamped, rfl⟩)
  rw [call_part event call called] at part
  rw [decide_eq_true_eq]
  rintro (poll | snapshot)
  · exact polls (poll ▸ part)
  · exact snapshots (snapshot ▸ part)

theorem triggered_never (trigger : Acquisition.Call) (beat : Nat → Nat) (l : List Stamp) (quiet : triggers l = []) :
    Triggered trigger beat l := ⟨0, quiet⟩

theorem triggered_once (trigger : Acquisition.Call) (beat : Nat → Nat) (l : List Stamp)
    (once : triggers l = [(beat 0, trigger)]) : Triggered trigger beat l := ⟨1, once⟩

theorem triggered_next (trigger : Acquisition.Call) (beat : Nat → Nat) (first l : List Stamp)
    (once : triggers first = [(beat 0, trigger)]) (rest : Triggered trigger (fun k => beat (k + 1)) l) :
    Triggered trigger beat (first ++ l) := by
  obtain ⟨count, same⟩ := rest
  refine ⟨count + 1, ?_⟩
  rw [triggers_append, once, same, List.range_succ_eq_map, List.map_cons, List.map_map]
  rfl

-- What a loop that ends so comes to; `value` is for a number of whole cycles.
def Ending.Yields {α : Type} (value : Nat → α) (result : Option (Except Fault α)) : Ending → Prop
  | .spent => result = none
  | .answered => result.isSome
  | .cancelled count => result = some (.ok (value count))

theorem yields_next {α : Type} (value : Nat → α) (result : Option (Except Fault α)) (ending : Ending)
    (yields : ending.Yields (fun count => value (count + 1)) result) : ending.next.Yields value result := by
  cases ending <;> exact yields

end PulseAnalyzer
