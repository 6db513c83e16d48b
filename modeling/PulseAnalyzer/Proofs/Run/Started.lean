import PulseAnalyzer.Proofs.Run.Aftermath

set_option autoImplicit false

namespace PulseAnalyzer
namespace Sequencer
open Procedure

theorem run_performed (s : Sequencer) (budget : Nat) (plan : Plan) (events : List Event)
    (result : Option (Except Fault Summary)) (traced : (s.run budget plan).Traced events result) (asks : events ≠ []) :
    ∃ first others performed ending, s.channels = first :: others ∧ plan.validate = .ok () ∧
      (s.perform first budget plan).Traced performed result ∧ events = performed ++ ending ∧
      (∀ e ∈ ending, e.part = .phase) ∧ (result = none → ending = []) := by
  rcases run_traced s budget plan events result traced with
    ⟨-, nothing, -⟩ | ⟨-, _, -, nothing, -⟩ | ⟨first, others, listed, valid, ⟨performed, rfl⟩ | ended⟩
  · exact absurd nothing asks
  · exact absurd nothing asks
  · exact ⟨first, others, events, [], listed, valid, performed, (List.append_nil events).symm, List.forall_mem_nil _,
      fun _ => rfl⟩
  · obtain ⟨before, outcome, performed, rfl, rfl⟩ := ended
    exact ⟨first, others, before, [.entered .idle], listed, valid, performed, rfl, by simp [Event.part, Request.part], nofun⟩

section clock
variable {pace : Pace} (takes : ∀ t e u, pace t e u → e.Takes t u)
include takes

-- The start of a run is told from all else by its answer, and takes no time.
theorem after_start (s : Sequencer) (resume again : Bool) (t v : Nat) (before after : List Stamp) (started : Nat)
    (paced : Paced pace t (before ++ ⟨started, .success (.startRun s.target resume) ()⟩ :: after) v) (head tail : List Event)
    (split : shown (before ++ ⟨started, .success (.startRun s.target resume) ()⟩ :: after) =
      head ++ .success (.startRun s.target again) () :: tail)
    (early : ∀ e ∈ head, e.isStarted = false) (late : ∀ e ∈ tail, e.isStarted = false) :
    shown after = tail ∧ Paced pace started after v := by
  have same : head ++ .success (.startRun s.target again) () :: tail =
      shown before ++ .success (.startRun s.target resume) () :: shown after := by
    rw [← split, shown_append]
    rfl
  have unstarted : ∀ e ∈ head, ¬ e.isStarted = true := fun e member => by simp [early e member]
  obtain rfl : tail = shown after := by
    rcases cut_no_earlier (·.isStarted = true) head tail _ _ _ _ unstarted rfl same with ⟨-, -, same⟩ | ⟨left, -, rfl⟩
    · exact same
    · cases late (.success (.startRun s.target resume) ()) (by simp)
  obtain ⟨u, -, later⟩ := (paced_append_iff pace t before _ v).mp paced
  obtain ⟨rfl, w, step, rest⟩ := (paced_cons_iff pace u _ after v).mp later
  obtain rfl : w = started := takes started _ w step
  exact ⟨rfl, rest⟩

theorem stop_closes (s : Sequencer) (answer : Except Int Unit) (u v : Nat) (l : List Stamp) (paced : Paced pace u l v)
    (tail : List Event) (split : shown l = .entered .stopping :: ⟨.api (.stopRun s.target), answer⟩ :: tail)
    (parts : ∀ e ∈ tail, e.part ∈ [Part.phase, .readOut, .emission]) :
    ∃ closing, l = ⟨u, .entered .stopping⟩ :: ⟨u, ⟨.api (.stopRun s.target), answer⟩⟩ :: closing ∧ shown closing = tail ∧
      Closes u closing := by
  obtain ⟨w, rest, rfl, entered, stopped, later⟩ := paced_shown_cons pace u l v paced _ _ split
  obtain rfl : w = u := takes u _ w entered
  obtain ⟨x, closing, rfl, asked, rfl, last⟩ := paced_shown_cons pace w rest v later _ _ stopped
  obtain rfl : x = w := takes w _ x asked
  have clockless : ∀ e ∈ shown closing, e.part ≠ .clock ∧ e.part ≠ .aside := fun e member =>
    ⟨parts_absent parts .clock (by decide) e member, parts_absent parts .aside (by decide) e member⟩
  obtain ⟨-, still⟩ := paced_still pace takes x closing v last clockless
  exact ⟨closing, rfl, rfl, fun y member => ⟨still y member, parts _ (List.mem_map_of_mem member)⟩⟩

section measured
variable {α : Type} (s : Sequencer) (lead : Procedure Unit) (resume again : Bool) (body : Procedure α)
  (rest : α → Procedure Summary) (leads : Steady [.configuration] lead) (runs : Steady Part.running body)
  (reads : ∀ value, Steady Part.closing (rest value)) (t v : Nat) (before after : List Stamp) (started : Nat)
  (paced : Paced pace t (before ++ ⟨started, .success (.startRun s.target resume) ()⟩ :: after) v)
include paced runs leads

theorem body_aftermath (early during closing : List Event) (ran : Option (Except Fault α))
    (led : lead.Traced early (some (.ok ()))) (traced : body.Traced during ran)
    (ends : ∀ e ∈ closing, e.isStarted = false)
    (split : shown (before ++ ⟨started, .success (.startRun s.target resume) ()⟩ :: after) =
      early ++ s.startEvents again ++ (during ++ closing)) :
    ∃ u d l, after = ⟨started, .entered .running⟩ :: (d ++ l) ∧ body.Clocked pace started d ran u ∧ shown l = closing ∧
      Paced pace u l v := by
  have opening : shown (before ++ ⟨started, .success (.startRun s.target resume) ()⟩ :: after) =
      (early ++ [.checked false]) ++ .success (.startRun s.target again) () ::
        (.entered .running :: (during ++ closing)) := by
    rw [split, startEvents]
    simp
  have unstarted : ∀ e ∈ early ++ [.checked false], e.isStarted = false :=
    List.forall_mem_append.mpr ⟨parts_not_started (leads early _ led).1 (by decide), by simp [Event.isStarted]⟩
  have quiet : ∀ e ∈ .entered .running :: (during ++ closing), e.isStarted = false :=
    List.forall_mem_cons.mpr ⟨rfl, List.forall_mem_append.mpr
      ⟨parts_not_started (runs during _ traced).1 (by decide), ends⟩⟩
  obtain ⟨told, clock⟩ := after_start takes s resume again t v before after started paced _ _ opening unstarted quiet
  obtain ⟨w, left, rfl, entered, later, on⟩ := paced_shown_cons pace started after v clock _ _ told
  obtain rfl : w = started := takes started _ w entered
  obtain ⟨u, d, l, rfl, rfl, rfl, first, second⟩ := paced_shown_append pace w left v on _ _ later
  exact ⟨u, d, l, rfl, ⟨traced, first⟩, rfl, second⟩

include reads

theorem measured_aftermath (events ending : List Event) (result : Option (Except Fault Summary))
    (measured : Measured s lead again body rest events result) (idles : ∀ e ∈ ending, e.part = .phase)
    (unspent : result = none → ending = [])
    (split : shown (before ++ ⟨started, .success (.startRun s.target resume) ()⟩ :: after) = events ++ ending) :
    Aftermath pace s body rest started after result := by
  have begun : .success (.startRun s.target resume) () ∈ events ++ ending := by
    rw [← split, shown_append]
    exact List.mem_append_right _ List.mem_cons_self
  have phases : ∀ e ∈ ending, e.part ∈ [Part.phase] := fun e member => List.mem_singleton.mpr (idles e member)
  have idle := parts_not_started phases (by decide)
  have never (early : ∀ e ∈ events, e.isStarted = false) : False := by
    have other := List.forall_mem_append.mpr ⟨early, idle⟩ _ begun
    cases other
  have led (early : List Event) (outcome : Option (Except Fault Unit)) (traced : lead.Traced early outcome) :
      ∀ e ∈ early, e.isStarted = false := parts_not_started (leads early outcome traced).1 (by decide)
  have stopping (answer : Except Int Unit) : ∀ e ∈ s.stopEvents answer, e.isStarted = false := by
    simp [stopEvents, Event.isStarted]
  cases measured with
  | unled _ traced => exact (never (led _ _ traced)).elim
  | misled _ fault traced => exact (never (led _ _ traced)).elim
  | cancelled early traced => exact (never (List.forall_mem_append.mpr ⟨led _ _ traced, by simp [Event.isStarted]⟩)).elim
  | refused early code traced =>
      exact (never (List.forall_mem_append.mpr ⟨led _ _ traced, by simp [Event.isStarted]⟩)).elim
  | spent early during traced ran =>
      cases unspent rfl
      obtain ⟨u, d, l, rfl, clocked, nothing, -⟩ := body_aftermath takes s lead resume again body leads runs t v before after
        started paced early during [] none traced ran (List.forall_mem_nil _)
        (by rw [split, List.append_nil, List.append_nil])
      cases List.map_eq_nil_iff.mp nothing
      rw [List.append_nil]
      exact .spent d u clocked
  | faulty early during outcome answer fault traced ran fails =>
      have quiet := List.forall_mem_append.mpr ⟨stopping answer, idle⟩
      obtain ⟨u, d, l, rfl, clocked, left, later⟩ := body_aftermath takes s lead resume again body leads runs t v before
        after started paced early during (s.stopEvents answer ++ ending) _ traced ran quiet (by rw [split]; simp)
      obtain ⟨closing, rfl, -, closes⟩ := stop_closes takes s answer u v l later ending left
        (fun e member => by simp [idles e member])
      exact .stopped d u outcome answer closing _ clocked closes (.inl ⟨fault, fails, rfl⟩)
  | stopped early during tail outcome answer value _ traced ran fine read =>
      have closing := (reads value tail result read).1
      have quiet := List.forall_mem_append.mpr ⟨stopping answer, List.forall_mem_append.mpr
        ⟨parts_not_started closing (by decide), idle⟩⟩
      obtain ⟨u, d, l, rfl, clocked, left, later⟩ := body_aftermath takes s lead resume again body leads runs t v before
        after started paced early during (s.stopEvents answer ++ (tail ++ ending)) _ traced ran quiet (by rw [split]; simp)
      have parts : ∀ e ∈ tail ++ ending, e.part ∈ [Part.phase, .readOut, .emission] := by
        refine List.forall_mem_append.mpr ⟨fun e member => List.mem_cons_of_mem _ (closing e member), fun e member => ?_⟩
        simp [idles e member]
      obtain ⟨closed, rfl, same, closes⟩ := stop_closes takes s answer u v l later (tail ++ ending) left parts
      obtain ⟨shot, last, rfl, rfl, -⟩ := List.map_eq_append_iff.mp same
      exact .stopped d u outcome answer _ result clocked closes (.inr ⟨value, shot, last, fine, rfl, read⟩)

end measured
end clock
end Sequencer
end PulseAnalyzer
