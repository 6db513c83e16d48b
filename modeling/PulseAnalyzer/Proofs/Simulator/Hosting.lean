import PulseAnalyzer.Proofs.Device.Conduct
import PulseAnalyzer.Proofs.Simulator.Links
import PulseAnalyzer.Simulator.Bench

set_option autoImplicit false

namespace PulseAnalyzer

theorem Bench.run_bind {α β : Type} (b : Bench) (p : Procedure α) (f : α → Procedure β) :
    b.run (p >>= f) = match b.run p with
      | (some (.ok value), c) => c.run (f value)
      | (some (.error fault), c) => (some (.error fault), c)
      | (none, c) => (none, c) := by
  refine (Program.run_bind Bench.answer p.run _ b).trans ?_
  rcases ran : Program.run Bench.answer p.run b with ⟨outcome, c⟩
  have same : b.run p = (outcome, c) := ran
  rw [same]
  cases outcome with
  | none => rfl
  | some result =>
      cases result with
      | ok value => rfl
      | error fault => rfl

-- The bench hands out what the link answers, and the link is not made to fail.
structure Bench.Hosts (b : Bench) (l : SimulatedLink) : Prop where
  link : b.link = .simulated l
  genuine : b.responses = []
  reached : l.Reached
  quiet : l.Quiet

theorem stand_in_genuine (b : Bench) (genuine : b.responses = []) (call : Link.Call) (answer : call.Answer) :
    b.standInResponse call answer = (answer, b) := by
  cases call with
  | read handle address size =>
      cases answer with
      | ok bytes => simp only [Bench.standInResponse, genuine]
      | error fault => rfl
  | acquire device | write handle address data | release handle => rfl

theorem asked_hosts (b : Bench) (l : SimulatedLink) (hosts : b.Hosts l) (call : Link.Call) :
    ∃ c, Bench.answer (.link call) b = ((l.answer call).1, c) ∧ c.Hosts (l.answer call).2 := by
  have reached := hosts.reached.asked l call
  have quiet := SimulatedLink.effect_quiet l _ call _ (l.answer_effect call) hosts.quiet
  have noted : (b.noteWrite call).link = .simulated l ∧ (b.noteWrite call).responses = [] := by
    cases call <;> exact ⟨hosts.link, hosts.genuine⟩
  refine ⟨{ b.noteWrite call with link := .simulated (l.answer call).2 }, ?_, rfl, noted.2, reached, quiet⟩
  simp only [Bench.answer, Bench.callLink, noted.1]
  exact stand_in_genuine { b.noteWrite call with link := .simulated (l.answer call).2 } noted.2 call _

theorem elapse_hosts (b : Bench) (l : SimulatedLink) (hosts : b.Hosts l) (millis : Nat) : (b.elapse millis).Hosts l := by
  unfold Bench.elapse
  split
  · exact hosts
  · exact ⟨hosts.link, hosts.genuine, hosts.reached, hosts.quiet⟩

-- The bench that has waited is a name in these, as unfolding its clock is long.
theorem awaited_cases (b later : Bench) (millis : Nat) (ended : Option Instant × Bench)
    (same : ended = if b.cancelled then (none, b)
      else if later.cancelled then (none, { later with millis }) else (some later.now, later)) :
    (b.cancelled = true ∧ ended = (none, b)) ∨
    (b.cancelled = false ∧ later.cancelled = true ∧ ended = (none, { later with millis })) ∨
    (b.cancelled = false ∧ later.cancelled = false ∧ ended = (some later.now, later)) := by
  rw [same]
  cases b.cancelled with
  | true => exact .inl ⟨rfl, rfl⟩
  | false =>
      cases later.cancelled with
      | true => exact .inr (.inl ⟨rfl, rfl, rfl⟩)
      | false => exact .inr (.inr ⟨rfl, rfl, rfl⟩)

theorem Bench.await_cases (b : Bench) (deadline : Instant) : ∃ later, later = b.elapse (wakeMillis deadline) ∧
    ((b.cancelled = true ∧ b.await deadline = (none, b)) ∨
    (b.cancelled = false ∧ later.cancelled = true ∧
      b.await deadline = (none, { later with millis := max b.millis (b.plan.atMillis.getD 0) })) ∨
    (b.cancelled = false ∧ later.cancelled = false ∧ b.await deadline = (some later.now, later))) :=
  ⟨_, rfl, awaited_cases b _ _ (b.await deadline) rfl⟩

theorem await_hosts (b : Bench) (l : SimulatedLink) (hosts : b.Hosts l) (deadline : Instant) : (b.await deadline).2.Hosts l := by
  have woken := elapse_hosts b l hosts (Bench.wakeMillis deadline)
  obtain ⟨later, elapsed, ⟨-, ended⟩ | ⟨-, -, ended⟩ | ⟨-, -, ended⟩⟩ := b.await_cases deadline
  · rw [ended]
    exact hosts
  · rw [← elapsed] at woken
    rw [ended]
    exact ⟨woken.link, woken.genuine, woken.reached, woken.quiet⟩
  · rw [← elapsed] at woken
    rw [ended]
    exact woken

theorem unasked_hosts (b : Bench) (l : SimulatedLink) (hosts : b.Hosts l) (r : Request)
    (other : ∀ call, r ≠ .link call) : (Bench.answer r b).2.Hosts l := by
  cases r with
  | link call => exact absurd rfl (other call)
  | pause millis => exact elapse_hosts b l hosts (b.millis + millis)
  | await deadline => exact await_hosts b l hosts deadline
  | api call | now | isCancelled | enter phase | emit m | print line =>
      exact ⟨hosts.link, hosts.genuine, hosts.reached, hosts.quiet⟩

namespace SimulatedLink

variable {α β : Type}

def Plays (l : SimulatedLink) (p : Program α) (events : List Event) (value : α) (m : SimulatedLink) : Prop :=
  ∀ b : Bench, b.Hosts l → ∃ c : Bench, c.Hosts m ∧
    Program.history Bench.answer p b = events ∧ Program.run Bench.answer p b = (some value, c)

theorem plays_done (l : SimulatedLink) (value : α) : l.Plays (.done value) [] value l :=
  fun b hosts => ⟨b, hosts, rfl, rfl⟩

theorem plays_bind (l m k : SimulatedLink) (p : Program α) (f : α → Program β) (events later : List Event) (value : α)
    (result : β) (first : l.Plays p events value m) (rest : m.Plays (f value) later result k) :
    l.Plays (p.bind f) (events ++ later) result k := by
  intro b hosts
  obtain ⟨c, hosted, shown, ran⟩ := first b hosts
  obtain ⟨d, left, follows, ends⟩ := rest c hosted
  refine ⟨d, left, ?_, ?_⟩
  · rw [Program.history_bind, shown, ran]
    exact congrArg (events ++ ·) follows
  · rw [Program.run_bind, ran]
    exact ends

theorem plays_link (l m k : SimulatedLink) (call : Link.Call) (answer : call.Answer)
    (f : Except Fault call.Value → Program α) (events : List Event) (value : α) (answers : l.answer call = (answer, m))
    (rest : m.Plays (f (answer.mapError (.link call.action ·))) events value k) :
    l.Plays ((Command.link call).bind f) (⟨.link call, answer⟩ :: events) value k := by
  intro b hosts
  obtain ⟨c, answered, hosted⟩ := asked_hosts b l hosts call
  rw [answers] at answered hosted
  obtain ⟨d, left, follows, ends⟩ := rest c hosted
  refine ⟨d, left, ?_, ?_⟩
  · simp only [Command.link, Program.request, Program.bind, Program.history, answered, follows]
  · simp only [Command.link, Program.request, Program.bind, Program.run, answered, ends]

theorem plays_pause (l m : SimulatedLink) (millis : Nat) (p : Program α) (events : List Event) (value : α)
    (rest : l.Plays p events value m) :
    l.Plays ((Program.request (.pause millis)).bind fun _ => p) (⟨.pause millis, ()⟩ :: events) value m := by
  intro b hosts
  obtain ⟨c, left, follows, ends⟩ := rest _ (unasked_hosts b l hosts (.pause millis) nofun)
  refine ⟨c, left, ?_, ends⟩
  exact congrArg (List.cons _) follows

theorem plays_ok_bind (l m k : SimulatedLink) (p : Procedure α) (f : α → Procedure β) (events later : List Event)
    (value : α) (result : Except Fault β) (first : l.Plays p.run events (.ok value) m)
    (rest : m.Plays (f value).run later result k) : l.Plays (p >>= f).run (events ++ later) result k :=
  plays_bind l m k p.run _ events later (.ok value) result first rest

end SimulatedLink
end PulseAnalyzer
