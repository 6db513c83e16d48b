import PulseAnalyzer.Proofs.Run.Course
import PulseAnalyzer.Proofs.Run.Rounds
import PulseAnalyzer.Proofs.Simulator.Readings

set_option autoImplicit false

namespace PulseAnalyzer
namespace Monitor

theorem cycles_go (m : Monitor) (session : Session) (budget : Nat) (ticker : Ticker) (emitted : Nat) (b : Bench)
    (l : SimulatedLink) (hosts : b.Hosts l) (known : ∀ channel ∈ m.channels, channel < l.devices) :
    ∃ stamps whole c, b.Goes (m.cycles session budget ticker emitted) stamps
        (whole.map fun count => .ok (emitted + count * m.channels.length)) c ∧
      Rounds (m.channels.length * 100) budget ticker b.millis stamps whole := by
  induction budget generalizing ticker emitted b l with
  | zero => exact ⟨[], none, b, ⟨rfl, rfl⟩, .spent ticker b.millis⟩
  | succ budget ih =>
      have takes := (b.answer_takes ⟨l, hosts.link⟩ (.await ticker.deadline)).2
      have woken := unasked_hosts b l hosts (.await ticker.deadline) nofun
      rcases waited : Bench.answer (.await ticker.deadline) b with ⟨reply, c⟩
      rw [waited] at takes woken
      cases reply with
      | none =>
          refine ⟨_, some 0, c, b.goes_ask_bind c c _ none _ [] _ waited ?_, .interrupted budget ticker b.millis⟩
          rw [Option.map_some, grid_first]
          exact c.goes_pure emitted
      | some now =>
          obtain ⟨woke, rfl⟩ : c.millis = max b.millis (Bench.wakeMillis ticker.deadline) ∧ now = c.millis * 1000000 := takes
          cases read_all_reads session m.channels c l woken known with
          | cut reads v d goes timeless within =>
              refine ⟨_, some 0, d, b.goes_ask_bind c d _ _ _ _ _ waited ?_,
                .cut budget ticker b.millis c.millis reads v woke (waits_none reads timeless) within⟩
              rw [Option.map_some, grid_first, ← List.append_nil (reads ++ _)]
              exact c.goes_ok_bind d d _ _ _ [] _ _ goes (d.goes_pure emitted)
          | whole reads readings d k goes left same timeless all lasts =>
              obtain ⟨handed, e, emits, kept, quiet, still⟩ := d.emit_all_goes k left readings
              obtain ⟨rest, whole, f, onward, rounds⟩ :=
                ih (ticker.taken (c.millis * 1000000)) (emitted + readings.length) e k kept (same ▸ known)
              rw [still, lasts] at rounds
              have silent : waits (reads ++ handed) = [] := waits_none _ (timeless_append reads handed timeless quiet)
              refine ⟨_, whole.map (· + 1), f, b.goes_ask_bind c f _ _ _ _ _ waited ?_,
                .next budget ticker b.millis c.millis (reads ++ handed) rest whole woke silent rounds⟩
              have counted : ((whole.map (· + 1)).map fun count => .ok (emitted + count * m.channels.length) :
                  Option (Except Fault Nat)) =
                  whole.map fun count => .ok (emitted + readings.length + count * m.channels.length) := by
                rw [Option.map_map, all]
                exact congrArg (whole.map ·) (funext fun count => congrArg Except.ok (grid_next _ _ count))
              rw [counted, List.append_assoc]
              exact c.goes_ok_bind d f _ _ reads _ _ _ goes (d.goes_ok_bind e f _ _ handed rest _ _ emits onward)

theorem run_goes (m : Monitor) (valid : checkPeriod "monitor" m.period minPeriod = .ok ()) (session : Session) (budget : Nat)
    (b : Bench) (l : SimulatedLink) (hosts : b.Hosts l) (known : ∀ channel ∈ m.channels, channel < l.devices) :
    ∃ stamps whole c, b.Goes (m.run session budget) (⟨b.millis, ⟨.now, b.now⟩⟩ :: stamps)
        (whole.map fun count => .ok (count * m.channels.length)) c ∧
      Rounds (m.channels.length * 100) budget (.startingAt b.now m.period) b.millis stamps whole := by
  obtain ⟨stamps, whole, c, goes, rounds⟩ := m.cycles_go session budget (.startingAt b.now m.period) 0 b l hosts known
  refine ⟨stamps, whole, c, ?_, rounds⟩
  have begins : m.run session budget =
      Procedure.ask .now >>= fun now => m.cycles session budget (.startingAt now m.period) 0 := by
    rw [run, valid]
    rfl
  simp only [Nat.zero_add] at goes
  rw [begins]
  exact b.goes_ask_bind b c .now b.now _ stamps _ rfl goes

theorem period_valid (period : Duration) (least : minPeriod.nanos ≤ period.nanos) (most : period.nanos ≤ maxPeriod.nanos) :
    checkPeriod "monitor" period minPeriod = .ok () := by
  have positive : 0 < minPeriod.nanos := by decide
  exact if_neg (by omega)

theorem run_on_schedule (m : Monitor) (least : minPeriod.nanos ≤ m.period.nanos) (most : m.period.nanos ≤ maxPeriod.nanos)
    (session : Session) (budget : Nat) (b : Bench) (l : SimulatedLink) (hosts : b.Hosts l)
    (known : ∀ channel ∈ m.channels, channel < l.devices) :
    let timeline := (m.run session budget).run.timeline Bench.answer Bench.millis b
    let length := m.channels.length * 100
    timeline.Pairwise (fun x y => x.millis ≤ y.millis) ∧
    Schedule b.now m.period length (waits timeline) ∧
    (∀ fault, (b.run (m.run session budget)).1 ≠ some (.error fault)) ∧
    (b.Due none → (begun (waits timeline)).length = budget) ∧
    ∀ due, b.Due due → length * 1000000 ≤ m.period.nanos →
      ∀ i < budget, (∀ c, due = some c → Bench.wakeMillis (b.now + i * m.period.nanos) < c) →
        (begun (waits timeline))[i]? = some (Bench.wakeMillis (b.now + i * m.period.nanos) * 1000000) := by
  intro timeline length
  have positive : 0 < m.period.nanos := Nat.lt_of_lt_of_le (by decide) least
  obtain ⟨stamps, whole, c, goes, rounds⟩ := m.run_goes (period_valid m.period least most) session budget b l hosts known
  have waited : waits timeline = waits stamps := (congrArg waits goes.stamped).trans rfl
  have heeded (due : Option Nat) (timely : b.Due due) : ∀ x ∈ stamps, ∃ u, x.event.Heeds due x.millis u := by
    have each := paced_each _ _ _ _ (b.keeps_due due timely (m.run session budget).run)
    rw [goes.stamped] at each
    exact fun x member => each x (List.mem_cons_of_mem _ member)
  have ahead : b.millis ≤ Bench.wakeMillis b.now := Nat.le_of_eq (wake_of_millis b.millis).symm
  rw [waited]
  refine ⟨?_, ?_, ?_, ?_, ?_⟩
  · exact (paced_ordered _ Event.takes_onward _ _ _ (b.keeps_time ⟨l, hosts.link⟩ (m.run session budget).run)).2
  · exact rounds_schedule b.now length m.period positive budget b.millis rfl stamps whole rounds
  · intro fault failed
    rw [goes.ran] at failed
    cases whole <;> cases failed
  · exact fun timely => rounds_complete budget _ b.millis stamps whole rounds (heeded none timely)
  · intro due timely fits i few early
    have heeds := heeded due timely
    exact rounds_reach m.period fits due b.now budget _ b.millis stamps whole rounds rfl ahead heeds i few early

-- Two channels take longer than a period here, so each round begins when the one before has ended.
theorem busy_monitor_on_schedule :
    let m : Monitor := ⟨[1, 0], .ofMillis 150⟩
    let b := Bench.make (.make 2 0) (.simulated (.make 2))
    let timeline := (m.run ⟨.standard, []⟩ 3).run.timeline Bench.answer Bench.millis b
    minPeriod.nanos ≤ m.period.nanos ∧ m.period.nanos ≤ maxPeriod.nanos ∧ b.Hosts (.make 2) ∧ b.Due none ∧
    Schedule b.now m.period (m.channels.length * 100) (waits timeline) ∧ (begun (waits timeline)).length = 3 ∧
    begun (waits timeline) = [0, 200000000, 400000000] := by
  have rounds : begun (waits (((Monitor.mk [1, 0] (.ofMillis 150)).run ⟨.standard, []⟩ 3).run.timeline
      Bench.answer Bench.millis (Bench.make (.make 2 0) (.simulated (.make 2))))) = [0, 200000000, 400000000] := by rfl
  intro m b timeline
  have hosts : b.Hosts (.make 2) := ⟨rfl, rfl, .make 2, ⟨rfl, rfl⟩⟩
  have timely : b.Due none := ⟨rfl, rfl⟩
  obtain ⟨-, schedule, -, complete, -⟩ :=
    run_on_schedule m (by decide) (by decide) ⟨.standard, []⟩ 3 b (.make 2) hosts (by decide)
  exact ⟨by decide, by decide, hosts, timely, schedule, complete timely, rounds⟩

end Monitor
end PulseAnalyzer
