import PulseAnalyzer.Proofs.Run.HandedOut
import PulseAnalyzer.Proofs.Simulator.Peripherals
import PulseAnalyzer.Proofs.Simulator.Timekeeping

set_option autoImplicit false

namespace PulseAnalyzer

namespace Bench

variable {α β : Type}

structure Goes (b : Bench) (p : Procedure α) (l : List Stamp) (result : Option (Except Fault α)) (c : Bench) : Prop where
  stamped : p.run.timeline answer millis b = l
  ran : b.run p = (result, c)

theorem goes_pure (b : Bench) (value : α) : b.Goes (pure value) [] (some (.ok value)) b := ⟨rfl, rfl⟩

theorem goes_ask_bind (b c d : Bench) (r : Request) (reply : r.Answer) (f : r.Answer → Procedure α) (l : List Stamp)
    (result : Option (Except Fault α)) (replies : answer r b = (reply, c)) (rest : c.Goes (f reply) l result d) :
    b.Goes (Procedure.ask r >>= f) (⟨b.millis, ⟨r, reply⟩⟩ :: l) result d := by
  obtain ⟨rfl, rfl⟩ := Prod.mk.inj replies
  exact ⟨congrArg (List.cons _) rest.stamped, rest.ran⟩

theorem goes_ok_bind (b c d : Bench) (p : Procedure α) (f : α → Procedure β) (first later : List Stamp) (value : α)
    (result : Option (Except Fault β)) (begins : b.Goes p first (some (.ok value)) c)
    (rest : c.Goes (f value) later result d) : b.Goes (p >>= f) (first ++ later) result d := by
  have ran : Program.run answer p.run b = (some (.ok value), c) := begins.ran
  refine ⟨?_, ?_⟩
  · refine (Program.timeline_bind answer millis p.run _ b).trans ?_
    rw [begins.stamped, ran]
    exact congrArg (first ++ ·) rest.stamped
  · rw [b.run_bind, begins.ran]
    exact rest.ran

theorem plays_goes (b : Bench) (l m : SimulatedLink) (hosts : b.Hosts l) (p : Procedure α) (events : List Event) (value : α)
    (plays : l.Plays p.run events (.ok value) m) (timeless : ∀ e ∈ events, e.part ≠ .clock) :
    ∃ reads c, b.Goes p reads (some (.ok value)) c ∧ c.Hosts m ∧ (∀ e ∈ shown reads, e.part ≠ .clock) ∧
      c.millis = b.millis + pauses events := by
  obtain ⟨c, hosted, asked, ran⟩ := plays b hosts
  have paced := b.keeps_time ⟨l, hosts.link⟩ p.run
  rw [Program.Keeps, ran] at paced
  have same : shown (p.run.timeline answer millis b) = events := (Program.timeline_shown answer millis p.run b).trans asked
  refine ⟨_, c, ⟨rfl, ran⟩, hosted, by rwa [same], ?_⟩
  rw [← same] at timeless ⊢
  exact paced_paused Event.Takes (fun _ _ _ => id) _ _ _ paced timeless

end Bench

namespace SimulatedLink

theorem rewriting_paused (handle : Handle) (frame : Bytes) (answers : List (Except LinkFault Unit)) :
    pauses (answers.flatMap (Command.rewriting handle frame)) = answers.length * 100 := by
  induction answers with
  | nil => rfl
  | cons first rest ih =>
      rw [List.flatMap_cons, pauses_append, ih, List.length_cons, Nat.succ_mul, Nat.add_comm]
      rfl

theorem answered_paused (device n : Nat) (opcode : UInt8) (arguments : Bytes) (again : Nat) (wire : Bytes) :
    pauses (answered device n opcode arguments (again + 1) wire) = again * 100 := by
  have paused := rewriting_paused ⟨n⟩ (Frame.encode (opcode :: arguments)) (List.replicate again (.ok ()))
  rw [List.length_replicate] at paused
  rw [← paused]
  simp [answered, Command.writing, List.replicate_succ, pauses_append, pauses, Event.paused]

theorem rewriting_aside (handle : Handle) (frame : Bytes) (answers : List (Except LinkFault Unit)) :
    ∀ e ∈ answers.flatMap (Command.rewriting handle frame), e.part = .aside := by
  intro e member
  obtain ⟨answer, -, here⟩ := List.mem_flatMap.mp member
  rcases List.mem_cons.mp here with rfl | last
  · rfl
  · cases List.mem_singleton.mp last
    rfl

theorem answered_timeless (device n : Nat) (opcode : UInt8) (arguments : Bytes) (again : Nat) (wire : Bytes) :
    ∀ e ∈ answered device n opcode arguments (again + 1) wire, e.part ≠ .clock := by
  have aside : ∀ e ∈ answered device n opcode arguments (again + 1) wire, e.part = .aside := by
    refine List.forall_mem_cons.mpr ⟨rfl, List.forall_mem_append.mpr ⟨?_, ?_⟩⟩
    · rw [List.replicate_succ]
      exact List.forall_mem_cons.mpr ⟨rfl, rewriting_aside _ _ _⟩
    · exact List.forall_mem_cons.mpr ⟨rfl, List.forall_mem_singleton.mpr rfl⟩
  intro e member same
  rw [aside e member] at same
  cases same

end SimulatedLink

namespace Bench

section link
variable (b : Bench) (l : SimulatedLink) (hosts : b.Hosts l)
include hosts

-- An exchange takes as long as the pauses between its writes, and leaves a link with as many devices.
theorem reading_goes {α : Type} (p : Procedure α) (channel n : Nat) (opcode : UInt8) (arguments : Bytes) (again : Nat)
    (wire : Bytes) (value : α) (m : SimulatedLink)
    (plays : l.Plays p.run (SimulatedLink.answered channel n opcode arguments (again + 1) wire) (.ok value) m) :
    ∃ reads c, b.Goes p reads (some (.ok value)) c ∧ c.Hosts m ∧ (∀ e ∈ shown reads, e.part ≠ .clock) ∧
      c.millis = b.millis + again * 100 := by
  have goes := b.plays_goes l m hosts p _ value plays (SimulatedLink.answered_timeless channel n opcode arguments again wire)
  rwa [SimulatedLink.answered_paused] at goes

theorem read_volts_goes (session : Session) (channel : Nat) (known : channel < l.devices) :
    ∃ reads volts c m, b.Goes (session.readVolts channel) reads (some (.ok volts)) c ∧ c.Hosts m ∧
      m.devices = l.devices ∧ (∀ e ∈ shown reads, e.part ≠ .clock) ∧ c.millis = b.millis + 100 := by
  obtain ⟨m, plays, exchanged⟩ := l.read_volts_plays session hosts.reached hosts.quiet channel known
  obtain ⟨reads, c, goes, hosted, timeless, lasts⟩ := b.reading_goes l hosts _ _ _ _ _ 1 _ _ m plays
  exact ⟨reads, _, c, m, goes, hosted, exchanged.devices, timeless, lasts⟩

theorem read_temperature_goes (channel : Nat) (known : channel < l.devices) :
    ∃ reads celsius c m, b.Goes (Session.readTemperature channel) reads (some (.ok celsius)) c ∧ c.Hosts m ∧
      m.devices = l.devices ∧ (∀ e ∈ shown reads, e.part ≠ .clock) ∧ c.millis = b.millis := by
  obtain ⟨m, plays, exchanged⟩ := l.read_temperature_plays hosts.reached hosts.quiet channel known
  obtain ⟨reads, c, goes, hosted, timeless, still⟩ := b.reading_goes l hosts _ _ _ _ _ 0 _ _ m plays
  exact ⟨reads, _, c, m, goes, hosted, exchanged.devices, timeless, still⟩

theorem emit_all_goes (measurements : List Measurement) :
    ∃ handed c, b.Goes (Sequencer.emitAll measurements) handed (some (.ok ())) c ∧ c.Hosts l ∧
      (∀ e ∈ shown handed, e.part ≠ .clock) ∧ c.millis = b.millis := by
  induction measurements generalizing b with
  | nil => exact ⟨[], b, b.goes_pure (), hosts, List.forall_mem_nil _, rfl⟩
  | cons first rest ih =>
      obtain ⟨handed, c, goes, hosted, timeless, still⟩ :=
        ih _ (unasked_hosts b l hosts (.emit first) nofun)
      exact ⟨_, c, b.goes_ask_bind _ c (.emit first) () _ handed _ rfl goes, hosted,
        List.forall_mem_cons.mpr ⟨nofun, timeless⟩, still⟩

end link
end Bench

namespace Monitor

-- The readings of some channels from a time on: all of them, or up to a check after the cancellation.
inductive Reads (session : Session) (channels : List Nat) (b : Bench) (devices : Nat) : Prop where
  | whole (reads : List Stamp) (readings : List Measurement) (c : Bench) (m : SimulatedLink)
      (goes : b.Goes (readAll session channels) reads (some (.ok (some readings))) c) (hosts : c.Hosts m)
      (same : m.devices = devices) (timeless : ∀ e ∈ shown reads, e.part ≠ .clock)
      (all : readings.length = channels.length) (lasts : c.millis = b.millis + channels.length * 100)
  | cut (reads : List Stamp) (v : Nat) (c : Bench)
      (goes : b.Goes (readAll session channels) (reads ++ [⟨v, .checked true⟩]) (some (.ok none)) c)
      (timeless : ∀ e ∈ shown reads, e.part ≠ .clock) (within : v ≤ b.millis + channels.length * 100)

theorem read_all_cons (session : Session) (channel : Nat) (rest : List Nat) :
    readAll session (channel :: rest) = Procedure.ask .isCancelled >>= fun first =>
      if first then pure none
      else session.readVolts channel >>= fun volts => Procedure.ask .isCancelled >>= fun second =>
        if second then pure none
        else Session.readTemperature channel >>= fun celsius => readAll session rest >>= fun others =>
          pure (others.map (.reading channel volts celsius :: ·)) := by
  rw [readAll]
  refine congrArg (Procedure.ask .isCancelled >>= ·) (funext fun first => ?_)
  cases first with
  | true => rfl
  | false =>
      refine congrArg (session.readVolts channel >>= ·) (funext fun volts => ?_)
      refine congrArg (Procedure.ask .isCancelled >>= ·) (funext fun second => ?_)
      cases second with
      | true => rfl
      | false =>
          refine congrArg (Session.readTemperature channel >>= ·) (funext fun celsius => ?_)
          refine congrArg (readAll session rest >>= ·) (funext fun others => ?_)
          cases others <;> rfl

theorem timeless_append (a b : List Stamp) (first : ∀ e ∈ shown a, e.part ≠ .clock)
    (second : ∀ e ∈ shown b, e.part ≠ .clock) :
    ∀ e ∈ shown (a ++ b), e.part ≠ .clock := by
  rw [shown_append]
  exact List.forall_mem_append.mpr ⟨first, second⟩

inductive First (session : Session) (channel : Nat) (rest : List Nat) (b : Bench) (devices : Nat) : Prop where
  | read (reads : List Stamp) (volts celsius : Float) (c : Bench) (m : SimulatedLink) (hosts : c.Hosts m)
      (same : m.devices = devices) (timeless : ∀ e ∈ shown reads, e.part ≠ .clock) (lasts : c.millis = b.millis + 100)
      (onward : ∀ later result d, c.Goes (readAll session rest >>= fun others =>
          pure (others.map (.reading channel volts celsius :: ·))) later result d →
        b.Goes (readAll session (channel :: rest)) (reads ++ later) result d)
  | cut (reads : List Stamp) (v : Nat) (c : Bench)
      (goes : b.Goes (readAll session (channel :: rest)) (reads ++ [⟨v, .checked true⟩]) (some (.ok none)) c)
      (timeless : ∀ e ∈ shown reads, e.part ≠ .clock) (within : v ≤ b.millis + 100)

theorem read_first (session : Session) (channel : Nat) (rest : List Nat) (b : Bench) (l : SimulatedLink) (hosts : b.Hosts l)
    (known : channel < l.devices) : First session channel rest b l.devices := by
  cases before : b.cancelled with
  | true =>
      refine .cut [] b.millis b ?_ (List.forall_mem_nil _) (Nat.le_add_right _ _)
      rw [read_all_cons]
      exact b.goes_ask_bind b b .isCancelled true _ [] _ (congrArg (·, b) before) (b.goes_pure none)
  | false =>
      obtain ⟨reads, volts, c, m, voltsRead, hosted, devices, timeless, lasts⟩ :=
        b.read_volts_goes l hosts session channel known
      have going (f : Bool → Procedure (Option (List Measurement))) (later : List Stamp)
          (result : Option (Except Fault (Option (List Measurement)))) (d : Bench) (goes : b.Goes (f false) later result d) :
          b.Goes (Procedure.ask .isCancelled >>= f) (⟨b.millis, .checked false⟩ :: later) result d :=
        b.goes_ask_bind b d .isCancelled false f later result (congrArg (·, b) before) goes
      have checked : ∀ e ∈ shown (⟨b.millis, .checked false⟩ :: reads), e.part ≠ .clock :=
        List.forall_mem_cons.mpr ⟨nofun, timeless⟩
      cases between : c.cancelled with
      | true =>
          refine .cut (⟨b.millis, .checked false⟩ :: reads) c.millis c ?_ checked (Nat.le_of_eq lasts)
          rw [read_all_cons]
          refine going _ _ _ _ (b.goes_ok_bind c c _ _ reads _ _ _ voltsRead ?_)
          exact c.goes_ask_bind c c .isCancelled true _ [] _ (congrArg (·, c) between) (c.goes_pure none)
      | false =>
          obtain ⟨more, celsius, d, k, celsiusRead, left, kept, still, same⟩ :=
            c.read_temperature_goes m hosted channel (devices ▸ known)
          refine .read (⟨b.millis, .checked false⟩ :: reads ++ ⟨c.millis, .checked false⟩ :: more) volts celsius d k left
            (kept.trans devices) ?_ (same.trans lasts) fun later result e goes => ?_
          · exact timeless_append _ _ checked (List.forall_mem_cons.mpr ⟨nofun, still⟩)
          · rw [read_all_cons, List.cons_append, List.cons_append, List.append_assoc]
            refine going _ _ _ _ (b.goes_ok_bind c e _ _ reads _ _ _ voltsRead ?_)
            refine c.goes_ask_bind c e .isCancelled false _ _ _ (congrArg (·, c) between) ?_
            exact c.goes_ok_bind d e _ _ more later _ _ celsiusRead goes

theorem read_all_reads (session : Session) (channels : List Nat) (b : Bench) (l : SimulatedLink) (hosts : b.Hosts l)
    (known : ∀ channel ∈ channels, channel < l.devices) : Reads session channels b l.devices := by
  induction channels generalizing b l with
  | nil => exact .whole [] [] b l (b.goes_pure (some [])) hosts rfl (List.forall_mem_nil _) rfl rfl
  | cons channel rest ih =>
      obtain ⟨here, others⟩ := List.forall_mem_cons.mp known
      cases read_first session channel rest b l hosts here with
      | cut reads v c goes timeless within =>
          refine .cut reads v c goes timeless ?_
          rw [List.length_cons]
          omega
      | read reads volts celsius c m hosted same timeless lasts onward =>
          have further := ih c m hosted fun other member => same ▸ others other member
          cases further with
          | whole more readings d k goes left kept still all later =>
              have collected := c.goes_ok_bind d d _ (fun others => pure (others.map (.reading channel volts celsius :: ·)))
                more [] _ _ goes (d.goes_pure (some (.reading channel volts celsius :: readings)))
              refine .whole _ _ d k (onward _ _ d collected) left (kept.trans same) ?_ (congrArg (· + 1) all) ?_
              · rw [List.append_nil]
                exact timeless_append reads more timeless still
              · rw [List.length_cons]
                omega
          | cut more v d goes still within =>
              have ended := c.goes_ok_bind d d _ (fun others => pure (others.map (.reading channel volts celsius :: ·)))
                _ [] _ _ goes (d.goes_pure none)
              have whole := onward _ _ d ended
              rw [List.append_nil, ← List.append_assoc] at whole
              refine .cut (reads ++ more) v d whole (timeless_append reads more timeless still) ?_
              rw [List.length_cons]
              omega

end Monitor
end PulseAnalyzer
