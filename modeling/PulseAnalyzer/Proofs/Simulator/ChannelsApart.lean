import PulseAnalyzer.Proofs.Simulator.Delivery
import PulseAnalyzer.Proofs.Simulator.LedPulser

set_option autoImplicit false

namespace PulseAnalyzer

namespace Session

def Operation.channel : Operation → Nat
  | .readValue channel _ | .writeValue channel _ _ | .setVolts channel _ | .readVolts channel | .readTemperature channel
  | .readLed channel | .setLed channel _ _ _ | .toggleLed channel | .raw channel _ _ _ => channel

def Operation.Framed : Operation → Prop
  | .readValue _ _ | .writeValue _ _ _ | .setVolts _ _ => False
  | _ => True

structure Reply where
  operation : Operation
  outcome : Option (Except Fault operation.Value)

def operationsOn (channel : Nat) (operations : List Operation) : List Operation :=
  operations.filter fun o => o.channel = channel

def repliesOn (channel : Nat) (replies : List Reply) : List Reply :=
  replies.filter fun reply => reply.operation.channel = channel

end Session

def Bench.replies (b : Bench) (s : Session) : List Session.Operation → List Session.Reply
  | [] => []
  | o :: rest => ⟨o, (b.run (s.perform o)).1⟩ :: (b.run (s.perform o)).2.replies s rest

theorem replies_step (b c : Bench) (s : Session) (o : Session.Operation) (rest : List Session.Operation)
    (outcome : Option (Except Fault o.Value)) (ran : b.run (s.perform o) = (outcome, c)) :
    b.replies s (o :: rest) = ⟨o, outcome⟩ :: c.replies s rest ∧ b.performed s (o :: rest) = c.performed s rest := by
  constructor
  · rw [Bench.replies, ran]
  · rw [Bench.performed, List.foldl_cons, ran]
    rfl

theorem replies_append (b : Bench) (s : Session) (operations later : List Session.Operation) :
    b.replies s (operations ++ later) = b.replies s operations ++ (b.performed s operations).replies s later := by
  induction operations generalizing b with
  | nil => rfl
  | cons o rest ih => exact congrArg (List.cons _) (ih (b.run (s.perform o)).2)

theorem performed_append (b : Bench) (s : Session) (operations later : List Session.Operation) :
    b.performed s (operations ++ later) = (b.performed s operations).performed s later := List.foldl_append

theorem answer_acquires (b : Bench) (l : SimulatedLink) (hosts : b.Hosts l) (r : Request) :
    ∃ m, (Bench.answer r b).2.Hosts m ∧
      m.acquired = l.acquired + (acquired [⟨r, (Bench.answer r b).1⟩]).length := by
  cases r with
  | link call =>
      obtain ⟨c, answered, hosted⟩ := asked_hosts b l hosts call
      rw [answered]
      refine ⟨_, hosted, ?_⟩
      rcases SimulatedLink.effect_issues l _ call _ (l.answer_effect call) with ⟨nothing, same⟩ | ⟨one, more⟩
      · rw [acquired, List.filterMap_cons_none nothing, same]
        rfl
      · rw [acquired, List.filterMap_cons_some one, more]
        rfl
  | api | pause | now | isCancelled | await | enter | emit | print =>
      exact ⟨l, unasked_hosts b l hosts _ (fun call same => by cases same), rfl⟩

theorem run_acquires {α : Type} (p : Program α) (b : Bench) (l : SimulatedLink) (hosts : b.Hosts l) :
    ∃ m, (Program.run Bench.answer p b).2.Hosts m ∧
      m.acquired = l.acquired + (acquired (Program.history Bench.answer p b)).length := by
  induction p generalizing b l with
  | done value => exact ⟨l, hosts, rfl⟩
  | spent => exact ⟨l, hosts, rfl⟩
  | ask r next ih =>
      obtain ⟨m, hosted, first⟩ := answer_acquires b l hosts r
      obtain ⟨k, left, later⟩ := ih _ _ m hosted
      refine ⟨k, left, ?_⟩
      rw [Program.history, ← List.singleton_append, acquired_append, List.length_append, later, first, Nat.add_assoc]

theorem hosts_same (b : Bench) (l m : SimulatedLink) (first : b.Hosts l) (second : b.Hosts m) : l = m :=
  BenchLink.simulated.inj (first.link.symm.trans second.link)

theorem writing_acquires (handle : Handle) (frame : Bytes) (answers : List (Except LinkFault Unit)) :
    acquired (Command.writing handle frame answers) = [] := by
  refine List.filterMap_eq_nil_iff.mpr fun e member => ?_
  rcases Command.writing_forms handle frame answers e member with ⟨answer, rfl⟩ | rfl <;> rfl

theorem exchange_acquires (l : SimulatedLink) (device : Nat) (opcode : UInt8) (arguments : Bytes) (sends size : Nat) :
    acquired (l.exchange device opcode arguments sends size) = [⟨l.nextHandle⟩] := by
  have begins : acquired (l.exchange device opcode arguments sends size) =
      ⟨l.nextHandle⟩ :: acquired (Command.writing ⟨l.nextHandle⟩ _ _ ++ _) := rfl
  rw [begins, acquired_append, writing_acquires]
  rfl

namespace SimulatedLink

-- Links that differ in nothing but the log of frames and the counts towards planned failures.
structure Agrees (l k : SimulatedLink) : Prop where
  devices : k.devices = l.devices
  registers : ∀ device, k.registersOf device = l.registersOf device
  handles : k.handles = l.handles
  pending : k.pending = l.pending
  acquired : k.acquired = l.acquired

theorem agrees_refl (l : SimulatedLink) : l.Agrees l := ⟨rfl, fun _ => rfl, rfl, rfl, rfl⟩

theorem agrees_counted (l k : SimulatedLink) (first : l.Reached) (second : k.Reached) (agree : l.Agrees k) :
    k.nextHandle = l.nextHandle ∧ k.released = l.released := by
  have account := reached_accounted l first
  have tally := reached_accounted k second
  have counted := account.counted
  have tallied := tally.counted
  rw [account.next, tally.next, agree.acquired]
  rw [agree.acquired, agree.handles] at tallied
  exact ⟨rfl, by omega⟩

end SimulatedLink

-- What a procedure comes to, what it leaves in the registers of its channel and how many handles it uses up is
-- settled by those registers and the number of devices. Nothing else of the link is changed.
def Local {α : Type} (channel : Nat) (p : Procedure α) : Prop :=
  ∀ devices r, ∃ outcome left opened, ∀ (b : Bench) (l : SimulatedLink), b.Hosts l → l.devices = devices →
    l.registersOf channel = r → ∃ c m, b.run p = (some outcome, c) ∧ c.Hosts m ∧ l.Exchanged m channel left ∧
      m.acquired = l.acquired + opened

theorem local_of_except {α : Type} (channel : Nat) (outcome : Except Fault α) :
    Local channel (Procedure.ofExcept outcome) :=
  fun _ r => ⟨outcome, r, 0, fun b l hosts _ own => ⟨b, l, rfl, hosts, ⟨rfl, rfl, rfl, own, fun _ _ => rfl⟩, rfl⟩⟩

theorem local_bind {α β : Type} (channel : Nat) (p : Procedure α) (f : α → Procedure β) (first : Local channel p)
    (rest : ∀ value, Local channel (f value)) : Local channel (p >>= f) := by
  intro devices r
  obtain ⟨outcome, left, opened, goes⟩ := first devices r
  cases outcome with
  | error fault =>
      refine ⟨.error fault, left, opened, fun b l hosts count own => ?_⟩
      obtain ⟨c, m, ran, hosted, exchanged, counted⟩ := goes b l hosts count own
      exact ⟨c, m, by rw [b.run_bind, ran], hosted, exchanged, counted⟩
  | ok value =>
      obtain ⟨result, last, more, follows⟩ := rest value devices left
      refine ⟨result, last, opened + more, fun b l hosts count own => ?_⟩
      obtain ⟨c, m, ran, hosted, exchanged, counted⟩ := goes b l hosts count own
      obtain ⟨d, k, ended, settled, changed, grown⟩ := follows c m hosted (exchanged.devices.trans count) exchanged.own
      exact ⟨d, k, by rw [b.run_bind, ran]; exact ended, settled, l.exchanged_trans m k channel _ _ exchanged changed,
        by rw [grown, counted, Nat.add_assoc]⟩

theorem local_request (channel : Nat) (opcode : UInt8) (arguments : List Argument) (again size : Nat) :
    Local channel (Session.request channel opcode arguments (again + 1) size) := by
  rcases appended : (Command.start channel opcode).appendAll arguments with fault | command
  · have refused : Session.request channel opcode arguments (again + 1) size = Procedure.ofExcept (.error fault) := by
      rw [Session.request, appended]
      rfl
    rw [refused]
    exact local_of_except channel (.error fault)
  have fit := ((Command.append_all_ok_iff _ _ _ rfl).mp appended).1
  let bytes := arguments.flatMap Argument.bytes
  intro devices r
  by_cases known : channel < devices
  · refine ⟨Response.payload (SimulatedLink.resize ((r.after opcode bytes).response opcode bytes) size),
      r.after opcode bytes, 1, fun b l hosts count own => ?_⟩
    subst own count
    obtain ⟨m, plays, exchanged⟩ := l.request_plays hosts.reached hosts.quiet channel known opcode arguments fit again size
    obtain ⟨c, hosted, shown, ran⟩ := plays b hosts
    obtain ⟨k, left, counted⟩ := run_acquires (Session.request channel opcode arguments (again + 1) size).run b l hosts
    rw [shown, exchange_acquires] at counted
    rw [ran] at left
    cases hosts_same c m k hosted left
    exact ⟨c, m, ran, hosted, exchanged, counted⟩
  · refine ⟨.error (.link .acquire (.unknownDevice channel)), r, 0, fun b l hosts count own => ?_⟩
    have unknown : l.devices ≤ channel := by omega
    obtain ⟨c, hosted, -, ran⟩ := l.request_unknown hosts.quiet channel unknown opcode arguments fit again size b hosts
    exact ⟨c, _, ran, hosted, ⟨rfl, rfl, rfl, own, fun _ _ => rfl⟩, rfl⟩

section operations
variable (s : Session) (channel : Nat)

theorem read_volts_local : Local channel (s.readVolts channel) :=
  local_bind _ _ _ (local_request channel _ _ 1 _) fun _ =>
    local_bind _ _ _ (local_of_except channel _) fun _ => local_of_except channel (.ok _)

theorem read_temperature_local : Local channel (Session.readTemperature channel) :=
  local_bind _ _ _ (local_request channel _ _ 0 _) fun _ => local_of_except channel _

theorem read_led_local : Local channel (s.readLed channel) :=
  local_bind _ _ _ (local_request channel _ _ 0 _) fun _ => local_of_except channel _

theorem set_led_local (enable : Nat) (periodMicros widthNanos : Float) :
    Local channel (s.setLed channel enable periodMicros widthNanos) :=
  local_bind _ _ _ (local_of_except channel _) fun _ =>
    local_bind _ _ _ (local_request channel _ _ 0 _) fun _ => local_of_except channel _

theorem toggle_led_local : Local channel (s.toggleLed channel) :=
  local_bind _ _ _ (read_led_local s channel) fun _ => set_led_local s channel _ _ _

theorem perform_local (o : Session.Operation) (framed : o.Framed) : Local o.channel (s.perform o) := by
  cases o with
  | readValue | writeValue | setVolts => exact framed.elim
  | readVolts channel => exact read_volts_local s channel
  | readTemperature channel => exact read_temperature_local channel
  | readLed channel => exact read_led_local s channel
  | setLed channel enable periodMicros widthNanos => exact set_led_local s channel enable periodMicros widthNanos
  | toggleLed channel => exact toggle_led_local s channel
  | raw channel opcode arguments size => exact local_request channel opcode arguments 0 size

end operations

section replies
open Session
variable (s : Session)

theorem replies_alone (channel : Nat) (operations : List Session.Operation) (framed : ∀ o ∈ operations, o.Framed)
    (b c : Bench) (l k : SimulatedLink) (hosts : b.Hosts l) (hosted : c.Hosts k) (count : k.devices = l.devices)
    (own : k.registersOf channel = l.registersOf channel) :
    (∀ reply ∈ b.replies s operations, reply.outcome.isSome) ∧
    repliesOn channel (b.replies s operations) = c.replies s (operationsOn channel operations) ∧
    ∃ m n, (b.performed s operations).Hosts m ∧ (c.performed s (operationsOn channel operations)).Hosts n ∧
      m.registersOf channel = n.registersOf channel := by
  induction operations generalizing b c l k with
  | nil => exact ⟨List.forall_mem_nil _, rfl, l, k, hosts, hosted, own.symm⟩
  | cons o rest ih =>
      obtain ⟨here, later⟩ := List.forall_mem_cons.mp framed
      obtain ⟨outcome, left, opened, goes⟩ := perform_local s o here l.devices (l.registersOf o.channel)
      obtain ⟨d, m, ran, after, changed, -⟩ := goes b l hosts rfl rfl
      obtain ⟨shown, next⟩ := replies_step b d s o rest _ ran
      rw [shown, next]
      by_cases same : o.channel = channel
      · subst same
        obtain ⟨e, n, again, follows, made, -⟩ := goes c k hosted count own
        obtain ⟨ends, replied, last⟩ := ih later d e m n after follows
          (made.devices.trans (count.trans changed.devices.symm)) (made.own.trans changed.own.symm)
        have kept : operationsOn o.channel (o :: rest) = o :: operationsOn o.channel rest :=
          List.filter_cons_of_pos (decide_eq_true rfl)
        have heard : repliesOn o.channel (⟨o, some outcome⟩ :: d.replies s rest) =
            ⟨o, some outcome⟩ :: repliesOn o.channel (d.replies s rest) := List.filter_cons_of_pos (decide_eq_true rfl)
        obtain ⟨alone, onward⟩ := replies_step c e s o (operationsOn o.channel rest) _ again
        rw [kept, heard, alone, onward, replied]
        exact ⟨List.forall_mem_cons.mpr ⟨rfl, ends⟩, rfl, last⟩
      · obtain ⟨ends, replied, last⟩ := ih later d c m k after hosted (count.trans changed.devices.symm)
          (own.trans (changed.others channel (Ne.symm same)).symm)
        have dropped : operationsOn channel (o :: rest) = operationsOn channel rest :=
          List.filter_cons_of_neg (by simpa using same)
        have unheard : repliesOn channel (⟨o, some outcome⟩ :: d.replies s rest) = repliesOn channel (d.replies s rest) :=
          List.filter_cons_of_neg (by simpa using same)
        rw [dropped, unheard]
        exact ⟨List.forall_mem_cons.mpr ⟨rfl, ends⟩, replied, last⟩

theorem replies_agree (operations : List Session.Operation) (framed : ∀ o ∈ operations, o.Framed) (b c : Bench)
    (l k : SimulatedLink) (hosts : b.Hosts l) (hosted : c.Hosts k) (agree : l.Agrees k) :
    b.replies s operations = c.replies s operations ∧
    ∃ m n, (b.performed s operations).Hosts m ∧ (c.performed s operations).Hosts n ∧ m.Agrees n := by
  induction operations generalizing b c l k with
  | nil => exact ⟨rfl, l, k, hosts, hosted, agree⟩
  | cons o rest ih =>
      obtain ⟨here, later⟩ := List.forall_mem_cons.mp framed
      obtain ⟨outcome, left, opened, goes⟩ := perform_local s o here l.devices (l.registersOf o.channel)
      obtain ⟨d, m, ran, after, changed, counted⟩ := goes b l hosts rfl rfl
      obtain ⟨e, n, again, follows, made, tallied⟩ := goes c k hosted agree.devices (agree.registers o.channel)
      have still : m.Agrees n := by
        refine ⟨?_, fun device => ?_, ?_, ?_, ?_⟩
        · rw [made.devices, changed.devices, agree.devices]
        · by_cases same : device = o.channel
          · rw [same, made.own, changed.own]
          · rw [made.others device same, changed.others device same, agree.registers device]
        · rw [made.handles, changed.handles, agree.handles]
        · rw [made.pending, changed.pending, agree.pending]
        · rw [tallied, counted, agree.acquired]
      obtain ⟨replied, last⟩ := ih later d e m n after follows still
      obtain ⟨shown, next⟩ := replies_step b d s o rest _ ran
      obtain ⟨told, onward⟩ := replies_step c e s o rest _ again
      rw [shown, next, told, onward, replied]
      exact ⟨rfl, last⟩

theorem operations_swap (o p : Session.Operation) (first : o.Framed) (second : p.Framed) (apart : o.channel ≠ p.channel)
    (b : Bench) (l : SimulatedLink) (hosts : b.Hosts l) :
    ∃ x y m n, b.replies s [o, p] = [⟨o, x⟩, ⟨p, y⟩] ∧ b.replies s [p, o] = [⟨p, y⟩, ⟨o, x⟩] ∧
      (b.performed s [o, p]).Hosts m ∧ (b.performed s [p, o]).Hosts n ∧ m.Agrees n := by
  obtain ⟨x, r, i, runs⟩ := perform_local s o first l.devices (l.registersOf o.channel)
  obtain ⟨y, t, j, goes⟩ := perform_local s p second l.devices (l.registersOf p.channel)
  obtain ⟨b', l', ran, hosted, changed, counted⟩ := runs b l hosts rfl rfl
  obtain ⟨c', k', went, held, made, tallied⟩ := goes b l hosts rfl rfl
  obtain ⟨d, m, next, left, later, more⟩ := goes b' l' hosted changed.devices (changed.others _ apart.symm)
  obtain ⟨e, n, last, after, settled, total⟩ := runs c' k' held made.devices (made.others _ apart)
  have forward : b.replies s [o, p] = [⟨o, some x⟩, ⟨p, some y⟩] ∧ b.performed s [o, p] = d := by
    obtain ⟨shown, onward⟩ := replies_step b b' s o [p] _ ran
    obtain ⟨told, ended⟩ := replies_step b' d s p [] _ next
    rw [shown, onward, told, ended]
    exact ⟨rfl, rfl⟩
  have backward : b.replies s [p, o] = [⟨p, some y⟩, ⟨o, some x⟩] ∧ b.performed s [p, o] = e := by
    obtain ⟨shown, onward⟩ := replies_step b c' s p [o] _ went
    obtain ⟨told, ended⟩ := replies_step c' e s o [] _ last
    rw [shown, onward, told, ended]
    exact ⟨rfl, rfl⟩
  refine ⟨some x, some y, m, n, forward.1, backward.1, ?_, ?_, ?_⟩
  · rw [forward.2]
    exact left
  · rw [backward.2]
    exact after
  · refine ⟨?_, fun device => ?_, ?_, ?_, ?_⟩
    · rw [settled.devices, made.devices, later.devices, changed.devices]
    · by_cases here : device = o.channel
      · rw [here, settled.own, later.others _ apart, changed.own]
      · by_cases there : device = p.channel
        · rw [there, settled.others _ apart.symm, made.own, later.own]
        · rw [settled.others device here, made.others device there, later.others device there, changed.others device here]
    · rw [settled.handles, made.handles, later.handles, changed.handles]
    · rw [settled.pending, made.pending, later.pending, changed.pending]
    · rw [total, tallied, more, counted]
      omega

theorem channels_apart (b : Bench) (l : SimulatedLink) (hosts : b.Hosts l) (operations : List Operation)
    (framed : ∀ o ∈ operations, o.Framed) :
    (∀ reply ∈ b.replies s operations, reply.outcome.isSome) ∧
    (∀ channel (c : Bench) (k : SimulatedLink), c.Hosts k → k.devices = l.devices →
      k.registersOf channel = l.registersOf channel →
      repliesOn channel (b.replies s operations) = c.replies s (operationsOn channel operations) ∧
      ∃ m n, (b.performed s operations).Hosts m ∧ (c.performed s (operationsOn channel operations)).Hosts n ∧
        m.registersOf channel = n.registersOf channel) ∧
    ∀ before o p after, operations = before ++ o :: p :: after → o.channel ≠ p.channel →
      ∃ x y later m n, b.replies s operations = b.replies s before ++ ⟨o, x⟩ :: ⟨p, y⟩ :: later ∧
        b.replies s (before ++ p :: o :: after) = b.replies s before ++ ⟨p, y⟩ :: ⟨o, x⟩ :: later ∧
        (b.performed s operations).Hosts m ∧ (b.performed s (before ++ p :: o :: after)).Hosts n ∧ m.Agrees n ∧
        n.nextHandle = m.nextHandle ∧ n.released = m.released := by
  have alone (channel : Nat) := replies_alone s channel operations framed b
  refine ⟨(alone 0 b l l hosts hosts rfl rfl).1,
    fun channel c k hosted count own => (alone channel c l k hosts hosted count own).2, ?_⟩
  rintro before o p after rfl apart
  obtain ⟨early, pair, late⟩ : (∀ q ∈ before, q.Framed) ∧ (o.Framed ∧ p.Framed) ∧ ∀ q ∈ after, q.Framed := by
    simpa [or_imp, forall_and, and_assoc] using framed
  obtain ⟨-, k, -, reached, -, -⟩ := replies_agree s before early b b l l hosts hosts l.agrees_refl
  obtain ⟨x, y, m, n, forth, back, left, right, agree⟩ :=
    operations_swap s o p pair.1 pair.2 apart (b.performed s before) k reached
  obtain ⟨replied, m', n', leads, follows, same⟩ := replies_agree s after late _ _ m n left right agree
  have split (q r : Operation) : before ++ q :: r :: after = before ++ ([q, r] ++ after) := rfl
  refine ⟨x, y, ((b.performed s before).performed s [o, p]).replies s after, m', n', ?_, ?_, ?_, ?_, same,
    m'.agrees_counted n' leads.reached follows.reached same⟩
  · rw [split, replies_append, replies_append, forth]
    rfl
  · rw [split, replies_append, replies_append, back, replied]
    rfl
  · rw [split, performed_append, performed_append]
    exact leads
  · rw [split, performed_append, performed_append]
    exact follows

end replies

-- One operation on each of three channels fails, the last of them not even being there.
theorem failing_channels_apart :
    let b := Bench.make (.make 2 0) (.simulated (.make 2))
    let s : Session := ⟨.standard, []⟩
    let change : Session.Operation := .raw 1 0xC0 [⟨.word, 6⟩, ⟨.byte, 0⟩, ⟨.byte, 1⟩, ⟨.word, 5000⟩, ⟨.word, 5⟩] 9
    let later : List Session.Operation := [.setLed 0 2 100.0 50.0, .readTemperature 7, .toggleLed 0, .readVolts 1]
    b.Hosts (.make 2) ∧ (∀ o ∈ Session.Operation.readLed 0 :: change :: later, o.Framed) ∧
    Session.repliesOn 1 (b.replies s (.readLed 0 :: change :: later)) = b.replies s [change, .readVolts 1] ∧
    ∃ m n, (b.performed s (.readLed 0 :: change :: later)).Hosts m ∧
      (b.performed s (change :: .readLed 0 :: later)).Hosts n ∧ m.Agrees n := by
  intro b s change later
  have hosts : b.Hosts (.make 2) := ⟨rfl, rfl, .make 2, ⟨rfl, rfl⟩⟩
  have framed : ∀ o ∈ Session.Operation.readLed 0 :: change :: later, o.Framed := by
    simp [change, later, Session.Operation.Framed]
  obtain ⟨-, alone, swapped⟩ := channels_apart s b (.make 2) hosts (.readLed 0 :: change :: later) framed
  obtain ⟨same, -⟩ := alone 1 b (.make 2) hosts rfl rfl
  obtain ⟨_, _, _, m, n, -, -, leads, follows, agree, -⟩ := swapped [] (.readLed 0) change later rfl (by decide)
  exact ⟨hosts, framed, same, m, n, leads, follows, agree⟩

end PulseAnalyzer
