import PulseAnalyzer.Proofs.Device.Conduct
import PulseAnalyzer.Proofs.Program.Recital
import PulseAnalyzer.Proofs.Wire.ResponseFormat
import PulseAnalyzer.Proofs.Wire.RoundTrip

set_option autoImplicit false

namespace PulseAnalyzer

namespace Command

def rewriting (handle : Handle) (frame : Bytes) (answer : Except LinkFault Unit) : List Event :=
  [⟨.pause 100, ()⟩, ⟨.link (.write handle 0x01000000 frame), answer⟩]

def writing (handle : Handle) (frame : Bytes) : List (Except LinkFault Unit) → List Event
  | [] => []
  | first :: later => ⟨.link (.write handle 0x01000000 frame), first⟩ :: later.flatMap (rewriting handle frame)

theorem writing_forms (handle : Handle) (frame : Bytes) (answers : List (Except LinkFault Unit)) (e : Event)
    (member : e ∈ writing handle frame answers) :
    (∃ answer, e = ⟨.link (.write handle 0x01000000 frame), answer⟩) ∨ e = ⟨.pause 100, ()⟩ := by
  cases answers with
  | nil => cases member
  | cons first later =>
      rcases List.mem_cons.mp member with rfl | again
      · exact .inl ⟨first, rfl⟩
      · obtain ⟨answer, -, here⟩ := List.mem_flatMap.mp again
        rcases List.mem_cons.mp here with rfl | last
        · exact .inr rfl
        · exact .inl ⟨answer, List.mem_singleton.mp last⟩

-- The first of the faults is the result, in the order acquire, write, read, validation, release.
inductive Transaction (device : Nat) (frame : Bytes) (sends size : Nat) : List Event → Except Fault Bytes → Prop where
  | unopened (fault : LinkFault) :
      Transaction device frame sends size [⟨.link (.acquire device), .error fault⟩] (.error (.link .acquire fault))
  | unwritten (handle : Handle) (passed : Nat) (fault : LinkFault) (released : Except LinkFault Unit)
      (early : passed < sends) :
      Transaction device frame sends size
        (⟨.link (.acquire device), .ok handle⟩ ::
          (writing handle frame (List.replicate passed (.ok ()) ++ [.error fault]) ++
            [⟨.link (.release handle), released⟩]))
        (.error (.link .write fault))
  | unread (handle : Handle) (fault : LinkFault) (released : Except LinkFault Unit) :
      Transaction device frame sends size
        (⟨.link (.acquire device), .ok handle⟩ ::
          (writing handle frame (List.replicate sends (.ok ())) ++
            [⟨.link (.read handle 0x01000000 size), .error fault⟩, ⟨.link (.release handle), released⟩]))
        (.error (.link .read fault))
  | refused (handle : Handle) (raw : Bytes) (released : Except LinkFault Unit)
      (unformed : ¬ ∃ payload, Response.Formed raw payload) :
      Transaction device frame sends size
        (⟨.link (.acquire device), .ok handle⟩ ::
          (writing handle frame (List.replicate sends (.ok ())) ++
            [⟨.link (.read handle 0x01000000 size), .ok raw⟩, ⟨.link (.release handle), released⟩]))
        (.error (Response.refusal raw))
  | unreleased (handle : Handle) (raw payload : Bytes) (fault : LinkFault) (formed : Response.Formed raw payload) :
      Transaction device frame sends size
        (⟨.link (.acquire device), .ok handle⟩ ::
          (writing handle frame (List.replicate sends (.ok ())) ++
            [⟨.link (.read handle 0x01000000 size), .ok raw⟩, ⟨.link (.release handle), .error fault⟩]))
        (.error (.link .release fault))
  | completed (handle : Handle) (raw payload : Bytes) (formed : Response.Formed raw payload) :
      Transaction device frame sends size
        (⟨.link (.acquire device), .ok handle⟩ ::
          (writing handle frame (List.replicate sends (.ok ())) ++
            [⟨.link (.read handle 0x01000000 size), .ok raw⟩, ⟨.link (.release handle), .ok ()⟩]))
        (.ok payload)

inductive Written (times : Nat) : List (Except LinkFault Unit) → Except Fault Unit → Prop where
  | all : Written times (List.replicate times (.ok ())) (.ok ())
  | stopped (passed : Nat) (fault : LinkFault) (early : passed < times) :
      Written times (List.replicate passed (.ok ()) ++ [.error fault]) (.error (.link .write fault))

theorem written_more (times : Nat) (answers : List (Except LinkFault Unit)) (reply : Except Fault Unit)
    (written : Written times answers reply) : Written (times + 1) (.ok () :: answers) reply := by
  cases written with
  | all => exact .all
  | stopped passed fault early => exact .stopped (passed + 1) fault (Nat.succ_lt_succ early)

theorem resend_traced (c : Command) (handle : Handle) (holds : c.stage = .holding handle) (times : Nat)
    (events : List Event) (result : Option (Except Fault Unit × Command))
    (traced : Program.Traced (c.resend times) events result) :
    ∃ answers reply, Written times answers reply ∧ result = some (reply, c) ∧
      events = answers.flatMap (rewriting handle c.bytes) := by
  induction times generalizing events result with
  | zero =>
      obtain ⟨rfl, rfl⟩ := (Program.traced_done _ events result).mp traced
      exact ⟨[], .ok (), .all, rfl, rfl⟩
  | succ times ih =>
      obtain ⟨_, rest, sending, rfl⟩ := (Program.traced_ask (.pause wakeMillis) _ events result).mp traced
      rcases (Program.traced_bind c.send _ rest result).mp sending with
        ⟨⟨reply, d⟩, first, later, sent, after, rfl⟩ | ⟨stuck, -⟩
      · rw [c.send_holding handle holds] at sent
        obtain ⟨answer, rfl, same⟩ := write_traced c handle first _ sent
        cases same
        cases answer with
        | error fault =>
            obtain ⟨rfl, rfl⟩ := (Program.traced_done _ later result).mp after
            exact ⟨[.error fault], _, .stopped 0 fault (Nat.succ_pos times), rfl, rfl⟩
        | ok done =>
            obtain ⟨answers, reply, written, rfl, rfl⟩ := ih later result after
            exact ⟨.ok () :: answers, reply, written_more times answers reply written, rfl, rfl⟩
      · rw [c.send_holding handle holds] at stuck
        obtain ⟨_, _, impossible⟩ := write_traced c handle rest _ stuck
        cases impossible

theorem send_all_traced (c : Command) (free : c.stage.held = []) (sends : Nat) (once : 1 ≤ sends)
    (events : List Event) (result : Option (Except Fault Unit × Command))
    (traced : Program.Traced (c.sendAll sends) events result) :
    (∃ fault, events = [⟨.link (.acquire c.device), .error fault⟩] ∧
      result = some (.error (.link .acquire fault), c.finalize)) ∨
    ∃ handle answers reply, Written sends answers reply ∧
      events = ⟨.link (.acquire c.device), .ok handle⟩ :: writing handle c.finalize.bytes answers ∧
      result = some (reply, { c.finalize with stage := .holding handle }) := by
  obtain ⟨again, rfl⟩ := Nat.exists_eq_add_of_le' once
  rcases (Program.traced_bind c.send _ events result).mp traced with
    ⟨⟨reply, d⟩, first, later, sent, after, rfl⟩ | ⟨stuck, -⟩
  · rw [c.send_free free] at sent
    obtain ⟨opened, rest, writes, rfl⟩ := (traced_link (.acquire c.device) _ first _).mp sent
    cases opened with
    | error fault =>
        obtain ⟨rfl, same⟩ := (Program.traced_done _ rest _).mp writes
        cases same
        obtain ⟨rfl, rfl⟩ := (Program.traced_done _ later result).mp after
        exact .inl ⟨fault, rfl, rfl⟩
    | ok handle =>
        obtain ⟨answer, rfl, same⟩ := write_traced _ handle rest _ writes
        cases same
        refine .inr ⟨handle, ?_⟩
        cases answer with
        | error fault =>
            obtain ⟨rfl, rfl⟩ := (Program.traced_done _ later result).mp after
            exact ⟨[.error fault], _, .stopped 0 fault (Nat.succ_pos again), rfl, rfl⟩
        | ok done =>
            obtain ⟨answers, reply, written, rfl, rfl⟩ := resend_traced _ handle rfl again later result after
            exact ⟨.ok () :: answers, reply, written_more again answers reply written, rfl, rfl⟩
  · obtain ⟨_, _, impossible, -⟩ := send_conduct c events _ stuck
    cases impossible

def listen (c : Command) (size : Nat) : Except Fault Unit → Program (Except Fault Bytes × Command)
  | .error fault => .done (.error fault, c)
  | .ok () => c.receive size

-- The end of a transaction. Nothing is left to release when the command goes out of use.
def conclude (c : Command) (heard : Except Fault Bytes) : Program (Except Fault Bytes) :=
  c.close.bind fun closed => closed.2.discard.bind fun _ => .done (withCleanup heard closed.1)

theorem transact_run (c : Command) (sends size : Nat) :
    (c.transact sends size).run = (c.sendAll sends).bind fun sent =>
      (sent.2.listen size sent.1).bind fun heard => heard.2.conclude heard.1 := by
  refine congrArg (Program.bind (c.sendAll sends)) (funext fun sent => ?_)
  obtain ⟨reply, d⟩ := sent
  cases reply <;> rfl

theorem conclude_holding (c : Command) (handle : Handle) (holds : c.stage = .holding handle) (heard : Except Fault Bytes) :
    c.conclude heard = (link (.release handle)).bind fun closed => .done (withCleanup heard closed) := by
  obtain ⟨device, bytes, stage⟩ := c
  cases holds
  rfl

theorem conclude_free (c : Command) (free : c.stage.held = []) (heard : Except Fault Bytes) :
    c.conclude heard = .done (withCleanup heard (.ok ())) := by
  obtain ⟨device, bytes, stage⟩ := c
  cases stage with
  | holding handle => cases free
  | _ => rfl

theorem receive_holding (c : Command) (handle : Handle) (holds : c.stage = .holding handle) (size : Nat) :
    c.receive size = (link (.read handle Link.tunnel size)).bind fun read => .done (read.bind Response.payload, c) := by
  obtain ⟨device, bytes, stage⟩ := c
  cases holds
  rfl

theorem conclude_traced (c : Command) (handle : Handle) (holds : c.stage = .holding handle) (heard : Except Fault Bytes)
    (events : List Event) (result : Option (Except Fault Bytes)) (traced : Program.Traced (c.conclude heard) events result) :
    ∃ released : Except LinkFault Unit, events = [⟨.link (.release handle), released⟩] ∧
      result = some (withCleanup heard (released.mapError (.link .release ·))) := by
  rw [c.conclude_holding handle holds] at traced
  obtain ⟨released, rest, after, rfl⟩ := (traced_link (.release handle) _ events result).mp traced
  obtain ⟨rfl, rfl⟩ := (Program.traced_done _ rest result).mp after
  exact ⟨released, rfl, rfl⟩

theorem listen_traced (c : Command) (handle : Handle) (holds : c.stage = .holding handle) (size : Nat)
    (events : List Event) (result : Option (Except Fault Bytes))
    (traced : Program.Traced ((c.listen size (.ok ())).bind fun heard => heard.2.conclude heard.1) events result) :
    ∃ (read : Except LinkFault Bytes) (released : Except LinkFault Unit),
      events = [⟨.link (.read handle Link.tunnel size), read⟩, ⟨.link (.release handle), released⟩] ∧
      result = some (withCleanup ((read.mapError (.link .read ·)).bind Response.payload)
        (released.mapError (.link .release ·))) := by
  rw [listen, c.receive_holding handle holds, Program.bind_assoc] at traced
  obtain ⟨read, rest, after, rfl⟩ := (traced_link (.read handle Link.tunnel size) _ events result).mp traced
  obtain ⟨released, rfl, rfl⟩ := conclude_traced c handle holds _ rest result after
  exact ⟨read, released, rfl, rfl⟩

theorem answered_transaction (device : Nat) (frame : Bytes) (sends size : Nat) (handle : Handle)
    (read : Except LinkFault Bytes) (released : Except LinkFault Unit) :
    Transaction device frame sends size
      (⟨.link (.acquire device), .ok handle⟩ ::
        (writing handle frame (List.replicate sends (.ok ())) ++
          [⟨.link (.read handle 0x01000000 size), read⟩, ⟨.link (.release handle), released⟩]))
      (withCleanup ((read.mapError (.link .read ·)).bind Response.payload) (released.mapError (.link .release ·))) := by
  cases read with
  | error fault => exact .unread handle fault released
  | ok raw =>
      have validated : ((Except.ok raw : Except LinkFault Bytes).mapError (Fault.link .read ·)).bind Response.payload =
          Response.payload raw := rfl
      rw [validated]
      by_cases formed : ∃ payload, Response.Formed raw payload
      · obtain ⟨payload, formed⟩ := formed
        rw [(Response.payload_ok_iff raw payload).mpr formed]
        cases released with
        | error fault => exact .unreleased handle raw payload fault formed
        | ok done => exact .completed handle raw payload formed
      · rw [Response.payload_refused raw formed]
        exact .refused handle raw released formed

theorem transact_traced (c : Command) (free : c.stage.held = []) (sends size : Nat) (once : 1 ≤ sends)
    (events : List Event) (result : Option (Except Fault Bytes))
    (traced : (c.transact sends size).Traced events result) :
    ∃ outcome, result = some outcome ∧ Transaction c.device c.finalize.bytes sends size events outcome := by
  rw [Procedure.Traced, transact_run] at traced
  rcases (Program.traced_bind (c.sendAll sends) _ events result).mp traced with
    ⟨⟨reply, d⟩, first, rest, sent, after, rfl⟩ | ⟨stuck, -⟩
  · rcases send_all_traced c free sends once first _ sent with
      ⟨fault, rfl, same⟩ | ⟨handle, answers, reply, written, rfl, same⟩
    · cases same
      have free' : c.finalize.stage.held = [] := c.finalize_held.trans free
      have finished : Program.Traced (c.finalize.conclude (.error (.link .acquire fault))) rest result := after
      rw [conclude_free _ free'] at finished
      obtain ⟨rfl, rfl⟩ := (Program.traced_done _ rest result).mp finished
      exact ⟨_, rfl, .unopened fault⟩
    · cases same
      cases written with
      | stopped passed fault early =>
          obtain ⟨released, rfl, rfl⟩ := conclude_traced _ handle rfl (.error (.link .write fault)) rest result after
          exact ⟨_, rfl, .unwritten handle passed fault released early⟩
      | all =>
          obtain ⟨read, released, rfl, rfl⟩ := listen_traced _ handle rfl size rest result after
          exact ⟨_, rfl, answered_transaction c.device c.finalize.bytes sends size handle read released⟩
  · rcases send_all_traced c free sends once events _ stuck with
      ⟨_, _, impossible⟩ | ⟨_, _, _, _, _, impossible⟩
    · cases impossible
    · cases impossible

def carrying (device : Nat) (opcode : UInt8) (arguments : List Argument) : Command :=
  ⟨device, opcode :: arguments.flatMap Argument.bytes, .building⟩

theorem append_all_carrying (device : Nat) (opcode : UInt8) (arguments : List Argument) (fit : ∀ a ∈ arguments, a.Fits) :
    (start device opcode).appendAll arguments = .ok (carrying device opcode arguments) :=
  (append_all_ok_iff (start device opcode) _ arguments rfl).mpr ⟨fit, rfl⟩

theorem transact_discipline {σ : Type} (answer : (r : Request) → σ → r.Answer × σ) (s : σ) (device : Nat) (opcode : UInt8)
    (arguments : List Argument) (fit : ∀ a ∈ arguments, a.Fits) (sends size : Nat) (once : 1 ≤ sends) :
    ∃ c outcome, (start device opcode).appendAll arguments = .ok c ∧
      (Program.run answer (c.transact sends size).run s).1 = some outcome ∧
      Transaction device (0x1B :: opcode :: (arguments.flatMap Argument.bytes ++
          [checksum (opcode :: arguments.flatMap Argument.bytes)])) sends size
        (Program.history answer (c.transact sends size).run s) outcome := by
  have appended := append_all_carrying device opcode arguments fit
  obtain ⟨outcome, ran, transaction⟩ := transact_traced (carrying device opcode arguments) rfl sends size once _ _
    (Program.history_traced answer (transact (carrying device opcode arguments) sends size).run s)
  exact ⟨_, outcome, appended, ran, transaction⟩

-- A link that answers with a wrong checksum and does not release what it handed out.
def garbledLink : (r : Request) → Unit → r.Answer × Unit
  | .link (.acquire _), s => (.ok ⟨7⟩, s)
  | .link (.write _ _ _), s => (.ok (), s)
  | .link (.read _ _ _), s => (.ok [0x1B, 0x40, 1, 0, 9, 0x49], s)
  | .link (.release _), s => (.error .brokenPipe, s)
  | r, s => (r.silence, s)

theorem garbled_link_discipline :
    let c : Command := ⟨3, [0x40, 5], .building⟩
    let frame : Bytes := [0x1B, 0x40, 5, 0x45]
    let events : List Event := [⟨.link (.acquire 3), .ok ⟨7⟩⟩, ⟨.link (.write ⟨7⟩ 0x01000000 frame), .ok ()⟩,
      ⟨.pause 100, ()⟩, ⟨.link (.write ⟨7⟩ 0x01000000 frame), .ok ()⟩,
      ⟨.link (.read ⟨7⟩ 0x01000000 6), .ok [0x1B, 0x40, 1, 0, 9, 0x49]⟩, ⟨.link (.release ⟨7⟩), .error .brokenPipe⟩]
    (∀ a ∈ [(⟨.byte, 5⟩ : Argument)], a.Fits) ∧ Program.history garbledLink (c.transact 2 6).run () = events ∧
    Transaction 3 frame 2 6 events (.error (.checksum 0x48 0x49)) := by
  have fit : ∀ a ∈ [(⟨.byte, 5⟩ : Argument)], a.Fits := by decide
  obtain ⟨c, outcome, appended, ran, transaction⟩ := transact_discipline garbledLink () 3 0x40 _ fit 2 6 (by decide)
  cases appended
  cases ran
  exact ⟨fit, rfl, transaction⟩

end Command
end PulseAnalyzer
