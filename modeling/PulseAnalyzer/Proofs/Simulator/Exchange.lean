import PulseAnalyzer.Proofs.Device.Transaction
import PulseAnalyzer.Proofs.Simulator.Hosting

set_option autoImplicit false

namespace PulseAnalyzer

namespace Registers

def Writing (arguments : Bytes) : Prop := arguments[2]? = some 0 ∧ 8 ≤ arguments.length

instance (arguments : Bytes) : Decidable (Writing arguments) :=
  inferInstanceAs (Decidable (arguments[2]? = some 0 ∧ 8 ≤ arguments.length))

theorem program_unwritten (r : Registers) (arguments : Bytes) (reads : ¬ Writing arguments) : r.program arguments = r := by
  unfold program
  split
  · exact absurd ⟨rfl, by simp⟩ reads
  · rfl

theorem writing_shape (arguments : Bytes) (writing : Writing arguments) :
    ∃ a b enable p0 p1 w0 w1 rest, arguments = a :: b :: 0 :: enable :: p0 :: p1 :: w0 :: w1 :: rest := by
  obtain ⟨third, long⟩ := writing
  match arguments with
  | a :: b :: c :: enable :: p0 :: p1 :: w0 :: w1 :: rest =>
      cases third
      exact ⟨a, b, enable, p0, p1, w0, w1, rest, rfl⟩
  | [] | [_] | [_, _] | [_, _, _] | [_, _, _, _] | [_, _, _, _, _] | [_, _, _, _, _, _] | [_, _, _, _, _, _, _] =>
      simp at long

theorem program_again (r : Registers) (arguments : Bytes) :
    (r.program arguments).program arguments = r.program arguments := by
  by_cases writing : Writing arguments
  · obtain ⟨a, b, enable, p0, p1, w0, w1, rest, rfl⟩ := writing_shape arguments writing
    rfl
  · rw [r.program_unwritten arguments writing, r.program_unwritten arguments writing]

theorem after_again (r : Registers) (opcode : UInt8) (arguments : Bytes) :
    (r.after opcode arguments).after opcode arguments = r.after opcode arguments := by
  unfold after
  split
  · exact r.program_again arguments
  · rfl

theorem after_unwritten (r : Registers) (opcode : UInt8) (arguments : Bytes)
    (reads : ¬ (opcode = opcodeLed ∧ Writing arguments)) : r.after opcode arguments = r := by
  unfold after
  split
  · rename_i led
    exact r.program_unwritten arguments fun writing => reads ⟨led, writing⟩
  · rfl

def response (r : Registers) (opcode : UInt8) (arguments : Bytes) : Bytes :=
  Response.encode opcode (r.payload opcode arguments)

end Registers

namespace SimulatedLink

theorem registers_of_set (l : SimulatedLink) (device other : Nat) (r : Registers) :
    (l.setRegisters device r).registersOf other = if other = device then r else l.registersOf other := by
  rw [registersOf, setRegisters, Table.lookup_put]
  split
  · rfl
  · rfl

-- In the middle of an exchange one handle more is held, and only its own response is waiting.
structure Midway (l m : SimulatedLink) (device : Nat) (r : Registers) : Prop where
  quiet : m.Quiet
  devices : m.devices = l.devices
  handles : m.handles = Table.put l.nextHandle device l.handles
  pending : Table.erase l.nextHandle m.pending = l.pending
  own : m.registersOf device = r
  others : ∀ other, other ≠ device → m.registersOf other = l.registersOf other

theorem handed_out_midway (l : SimulatedLink) (device : Nat) (reached : l.Reached) (quiet : l.Quiet) :
    Midway l (l.handedOut device) device (l.registersOf device) := by
  have unused := (reached_numbered l reached l.nextHandle (Nat.le_refl _)).2
  exact ⟨⟨quiet.unfailing, quiet.unspoilt⟩, rfl, rfl, Table.erase_absent _ _ unused, rfl, fun _ _ => rfl⟩

section midway
variable (l m : SimulatedLink) (device : Nat) (r : Registers) (midway : Midway l m device r)
include midway

theorem midway_held : Table.lookup l.nextHandle m.handles = some device := by
  rw [midway.handles, Table.lookup_put, if_pos rfl]

theorem serve_midway (data : Bytes) (opcode : UInt8) (arguments : Bytes) :
    Midway l ((m.noted data).serve l.nextHandle device opcode arguments) device (r.after opcode arguments) := by
  have registers : ∀ other, ((m.noted data).serve l.nextHandle device opcode arguments).registersOf other =
      if other = device then (m.registersOf device).after opcode arguments else m.registersOf other :=
    fun other => registers_of_set (m.noted data) device other _
  refine ⟨⟨midway.quiet.unfailing, rfl⟩, midway.devices, midway.handles, ?_, ?_, ?_⟩
  · exact (Table.erase_put _ _ _).trans midway.pending
  · rw [registers, if_pos rfl, midway.own]
  · intro other differs
    rw [registers, if_neg differs, midway.others other differs]

theorem serve_waiting (data : Bytes) (opcode : UInt8) (arguments : Bytes) :
    Table.lookup l.nextHandle ((m.noted data).serve l.nextHandle device opcode arguments).pending =
      some ((r.after opcode arguments).response opcode arguments) := by
  have own : (m.noted data).registersOf device = r := midway.own
  have unspoilt : (m.noted data).corruptNext = none := midway.quiet.unspoilt
  simp only [serve, Table.lookup_put, if_true, own, unspoilt, Registers.response]

end midway

-- The handle and the response of an exchange are gone, and only one device can have other registers.
structure Exchanged (l m : SimulatedLink) (device : Nat) (r : Registers) : Prop where
  devices : m.devices = l.devices
  handles : m.handles = l.handles
  pending : m.pending = l.pending
  own : m.registersOf device = r
  others : ∀ other, other ≠ device → m.registersOf other = l.registersOf other

theorem exchanged_trans (l m k : SimulatedLink) (channel : Nat) (r t : Registers) (first : l.Exchanged m channel r)
    (second : m.Exchanged k channel t) : l.Exchanged k channel t :=
  ⟨second.devices.trans first.devices, second.handles.trans first.handles, second.pending.trans first.pending, second.own,
    fun other differs => (second.others other differs).trans (first.others other differs)⟩

theorem midway_exchanged (l m : SimulatedLink) (device : Nat) (r : Registers) (midway : Midway l m device r)
    (reached : l.Reached) : Exchanged l ((m.fetched l.nextHandle).handedBack l.nextHandle) device r := by
  obtain ⟨handles, pending⟩ := reached_numbered l reached l.nextHandle (Nat.le_refl _)
  refine ⟨midway.devices, ?_, ?_, midway.own, midway.others⟩
  · have erased : Table.erase l.nextHandle m.handles = l.handles := by
      rw [midway.handles, Table.erase_put, Table.erase_absent _ _ handles]
    exact erased
  · have erased : Table.erase l.nextHandle (Table.erase l.nextHandle m.pending) = l.pending := by
      rw [midway.pending, Table.erase_absent _ _ pending]
    exact erased

section writes
variable (l m : SimulatedLink) (device : Nat) (r : Registers) (opcode : UInt8) (arguments : Bytes) (c : Command)
  (frame : c.bytes = Frame.encode (opcode :: arguments))
include frame

theorem write_plays (midway : Midway l m device r) :
    m.Plays (c.write ⟨l.nextHandle⟩) [⟨.link (.write ⟨l.nextHandle⟩ Link.tunnel c.bytes), .ok ()⟩] (.ok (), c)
      ((m.noted c.bytes).serve l.nextHandle device opcode arguments) := by
  have answers := m.write_quiet midway.quiet l.nextHandle device opcode arguments (midway_held l m device r midway)
  rw [← frame] at answers
  exact plays_link m _ _ (.write ⟨l.nextHandle⟩ Link.tunnel c.bytes) (.ok ()) _ [] _ answers (plays_done _ _)

theorem resend_plays (holds : c.stage = .holding ⟨l.nextHandle⟩) (times : Nat)
    (midway : Midway l m device (r.after opcode arguments))
    (waiting : Table.lookup l.nextHandle m.pending = some ((r.after opcode arguments).response opcode arguments)) :
    ∃ k, m.Plays (c.resend times)
        ((List.replicate times (.ok ())).flatMap (Command.rewriting ⟨l.nextHandle⟩ c.bytes)) (.ok (), c) k ∧
      Midway l k device (r.after opcode arguments) ∧
      Table.lookup l.nextHandle k.pending = some ((r.after opcode arguments).response opcode arguments) := by
  induction times generalizing m with
  | zero => exact ⟨m, plays_done m _, midway, waiting⟩
  | succ times ih =>
      have served := serve_midway l m device _ midway c.bytes opcode arguments
      have answered := serve_waiting l m device _ midway c.bytes opcode arguments
      rw [r.after_again opcode arguments] at served answered
      obtain ⟨k, plays, after, left⟩ := ih _ served answered
      have sent := write_plays l m device _ opcode arguments c frame midway
      rw [← c.send_holding _ holds] at sent
      exact ⟨k, plays_pause m k 100 _ _ _ (plays_bind m _ k c.send _ _ _ _ _ sent plays), after, left⟩

end writes

theorem send_all_first (c : Command) (again : Nat) :
    c.sendAll (again + 1) = c.send.bind fun sent => match sent with
      | (.error fault, d) => .done (.error fault, d)
      | (.ok (), d) => d.resend again := rfl

theorem send_all_plays (l : SimulatedLink) (reached : l.Reached) (quiet : l.Quiet) (device : Nat) (known : device < l.devices)
    (opcode : UInt8) (arguments : Bytes) (c : Command) (addressed : c.device = device) (free : c.stage.held = [])
    (frame : c.finalize.bytes = Frame.encode (opcode :: arguments)) (again : Nat) :
    let r := (l.registersOf device).after opcode arguments
    ∃ m, l.Plays (c.sendAll (again + 1))
        (⟨.link (.acquire device), .ok ⟨l.nextHandle⟩⟩ ::
          Command.writing ⟨l.nextHandle⟩ c.finalize.bytes (List.replicate (again + 1) (.ok ())))
        (.ok (), { c.finalize with stage := .holding ⟨l.nextHandle⟩ }) m ∧
      Midway l m device r ∧ Table.lookup l.nextHandle m.pending = some (r.response opcode arguments) := by
  intro r
  subst addressed
  have begun := handed_out_midway l c.device reached quiet
  have served := serve_midway l _ c.device _ begun c.finalize.bytes opcode arguments
  have answered := serve_waiting l _ c.device _ begun c.finalize.bytes opcode arguments
  have written := write_plays l _ c.device _ opcode arguments { c.finalize with stage := .holding ⟨l.nextHandle⟩ } frame
    begun
  obtain ⟨m, resent, after, waiting⟩ := resend_plays l _ c.device (l.registersOf c.device) opcode arguments
    { c.finalize with stage := .holding ⟨l.nextHandle⟩ } frame rfl again served answered
  refine ⟨m, ?_, after, waiting⟩
  rw [send_all_first, c.send_free free, Program.bind_assoc]
  exact plays_link l _ m (.acquire c.device) _ _ _ _ (l.acquire_quiet quiet c.device known)
    (plays_bind _ _ m _ _ _ _ _ _ written resent)

theorem with_cleanup_ok {α : Type} (heard : Except Fault α) : withCleanup heard (.ok ()) = heard := by
  cases heard with
  | ok value => rfl
  | error fault => rfl

theorem conclude_plays (l m : SimulatedLink) (device : Nat) (r : Registers) (midway : Midway l m device r) (c : Command)
    (holds : c.stage = .holding ⟨l.nextHandle⟩) (size : Nat) (response : Bytes)
    (waiting : Table.lookup l.nextHandle m.pending = some response) :
    m.Plays ((c.listen size (.ok ())).bind fun heard => heard.2.conclude heard.1)
      [⟨.link (.read ⟨l.nextHandle⟩ Link.tunnel size), .ok (resize response size)⟩,
        ⟨.link (.release ⟨l.nextHandle⟩), .ok ()⟩]
      (Response.payload (resize response size)) ((m.fetched l.nextHandle).handedBack l.nextHandle) := by
  have held := midway_held l m device r midway
  have read := m.read_quiet midway.quiet l.nextHandle device size response held waiting
  have still : (m.fetched l.nextHandle).Quiet := ⟨midway.quiet.unfailing, midway.quiet.unspoilt⟩
  have released := (m.fetched l.nextHandle).release_quiet still l.nextHandle device held
  rw [Command.listen, c.receive_holding _ holds, Program.bind_assoc]
  refine plays_link m _ _ (.read ⟨l.nextHandle⟩ Link.tunnel size) _ _ _ _ read ?_
  change Plays _ (c.conclude _) _ _ _
  rw [c.conclude_holding _ holds]
  refine plays_link _ _ _ (.release ⟨l.nextHandle⟩) (.ok ()) _ [] _ released ?_
  change Plays _ (.done (withCleanup (Response.payload (resize response size)) (.ok ()))) [] _ _
  rw [with_cleanup_ok]
  exact plays_done _ _

def exchange (l : SimulatedLink) (device : Nat) (opcode : UInt8) (arguments : Bytes) (sends size : Nat) : List Event :=
  ⟨.link (.acquire device), .ok ⟨l.nextHandle⟩⟩ ::
    (Command.writing ⟨l.nextHandle⟩ (Frame.encode (opcode :: arguments)) (List.replicate sends (.ok ())) ++
      [⟨.link (.read ⟨l.nextHandle⟩ Link.tunnel size),
          .ok (resize (((l.registersOf device).after opcode arguments).response opcode arguments) size)⟩,
        ⟨.link (.release ⟨l.nextHandle⟩), .ok ()⟩])

theorem request_fit (device : Nat) (opcode : UInt8) (arguments : List Argument) (fit : ∀ a ∈ arguments, a.Fits)
    (sends size : Nat) :
    Session.request device opcode arguments sends size = (Command.carrying device opcode arguments).transact sends size := by
  rw [Session.request, Command.append_all_carrying device opcode arguments fit]
  rfl

theorem request_plays (l : SimulatedLink) (reached : l.Reached) (quiet : l.Quiet) (device : Nat) (known : device < l.devices)
    (opcode : UInt8) (arguments : List Argument) (fit : ∀ a ∈ arguments, a.Fits) (again size : Nat) :
    let bytes := arguments.flatMap Argument.bytes
    let r := (l.registersOf device).after opcode bytes
    ∃ m, l.Plays (Session.request device opcode arguments (again + 1) size).run
        (l.exchange device opcode bytes (again + 1) size)
        (Response.payload (resize (r.response opcode bytes) size)) m ∧ Exchanged l m device r := by
  intro bytes r
  obtain ⟨m, sent, midway, waiting⟩ := send_all_plays l reached quiet device known opcode bytes
    (Command.carrying device opcode arguments) rfl rfl rfl again
  have heard := conclude_plays l m device r midway
    { (Command.carrying device opcode arguments).finalize with stage := .holding ⟨l.nextHandle⟩ } rfl size _ waiting
  refine ⟨_, ?_, midway_exchanged l m device r midway reached⟩
  rw [request_fit device opcode arguments fit, Command.transact_run]
  exact plays_bind l m _ _ _ _ _ _ _ sent heard

theorem request_unknown (l : SimulatedLink) (quiet : l.Quiet) (device : Nat) (unknown : l.devices ≤ device) (opcode : UInt8)
    (arguments : List Argument) (fit : ∀ a ∈ arguments, a.Fits) (again size : Nat) :
    l.Plays (Session.request device opcode arguments (again + 1) size).run
      [⟨.link (.acquire device), .error (.unknownDevice device)⟩] (.error (.link .acquire (.unknownDevice device)))
      (l.passed "open") := by
  rw [request_fit device opcode arguments fit, Command.transact_run, send_all_first, Command.send_free _ rfl,
    Program.bind_assoc, Program.bind_assoc]
  exact plays_link l _ _ (.acquire device) _ _ [] _ (l.acquire_unknown quiet device unknown) (plays_done _ _)

end SimulatedLink
end PulseAnalyzer
