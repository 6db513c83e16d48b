import PulseAnalyzer.Device.Command
import PulseAnalyzer.Proofs.Program.History

set_option autoImplicit false

namespace PulseAnalyzer

def Stage.held : Stage → List Handle
  | .holding handle => [handle]
  | _ => []

theorem held_eq_singleton (stage : Stage) (handle : Handle) : stage.held = [handle] ↔ stage = .holding handle := by
  cases stage <;> simp [Stage.held]

namespace Command

inductive Step where
  | append (a : Argument)
  | appendNamed (value : Nat) (kind : String)
  | finalize
  | send
  | receive (size : Nat)
  | close

@[reducible]
def Step.Value : Step → Type
  | .receive _ => Bytes
  | _ => Unit

structure Entry where
  step : Step
  reply : Except Fault step.Value

def kept (c : Command) : Except Fault Command → Except Fault Unit × Command
  | .ok d => (.ok (), d)
  | .error fault => (.error fault, c)

def perform (c : Command) : (step : Step) → Program (Except Fault step.Value × Command)
  | .append a => return c.kept (c.append a)
  | .appendNamed value kind => return c.kept (c.appendNamed value kind)
  | .finalize => return (.ok (), c.finalize)
  | .send => c.send
  | .receive size => c.receive size
  | .close => c.close

-- Goes on after a step that fails.
def follow (c : Command) : List Step → Program (List Entry × Command)
  | [] => return ([], c)
  | step :: rest => do
    let (reply, d) ← c.perform step
    let (entries, e) ← d.follow rest
    return (⟨step, reply⟩ :: entries, e)

def live (device : Nat) (opcode : UInt8) (steps : List Step) : Program (List Entry) := do
  let (entries, c) ← (start device opcode).follow steps
  c.discard
  return entries

inductive Conduct (c : Command) : (step : Step) → List Event → Except Fault step.Value → Command → Prop where
  | added (a : Argument) (d : Command) (accepted : c.append a = .ok d) : Conduct c (.append a) [] (.ok ()) d
  | refused (a : Argument) (fault : Fault) (rejected : c.append a = .error fault) :
      Conduct c (.append a) [] (.error fault) c
  | addedNamed (value : Nat) (kind : String) (d : Command) (accepted : c.appendNamed value kind = .ok d) :
      Conduct c (.appendNamed value kind) [] (.ok ()) d
  | refusedNamed (value : Nat) (kind : String) (fault : Fault) (rejected : c.appendNamed value kind = .error fault) :
      Conduct c (.appendNamed value kind) [] (.error fault) c
  | finalized : Conduct c .finalize [] (.ok ()) c.finalize
  | sent (handle : Handle) (written : Except LinkFault Unit) (holds : c.stage = .holding handle) :
      Conduct c .send [⟨.link (.write handle Link.tunnel c.bytes), written⟩] (written.mapError (.link .write ·)) c
  | unopened (fault : LinkFault) (free : c.stage.held = []) :
      Conduct c .send [⟨.link (.acquire c.device), .error fault⟩] (.error (.link .acquire fault)) c.finalize
  | opened (handle : Handle) (written : Except LinkFault Unit) (free : c.stage.held = []) :
      Conduct c .send [⟨.link (.acquire c.device), .ok handle⟩,
        ⟨.link (.write handle Link.tunnel c.finalize.bytes), written⟩]
        (written.mapError (.link .write ·)) { c.finalize with stage := .holding handle }
  | received (size : Nat) (handle : Handle) (read : Except LinkFault Bytes) (holds : c.stage = .holding handle) :
      Conduct c (.receive size) [⟨.link (.read handle Link.tunnel size), read⟩]
        ((read.mapError (.link .read ·)).bind Response.payload) c
  | unsent (size : Nat) (free : c.stage.held = []) : Conduct c (.receive size) [] (.error (.state .notSent)) c
  | closed (handle : Handle) (released : Except LinkFault Unit) (holds : c.stage = .holding handle) :
      Conduct c .close [⟨.link (.release handle), released⟩] (released.mapError (.link .release ·))
        { c with stage := .released }
  | idle (free : c.stage.held = []) : Conduct c .close [] (.ok ()) c

theorem traced_link {α : Type} (call : Link.Call) (f : Except Fault call.Value → Program α) (events : List Event)
    (result : Option α) :
    Program.Traced ((link call).bind f) events result ↔
      ∃ answer rest, Program.Traced (f (answer.mapError (.link call.action ·))) rest result ∧
        events = ⟨.link call, answer⟩ :: rest :=
  Program.traced_ask (.link call) (fun answer => f (answer.mapError (.link call.action ·))) events result

theorem write_traced (c : Command) (handle : Handle) (events : List Event)
    (result : Option (Except Fault Unit × Command)) (traced : Program.Traced (c.write handle) events result) :
    ∃ written : Except LinkFault Unit, events = [⟨.link (.write handle Link.tunnel c.bytes), written⟩] ∧
      result = some (written.mapError (.link .write ·), c) := by
  obtain ⟨written, rest, ended, rfl⟩ := (traced_link (.write handle Link.tunnel c.bytes) _ events result).mp traced
  obtain ⟨rfl, rfl⟩ := (Program.traced_done _ rest result).mp ended
  exact ⟨written, rfl, rfl⟩

theorem finalize_held (c : Command) : c.finalize.stage.held = c.stage.held := by
  obtain ⟨device, bytes, stage⟩ := c
  cases stage <;> rfl

theorem send_holding (c : Command) (handle : Handle) (holds : c.stage = .holding handle) :
    c.send = c.write handle := by
  obtain ⟨device, bytes, stage⟩ := c
  cases holds
  rfl

theorem send_free (c : Command) (free : c.stage.held = []) :
    c.send = (link (.acquire c.device)).bind fun answer => match answer with
      | .error fault => .done (.error fault, c.finalize)
      | .ok handle => Command.write { c.finalize with stage := .holding handle } handle := by
  obtain ⟨device, bytes, stage⟩ := c
  cases stage with
  | building =>
      refine congrArg (Program.bind (link (.acquire device))) (funext fun answer => ?_)
      cases answer <;> rfl
  | holding handle => cases free
  | _ => rfl

theorem held_cases (c : Command) : (∃ handle, c.stage = .holding handle) ∨ c.stage.held = [] := by
  cases stage : c.stage with
  | holding handle => exact .inl ⟨handle, rfl⟩
  | _ => exact .inr rfl

theorem send_conduct (c : Command) (events : List Event) (result : Option (Except Fault Unit × Command))
    (traced : Program.Traced c.send events result) :
    ∃ reply d, result = some (reply, d) ∧ Conduct c .send events reply d := by
  rcases c.held_cases with ⟨handle, holds⟩ | free
  · rw [c.send_holding handle holds] at traced
    obtain ⟨written, rfl, rfl⟩ := write_traced c handle events result traced
    exact ⟨_, c, rfl, .sent handle written holds⟩
  · rw [c.send_free free] at traced
    obtain ⟨answer, rest, after, rfl⟩ := (traced_link (.acquire c.device) _ events result).mp traced
    cases answer with
    | error fault =>
        obtain ⟨rfl, rfl⟩ := (Program.traced_done _ rest result).mp after
        exact ⟨_, c.finalize, rfl, .unopened fault free⟩
    | ok handle =>
        obtain ⟨written, rfl, rfl⟩ := write_traced _ handle rest result after
        exact ⟨_, _, rfl, .opened handle written free⟩

theorem receive_conduct (c : Command) (size : Nat) (events : List Event)
    (result : Option (Except Fault Bytes × Command)) (traced : Program.Traced (c.receive size) events result) :
    ∃ reply d, result = some (reply, d) ∧ Conduct c (.receive size) events reply d := by
  rcases c.held_cases with ⟨handle, holds⟩ | free
  · rw [receive, holds] at traced
    obtain ⟨read, rest, after, rfl⟩ := (traced_link (.read handle Link.tunnel size) _ events result).mp traced
    obtain ⟨rfl, rfl⟩ := (Program.traced_done _ rest result).mp after
    exact ⟨_, c, rfl, .received size handle read holds⟩
  · have nothing : c.receive size = .done (.error (.state .notSent), c) := by
      obtain ⟨device, bytes, stage⟩ := c
      cases stage with
      | holding handle => cases free
      | _ => rfl
    rw [nothing] at traced
    obtain ⟨rfl, rfl⟩ := (Program.traced_done _ events result).mp traced
    exact ⟨_, c, rfl, .unsent size free⟩

theorem close_conduct (c : Command) (events : List Event) (result : Option (Except Fault Unit × Command))
    (traced : Program.Traced c.close events result) :
    ∃ reply d, result = some (reply, d) ∧ Conduct c .close events reply d := by
  rcases c.held_cases with ⟨handle, holds⟩ | free
  · rw [close, holds] at traced
    obtain ⟨released, rest, after, rfl⟩ := (traced_link (.release handle) _ events result).mp traced
    obtain ⟨rfl, rfl⟩ := (Program.traced_done _ rest result).mp after
    exact ⟨_, _, rfl, .closed handle released holds⟩
  · have nothing : c.close = .done (.ok (), c) := by
      obtain ⟨device, bytes, stage⟩ := c
      cases stage with
      | holding handle => cases free
      | _ => rfl
    rw [nothing] at traced
    obtain ⟨rfl, rfl⟩ := (Program.traced_done _ events result).mp traced
    exact ⟨_, c, rfl, .idle free⟩

theorem perform_conduct (c : Command) (step : Step) (events : List Event)
    (result : Option (Except Fault step.Value × Command)) (traced : Program.Traced (c.perform step) events result) :
    ∃ reply d, result = some (reply, d) ∧ Conduct c step events reply d := by
  cases step with
  | append a =>
      obtain ⟨rfl, rfl⟩ := (Program.traced_done _ events result).mp traced
      cases outcome : c.append a with
      | ok d => exact ⟨_, d, rfl, .added a d outcome⟩
      | error fault => exact ⟨_, c, rfl, .refused a fault outcome⟩
  | appendNamed value kind =>
      obtain ⟨rfl, rfl⟩ := (Program.traced_done _ events result).mp traced
      cases outcome : c.appendNamed value kind with
      | ok d => exact ⟨_, d, rfl, .addedNamed value kind d outcome⟩
      | error fault => exact ⟨_, c, rfl, .refusedNamed value kind fault outcome⟩
  | finalize =>
      obtain ⟨rfl, rfl⟩ := (Program.traced_done _ events result).mp traced
      exact ⟨_, _, rfl, .finalized⟩
  | send => exact send_conduct c events result traced
  | receive size => exact receive_conduct c size events result traced
  | close => exact close_conduct c events result traced

inductive Lived : Command → List Entry → List Event → Command → Prop where
  | nil (c : Command) : Lived c [] [] c
  | cons (c d e : Command) (step : Step) (reply : Except Fault step.Value) (entries : List Entry)
      (events later : List Event) (first : Conduct c step events reply d) (rest : Lived d entries later e) :
      Lived c (⟨step, reply⟩ :: entries) (events ++ later) e

theorem follow_lived (c : Command) (steps : List Step) (events : List Event)
    (result : Option (List Entry × Command)) (traced : Program.Traced (c.follow steps) events result) :
    ∃ entries d, result = some (entries, d) ∧ Lived c entries events d ∧ entries.map Entry.step = steps := by
  induction steps generalizing c events result with
  | nil =>
      obtain ⟨rfl, rfl⟩ := (Program.traced_done _ events result).mp traced
      exact ⟨[], c, rfl, .nil c, rfl⟩
  | cons step rest ih =>
      rcases (Program.traced_bind (c.perform step) _ events result).mp traced with
        ⟨⟨reply, d⟩, first, later, performed, followed, rfl⟩ | ⟨stuck, -⟩
      · obtain ⟨_, _, same, conduct⟩ := perform_conduct c step first _ performed
        cases same
        rcases (Program.traced_bind (d.follow rest) _ later result).mp followed with
          ⟨⟨entries, e⟩, middle, last, lived, ended, rfl⟩ | ⟨stuck, -⟩
        · obtain ⟨_, _, same, lives, listed⟩ := ih d middle _ lived
          cases same
          obtain ⟨rfl, rfl⟩ := (Program.traced_done _ last result).mp ended
          rw [List.append_nil]
          exact ⟨_, e, rfl, .cons c d e step reply entries first middle conduct lives,
            by rw [List.map_cons, listed]⟩
        · obtain ⟨_, _, impossible, -⟩ := ih d later _ stuck
          cases impossible
      · obtain ⟨_, _, impossible, -⟩ := perform_conduct c step events _ stuck
        cases impossible

-- What every step keeps, given what came before it, holds at the end.
theorem lived_invariant (I : List Entry → List Event → Command → Prop)
    (keeps : ∀ (past : List Entry) (before : List Event) (c d : Command) (step : Step) (events : List Event)
      (reply : Except Fault step.Value), I past before c → Conduct c step events reply d →
      I (past ++ [⟨step, reply⟩]) (before ++ events) d)
    (c d : Command) (entries : List Entry) (events : List Event) (lived : Lived c entries events d)
    (past : List Entry) (before : List Event) (initially : I past before c) : I (past ++ entries) (before ++ events) d := by
  induction lived generalizing past before with
  | nil c =>
      rw [List.append_nil, List.append_nil]
      exact initially
  | cons c d e step reply entries events later first _ ih =>
      have after := ih _ _ (keeps past before c d step events reply initially first)
      rw [List.append_assoc, List.append_assoc] at after
      exact after

theorem live_lived {σ : Type} (answer : (r : Request) → σ → r.Answer × σ) (s : σ) (device : Nat) (opcode : UInt8)
    (steps : List Step) :
    ∃ entries c last reply d,
      (Program.run answer ((start device opcode).follow steps) s).1 = some (entries, c) ∧
      (Program.run answer (live device opcode steps) s).1 = some entries ∧
      entries.map Entry.step = steps ∧
      Lived (start device opcode) entries (Program.history answer ((start device opcode).follow steps) s) c ∧
      Conduct c .close last reply d ∧
      Program.history answer (live device opcode steps) s =
        Program.history answer ((start device opcode).follow steps) s ++ last := by
  obtain ⟨entries, c, followed, lived, listed⟩ := follow_lived _ steps _ _
    (Program.history_traced answer ((start device opcode).follow steps) s)
  have ran : Program.run answer ((start device opcode).follow steps) s =
      (some (entries, c), (Program.run answer ((start device opcode).follow steps) s).2) := Prod.ext followed rfl
  generalize (Program.run answer ((start device opcode).follow steps) s).2 = now at ran
  obtain ⟨reply, d, closed, conduct⟩ := close_conduct c _ _ (Program.history_traced answer c.close now)
  have closing : Program.run answer c.close now = (some (reply, d), (Program.run answer c.close now).2) :=
    Prod.ext closed rfl
  generalize (Program.run answer c.close now).2 = later at closing
  have shape : live device opcode steps =
      ((start device opcode).follow steps).bind fun lived => lived.2.close.bind fun _ => .done lived.1 :=
    congrArg (Program.bind _) (funext fun lived => Program.bind_assoc lived.2.close _ _)
  refine ⟨entries, c, _, reply, d, followed, ?_, listed, lived, conduct, ?_⟩
  · rw [shape, Program.run_bind, ran]
    simp only [Program.run_bind, closing, Program.run]
  · rw [shape, Program.history_bind, ran]
    simp only [Program.history_bind, closing, Program.history, List.append_nil]

end Command
end PulseAnalyzer
