import PulseAnalyzer.Proofs.Device.Appending
import PulseAnalyzer.Proofs.Device.Conduct
import PulseAnalyzer.Proofs.Program.Cut
import PulseAnalyzer.Proofs.Program.Recital
import Mathlib.Data.List.Nodup

set_option autoImplicit false

namespace PulseAnalyzer

namespace Event

def acquired? : Event → Option Handle
  | ⟨.link (.acquire _), .ok handle⟩ => some handle
  | _ => none

-- A handle counts as released also when the link reports a failure.
def released? : Event → Option Handle
  | ⟨.link (.release handle), _⟩ => some handle
  | _ => none

def Suits (held : List Handle) : Event → Prop
  | ⟨.link (.acquire _), _⟩ => held = []
  | ⟨.link (.write handle _ _), _⟩ => held = [handle]
  | ⟨.link (.read handle _ _), _⟩ => held = [handle]
  | ⟨.link (.release handle), _⟩ => held = [handle]
  | _ => False

end Event

theorem suits_length (held : List Handle) (e : Event) (suits : e.Suits held) : held.length ≤ 1 := by
  unfold Event.Suits at suits
  split at suits
  · simp [suits]
  · simp [suits]
  · simp [suits]
  · simp [suits]
  · exact suits.elim

def acquired (events : List Event) : List Handle := events.filterMap Event.acquired?

def released (events : List Event) : List Handle := events.filterMap Event.released?

def held (events : List Event) : List Handle := (acquired events).filter (· ∉ released events)

theorem acquired_append (a b : List Event) : acquired (a ++ b) = acquired a ++ acquired b :=
  List.filterMap_append

theorem released_append (a b : List Event) : released (a ++ b) = released a ++ released b :=
  List.filterMap_append

theorem acquired_distinct (a b : List Event) (distinct : (acquired (a ++ b)).Nodup) : (acquired a).Nodup := by
  rw [acquired_append] at distinct
  exact (List.nodup_append.mp distinct).1

theorem held_rest (events : List Event) (rest : List Handle) (balance : acquired events = released events ++ rest)
    (distinct : (acquired events).Nodup) : held events = rest := by
  rw [balance] at distinct
  obtain ⟨-, -, apart⟩ := List.nodup_append.mp distinct
  have gone : (released events).filter (· ∉ released events) = [] := by simp
  have left : rest.filter (· ∉ released events) = rest := by
    rw [List.filter_eq_self]
    intro handle member
    exact decide_eq_true fun early => apart handle early handle member rfl
  rw [held, balance, List.filter_append, gone, left, List.nil_append]

-- What is held are the last of the handles acquired. Unlike `held` this needs no handles that differ,
-- so that the steps of a command keep it whatever the link hands out.
def Using (past : List Event) (e : Event) (_ : List Event) : Prop :=
  ∃ rest, acquired past = released past ++ rest ∧ e.Suits rest

structure Balanced (events : List Event) (rest : List Handle) : Prop where
  balance : acquired events = released events ++ rest
  used : EachCut Using [] events []

theorem balanced_nil : Balanced [] [] := ⟨rfl, each_cut_nil Using [] []⟩

theorem balanced_event (events : List Event) (rest next : List Handle) (e : Event) (balanced : Balanced events rest)
    (suits : e.Suits rest) (passes : rest ++ acquired [e] = released [e] ++ next) :
    Balanced (events ++ [e]) next := by
  obtain ⟨balance, used⟩ := balanced
  constructor
  · rw [acquired_append, released_append, balance, List.append_assoc, passes, List.append_assoc]
  · refine each_cut_append Using [] events [e] [] ?_ (each_cut_singleton Using _ e [] ⟨rest, balance, suits⟩)
    intro before x after split
    exact used before x after split

namespace Command

theorem conduct_balanced (c d : Command) (before events : List Event) (step : Step) (reply : Except Fault step.Value)
    (balanced : Balanced before c.stage.held) (conduct : Conduct c step events reply d) :
    Balanced (before ++ events) d.stage.held := by
  cases conduct with
  | added a d accepted =>
      obtain ⟨-, -, rfl⟩ := (append_ok_iff c d a).mp accepted
      rw [List.append_nil]
      exact balanced
  | addedNamed value kind d accepted =>
      obtain ⟨known, -, added⟩ := (append_named_ok_iff c d value kind).mp accepted
      obtain ⟨-, -, rfl⟩ := (append_ok_iff c d _).mp added
      rw [List.append_nil]
      exact balanced
  | finalized =>
      rw [List.append_nil, c.finalize_held]
      exact balanced
  | refused | refusedNamed | unsent | idle =>
      rw [List.append_nil]
      exact balanced
  | sent handle written holds =>
      rw [(held_eq_singleton c.stage handle).mpr holds] at balanced ⊢
      exact balanced_event before [handle] [handle] _ balanced rfl rfl
  | received size handle read holds =>
      rw [(held_eq_singleton c.stage handle).mpr holds] at balanced ⊢
      exact balanced_event before [handle] [handle] _ balanced rfl rfl
  | unopened fault free =>
      rw [c.finalize_held]
      rw [free] at balanced ⊢
      exact balanced_event before [] [] _ balanced rfl rfl
  | opened handle written free =>
      rw [free] at balanced
      have holding := balanced_event before [] [handle] ⟨.link (.acquire c.device), .ok handle⟩ balanced rfl rfl
      rw [List.append_cons]
      exact balanced_event _ [handle] [handle] _ holding rfl rfl
  | closed handle answer holds =>
      rw [(held_eq_singleton c.stage handle).mpr holds] at balanced
      exact balanced_event before [handle] [] _ balanced rfl rfl

theorem lived_balanced (c d : Command) (entries : List Entry) (events : List Event) (lived : Lived c entries events d)
    (free : c.stage.held = []) : Balanced events d.stage.held := by
  have keeps := lived_invariant (fun _ before c => Balanced before c.stage.held)
    (fun _ before c d step events reply balanced conduct => conduct_balanced c d before events step reply balanced conduct)
  have initially : Balanced [] c.stage.held := free ▸ balanced_nil
  simpa using keeps c d entries events lived [] [] initially

theorem close_free (c d : Command) (events : List Event) (reply : Except Fault Unit)
    (conduct : Conduct c .close events reply d) : d.stage.held = [] := by
  cases conduct with
  | closed => rfl
  | idle free => exact free

structure GoesByHandle {σ : Type} (answer : (r : Request) → σ → r.Answer × σ) (c : Command) : Prop where
  writes : ∀ handle now, c.stage = .holding handle → ∃ written : Except LinkFault Unit,
    Program.history answer c.send now = [⟨.link (.write handle Link.tunnel c.bytes), written⟩] ∧
    (Program.run answer c.send now).1 = some (written.mapError (.link .write ·), c)
  acquires : ∀ now, c.stage.held = [] →
    (∃ fault, Program.history answer c.send now = [⟨.link (.acquire c.device), .error fault⟩] ∧
      (Program.run answer c.send now).1 = some (.error (.link .acquire fault), c.finalize)) ∨
    ∃ (handle : Handle) (written : Except LinkFault Unit),
      Program.history answer c.send now = [⟨.link (.acquire c.device), .ok handle⟩,
        ⟨.link (.write handle Link.tunnel c.finalize.bytes), written⟩] ∧
      (Program.run answer c.send now).1 =
        some (written.mapError (.link .write ·), { c.finalize with stage := .holding handle })
  refuses : ∀ size now, c.stage.held = [] →
    Program.history answer (c.receive size) now = [] ∧
    (Program.run answer (c.receive size) now).1 = some (.error (.state .notSent), c)

theorem goes_by_handle {σ : Type} (answer : (r : Request) → σ → r.Answer × σ) (c : Command) : GoesByHandle answer c := by
  constructor
  · intro handle now holds
    have traced := Program.history_traced answer c.send now
    rw [c.send_holding handle holds] at traced ⊢
    exact write_traced c handle _ _ traced
  · intro now free
    obtain ⟨reply, d, ran, conduct⟩ := send_conduct c _ _ (Program.history_traced answer c.send now)
    rw [ran]
    generalize Program.history answer c.send now = events at conduct
    cases conduct with
    | sent handle written holds => simp [holds, Stage.held] at free
    | unopened fault => exact .inl ⟨fault, rfl, rfl⟩
    | opened handle written => exact .inr ⟨handle, written, rfl, rfl⟩
  · intro size now free
    obtain ⟨reply, d, ran, conduct⟩ := receive_conduct c size _ _ (Program.history_traced answer (c.receive size) now)
    rw [ran]
    generalize Program.history answer (c.receive size) now = events at conduct
    cases conduct with
    | received _ handle read holds => simp [holds, Stage.held] at free
    | unsent => exact ⟨rfl, rfl⟩

theorem holding_iff (stage : Stage) (events : List Event) (balance : acquired events = released events ++ stage.held)
    (distinct : (acquired events).Nodup) (handle : Handle) :
    stage = .holding handle ↔ (acquired events).getLast? = some handle ∧ handle ∉ released events := by
  constructor
  · rintro rfl
    rw [balance] at distinct ⊢
    have apart := (List.nodup_append.mp distinct).2.2
    exact ⟨List.getLast?_concat, fun early => apart handle early handle List.mem_cons_self rfl⟩
  · rintro ⟨last, kept⟩
    rw [balance] at last
    cases stage with
    | holding other =>
        have same : some other = some handle := List.getLast?_concat.symm.trans last
        rw [Option.some.inj same]
    | building | framed | released =>
        rw [Stage.held.eq_def, List.append_nil] at last
        exact absurd (List.mem_of_getLast? last) kept

theorem live_accounts_for_handles {σ : Type} (answer : (r : Request) → σ → r.Answer × σ) (s : σ) (device : Nat)
    (opcode : UInt8) (steps : List Step)
    (distinct : (acquired (Program.history answer (live device opcode steps) s)).Nodup) :
    let events := Program.history answer (live device opcode steps) s
    let during := Program.history answer ((start device opcode).follow steps) s
    (∃ entries c, (Program.run answer ((start device opcode).follow steps) s).1 = some (entries, c) ∧
      (Program.run answer (live device opcode steps) s).1 = some entries ∧
      (∀ handle, c.stage = .holding handle ↔
        (acquired during).getLast? = some handle ∧ handle ∉ released during) ∧
      GoesByHandle answer c) ∧
    (∀ before after, events = before ++ after → (held before).length ≤ 1) ∧
    (∀ before e after, events = before ++ e :: after → e.Suits (held before)) ∧
    released events = acquired events ∧
    ∀ handle, (released events).count handle = if handle ∈ acquired events then 1 else 0 := by
  intro events during
  obtain ⟨entries, c, last, reply, d, followed, ran, -, lived, conduct, whole⟩ := live_lived answer s device opcode steps
  have before : Balanced during c.stage.held := lived_balanced _ c entries during lived rfl
  have after : Balanced events [] := by
    have closed := conduct_balanced c d during last .close reply before conduct
    rw [close_free c d last reply conduct, ← whole] at closed
    exact closed
  have suits : ∀ past e future, events = past ++ e :: future → e.Suits (held past) := by
    intro past e future split
    obtain ⟨rest, balance, suited⟩ := after.used past e future split
    have early := acquired_distinct past (e :: future) (split ▸ distinct)
    rw [held_rest past rest balance early]
    exact suited
  have returned : released events = acquired events := by
    rw [after.balance, List.append_nil]
  refine ⟨⟨entries, c, followed, ran, ?_, goes_by_handle answer c⟩, ?_, suits, returned, ?_⟩
  · have early := acquired_distinct during last (whole ▸ distinct)
    exact holding_iff c.stage during before.balance early
  · intro past future split
    cases future with
    | nil =>
        rw [List.append_nil] at split
        rw [← split, held_rest events [] after.balance distinct]
        exact Nat.zero_le 1
    | cons e rest => exact suits_length _ e (suits past e rest split)
  · intro handle
    rw [returned]
    exact distinct.count

-- A link that hands out numbered handles and fails at everything else.
def brokenLink : (r : Request) → Nat → r.Answer × Nat
  | .link (.acquire _), n => (.ok ⟨n⟩, n + 1)
  | .link (.write _ _ _), n | .link (.release _), n => (.error .brokenPipe, n)
  | .link (.read _ _ _), n => (.error .earlyEnd, n)
  | r, n => (r.silence, n)

theorem broken_link_accounts_for_handles :
    let steps : List Step := [.send, .append ⟨.byte, 7⟩, .close, .receive 8, .send, .receive 8, .send]
    let events := Program.history brokenLink (live 2 0x40 steps) 0
    (acquired events).Nodup ∧ released events = [⟨0⟩, ⟨1⟩] ∧
    (∀ before after, events = before ++ after → (held before).length ≤ 1) ∧
    released events = acquired events := by
  have distinct : (acquired (Program.history brokenLink (live 2 0x40
      [.send, .append ⟨.byte, 7⟩, .close, .receive 8, .send, .receive 8, .send]) 0)).Nodup :=
    (by decide : [(⟨0⟩ : Handle), ⟨1⟩].Nodup)
  obtain ⟨-, single, -, returned, -⟩ := live_accounts_for_handles brokenLink 0 2 0x40 _ distinct
  exact ⟨distinct, rfl, single, returned⟩

end Command
end PulseAnalyzer
