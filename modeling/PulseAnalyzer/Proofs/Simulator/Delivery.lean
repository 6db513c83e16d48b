import Mathlib.Data.List.Induction
import PulseAnalyzer.Proofs.Device.Handles
import PulseAnalyzer.Proofs.Simulator.Exchange
import PulseAnalyzer.Proofs.Simulator.HandleAccount

set_option autoImplicit false

namespace PulseAnalyzer

-- What ends the wait of a response on this handle: the next command is accepted, the response is read, or the
-- handle is given back.
def Event.Settles (handle : Handle) : Event → Prop
  | ⟨.link (.write other _ _), .ok _⟩ | ⟨.link (.read other _ _), .ok _⟩ | ⟨.link (.release other), _⟩ => other = handle
  | _ => False

namespace SimulatedLink

def planned (devices : Nat) (scenarios : List Scenario) : SimulatedLink :=
  { make devices with injection := .ofList scenarios }

def after (l : SimulatedLink) (calls : List Link.Call) : SimulatedLink :=
  calls.foldl (fun l call => (l.answer call).2) l

def history (l : SimulatedLink) : List Link.Call → List Event
  | [] => []
  | call :: rest => ⟨.link call, (l.answer call).1⟩ :: (l.answer call).2.history rest

theorem after_append (l : SimulatedLink) (calls later : List Link.Call) :
    l.after (calls ++ later) = (l.after calls).after later := List.foldl_append

theorem history_append (l : SimulatedLink) (calls later : List Link.Call) :
    l.history (calls ++ later) = l.history calls ++ (l.after calls).history later := by
  induction calls generalizing l with
  | nil => rfl
  | cons first rest ih => exact congrArg (List.cons _) (ih (l.answer first).2)

theorem after_reached (l : SimulatedLink) (reached : l.Reached) (calls : List Link.Call) : (l.after calls).Reached := by
  induction calls generalizing l with
  | nil => exact reached
  | cons call rest ih => exact ih (l.answer call).2 (reached.asked l call)

theorem effect_unspoilt (l m : SimulatedLink) (call : Link.Call) (answer : call.Answer) (effect : l.Effect call answer m)
    (unspoilt : l.corruptNext = none) : m.corruptNext = none := by
  cases effect with
  | served => rfl
  | refused | acquired | rejected | fetched | unheld | released => exact unspoilt

theorem after_unspoilt (l : SimulatedLink) (unspoilt : l.corruptNext = none) (calls : List Link.Call) :
    (l.after calls).corruptNext = none := by
  induction calls generalizing l with
  | nil => exact unspoilt
  | cons call rest ih => exact ih (l.answer call).2 (effect_unspoilt l _ call _ (l.answer_effect call) unspoilt)

theorem effect_issues (l m : SimulatedLink) (call : Link.Call) (answer : call.Answer) (effect : l.Effect call answer m) :
    (Event.acquired? ⟨.link call, answer⟩ = none ∧ m.acquired = l.acquired) ∨
    (Event.acquired? ⟨.link call, answer⟩ = some ⟨l.nextHandle⟩ ∧ m.acquired = l.acquired + 1) := by
  cases effect with
  | acquired device => exact .inr ⟨rfl, rfl⟩
  | refused call fault operation => exact .inl ⟨by cases call <;> rfl, rfl⟩
  | rejected | served | fetched | unheld | released => exact .inl ⟨rfl, rfl⟩

theorem history_acquires (start : SimulatedLink) (reached : start.Reached) (unused : start.acquired = 0)
    (calls : List Link.Call) :
    PulseAnalyzer.acquired (start.history calls) = (List.range' 1 (start.after calls).acquired).map Handle.mk := by
  induction calls using List.reverseRecOn with
  | nil => rw [after, List.foldl_nil, unused]; rfl
  | append_singleton calls call ih =>
      have next := (reached_accounted _ (start.after_reached reached calls)).next
      rw [history_append, acquired_append, ih, after_append]
      rcases effect_issues _ _ call _ ((start.after calls).answer_effect call) with ⟨nothing, same⟩ | ⟨one, more⟩
      · have still : ((start.after calls).after [call]).acquired = (start.after calls).acquired := same
        rw [history, history, PulseAnalyzer.acquired, List.filterMap_cons_none nothing, List.filterMap_nil,
          List.append_nil, still]
      · have grown : ((start.after calls).after [call]).acquired = (start.after calls).acquired + 1 := more
        have last : (start.after calls).nextHandle = 1 + 1 * (start.after calls).acquired := by omega
        rw [history, history, PulseAnalyzer.acquired, List.filterMap_cons_some one, List.filterMap_nil, grown,
          List.range'_concat, List.map_append, last]
        rfl

structure Undisturbed (l m : SimulatedLink) : Prop where
  devices : m.devices = l.devices
  registers : m.registers = l.registers
  handles : m.handles = l.handles
  pending : m.pending = l.pending
  nextHandle : m.nextHandle = l.nextHandle
  acquired : m.acquired = l.acquired
  released : m.released = l.released

theorem failed_undisturbed (l : SimulatedLink) (call : Link.Call) (fault : LinkFault)
    (kept : ∀ handle, call ≠ .release handle) (failed : (l.answer call).1 = .error fault) : l.Undisturbed (l.answer call).2 := by
  have effect := l.answer_effect call
  rw [failed] at effect
  generalize (l.answer call).2 = m at effect
  cases effect with
  | refused | rejected => exact ⟨rfl, rfl, rfl, rfl, rfl, rfl, rfl⟩
  | unheld handle | released handle => exact absurd rfl (kept handle)

theorem write_accepted (l : SimulatedLink) (handle : Handle) (address : Nat) (data : Bytes)
    (accepted : (l.answer (.write handle address data)).1 = .ok ()) :
    ∃ device opcode arguments, address = Link.tunnel ∧ Table.lookup handle.number l.handles = some device ∧
      Frame.decode? data = some (opcode, arguments) ∧
      (l.answer (.write handle address data)).2 = (l.noted data).serve handle.number device opcode arguments := by
  change (l.write handle address data).1 = _ at accepted
  change ∃ device opcode arguments, _ ∧ _ ∧ _ ∧ (l.write handle address data).2 = _
  rcases l.enter_cases "write" with ⟨fault, entered⟩ | entered
  · simp only [write, entered] at accepted
    cases accepted
  · simp only [write, entered] at accepted ⊢
    split at accepted
    · cases accepted
    · rename_i addressed
      rw [if_neg addressed]
      split at accepted
      · cases accepted
      · rename_i device held
        split at accepted
        · cases accepted
        · rename_i opcode arguments decoded
          exact ⟨device, opcode, arguments, Decidable.not_not.mp addressed, held, decoded, rfl⟩

theorem enter_passes (l : SimulatedLink) (operation : String) :
    l.enter operation = (.ok (), l.passed operation) ↔ (l.injection.check operation).1 = .ok () := by
  rw [enter, passed]
  cases (l.injection.check operation).1 with
  | error code => exact ⟨fun same => (by cases same), fun same => (by cases same)⟩
  | ok done => exact ⟨fun _ => rfl, fun _ => rfl⟩

theorem read_accepted (l : SimulatedLink) (handle : Handle) (address size : Nat) (bytes : Bytes) :
    (l.answer (.read handle address size)).1 = .ok bytes ↔
      (l.injection.check "read").1 = .ok () ∧ address = Link.tunnel ∧ (Table.lookup handle.number l.handles).isSome ∧
        ∃ response, Table.lookup handle.number l.pending = some response ∧ bytes = resize response size := by
  change (l.read handle address size).1 = _ ↔ _
  constructor
  · intro accepted
    rcases l.enter_cases "read" with ⟨fault, entered⟩ | entered
    · simp only [read, entered] at accepted
      cases accepted
    · refine ⟨(l.enter_passes "read").mp entered, ?_⟩
      simp only [read, entered] at accepted
      split at accepted
      · cases accepted
      · rename_i addressed
        split at accepted
        · cases accepted
        · rename_i device held
          split at accepted
          · cases accepted
          · rename_i response waiting
            cases accepted
            exact ⟨Decidable.not_not.mp addressed, Option.isSome_of_eq_some held, response, waiting, rfl⟩
  · rintro ⟨passes, rfl, present, response, waiting, rfl⟩
    obtain ⟨device, held⟩ := Option.isSome_iff_exists.mp present
    have here : Table.lookup handle.number (l.passed "read").handles = some device := held
    have there : Table.lookup handle.number (l.passed "read").pending = some response := waiting
    simp only [read, (l.enter_passes "read").mpr passes, here, there, ne_eq, not_true_eq_false, if_false]

def Responds (l : SimulatedLink) (handle : Handle) (data response : Bytes) : Prop :=
  ∃ device opcode arguments, Table.lookup handle.number l.handles = some device ∧
    Frame.decode? data = some (opcode, arguments) ∧
    response = ((l.registersOf device).after opcode arguments).response opcode arguments

theorem write_waits (l : SimulatedLink) (unspoilt : l.corruptNext = none) (handle : Handle) (address : Nat) (data : Bytes)
    (accepted : (l.answer (.write handle address data)).1 = .ok ()) (response : Bytes) :
    Table.lookup handle.number (l.answer (.write handle address data)).2.pending = some response ↔
      l.Responds handle data response := by
  obtain ⟨device, opcode, arguments, -, held, decoded, served⟩ := l.write_accepted handle address data accepted
  have waiting : Table.lookup handle.number (l.answer (.write handle address data)).2.pending =
      some (((l.registersOf device).after opcode arguments).response opcode arguments) := by
    have same : (l.noted data).corruptNext = none := unspoilt
    rw [served]
    simp only [serve, same, Table.lookup_put, if_true]
    rfl
  rw [waiting]
  constructor
  · exact fun same => ⟨device, opcode, arguments, held, decoded, (Option.some.inj same).symm⟩
  · rintro ⟨other, o, a, owner, frame, rfl⟩
    cases held.symm.trans owner
    cases decoded.symm.trans frame
    rfl

theorem effect_unsettled (l m : SimulatedLink) (call : Link.Call) (answer : call.Answer) (effect : l.Effect call answer m)
    (n : Nat) (unsettled : ¬ Event.Settles ⟨n⟩ ⟨.link call, answer⟩) :
    Table.lookup n m.pending = Table.lookup n l.pending := by
  have differs (handle : Handle) (other : ¬ handle = ⟨n⟩) : n ≠ handle.number :=
    fun same => other (congrArg Handle.mk same.symm)
  cases effect with
  | refused | acquired | rejected | unheld => rfl
  | served handle => exact (Table.lookup_put _ _ _ _).trans (if_neg (differs handle unsettled))
  | fetched handle | released handle => exact (Table.lookup_erase _ _ _).trans (if_neg (differs handle unsettled))

theorem history_unsettled (l : SimulatedLink) (calls : List Link.Call) (n : Nat)
    (unsettled : ∀ e ∈ l.history calls, ¬ e.Settles ⟨n⟩) :
    Table.lookup n (l.after calls).pending = Table.lookup n l.pending := by
  induction calls generalizing l with
  | nil => rfl
  | cons call rest ih =>
      obtain ⟨first, later⟩ := List.forall_mem_cons.mp unsettled
      exact (ih (l.answer call).2 later).trans (effect_unsettled l _ call _ (l.answer_effect call) n first)

-- Of the calls that settle a response only a write that is accepted leaves one behind, its own.
theorem settled_waits (l : SimulatedLink) (account : l.Accounted) (unspoilt : l.corruptNext = none) (call : Link.Call)
    (n : Nat) (settles : Event.Settles ⟨n⟩ ⟨.link call, (l.answer call).1⟩) (response : Bytes)
    (waits : Table.lookup n (l.answer call).2.pending = some response) :
    ∃ data, call = .write ⟨n⟩ Link.tunnel data ∧ (l.answer (.write ⟨n⟩ Link.tunnel data)).1 = .ok () ∧
      l.Responds ⟨n⟩ data response := by
  have erased : Table.lookup n (Table.erase n l.pending) ≠ some response := by
    rw [Table.lookup_erase, if_pos rfl]
    exact nofun
  cases call with
  | acquire device => cases settles
  | write handle address data =>
      cases answered : (l.answer (.write handle address data)).1 with
      | error fault =>
          rw [answered] at settles
          cases settles
      | ok done =>
          rw [answered] at settles
          obtain rfl : handle = ⟨n⟩ := settles
          obtain ⟨-, -, -, rfl, -⟩ := l.write_accepted _ address data answered
          exact ⟨data, rfl, answered, (l.write_waits unspoilt ⟨n⟩ _ data answered response).mp waits⟩
  | read handle address size =>
      have effect := l.answer_effect (.read handle address size)
      generalize (l.answer (.read handle address size)).1 = answer, (l.answer (.read handle address size)).2 = m
        at effect settles waits
      cases effect with
      | refused => cases settles
      | fetched =>
          obtain rfl : handle = ⟨n⟩ := settles
          exact absurd waits erased
  | release handle =>
      obtain rfl : handle = ⟨n⟩ := settles
      rcases l.release_cases ⟨n⟩ with ⟨unheld, same⟩ | ⟨device, held, same⟩
      · rw [same] at waits
        exact absurd ((account.owned n unheld).symm.trans waits) nofun
      · rw [same] at waits
        exact absurd waits erased

-- The response to the last command that was accepted on a handle, when nothing has settled it since.
def Owes (start : SimulatedLink) (calls : List Link.Call) (handle : Handle) (response : Bytes) : Prop :=
  ∃ early data between, calls = early ++ .write handle Link.tunnel data :: between ∧
    ((start.after early).answer (.write handle Link.tunnel data)).1 = .ok () ∧
    (start.after early).Responds handle data response ∧
    ∀ e ∈ ((start.after early).answer (.write handle Link.tunnel data)).2.history between, ¬ e.Settles handle

theorem owed_waits (start : SimulatedLink) (unspoilt : start.corruptNext = none) (calls : List Link.Call) (n : Nat)
    (response : Bytes) (owes : start.Owes calls ⟨n⟩ response) :
    Table.lookup n (start.after calls).pending = some response := by
  obtain ⟨early, data, between, rfl, accepted, responds, unsettled⟩ := owes
  rw [after_append]
  refine (history_unsettled _ between n unsettled).trans ?_
  exact (write_waits _ (start.after_unspoilt unspoilt early) ⟨n⟩ Link.tunnel data accepted response).mpr responds

theorem waiting_owed (start : SimulatedLink) (reached : start.Reached) (unspoilt : start.corruptNext = none)
    (idle : start.pending = []) (calls : List Link.Call) (n : Nat) (response : Bytes)
    (waits : Table.lookup n (start.after calls).pending = some response) : start.Owes calls ⟨n⟩ response := by
  induction calls using List.reverseRecOn with
  | nil =>
      rw [after, List.foldl_nil, idle] at waits
      cases waits
  | append_singleton calls call ih =>
      rw [after_append] at waits
      by_cases settles : Event.Settles ⟨n⟩ ⟨.link call, ((start.after calls).answer call).1⟩
      · have account := reached_accounted _ (start.after_reached reached calls)
        obtain ⟨data, rfl, accepted, responds⟩ :=
          settled_waits _ account (start.after_unspoilt unspoilt calls) call n settles response waits
        exact ⟨calls, data, [], rfl, accepted, responds, List.forall_mem_nil _⟩
      · have before := effect_unsettled _ _ call _ ((start.after calls).answer_effect call) n settles
        obtain ⟨early, data, between, rfl, accepted, responds, unsettled⟩ := ih (before.symm.trans waits)
        refine ⟨early, data, between ++ [call], by simp, accepted, responds, ?_⟩
        rw [after_append] at settles
        rw [history_append]
        exact List.forall_mem_append.mpr ⟨unsettled, List.forall_mem_singleton.mpr settles⟩

structure GivenBack (l m : SimulatedLink) (n : Nat) : Prop where
  handles : ∀ other, Table.lookup other m.handles = if other = n then none else Table.lookup other l.handles
  pending : ∀ other, Table.lookup other m.pending = if other = n then none else Table.lookup other l.pending
  registers : m.registers = l.registers
  acquired : m.acquired = l.acquired
  released : m.released = l.released + 1

theorem link_in_account (devices : Nat) (scenarios : List Scenario) (calls : List Link.Call) :
    let start := planned devices scenarios
    let l := start.after calls
    l.Accounted ∧
    PulseAnalyzer.acquired (start.history calls) = (List.range' 1 l.acquired).map Handle.mk ∧
    (∀ handle address size bytes, (l.answer (.read handle address size)).1 = .ok bytes ↔
      (l.injection.check "read").1 = .ok () ∧ address = Link.tunnel ∧
        ∃ response, start.Owes calls handle response ∧ bytes = resize response size) ∧
    (∀ call fault, (∀ handle, call ≠ .release handle) → (l.answer call).1 = .error fault →
      l.Undisturbed (l.answer call).2) ∧
    ∀ handle, match Table.lookup handle.number l.handles with
      | none => l.answer (.release handle) = (.error (.status badHandle), l)
      | some _ => (l.answer (.release handle)).1 = (l.injection.check "close").1.mapError .status ∧
          GivenBack l (l.answer (.release handle)).2 handle.number := by
  intro start l
  have reached : start.Reached := .injection _ _ (.make devices)
  have account := reached_accounted l (start.after_reached reached calls)
  refine ⟨account, start.history_acquires reached rfl calls, fun handle address size bytes => ?_, ?_, fun handle => ?_⟩
  · rw [read_accepted]
    constructor
    · rintro ⟨passes, addressed, -, response, waits, cut⟩
      exact ⟨passes, addressed, response, start.waiting_owed reached rfl rfl calls handle.number response waits, cut⟩
    · rintro ⟨passes, addressed, response, owes, cut⟩
      have waits := start.owed_waits rfl calls handle.number response owes
      have held : (Table.lookup handle.number l.handles).isSome := by
        rw [Option.isSome_iff_ne_none]
        exact fun unheld => absurd ((account.owned _ unheld).symm.trans waits) nofun
      exact ⟨passes, addressed, held, response, waits, cut⟩
  · exact fun call fault kept failed => l.failed_undisturbed call fault kept failed
  · rcases l.release_cases handle with ⟨unheld, same⟩ | ⟨device, held, same⟩
    · rw [unheld]
      exact same
    · rw [held, same]
      exact ⟨rfl, fun _ => Table.lookup_erase _ _ _, fun _ => Table.lookup_erase _ _ _, rfl, rfl, rfl⟩

-- The first handle is given back although its release is made to fail; nothing was written to the second.
theorem failing_release_in_account :
    let start := planned 2 [.always "close" (-5)]
    let calls := [.acquire 1, .write ⟨1⟩ Link.tunnel (Frame.encode [0x41, 0, 0]), .acquire 0, .acquire 7]
    let l := start.after calls
    l.Accounted ∧ PulseAnalyzer.acquired (start.history calls) = [⟨1⟩, ⟨2⟩] ∧
    (∃ response, start.Owes calls ⟨1⟩ response ∧ [0x1B, 0x41, 3, 0, 0, 31, 0x50, 0x0D, 0] = resize response 9) ∧
    l.Undisturbed (l.answer (.read ⟨2⟩ Link.tunnel 9)).2 ∧
    (l.answer (.release ⟨1⟩)).1 = .error (.status (-5)) ∧ GivenBack l (l.answer (.release ⟨1⟩)).2 1 := by
  have response : (((planned 2 [.always "close" (-5)]).after
      [.acquire 1, .write ⟨1⟩ Link.tunnel (Frame.encode [0x41, 0, 0]), .acquire 0, .acquire 7]).answer
      (.read ⟨1⟩ Link.tunnel 9)).1 = .ok [0x1B, 0x41, 3, 0, 0, 31, 0x50, 0x0D, 0] := by rfl
  have nothing : (((planned 2 [.always "close" (-5)]).after
      [.acquire 1, .write ⟨1⟩ Link.tunnel (Frame.encode [0x41, 0, 0]), .acquire 0, .acquire 7]).answer
      (.read ⟨2⟩ Link.tunnel 9)).1 = .error (.status noResponse) := by rfl
  intro start calls l
  obtain ⟨account, issued, reads, fails, given⟩ := link_in_account 2 [.always "close" (-5)] calls
  obtain ⟨-, -, owed⟩ := (reads ⟨1⟩ Link.tunnel 9 _).mp response
  exact ⟨account, issued, owed, fails _ _ (fun _ => nofun) nothing, given ⟨1⟩⟩

end SimulatedLink
end PulseAnalyzer
